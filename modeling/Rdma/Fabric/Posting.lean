import Rdma.Fabric.Engine

/-!
# Posting requests

A list of requests is accepted one by one until one is refused. Those before it are posted all the
same, and the refusal carries the index of the refused one.
-/

namespace Rdma

/-- Accept requests until one is refused, the first at position `index`. -/
def accept {α β : Type} (check : Nat → α → Except OsError β) (index : Nat) :
    List α → List β × Option Rejection
  | [] => ([], none)
  | a :: rest =>
    match check index a with
    | .error cause => ([], some { index, cause })
    | .ok b =>
      let (accepted, rejection) := accept check (index + 1) rest
      (b :: accepted, rejection)

/-- The answer to a post. -/
def Rejection.answer : Option Rejection → Except Rejection Unit
  | none => .ok ()
  | some rejection => .error rejection

namespace Fabric

/-- The payload of an inline request, taken when it is posted. Keys are not looked at, but each
entry that is not empty must lie within one region of the protection domain. -/
def captureInline (f : Fabric) (m : Memory) (pd : NativeId) (limit : UInt32)
    (request : SendRequest) : Option (List UInt8) :=
  let registered (sge : Sge) : Bool :=
    f.regions.values.any fun r => r.pd = pd && r.covers sge.addr sge.length.toNat
  if request.opcode.writesLocal then none
  else if limit.toNat < request.totalLength then none
  else if request.sges.all fun sge => sge.length = 0 || registered sge then
    some (Host.gatherBytes m request.sges)
  else none

/-- Accept a request to a send queue that holds `queued` requests. -/
def acceptSend (f : Fabric) (m : Memory) (qp : QueuePair) (queued : Nat) (request : SendRequest) :
    Except OsError PendingSend := do
  if qp.caps.maxSendSge.toNat < request.sges.length then throw .invalid
  let inlined ←
    if request.isInline then
      match f.captureInline m qp.pd qp.caps.maxInlineData request with
      | some data => pure (some data)
      | none => throw .invalid
    else pure none
  if qp.caps.maxSendWr.toNat ≤ queued then throw .noMemory
  pure { request, inlined }

/-- Accept a request to a receive queue that holds `queued` requests. -/
def acceptRecv (maxWr maxSge : UInt32) (queued : Nat) (request : RecvRequest) :
    Except OsError RecvRequest := do
  if maxSge.toNat < request.sges.length then throw .invalid
  if maxWr.toNat ≤ queued then throw .noMemory
  pure request

end Fabric

namespace Host

private def refuse (cause : OsError) : Rejection := { index := 0, cause }

/-- Post to a send queue, then run it. A queue pair in the error state flushes the requests at once.
-/
def postSend (id : NativeId) (requests : List SendRequest) : Posting := fun h =>
  match h.fabric.qps.find? id with
  | none => (.error (refuse .invalid), h)
  | some qp =>
    if qp.state = .rts || qp.state = .sqd || qp.state = .error then
      let check (index : Nat) (request : SendRequest) :=
        h.fabric.acceptSend h.memory qp (qp.sendQueue.length + index) request
      let (accepted, rejection) := accept check 0 requests
      let h := h.updateQp id fun q => { q with sendQueue := q.sendQueue ++ accepted }
      let h := accepted.foldl (fun h s => h.note (.sendAccepted id s.request)) h
      let h := if qp.state = .error then h.flush id else h
      (Rejection.answer rejection, h.progress)
    else (.error (refuse .invalid), h)

/-- Post to a queue pair's own receive queue, then run what waited for a receive request. -/
def postRecv (id : NativeId) (requests : List RecvRequest) : Posting := fun h =>
  match h.fabric.qps.find? id with
  | none => (.error (refuse .invalid), h)
  | some qp =>
    if qp.state = .reset || qp.srq.isSome then (.error (refuse .invalid), h)
    else
      let check (index : Nat) (request : RecvRequest) :=
        Fabric.acceptRecv qp.caps.maxRecvWr qp.caps.maxRecvSge (qp.recvQueue.length + index) request
      let (accepted, rejection) := accept check 0 requests
      let h := h.updateQp id fun q => { q with recvQueue := q.recvQueue ++ accepted }
      let h := accepted.foldl (fun h r => h.note (.recvAccepted (.ofQp id) r)) h
      let h := if qp.state = .error then h.flush id else h
      (Rejection.answer rejection, h.progress)

/-- Post to a shared receive queue, then run what waited for a receive request. -/
def postSrqRecv (id : NativeId) (requests : List RecvRequest) : Posting := fun h =>
  match h.fabric.srqs.find? id with
  | none => (.error (refuse .invalid), h)
  | some srq =>
    let check (index : Nat) (request : RecvRequest) :=
      Fabric.acceptRecv srq.maxWr srq.maxSge (srq.queue.length + index) request
    let (accepted, rejection) := accept check 0 requests
    let h := { h with
      fabric := { h.fabric with
        srqs := h.fabric.srqs.modify id fun s => { s with queue := s.queue ++ accepted } } }
    let h := accepted.foldl (fun h r => h.note (.recvAccepted (.shared id) r)) h
    (Rejection.answer rejection, h.progress)

end Host

end Rdma
