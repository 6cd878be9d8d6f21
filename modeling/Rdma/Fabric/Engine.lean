import Rdma.Fabric.Complete

/-!
# The engine

The engine executes send requests after every verb that can unblock a send queue. A pass walks the
queue pairs that may send in the order of their numbers, and executes requests from the head of each
queue until one blocks. A request blocks only when it needs a receive request that its reliable peer
has not posted; it then stays at the head of its queue. Passes go on until one moves nothing.

Every consumed request shortens a send queue and nothing here lengthens one, so the number of queued
requests bounds both loops.
-/

namespace Rdma

open Fabric (QueuePair PendingSend)

/-- The longest message the fabric carries. -/
def maxMessageSize : Nat := 0x80000000

/-- What became of the request at the head of a send queue. -/
inductive SendOutcome where
  /-- It finished; the completion carries this many bytes. -/
  | done (byteLength : UInt32)
  /-- Its reliable peer has no receive request for it. -/
  | blocked
  | failed (status : CompletionStatus)
deriving Repr, DecidableEq

/-- What the sender sees when its peer cannot take a request: a reliable sender blocks or fails, an
unreliable one does not notice. -/
def SendOutcome.lost (transport : Transport) (length : UInt32) (ifReliable : SendOutcome) :
    SendOutcome :=
  match transport with
  | .reliable => ifReliable
  | .unreliable => .done length

/-- The completion opcode of a send request. -/
def SendOpcode.completionOpcode : SendOpcode → CompletionOpcode
  | .send | .sendWithImm => .send
  | .write | .writeWithImm => .write
  | .read => .read
  | .compareSwap => .compareSwap
  | .fetchAdd => .fetchAdd

namespace Host

/-! ## Completing requests -/

/-- The completion of a send request of a queue pair. -/
def sendCompletion (number : UInt32) (request : SendRequest) (status : CompletionStatus)
    (byteLength : UInt32) : Completion :=
  { wrId := request.wrId, status := status.code, opcode := request.opcode.completionOpcode.code,
    qpNumber := number, byteLength }

/-- Complete every queued request of a queue pair as flushed, the send queue first. Requests of a
shared receive queue stay where they are. -/
def flush (h : Host) (id : NativeId) : Host :=
  match h.fabric.qps.find? id with
  | none => h
  | some qp =>
    let h := h.updateQp id fun q => { q with sendQueue := [], recvQueue := [] }
    let h := qp.sendQueue.foldl
      (fun h s =>
        (h.note (.sendRetired id s.request .flushed)).complete qp.sendCq
          (sendCompletion qp.number s.request .flushed 0) false) h
    qp.recvQueue.foldl
      (fun h r =>
        (h.note (.recvFlushed id r)).complete qp.recvCq
          { wrId := r.wrId, status := CompletionStatus.flushed.code,
            opcode := CompletionOpcode.recv.code, qpNumber := qp.number } false) h

/-- Put a queue pair into the error state and flush it. -/
def enterError (h : Host) (id : NativeId) : Host :=
  match h.fabric.qps.find? id with
  | none => h
  | some qp =>
    let h := if qp.state = .error then h else h.note (.enteredError qp.number)
    (h.updateQp id fun q => { q with state := .error }).flush id

/-- Complete a receive request at a queue pair. A failed receive puts it into the error state. -/
def completeRecv (h : Host) (id : NativeId) (c : Completion) (solicited : Bool) : Host :=
  match h.fabric.qps.find? id with
  | none => h
  | some qp =>
    let h := h.complete qp.recvCq { c with qpNumber := qp.number } solicited
    if c.failed then h.enterError id else h

/-- Take the first receive request that a queue pair can use. -/
def takeRecv (h : Host) (id : NativeId) (qp : QueuePair) : Option (RecvRequest × Host) :=
  let queue := Fabric.recvQueueOf id qp
  match h.fabric.recvRequests queue with
  | [] => none
  | request :: rest =>
    some (request,
      { h with fabric := h.fabric.setRecvRequests rest queue }.note (.recvTaken queue id request))

/-! ## Moving data -/

/-- The bytes that a list of entries describes, in order. -/
def gatherBytes (m : Memory) (sges : List Sge) : List UInt8 :=
  sges.flatMap fun sge => m.readBytes sge.addr sge.length.toNat

/-- The payload of a queued send request. -/
def payload (m : Memory) (pending : PendingSend) : List UInt8 :=
  match pending.inlined with
  | some data => data
  | none => gatherBytes m pending.request.sges

/-- Spread data over a list of entries, filling each before the next. -/
def scatterBytes (m : Memory) : List Sge → List UInt8 → Memory
  | [], _ => m
  | sge :: rest, data =>
    scatterBytes (m.writeBytes sge.addr (data.take sge.length.toNat)) rest
      (data.drop sge.length.toNat)

/-! ## Executing requests -/

/-- May data be written to an entry on behalf of a protection domain? -/
def writable (f : Fabric) (pd : NativeId) (sge : Sge) : Bool :=
  (f.localRegion? pd sge).any (·.permission.contains .localWrite)

/-- Does the peer grant a right, both on itself and on the region that holds the target range? -/
def grants (f : Fabric) (peer : QueuePair) (right : Permission) (target : RemoteAddress)
    (length : Nat) : Bool :=
  peer.access.contains right &&
    (f.remoteRegion? peer.pd target length).any (·.permission.contains right)

/-- Two-sided send: the peer's next receive request takes the payload. -/
def deliver (h : Host) (qp : QueuePair) (peerId : NativeId) (peer : QueuePair)
    (pending : PendingSend) (length : UInt32) : SendOutcome × Host :=
  match h.takeRecv peerId peer with
  | none => (.lost qp.transport length .blocked, h)
  | some (recv, h) =>
    match h.fabric.qps.find? peerId with
    | none => (.failed .fatal, h)
    | some peer =>
      let base : Completion :=
        { wrId := recv.wrId, opcode := CompletionOpcode.recv.code, sourceQp := qp.number }
      if !recv.sges.all (writable h.fabric peer.pd) then
        (.lost qp.transport length (.failed .remoteOperation),
          h.completeRecv peerId { base with status := CompletionStatus.localProtection.code } false)
      else if recv.totalLength < length.toNat then
        (.lost qp.transport length (.failed .remoteInvalidRequest),
          h.completeRecv peerId { base with status := CompletionStatus.localLength.code } false)
      else
        let h := { h with memory := scatterBytes h.memory recv.sges (payload h.memory pending) }
        let done : Completion := { base with byteLength := length }
        let done :=
          if pending.request.opcode.hasImm then
            { done with imm := pending.request.imm, flags := Completion.withImm }
          else done
        (.done length,
          h.completeRecv peerId done (pending.request.flags.contains .solicited))

/-- Remote write, which uses up a receive request at the peer if it carries immediate data. -/
def remoteWrite (h : Host) (qp : QueuePair) (peerId : NativeId) (peer : QueuePair)
    (pending : PendingSend) (length : UInt32) : SendOutcome × Host :=
  let request := pending.request
  let store (h : Host) : Host :=
    { h with memory := h.memory.writeBytes request.remote.addr (payload h.memory pending) }
  if !grants h.fabric peer .remoteWrite request.remote length.toNat then
    (.lost qp.transport length (.failed .remoteAccess), h)
  else if request.opcode.consumesRecv then
    match h.takeRecv peerId peer with
    | none => (.lost qp.transport length .blocked, h)
    | some (recv, h) =>
      (.done length,
        (store h).completeRecv peerId
          { wrId := recv.wrId, opcode := CompletionOpcode.recvWriteWithImm.code,
            byteLength := length, imm := request.imm, sourceQp := qp.number,
            flags := Completion.withImm }
          (request.flags.contains .solicited))
  else (.done length, store h)

/-- Remote read into the request's own entries. -/
def remoteRead (h : Host) (peer : QueuePair) (request : SendRequest) (length : UInt32) :
    SendOutcome × Host :=
  if grants h.fabric peer .remoteRead request.remote length.toNat then
    let data := h.memory.readBytes request.remote.addr length.toNat
    (.done length, { h with memory := scatterBytes h.memory request.sges data })
  else (.failed .remoteAccess, h)

/-- The word that an atomic operation leaves where it found `old`. -/
def atomicResult (request : SendRequest) (old : UInt64) : UInt64 :=
  if request.opcode = .compareSwap then
    if old = request.compareAdd then request.swap else old
  else old + request.compareAdd

/-- Atomic operation on an aligned word of the peer. The word found there goes to the one local
entry. -/
def remoteAtomic (h : Host) (peer : QueuePair) (request : SendRequest) : SendOutcome × Host :=
  match request.sges with
  | [sge] =>
    if sge.length ≠ 8 then (.failed .localLength, h)
    else if request.remote.addr % 8 ≠ 0 then (.failed .remoteInvalidRequest, h)
    else if !grants h.fabric peer .remoteAtomic request.remote 8 then (.failed .remoteAccess, h)
    else
      let old := h.memory.readWord request.remote.addr
      let m := h.memory.writeWord request.remote.addr (atomicResult request old)
      (.done 8, { h with memory := m.writeWord sge.addr old })
  | _ => (.failed .localLength, h)

/-- Are the local entries of a queued request usable? Those of an inline request were checked when
it was posted. -/
def localEntriesUsable (f : Fabric) (qp : QueuePair) (pending : PendingSend) : Bool :=
  pending.inlined.isSome ||
    pending.request.sges.all fun sge =>
      (f.localRegion? qp.pd sge).any fun r =>
        !pending.request.opcode.writesLocal || r.permission.contains .localWrite

/-- Length of a queued request's payload. -/
def payloadLength (pending : PendingSend) : Nat :=
  match pending.inlined with
  | some data => data.length
  | none => pending.request.totalLength

/-- Can a queue pair take requests from `qp`? It must be ready and of the same transport, and a
reliable one connected back. -/
def accepts (peer qp : QueuePair) : Bool :=
  (peer.state = .rtr || peer.state = .rts) && peer.transport = qp.transport &&
    (qp.transport = .unreliable || peer.destination = some qp.number)

/-- The peer that a queue pair's requests go to. -/
def peerOf? (f : Fabric) (qp : QueuePair) : Option (NativeId × QueuePair) := do
  let number ← qp.destination
  let id ← f.qpByNumber? number
  let peer ← f.qps.find? id
  if accepts peer qp then some (id, peer) else none

/-- Execute one send request of a queue pair. -/
def executeFor (h : Host) (qp : QueuePair) (pending : PendingSend) : SendOutcome × Host :=
  let request := pending.request
  if qp.transport = .unreliable && request.opcode.writesLocal then (.failed .localQpOperation, h)
  else if !localEntriesUsable h.fabric qp pending then (.failed .localProtection, h)
  else if maxMessageSize < payloadLength pending then (.failed .localLength, h)
  else
    let length := UInt32.ofNat (payloadLength pending)
    match peerOf? h.fabric qp with
    | none => (.lost qp.transport length (.failed .retryExceeded), h)
    | some (peerId, peer) =>
      match request.opcode with
      | .send | .sendWithImm => h.deliver qp peerId peer pending length
      | .write | .writeWithImm => h.remoteWrite qp peerId peer pending length
      | .read => h.remoteRead peer request length
      | .compareSwap | .fetchAdd => h.remoteAtomic peer request

/-- Execute one send request of the queue pair of an identity. -/
def execute (h : Host) (id : NativeId) (pending : PendingSend) : SendOutcome × Host :=
  match h.fabric.qps.find? id with
  | none => (.failed .fatal, h)
  | some qp => h.executeFor qp pending

/-- What follows from the outcome of the request that was at the head of a send queue: it goes back
there if it blocked, and is completed if it failed or the sender wants to know. Tells whether it was
consumed. -/
def conclude (h : Host) (id : NativeId) (qp : QueuePair) (pending : PendingSend) :
    SendOutcome → Bool × Host
  | .blocked => (false, h.updateQp id fun q => { q with sendQueue := pending :: q.sendQueue })
  | .done byteLength =>
    let request := pending.request
    let h := h.note (.sendRetired id request .success)
    (true,
      if qp.signalAll || request.flags.contains .signaled then
        h.complete qp.sendCq (sendCompletion qp.number request .success byteLength) false
      else h)
  | .failed status =>
    let request := pending.request
    let h := h.note (.requestFailed qp.number request.wrId status)
    let h := h.note (.sendRetired id request status)
    let h := h.complete qp.sendCq (sendCompletion qp.number request status 0) false
    (true, h.enterError id)

/-- Execute the head of a send queue, and tell whether it was consumed. The request is off the queue
while it is executed. -/
def step (h : Host) (id : NativeId) : Bool × Host :=
  match h.fabric.qps.find? id with
  | none => (false, h)
  | some qp =>
    if qp.state ≠ .rts then (false, h)
    else
      match qp.sendQueue with
      | [] => (false, h)
      | pending :: rest =>
        let (outcome, h) := (h.updateQp id fun q => { q with sendQueue := rest }).execute id pending
        match h.fabric.qps.find? id with
        | none => (false, h)
        | some qp => h.conclude id qp pending outcome

/-! ## Running -/

/-- Execute at most `n` requests of one queue pair, as long as they are consumed. -/
def drainUpTo : Nat → Host → NativeId → Bool × Host
  | 0, h, _ => (false, h)
  | n + 1, h, id =>
    match h.step id with
    | (true, h) => (true, (drainUpTo n h id).2)
    | (false, h) => (false, h)

/-- How many requests wait in the send queue of a queue pair. -/
def queuedSends (h : Host) (id : NativeId) : Nat :=
  ((h.fabric.qps.find? id).map (·.sendQueue.length)).getD 0

/-- Execute the requests of one queue pair until its queue is empty or its head blocks, and tell
whether any was consumed. -/
def drain (h : Host) (id : NativeId) : Bool × Host := drainUpTo (h.queuedSends id) h id

private def insertByNumber (entry : UInt32 × NativeId) :
    List (UInt32 × NativeId) → List (UInt32 × NativeId)
  | [] => [entry]
  | head :: rest =>
    if entry.1 < head.1 || (entry.1 = head.1 && entry.2 ≤ head.2) then entry :: head :: rest
    else head :: insertByNumber entry rest

/-- The queue pairs with something to send, in the order of their numbers. -/
def runnable (h : Host) : List NativeId :=
  let waiting := h.fabric.qps.entries.filter fun e =>
    e.2.state = .rts && !e.2.sendQueue.isEmpty
  ((waiting.map fun e => (e.2.number, e.1)).foldr insertByNumber []).map (·.2)

private theorem mem_insertByNumber {entry x : UInt32 × NativeId} {l : List (UInt32 × NativeId)} :
    x ∈ insertByNumber entry l ↔ x = entry ∨ x ∈ l := by
  induction l with
  | nil => simp [insertByNumber]
  | cons head rest ih =>
    simp only [insertByNumber]
    split
    · exact List.mem_cons
    · simp only [List.mem_cons, ih]
      exact or_left_comm

theorem mem_runnable {h : Host} {id : NativeId} :
    id ∈ h.runnable ↔
      ∃ q, h.fabric.qps.find? id = some q ∧ q.state = .rts ∧ q.sendQueue ≠ [] := by
  have sorted (l : List (UInt32 × NativeId)) (x : UInt32 × NativeId) :
      x ∈ l.foldr insertByNumber [] ↔ x ∈ l := by
    induction l with
    | nil => simp
    | cons head rest ih => simp [mem_insertByNumber, ih]
  simp only [runnable, List.mem_map, sorted, List.mem_filter, Table.mem_entries, Prod.exists]
  grind

private theorem insertByNumber_map {move : NativeId → NativeId}
    (ordered : ∀ a b, move a ≤ move b ↔ a ≤ b) (entry : UInt32 × NativeId)
    (l : List (UInt32 × NativeId)) :
    insertByNumber (entry.1, move entry.2) (l.map fun e => (e.1, move e.2)) =
      (insertByNumber entry l).map fun e => (e.1, move e.2) := by
  induction l with
  | nil => rfl
  | cons head rest ih =>
    simp only [insertByNumber, List.map_cons, ordered, ih]
    split <;> rfl

/-- Under identities in the same order, the queue pairs come in the same order. -/
theorem runnable_map {h k : Host} {move : NativeId → NativeId} {rename : QueuePair → QueuePair}
    (ordered : ∀ a b, move a ≤ move b ↔ a ≤ b)
    (renamed : k.fabric.qps.entries = h.fabric.qps.entries.map fun e => (move e.1, rename e.2))
    (same : ∀ q, (rename q).number = q.number ∧ (rename q).state = q.state ∧
      (rename q).sendQueue = q.sendQueue) :
    k.runnable = h.runnable.map move := by
  have sorted (l : List (UInt32 × NativeId)) :
      (l.map fun e => (e.1, move e.2)).foldr insertByNumber [] =
        (l.foldr insertByNumber []).map fun e => (e.1, move e.2) := by
    induction l with
    | nil => rfl
    | cons head rest ih =>
      simp only [List.map_cons, List.foldr_cons, ih, insertByNumber_map ordered]
  have waiting (l : List (NativeId × QueuePair)) :
      ((l.map fun e => (move e.1, rename e.2)).filter fun e =>
          e.2.state = .rts && !e.2.sendQueue.isEmpty).map (fun e => (e.2.number, e.1)) =
        ((l.filter fun e => e.2.state = .rts && !e.2.sendQueue.isEmpty).map
          fun e => (e.2.number, e.1)).map fun e => (e.1, move e.2) := by
    simp only [List.filter_map, List.map_map, Function.comp_def, same]
  simp only [runnable, renamed]
  rw [waiting, sorted, List.map_map, List.map_map]
  rfl

/-- Drain each queue pair that has something to send now, and tell whether anything moved. -/
def pass (h : Host) : Bool × Host :=
  h.runnable.foldl
    (fun (moved, h) id => let (moved', h) := h.drain id; (moved || moved', h)) (false, h)

def progressUpTo : Nat → Host → Host
  | 0, h => h
  | n + 1, h =>
    match h.pass with
    | (true, h) => progressUpTo n h
    | (false, h) => h

/-- How many requests wait in all send queues. -/
def totalQueuedSends (h : Host) : Nat := h.fabric.qps.total (·.sendQueue.length)

/-- Run every send queue until nothing moves. -/
def progress (h : Host) : Host := progressUpTo h.totalQueuedSends h

end Host

end Rdma
