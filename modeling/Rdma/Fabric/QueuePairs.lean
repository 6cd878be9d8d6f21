import Rdma.Fabric.Engine

/-!
# Queue pairs of the software provider
-/

namespace Rdma

/-- Creation attributes of a queue pair in native identities. -/
structure NativeQpInit where
  sendCq : NativeId
  recvCq : NativeId
  srq : Option NativeId
  transport : Transport
  signalAll : Bool
  caps : QpCaps
deriving Repr, DecidableEq

/-- A queue pair just created. -/
structure QpGrant where
  native : NativeId
  number : UInt32
deriving Repr, DecidableEq

namespace Fabric

/-- Are the capacities asked for within the device's limits? Those of a receive queue count only for
a queue pair that has one of its own. -/
def capsAccepted (d : DeviceConfig) (init : NativeQpInit) : Bool :=
  let caps := init.caps
  caps.maxSendWr ≠ 0 && caps.maxSendWr ≤ d.maxQpWr && caps.maxSendSge ≤ d.maxSge &&
    caps.maxInlineData ≤ d.maxInlineData &&
    (init.srq.isSome ||
      (caps.maxRecvWr > 0 && caps.maxRecvWr ≤ d.maxQpWr && caps.maxRecvSge ≤ d.maxSge))

/-- Does the shared receive queue belong to the context of `pd`? -/
def srqInContextOf (f : Fabric) (pd srq : NativeId) : Bool :=
  match (f.srqs.find? srq).bind fun s => f.contextOfPd? s.pd with
  | some context => f.contextOfPd? pd = some context
  | none => false

/-- Does the completion queue belong to the context of `pd`? -/
def cqInContextOf (f : Fabric) (pd cq : NativeId) : Bool :=
  (f.cqs.find? cq).map (·.context) = f.contextOfPd? pd

/-- How many queue pairs there are in all protection domains of the context of `pd`. -/
def qpsInContextOf (f : Fabric) (pd : NativeId) : Nat := f.qps.count fun q => f.sameContext pd q.pd

/-- May a queue pair be created? -/
def checkQp (f : Fabric) (pd : NativeId) (init : NativeQpInit) : Except OsError Unit := do
  let c ← f.contextOfPd pd
  if !f.cqInContextOf pd init.sendCq || !f.cqInContextOf pd init.recvCq then throw .invalid
  if !init.srq.all (f.srqInContextOf pd) then throw .invalid
  if !capsAccepted c.config init then throw .invalid
  if f.qpsInContextOf pd ≥ c.config.maxQp.toNat then throw .noMemory

/-- May a queue pair go from one state to another? Leaving reset needs a port, and becoming ready to
receive a destination. Reset and error are always open. -/
def legalTransition (mask : QpMask) : QpState → QpState → Bool
  | _, .reset | _, .error => true
  | .reset, .init => mask.contains .port
  | .init, .init => true
  | .init, .rtr => mask.contains .destination
  | .rtr, .rts | .rts, .rts | .rts, .sqd | .sqd, .sqd | .sqd, .rts | .sqe, .rts => true
  | _, _ => false

/-- The state a modification leads to. Without a state in the mask it is the current one, which the
caller may have to know. -/
def targetState (qp : QueuePair) (attributes : QpAttributes) (mask : QpMask) :
    Except OsError QpState := do
  let target ←
    if mask.contains .state then
      match QpState.ofCode? attributes.state with
      | some target => pure target
      | none => throw .invalid
    else pure qp.state
  if mask.contains .currentState && attributes.currentState ≠ qp.state.code then throw .invalid
  pure target

/-- Are the attributes that the mask selects valid on a device? -/
def checkAttributes (d : DeviceConfig) (attributes : QpAttributes) (mask : QpMask) :
    Except OsError Unit := do
  if mask.contains .port && !d.hasPort attributes.port then throw .invalid
  if mask.contains .accessFlags && (Permission.mk attributes.accessFlags).hasUnknownBits then
    throw .invalid
  if mask.contains .pathMtu then
    match Mtu.ofCode? attributes.pathMtu with
    | some mtu => if mtu.code > d.portMtu.code then throw .invalid
    | none => throw .invalid

/-- A queue pair with the selected attributes applied, in the target state. -/
def QueuePair.modified (qp : QueuePair) (attributes : QpAttributes) (mask : QpMask)
    (target : QpState) : QueuePair :=
  { qp with
    access := if mask.contains .accessFlags then ⟨attributes.accessFlags⟩ else qp.access
    destination :=
      if mask.contains .destination then some attributes.destination else qp.destination
    state := target }

/-- A queue pair back in its first state. -/
def QueuePair.cleared (qp : QueuePair) : QueuePair :=
  { qp with
    state := .reset, sendQueue := [], recvQueue := [], destination := none, access := .none }

end Fabric

namespace Host

/-- The answer in place of a search that would not end, for every queue pair number is taken. -/
def numbersTaken : OsError := .custom "every queue pair number is taken"

def createQp (pd : NativeId) (init : NativeQpInit) : Native QpGrant :=
  .guarded
    (fun h => do
      h.fabric.checkQp pd init
      match h.fabric.allocQpNumber? with
      | some grant => pure grant
      | none => throw numbersTaken)
    fun (number, f) h =>
      let (id, f) := f.allocId
      let qp : Fabric.QueuePair :=
        { pd, number, transport := init.transport, sendCq := init.sendCq, recvCq := init.recvCq,
          srq := init.srq, signalAll := init.signalAll, caps := init.caps }
      ({ native := id, number },
        { h with
          fabric := { f with
            qps := f.qps.insert id qp
            qpNumbers := f.qpNumbers.insert number id } })

/-- Enter a state whose transition was found legal. -/
def enterState (h : Host) (id : NativeId) (source target : QpState) : Host :=
  match target with
  | .reset => (h.updateQp id (·.cleared)).note (.queuesCleared id)
  | .error => if source = .error then h else h.enterError id
  | _ => h

/-- Apply the selected attributes, possibly changing the state, then run what became runnable. -/
def modifyQp (id : NativeId) (attributes : QpAttributes) (mask : QpMask) : Native Unit := fun h =>
  match h.fabric.qps.find? id with
  | none => (.error .invalid, h)
  | some qp =>
    let target : Except OsError (DeviceConfig × QpState) := do
      let c ← h.fabric.contextOfPd qp.pd
      pure (c.config, ← Fabric.targetState qp attributes mask)
    match target with
    | .error cause => (.error cause, h)
    | .ok (device, target) =>
      if !Fabric.legalTransition mask qp.state target then
        (.error .invalid, h.note (.illegalTransition qp.state target))
      else
        match Fabric.checkAttributes device attributes mask with
        | .error cause => (.error cause, h)
        | .ok () =>
          let h := h.updateQp id (·.modified attributes mask target)
          (.ok (), (h.enterState id qp.state target).progress)

def queryQpState (id : NativeId) : Native QpState :=
  .read fun h =>
    match h.fabric.qps.find? id with
    | some qp => .ok qp.state
    | none => .error .invalid

/-- Destroy a queue pair. Requests that waited for it go on to fail. -/
def destroyQp (id : NativeId) : Native Unit :=
  .guarded
    (fun h =>
      match h.fabric.qps.find? id with
      | some qp => .ok qp
      | none => .error .invalid)
    fun qp h =>
      let f := h.fabric
      let h := { h with
        fabric := { f with qps := f.qps.erase id, qpNumbers := f.qpNumbers.erase qp.number } }
      ((), (h.note (.queuesCleared id)).progress)

end Host

end Rdma
