import Rdma.Host

/-!
# Channels, completion queues and shared receive queues of the software provider
-/

namespace Rdma

/-- A completion queue just created. -/
structure CqGrant where
  native : NativeId
  capacity : UInt32
deriving Repr, DecidableEq

namespace Fabric

/-- The least power of two that is not below `n`. -/
def powerOfTwoAbove (n : Nat) : Nat := if n ≤ 1 then 1 else 1 <<< (Nat.log2 (n - 1) + 1)

/-- Capacity of a queue of at least `depth` entries: the next power of two, at most `limit`. -/
def cqCapacity (depth limit : UInt32) : UInt32 :=
  UInt32.ofNat (min (powerOfTwoAbove depth.toNat) limit.toNat)

/-- The capacity of a completion queue to be created, if it may be. -/
def checkCq (f : Fabric) (context : NativeId) (depth : UInt32) (channel : Option NativeId)
    (vector : Int32) : Except OsError UInt32 := do
  let c ← f.context context
  if depth = 0 || depth > c.config.maxCqe then throw .invalid
  if vector < 0 || vector.toInt ≥ c.config.completionVectors.toNat then throw .invalid
  if let some channel := channel then
    if (f.channels.find? channel).map (·.context) ≠ some context then throw .invalid
  if f.cqs.count (·.context = context) ≥ c.config.maxCq.toNat then throw .noMemory
  pure (cqCapacity depth c.config.maxCqe)

/-- How many shared receive queues there are in all protection domains of the context of `pd`. -/
def srqsInContextOf (f : Fabric) (pd : NativeId) : Nat :=
  f.srqs.count fun s => f.sameContext pd s.pd

/-- May a shared receive queue be created? -/
def checkSrq (f : Fabric) (pd : NativeId) (init : SrqInit) : Except OsError Unit := do
  let c ← f.contextOfPd pd
  if init.maxWr = 0 || init.maxWr > c.config.maxSrqWr then throw .invalid
  if init.maxSge = 0 || init.maxSge > c.config.maxSge then throw .invalid
  if f.srqsInContextOf pd ≥ c.config.maxSrq.toNat then throw .noMemory

/-- May a completion queue be destroyed? Not while it has events to be acknowledged, nor while a
queue pair completes into it. -/
def checkCqUnused (f : Fabric) (id : NativeId) : Except OsError CompletionQueue :=
  match f.cqs.find? id with
  | none => .error .invalid
  | some q =>
    if q.unacknowledged > 0 then .error .busy
    else if f.qps.values.any fun qp => qp.sendCq = id || qp.recvCq = id then .error .busy
    else .ok q

end Fabric

namespace Host

/-! ## Channels -/

def createChannel (context : NativeId) : Native NativeId :=
  .guarded
    (fun h => do
      let _ ← h.fabric.context context
      if !h.descriptorsLeft then throw (.code .tooManyFiles))
    fun _ h =>
      let (id, f) := h.fabric.allocId
      (id, { h with fabric := { f with channels := f.channels.insert id { context } } })

/-- Destroy a channel that no completion queue reports to. -/
def destroyChannel (id : NativeId) : Native Unit :=
  .guarded
    (fun h => do
      if !h.fabric.channels.contains id then throw .invalid
      if h.fabric.cqs.values.any (·.channel = some id) then throw .busy)
    fun _ h => ((), { h with fabric := { h.fabric with channels := h.fabric.channels.erase id } })

/-- The descriptor of a channel. -/
def channelDescriptor (id : NativeId) : Native Descriptor :=
  .read fun h =>
    match h.fabric.channels.find? id with
    | some c => .ok c.descriptor
    | none => .error .invalid

/-- Change the descriptor of a channel behind the provider's back. -/
def setDescriptor (id : NativeId) (descriptor : Descriptor) (h : Host) : Host :=
  { h with fabric := h.fabric.updateChannel id fun c => { c with descriptor } }

/-- Fetch the next event of a channel: take a token from its descriptor, then the oldest event. A
token without an event is lost, and "try again" reported. -/
def getCqEvent (id : NativeId) : Native CqEvent := fun h =>
  match h.fabric.channels.find? id with
  | none => (.error .invalid, h)
  | some c =>
    match c.descriptor.take with
    | .error cause => (.error cause, h)
    | .ok descriptor =>
      match c.pending with
      | [] => (.error (.code .again), h.setDescriptor id descriptor)
      | event :: rest =>
        let h := { h with
          fabric := h.fabric.updateChannel id fun c => { c with descriptor, pending := rest } }
        let h := h.updateCq event.cq fun q => { q with unacknowledged := q.unacknowledged + 1 }
        (.ok event, h.note (.eventFetched id event))

/-! ## Completion queues -/

def createCq (context : NativeId) (depth : UInt32) (channel : Option NativeId) (cookie : UInt64)
    (vector : Int32) : Native CqGrant :=
  .guarded (fun h => h.fabric.checkCq context depth channel vector)
    fun capacity h =>
      let (id, f) := h.fabric.allocId
      ({ native := id, capacity },
        { h with
          fabric := { f with cqs := f.cqs.insert id { context, channel, cookie, capacity } } })

/-- Take `n` tokens from a channel's descriptor, one by one. An empty descriptor ends it, and so
does one that cannot be read. -/
def drainTokens (channel : NativeId) : Nat → Host → Host
  | 0, h => h
  | n + 1, h =>
    match h.fabric.channels.find? channel with
    | none => h
    | some c =>
      if !c.descriptor.readable then h
      else
        match c.descriptor.take with
        | .ok descriptor => drainTokens channel n (h.setDescriptor channel descriptor)
        | .error cause => h.note (.drainFailed cause)

/-- Drop the events of a completion queue that nobody fetched, and as many tokens with them, so that
the channel does not stay readable with nothing to fetch. -/
def dropEvents (channel cq : NativeId) (h : Host) : Host :=
  match h.fabric.channels.find? channel with
  | none => h
  | some c =>
    let kept := c.pending.filter (·.cq ≠ cq)
    drainTokens channel (c.pending.length - kept.length)
      { h with fabric := h.fabric.updateChannel channel fun c => { c with pending := kept } }

def destroyCq (id : NativeId) : Native Unit :=
  .guarded (fun h => h.fabric.checkCqUnused id)
    fun q h =>
      let h :=
        match q.channel with
        | some channel => h.dropEvents channel id
        | none => h
      ((), { h with fabric := { h.fabric with cqs := h.fabric.cqs.erase id } })

/-- Take at most `n` completions. A queue that lost one yields none any more. -/
def pollCq (id : NativeId) (n : Nat) : Native (List Completion) :=
  .guarded
    (fun h =>
      match h.fabric.cqs.find? id with
      | none => .error .invalid
      | some q => if q.overflowed then .error (.code .overflow) else .ok (q.entries.take n))
    fun taken h =>
      (taken, (h.updateCq id fun q => { q with entries := q.entries.drop n }).note
        (.polled id taken))

/-- Arm a completion queue. Armed for all completions, it is not narrowed to solicited ones. -/
def reqNotifyCq (id : NativeId) (solicitedOnly : Bool) : Native Unit :=
  .guarded
    (fun h =>
      match h.fabric.cqs.find? id with
      | none => .error .invalid
      | some q => if q.channel.isNone then .error .invalid else .ok ())
    fun _ h =>
      ((), (h.updateCq id fun q =>
        { q with armed := some (q.armed ≠ some false && solicitedOnly) }).note
          (.armed id solicitedOnly))

/-- Acknowledge `n` fetched events, or as many as there are. -/
def ackCqEvents (id : NativeId) (n : UInt32) (h : Host) : Host :=
  h.updateCq id fun q => { q with unacknowledged := q.unacknowledged - min n q.unacknowledged }

/-! ## Shared receive queues -/

def createSrq (pd : NativeId) (init : SrqInit) : Native NativeId :=
  .guarded (fun h => h.fabric.checkSrq pd init)
    fun _ h =>
      let (id, f) := h.fabric.allocId
      (id, { h with
        fabric := { f with
          srqs := f.srqs.insert id { pd, maxWr := init.maxWr, maxSge := init.maxSge } } })

/-- Destroy a shared receive queue that no queue pair takes from. -/
def destroySrq (id : NativeId) : Native Unit :=
  .guarded
    (fun h => do
      if !h.fabric.srqs.contains id then throw .invalid
      if h.fabric.qps.values.any (·.srq = some id) then throw .busy)
    fun _ h => ((), { h with fabric := { h.fabric with srqs := h.fabric.srqs.erase id } })

end Host

end Rdma
