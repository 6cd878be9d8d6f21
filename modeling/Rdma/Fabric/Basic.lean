import Rdma.Config
import Rdma.Descriptor
import Rdma.Fifo
import Rdma.Journal
import Rdma.Table

/-!
# The tables of the software fabric

Every object of one fabric, by kind. Identities come from one counter for all kinds and are never
reused; an object's identity is its native identity. This module holds the tables, the look-ups on
them and the three counters; what changes them otherwise is in the modules above.
-/

namespace Rdma

namespace Fabric

/-- A device attached to the fabric. -/
structure Device where
  uid : NativeId
  config : DeviceConfig
deriving Repr, DecidableEq

/-- An open device. It keeps the configuration it was opened with. -/
structure Context where
  deviceUid : NativeId
  config : DeviceConfig
deriving Repr, DecidableEq

structure ProtectionDomain where
  context : NativeId
deriving Repr, DecidableEq

structure Region where
  pd : NativeId
  addr : UInt64
  length : UInt64
  permission : Permission
  lkey : UInt32
  rkey : UInt32
deriving Repr, DecidableEq

/-- Does the region hold `length` bytes from `addr` on? Its own end is computed in 64 bits. -/
def Region.covers (r : Region) (addr : UInt64) (length : Nat) : Bool :=
  r.addr ≤ addr && addr.toNat + length < UInt64.size &&
    addr.toNat + length ≤ (r.addr + r.length).toNat

structure Channel where
  context : NativeId
  descriptor : Descriptor := Descriptor.counter
  /-- Events raised and not yet fetched, oldest first. -/
  pending : List CqEvent := []
deriving Repr, DecidableEq

structure CompletionQueue where
  context : NativeId
  channel : Option NativeId
  cookie : UInt64
  capacity : UInt32
  entries : Fifo Completion := .empty
  /-- While armed: is the next event kept for solicited and failed completions? -/
  armed : Option Bool := none
  overflowed : Bool := false
  /-- Events fetched and not yet acknowledged. -/
  unacknowledged : UInt32 := 0
deriving Repr, DecidableEq

structure SharedQueue where
  pd : NativeId
  maxWr : UInt32
  maxSge : UInt32
  queue : List RecvRequest := []
deriving Repr, DecidableEq

/-- A send request in a send queue. The payload of an inline request was taken when it was posted.
-/
structure PendingSend where
  request : SendRequest
  inlined : Option (List UInt8) := none
deriving Repr, DecidableEq

structure QueuePair where
  pd : NativeId
  number : UInt32
  transport : Transport
  sendCq : NativeId
  recvCq : NativeId
  srq : Option NativeId
  signalAll : Bool
  caps : QpCaps
  state : QpState := .reset
  /-- Rights granted to the peer. -/
  access : Permission := .none
  destination : Option UInt32 := none
  sendQueue : List PendingSend := []
  recvQueue : List RecvRequest := []
deriving Repr, DecidableEq

end Fabric

/-- Every object of one software fabric. -/
structure Fabric where
  devices : List Fabric.Device := []
  contexts : Table NativeId Fabric.Context := {}
  pds : Table NativeId Fabric.ProtectionDomain := {}
  regions : Table NativeId Fabric.Region := {}
  channels : Table NativeId Fabric.Channel := {}
  cqs : Table NativeId Fabric.CompletionQueue := {}
  srqs : Table NativeId Fabric.SharedQueue := {}
  qps : Table NativeId Fabric.QueuePair := {}
  /-- Queue pairs by number. -/
  qpNumbers : Table UInt32 NativeId := {}
  nextId : NativeId := 1
  nextKey : UInt32 := 0x1000
  nextQpNumber : UInt32 := 0x100
deriving Repr, DecidableEq

namespace Fabric

/-- The lowest queue pair number given out. -/
def firstQpNumber : UInt32 := 0x100

/-- The next identity. -/
def allocId (f : Fabric) : NativeId × Fabric := (f.nextId, { f with nextId := f.nextId + 1 })

/-- The next memory key. Keys wrap and are never zero. -/
def allocKey (f : Fabric) : UInt32 × Fabric :=
  (f.nextKey, { f with nextKey := if f.nextKey + 1 = 0 then 1 else f.nextKey + 1 })

/-- The queue pair number after `n`: numbers have 24 bits and wrap to the lowest one given out. -/
def qpNumberAfter (n : UInt32) : UInt32 :=
  let next := (n + 1) &&& 0xffffff
  if next = 0 then firstQpNumber else next

/-- The first number from `candidate` on that no queue pair has, and the candidate after it. Once the
candidates have come round to the first there is none, and a search would go on for ever. -/
def freeQpNumber? (used : Table UInt32 NativeId) : Nat → UInt32 → Option (UInt32 × UInt32)
  | 0, _ => none
  | tries + 1, candidate =>
    if used.contains candidate then freeQpNumber? used tries (qpNumberAfter candidate)
    else some (candidate, qpNumberAfter candidate)

/-- The next queue pair number that is free. Of one more candidate than there are queue pairs one is
free, unless the candidates come round before. -/
def allocQpNumber? (f : Fabric) : Option (UInt32 × Fabric) :=
  (freeQpNumber? f.qpNumbers (f.qpNumbers.size + 1) f.nextQpNumber).map fun (number, next) =>
    (number, { f with nextQpNumber := next })

/-- Attach a device. -/
def plug (f : Fabric) (config : DeviceConfig) : Fabric :=
  let (uid, f) := f.allocId
  { f with devices := f.devices ++ [{ uid, config }] }

/-- A fabric with the given devices attached in order. -/
def ofDevices (configs : List DeviceConfig) : Fabric := configs.foldl plug {}

/-- Detach every device of a name. -/
def unplug (f : Fabric) (name : String) : Fabric :=
  { f with devices := f.devices.filter (·.config.name ≠ name) }

def context (f : Fabric) (id : NativeId) : Except OsError Context :=
  match f.contexts.find? id with
  | some c => .ok c
  | none => .error .invalid

/-- The identity of the context that a protection domain belongs to. -/
def contextOfPd? (f : Fabric) (pd : NativeId) : Option NativeId := (f.pds.find? pd).map (·.context)

/-- The context that a protection domain belongs to. -/
def contextOfPd (f : Fabric) (pd : NativeId) : Except OsError Context :=
  match f.contextOfPd? pd with
  | some id => f.context id
  | none => .error .invalid

def qpByNumber? (f : Fabric) (number : UInt32) : Option NativeId := f.qpNumbers.find? number

/-- The region of a protection domain that is registered under an entry's key and holds its range.
Of several the first in the order of the table is found, where a hash table promises no order. This
matters only once two regions have the same key. Runs that are compared there, under two policies or
with and without devices that come and go, are taken to keep their tables in the same order. -/
def localRegion? (f : Fabric) (pd : NativeId) (sge : Sge) : Option Region :=
  f.regions.values.find? fun r =>
    r.pd = pd && r.lkey = sge.lkey && r.covers sge.addr sge.length.toNat

/-- The region of a protection domain that is registered under a remote key and holds a range. Of
several the first is found, as by `localRegion?`. -/
def remoteRegion? (f : Fabric) (pd : NativeId) (target : RemoteAddress) (length : Nat) :
    Option Region :=
  f.regions.values.find? fun r => r.pd = pd && r.rkey = target.rkey && r.covers target.addr length

/-- How many protection domains, completion queues and channels a context has. -/
def contextUsage (f : Fabric) (id : NativeId) : Nat :=
  f.pds.count (·.context = id) + f.cqs.count (·.context = id) + f.channels.count (·.context = id)

/-- How many regions, shared receive queues and queue pairs a protection domain has. -/
def pdUsage (f : Fabric) (id : NativeId) : Nat :=
  f.regions.count (·.pd = id) + f.srqs.count (·.pd = id) + f.qps.count (·.pd = id)

/-- Is the protection domain one of the same context as `pd`? -/
def sameContext (f : Fabric) (pd other : NativeId) : Bool :=
  f.contextOfPd? other = f.contextOfPd? pd

/-- The receive queue that a queue pair takes from. -/
def recvQueueOf (id : NativeId) (qp : QueuePair) : RecvQueue :=
  match qp.srq with
  | some srq => .shared srq
  | none => .ofQp id

/-- The requests that wait in a receive queue. -/
def recvRequests (f : Fabric) : RecvQueue → List RecvRequest
  | .ofQp id => ((f.qps.find? id).map (·.recvQueue)).getD []
  | .shared srq => ((f.srqs.find? srq).map (·.queue)).getD []

/-- Replace the requests that wait in a receive queue. -/
def setRecvRequests (f : Fabric) (requests : List RecvRequest) : RecvQueue → Fabric
  | .ofQp id => { f with qps := f.qps.modify id fun q => { q with recvQueue := requests } }
  | .shared srq => { f with srqs := f.srqs.modify srq fun s => { s with queue := requests } }

def updateQp (f : Fabric) (id : NativeId) (change : QueuePair → QueuePair) : Fabric :=
  { f with qps := f.qps.modify id change }

def updateCq (f : Fabric) (id : NativeId) (change : CompletionQueue → CompletionQueue) : Fabric :=
  { f with cqs := f.cqs.modify id change }

def updateChannel (f : Fabric) (id : NativeId) (change : Channel → Channel) : Fabric :=
  { f with channels := f.channels.modify id change }

end Fabric

end Rdma
