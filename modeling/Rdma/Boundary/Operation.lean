import Rdma.Boundary.Call

/-!
# Calls as data

The calls that report an outcome, with the arguments they read, and all that can happen to the
library of a process: these calls, those that report nothing, initialisation, and what callers and
the system do to memory and descriptors between the calls.
-/

namespace Rdma.Boundary

/-- A call that reports its outcome, by the type of what a success yields. -/
inductive Operation : Type → Type
  | openDevice (index : Int32) : Operation Handle
  | closeDevice (ctx : Handle) : Operation Unit
  | queryDevice (ctx : Handle) (attributes : Bool) : Operation DeviceAttributes
  | queryPort (ctx : Handle) (attributes : Bool) (port : UInt8) : Operation PortAttributes
  | allocPd (ctx : Handle) : Operation Handle
  | deallocPd (pd : Handle) : Operation Unit
  | regMr (pd : Handle) (addr length : UInt64) (access : Permission) : Operation Handle
  | queryMr (mr : Handle) (info : Bool) : Operation RegionInfo
  | deregMr (mr : Handle) : Operation Unit
  | createChannel (ctx : Handle) : Operation Handle
  | destroyChannel (channel : Handle) : Operation Unit
  | channelDescriptor (channel : Handle) : Operation Descriptor
  | createCq (ctx : Handle) (depth : UInt32) (channel : Handle) (cookie : UInt64) (vector : Int32) :
      Operation Handle
  | destroyCq (cq : Handle) : Operation Unit
  | reqNotifyCq (cq : Handle) (solicitedOnly : Int32) : Operation Unit
  | getCqEvent (channel : Handle) : Operation (Handle × UInt64)
  | ackCqEvents (cq : Handle) (n : UInt32) : Operation Unit
  | createSrq (pd : Handle) (init : Option SrqInit) : Operation Handle
  | destroySrq (srq : Handle) : Operation Unit
  | postSrqRecv (srq : Handle) (heap : Heap RawRecv) (head : Option Nat) : Operation Unit
  | createQp (pd : Handle) (init : Option QpInit) : Operation Handle
  | modifyQp (qp : Handle) (attributes : Option QpAttributes) (mask : QpMask) : Operation Unit
  | destroyQp (qp : Handle) : Operation Unit
  | qpNumber (qp : Handle) : Operation UInt32
  | qpState (qp : Handle) : Operation QpState
  | endpoint (qp : Handle) (port : UInt8) (answer : Bool) : Operation Endpoint
  | connectQp (qp : Handle) (here remote : Option Endpoint) (access : Permission) : Operation Unit
  | postSend (qp : Handle) (heap : Heap RawSend) (head : Option Nat) : Operation Unit
  | postRecv (qp : Handle) (heap : Heap RawRecv) (head : Option Nat) : Operation Unit

/-- What a call does. -/
def Operation.call {α : Type} (env : Environment) : Operation α → Call α
  | .openDevice index => Boundary.openDevice env index
  | .closeDevice ctx => Boundary.closeDevice env ctx
  | .queryDevice ctx attributes => Boundary.queryDevice env ctx attributes
  | .queryPort ctx attributes port => Boundary.queryPort env ctx attributes port
  | .allocPd ctx => Boundary.allocPd env ctx
  | .deallocPd pd => Boundary.deallocPd env pd
  | .regMr pd addr length access => Boundary.regMr env pd addr length access
  | .queryMr mr info => Boundary.queryMr env mr info
  | .deregMr mr => Boundary.deregMr env mr
  | .createChannel ctx => Boundary.createChannel env ctx
  | .destroyChannel channel => Boundary.destroyChannel env channel
  | .channelDescriptor channel => Boundary.channelDescriptor env channel
  | .createCq ctx depth channel cookie vector =>
      Boundary.createCq env ctx depth channel cookie vector
  | .destroyCq cq => Boundary.destroyCq env cq
  | .reqNotifyCq cq solicitedOnly => Boundary.reqNotifyCq env cq solicitedOnly
  | .getCqEvent channel => Boundary.getCqEvent env channel
  | .ackCqEvents cq n => Boundary.ackCqEvents env cq n
  | .createSrq pd init => Boundary.createSrq env pd init
  | .destroySrq srq => Boundary.destroySrq env srq
  | .postSrqRecv srq heap head => Boundary.postSrqRecv env srq heap head
  | .createQp pd init => Boundary.createQp env pd init
  | .modifyQp qp attributes mask => Boundary.modifyQp env qp attributes mask
  | .destroyQp qp => Boundary.destroyQp env qp
  | .qpNumber qp => Boundary.qpNumber env qp
  | .qpState qp => Boundary.qpState env qp
  | .endpoint qp port answer => Boundary.endpoint env qp port answer
  | .connectQp qp here remote access => Boundary.connectQp env qp here remote access
  | .postSend qp heap head => Boundary.postSend env qp heap head
  | .postRecv qp heap head => Boundary.postRecv env qp heap head

/-- The handle that a success writes into the record: the one that was created, or that an event is
about. -/
def Operation.handleOf {α : Type} : Operation α → α → Handle
  | .openDevice _ | .allocPd _ | .regMr .. | .createChannel _ | .createCq .. | .createSrq ..
  | .createQp .. => id
  | .getCqEvent _ => (·.1)
  | _ => fun _ => .null

/-- Make a call and report it. -/
def Operation.make {α : Type} (op : Operation α) (env : Environment)
    (record : Option ResultRecord) (lib : Library) : Reply α × Library :=
  Boundary.make (op.call env) op.handleOf record lib

/-! ## Runs -/

/-- Something that happens to the library of a process. -/
inductive Act where
  | init (source : Library.Source)
  | deviceCount
  | deviceName (ctx : Handle) (buffer : Option Nat)
  | pollCq (cq : Handle) (array : Bool) (n : Int32)
  | call {α : Type} (op : Operation α) (record : Option ResultRecord)
  /-- Memory changes between the calls. -/
  | setMemory (memory : Memory)
  /-- Descriptors run out, or can be made again. -/
  | setDescriptorsLeft (left : Bool)
  /-- A channel's descriptor is changed by one of its holders. -/
  | setDescriptor (channel : NativeId) (descriptor : Descriptor)

/-- The library after something happened in an environment. -/
def Act.apply (env : Environment) : Act → Library → Library
  | .init source, lib => (lib.init env source).2
  | .deviceCount, lib => (Boundary.deviceCount env lib).2
  | .deviceName ctx buffer, lib => (Boundary.deviceName env ctx buffer lib).2
  | .pollCq cq array n, lib => (Boundary.pollCq env cq array n lib).2
  | .call op record, lib => (op.make env record lib).2
  | .setMemory memory, lib => lib.mapHost fun h => { h with memory }
  | .setDescriptorsLeft left, lib => lib.mapHost fun h => { h with descriptorsLeft := left }
  | .setDescriptor channel descriptor, lib => lib.mapHost (·.setDescriptor channel descriptor)

/-- The library after things happened in a row, each in the environment of its time. -/
def applyAll (lib : Library) (acts : List (Environment × Act)) : Library :=
  acts.foldl (fun lib act => act.2.apply act.1 lib) lib

/-- The library of a process that has just begun. -/
def begun (memory : Memory) : Library := .idle { memory }

end Rdma.Boundary
