import Rdma.Verbs.Queue

/-!
# Operations on the handle layer

All that can happen to a handle layer over the software provider, as data, by the type of the answer:
the verbs with any arguments, devices that come and go, and what callers and the system do to memory
and descriptors between the verbs.
-/

namespace Rdma.Verbs

/-- Something that happens to a handle layer, with an answer of the given type. -/
inductive Operation : Type → Type 1 where
  | deviceCount : Operation Nat
  | deviceNames : Operation (List String)
  | openDevice (index : Nat) : Operation Handle
  | closeDevice (ctx : Handle) : Operation Unit
  | deviceName (ctx : Handle) : Operation String
  | queryDevice (ctx : Handle) : Operation DeviceAttributes
  | queryPort (ctx : Handle) (port : UInt8) : Operation PortAttributes
  | queryGid (ctx : Handle) (port index : UInt8) : Operation Gid
  | allocPd (ctx : Handle) : Operation Handle
  | deallocPd (pd : Handle) : Operation Unit
  | regMr (pd : Handle) (addr length : UInt64) (permission : Permission) : Operation Handle
  | queryMr (mr : Handle) : Operation RegionInfo
  | deregMr (mr : Handle) : Operation Unit
  | createChannel (ctx : Handle) : Operation Handle
  | destroyChannel (channel : Handle) : Operation Unit
  | channelDescriptor (channel : Handle) : Operation Descriptor
  | setChannelDescriptor (channel : Handle) (descriptor : Descriptor) : Operation Unit
  | addChannelFlags (channel : Handle) (mode : Int32) : Operation Unit
  | createCq (ctx : Handle) (depth : UInt32) (channel : Handle) (cookie : UInt64) (vector : Int32) :
      Operation Handle
  | cqCapacity (cq : Handle) : Operation UInt32
  | destroyCq (cq : Handle) : Operation Unit
  | pollCq (cq : Handle) (n : Nat) : Operation (List Completion)
  | reqNotifyCq (cq : Handle) (solicitedOnly : Bool) : Operation Unit
  | getCqEvent (channel : Handle) : Operation (Handle × UInt64)
  | ackCqEvents (cq : Handle) (n : UInt32) : Operation Unit
  | createSrq (pd : Handle) (init : SrqInit) : Operation Handle
  | destroySrq (srq : Handle) : Operation Unit
  | postSrqRecv (srq : Handle) (requests : List RecvRequest) : Operation Unit
  | createQp (pd : Handle) (init : QpInit) : Operation Handle
  | modifyQp (qp : Handle) (attributes : QpAttributes) (mask : QpMask) : Operation Unit
  | qpNumber (qp : Handle) : Operation UInt32
  | qpTransport (qp : Handle) : Operation Transport
  | qpState (qp : Handle) : Operation QpState
  | endpoint (qp : Handle) (port : UInt8) : Operation Endpoint
  | connectQp (qp : Handle) (here remote : Endpoint) (access : Permission) : Operation Unit
  | destroyQp (qp : Handle) : Operation Unit
  | postSend (qp : Handle) (requests : List SendRequest) : Operation Unit
  | postRecv (qp : Handle) (requests : List RecvRequest) : Operation Unit
  | plug (device : DeviceConfig) : Operation Unit
  | unplug (name : String) : Operation Bool
  /-- Memory changes behind the provider's back. -/
  | setMemory (memory : Memory) : Operation Unit
  /-- Descriptors run out, or can be made again. -/
  | setDescriptorsLeft (left : Bool) : Operation Unit

/-- Change the host. -/
def changeHost (change : Host → Host) : Verb Unit :=
  .update fun v => { v with host := change v.host }

/-- What an operation does. -/
def perform {α : Type} : Operation α → Verb α
  | .deviceCount => .always (deviceCount .soft)
  | .deviceNames => .always (deviceNames .soft)
  | .openDevice index => openDevice .soft index
  | .closeDevice ctx => closeDevice .soft ctx
  | .deviceName ctx => .read fun v => .ok (deviceName .soft ctx v)
  | .queryDevice ctx => queryDevice .soft ctx
  | .queryPort ctx port => queryPort .soft ctx port
  | .queryGid ctx port index => queryGid .soft ctx port index
  | .allocPd ctx => allocPd .soft ctx
  | .deallocPd pd => deallocPd .soft pd
  | .regMr pd addr length permission => regMr .soft pd addr length permission
  | .queryMr mr => queryMr mr
  | .deregMr mr => deregMr .soft mr
  | .createChannel ctx => createChannel .soft ctx
  | .destroyChannel channel => destroyChannel .soft channel
  | .channelDescriptor channel => channelDescriptor .soft channel
  | .setChannelDescriptor channel descriptor => setChannelDescriptor channel descriptor
  | .addChannelFlags channel mode => addChannelFlags .soft channel mode
  | .createCq ctx depth channel cookie vector => createCq .soft ctx depth channel cookie vector
  | .cqCapacity cq => cqCapacity cq
  | .destroyCq cq => destroyCq .soft cq
  | .pollCq cq n => pollCq .soft cq n
  | .reqNotifyCq cq solicitedOnly => reqNotifyCq .soft cq solicitedOnly
  | .getCqEvent channel => getCqEvent .soft channel
  | .ackCqEvents cq n => ackCqEvents .soft cq n
  | .createSrq pd init => createSrq .soft pd init
  | .destroySrq srq => destroySrq .soft srq
  | .postSrqRecv srq requests => postSrqRecv .soft srq requests
  | .createQp pd init => createQp .soft pd init
  | .modifyQp qp attributes mask => modifyQp .soft qp attributes mask
  | .qpNumber qp => qpNumber qp
  | .qpTransport qp => qpTransport qp
  | .qpState qp => qpState .soft qp
  | .endpoint qp port => endpoint .soft qp port
  | .connectQp qp here remote access => connectQp .soft qp here remote access
  | .destroyQp qp => destroyQp .soft qp
  | .postSend qp requests => postSend .soft qp requests
  | .postRecv qp requests => postRecv .soft qp requests
  | .plug device => changeHost (·.plug device)
  | .unplug name => .always fun v =>
      let (found, host) := v.host.unplug name
      (found, { v with host })
  | .setMemory memory => changeHost fun h => { h with memory }
  | .setDescriptorsLeft left => changeHost fun h => { h with descriptorsLeft := left }

/-- An operation with any type of answer. -/
abbrev AnyOperation := Σ α : Type, Operation α

/-- The handle layer after operations in a row. -/
def performAll (v : Verbs) (ops : List AnyOperation) : Verbs :=
  ops.foldl (fun v op => (perform op.2 v).2) v

/-- The handle layer over the software provider, on a fresh host with the given devices. -/
def fresh (policy : DependencyPolicy) (memory : Memory) (devices : List DeviceConfig) : Verbs :=
  start .soft policy (({ memory } : Host).withDevices devices)

/-- Number of handles issued so far. -/
def issued (v : Verbs) : Nat := v.registry.nextSequence - 1

end Rdma.Verbs
