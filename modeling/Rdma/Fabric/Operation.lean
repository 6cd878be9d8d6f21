import Rdma.Fabric.Devices
import Rdma.Fabric.Posting
import Rdma.Fabric.Queues
import Rdma.Fabric.QueuePairs
import Rdma.Fabric.Regions

/-!
# Operations on a host

All that can happen to a host, as data: the native verbs of the software provider with any
arguments, devices that come and go, and what callers and the system do to memory and descriptors
between the verbs. A host is reachable if operations lead to it from a fresh one.
-/

namespace Rdma.Host

/-- Something that happens to a host. -/
inductive Operation where
  | deviceList
  | openDevice (device : ListedDevice)
  | closeDevice (ctx : NativeId)
  | queryDevice (ctx : NativeId)
  | queryPort (ctx : NativeId) (port : UInt8)
  | queryGid (ctx : NativeId) (port index : UInt8)
  | allocPd (ctx : NativeId)
  | deallocPd (pd : NativeId)
  | regMr (pd : NativeId) (addr length : UInt64) (permission : Permission)
  | deregMr (mr : NativeId)
  | createChannel (ctx : NativeId)
  | destroyChannel (channel : NativeId)
  | channelDescriptor (channel : NativeId)
  | createCq (ctx : NativeId) (depth : UInt32) (channel : Option NativeId) (cookie : UInt64)
      (vector : Int32)
  | destroyCq (cq : NativeId)
  | pollCq (cq : NativeId) (n : Nat)
  | reqNotifyCq (cq : NativeId) (solicitedOnly : Bool)
  | getCqEvent (channel : NativeId)
  | ackCqEvents (cq : NativeId) (n : UInt32)
  | createSrq (pd : NativeId) (init : SrqInit)
  | destroySrq (srq : NativeId)
  | postSrqRecv (srq : NativeId) (requests : List RecvRequest)
  | createQp (pd : NativeId) (init : NativeQpInit)
  | modifyQp (qp : NativeId) (attributes : QpAttributes) (mask : QpMask)
  | queryQpState (qp : NativeId)
  | destroyQp (qp : NativeId)
  | postSend (qp : NativeId) (requests : List SendRequest)
  | postRecv (qp : NativeId) (requests : List RecvRequest)
  | plug (device : DeviceConfig)
  | unplug (name : String)
  /-- Memory changes behind the provider's back. -/
  | setMemory (memory : Memory)
  /-- Descriptors run out, or can be made again. -/
  | setDescriptorsLeft (left : Bool)
  /-- A channel's descriptor is changed behind the provider's back. -/
  | setDescriptor (channel : NativeId) (descriptor : Descriptor)

/-- The host after an operation. -/
def perform (h : Host) : Operation → Host
  | .deviceList => (deviceList h).2
  | .openDevice device => (openDevice device h).2
  | .closeDevice ctx => (closeDevice ctx h).2
  | .queryDevice ctx => (queryDevice ctx h).2
  | .queryPort ctx port => (queryPort ctx port h).2
  | .queryGid ctx port index => (queryGid ctx port index h).2
  | .allocPd ctx => (allocPd ctx h).2
  | .deallocPd pd => (deallocPd pd h).2
  | .regMr pd addr length permission => (regMr pd addr length permission h).2
  | .deregMr mr => (deregMr mr h).2
  | .createChannel ctx => (createChannel ctx h).2
  | .destroyChannel channel => (destroyChannel channel h).2
  | .channelDescriptor channel => (channelDescriptor channel h).2
  | .createCq ctx depth channel cookie vector => (createCq ctx depth channel cookie vector h).2
  | .destroyCq cq => (destroyCq cq h).2
  | .pollCq cq n => (pollCq cq n h).2
  | .reqNotifyCq cq solicitedOnly => (reqNotifyCq cq solicitedOnly h).2
  | .getCqEvent channel => (getCqEvent channel h).2
  | .ackCqEvents cq n => ackCqEvents cq n h
  | .createSrq pd init => (createSrq pd init h).2
  | .destroySrq srq => (destroySrq srq h).2
  | .postSrqRecv srq requests => (postSrqRecv srq requests h).2
  | .createQp pd init => (createQp pd init h).2
  | .modifyQp qp attributes mask => (modifyQp qp attributes mask h).2
  | .queryQpState qp => (queryQpState qp h).2
  | .destroyQp qp => (destroyQp qp h).2
  | .postSend qp requests => (postSend qp requests h).2
  | .postRecv qp requests => (postRecv qp requests h).2
  | .plug device => h.plug device
  | .unplug name => (h.unplug name).2
  | .setMemory memory => { h with memory }
  | .setDescriptorsLeft left => { h with descriptorsLeft := left }
  | .setDescriptor channel descriptor => h.setDescriptor channel descriptor

/-- The hosts that operations and events of the handle layer lead to from a fresh host with the given
devices. -/
inductive Reachable (devices : List DeviceConfig) : Host → Prop
  | fresh (memory : Memory) : Reachable devices (({ memory } : Host).withDevices devices)
  | perform {h : Host} (op : Operation) : Reachable devices h → Reachable devices (h.perform op)
  | note {h : Host} (e : Event) : e.ofHandleLayer → Reachable devices h →
      Reachable devices (h.note e)

end Rdma.Host
