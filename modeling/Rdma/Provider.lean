import Rdma.Fabric.Devices
import Rdma.Fabric.Posting
import Rdma.Fabric.Queues
import Rdma.Fabric.QueuePairs
import Rdma.Fabric.Regions

/-!
# Providers

A provider does the native work behind the handles: one step on the host for each native verb.
Native identities are the provider's own, and a null one is an answer like any other: that a null
allocation is a failure is for the layer above to say.
-/

namespace Rdma

/-- The native verbs of one provider. -/
structure Provider where
  name : String
  deviceList : Native (List ListedDevice)
  openDevice : ListedDevice → Native NativeId
  closeDevice : NativeId → Native Unit
  deviceName : NativeId → Host → Option String
  queryDevice : NativeId → Native DeviceAttributes
  queryPort : NativeId → UInt8 → Native PortAttributes
  queryGid : NativeId → UInt8 → UInt8 → Native Gid
  allocPd : NativeId → Native NativeId
  deallocPd : NativeId → Native Unit
  regMr : NativeId → UInt64 → UInt64 → Permission → Native RegionGrant
  deregMr : NativeId → Native Unit
  createChannel : NativeId → Native NativeId
  destroyChannel : NativeId → Native Unit
  channelDescriptor : NativeId → Native Descriptor
  createCq : NativeId → UInt32 → Option NativeId → UInt64 → Int32 → Native CqGrant
  destroyCq : NativeId → Native Unit
  pollCq : NativeId → Nat → Native (List Completion)
  reqNotifyCq : NativeId → Bool → Native Unit
  getCqEvent : NativeId → Native CqEvent
  ackCqEvents : NativeId → UInt32 → Host → Host
  createSrq : NativeId → SrqInit → Native NativeId
  destroySrq : NativeId → Native Unit
  postSrqRecv : NativeId → List RecvRequest → Posting
  createQp : NativeId → NativeQpInit → Native QpGrant
  modifyQp : NativeId → QpAttributes → QpMask → Native Unit
  queryQpState : NativeId → Native QpState
  destroyQp : NativeId → Native Unit
  postSend : NativeId → List SendRequest → Posting
  postRecv : NativeId → List RecvRequest → Posting

/-- The software fabric of the host. -/
def Provider.soft : Provider where
  name := "soft"
  deviceList := Host.deviceList
  openDevice := Host.openDevice
  closeDevice := Host.closeDevice
  deviceName := Host.deviceName
  queryDevice := Host.queryDevice
  queryPort := Host.queryPort
  queryGid := Host.queryGid
  allocPd := Host.allocPd
  deallocPd := Host.deallocPd
  regMr := Host.regMr
  deregMr := Host.deregMr
  createChannel := Host.createChannel
  destroyChannel := Host.destroyChannel
  channelDescriptor := Host.channelDescriptor
  createCq := Host.createCq
  destroyCq := Host.destroyCq
  pollCq := Host.pollCq
  reqNotifyCq := Host.reqNotifyCq
  getCqEvent := Host.getCqEvent
  ackCqEvents := Host.ackCqEvents
  createSrq := Host.createSrq
  destroySrq := Host.destroySrq
  postSrqRecv := Host.postSrqRecv
  createQp := Host.createQp
  modifyQp := Host.modifyQp
  queryQpState := Host.queryQpState
  destroyQp := Host.destroyQp
  postSend := Host.postSend
  postRecv := Host.postRecv

end Rdma
