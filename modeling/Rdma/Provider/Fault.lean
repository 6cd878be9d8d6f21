import Rdma.Provider

/-!
# Faulty providers

A provider with chosen verbs made to fail. A faulty verb is answered without asking the provider.
-/

namespace Rdma

/-- A native verb that can be made faulty. -/
inductive NativeVerb where
  | deviceList
  | openDevice
  | closeDevice
  | deviceName
  | queryDevice
  | queryPort
  | queryGid
  | allocPd
  | deallocPd
  | regMr
  | deregMr
  | createChannel
  | destroyChannel
  | channelDescriptor
  | createCq
  | destroyCq
  | pollCq
  | reqNotifyCq
  | getCqEvent
  | createSrq
  | destroySrq
  | postSrqRecv
  | createQp
  | modifyQp
  | queryQpState
  | destroyQp
  | postSend
  | postRecv
deriving Repr, DecidableEq

namespace NativeVerb

/-- Every verb that can be made faulty. -/
def all : List NativeVerb :=
  [deviceList, openDevice, closeDevice, deviceName, queryDevice, queryPort, queryGid, allocPd,
    deallocPd, regMr, deregMr, createChannel, destroyChannel, channelDescriptor, createCq,
    destroyCq, pollCq, reqNotifyCq, getCqEvent, createSrq, destroySrq, postSrqRecv, createQp,
    modifyQp, queryQpState, destroyQp, postSend, postRecv]

/-- The name that a verb is known by. -/
def name : NativeVerb → String
  | deviceList => "device_list"
  | openDevice => "open_device"
  | closeDevice => "close_device"
  | deviceName => "device_name"
  | queryDevice => "query_device"
  | queryPort => "query_port"
  | queryGid => "query_gid"
  | allocPd => "alloc_pd"
  | deallocPd => "dealloc_pd"
  | regMr => "reg_mr"
  | deregMr => "dereg_mr"
  | createChannel => "create_comp_channel"
  | destroyChannel => "destroy_comp_channel"
  | channelDescriptor => "comp_channel_fd"
  | createCq => "create_cq"
  | destroyCq => "destroy_cq"
  | pollCq => "poll_cq"
  | reqNotifyCq => "req_notify_cq"
  | getCqEvent => "get_cq_event"
  | createSrq => "create_srq"
  | destroySrq => "destroy_srq"
  | postSrqRecv => "post_srq_recv"
  | createQp => "create_qp"
  | modifyQp => "modify_qp"
  | queryQpState => "query_qp_state"
  | destroyQp => "destroy_qp"
  | postSend => "post_send"
  | postRecv => "post_recv"

def ofName? (name : String) : Option NativeVerb := all.find? (·.name = name)

end NativeVerb

/-- How a verb is faulty. -/
inductive Fault where
  | error (cause : OsError)
  /-- Success with a null identity, for verbs that answer one; other verbs work as ever. -/
  | null
deriving Repr, DecidableEq

/-- Which verbs are faulty, and how. -/
abbrev Faults := NativeVerb → Option Fault

namespace Faults

def none : Faults := fun _ => Option.none

/-- Make a verb faulty, or mend it. -/
def set (faults : Faults) (verb : NativeVerb) (fault : Option Fault) : Faults :=
  fun v => if v = verb then fault else faults v

end Faults

namespace Provider

private def orFault {α : Type} (fault : Option Fault) (null : Option α) (verb : Native α) :
    Native α :=
  match fault, null with
  | some (.error cause), _ => .fail cause
  | some .null, some a => .ok a
  | _, _ => verb

private def orRejection (fault : Option Fault) (post : Posting) : Posting :=
  match fault with
  | some (.error cause) => .fail { index := 0, cause }
  | _ => post

/-- The provider with faults. -/
def withFaults (p : Provider) (faults : Faults) : Provider where
  name := p.name
  deviceList := orFault (faults .deviceList) none p.deviceList
  openDevice d := orFault (faults .openDevice) (some NativeId.null) (p.openDevice d)
  closeDevice c := orFault (faults .closeDevice) none (p.closeDevice c)
  deviceName c h := if (faults .deviceName).isSome then none else p.deviceName c h
  queryDevice c := orFault (faults .queryDevice) none (p.queryDevice c)
  queryPort c port := orFault (faults .queryPort) none (p.queryPort c port)
  queryGid c port index := orFault (faults .queryGid) none (p.queryGid c port index)
  allocPd c := orFault (faults .allocPd) (some NativeId.null) (p.allocPd c)
  deallocPd pd := orFault (faults .deallocPd) none (p.deallocPd pd)
  regMr pd addr length permission :=
    orFault (faults .regMr) (some { native := NativeId.null, info := {} })
      (p.regMr pd addr length permission)
  deregMr mr := orFault (faults .deregMr) none (p.deregMr mr)
  createChannel c := orFault (faults .createChannel) (some NativeId.null) (p.createChannel c)
  destroyChannel ch := orFault (faults .destroyChannel) none (p.destroyChannel ch)
  channelDescriptor ch := orFault (faults .channelDescriptor) none (p.channelDescriptor ch)
  createCq c depth channel cookie vector :=
    orFault (faults .createCq) (some { native := NativeId.null, capacity := 0 })
      (p.createCq c depth channel cookie vector)
  destroyCq cq := orFault (faults .destroyCq) none (p.destroyCq cq)
  pollCq cq n := orFault (faults .pollCq) none (p.pollCq cq n)
  reqNotifyCq cq solicitedOnly :=
    orFault (faults .reqNotifyCq) none (p.reqNotifyCq cq solicitedOnly)
  getCqEvent ch :=
    orFault (faults .getCqEvent) (some { cq := NativeId.null, cookie := 0 }) (p.getCqEvent ch)
  ackCqEvents := p.ackCqEvents
  createSrq pd init := orFault (faults .createSrq) (some NativeId.null) (p.createSrq pd init)
  destroySrq srq := orFault (faults .destroySrq) none (p.destroySrq srq)
  postSrqRecv srq requests := orRejection (faults .postSrqRecv) (p.postSrqRecv srq requests)
  createQp pd init :=
    orFault (faults .createQp) (some { native := NativeId.null, number := 0 }) (p.createQp pd init)
  modifyQp qp attributes mask := orFault (faults .modifyQp) none (p.modifyQp qp attributes mask)
  queryQpState qp := orFault (faults .queryQpState) none (p.queryQpState qp)
  destroyQp qp := orFault (faults .destroyQp) none (p.destroyQp qp)
  postSend qp requests := orRejection (faults .postSend) (p.postSend qp requests)
  postRecv qp requests := orRejection (faults .postRecv) (p.postRecv qp requests)

end Provider

end Rdma
