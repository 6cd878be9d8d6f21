import Rdma.Verbs.Device

/-!
# Verbs on channels, completion queues, shared receive queues and queue pairs
-/

namespace Rdma.Verbs

variable (P : Provider)

/-! ## Channels and completion queues -/

def createChannel (ctx : Handle) : Verb Handle := do
  let id ← native (P.createChannel (← resolve ctx .context))
  issue .completionChannel id [ctx]

def destroyChannel (channel : Handle) : Verb Unit :=
  destroy channel .completionChannel P.destroyChannel

/-- The descriptor that becomes readable when a channel has an event. -/
def channelDescriptor (channel : Handle) : Verb Descriptor := do
  native (P.channelDescriptor (← resolve channel .completionChannel))

/-- Put another descriptor in the place of a channel's, as its holders can. -/
def setChannelDescriptor (channel : Handle) (descriptor : Descriptor) : Verb Unit := do
  let id ← resolve channel .completionChannel
  .update fun v => { v with host := v.host.setDescriptor id descriptor }

/-- Add status flags to the descriptor of a channel. -/
def addChannelFlags (channel : Handle) (mode : Int32) : Verb Unit := do
  let descriptor ← channelDescriptor P channel
  setChannelDescriptor channel (descriptor.addFlags mode)

/-- Create a completion queue of at least `depth` entries. Its events go to `channel`, unless that
is the null handle, and carry `cookie`. -/
def createCq (ctx : Handle) (depth : UInt32) (channel : Handle) (cookie : UInt64) (vector : Int32) :
    Verb Handle := do
  if depth = 0 then throw (.invalidArgument .zeroQueueDepth)
  let ctxId ← resolve ctx .context
  let channelId ← resolveOptional channel .completionChannel
  let cq ← native (P.createCq ctxId depth channelId cookie vector)
  let handle ← issue .completionQueue cq.native [ctx, channel]
  recordDetails handle (.cq cq.capacity)
  pure handle

/-- Number of entries of a completion queue, which may be more than asked for. -/
def cqCapacity (cq : Handle) : Verb UInt32 :=
  detailsOf cq .completionQueue fun
    | .cq capacity => some capacity
    | _ => none

def destroyCq (cq : Handle) : Verb Unit := destroy cq .completionQueue P.destroyCq

/-- Take at most `n` completions. -/
def pollCq (cq : Handle) (n : Nat) : Verb (List Completion) := do
  native (P.pollCq (← resolve cq .completionQueue) n)

def reqNotifyCq (cq : Handle) (solicitedOnly : Bool) : Verb Unit := do
  native (P.reqNotifyCq (← resolve cq .completionQueue) solicitedOnly)

/-- The next event of a channel: the completion queue it is about, and that queue's cookie. -/
def getCqEvent (channel : Handle) : Verb (Handle × UInt64) := do
  let event ← native (P.getCqEvent (← resolve channel .completionChannel))
  .read fun v =>
    match v.registry.lookup .completionQueue event.cq with
    | some cq => .ok (cq, event.cookie)
    | none => .error (.nullResource .completionQueue)

def ackCqEvents (cq : Handle) (n : UInt32) : Verb Unit := do
  let id ← resolve cq .completionQueue
  .update fun v => { v with host := P.ackCqEvents id n v.host }

/-! ## Shared receive queues -/

def createSrq (pd : Handle) (init : SrqInit) : Verb Handle := do
  let id ← native (P.createSrq (← resolve pd .protectionDomain) init)
  issue .sharedReceiveQueue id [pd]

def destroySrq (srq : Handle) : Verb Unit := destroy srq .sharedReceiveQueue P.destroySrq

def postSrqRecv (srq : Handle) (requests : List RecvRequest) : Verb Unit := do
  posting (P.postSrqRecv (← resolve srq .sharedReceiveQueue) requests)

/-! ## Queue pairs -/

/-- Create a queue pair in the reset state. -/
def createQp (pd : Handle) (init : QpInit) : Verb Handle := do
  match Transport.ofCode? init.transport with
  | none => throw (.invalidArgument .unsupportedTransport)
  | some transport =>
    let pdId ← resolve pd .protectionDomain
    let sendCq ← resolve init.sendCq .completionQueue
    let recvCq ← resolve init.recvCq .completionQueue
    let srq ← resolveOptional init.srq .sharedReceiveQueue
    let qp ← native (P.createQp pdId
      { sendCq, recvCq, srq, transport, signalAll := init.signalAll, caps := init.caps })
    let handle ← issue .queuePair qp.native [pd, init.sendCq, init.recvCq, init.srq]
    recordDetails handle (.qp qp.number transport)
    pure handle

/-- Apply the attributes that the mask selects, possibly changing the state. -/
def modifyQp (qp : Handle) (attributes : QpAttributes) (mask : QpMask) : Verb Unit := do
  native (P.modifyQp (← resolve qp .queuePair) attributes mask)

/-- Number and transport of a queue pair. -/
def qpDetails (qp : Handle) : Verb (UInt32 × Transport) :=
  detailsOf qp .queuePair fun
    | .qp number transport => some (number, transport)
    | _ => none

/-- The number that peers address a queue pair by. -/
def qpNumber (qp : Handle) : Verb UInt32 := (·.1) <$> qpDetails qp

def qpTransport (qp : Handle) : Verb Transport := (·.2) <$> qpDetails qp

def qpState (qp : Handle) : Verb QpState := do
  native (P.queryQpState (← resolve qp .queuePair))

/-- What a peer needs to know to connect to a queue pair through a local port. -/
def endpoint (qp : Handle) (port : UInt8) : Verb Endpoint := do
  let number ← qpNumber qp
  let ctx ← .read fun v =>
    match contextOf? v.registry qp with
    | some ctx => .ok ctx
    | none => .error (.invalidHandle .queuePair qp)
  let attributes ← queryPort P ctx port
  let gid ← queryGid P ctx port 0
  pure { qpNumber := number, lid := attributes.lid, port, gid, mtu := attributes.activeMtu }

/-- Bring a queue pair from reset to ready to send, connected to `remote`, with `access` granted to
the peer. A port without a local identifier is reached by its global one. -/
def connectQp (qp : Handle) (here remote : Endpoint) (access : Permission) : Verb Unit := do
  let transport ← qpTransport qp
  let reliable (mask extra : QpMask) : QpMask :=
    if transport = .reliable then mask ||| extra else mask
  modifyQp P qp
    { state := QpState.init.code, port := here.port, accessFlags := access.bits }
    (.state ||| .pkeyIndex ||| .port ||| .accessFlags)
  modifyQp P qp
    { state := QpState.rtr.code
      pathMtu := min here.mtu remote.mtu
      destination := remote.qpNumber
      destinationLid := remote.lid
      port := here.port
      isGlobal := remote.lid = 0
      destinationGid := remote.gid
      maxResponderReads := if transport = .reliable then 16 else 0
      minRnrTimer := if transport = .reliable then 12 else 0 }
    (reliable (.state ||| .addressVector ||| .pathMtu ||| .destination ||| .recvPsn)
      (.maxResponderReads ||| .minRnrTimer))
  modifyQp P qp
    { state := QpState.rts.code
      maxInitiatorReads := if transport = .reliable then 16 else 0
      timeout := if transport = .reliable then 14 else 0
      retryCount := if transport = .reliable then 6 else 0
      rnrRetry := if transport = .reliable then 7 else 0 }
    (reliable (.state ||| .sendPsn)
      (.maxInitiatorReads ||| .timeout ||| .retryCount ||| .rnrRetry))

def destroyQp (qp : Handle) : Verb Unit := destroy qp .queuePair P.destroyQp

/-- Post send requests. On a rejection, the requests before the rejected one stay posted. -/
def postSend (qp : Handle) (requests : List SendRequest) : Verb Unit := do
  posting (P.postSend (← resolve qp .queuePair) requests)

/-- Post receive requests, with the same rule. -/
def postRecv (qp : Handle) (requests : List RecvRequest) : Verb Unit := do
  posting (P.postRecv (← resolve qp .queuePair) requests)

end Rdma.Verbs
