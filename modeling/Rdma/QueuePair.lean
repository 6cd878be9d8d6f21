import Rdma.Handle
import Rdma.Permission
import Rdma.Port

/-!
# Queue pairs as callers describe them

Transports, states, capabilities, creation and modification attributes, and the endpoints that peers
exchange.
-/

namespace Rdma

/-- Transport of a queue pair: reliable or unreliable connection. -/
inductive Transport where
  | reliable
  | unreliable
deriving Repr, DecidableEq

namespace Transport

def code : Transport → UInt32
  | reliable => 2
  | unreliable => 3

def ofCode? : UInt32 → Option Transport
  | 2 => some reliable
  | 3 => some unreliable
  | _ => none

def label : Transport → String
  | reliable => "Rc"
  | unreliable => "Uc"

end Transport

/-- State of a queue pair: reset, initialised, ready to receive, ready to send, send queue drained,
send queue error, error. -/
inductive QpState where
  | reset
  | init
  | rtr
  | rts
  | sqd
  | sqe
  | error
deriving Repr, DecidableEq

namespace QpState

def code : QpState → UInt32
  | reset => 0
  | init => 1
  | rtr => 2
  | rts => 3
  | sqd => 4
  | sqe => 5
  | error => 6

def ofCode? : UInt32 → Option QpState
  | 0 => some reset
  | 1 => some init
  | 2 => some rtr
  | 3 => some rts
  | 4 => some sqd
  | 5 => some sqe
  | 6 => some error
  | _ => none

def label : QpState → String
  | reset => "Reset"
  | init => "Init"
  | rtr => "Rtr"
  | rts => "Rts"
  | sqd => "Sqd"
  | sqe => "Sqe"
  | error => "Error"

theorem ofCode?_code (s : QpState) : ofCode? s.code = some s := by cases s <;> rfl

end QpState

/-- Capacities asked for when a queue pair is created. -/
structure QpCaps where
  maxSendWr : UInt32 := 128
  maxRecvWr : UInt32 := 128
  maxSendSge : UInt32 := 1
  maxRecvSge : UInt32 := 1
  maxInlineData : UInt32 := 0
deriving Repr, DecidableEq

/-- Creation attributes of a queue pair. A null `srq` stands for a receive queue of its own. -/
structure QpInit where
  sendCq : Handle := .null
  recvCq : Handle := .null
  srq : Handle := .null
  /-- Code of the transport. -/
  transport : UInt32 := Transport.reliable.code
  /-- Every send request is to be completed, flagged or not. -/
  signalAll : Bool := false
  caps : QpCaps := {}
deriving Repr, DecidableEq

/-- Creation attributes of a shared receive queue. -/
structure SrqInit where
  maxWr : UInt32 := 256
  maxSge : UInt32 := 1
  limit : UInt32 := 0
deriving Repr, DecidableEq

/-- Which attributes a modification applies, one bit an attribute. -/
structure QpMask where
  bits : UInt32 := 0
deriving Repr, DecidableEq

namespace QpMask

def state : QpMask := ⟨0x1⟩
def currentState : QpMask := ⟨0x2⟩
def accessFlags : QpMask := ⟨0x8⟩
def pkeyIndex : QpMask := ⟨0x10⟩
def port : QpMask := ⟨0x20⟩
def addressVector : QpMask := ⟨0x80⟩
def pathMtu : QpMask := ⟨0x100⟩
def timeout : QpMask := ⟨0x200⟩
def retryCount : QpMask := ⟨0x400⟩
def rnrRetry : QpMask := ⟨0x800⟩
def recvPsn : QpMask := ⟨0x1000⟩
def maxInitiatorReads : QpMask := ⟨0x2000⟩
def minRnrTimer : QpMask := ⟨0x8000⟩
def sendPsn : QpMask := ⟨0x10000⟩
def maxResponderReads : QpMask := ⟨0x20000⟩
def destination : QpMask := ⟨0x100000⟩

def union (m n : QpMask) : QpMask := ⟨m.bits ||| n.bits⟩

instance : OrOp QpMask := ⟨union⟩

def contains (m n : QpMask) : Bool := m.bits &&& n.bits = n.bits

end QpMask

/-- Attributes of a modification. Those its mask does not select are ignored. -/
structure QpAttributes where
  /-- Code of the state to enter. -/
  state : UInt32 := 0
  /-- Code of the state the caller believes the queue pair is in. -/
  currentState : UInt32 := 0
  /-- Code of the path MTU. -/
  pathMtu : UInt32 := 0
  /-- Rights granted to the peer. -/
  accessFlags : UInt32 := 0
  qkey : UInt32 := 0
  recvPsn : UInt32 := 0
  sendPsn : UInt32 := 0
  destination : UInt32 := 0
  destinationLid : UInt16 := 0
  port : UInt8 := 0
  timeout : UInt8 := 0
  retryCount : UInt8 := 0
  rnrRetry : UInt8 := 0
  minRnrTimer : UInt8 := 0
  maxInitiatorReads : UInt8 := 0
  maxResponderReads : UInt8 := 0
  sourceGidIndex : UInt8 := 0
  isGlobal : Bool := false
  pkeyIndex : UInt8 := 0
  destinationGid : Gid := Gid.zero
deriving Repr, DecidableEq

/-- What a peer needs to know to connect to a queue pair. -/
structure Endpoint where
  qpNumber : UInt32 := 0
  lid : UInt16 := 0
  port : UInt8 := 0
  gid : Gid := Gid.zero
  /-- Code of the path MTU. -/
  mtu : UInt32 := 0
deriving Repr, DecidableEq

end Rdma
