import Rdma.Text.Record

/-!
# Work completions

A completion tells what became of one work request. Its status and opcode are plain numbers, decoded
when they are looked at.
-/

namespace Rdma

/-- Outcome of a work request. -/
inductive CompletionStatus where
  | success
  | localLength
  | localQpOperation
  | localEecOperation
  | localProtection
  | flushed
  | windowBind
  | badResponse
  | localAccess
  | remoteInvalidRequest
  | remoteAccess
  | remoteOperation
  | retryExceeded
  | rnrRetryExceeded
  | localRddViolation
  | remoteInvalidRdRequest
  | remoteAborted
  | invalidEecNumber
  | invalidEecState
  | fatal
  | responseTimeout
  | general
deriving Repr, DecidableEq

namespace CompletionStatus

/-- The statuses in the order of their codes. -/
def all : List CompletionStatus :=
  [success, localLength, localQpOperation, localEecOperation, localProtection, flushed, windowBind,
    badResponse, localAccess, remoteInvalidRequest, remoteAccess, remoteOperation, retryExceeded,
    rnrRetryExceeded, localRddViolation, remoteInvalidRdRequest, remoteAborted, invalidEecNumber,
    invalidEecState, fatal, responseTimeout, general]

def code : CompletionStatus → UInt32
  | success => 0
  | localLength => 1
  | localQpOperation => 2
  | localEecOperation => 3
  | localProtection => 4
  | flushed => 5
  | windowBind => 6
  | badResponse => 7
  | localAccess => 8
  | remoteInvalidRequest => 9
  | remoteAccess => 10
  | remoteOperation => 11
  | retryExceeded => 12
  | rnrRetryExceeded => 13
  | localRddViolation => 14
  | remoteInvalidRdRequest => 15
  | remoteAborted => 16
  | invalidEecNumber => 17
  | invalidEecState => 18
  | fatal => 19
  | responseTimeout => 20
  | general => 21

def ofCode? (code : UInt32) : Option CompletionStatus := all[code.toNat]?

def label : CompletionStatus → String
  | success => "Success"
  | localLength => "LocLenErr"
  | localQpOperation => "LocQpOpErr"
  | localEecOperation => "LocEecOpErr"
  | localProtection => "LocProtErr"
  | flushed => "WrFlushErr"
  | windowBind => "MwBindErr"
  | badResponse => "BadRespErr"
  | localAccess => "LocAccessErr"
  | remoteInvalidRequest => "RemInvReqErr"
  | remoteAccess => "RemAccessErr"
  | remoteOperation => "RemOpErr"
  | retryExceeded => "RetryExcErr"
  | rnrRetryExceeded => "RnrRetryExcErr"
  | localRddViolation => "LocRddViolErr"
  | remoteInvalidRdRequest => "RemInvRdReqErr"
  | remoteAborted => "RemAbortErr"
  | invalidEecNumber => "InvEecnErr"
  | invalidEecState => "InvEecStateErr"
  | fatal => "FatalErr"
  | responseTimeout => "RespTimeoutErr"
  | general => "GeneralErr"

def message : CompletionStatus → String
  | success => "success"
  | localLength => "local length error"
  | localQpOperation => "local QP operation error"
  | localEecOperation => "local EE context operation error"
  | localProtection => "local protection error"
  | flushed => "WR flush error"
  | windowBind => "memory window bind error"
  | badResponse => "bad response error"
  | localAccess => "local access error"
  | remoteInvalidRequest => "remote invalid request error"
  | remoteAccess => "remote access error"
  | remoteOperation => "remote operation error"
  | retryExceeded => "transport retry counter exceeded"
  | rnrRetryExceeded => "RNR retry counter exceeded"
  | localRddViolation => "local RDD violation error"
  | remoteInvalidRdRequest => "remote invalid RD request"
  | remoteAborted => "remote aborted error"
  | invalidEecNumber => "invalid EE context number"
  | invalidEecState => "invalid EE context state error"
  | fatal => "fatal error"
  | responseTimeout => "response timeout error"
  | general => "general error"

theorem ofCode?_code (s : CompletionStatus) : ofCode? s.code = some s := by cases s <;> rfl

theorem code_ne {s t : CompletionStatus} (h : s ≠ t) : s.code ≠ t.code := by
  intro same
  have := congrArg ofCode? same
  rw [ofCode?_code, ofCode?_code] at this
  exact h (Option.some.inj this)

end CompletionStatus

/-- Kind of request that a completion belongs to. -/
inductive CompletionOpcode where
  | send
  | write
  | read
  | compareSwap
  | fetchAdd
  | bindWindow
  | recv
  | recvWriteWithImm
deriving Repr, DecidableEq

namespace CompletionOpcode

def code : CompletionOpcode → UInt32
  | send => 0
  | write => 1
  | read => 2
  | compareSwap => 3
  | fetchAdd => 4
  | bindWindow => 5
  | recv => 128
  | recvWriteWithImm => 129

def ofCode? : UInt32 → Option CompletionOpcode
  | 0 => some send
  | 1 => some write
  | 2 => some read
  | 3 => some compareSwap
  | 4 => some fetchAdd
  | 5 => some bindWindow
  | 128 => some recv
  | 129 => some recvWriteWithImm
  | _ => none

def label : CompletionOpcode → String
  | send => "Send"
  | write => "RdmaWrite"
  | read => "RdmaRead"
  | compareSwap => "CompSwap"
  | fetchAdd => "FetchAdd"
  | bindWindow => "BindMw"
  | recv => "Recv"
  | recvWriteWithImm => "RecvRdmaImm"

theorem ofCode?_code (op : CompletionOpcode) : ofCode? op.code = some op := by cases op <;> rfl

end CompletionOpcode

/-- A completion queue entry. -/
structure Completion where
  wrId : UInt64 := 0
  status : UInt32 := 0
  opcode : UInt32 := 0
  vendorError : UInt32 := 0
  byteLength : UInt32 := 0
  imm : UInt32 := 0
  qpNumber : UInt32 := 0
  sourceQp : UInt32 := 0
  flags : UInt32 := 0
deriving Repr, DecidableEq

namespace Completion

/-- The flag of a completion that carries immediate data. -/
def withImm : UInt32 := 2

/-- The status; a code that stands for none is a general error. -/
def statusOf (c : Completion) : CompletionStatus :=
  (CompletionStatus.ofCode? c.status).getD .general

def opcode? (c : Completion) : Option CompletionOpcode := CompletionOpcode.ofCode? c.opcode

def failed (c : Completion) : Bool := c.status ≠ CompletionStatus.success.code

/-- The bytes transferred, or the status of the failure. -/
def result (c : Completion) : Except CompletionStatus UInt32 :=
  match c.statusOf with
  | .success => .ok c.byteLength
  | failure => .error failure

def imm? (c : Completion) : Option UInt32 :=
  if c.flags &&& withImm ≠ 0 then some c.imm else none

/-- The fields of 32 bits, by the names they are shown under. -/
def fields (c : Completion) : List (String × UInt32) :=
  [("status", c.status), ("opcode", c.opcode), ("vendor_err", c.vendorError),
    ("byte_len", c.byteLength), ("imm_data", c.imm), ("qp_num", c.qpNumber),
    ("src_qp", c.sourceQp), ("wc_flags", c.flags)]

def describe (c : Completion) : String :=
  let opcode :=
    match c.opcode? with
    | some op => "Some(" ++ op.label ++ ")"
    | none => "None"
  Text.record "Wc"
    [("wr_id", toString c.wrId), ("status", c.statusOf.label), ("opcode", opcode),
      ("byte_len", toString c.byteLength)]

end Completion

end Rdma
