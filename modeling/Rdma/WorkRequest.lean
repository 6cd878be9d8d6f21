/-!
# Work requests

What callers post to send and receive queues.
-/

namespace Rdma

/-- Scatter/gather entry: a range of local memory under a local key. -/
structure Sge where
  addr : UInt64 := 0
  length : UInt32 := 0
  lkey : UInt32 := 0
deriving Repr, DecidableEq

/-- Bytes described by a scatter/gather list. -/
def Sge.totalLength : List Sge → Nat
  | [] => 0
  | sge :: rest => sge.length.toNat + totalLength rest

/-- Operation of a send request. -/
inductive SendOpcode where
  | write
  | writeWithImm
  | send
  | sendWithImm
  | read
  | compareSwap
  | fetchAdd
deriving Repr, DecidableEq

namespace SendOpcode

def code : SendOpcode → UInt32
  | write => 0
  | writeWithImm => 1
  | send => 2
  | sendWithImm => 3
  | read => 4
  | compareSwap => 5
  | fetchAdd => 6

def ofCode? : UInt32 → Option SendOpcode
  | 0 => some write
  | 1 => some writeWithImm
  | 2 => some send
  | 3 => some sendWithImm
  | 4 => some read
  | 5 => some compareSwap
  | 6 => some fetchAdd
  | _ => none

def label : SendOpcode → String
  | write => "RdmaWrite"
  | writeWithImm => "RdmaWriteWithImm"
  | send => "Send"
  | sendWithImm => "SendWithImm"
  | read => "RdmaRead"
  | compareSwap => "AtomicCmpAndSwp"
  | fetchAdd => "AtomicFetchAndAdd"

/-- Does the operation use up a receive request at the responder? -/
def consumesRecv : SendOpcode → Bool
  | send | sendWithImm | writeWithImm => true
  | _ => false

/-- Does the operation carry immediate data? -/
def hasImm : SendOpcode → Bool
  | sendWithImm | writeWithImm => true
  | _ => false

def isAtomic : SendOpcode → Bool
  | compareSwap | fetchAdd => true
  | _ => false

/-- Does the operation bring data back into local memory? -/
def writesLocal (op : SendOpcode) : Bool := op = read || op.isAtomic

theorem ofCode?_code (op : SendOpcode) : ofCode? op.code = some op := by cases op <;> rfl

theorem code_of_ofCode? {code : UInt32} {op : SendOpcode} (h : ofCode? code = some op) :
    op.code = code := by
  unfold ofCode? at h
  split at h <;> cases h <;> rfl

end SendOpcode

/-- Flags of a send request, one bit a flag. -/
structure SendFlags where
  bits : UInt32 := 0
deriving Repr, DecidableEq

namespace SendFlags

def fence : SendFlags := ⟨1⟩
def signaled : SendFlags := ⟨2⟩
def solicited : SendFlags := ⟨4⟩
def inlineData : SendFlags := ⟨8⟩

def union (f g : SendFlags) : SendFlags := ⟨f.bits ||| g.bits⟩

instance : OrOp SendFlags := ⟨union⟩

def contains (f g : SendFlags) : Bool := f.bits &&& g.bits = g.bits

end SendFlags

/-- A range of remote memory begins here. -/
structure RemoteAddress where
  addr : UInt64 := 0
  rkey : UInt32 := 0
deriving Repr, DecidableEq

/-- A request for a send queue. -/
structure SendRequest where
  wrId : UInt64 := 0
  opcode : SendOpcode := .send
  sges : List Sge := []
  flags : SendFlags := .signaled
  imm : UInt32 := 0
  /-- Target of one-sided operations. -/
  remote : RemoteAddress := {}
  /-- Value compared with, or added. -/
  compareAdd : UInt64 := 0
  swap : UInt64 := 0
deriving Repr, DecidableEq

namespace SendRequest

def totalLength (r : SendRequest) : Nat := Sge.totalLength r.sges

def isInline (r : SendRequest) : Bool := r.flags.contains .inlineData

end SendRequest

/-- A request for a receive queue. -/
structure RecvRequest where
  wrId : UInt64 := 0
  sges : List Sge := []
deriving Repr, DecidableEq

def RecvRequest.totalLength (r : RecvRequest) : Nat := Sge.totalLength r.sges

end Rdma
