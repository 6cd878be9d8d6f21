import Rdma.OsError
import Rdma.Step

/-!
# Descriptors

Descriptors of the system as far as verbs use them: status flags, and tokens that are added one by
one and taken one by one. A closed descriptor is `none`.
-/

namespace Rdma

/-- What an open descriptor leads to. -/
inductive DescriptorTarget where
  /-- A counter of tokens: each write adds one, each read takes one. -/
  | counter (tokens : Nat)
  | pipeReader
  | pipeWriter
  /-- A foreign file open for writing: it always seems readable, and swallows tokens. -/
  | writeOnly
  /-- A foreign file open for reading: it always seems readable, and holds no token. -/
  | readOnly
deriving Repr, DecidableEq

/-- An open descriptor. -/
structure Descriptor where
  target : DescriptorTarget
  nonblocking : Bool := false
deriving Repr, DecidableEq

namespace Descriptor

/-- The status flag of a descriptor that never blocks. -/
def nonblockFlag : Int32 := 2048

/-- A fresh counter without tokens. -/
def counter : Descriptor := { target := .counter 0 }

def accessMode (d : Descriptor) : Int32 :=
  match d.target with
  | .pipeReader | .readOnly => 0
  | .pipeWriter | .writeOnly => 1
  | .counter _ => 2

/-- File status flags: the access mode and the non-blocking flag. -/
def flags (d : Descriptor) : Int32 :=
  d.accessMode ||| if d.nonblocking then nonblockFlag else 0

/-- Add status flags. Those already set stay, and the access mode cannot be changed. -/
def addFlags (d : Descriptor) (mode : Int32) : Descriptor :=
  { d with nonblocking := d.nonblocking || mode &&& nonblockFlag ≠ 0 }

/-- Would reading return at once? -/
def readable (d : Descriptor) : Bool :=
  match d.target with
  | .counter tokens => tokens ≠ 0
  | .pipeReader | .pipeWriter => false
  | .writeOnly | .readOnly => true

/-- Add one token. -/
def signal (d : Descriptor) : Except OsError Descriptor :=
  match d.target with
  | .counter tokens => .ok { d with target := .counter (tokens + 1) }
  | .pipeWriter | .writeOnly => .ok d
  | .pipeReader | .readOnly => .error (.code .badDescriptor)

/-- Take one token. An empty counter is reported as "try again", whether or not the descriptor would
block. -/
def take (d : Descriptor) : Except OsError Descriptor :=
  match d.target with
  | .counter 0 => .error (.code .again)
  | .counter (tokens + 1) => .ok { d with target := .counter tokens }
  | .pipeReader => .error (.code .again)
  | .pipeWriter | .writeOnly | .readOnly => .error (.code .badDescriptor)

/-- What a call does to a descriptor that may be closed. A closed one is refused. -/
def onOpen {α : Type} (f : Descriptor → α × Option Descriptor) : Step (Option Descriptor) OsError α
  | some d => let (a, d?) := f d; (.ok a, d?)
  | none => (.error (.code .badDescriptor), none)

/-- The file status flags. -/
def getFlags : Step (Option Descriptor) OsError Int32 := onOpen fun d => (d.flags, some d)

/-- Add file status flags. -/
def setFlags (mode : Int32) : Step (Option Descriptor) OsError Unit :=
  onOpen fun d => ((), some (d.addFlags mode))

def close : Step (Option Descriptor) OsError Unit := onOpen fun _ => ((), none)

end Descriptor

end Rdma
