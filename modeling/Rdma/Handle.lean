import Rdma.Text.Hex

/-!
# Handles

Callers name resources by opaque 64-bit handles. The top byte of a handle tells the kind of
resource, the other seven bytes are a sequence number; zero is never issued. Providers name the same
resources by native identities, where zero is null.
-/

namespace Rdma

/-- Kind of resource that a handle refers to. -/
inductive ResourceKind where
  | context
  | protectionDomain
  | memoryRegion
  | completionChannel
  | completionQueue
  | sharedReceiveQueue
  | queuePair
deriving Repr, DecidableEq

namespace ResourceKind

def tag : ResourceKind → UInt64
  | context => 1
  | protectionDomain => 2
  | memoryRegion => 3
  | completionChannel => 4
  | completionQueue => 5
  | sharedReceiveQueue => 6
  | queuePair => 7

def ofTag? : UInt64 → Option ResourceKind
  | 1 => some context
  | 2 => some protectionDomain
  | 3 => some memoryRegion
  | 4 => some completionChannel
  | 5 => some completionQueue
  | 6 => some sharedReceiveQueue
  | 7 => some queuePair
  | _ => none

/-- The kind in words. -/
def name : ResourceKind → String
  | context => "context"
  | protectionDomain => "protection domain"
  | memoryRegion => "memory region"
  | completionChannel => "completion channel"
  | completionQueue => "completion queue"
  | sharedReceiveQueue => "shared receive queue"
  | queuePair => "queue pair"

def label : ResourceKind → String
  | context => "Context"
  | protectionDomain => "ProtectionDomain"
  | memoryRegion => "MemoryRegion"
  | completionChannel => "CompletionChannel"
  | completionQueue => "CompletionQueue"
  | sharedReceiveQueue => "SharedReceiveQueue"
  | queuePair => "QueuePair"

theorem ofTag?_tag (k : ResourceKind) : ofTag? k.tag = some k := by cases k <;> rfl

end ResourceKind

/-- Identity of a resource inside the provider. Zero is null. A provider counts identities in 64 bits,
and a natural number stands for them: an identity is never given out twice and each object takes one,
so that the two differ only from the 2^64th object on, and runs are looked at that create fewer. -/
abbrev NativeId := Nat

namespace NativeId

def null : NativeId := 0

def describe (id : NativeId) : String := "RawResource(" ++ Text.hex id ++ ")"

end NativeId

/-- Opaque handle of a resource. -/
structure Handle where
  raw : UInt64
deriving Repr, DecidableEq

namespace Handle

/-- The handle that names nothing. -/
def null : Handle := ⟨0⟩

def isNull (h : Handle) : Bool := h.raw = 0

/-- The bits of a handle that hold its sequence number. -/
def sequenceMask : UInt64 := 0x00ffffffffffffff

/-- The handle of a kind with a sequence number, which wraps at 56 bits. -/
def compose (kind : ResourceKind) (sequence : Nat) : Handle :=
  ⟨kind.tag <<< 56 ||| (UInt64.ofNat sequence &&& sequenceMask)⟩

/-- The kind told by the handle, if the handle could have been issued. -/
def kind? (h : Handle) : Option ResourceKind := ResourceKind.ofTag? (h.raw >>> 56)

def sequence (h : Handle) : UInt64 := h.raw &&& sequenceMask

def describe (h : Handle) : String :=
  match h.kind? with
  | some kind => "Handle(" ++ kind.name ++ "#" ++ toString h.sequence ++ ")"
  | none => "Handle(" ++ Text.hex h.raw.toNat ++ ")"

end Handle

end Rdma
