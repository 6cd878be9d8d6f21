import Rdma.VerbsError
import Rdma.WorkRequest

/-!
# Linked lists of work requests

Callers across the boundary link their work requests by address. A list is walked from its head to
the null address; a cycle is cut off by the limit on the length. Nothing is taken from a list with a
bad node.
-/

namespace Rdma.Boundary

/-- A node of a linked list. Without a next address it is the last one. -/
structure Node (α : Type) where
  item : α
  next : Option Nat := none
deriving Repr, DecidableEq

/-- The nodes that a caller's memory holds, by address. -/
abbrev Heap (α : Type) := Nat → Node α

/-- A scatter/gather list of a caller: an array that may be missing, and the number of its entries.
-/
structure RawSges where
  entries : Option (List Sge) := none
  count : Int32 := 0
deriving Repr, DecidableEq

/-- The entries of a scatter/gather list. An empty one needs no array. -/
def RawSges.decode (s : RawSges) : Except ArgumentError (List Sge) :=
  if s.count = 0 then .ok []
  else if s.count < 0 then .error .badSgeList
  else match s.entries with
    | none => .error .badSgeList
    | some entries => .ok (entries.take s.count.toInt.toNat)

/-- A send request as a caller writes it. -/
structure RawSend where
  wrId : UInt64 := 0
  sges : RawSges := {}
  /-- Code of the operation. -/
  opcode : UInt32 := SendOpcode.send.code
  flags : SendFlags := {}
  imm : UInt32 := 0
  remote : RemoteAddress := {}
  compareAdd : UInt64 := 0
  swap : UInt64 := 0
deriving Repr, DecidableEq

/-- A receive request as a caller writes it. -/
structure RawRecv where
  wrId : UInt64 := 0
  sges : RawSges := {}
deriving Repr, DecidableEq

def RawSend.decode (r : RawSend) : Except ArgumentError SendRequest := do
  match SendOpcode.ofCode? r.opcode with
  | none => throw .unknownSendOpcode
  | some opcode =>
    let sges ← r.sges.decode
    pure
      { wrId := r.wrId, opcode, sges, flags := r.flags, imm := r.imm, remote := r.remote
        compareAdd := r.compareAdd, swap := r.swap }

def RawRecv.decode (r : RawRecv) : Except ArgumentError RecvRequest := do
  pure { wrId := r.wrId, sges := ← r.sges.decode }

/-- The longest list that is accepted. -/
def listLimit : Nat := 0x10000

/-- Walk on from an address, with room for so many more nodes. `found` holds the nodes seen so far,
last one first. -/
def walk {α β : Type} (heap : Heap α) (decode : α → Except ArgumentError β) :
    Nat → List β → Option Nat → Except ArgumentError (List β)
  | _, found, none => .ok found.reverse
  | 0, _, some _ => .error .listTooLong
  | room + 1, found, some address =>
    match decode (heap address).item with
    | .error e => .error e
    | .ok b => walk heap decode room (b :: found) (heap address).next

/-- The list that begins at an address. -/
def listFrom {α β : Type} (decode : α → Except ArgumentError β) (heap : Heap α)
    (head : Option Nat) : Except ArgumentError (List β) :=
  walk heap decode listLimit [] head

/-- The send requests of a linked list. -/
def sendList : Heap RawSend → Option Nat → Except ArgumentError (List SendRequest) :=
  listFrom RawSend.decode

/-- The receive requests of a linked list. -/
def recvList : Heap RawRecv → Option Nat → Except ArgumentError (List RecvRequest) :=
  listFrom RawRecv.decode

end Rdma.Boundary
