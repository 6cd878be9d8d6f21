/-!
# First in, first out

A queue that grows at one end and shrinks at the other. `toList`, oldest first, is the view: every
operation is described by what it does to `toList`. Adding an element and asking for the size take
the same time whatever the queue holds.
-/

namespace Rdma

/-- A queue of elements of type `α`. -/
structure Fifo (α : Type) where
  /-- The older elements, oldest first. -/
  front : List α := []
  /-- The younger elements, youngest first. -/
  back : List α := []
  size : Nat := 0
  size_eq : size = front.length + back.length := by rfl
deriving Repr, DecidableEq

namespace Fifo

variable {α : Type}

def empty : Fifo α := {}

/-- The elements, oldest first. -/
def toList (q : Fifo α) : List α :=
  if q.back.isEmpty then q.front else q.front ++ q.back.reverse

def ofList (elements : List α) : Fifo α :=
  { front := elements, size := elements.length, size_eq := rfl }

/-- Add an element as the youngest. -/
def push (q : Fifo α) (a : α) : Fifo α :=
  { q with
    back := a :: q.back
    size := q.size + 1
    size_eq := by rw [q.size_eq, List.length_cons, Nat.add_assoc] }

/-- The `n` oldest elements, or all if there are fewer. -/
def take (q : Fifo α) (n : Nat) : List α := q.toList.take n

/-- What is left without the `n` oldest elements. -/
def drop (q : Fifo α) (n : Nat) : Fifo α := ofList (q.toList.drop n)

theorem toList_eq (q : Fifo α) : q.toList = q.front ++ q.back.reverse := by
  unfold toList
  split
  · simp_all
  · rfl

@[simp] theorem toList_empty : (empty : Fifo α).toList = [] := rfl

@[simp] theorem toList_ofList (elements : List α) : (ofList elements).toList = elements := rfl

@[simp] theorem toList_push (q : Fifo α) (a : α) : (q.push a).toList = q.toList ++ [a] := by
  simp [toList_eq, push]

@[simp] theorem toList_drop (q : Fifo α) (n : Nat) : (q.drop n).toList = q.toList.drop n := rfl

theorem size_eq_length (q : Fifo α) : q.size = q.toList.length := by
  rw [toList_eq, q.size_eq, List.length_append, List.length_reverse]

end Fifo

end Rdma
