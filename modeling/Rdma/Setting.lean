import Rdma.Table

/-!
# Settings

What a configuration document or an exchanged record is made of, whatever its format, and how typed
values are read from it. Reading refuses what has the wrong type or range.
-/

namespace Rdma

inductive Setting where
  | null
  | boolean (value : Bool)
  | integer (value : Int)
  /-- A number that is not written as an integer. No setting takes one. -/
  | real
  | text (value : String)
  /-- A date, a time or both, in its canonical text. -/
  | moment (value : String)
  | list (elements : List Setting)
  | table (entries : List (String × Setting))
deriving Repr

/-- Fields of a record, by name. -/
abbrev Fields := Table String Setting

namespace Setting

/-- How a format writes a choice that has no content of its own. -/
inductive Blank where
  /-- As null. -/
  | null
  /-- As an empty list or table. -/
  | empty
deriving Repr, DecidableEq

def isBlank : Blank → Setting → Bool
  | .null, null => true
  | .empty, list elements => elements.isEmpty
  | .empty, table entries => entries.isEmpty
  | _, _ => false

/-- A natural number below `limit`. -/
def natBelow? (limit : Nat) : Setting → Option Nat
  | integer n => if 0 ≤ n ∧ n < limit then some n.toNat else none
  | _ => none

def uint8? (s : Setting) : Option UInt8 := (s.natBelow? UInt8.size).map UInt8.ofNat
def uint16? (s : Setting) : Option UInt16 := (s.natBelow? UInt16.size).map UInt16.ofNat
def uint32? (s : Setting) : Option UInt32 := (s.natBelow? UInt32.size).map UInt32.ofNat
def uint64? (s : Setting) : Option UInt64 := (s.natBelow? UInt64.size).map UInt64.ofNat

/-- A text. A moment serves as its text. -/
def text? : Setting → Option String
  | text value => some value
  | moment value => some value
  | _ => none

/-- A list, each of whose elements `read` takes. -/
def list? {α : Type} (read : Setting → Option α) : Setting → Option (List α)
  | list elements => elements.mapM read
  | _ => none

/-- One of named choices: its name, or a table with its name as the only key and no content. -/
def choice? {α : Type} (blank : Blank) (choices : List (String × α)) : Setting → Option α
  | text name => choices.lookup name
  | table [(name, content)] => if content.isBlank blank then choices.lookup name else none
  | _ => none

/-- The fields of a record. A table gives them by name, none twice, and what else it holds is passed
over; a list gives them in the order of the names. -/
def fields? (names : List String) : Setting → Option Fields
  | table entries =>
    let known := entries.filter (names.contains ·.1)
    if distinct : (known.map (·.1)).Nodup then some { entries := known, distinct } else none
  | list elements =>
    if elements.length ≤ names.length then some (.ofList (names.zip elements)) else none
  | _ => none

end Setting

namespace Fields

/-- The value of a field. A missing field has its default. -/
def field? {α : Type} (fields : Fields) (name : String) (default : α)
    (read : Setting → Option α) : Option α :=
  match fields.find? name with
  | none => some default
  | some s => read s

/-- The value of a field that must be there. -/
def required? {α : Type} (fields : Fields) (name : String) (read : Setting → Option α) :
    Option α :=
  (fields.find? name).bind read

end Fields

end Rdma
