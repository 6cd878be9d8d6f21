import Rdma.Setting

/-!
# Trees of TOML documents

A document is a tree of tables, and each statement extends it. What a statement may extend depends
on how the tables on its path came about: a table is defined once, and never both by a header and by
dotted keys.
-/

namespace Rdma.Toml

/-- How a table came about. -/
inductive Origin where
  /-- By its own header, or as the whole document. -/
  | header
  /-- Only named on the way to the table of a header. -/
  | implied
  /-- Named in a dotted key. -/
  | dotted
deriving Repr, DecidableEq

inductive Node where
  | value (setting : Setting)
  | table (origin : Origin) (entries : List (String × Node))
  /-- Tables defined by headers in double brackets; the last one is being defined. -/
  | tables (elements : List (List (String × Node)))

/-- The entries of a table that is still being defined. -/
abbrev Entries := List (String × Node)

namespace Entries

def find? (entries : Entries) (key : String) : Option Node :=
  (List.find? (fun e => e.1 = key) entries).map (·.2)

/-- Put a node under a key, in the place of an earlier one or else at the end. -/
def put (key : String) (node : Node) : Entries → Entries
  | [] => [(key, node)]
  | (k, n) :: rest => if k = key then (key, node) :: rest else (k, n) :: put key node rest

/-- Change the table at the end of a path of keys. Missing tables are made on the way, and of tables
in double brackets the last one is meant. A dotted key does not lead through a table with a header.
-/
def change (dotted : Bool) (f : Origin → Entries → Option Entries) :
    List String → Origin → Entries → Option Entries
  | [], origin, entries => f origin entries
  | key :: path, _, entries => do
    let node ←
      match entries.find? key with
      | none =>
        let origin := if dotted then .dotted else .implied
        Node.table origin <$> change dotted f path origin []
      | some (.value _) => none
      | some (.table origin children) =>
        if dotted && origin = .header then none
        else Node.table origin <$> change dotted f path origin children
      | some (.tables elements) => do
        let last ← change dotted f path .header (← elements.getLast?)
        pure (.tables (elements.dropLast ++ [last]))
    pure (entries.put key node)

/-- Put a value under a key that is free. A table made by dotted keys is extended by dotted keys
only, and any other table by plain keys only. -/
def assignKey (path : List String) (key : String) (value : Setting) (origin : Origin)
    (entries : Entries) : Option Entries :=
  if decide (origin = .dotted) = path.isEmpty then none
  else if (entries.find? key).isSome then none
  else some (entries.put key (.value value))

/-- Assign a value to a dotted key within a table. -/
def assign (key : List String) (value : Setting) (origin : Origin) (entries : Entries) :
    Option Entries := do
  let path := key.dropLast
  change true (assignKey path (← key.getLast?) value) path origin entries

/-- Define the table under a key by its header. A table that was implied moves to the end. -/
def defineTable (key : String) (_ : Origin) (entries : Entries) : Option Entries :=
  match entries.find? key with
  | none => some (entries.put key (.table .header []))
  | some (.table .implied children) =>
    some (List.filter (fun e => e.1 ≠ key) entries ++ [(key, .table .header children)])
  | _ => none

/-- Begin one more table under a key in double brackets. -/
def defineElement (key : String) (_ : Origin) (entries : Entries) : Option Entries :=
  match entries.find? key with
  | none => some (entries.put key (.tables [[]]))
  | some (.tables elements) => some (entries.put key (.tables (elements ++ [[]])))
  | _ => none

end Entries

mutual

/-- The setting that a node stands for. -/
def Node.setting : Node → Setting
  | .value setting => setting
  | .table _ entries => .table (settingsOf entries)
  | .tables elements => .list (elementsOf elements)

def settingsOf : List (String × Node) → List (String × Setting)
  | [] => []
  | (key, node) :: rest => (key, node.setting) :: settingsOf rest

def elementsOf : List (List (String × Node)) → List Setting
  | [] => []
  | entries :: rest => .table (settingsOf entries) :: elementsOf rest

end

end Rdma.Toml
