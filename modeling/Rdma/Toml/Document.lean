import Rdma.Toml.Marked
import Rdma.Toml.Moment
import Rdma.Toml.Number
import Rdma.Toml.Text
import Rdma.Toml.Tree

/-!
# TOML documents

Values, statements and whole documents. A document is read into the table of its settings.
-/

namespace Rdma.Toml

open Rdma.Text (Reader)
open Rdma.Text.Reader

/-! ## Values -/

def boolean : Reader Setting :=
  (do word "true"; pure (.boolean true)) <|> (do word "false"; pure (.boolean false))

/-- A value that holds no other values. -/
def scalar : Reader Setting :=
  .text <$> string <|> boolean <|> .moment <$> moment <|> real <|> integer

/-- A list. It may run over lines, and a comma may follow its last element. -/
def list (value : Reader Setting) : Reader Setting := do
  char '['
  let elements ← separated (do filler; let v ← value; filler; pure v) (char ',')
  if !elements.isEmpty then discard (optional (char ','))
  filler
  char ']'
  pure (.list elements)

/-- A key, an equals sign and a value. -/
def keyValue (value : Reader Setting) : Reader (List String × Setting) := do
  let key ← dottedKey
  char '='
  blanks
  let v ← value
  blanks
  pure (key, v)

/-- A table between braces, on one line. -/
def inlineTable (value : Reader Setting) : Reader Setting := do
  char '\x7b'
  let assignments ← separated (keyValue value) (char ',')
  blanks
  char '\x7d'
  let entries ← given (assignments.foldlM (fun es a => Entries.assign a.1 a.2 .header es) [])
  pure (.table (settingsOf entries))

/-- A value with at most so many lists and tables inside each other. -/
def value : Nat → Reader Setting
  | 0 => scalar
  | depth + 1 => scalar <|> list (value depth) <|> inlineTable (value depth)

/-! ## Statements -/

inductive Statement where
  /-- A header in single brackets. -/
  | table (path : List String)
  /-- A header in double brackets. -/
  | element (path : List String)
  | assignment (key : List String) (value : Setting)

def header : Reader Statement :=
  (do word "[["; let path ← dottedKey; word "]]"; pure (.element path)) <|>
    (do char '['; let path ← dottedKey; char ']'; pure (.table path))

/-- A statement with the rest of its line, or nothing on a line. -/
def line : Reader (Option Statement) := do
  blanks
  match ← peek with
  | none => failure
  | some '[' => let s ← header; lineRest; pure (some s)
  | some '#' => comment; newline <|> endOfText; pure none
  | some '\n' | some '\r' => newline; pure none
  | some _ =>
    let (key, v) ← keyValue (value (nestingLimit - 1))
    lineRest
    pure (some (.assignment key v))

/-- The statements of a document. A byte order mark may precede them. -/
def statements : Reader (List Statement) := do
  discard (optional (char '\uFEFF'))
  let lines ← many line
  blanks
  pure (lines.filterMap id)

/-! ## Documents -/

/-- A document up to some statement, and the path of the table that assignments go to. -/
structure Draft where
  root : Entries := []
  path : List String := []

def Draft.extend (d : Draft) : Statement → Option Draft
  | .table path => do
    let define := Entries.defineTable (← path.getLast?)
    pure { root := ← d.root.change false define path.dropLast .header, path }
  | .element path => do
    let define := Entries.defineElement (← path.getLast?)
    pure { root := ← d.root.change false define path.dropLast .header, path }
  | .assignment key value => do
    pure { d with root := ← d.root.change false (Entries.assign key value) d.path .header }

/-- The settings of a document, or `none` if it breaks the grammar, defines something twice or marks
a table as a moment that is none. The document itself is not marked. -/
def parse? (text : String) : Option Setting := do
  let statements ← statements.read? text
  let draft ← statements.foldlM Draft.extend {}
  Setting.table <$> unmarkEntries? (settingsOf draft.root)

end Rdma.Toml
