import Rdma.Setting
import Rdma.Text.Digits
import Rdma.Text.Reader

/-!
# JSON texts

The grammar of JSON texts, read into settings. A string may name surrogates that are no pair: it is
well formed, but is the text of nothing.
-/

namespace Rdma.Json

open Rdma.Text (Reader isDigit isDigitOf ofDigits scalar?)
open Rdma.Text.Reader

def blanks : Reader Unit :=
  discard (takeWhile fun c => c = ' ' || c = '\n' || c = '\t' || c = '\r')

/-! ## Strings -/

/-- A code unit named by an escape. -/
def escape : Reader Nat := do
  char '\\'
  match ← satisfy fun _ => true with
  | '"' => pure '"'.toNat
  | '\\' => pure '\\'.toNat
  | '/' => pure '/'.toNat
  | 'b' => pure 0x08
  | 'f' => pure 0x0c
  | 'n' => pure 0x0a
  | 'r' => pure 0x0d
  | 't' => pure 0x09
  | 'u' => ofDigits 16 <$> exactly 4 (isDigitOf 16)
  | _ => failure

/-- The characters of a string. Two escapes may name the surrogates of one character. -/
def charsOf? : List Nat → Option (List Char)
  | [] => some []
  | [n] => (scalar? n).map ([·])
  | n :: m :: rest =>
    if 0xd800 ≤ n ∧ n < 0xdc00 then
      if 0xdc00 ≤ m ∧ m < 0xe000 then do
        let c ← scalar? (0x10000 + (n - 0xd800) * 0x400 + (m - 0xdc00))
        pure (c :: (← charsOf? rest))
      else none
    else do
      let c ← scalar? n
      pure (c :: (← charsOf? (m :: rest)))

/-- A string, and its text unless it has none. -/
def string : Reader (Option String) := do
  char '"'
  let codes ← many
    (Char.toNat <$> satisfy (fun c => '\x20' ≤ c && c ≠ '"' && c ≠ '\\') <|> escape)
  char '"'
  pure ((charsOf? codes).map String.ofList)

/-! ## Numbers -/

def digits : Reader (List Char) := do
  let first ← satisfy isDigit
  let rest ← takeWhile isDigit
  pure (first :: rest)

/-- A number. A fraction or an exponent makes it a real, and so does the sign of minus zero. -/
def number : Reader Setting := do
  let minus ← optional (char '-')
  let whole ← if (← peek) = some '0' then (do pure [← satisfy isDigit]) else digits
  let fraction ← optional (do char '.'; digits)
  let exponent ← optional (do
    char 'e' <|> char 'E'
    discard (optional (char '+' <|> char '-'))
    digits)
  let n : Int := ofDigits 10 whole
  if fraction.isSome || exponent.isSome || (minus.isSome && n = 0) then pure .real
  else pure (.integer (if minus.isSome then -n else n))

/-! ## Values -/

def literal : Reader Setting :=
  (do word "null"; pure .null) <|> (do word "true"; pure (.boolean true)) <|>
    (do word "false"; pure (.boolean false))

/-- What stands between an opening and a closing bracket, with commas between the items. -/
def bracketed {α : Type} (opening closing : Char) (item : Reader α) : Reader (List α) := do
  char opening
  let items ← separated (do blanks; let a ← item; blanks; pure a) (char ',')
  blanks
  char closing
  pure items

def list (value : Reader Setting) : Reader Setting := .list <$> bracketed '[' ']' value

/-- A table whose keys are read by `key`. -/
def table (key : Reader String) (value : Reader Setting) : Reader Setting :=
  .table <$> bracketed '\x7b' '\x7d' do
    let k ← key
    blanks
    char ':'
    blanks
    pure (k, ← value)

/-- The text of a string that nobody looks into. -/
def anyText : Reader String := (·.getD "") <$> string

/-- The text of a string that must have one. -/
def properText : Reader String := do given (← string)

/-- A value with at most so many lists and tables inside each other. Its strings are read by `text`.
-/
def value (text : Reader String) : Nat → Reader Setting
  | 0 => failure
  | depth + 1 =>
    literal <|> number <|> .text <$> text <|> list (value text depth) <|>
      table text (value text depth)

/-- A whole text that holds one value, all of whose strings have a text. -/
def parse? (text : String) : Option Setting :=
  let document : Reader Setting := do
    blanks
    let s ← value properText (text.length + 1)
    blanks
    pure s
  document.read? text

/-- A whole text that holds a record: a list, or a table whose keys have a text. What is in its
fields may have strings without one. -/
def parseRecord? (text : String) : Option Setting :=
  let value := value anyText (text.length + 1)
  let record : Reader Setting := do
    blanks
    let s ← list value <|> table properText value
    blanks
    pure s
  record.read? text

end Rdma.Json
