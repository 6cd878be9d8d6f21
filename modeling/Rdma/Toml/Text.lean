import Rdma.Text.Digits
import Rdma.Text.Reader

/-!
# Blanks, comments, strings and keys of TOML documents
-/

namespace Rdma.Toml

open Rdma.Text (Reader isDigit isDigitOf ofDigits scalar?)
open Rdma.Text.Reader

/-- A character that may stand in strings and comments: of the control characters of ASCII only the
tabulator. -/
def isPlain (c : Char) : Bool := c = '\t' || ('\x20' ≤ c && c ≠ '\x7f')

/-! ## Between the values -/

def isBlank (c : Char) : Bool := c = ' ' || c = '\t'

def blanks : Reader Unit := discard (takeWhile isBlank)

def newline : Reader Unit := char '\n' <|> word "\r\n"

/-- A comment runs to the end of its line and holds plain characters only. -/
def comment : Reader Unit := do
  char '#'
  discard (takeWhile isPlain)

/-- What may follow a statement on its line, and the end of the line. -/
def lineRest : Reader Unit := do
  blanks
  discard (optional comment)
  newline <|> endOfText

/-- Blanks, comments and line ends in any number, as they may stand inside a list. -/
def filler : Reader Unit :=
  discard (many (discard (satisfy isBlank) <|> newline <|> comment))

/-! ## Strings -/

/-- A scalar value by its hexadecimal digits. -/
def scalarOf (digits : Nat) : Reader Char := do
  given (scalar? (ofDigits 16 (← exactly digits (isDigitOf 16))))

/-- A character named by an escape. -/
def escape : Reader Char := do
  char '\\'
  match ← satisfy fun _ => true with
  | 'b' => pure '\x08'
  | 't' => pure '\t'
  | 'n' => pure '\n'
  | 'f' => pure '\x0c'
  | 'r' => pure '\r'
  | '"' => pure '"'
  | '\\' => pure '\\'
  | 'u' => scalarOf 4
  | 'U' => scalarOf 8
  | _ => failure

/-- A character of a string with escapes. -/
def basicChar : Reader Char := satisfy (fun c => isPlain c && c ≠ '"' && c ≠ '\\') <|> escape

/-- A character of a string without escapes. -/
def literalChar : Reader Char := satisfy fun c => isPlain c && c ≠ '\''

/-- A string on one line: between double quotes with escapes, between single quotes without. -/
def lineString : Reader String := do
  match ← satisfy fun c => c = '"' || c = '\'' with
  | '"' => let cs ← many basicChar; char '"'; pure (String.ofList cs)
  | _ => let cs ← many literalChar; char '\''; pure (String.ofList cs)

/-- A backslash at the end of a line takes with it the line end and all blanks and line ends after.
-/
def continuation : Reader (List Char) := do
  char '\\'
  blanks
  newline
  discard (many (discard (satisfy isBlank) <|> newline))
  pure []

/-- One or two quotes that do not close a string. -/
def looseQuotes (quote : Char) : Reader (List Char) := do
  let quotes ← takeWhile (· = quote)
  if quotes.length = 1 || quotes.length = 2 then pure quotes else failure

/-- The end of a string on several lines: three quotes, before which up to two belong to the string.
-/
def closingQuotes (quote : Char) : Reader (List Char) := fun s =>
  let quotes := s.takeWhile (· = quote)
  let length := min quotes.length 5
  if length < 3 then none else some (quotes.take (length - 3), s.drop length)

/-- The rest of a string on several lines after its opening quotes. A line end right after them does
not count, and any other counts as one line feed. -/
def linesString (quote : Char) (item : Reader (List Char)) : Reader String := do
  discard (optional newline)
  let lineFeed : Reader (List Char) := do newline; pure ['\n']
  let front ← many (item <|> lineFeed <|> looseQuotes quote)
  let back ← closingQuotes quote
  pure (String.ofList (front.flatten ++ back))

/-- A string of any of the four kinds. -/
def string : Reader String :=
  (do word "\"\"\""; linesString '"' (continuation <|> (do pure [← basicChar]))) <|>
    (do word "\x27\x27\x27"; linesString '\'' (do pure [← literalChar])) <|>
    lineString

/-! ## Keys -/

/-- A key without quotes. -/
def bareKey : Reader String := do
  let isKeyChar (c : Char) : Bool := c.isAlphanum || c = '-' || c = '_'
  let first ← satisfy isKeyChar
  let rest ← takeWhile isKeyChar
  pure (String.ofList (first :: rest))

/-- The number of parts that a dotted key must not reach, and of lists or tables inside each other.
-/
def nestingLimit : Nat := 80

/-- A key of parts with dots between them. -/
def dottedKey : Reader (List String) := do
  let parts ← separated1 (do blanks; let key ← lineString <|> bareKey; blanks; pure key) (char '.')
  if parts.length < nestingLimit then pure parts else failure

end Rdma.Toml
