/-!
# Reading text

A reader takes a value off the front of a text and leaves the rest, or fails. Alternatives begin at
the same place.
-/

namespace Rdma.Text

/-- A reader of values of type `α`; its state is the text that is left. -/
abbrev Reader (α : Type) := StateT (List Char) Option α

namespace Reader

variable {α β : Type}

/-- The first character, if there is one, left in place. -/
def peek : Reader (Option Char) := fun s => some (s.head?, s)

/-- One character that satisfies `p`. -/
def satisfy (p : Char → Bool) : Reader Char := fun s =>
  match s with
  | c :: rest => if p c then some (c, rest) else none
  | [] => none

def char (c : Char) : Reader Unit := do
  let _ ← satisfy (· = c)

/-- The characters of a word, one after the other. -/
def word (text : String) : Reader Unit := text.toList.forM char

/-- As many characters as satisfy `p`. -/
def takeWhile (p : Char → Bool) : Reader (List Char) := fun s =>
  some (s.takeWhile p, s.dropWhile p)

def endOfText : Reader Unit := fun s => if s.isEmpty then some ((), s) else none

/-- Items from the front of the second text, up to where no item can be read. The first text is a
bound: there are at most as many items as it has characters. -/
def itemsOf (item : Reader α) : List Char → List Char → List α × List Char
  | [], s => ([], s)
  | _ :: bound, s =>
    match item s with
    | none => ([], s)
    | some (a, rest) =>
      let (as, rest) := itemsOf item bound rest
      (a :: as, rest)

/-- Any number of items, each of which takes a character or more. -/
def many (item : Reader α) : Reader (List α) := fun s => some (itemsOf item s s)

/-- Items with separators between them, at least one. -/
def separated1 (item : Reader α) (separator : Reader Unit) : Reader (List α) := do
  let first ← item
  let rest ← many (separator *> item)
  pure (first :: rest)

/-- Items with separators between them. -/
def separated (item : Reader α) (separator : Reader Unit) : Reader (List α) :=
  separated1 item separator <|> pure []

/-- Exactly `n` characters that satisfy `p`. -/
def exactly (n : Nat) (p : Char → Bool) : Reader (List Char) :=
  (List.range n).mapM fun _ => satisfy p

/-- Fail unless there is a value. -/
def given (a? : Option α) : Reader α := fun s => a?.map (·, s)

/-- Read a whole text. -/
def read? (reader : Reader α) (text : String) : Option α :=
  (((do let a ← reader; endOfText; pure a) : Reader α).run text.toList).map (·.1)

end Reader

end Rdma.Text
