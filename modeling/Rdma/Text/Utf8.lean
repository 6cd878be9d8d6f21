/-!
# Text from bytes

A scalar value takes one to four bytes. Where bytes are no scalar value, the longest front of them
that could begin one is one fault, and it is at least one byte long.
-/

namespace Rdma.Text

/-- What the front of a byte list is: a scalar value or a fault, with what follows. -/
inductive Scan where
  | scalar (c : Char) (rest : List UInt8)
  | fault (rest : List UInt8)

private def isTail (b : UInt8) : Bool := 0x80 ≤ b && b ≤ 0xbf

/-- Which second bytes may follow the first byte of a scalar value of three bytes. -/
private def secondOfThree (first second : UInt8) : Bool :=
  if first = 0xe0 then 0xa0 ≤ second && second ≤ 0xbf
  else if first = 0xed then 0x80 ≤ second && second ≤ 0x9f
  else isTail second

/-- Which second bytes may follow the first byte of a scalar value of four bytes. -/
private def secondOfFour (first second : UInt8) : Bool :=
  if first = 0xf0 then 0x90 ≤ second && second ≤ 0xbf
  else if first = 0xf4 then 0x80 ≤ second && second ≤ 0x8f
  else isTail second

private def low6 (b : UInt8) : Nat := b.toNat % 64

/-- Read one scalar value or one fault. -/
def scanUtf8 (first : UInt8) (rest : List UInt8) : Scan :=
  if first < 0x80 then .scalar (Char.ofNat first.toNat) rest
  else if 0xc2 ≤ first && first ≤ 0xdf then
    match rest with
    | b :: rest₁ =>
      if isTail b then .scalar (Char.ofNat (first.toNat % 32 * 64 + low6 b)) rest₁ else .fault rest
    | [] => .fault rest
  else if 0xe0 ≤ first && first ≤ 0xef then
    match rest with
    | b :: rest₁ =>
      if secondOfThree first b then
        match rest₁ with
        | c :: rest₂ =>
          if isTail c then
            .scalar (Char.ofNat ((first.toNat % 16 * 64 + low6 b) * 64 + low6 c)) rest₂
          else .fault rest₁
        | [] => .fault rest₁
      else .fault rest
    | [] => .fault rest
  else if 0xf0 ≤ first && first ≤ 0xf4 then
    match rest with
    | b :: rest₁ =>
      if secondOfFour first b then
        match rest₁ with
        | c :: rest₂ =>
          if isTail c then
            match rest₂ with
            | d :: rest₃ =>
              if isTail d then
                .scalar
                  (Char.ofNat (((first.toNat % 8 * 64 + low6 b) * 64 + low6 c) * 64 + low6 d)) rest₃
              else .fault rest₂
            | [] => .fault rest₂
          else .fault rest₁
        | [] => .fault rest₁
      else .fault rest
    | [] => .fault rest
  else .fault rest

/-- Read at most `fuel` scalar values and faults; a fault is `none`. -/
private def scanAll : Nat → List UInt8 → List (Option Char) → List (Option Char)
  | 0, _, found => found.reverse
  | _, [], found => found.reverse
  | fuel + 1, first :: rest, found =>
    match scanUtf8 first rest with
    | .scalar c rest => scanAll fuel rest (some c :: found)
    | .fault rest => scanAll fuel rest (none :: found)

private def scan (bytes : List UInt8) : List (Option Char) := scanAll bytes.length bytes []

/-- The text of bytes with every fault replaced by the replacement character. -/
def ofUtf8Lossy (bytes : List UInt8) : String :=
  String.ofList ((scan bytes).map (·.getD '\uFFFD'))

/-- The text of bytes, or `none` if there is a fault. -/
def ofUtf8? (bytes : List UInt8) : Option String :=
  ((scan bytes).mapM id).map String.ofList

/-- The bytes of a text. -/
def utf8Bytes (text : String) : List UInt8 := text.toUTF8.toList

end Rdma.Text
