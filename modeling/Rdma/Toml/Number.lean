import Rdma.Setting
import Rdma.Text.Digits
import Rdma.Text.Reader

/-!
# Numbers of TOML documents

Integers have 64 bits with a sign. Reals are only checked: no setting takes one, but a document with
a bad one is malformed. A real is bad if it is beyond the largest finite one.
-/

namespace Rdma.Toml

open Rdma.Text (Reader isDigit isDigitOf ofDigits)
open Rdma.Text.Reader

/-- Digits in base `base`. Single underscores may stand between digits. -/
def digits (base : Nat) : Reader (List Char) := do
  let first ← satisfy (isDigitOf base)
  let rest ← many (satisfy (isDigitOf base) <|> (do char '_'; satisfy (isDigitOf base)))
  pure (first :: rest)

/-- Decimal digits without a leading zero, unless zero is all there is. -/
def wholeDigits : Reader (List Char) := do
  if (← peek) = some '0' then pure [← satisfy isDigit] else digits 10

/-- A sign, if there is one. Is it a minus? -/
def minusSign : Reader Bool := (do char '-'; pure true) <|> (do char '+'; pure false) <|> pure false

/-- An integer within 64 bits. -/
def bounded (n : Int) : Reader Setting :=
  if Int64.minValue.toInt ≤ n ∧ n ≤ Int64.maxValue.toInt then pure (.integer n) else failure

/-- An integer in a base other than ten, after its mark. It has no sign. -/
def integerIn (mark : String) (base : Nat) : Reader Setting := do
  word mark
  bounded (ofDigits base (← digits base))

def decimalInteger : Reader Setting := do
  let minus ← minusSign
  let n : Int := ofDigits 10 (← wholeDigits)
  bounded (if minus then -n else n)

def integer : Reader Setting :=
  integerIn "0x" 16 <|> integerIn "0o" 8 <|> integerIn "0b" 2 <|> decimalInteger

/-- The least number that is not rounded to a finite one of double precision. -/
def overflowBound : Nat := (1 <<< 1024) - (1 <<< 970)

/-- Is `mantissa * 10 ^ exponent` beyond the finite numbers? Far exponents are decided by the number
of digits alone. -/
def overflows (mantissa : Nat) (exponent : Int) : Bool :=
  let magnitude := exponent + (Nat.toDigits 10 mantissa).length
  if mantissa = 0 || magnitude < 300 then false
  else if 320 < magnitude then true
  else if 0 ≤ exponent then overflowBound ≤ mantissa * Nat.pow 10 exponent.toNat
  else overflowBound * Nat.pow 10 (-exponent).toNat ≤ mantissa

def exponentPart : Reader Int := do
  char 'e' <|> char 'E'
  let minus ← minusSign
  let n : Int := ofDigits 10 (← digits 10)
  pure (if minus then -n else n)

def fractionPart : Reader (List Char) := do char '.'; digits 10

/-- A number with a fraction, an exponent or both. -/
def finiteReal : Reader Setting := do
  let minus ← minusSign
  let front ← wholeDigits
  let (fraction, exponent) ←
    (do pure ([], ← exponentPart)) <|>
      (do
        let fraction ← fractionPart
        let exponent ← optional exponentPart
        pure (fraction, exponent.getD 0))
  if !minus && overflows (ofDigits 10 (front ++ fraction)) (exponent - fraction.length) then failure
  else pure .real

/-- Infinity or not-a-number, with or without a sign. -/
def namedReal : Reader Setting := do
  let _ ← minusSign
  word "inf" <|> word "nan"
  pure .real

def real : Reader Setting := finiteReal <|> namedReal

end Rdma.Toml
