import Rdma.Text.Digits
import Rdma.Text.Reader

/-!
# Dates and times of TOML documents

A moment is a date, a time, or a date with a time and perhaps an offset. It is read into its
canonical text: a `T` between date and time, at most nine digits of a second's fraction and no
trailing zeros there, and no negative zero offset.
-/

namespace Rdma.Toml

open Rdma.Text (Reader isDigit ofDigits)
open Rdma.Text.Reader

/-- A number of exactly `count` digits from `low` to `high`, with its digits. -/
def ranged (count low high : Nat) : Reader (Nat × List Char) := do
  let digits ← exactly count isDigit
  let n := ofDigits 10 digits
  if low ≤ n && n ≤ high then pure (n, digits) else failure

def isLeapYear (year : Nat) : Bool := year % 4 = 0 && (year % 100 ≠ 0 || year % 400 = 0)

def daysIn (year month : Nat) : Nat :=
  if month = 2 then (if isLeapYear year then 29 else 28)
  else if [4, 6, 9, 11].contains month then 30
  else 31

def date : Reader (List Char) := do
  let (year, yearDigits) ← ranged 4 0 9999
  char '-'
  let (month, monthDigits) ← ranged 2 1 12
  char '-'
  let (_, dayDigits) ← ranged 2 1 (daysIn year month)
  pure (yearDigits ++ '-' :: monthDigits ++ '-' :: dayDigits)

/-- The fraction of a second. -/
def secondFraction : Reader (List Char) := do
  char '.'
  let first ← satisfy isDigit
  let rest ← takeWhile isDigit
  let kept := (((first :: rest).take 9).reverse.dropWhile (· = '0')).reverse
  pure (if kept.isEmpty then [] else '.' :: kept)

/-- A time of day. A minute may have a leap second. -/
def time : Reader (List Char) := do
  let (_, hour) ← ranged 2 0 23
  char ':'
  let (_, minute) ← ranged 2 0 59
  char ':'
  let (_, second) ← ranged 2 0 60
  let fraction ← optional secondFraction
  pure (hour ++ ':' :: minute ++ ':' :: second ++ fraction.getD [])

/-- The offset from universal time. -/
def offset : Reader (List Char) :=
  (do char 'Z' <|> char 'z'; pure ['Z']) <|>
    do
      let sign ← satisfy fun c => c = '+' || c = '-'
      let (hours, hourDigits) ← ranged 2 0 23
      char ':'
      let (minutes, minuteDigits) ← ranged 2 0 59
      let sign := if hours = 0 && minutes = 0 then '+' else sign
      pure (sign :: hourDigits ++ ':' :: minuteDigits)

/-- The time after a date. -/
def timeOfDate : Reader (List Char) := do
  let _ ← satisfy fun c => c = 'T' || c = 't' || c = ' '
  let clock ← time
  let offset ← optional offset
  pure ('T' :: clock ++ offset.getD [])

def moment : Reader String :=
  (do
    let day ← date
    let clock ← optional timeOfDate
    pure (String.ofList (day ++ clock.getD []))) <|>
    String.ofList <$> time

end Rdma.Toml
