/-!
# Hexadecimal text
-/

namespace Rdma.Text

/-- Lower-case hexadecimal digits, without leading zeros. -/
def hexDigits (n : Nat) : String := String.ofList (Nat.toDigits 16 n)

/-- Hexadecimal with its mark: `0x1f`. -/
def hex (n : Nat) : String := "0x" ++ hexDigits n

/-- Hexadecimal with its mark, zero-filled to at least `width` digits. -/
def hexPadded (width n : Nat) : String :=
  let digits := hexDigits n
  "0x" ++ String.ofList (List.replicate (width - digits.length) '0') ++ digits

/-- Two digits a byte. -/
def hexBytes (bytes : List UInt8) : String :=
  String.ofList <| bytes.flatMap fun b =>
    [Nat.digitChar (b.toNat / 16), Nat.digitChar (b.toNat % 16)]

end Rdma.Text
