import Rdma.Text.Escaped
import Rdma.Text.Hex

/-!
# Quoted text

A text between double quotes. A quote and a backslash are preceded by a backslash, line feed,
carriage return, tabulator and the null character have a letter or digit of their own, and any other
character that is not shown as it is stands as its code point in hexadecimal.
-/

namespace Rdma.Text

def quotedChar (c : Char) : List Char :=
  if c = '\x00' then ['\\', '0']
  else if c = '\t' then ['\\', 't']
  else if c = '\r' then ['\\', 'r']
  else if c = '\n' then ['\\', 'n']
  else if c = '\\' ∨ c = '"' then ['\\', c]
  else if isEscaped c then ("\\u\x7b" ++ hexDigits c.toNat ++ "\x7d").toList
  else [c]

def quoted (text : String) : String :=
  String.ofList ('"' :: text.toList.flatMap quotedChar ++ ['"'])

end Rdma.Text
