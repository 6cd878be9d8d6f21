/-!
# Text of records and sets

A record is written as its name and its fields between braces; a record with undisclosed fields ends
with two dots.
-/

namespace Rdma.Text

private def fieldList (fields : List (String × String)) : String :=
  ", ".intercalate (fields.map fun f => f.1 ++ ": " ++ f.2)

/-- A record with all its fields shown. -/
def record (name : String) (fields : List (String × String)) : String :=
  name ++ " \x7b " ++ fieldList fields ++ " \x7d"

/-- A record that has more fields than are shown. -/
def openRecord (name : String) (fields : List (String × String)) : String :=
  name ++ " \x7b " ++ fieldList fields ++ ", .. \x7d"

/-- Elements between braces. -/
def set (elements : List String) : String :=
  "\x7b" ++ ", ".intercalate elements ++ "\x7d"

end Rdma.Text
