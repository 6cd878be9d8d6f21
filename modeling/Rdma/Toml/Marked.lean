import Rdma.Setting
import Rdma.Toml.Moment

/-!
# Tables that stand for moments

A moment may also be given as a table: a table whose first key is the mark below stands for the
moment that the text under this key holds, whatever else is in the table. The mark means nothing
elsewhere.
-/

namespace Rdma.Toml

/-- The key that marks a table as a moment. -/
def momentMark : String := "$__toml_private_datetime"

/-- The moment that the content of the mark holds. -/
def markedMoment? : Setting → Option Setting
  | .text text => Setting.moment <$> moment.read? text
  | _ => none

mutual

/-- The setting with its marked tables replaced by their moments, unless one of them has none. -/
def unmark? : Setting → Option Setting
  | .list elements => Setting.list <$> unmarkElements? elements
  | .table [] => some (.table [])
  | .table ((key, content) :: rest) =>
    if key = momentMark then markedMoment? content
    else do
      let first ← unmark? content
      pure (.table ((key, first) :: (← unmarkEntries? rest)))
  | setting => some setting

def unmarkElements? : List Setting → Option (List Setting)
  | [] => some []
  | element :: rest => do
    let first ← unmark? element
    pure (first :: (← unmarkElements? rest))

def unmarkEntries? : List (String × Setting) → Option (List (String × Setting))
  | [] => some []
  | (key, content) :: rest => do
    let first ← unmark? content
    pure ((key, first) :: (← unmarkEntries? rest))

end

end Rdma.Toml
