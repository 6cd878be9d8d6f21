import Rdma.VerbsError

/-!
# Result records

The record that a caller gives a fallible operation to write its outcome into: a status, and the
handle where the operation yields one.
-/

namespace Rdma

structure ResultRecord where
  status : Int32 := 0
  handle : UInt64 := 0
deriving Repr, DecidableEq

namespace ResultRecord

/-- The record of an outcome. A failure has a status other than zero and no handle. -/
def ofOutcome : Except VerbsError Handle → ResultRecord
  | .ok handle => { handle := handle.raw }
  | .error e => { status := e.status }

def isSuccess (r : ResultRecord) : Bool := r.status = 0

/-- The handle, if the status says it may be used. -/
def handle? (r : ResultRecord) : Option Handle := if r.isSuccess then some ⟨r.handle⟩ else none

/-- The handle or the status. -/
def toExcept (r : ResultRecord) : Except Int32 Handle :=
  match r.handle? with
  | some handle => .ok handle
  | none => .error r.status

theorem toExcept_ofOutcome (outcome : Except VerbsError Handle) :
    (ofOutcome outcome).toExcept = outcome.mapError VerbsError.status := by
  cases outcome with
  | ok handle => rfl
  | error e =>
    show (ofOutcome (.error e)).toExcept = .error e.status
    simp [ofOutcome, toExcept, handle?, isSuccess, VerbsError.status_ne_zero]

end ResultRecord

end Rdma
