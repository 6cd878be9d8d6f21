import Rdma.Handle
import Rdma.Table
import Rdma.Text.Record

/-!
# The handle registry

The registry relates handles to native identities. It creates and destroys nothing itself.
Each entry remembers its parents and counts how many live entries name it as a parent.
-/

namespace Rdma

/-- What the registry knows of a live handle. -/
structure Registry.Entry where
  native : NativeId
  parents : List Handle
  /-- Live handles that name this one as a parent, once for each mention; the count wraps. -/
  dependents : UInt64 := 0
deriving Repr, DecidableEq

/-- The table of live handles, and the way back from native identities. -/
structure Registry where
  entries : Table Handle Registry.Entry := {}
  reverse : Table (ResourceKind × NativeId) Handle := {}
  /-- The sequence number of the next handle: one more for each handle issued, also once handles are
  removed. It is a 64-bit counter that does not run out as long as handles can be told apart, for they
  hold only its low 56 bits; a natural number stands for it. -/
  nextSequence : Nat := 1
deriving Repr, DecidableEq

namespace Registry

/-- Change by `f` the dependent count of each listed handle that is live, once for each mention. -/
def recount (f : UInt64 → UInt64) (entries : Table Handle Entry) (handles : List Handle) :
    Table Handle Entry :=
  handles.foldl
    (fun table h => table.modify h fun e => { e with dependents := f e.dependents }) entries

/-- Issue a handle for a native identity. Every parent that is not null gains one dependent. -/
def insert (r : Registry) (kind : ResourceKind) (native : NativeId) (parents : List Handle) :
    Handle × Registry :=
  let handle := Handle.compose kind r.nextSequence
  let parents := parents.filter (!·.isNull)
  (handle,
    { entries := (recount (· + 1) r.entries parents).insert handle { native, parents }
      reverse := r.reverse.insert (kind, native) handle
      nextSequence := r.nextSequence + 1 })

/-- The native identity behind a live handle of the given kind. -/
def resolve (r : Registry) (handle : Handle) (kind : ResourceKind) : Option NativeId :=
  if handle.kind? = some kind then (r.entries.find? handle).map (·.native) else none

/-- The handle most recently issued for a native identity, while it is live. -/
def lookup (r : Registry) (kind : ResourceKind) (native : NativeId) : Option Handle :=
  r.reverse.find? (kind, native)

/-- How many live handles name this one as a parent. -/
def dependents (r : Registry) (handle : Handle) : UInt64 :=
  ((r.entries.find? handle).map (·.dependents)).getD 0

def parents (r : Registry) (handle : Handle) : List Handle :=
  ((r.entries.find? handle).map (·.parents)).getD []

/-- Drop the way back to `handle`, unless a later handle has taken its place. -/
def forget (reverse : Table (ResourceKind × NativeId) Handle) (handle : Handle)
    (native : NativeId) : Table (ResourceKind × NativeId) Handle :=
  match handle.kind? with
  | none => reverse
  | some kind =>
    if reverse.find? (kind, native) = some handle then reverse.erase (kind, native) else reverse

/-- Revoke a handle. Its parents lose one dependent each. -/
def remove (r : Registry) (handle : Handle) : Option NativeId × Registry :=
  match r.entries.find? handle with
  | none => (none, r)
  | some entry =>
    (some entry.native,
      { r with
        entries := recount (· - 1) (r.entries.erase handle) entry.parents
        reverse := forget r.reverse handle entry.native })

/-- Number of live handles. -/
def size (r : Registry) : Nat := r.entries.size

def isEmpty (r : Registry) : Bool := r.entries.isEmpty

def describe (r : Registry) : String := Text.record "Registry" [("live", toString r.size)]

end Registry

end Rdma
