import Rdma.Provider
import Rdma.Registry

/-!
# Handle-based verbs

The state of the handle layer, and the steps that all verbs are made of: resolving a handle, asking
the provider, issuing a handle for a native identity, and destroying what a handle names.
-/

namespace Rdma

/-- Facts written down at creation that later verbs need. -/
inductive Details where
  | region (info : RegionInfo)
  | cq (capacity : UInt32)
  | qp (number : UInt32) (transport : Transport)
deriving Repr, DecidableEq

/-- The handle layer over a host. -/
structure Verbs where
  host : Host
  registry : Registry := {}
  details : Table Handle Details := {}
  policy : DependencyPolicy
deriving Repr, DecidableEq

namespace Verbs

/-- A verb: a value or the reason it failed, and the handle layer afterwards. -/
abbrev Verb (α : Type) := Step Verbs VerbsError α

def note (v : Verbs) (e : Event) : Verbs := { v with host := v.host.note e }

/-- A handle layer over a host, without any handles. -/
def start (provider : Provider) (policy : DependencyPolicy) (host : Host) : Verbs :=
  { host := host.note (.opened provider.name policy), policy }

/-- The native identity behind a handle of the expected kind. -/
def resolve (handle : Handle) (kind : ResourceKind) : Verb NativeId :=
  .read fun v =>
    match v.registry.resolve handle kind with
    | some id => .ok id
    | none => .error (.invalidHandle kind handle)

/-- The native identity behind an optional handle; the null handle stands for none. -/
def resolveOptional (handle : Handle) (kind : ResourceKind) : Verb (Option NativeId) :=
  if handle.isNull then pure none else some <$> resolve handle kind

/-- Let the provider work on the host. What it reports becomes a reason of this layer. -/
def onHost {ε α : Type} (reason : ε → VerbsError) (work : Step Host ε α) : Verb α := fun v =>
  match work v.host with
  | (.ok a, host) => (.ok a, { v with host })
  | (.error cause, host) => (.error (reason cause), { v with host })

def native {α : Type} (work : Native α) : Verb α := onHost .driver work

def posting (work : Posting) : Verb Unit := onHost (fun r => .rejected r.index r.cause) work

/-- Issue a handle for a native identity. A null one is a failure. -/
def issue (kind : ResourceKind) (id : NativeId) (parents : List Handle) : Verb Handle := fun v =>
  if id = NativeId.null then (.error (.nullResource kind), v)
  else
    let (handle, registry) := v.registry.insert kind id parents
    (.ok handle, { v with registry }.note (.created handle id))

/-- Write down what later verbs need to know of a handle. -/
def recordDetails (handle : Handle) (details : Details) : Verb Unit :=
  .update fun v => { v with details := v.details.insert handle details }

/-- The fact of a live handle that `select` picks out. -/
def detailsOf {α : Type} (handle : Handle) (kind : ResourceKind) (select : Details → Option α) :
    Verb α := do
  let _ ← resolve handle kind
  .read fun v =>
    match (v.details.find? handle).bind select with
    | some a => .ok a
    | none => .error (.invalidHandle kind handle)

/-- Where the registry decides, live dependents forbid to destroy a resource. -/
def checkDependents (handle : Handle) (kind : ResourceKind) : Verb Unit := fun v =>
  let dependents := v.registry.dependents handle
  if v.policy = .registry && dependents > 0 then
    (.error (.busy kind dependents), v.note (.refused handle dependents))
  else (.ok (), v)

/-- Let the provider destroy what a handle names. -/
def destroyNative (handle : Handle) (work : Native Unit) : Verb Unit := fun v =>
  match work v.host with
  | (.ok (), host) => (.ok (), { v with host })
  | (.error cause, host) =>
    let v := { v with host }
    (.error (.driver cause),
      if cause.errno? = some .busy then v.note (.driverRefused handle cause) else v)

/-- Forget a handle. -/
def revoke (handle : Handle) (v : Verbs) : Verbs :=
  { v with registry := (v.registry.remove handle).2, details := v.details.erase handle }.note
    (.destroyed handle)

/-- Destroy the native resource behind a handle and revoke the handle. -/
def destroy (handle : Handle) (kind : ResourceKind) (work : NativeId → Native Unit) :
    Verb Unit := do
  let id ← resolve handle kind
  checkDependents handle kind
  destroyNative handle (work id)
  .update (revoke handle)

/-- Walk from a handle to its first parent, at most `steps` times, until a context is met. -/
def contextWithin (registry : Registry) : Nat → Handle → Option Handle
  | 0, handle => if handle.kind? = some .context then some handle else none
  | steps + 1, handle =>
    if handle.kind? = some .context then some handle
    else (registry.parents handle).head?.bind (contextWithin registry steps)

/-- The context that a resource was created under. A walk that meets no context within as many steps
as there are handles goes in a circle, and there is none. -/
def contextOf? (registry : Registry) (handle : Handle) : Option Handle :=
  contextWithin registry registry.size handle

def describe (provider : Provider) (v : Verbs) : String :=
  Text.record "Verbs"
    [("driver", Text.quoted provider.name), ("registry", v.registry.describe),
      ("policy", v.policy.label)]

end Verbs

end Rdma
