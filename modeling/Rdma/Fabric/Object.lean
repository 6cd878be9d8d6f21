import Rdma.Fabric.QueuePairs

/-!
# Objects and what they refer to

One view of all tables: the object of a kind under an identity, as it was created. Work that queues
up, and the states that queues and queue pairs go through, are not in the view. What an object
refers to is fixed when it is created.
-/

namespace Rdma

namespace Fabric

/-! ## As created -/

def Channel.asCreated (c : Channel) : Channel := { context := c.context }

def CompletionQueue.asCreated (q : CompletionQueue) : CompletionQueue :=
  { context := q.context, channel := q.channel, cookie := q.cookie, capacity := q.capacity }

def SharedQueue.asCreated (s : SharedQueue) : SharedQueue := { s with queue := [] }

/-- The fabric with every object as it was created. -/
def skeleton (f : Fabric) : Fabric :=
  { f with
    channels := f.channels.map (·.asCreated)
    cqs := f.cqs.map (·.asCreated)
    srqs := f.srqs.map (·.asCreated)
    qps := f.qps.map (·.cleared) }

/-! ## Objects -/

/-- An object of a fabric. -/
inductive Object where
  | context (c : Context)
  | pd (p : ProtectionDomain)
  | region (r : Region)
  | channel (c : Channel)
  | cq (q : CompletionQueue)
  | srq (s : SharedQueue)
  | qp (q : QueuePair)
deriving Repr, DecidableEq

namespace Object

def kind : Object → ResourceKind
  | context _ => .context
  | pd _ => .protectionDomain
  | region _ => .memoryRegion
  | channel _ => .completionChannel
  | cq _ => .completionQueue
  | srq _ => .sharedReceiveQueue
  | qp _ => .queuePair

/-- The objects that an object refers to, once for each mention. -/
def references : Object → List (ResourceKind × NativeId)
  | context _ => []
  | pd p => [(.context, p.context)]
  | region r => [(.protectionDomain, r.pd)]
  | channel c => [(.context, c.context)]
  | cq q => (.context, q.context) :: (q.channel.map fun c => (.completionChannel, c)).toList
  | srq s => [(.protectionDomain, s.pd)]
  | qp q =>
    (.protectionDomain, q.pd) :: (.completionQueue, q.sendCq) :: (.completionQueue, q.recvCq) ::
      (q.srq.map fun s => (.sharedReceiveQueue, s)).toList

end Object

/-- The object of a kind under an identity. -/
def object? (f : Fabric) : ResourceKind → NativeId → Option Object
  | .context, id => (f.contexts.find? id).map .context
  | .protectionDomain, id => (f.pds.find? id).map .pd
  | .memoryRegion, id => (f.regions.find? id).map .region
  | .completionChannel, id => (f.channels.find? id).map fun c => .channel c.asCreated
  | .completionQueue, id => (f.cqs.find? id).map fun q => .cq q.asCreated
  | .sharedReceiveQueue, id => (f.srqs.find? id).map fun s => .srq s.asCreated
  | .queuePair, id => (f.qps.find? id).map fun q => .qp q.cleared

/-- The object belongs to the context, directly or through its protection domain. -/
inductive Belongs (f : Fabric) : ResourceKind → NativeId → NativeId → Prop
  | context {id c} : f.object? .context id = some (.context c) → Belongs f .context id id
  | pd {id p} : f.object? .protectionDomain id = some (.pd p) →
      Belongs f .protectionDomain id p.context
  | channel {id c} : f.object? .completionChannel id = some (.channel c) →
      Belongs f .completionChannel id c.context
  | cq {id q} : f.object? .completionQueue id = some (.cq q) →
      Belongs f .completionQueue id q.context
  | region {id r p} : f.object? .memoryRegion id = some (.region r) →
      f.object? .protectionDomain r.pd = some (.pd p) → Belongs f .memoryRegion id p.context
  | srq {id s p} : f.object? .sharedReceiveQueue id = some (.srq s) →
      f.object? .protectionDomain s.pd = some (.pd p) →
      Belongs f .sharedReceiveQueue id p.context
  | qp {id q p} : f.object? .queuePair id = some (.qp q) →
      f.object? .protectionDomain q.pd = some (.pd p) → Belongs f .queuePair id p.context

/-- Some object refers to the object. -/
def Referenced (f : Fabric) (kind : ResourceKind) (id : NativeId) : Prop :=
  ∃ kind' id' o, f.object? kind' id' = some o ∧ (kind, id) ∈ o.references

/-! ## The view does not show work -/

theorem object?_kind {f : Fabric} {kind : ResourceKind} {id : NativeId} {o : Object}
    (h : f.object? kind id = some o) : o.kind = kind := by
  cases kind <;> simp only [object?, Option.map_eq_some_iff] at h <;> obtain ⟨_, _, rfl⟩ := h <;> rfl

@[simp] theorem object?_skeleton (f : Fabric) : f.skeleton.object? = f.object? := by
  funext kind id
  cases kind <;> simp only [object?, skeleton, Table.find?_map, Option.map_map] <;> rfl

/-- Fabrics that differ in work only have the same objects. -/
theorem object?_congr {f g : Fabric} (h : f.skeleton = g.skeleton) : f.object? = g.object? := by
  rw [← object?_skeleton f, h, object?_skeleton]

end Fabric

end Rdma
