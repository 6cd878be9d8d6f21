import Rdma.Proofs.Engine.Progress
import Rdma.Proofs.Fabric.Creation

/-!
# Destroying objects

Every native verb that destroys does the same: it refuses an identity that names nothing, refuses an
object that is in use, and removes any other (`Host.Destroyed`). An object is in use while another
refers to it, and a completion queue also while fetched events wait to be acknowledged. The tests
that the verbs make for this, one for each kind, are all that `Referenced` asks.
-/

namespace Rdma

namespace Fabric

variable {f : Fabric} {id : NativeId}

/-! ## Objects in use -/

/-- The object is a completion queue, and fetched events of it wait to be acknowledged. -/
def AwaitsAck (f : Fabric) (kind : ResourceKind) (id : NativeId) : Prop :=
  kind = .completionQueue ∧ ∃ q, f.cqs.find? id = some q ∧ 0 < q.unacknowledged

/-- The object may not be destroyed. -/
def InUse (f : Fabric) (kind : ResourceKind) (id : NativeId) : Prop :=
  f.Referenced kind id ∨ f.AwaitsAck kind id

theorem not_awaitsAck {kind : ResourceKind} (hkind : kind ≠ .completionQueue) :
    ¬ f.AwaitsAck kind id := fun h => hkind h.1

/-- Who can refer to an object, by kind. -/
theorem referenced_iff {kind : ResourceKind} : f.Referenced kind id ↔
    (∃ i p, f.pds.find? i = some p ∧ kind = .context ∧ id = p.context) ∨
    (∃ i c, f.channels.find? i = some c ∧ kind = .context ∧ id = c.context) ∨
    (∃ i q, f.cqs.find? i = some q ∧ (kind = .context ∧ id = q.context ∨
      q.channel = some id ∧ .completionChannel = kind)) ∨
    (∃ i r, f.regions.find? i = some r ∧ kind = .protectionDomain ∧ id = r.pd) ∨
    (∃ i s, f.srqs.find? i = some s ∧ kind = .protectionDomain ∧ id = s.pd) ∨
    ∃ i q, f.qps.find? i = some q ∧ (kind = .protectionDomain ∧ id = q.pd ∨
      kind = .completionQueue ∧ id = q.sendCq ∨ kind = .completionQueue ∧ id = q.recvCq ∨
      q.srq = some id ∧ .sharedReceiveQueue = kind) := by
  constructor
  · rintro ⟨kind', i, o, ho, hr⟩
    -- go by the kind of the object that holds the reference
    cases kind' <;> simp only [object?, Option.map_eq_some_iff] at ho <;>
      obtain ⟨x, hx, rfl⟩ := ho
    case context => cases hr
    case protectionDomain => exact .inl ⟨i, x, hx, by simpa [Object.references] using hr⟩
    case completionChannel =>
      exact .inr (.inl ⟨i, x, hx, by simpa [Object.references, Channel.asCreated] using hr⟩)
    case completionQueue =>
      refine .inr (.inr (.inl ⟨i, x, hx, ?_⟩))
      simpa [Object.references, CompletionQueue.asCreated] using hr
    case memoryRegion =>
      exact .inr (.inr (.inr (.inl ⟨i, x, hx, by simpa [Object.references] using hr⟩)))
    case sharedReceiveQueue =>
      refine .inr (.inr (.inr (.inr (.inl ⟨i, x, hx, ?_⟩))))
      simpa [Object.references, SharedQueue.asCreated] using hr
    case queuePair =>
      refine .inr (.inr (.inr (.inr (.inr ⟨i, x, hx, ?_⟩))))
      simpa [Object.references, QueuePair.cleared] using hr
  · rintro (⟨i, p, hp, rfl, rfl⟩ | ⟨i, c, hc, rfl, rfl⟩ | ⟨i, q, hq, hr⟩ | ⟨i, r, hr, rfl, rfl⟩ |
      ⟨i, s, hs, rfl, rfl⟩ | ⟨i, q, hq, hr⟩)
    · exact ⟨.protectionDomain, i, .pd p, by simp [object?, hp], by simp [Object.references]⟩
    · exact ⟨.completionChannel, i, .channel c.asCreated, by simp [object?, hc],
        by simp [Object.references, Channel.asCreated]⟩
    · refine ⟨.completionQueue, i, .cq q.asCreated, by simp [object?, hq], ?_⟩
      simpa [Object.references, CompletionQueue.asCreated] using hr
    · exact ⟨.memoryRegion, i, .region r, by simp [object?, hr], by simp [Object.references]⟩
    · exact ⟨.sharedReceiveQueue, i, .srq s.asCreated, by simp [object?, hs],
        by simp [Object.references, SharedQueue.asCreated]⟩
    · refine ⟨.queuePair, i, .qp q.cleared, by simp [object?, hq], ?_⟩
      simpa [Object.references, QueuePair.cleared] using hr

theorem referenced_context : f.Referenced .context id ↔ 0 < f.contextUsage id := by
  simp only [referenced_iff, contextUsage, Nat.add_pos_iff_pos_or_pos, Table.count_pos,
    decide_eq_true_eq]
  grind

theorem referenced_pd : f.Referenced .protectionDomain id ↔ 0 < f.pdUsage id := by
  simp only [referenced_iff, pdUsage, Nat.add_pos_iff_pos_or_pos, Table.count_pos,
    decide_eq_true_eq]
  grind

theorem not_referenced_region : ¬ f.Referenced .memoryRegion id := by simp [referenced_iff]

theorem referenced_channel :
    f.Referenced .completionChannel id ↔ f.cqs.values.any (·.channel = some id) = true := by
  rw [referenced_iff, Table.any_values]
  simp

theorem referenced_cq : f.Referenced .completionQueue id ↔
    f.qps.values.any (fun q => q.sendCq = id || q.recvCq = id) = true := by
  rw [referenced_iff, Table.any_values]
  simp only [Bool.or_eq_true, decide_eq_true_eq]
  grind

theorem referenced_srq :
    f.Referenced .sharedReceiveQueue id ↔ f.qps.values.any (·.srq = some id) = true := by
  rw [referenced_iff, Table.any_values]
  simp

theorem not_referenced_qp : ¬ f.Referenced .queuePair id := by simp [referenced_iff]

/-! ## Dropping an object -/

/-- The fabric without one object. -/
def drop (f : Fabric) (id : NativeId) : Object → Fabric
  | .context _ => { f with contexts := f.contexts.erase id }
  | .pd _ => { f with pds := f.pds.erase id }
  | .region _ => { f with regions := f.regions.erase id }
  | .channel _ => { f with channels := f.channels.erase id }
  | .cq _ => { f with cqs := f.cqs.erase id }
  | .srq _ => { f with srqs := f.srqs.erase id }
  | .qp q => { f with qps := f.qps.erase id, qpNumbers := f.qpNumbers.erase q.number }

theorem drop_removes {o : Object} (ho : f.object? o.kind id = some o) :
    f.Removes (f.drop id o) o id := by
  constructor
  case present => exact ho
  case objects =>
    intro kind' id'
    cases o <;> cases kind' <;> by_cases hid : id' = id <;> simp [drop, object?, Object.kind, hid]
  case numbers =>
    intro number
    cases o with
    | qp q => simp [drop, Object.number?, eq_comm]
    | _ => simp [drop, Object.number?]
  case nextQpNumber => cases o <;> rfl
  case nextId => cases o <;> rfl
  case devices => cases o <;> rfl

/-- Removing an object shows no work that was done before it or after it. -/
theorem Removes.of_skeleton {f' g g' : Fabric} {o : Object} (hrem : f.Removes g o id)
    (hbefore : f.skeleton = f'.skeleton) (hafter : g'.skeleton = g.skeleton) :
    f'.Removes g' o id := by
  have hobject := object?_congr hbefore
  have hobject' := object?_congr hafter
  have hnumbers : f.qpNumbers = f'.qpNumbers := congrArg (·.qpNumbers) hbefore
  have hnumbers' : g'.qpNumbers = g.qpNumbers := congrArg (·.qpNumbers) hafter
  constructor
  case present => rw [← hobject]; exact hrem.present
  case objects => rw [hobject', ← hobject]; exact hrem.objects
  case numbers => rw [hnumbers', ← hnumbers]; exact hrem.numbers
  case nextQpNumber =>
    exact (congrArg (·.nextQpNumber) hafter).trans
      (hrem.nextQpNumber.trans (congrArg (·.nextQpNumber) hbefore))
  case nextId =>
    exact (congrArg (·.nextId) hafter).trans (hrem.nextId.trans (congrArg (·.nextId) hbefore))
  case devices =>
    exact (congrArg (·.devices) hafter).trans (hrem.devices.trans (congrArg (·.devices) hbefore))

end Fabric

namespace Host

open Fabric (Object)

variable {h : Host} {id : NativeId}

/-! ## Events of a completion queue that goes -/

theorem drainTokens_skeleton (h : Host) (channel : NativeId) (n : Nat) :
    (drainTokens channel n h).fabric.skeleton = h.fabric.skeleton := by
  induction n generalizing h with
  | zero => rfl
  | succ n ih =>
      simp only [drainTokens]
      split
      · rfl
      split
      · rfl
      split
      · rw [ih]
        exact h.fabric.updateChannel_skeleton channel fun _ => rfl
      · rfl

theorem dropEvents_skeleton (h : Host) (channel cq : NativeId) :
    (dropEvents channel cq h).fabric.skeleton = h.fabric.skeleton := by
  unfold dropEvents
  split
  · rfl
  · rw [drainTokens_skeleton]
    exact h.fabric.updateChannel_skeleton channel fun _ => rfl

/-- The host after the events that nobody fetched of a completion queue were dropped. -/
def withoutEvents (h : Host) (id : NativeId) (channel : Option NativeId) : Host :=
  match channel with
  | some channel => h.dropEvents channel id
  | none => h

theorem withoutEvents_skeleton (h : Host) (id : NativeId) (channel : Option NativeId) :
    (h.withoutEvents id channel).fabric.skeleton = h.fabric.skeleton := by
  cases channel with
  | none => rfl
  | some channel => exact h.dropEvents_skeleton channel id

/-! ## The verbs -/

/-- The host without one object. -/
def without (h : Host) (id : NativeId) (o : Object) : Host :=
  { h with fabric := h.fabric.drop id o }

/-- What a host is left as when an object is destroyed. The events of a completion queue go with it,
and the queue pairs that sent to a queue pair go on without it. -/
inductive Dismissed (h : Host) (id : NativeId) : Object → Host → Prop
  | plain {o : Object} : o.kind ≠ .completionQueue → o.kind ≠ .queuePair →
      Dismissed h id o (h.without id o)
  | cq (q : Fabric.CompletionQueue) : h.fabric.cqs.find? id = some q →
      Dismissed h id (.cq q.asCreated)
        ((h.withoutEvents id q.channel).without id (.cq q.asCreated))
  | qp (q : Fabric.QueuePair) : h.fabric.qps.find? id = some q →
      Dismissed h id (.qp q.cleared)
        (((h.without id (.qp q.cleared)).note (.queuesCleared id)).progress)

/-- What destroying comes to. -/
inductive Destroyed (h : Host) (kind : ResourceKind) (id : NativeId) :
    Except OsError Unit × Host → Prop
  | absent : h.fabric.object? kind id = none → Destroyed h kind id (.error .invalid, h)
  | inUse {o : Object} : h.fabric.object? kind id = some o → h.fabric.InUse kind id →
      Destroyed h kind id (.error .busy, h)
  | removed {o : Object} {k : Host} : h.fabric.object? kind id = some o →
      ¬ h.fabric.InUse kind id → h.Dismissed id o k → Destroyed h kind id (.ok (), k)

/-- Nothing but the object is gone. -/
theorem Dismissed.removes {o : Object} {k : Host} (hd : h.Dismissed id o k)
    (ho : h.fabric.object? o.kind id = some o) : h.fabric.Removes k.fabric o id := by
  cases hd with
  | plain => exact Fabric.drop_removes ho
  | cq q _ =>
      have hsame := h.withoutEvents_skeleton id q.channel
      exact (Fabric.drop_removes (by rwa [Fabric.object?_congr hsame])).of_skeleton hsame rfl
  | qp q _ => exact (Fabric.drop_removes ho).of_skeleton rfl (progress_moves _).skeleton

/-- A verb destroys if its check tells absent objects, objects in use and others apart. -/
theorem destroyed_of_check {kind : ResourceKind} {α : Type} {check : Host → Except OsError α}
    {commit : α → Host → Unit × Host}
    (habsent : h.fabric.object? kind id = none → check h = .error .invalid)
    (hinUse : ∀ o, h.fabric.object? kind id = some o → h.fabric.InUse kind id →
      check h = .error .busy)
    (hfree : ∀ o, h.fabric.object? kind id = some o → ¬ h.fabric.InUse kind id →
      ∃ a, check h = .ok a ∧ h.Dismissed id o (commit a h).2) :
    h.Destroyed kind id (Step.guarded check commit h) := by
  unfold Step.guarded
  cases ho : h.fabric.object? kind id with
  | none => rw [habsent ho]; exact .absent ho
  | some o =>
      by_cases hused : h.fabric.InUse kind id
      · rw [hinUse o ho hused]
        exact .inUse ho hused
      · obtain ⟨a, hcheck, hd⟩ := hfree o ho hused
        rw [hcheck]
        exact .removed ho hused hd

/-- An object that is no completion queue is in use while it is referred to. -/
theorem inUse_iff_referenced {f : Fabric} {kind : ResourceKind} (hkind : kind ≠ .completionQueue) :
    f.InUse kind id ↔ f.Referenced kind id :=
  ⟨fun h => h.resolve_right (Fabric.not_awaitsAck hkind), .inl⟩

theorem inUse_cq {f : Fabric} {q : Fabric.CompletionQueue} (hq : f.cqs.find? id = some q) :
    f.InUse .completionQueue id ↔
      f.qps.values.any (fun q => q.sendCq = id || q.recvCq = id) = true ∨
        q.unacknowledged > 0 := by
  simp [Fabric.InUse, Fabric.AwaitsAck, hq, Fabric.referenced_cq]

theorem closeDevice_destroyed (h : Host) (id : NativeId) :
    h.Destroyed .context id (closeDevice id h) := by
  refine destroyed_of_check (fun ho => ?_) (fun o ho hused => ?_) fun o ho hfree => ?_
  all_goals simp only [Fabric.object?, Option.map_eq_none_iff, Option.map_eq_some_iff] at ho
  · simp [Fabric.context, ho]
  all_goals
    obtain ⟨c, hc, rfl⟩ := ho
    rw [inUse_iff_referenced (by decide), Fabric.referenced_context] at *
  · simp [Fabric.context, hc, hused]
  · exact ⟨(), by simp [Fabric.context, hc, hfree],
      .plain (by simp [Object.kind]) (by simp [Object.kind])⟩

theorem deallocPd_destroyed (h : Host) (id : NativeId) :
    h.Destroyed .protectionDomain id (deallocPd id h) := by
  refine destroyed_of_check (fun ho => ?_) (fun o ho hused => ?_) fun o ho hfree => ?_
  all_goals simp only [Fabric.object?, Option.map_eq_none_iff, Option.map_eq_some_iff] at ho
  · simp [Table.contains, ho]
  all_goals
    obtain ⟨p, hp, rfl⟩ := ho
    rw [inUse_iff_referenced (by decide), Fabric.referenced_pd] at *
  · simp [Table.contains, hp, hused]
  · exact ⟨(), by simp [Table.contains, hp, hfree],
      .plain (by simp [Object.kind]) (by simp [Object.kind])⟩

theorem deregMr_destroyed (h : Host) (id : NativeId) :
    h.Destroyed .memoryRegion id (deregMr id h) := by
  refine destroyed_of_check (fun ho => ?_) (fun o ho hused => ?_) fun o ho _ => ?_
  all_goals simp only [Fabric.object?, Option.map_eq_none_iff, Option.map_eq_some_iff] at ho
  · simp [Table.contains, ho]
  all_goals obtain ⟨r, hr, rfl⟩ := ho
  · rw [inUse_iff_referenced (by decide)] at hused
    exact absurd hused Fabric.not_referenced_region
  · exact ⟨(), by simp [Table.contains, hr], .plain (by simp [Object.kind]) (by simp [Object.kind])⟩

theorem destroyChannel_destroyed (h : Host) (id : NativeId) :
    h.Destroyed .completionChannel id (destroyChannel id h) := by
  refine destroyed_of_check (fun ho => ?_) (fun o ho hused => ?_) fun o ho hfree => ?_
  all_goals simp only [Fabric.object?, Option.map_eq_none_iff, Option.map_eq_some_iff] at ho
  · simp [Table.contains, ho]
  all_goals
    obtain ⟨c, hc, rfl⟩ := ho
    rw [inUse_iff_referenced (by decide), Fabric.referenced_channel] at *
  · simp only [Table.contains, hc, hused]
    rfl
  · refine ⟨(), ?_, .plain (by simp [Object.kind]) (by simp [Object.kind])⟩
    simp only [Table.contains, hc, hfree]
    rfl

/-- A completion queue is in use while a queue pair refers to it, or while it counts events that
were not acknowledged. -/
theorem destroyCq_destroyed (h : Host) (id : NativeId) :
    h.Destroyed .completionQueue id (destroyCq id h) := by
  refine destroyed_of_check (fun ho => ?_) (fun o ho hused => ?_) fun o ho hfree => ?_
  all_goals simp only [Fabric.object?, Option.map_eq_none_iff, Option.map_eq_some_iff] at ho
  · simp [Fabric.checkCqUnused, ho]
  all_goals
    obtain ⟨q, hq, rfl⟩ := ho
    rw [inUse_cq hq] at *
  -- either test refuses, that for events first
  · by_cases hack : q.unacknowledged > 0
    · simp only [Fabric.checkCqUnused, hq, hack, if_true]
    · simp only [Fabric.checkCqUnused, hq, hused.resolve_right hack, if_true, ite_self]
  · obtain ⟨hfree, hack⟩ := not_or.1 hfree
    refine ⟨q, ?_, ?_⟩
    · simp only [Fabric.checkCqUnused, hq]
      rw [if_neg hack, if_neg hfree]
    · have hd := Dismissed.cq q hq
      cases hc : q.channel <;> simpa [withoutEvents, without, Fabric.drop, hc] using hd

theorem destroySrq_destroyed (h : Host) (id : NativeId) :
    h.Destroyed .sharedReceiveQueue id (destroySrq id h) := by
  refine destroyed_of_check (fun ho => ?_) (fun o ho hused => ?_) fun o ho hfree => ?_
  all_goals simp only [Fabric.object?, Option.map_eq_none_iff, Option.map_eq_some_iff] at ho
  · simp [Table.contains, ho]
  all_goals
    obtain ⟨s, hs, rfl⟩ := ho
    rw [inUse_iff_referenced (by decide), Fabric.referenced_srq] at *
  · simp only [Table.contains, hs, hused]
    rfl
  · refine ⟨(), ?_, .plain (by simp [Object.kind]) (by simp [Object.kind])⟩
    simp only [Table.contains, hs, hfree]
    rfl

theorem destroyQp_destroyed (h : Host) (id : NativeId) :
    h.Destroyed .queuePair id (destroyQp id h) := by
  refine destroyed_of_check (fun ho => ?_) (fun o ho hused => ?_) fun o ho _ => ?_
  all_goals simp only [Fabric.object?, Option.map_eq_none_iff, Option.map_eq_some_iff] at ho
  · simp [ho]
  all_goals obtain ⟨q, hq, rfl⟩ := ho
  · rw [inUse_iff_referenced (by decide)] at hused
    exact absurd hused Fabric.not_referenced_qp
  · exact ⟨q, by simp [hq], .qp q hq⟩

end Host

end Rdma
