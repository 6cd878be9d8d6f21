import Rdma.Proofs.Verbs.Mirror

/-!
# Destroying what a handle names

Under one policy the registry answers from its dependent counts whether a resource may go, under the
other the provider looks through its tables. As long as the handle layer mirrors the fabric both come
to the same: a resource that is in use is refused as busy, with nothing changed but the journal, and
any other is gone.

* `Mirror.dependents_pos` — the counts tell what the tables tell;
* `destroy_destroyed` — what destroying comes to, under either policy.
-/

namespace Rdma.Verbs

open Fabric (Object)

variable {v : Verbs} {handle : Handle} {kind : ResourceKind} {id : NativeId}

/-! ## Dependents -/

/-- Queue pairs refer to the most, a protection domain and three queues. -/
theorem length_references_le (o : Object) : o.references.length ≤ 4 := by
  cases o with
  | cq q => cases hc : q.channel <;> simp [Object.references, hc]
  | qp q => cases hs : q.srq <;> simp [Object.references, hs]
  | _ => simp [Object.references]

/-- A handle is mentioned at most as often as live handles have parents. -/
theorem Mirror.mentions_le (hm : v.Mirror) (handle : Handle) :
    v.registry.mentions handle ≤ v.registry.size * 4 := by
  refine Table.total_le fun handle' entry hentry => ?_
  obtain ⟨kind, -, hr⟩ := hm.resolve_live hentry
  obtain ⟨o, -, hnames, -⟩ := hm.image hr
  rw [parents_eq hentry] at hnames
  calc entry.parents.count handle ≤ entry.parents.length := List.count_le_length
    _ = o.references.length := hnames.length_eq
    _ ≤ 4 := length_references_le o

/-- The count of a live handle is positive if and only if something refers to its object. -/
theorem Mirror.dependents_pos (hm : v.Mirror) (hfew : v.registry.nextSequence ≤ 2 ^ 56)
    (hr : v.registry.resolve handle kind = some id) :
    v.registry.dependents handle > 0 ↔ v.host.fabric.Referenced kind id := by
  obtain ⟨entry, hentry, -⟩ := live_of_resolve hr
  have hle := hm.mentions_le handle
  have hsize := hm.size
  have hcount : v.registry.dependents handle = UInt64.ofNat (v.registry.mentions handle) := by
    simp [Registry.dependents, hentry, hm.counted handle entry hentry]
  -- there are fewer than 2^58 mentions, so the count has not wrapped
  rw [hcount, hm.referenced_iff hr, ← Registry.mentions_pos, gt_iff_lt, UInt64.lt_iff_toNat_lt,
    UInt64.toNat_ofNat', UInt64.toNat_zero]
  omega

/-! ## Outcomes -/

/-- What destroying comes to: the handle does not name anything of the kind, or names something that
is in use, or that and the handle are gone. -/
inductive Destroyed (v : Verbs) (handle : Handle) (kind : ResourceKind)
    (work : NativeId → Native Unit) : Except VerbsError Unit × Verbs → Prop
  | unknown : v.registry.resolve handle kind = none →
      Destroyed v handle kind work (.error (.invalidHandle kind handle), v)
  | busy {id : NativeId} {e : VerbsError} (event : Event) :
      v.registry.resolve handle kind = some id → v.host.fabric.InUse kind id →
      e.status = Errno.busy → Destroyed v handle kind work (.error e, v.note event)
  | gone {id : NativeId} {host : Host} :
      v.registry.resolve handle kind = some id → ¬ v.host.fabric.InUse kind id →
      work id v.host = (.ok (), host) →
      Destroyed v handle kind work (.ok (), revoke handle { v with host })

/-- Under either policy, what is in use is refused as busy, and the rest goes. -/
theorem destroy_destroyed (hm : v.Mirror) (hfew : v.registry.nextSequence ≤ 2 ^ 56)
    {work : NativeId → Native Unit} (hwork : ∀ (h : Host) id, h.Destroyed kind id (work id h))
    (handle : Handle) : v.Destroyed handle kind work (destroy handle kind work v) := by
  simp only [destroy, Step.bind_apply, resolve, Step.read, checkDependents_eq]
  cases hr : v.registry.resolve handle kind with
  | none => exact .unknown hr
  | some id =>
      obtain ⟨o, ho, -⟩ := hm.image hr
      by_cases hrefused : v.policy = .registry ∧ v.registry.dependents handle > 0
      · have hused := (hm.dependents_pos hfew hr).1 hrefused.2
        simp only [hrefused, and_self, if_true]
        exact .busy _ hr (.inl hused) rfl
      -- the registry does not object, or does not decide: the provider does
      · simp only [hrefused, if_false, destroyNative]
        have hd := hwork v.host id
        generalize hresult : work id v.host = result at hd
        cases hd with
        | absent hnone => simp [ho] at hnone
        | inUse _ hused => exact .busy (.driverRefused handle .busy) hr hused rfl
        | removed _ hfree _ => exact .gone hr hfree hresult

end Rdma.Verbs
