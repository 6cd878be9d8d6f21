import Rdma.Proofs.Verbs.Mirror

/-!
# What callers can rely on

Of every reachable handle layer: its live handles and the objects of the fabric are in bijection, kind
by kind, and what it has on record of a handle is what the fabric says of the object. So the verbs
that answer from the records do not fail on live handles, and an event is always about a handle.

* `reachable_image`.
-/

namespace Rdma.Verbs

open Fabric (Object)

variable {v : Verbs}

/-- Handles and their records are an exact image of the objects of the fabric. -/
structure Image (v : Verbs) : Prop where
  /-- A live handle tells its kind, and resolves to an object of that kind. -/
  live : ∀ handle entry, v.registry.entries.find? handle = some entry →
    ∃ kind o, handle.kind? = some kind ∧ v.registry.resolve handle kind = some entry.native ∧
      v.host.fabric.object? kind entry.native = some o
  /-- One handle resolves to each object. -/
  named : ∀ kind id o, v.host.fabric.object? kind id = some o →
    ∃! handle, v.registry.resolve handle kind = some id
  /-- The parents are the handles of what the object refers to, once for each mention. -/
  parents : ∀ handle kind id o, v.registry.resolve handle kind = some id →
    v.host.fabric.object? kind id = some o →
    Names v.registry (v.registry.parents handle) o.references
  /-- The details are the facts of the object, if it has any. -/
  details : ∀ handle kind id o, v.registry.resolve handle kind = some id →
    v.host.fabric.object? kind id = some o → v.details.find? handle = o.details?
  /-- There are no details of handles that are not live. -/
  described : ∀ handle, v.registry.entries.find? handle = none → v.details.find? handle = none

theorem Mirror.of_resolve (hm : v.Mirror) {handle : Handle} {kind : ResourceKind} {id : NativeId}
    {o : Object} (hr : v.registry.resolve handle kind = some id)
    (ho : v.host.fabric.object? kind id = some o) :
    Names v.registry (v.registry.parents handle) o.references ∧
      v.details.find? handle = o.details? := by
  obtain ⟨o', ho', hrecords⟩ := hm.image hr
  obtain rfl := Option.some.inj (ho.symm.trans ho')
  exact hrecords

theorem Mirror.exact (hm : v.Mirror) : v.Image where
  live := by
    intro handle entry hentry
    obtain ⟨kind, hkind, hr⟩ := hm.resolve_live hentry
    obtain ⟨o, ho, -⟩ := hm.image hr
    exact ⟨kind, o, hkind, hr, ho⟩
  named := by
    intro kind id o ho
    obtain ⟨handle, hr⟩ := hm.handled ho
    exact ⟨handle, hr, fun handle' hr' => hm.unique hr' hr⟩
  parents := fun _ _ _ _ hr ho => (hm.of_resolve hr ho).1
  details := fun _ _ _ _ hr ho => (hm.of_resolve hr ho).2
  described := fun _ => hm.described

/-! ## Verbs that answer from the records -/

/-- The facts of a live handle are those of its object. -/
theorem Mirror.detailsOf_eq (hm : v.Mirror) {α : Type} {handle : Handle} {kind : ResourceKind}
    {id : NativeId} {o : Object} (hr : v.registry.resolve handle kind = some id)
    (ho : v.host.fabric.object? kind id = some o) {select : Details → Option α} {a : α}
    (hselect : o.details?.bind select = some a) :
    detailsOf handle kind select v = (.ok a, v) := by
  have hdetails := (hm.of_resolve hr ho).2
  simp only [detailsOf, Step.bind_apply, resolve, Step.read, hr, hdetails, hselect]

theorem Mirror.queryMr (hm : v.Mirror) {mr : Handle} {id : NativeId}
    (hr : v.registry.resolve mr .memoryRegion = some id) :
    ∃ r, v.host.fabric.regions.find? id = some r ∧ queryMr mr v = (.ok r.info, v) := by
  obtain ⟨o, ho, -⟩ := hm.image hr
  obtain ⟨r, hregion, rfl⟩ := Option.map_eq_some_iff.1 ho
  exact ⟨r, hregion, hm.detailsOf_eq hr ho rfl⟩

theorem Mirror.cqCapacity (hm : v.Mirror) {cq : Handle} {id : NativeId}
    (hr : v.registry.resolve cq .completionQueue = some id) :
    ∃ q, v.host.fabric.cqs.find? id = some q ∧ cqCapacity cq v = (.ok q.capacity, v) := by
  obtain ⟨o, ho, -⟩ := hm.image hr
  obtain ⟨q, hq, rfl⟩ := Option.map_eq_some_iff.1 ho
  exact ⟨q, hq, hm.detailsOf_eq hr ho rfl⟩

theorem Mirror.qpDetails (hm : v.Mirror) {qp : Handle} {id : NativeId}
    (hr : v.registry.resolve qp .queuePair = some id) :
    ∃ q, v.host.fabric.qps.find? id = some q ∧
      qpDetails qp v = (.ok (q.number, q.transport), v) := by
  obtain ⟨o, ho, -⟩ := hm.image hr
  obtain ⟨q, hq, rfl⟩ := Option.map_eq_some_iff.1 ho
  exact ⟨q, hq, hm.detailsOf_eq hr ho rfl⟩

/-! ## Events -/

/-- A fetched event was pending on the channel. -/
theorem getCqEvent_pending {h k : Host} {channel : NativeId} {event : CqEvent}
    (hfetched : Host.getCqEvent channel h = (.ok event, k)) :
    ∃ c, h.fabric.channels.find? channel = some c ∧ event ∈ c.pending := by
  unfold Host.getCqEvent at hfetched
  split at hfetched
  · cases hfetched
  case h_2 c hc =>
    split at hfetched
    · cases hfetched
    split at hfetched
    · cases hfetched
    case h_2 first rest hpending =>
      obtain ⟨⟨⟩, -⟩ := Prod.mk.inj hfetched
      exact ⟨c, hc, by simp [hpending]⟩

/-- An event is always about a completion queue that has a handle. -/
theorem Mirror.getCqEvent_ne_null (hm : v.Mirror) (hh : v.host.Sound) (channel : Handle)
    (kind : ResourceKind) : (getCqEvent .soft channel v).1 ≠ .error (.nullResource kind) := by
  simp only [getCqEvent, Step.bind_apply, resolve, Step.read]
  split
  case h_2 e w hresolve =>
    obtain ⟨he, -⟩ := Prod.mk.inj hresolve
    split at he <;> cases he
    simp
  case h_1 id w hresolve =>
    obtain ⟨-, rfl⟩ := Prod.mk.inj hresolve
    simp only [native, onHost, Provider.soft]
    cases hfetch : Host.getCqEvent id v.host with
    | mk answer k =>
        cases answer with
        | error cause => simp
        | ok event =>
            obtain ⟨c, hc, hevent⟩ := getCqEvent_pending hfetch
            obtain ⟨q, hq, -⟩ := hh.pending hc event hevent
            obtain ⟨cq, hcq⟩ := hm.handled hq
            simp [hm.reversed.2 hcq]

/-! ## Reachable handle layers -/

/-- Handles are an exact image of the fabric, whatever was done. What the verbs answer from the
records is what the fabric says, and no event is about an unknown completion queue. -/
theorem reachable_image (policy : DependencyPolicy) (memory : Memory)
    (devices : List DeviceConfig) (ops : List AnyOperation)
    (hissued : ((fresh policy memory devices).performAll ops).issued < 2 ^ 56) :
    let v := (fresh policy memory devices).performAll ops
    v.Image ∧
      (∀ mr id, v.registry.resolve mr .memoryRegion = some id →
        ∃ r, v.host.fabric.regions.find? id = some r ∧ queryMr mr v = (.ok r.info, v)) ∧
      (∀ cq id, v.registry.resolve cq .completionQueue = some id →
        ∃ q, v.host.fabric.cqs.find? id = some q ∧ cqCapacity cq v = (.ok q.capacity, v)) ∧
      (∀ qp id, v.registry.resolve qp .queuePair = some id →
        ∃ q, v.host.fabric.qps.find? id = some q ∧ qpNumber qp v = (.ok q.number, v) ∧
          qpTransport qp v = (.ok q.transport, v)) ∧
      ∀ channel kind, (getCqEvent .soft channel v).1 ≠ .error (.nullResource kind) := by
  have hm := reachable_mirror policy memory devices ops hissued
  have hh := (performAll_sound (fresh_sound policy memory devices) ops).1
  refine ⟨hm.exact, fun _ _ => hm.queryMr, fun _ _ => hm.cqCapacity, fun qp id hr => ?_,
    hm.getCqEvent_ne_null hh⟩
  obtain ⟨q, hq, hdetails⟩ := hm.qpDetails hr
  exact ⟨q, hq, by simp [qpNumber, Step.map_apply, hdetails],
    by simp [qpTransport, Step.map_apply, hdetails]⟩

theorem oneOfEach_image :
    let v := (fresh .registry {} [{}]).performAll oneOfEach
    v.issued = 7 ∧ v.Image :=
  ⟨by decide, (reachable_image .registry {} [{}] oneOfEach (by decide)).1⟩

end Rdma.Verbs
