import Rdma.Proofs.Completion.Delivery
import Rdma.Proofs.Verbs.Policy

/-!
# Dismantling

Whatever happened before, all that a handle layer has can be destroyed again, and then nothing is
left. It takes an order in which everything goes before what it refers to: queue pairs, then memory
regions and shared receive queues, completion queues, channels, protection domains and at last the
contexts. A completion queue that has events to be acknowledged does not go, so that they are
acknowledged first.

* `Mirror.lose` — a handle that nothing mentions goes, and takes nothing with it;
* `Dismantles.lessens` — so do all handles of a class, in any order;
* `Plan.lessens` — so do all classes;
* `everything_dismantled` — the plans, and what they leave.
-/

namespace Rdma

/-! ## Completion queues with nothing to be acknowledged -/

/-- No completion queue of the identity has events to be acknowledged. -/
def Fabric.Acknowledged (f : Fabric) (id : NativeId) : Prop :=
  ∀ q, f.cqs.find? id = some q → q.unacknowledged = 0

section Acknowledged

open Fabric (CompletionQueue)

variable {f g : Fabric} {es : List Event} {id : NativeId}

theorem Fabric.Acknowledged.updateCq (h : f.Acknowledged id) (cq : NativeId)
    {change : CompletionQueue → CompletionQueue}
    (hkeep : ∀ q, q.unacknowledged = 0 → (change q).unacknowledged = 0) :
    (f.updateCq cq change).Acknowledged id := by
  intro q' hq'
  rcases Table.modified hq' with ⟨-, q, hq, rfl⟩ | hq'
  · exact hkeep q (h q hq)
  · exact h q' hq'

/-- Acknowledging as many events as were fetched leaves none. -/
theorem Fabric.CompletionQueue.unacknowledged_acked (q : CompletionQueue) {n : UInt32}
    (hall : q.unacknowledged ≤ n) : (q.acked n).unacknowledged = 0 := by
  have hmin : min n q.unacknowledged = if n ≤ q.unacknowledged then n else q.unacknowledged := rfl
  have hsame : min n q.unacknowledged = q.unacknowledged := by
    rw [hmin]
    split
    case isTrue hle => exact UInt32.le_antisymm hle hall
    case isFalse => rfl
  rw [acked, hsame, UInt32.sub_self]

theorem Fabric.acknowledged_acked (f : Fabric) (id : NativeId) :
    (f.updateCq id (·.acked 0xffffffff)).Acknowledged id := by
  intro q' hq'
  simp only [Fabric.updateCq, Table.find?_modify, if_true] at hq'
  obtain ⟨q, -, rfl⟩ := Option.map_eq_some_iff.1 hq'
  have hlt : q.unacknowledged.toNat < 2 ^ 32 := q.unacknowledged.toNat_lt
  exact q.unacknowledged_acked (UInt32.le_iff_toNat_le.2 (Nat.le_of_lt_succ hlt))

/-- The provider raises events, but it fetches none. -/
theorem Delivery.acknowledged (hstep : Delivery f es g) (h : f.Acknowledged id) : g.Acknowledged id := by
  cases hstep with
  | aside hcqs | addChannel _ _ hcqs | dropChannel _ hcqs => exact fun q hq => h q (hcqs ▸ hq)
  | addCq hnew _ hcqs =>
      intro q' hq'
      rw [hcqs] at hq'
      rcases Table.inserted hq' with ⟨-, rfl⟩ | hq'
      · exact hnew ▸ rfl
      · exact h q' hq'
  | dropCq _ _ _ hcqs =>
      intro q' hq'
      rw [hcqs] at hq'
      obtain ⟨-, hq'⟩ := Table.erased hq'
      exact h q' hq'
  | lose | store => exact h.updateCq _ fun _ hq => hq
  | @wake cq q c =>
      intro q' hq'
      rw [Fabric.updateChannel?_cqs] at hq'
      have hstored : (f.updateCq cq fun q => (q.stored c).disarmed).Acknowledged id :=
        h.updateCq cq fun _ hq => hq
      exact hstored q' hq'

theorem Host.Tells.acknowledged {h k : Host} (hk : h.Tells Delivery k)
    (hacked : h.fabric.Acknowledged id) : k.fabric.Acknowledged id := by
  obtain ⟨events, -, htrail⟩ := hk
  exact htrail.keeps (P := fun f => f.Acknowledged id) (fun _ _ _ hstep => hstep.acknowledged) hacked

end Acknowledged

namespace Verbs

open Fabric (Object)

variable {v w : Verbs} {handle : Handle} {kind : ResourceKind} {id : NativeId}

/-! ## One handle less -/

/-- `w` is `v` without some handles and what they named. -/
structure Less (v : Verbs) (handles : List Handle) (w : Verbs) : Prop where
  mirror : w.Mirror
  sound : w.host.Sound
  few : w.registry.nextSequence ≤ 2 ^ 56
  resolve : ∀ handle kind, w.registry.resolve handle kind =
    if handle ∈ handles then none else v.registry.resolve handle kind
  objects : ∀ {kind id o}, w.host.fabric.object? kind id = some o →
    v.host.fabric.object? kind id = some o

theorem Less.refl (hm : v.Mirror) (hh : v.host.Sound) (hfew : v.registry.nextSequence ≤ 2 ^ 56) :
    v.Less [] v := ⟨hm, hh, hfew, fun _ _ => by simp, fun ho => ho⟩

theorem Less.trans {u : Verbs} {handles handles' : List Handle} (hu : v.Less handles u)
    (hw : u.Less handles' w) : v.Less (handles ++ handles') w where
  mirror := hw.mirror
  sound := hw.sound
  few := hw.few
  resolve handle kind := by
    rw [hw.resolve, hu.resolve]
    by_cases hgone : handle ∈ handles <;> by_cases hgone' : handle ∈ handles' <;> simp [hgone, hgone']
  objects ho := hu.objects (hw.objects ho)

/-- A handle whose object is not in use goes, with the object and nothing else, under either policy.
No events come to be acknowledged. -/
theorem Mirror.lose (hm : v.Mirror) (hh : v.host.Sound) (hfew : v.registry.nextSequence ≤ 2 ^ 56)
    (hr : v.registry.resolve handle kind = some id) (hfree : ¬ v.host.fabric.InUse kind id) :
    ∃ w, perform (destroyOf kind handle) v = (.ok (), w) ∧ v.Less [handle] w ∧
      ∀ cq, v.host.fabric.Acknowledged cq → w.host.fabric.Acknowledged cq := by
  obtain ⟨work, hwork, hperform⟩ := perform_destroyOf kind handle
  rw [hperform]
  have hd := destroy_destroyed hm hfew hwork handle
  generalize destroy handle kind work v = result at hd
  cases hd with
  | unknown hnone => simp [hr] at hnone
  | busy _ hr' hused _ =>
      obtain rfl := Option.some.inj (hr.symm.trans hr')
      exact absurd hused hfree
  | @gone _ host hr' _ hdone =>
      obtain rfl := Option.some.inj (hr.symm.trans hr')
      have hgone := hwork v.host id
      have hsound := hgone.sound hh
      have htells := hgone.tells hh
      rw [hdone] at hgone hsound htells
      cases hgone with
      | removed ho _ hdismissed =>
          obtain rfl := Fabric.object?_kind ho
          have hrem := hdismissed.removes ho
          obtain ⟨entry, hentry, -⟩ := live_of_resolve hr
          refine ⟨_, rfl, ⟨?_, hsound.note trivial, ?_, fun handle' kind' => ?_, fun ho' => ?_⟩,
            fun cq hcq => htells.acknowledged hcq⟩
          · exact hm.revoked hr hrem fun href => hfree (.inl href)
          · simpa only [revoke, note, Registry.nextSequence_remove] using hfew
          · simp only [revoke, note, Registry.resolve_remove hentry, List.mem_singleton]
          · exact (hrem.object_cases ho').2

/-- Acknowledging events takes no handle away. -/
theorem Mirror.acknowledge (hm : v.Mirror) (hh : v.host.Sound)
    (hfew : v.registry.nextSequence ≤ 2 ^ 56)
    (hr : v.registry.resolve handle .completionQueue = some id) (n : UInt32) :
    perform (.ackCqEvents handle n) v = (.ok (), { v with host := v.host.ackCqEvents id n }) ∧
      v.Less [] { v with host := v.host.ackCqEvents id n } := by
  have hwork := v.host.ackCqEvents_works id n
  have hworks : v.Works { v with host := v.host.ackCqEvents id n } := ⟨rfl, rfl, rfl, hwork⟩
  refine ⟨?_, hworks.mirror hm, hwork.sound hh, hfew, fun _ _ => by simp, fun ho => ?_⟩
  · simp only [perform, ackCqEvents, Step.bind_apply, resolve, Step.read, hr]
    rfl
  · rwa [hwork.objects] at ho

/-! ## One class -/

/-- No operation fails. -/
def AllSucceed (v : Verbs) : List AnyOperation → Prop
  | [] => True
  | op :: rest => (∃ a, (perform op.2 v).1 = .ok a) ∧ AllSucceed (perform op.2 v).2 rest

theorem allSucceed_append {ops ops' : List AnyOperation} (h : v.AllSucceed ops)
    (h' : (v.performAll ops).AllSucceed ops') : v.AllSucceed (ops ++ ops') := by
  induction ops generalizing v with
  | nil => exact h'
  | cons op rest ih => exact ⟨h.1, ih h.2 h'⟩

/-- The operations destroy the handles, in order. In between and before a completion queue goes, all
its events are acknowledged. -/
inductive Dismantles : List Handle → List Handle → List AnyOperation → Prop
  | done {settled : List Handle} : Dismantles settled [] []
  | acknowledge {settled handles : List Handle} {ops : List AnyOperation} {cq : Handle} :
      cq ∈ handles → cq.kind? = some .completionQueue → Dismantles (cq :: settled) handles ops →
      Dismantles settled handles (⟨_, .ackCqEvents cq 0xffffffff⟩ :: ops)
  | destroy {settled handles : List Handle} {ops : List AnyOperation} {handle : Handle}
      {kind : ResourceKind} : handle.kind? = some kind →
      (kind = .completionQueue → handle ∈ settled) → Dismantles settled handles ops →
      Dismantles settled (handle :: handles) (⟨_, destroyOf kind handle⟩ :: ops)

/-- No object refers to one of these kinds. -/
def Unmentioned (v : Verbs) (kinds : List ResourceKind) : Prop :=
  ∀ kind id o, v.host.fabric.object? kind id = some o → ∀ r ∈ o.references, r.1 ∉ kinds

/-- The handle is live, of one of these kinds. -/
def LiveAs (v : Verbs) (kinds : List ResourceKind) (handle : Handle) : Prop :=
  ∃ kind ∈ kinds, ∃ id, v.registry.resolve handle kind = some id

theorem LiveAs.resolve {kinds : List ResourceKind} (h : v.LiveAs kinds handle)
    (hkind : handle.kind? = some kind) :
    kind ∈ kinds ∧ ∃ id, v.registry.resolve handle kind = some id := by
  obtain ⟨kind', hmem, id, hr⟩ := h
  obtain rfl := Option.some.inj ((Registry.resolve_eq_some.1 hr).1.symm.trans hkind)
  exact ⟨hmem, id, hr⟩

theorem Less.liveAs {kinds : List ResourceKind} {handles : List Handle} (hl : v.Less handles w)
    (h : v.LiveAs kinds handle) (hkept : handle ∉ handles) : w.LiveAs kinds handle := by
  obtain ⟨kind, hmem, id, hr⟩ := h
  exact ⟨kind, hmem, id, by rw [hl.resolve, if_neg hkept, hr]⟩

/-- Handles of kinds that no object refers to can be destroyed in any order. -/
theorem Dismantles.lessens {settled handles : List Handle} {ops : List AnyOperation}
    (hd : Dismantles settled handles ops) {kinds : List ResourceKind} (hm : v.Mirror)
    (hh : v.host.Sound) (hfew : v.registry.nextSequence ≤ 2 ^ 56) (hkinds : v.Unmentioned kinds)
    (hlive : ∀ handle ∈ handles, v.LiveAs kinds handle) (hdistinct : handles.Nodup)
    (hsettled : ∀ cq ∈ settled, ∀ id, v.registry.resolve cq .completionQueue = some id →
      v.host.fabric.Acknowledged id) :
    v.AllSucceed ops ∧ v.Less handles (v.performAll ops) := by
  induction hd generalizing v with
  | done => exact ⟨trivial, .refl hm hh hfew⟩
  | @acknowledge settled handles ops cq hmem hkind _ ih =>
      obtain ⟨-, id, hr⟩ := (hlive cq hmem).resolve hkind
      obtain ⟨hperform, hl⟩ := hm.acknowledge hh hfew hr 0xffffffff
      have hstep : (perform (.ackCqEvents cq 0xffffffff) v).2 =
          { v with host := v.host.ackCqEvents id 0xffffffff } := by rw [hperform]
      have hrest := ih hl.mirror hl.sound hl.few
        (fun kind id o ho => hkinds kind id o (hl.objects ho))
        (fun handle hmem => hl.liveAs (hlive handle hmem) List.not_mem_nil) hdistinct
        (fun cq' hmem' id' hr' => ?_)
      · exact ⟨⟨⟨(), by rw [hperform]⟩, hstep ▸ hrest.1⟩, hl.trans (hstep ▸ hrest.2)⟩
      · -- either it was acknowledged just now, or before
        rcases List.mem_cons.1 hmem' with rfl | hmem'
        · obtain rfl := Option.some.inj (hr.symm.trans hr')
          exact v.host.fabric.acknowledged_acked id
        · exact (hsettled cq' hmem' id' hr').updateCq id fun q hq =>
            q.unacknowledged_acked (by simp [hq])
  | @destroy settled handles ops handle kind hkind hack _ ih =>
      obtain ⟨hmem, id, hr⟩ := (hlive handle List.mem_cons_self).resolve hkind
      obtain ⟨habsent, hdistinct⟩ := List.nodup_cons.1 hdistinct
      have hfree : ¬ v.host.fabric.InUse kind id := by
        rintro (⟨kind', id', o, ho, hmention⟩ | ⟨rfl, q, hq, hpos⟩)
        · exact hkinds kind' id' o ho _ hmention hmem
        · simp [hsettled handle (hack rfl) id hr q hq] at hpos
      obtain ⟨w, hperform, hl, hkeeps⟩ := hm.lose hh hfew hr hfree
      have hother {handle'} (hmem' : handle' ∈ handles) : handle' ∉ [handle] := by
        rw [List.mem_singleton]
        exact fun hsame => habsent (hsame ▸ hmem')
      have hrest := ih hl.mirror hl.sound hl.few
        (fun kind id o ho => hkinds kind id o (hl.objects ho))
        (fun handle' hmem' =>
          hl.liveAs (hlive handle' (List.mem_cons_of_mem _ hmem')) (hother hmem'))
        hdistinct fun cq' hmem' id' hr' => ?_
      · have hstep : (perform (destroyOf kind handle) v).2 = w := by rw [hperform]
        exact ⟨⟨⟨(), by rw [hperform]⟩, hstep ▸ hrest.1⟩, hl.trans (hstep ▸ hrest.2)⟩
      · rw [hl.resolve, Option.ite_none_left_eq_some] at hr'
        exact hkeeps id' (hsettled cq' hmem' id' hr'.2)

/-! ## Class by class -/

/-- Objects of one kind may refer to objects of the other. -/
def refersTo : ResourceKind → ResourceKind → Bool
  | .protectionDomain, .context | .completionChannel, .context | .completionQueue, .context
  | .completionQueue, .completionChannel | .memoryRegion, .protectionDomain
  | .sharedReceiveQueue, .protectionDomain | .queuePair, .protectionDomain
  | .queuePair, .completionQueue | .queuePair, .sharedReceiveQueue => true
  | _, _ => false

/-- The order of kinds knows of every reference that an object can have. -/
theorem refersTo_of_mem {o : Object} {r : ResourceKind × NativeId} (hr : r ∈ o.references) :
    refersTo o.kind r.1 = true := by
  cases o with
  | context => cases hr
  | pd | region | channel | srq =>
      obtain rfl := List.mem_singleton.1 hr
      rfl
  | cq q =>
      rcases List.mem_cons.1 hr with rfl | hr
      · rfl
      · obtain ⟨_, -, rfl⟩ := Option.map_eq_some_iff.1 (Option.mem_toList.1 hr)
        rfl
  | qp q =>
      rcases List.mem_cons.1 hr with rfl | hr
      · rfl
      rcases List.mem_cons.1 hr with rfl | hr
      · rfl
      rcases List.mem_cons.1 hr with rfl | hr
      · rfl
      · obtain ⟨_, -, rfl⟩ := Option.map_eq_some_iff.1 (Option.mem_toList.1 hr)
        rfl

/-- The classes of kinds, in the order in which their objects go. -/
def dismantlingOrder : List (List ResourceKind) :=
  [[.queuePair], [.memoryRegion, .sharedReceiveQueue], [.completionQueue], [.completionChannel],
    [.protectionDomain], [.context]]

/-- No kind comes up twice, and none is referred to from its own class or a later one. -/
def Ordered : List (List ResourceKind) → Prop
  | [] => True
  | kinds :: rest =>
    (∀ kind ∈ kinds, kind ∉ rest.flatten ∧
      ∀ kind' ∈ kinds ++ rest.flatten, refersTo kind' kind = false) ∧ Ordered rest

theorem dismantlingOrder_ordered : Ordered dismantlingOrder := by
  simp only [dismantlingOrder, Ordered]
  decide

/-- The operations dismantle the classes in turn: of each the live handles, in any order. -/
inductive Plan (v : Verbs) : List (List ResourceKind) → List AnyOperation → Prop
  | done : Plan v [] []
  | stage {kinds : List ResourceKind} {rest : List (List ResourceKind)} {handles : List Handle}
      {ops more : List AnyOperation} : handles.Nodup →
      (∀ handle, handle ∈ handles ↔ v.LiveAs kinds handle) → Dismantles [] handles ops →
      Plan v rest more → Plan v (kinds :: rest) (ops ++ more)

/-- Just handles of these kinds are live, all that were live before. -/
def Remains (v : Verbs) (kinds : List ResourceKind) (w : Verbs) : Prop :=
  ∀ handle kind, w.registry.resolve handle kind =
    if kind ∈ kinds then v.registry.resolve handle kind else none

section Remains

variable {kinds rest : List ResourceKind} (hremains : v.Remains (kinds ++ rest) w)

include hremains

/-- The kinds of the next class are referred to by none that remain. -/
theorem Remains.unmentioned (hm : w.Mirror)
    (hordered : ∀ kind ∈ kinds, ∀ kind' ∈ kinds ++ rest, refersTo kind' kind = false) :
    w.Unmentioned kinds := by
  intro kind' id o ho r hmention hmem
  obtain rfl := Fabric.object?_kind ho
  obtain ⟨handle, hr⟩ := hm.handled ho
  rw [hremains] at hr
  split at hr
  case isTrue hkind =>
    have hrefers := refersTo_of_mem hmention
    rw [hordered r.1 hmem o.kind hkind] at hrefers
    cases hrefers
  case isFalse => cases hr

theorem Remains.liveAs (handle : Handle) :
    w.LiveAs kinds handle ↔ v.LiveAs kinds handle := by
  refine exists_congr fun kind => and_congr_right fun hmem => exists_congr fun id => ?_
  rw [hremains, if_pos (List.mem_append_left _ hmem)]

/-- Once the next class is dismantled, the rest remains. -/
theorem Remains.less {u : Verbs} {handles : List Handle} (hapart : ∀ kind ∈ kinds, kind ∉ rest)
    (hhandles : ∀ handle, handle ∈ handles ↔ v.LiveAs kinds handle) (hl : w.Less handles u) :
    v.Remains rest u := by
  intro handle kind
  rw [hl.resolve, hremains]
  by_cases hgone : handle ∈ handles
  · -- what went was of one kind, of that class
    obtain ⟨kind', hmem, id, hr⟩ := (hhandles handle).1 hgone
    rw [if_pos hgone]
    split
    case isTrue hrest =>
      refine (Option.eq_none_iff_forall_not_mem.2 fun id' hr' => ?_).symm
      obtain ⟨rfl, -⟩ := Registry.resolve_inj hr hr'
      exact hapart kind' hmem hrest
    case isFalse => rfl
  · rw [if_neg hgone]
    by_cases hmem : kind ∈ kinds
    · rw [if_pos (List.mem_append_left _ hmem), if_neg (hapart kind hmem)]
      exact Option.eq_none_iff_forall_not_mem.2 fun id hr =>
        hgone ((hhandles handle).2 ⟨kind, hmem, id, hr⟩)
    · simp only [List.mem_append, hmem, false_or]

end Remains

/-- Classes in order can be dismantled one after the other. -/
theorem Plan.lessens {classes : List (List ResourceKind)} {ops : List AnyOperation}
    (hp : v.Plan classes ops) (hordered : Ordered classes) (hm : w.Mirror) (hh : w.host.Sound)
    (hfew : w.registry.nextSequence ≤ 2 ^ 56) (hremains : v.Remains classes.flatten w) :
    w.AllSucceed ops ∧ (w.performAll ops).Mirror ∧ (w.performAll ops).host.Sound ∧
      v.Remains [] (w.performAll ops) := by
  induction hp generalizing w with
  | done => exact ⟨trivial, hm, hh, hremains⟩
  | @stage kinds rest handles ops more hdistinct hhandles hd _ ih =>
      obtain ⟨hclass, hrest⟩ := hordered
      have hlive (handle : Handle) (hmem : handle ∈ handles) : w.LiveAs kinds handle :=
        (hremains.liveAs handle).2 ((hhandles handle).1 hmem)
      obtain ⟨hops, hl⟩ := hd.lessens hm hh hfew
        (hremains.unmentioned hm fun kind hmem => (hclass kind hmem).2) hlive hdistinct nofun
      obtain ⟨hmore, hend⟩ := ih hrest hl.mirror hl.sound hl.few
        (hremains.less (fun kind hmem => (hclass kind hmem).1) hhandles hl)
      have happend : w.performAll (ops ++ more) = (w.performAll ops).performAll more :=
        List.foldl_append
      exact ⟨allSucceed_append hops hmore, happend ▸ hend⟩

/-! ## What is left -/

/-- There is neither a handle nor an object. -/
structure Bare (v : Verbs) : Prop where
  handles : v.registry.entries = {}
  reverse : v.registry.reverse = {}
  details : v.details = {}
  contexts : v.host.fabric.contexts = {}
  pds : v.host.fabric.pds = {}
  regions : v.host.fabric.regions = {}
  channels : v.host.fabric.channels = {}
  cqs : v.host.fabric.cqs = {}
  srqs : v.host.fabric.srqs = {}
  qps : v.host.fabric.qps = {}
  qpNumbers : v.host.fabric.qpNumbers = {}

/-- Where no handle resolves, nothing is left. -/
theorem Mirror.bare (hm : v.Mirror) (hh : v.host.Sound)
    (hnone : ∀ handle kind, v.registry.resolve handle kind = none) : v.Bare := by
  have hentries (handle : Handle) : v.registry.entries.find? handle = none :=
    Option.eq_none_iff_forall_not_mem.2 fun entry hentry => by
      obtain ⟨kind, -, hr⟩ := hm.resolve_live hentry
      simp [hnone] at hr
  have hobject (kind : ResourceKind) (id : NativeId) : v.host.fabric.object? kind id = none :=
    Option.eq_none_iff_forall_not_mem.2 fun o ho => by
      obtain ⟨handle, hr⟩ := hm.handled ho
      simp [hnone] at hr
  constructor
  case handles => exact Table.eq_empty hentries
  case reverse =>
    refine Table.eq_empty fun key => Option.eq_none_iff_forall_not_mem.2 fun handle hback => ?_
    have hr := hm.reversed.1 (show v.registry.lookup key.1 key.2 = some handle from hback)
    simp [hnone] at hr
  case details => exact Table.eq_empty fun handle => hm.described (hentries handle)
  case qpNumbers =>
    refine Table.eq_empty fun number => Option.eq_none_iff_forall_not_mem.2 fun id hid => ?_
    obtain ⟨q, ho, -⟩ := (hh.fabric.numbered number id).1 hid
    simp [hobject] at ho
  case contexts => exact Table.eq_empty fun id => Option.map_eq_none_iff.1 (hobject .context id)
  case pds => exact Table.eq_empty fun id => Option.map_eq_none_iff.1 (hobject .protectionDomain id)
  case regions => exact Table.eq_empty fun id => Option.map_eq_none_iff.1 (hobject .memoryRegion id)
  case channels =>
    exact Table.eq_empty fun id => Option.map_eq_none_iff.1 (hobject .completionChannel id)
  case cqs => exact Table.eq_empty fun id => Option.map_eq_none_iff.1 (hobject .completionQueue id)
  case srqs =>
    exact Table.eq_empty fun id => Option.map_eq_none_iff.1 (hobject .sharedReceiveQueue id)
  case qps => exact Table.eq_empty fun id => Option.map_eq_none_iff.1 (hobject .queuePair id)

/-! ## Plans -/

/-- Handles that tell their kinds can be destroyed one by one. -/
theorem exists_dismantles (handles : List Handle)
    (hkinds : ∀ handle ∈ handles, ∃ kind, handle.kind? = some kind) (settled : List Handle) :
    ∃ ops, Dismantles settled handles ops := by
  induction handles generalizing settled with
  | nil => exact ⟨[], .done⟩
  | cons handle rest ih =>
      obtain ⟨kind, hkind⟩ := hkinds handle List.mem_cons_self
      obtain ⟨ops, hops⟩ :=
        ih (fun handle hmem => hkinds handle (List.mem_cons_of_mem _ hmem)) (handle :: settled)
      have hdestroy : Dismantles (handle :: settled) (handle :: rest) _ :=
        .destroy hkind (fun _ => List.mem_cons_self) hops
      by_cases hcq : kind = .completionQueue
      · exact ⟨_, .acknowledge List.mem_cons_self (hcq ▸ hkind) hdestroy⟩
      · obtain ⟨ops, hops⟩ :=
          ih (fun handle hmem => hkinds handle (List.mem_cons_of_mem _ hmem)) settled
        exact ⟨_, .destroy hkind (fun h => absurd h hcq) hops⟩

/-- There is always a plan. -/
theorem exists_plan (v : Verbs) (classes : List (List ResourceKind)) :
    ∃ ops, v.Plan classes ops := by
  induction classes with
  | nil => exact ⟨[], .done⟩
  | cons kinds rest ih =>
      obtain ⟨more, hmore⟩ := ih
      let handles := v.registry.entries.keys.filter fun handle => handle.kind?.any (kinds.contains ·)
      have hmem (handle : Handle) : handle ∈ handles ↔ v.LiveAs kinds handle := by
        simp only [handles, List.mem_filter, Table.mem_keys, Option.any_eq_true,
          List.contains_iff_mem]
        constructor
        · rintro ⟨⟨entry, hentry⟩, kind, hkind, hkinds⟩
          exact ⟨kind, hkinds, entry.native, Registry.resolve_eq_some.2 ⟨hkind, entry, hentry, rfl⟩⟩
        · rintro ⟨kind, hkinds, id, hr⟩
          obtain ⟨hkind, entry, hentry, -⟩ := Registry.resolve_eq_some.1 hr
          exact ⟨⟨entry, hentry⟩, kind, hkind, hkinds⟩
      have hdistinct : handles.Nodup := v.registry.entries.distinct.filter _
      have hkinds (handle : Handle) (hlive : handle ∈ handles) :
          ∃ kind, handle.kind? = some kind := by
        obtain ⟨kind, -, id, hr⟩ := (hmem handle).1 hlive
        exact ⟨kind, (Registry.resolve_eq_some.1 hr).1⟩
      obtain ⟨ops, hops⟩ := exists_dismantles handles hkinds []
      exact ⟨ops ++ more, .stage hdistinct hmem hops hmore⟩

/-- Whatever happened to a handle layer, under either policy all that it has can be destroyed class
by class, within each class in any order. No call fails, and then nothing is left. -/
theorem everything_dismantled (policy : DependencyPolicy) (memory : Memory)
    (devices : List DeviceConfig) (ops : List AnyOperation)
    (hissued : ((fresh policy memory devices).performAll ops).issued < 2 ^ 56) :
    let v := (fresh policy memory devices).performAll ops
    (∃ plan, v.Plan dismantlingOrder plan) ∧
      ∀ plan, v.Plan dismantlingOrder plan → v.AllSucceed plan ∧ (v.performAll plan).Bare := by
  intro v
  have hm : v.Mirror := reachable_mirror policy memory devices ops hissued
  have hh : v.host.Sound := (performAll_sound (fresh_sound policy memory devices) ops).1
  have hfew : v.registry.nextSequence ≤ 2 ^ 56 := nextSequence_le_of_issued hissued
  have hall : v.Remains dismantlingOrder.flatten v := fun handle kind => by
    rw [if_pos (show kind ∈ dismantlingOrder.flatten by cases kind <;> decide)]
  refine ⟨v.exists_plan dismantlingOrder, fun plan hplan => ?_⟩
  obtain ⟨hsucceed, hm', hh', hnone⟩ := hplan.lessens dismantlingOrder_ordered hm hh hfew hall
  exact ⟨hsucceed, hm'.bare hh' fun handle kind => by rw [hnone, if_neg List.not_mem_nil]⟩

theorem oneOfEach_dismantled :
    let v := (fresh .driver {} [{}]).performAll oneOfEach
    v.issued = 7 ∧ ∃ plan, v.Plan dismantlingOrder plan ∧ v.AllSucceed plan ∧
      (v.performAll plan).Bare := by
  obtain ⟨⟨plan, hplan⟩, hall⟩ := everything_dismantled .driver {} [{}] oneOfEach (by decide)
  exact ⟨by decide, plan, hplan, hall plan hplan⟩

end Verbs

end Rdma
