import Rdma.Proofs.Verbs.Effect

/-!
# The handle layer mirrors the fabric

Registry, way back and details are kept apart from the tables of the fabric, and yet follow them: live
handles and objects are in bijection, what is on record as parents names what the object refers to,
and the details are the facts of the object (`Mirror`). Every effect keeps this up as long as sequence
numbers fit a handle.

* `Effect.mirror` — the step;
* `performAll_mirror` — the run.
-/

namespace Rdma.Verbs

open Fabric (Object)

variable {v w : Verbs}

structure Mirror (v : Verbs) : Prop where
  issued : ∀ {handle entry}, v.registry.entries.find? handle = some entry →
    ∃ kind sequence, handle = .compose kind sequence ∧ sequence < v.registry.nextSequence
  reversed : ∀ {kind id handle}, v.registry.lookup kind id = some handle ↔
    v.registry.resolve handle kind = some id
  image : ∀ {handle kind id}, v.registry.resolve handle kind = some id →
    ∃ o, v.host.fabric.object? kind id = some o ∧
      Names v.registry (v.registry.parents handle) o.references ∧
      v.details.find? handle = o.details?
  handled : ∀ {kind id o}, v.host.fabric.object? kind id = some o →
    ∃ handle, v.registry.resolve handle kind = some id
  described : ∀ {handle}, v.registry.entries.find? handle = none → v.details.find? handle = none
  counted : v.registry.Counted
  size : v.registry.size < v.registry.nextSequence

/-! ## Names -/

section Names

variable {r r' : Registry} {handles : List Handle} {objects : List (ResourceKind × NativeId)}

theorem Names.mem_left (hn : Names r handles objects) {handle : Handle} (hmem : handle ∈ handles) :
    ∃ kind id, (kind, id) ∈ objects ∧ r.resolve handle kind = some id := by
  induction hn with
  | nil => cases hmem
  | cons hr _ ih =>
      rcases List.mem_cons.1 hmem with rfl | hmem
      · exact ⟨_, _, List.mem_cons_self, hr⟩
      · obtain ⟨kind, id, hobject, hr⟩ := ih hmem
        exact ⟨kind, id, List.mem_cons_of_mem _ hobject, hr⟩

theorem Names.mem_right (hn : Names r handles objects) {kind : ResourceKind} {id : NativeId}
    (hmem : (kind, id) ∈ objects) : ∃ handle ∈ handles, r.resolve handle kind = some id := by
  induction hn with
  | nil => cases hmem
  | cons hr _ ih =>
      rcases List.mem_cons.1 hmem with rfl | hmem
      · exact ⟨_, List.mem_cons_self, hr⟩
      · obtain ⟨handle, hhandle, hr⟩ := ih hmem
        exact ⟨handle, List.mem_cons_of_mem _ hhandle, hr⟩

/-- Handles go on naming objects in a registry that resolves them as before. -/
theorem Names.mono (hn : Names r handles objects)
    (hkeep : ∀ handle kind id, (kind, id) ∈ objects → r.resolve handle kind = some id →
      r'.resolve handle kind = some id) : Names r' handles objects := by
  induction hn with
  | nil => exact .nil
  | cons hr _ ih =>
      refine .cons (hkeep _ _ _ List.mem_cons_self hr) (ih fun handle kind id hmem => ?_)
      exact hkeep handle kind id (List.mem_cons_of_mem _ hmem)

end Names

/-! ## Live handles -/

theorem live_of_resolve {r : Registry} {handle : Handle} {kind : ResourceKind} {id : NativeId}
    (hr : r.resolve handle kind = some id) :
    ∃ entry, r.entries.find? handle = some entry ∧ entry.native = id :=
  (Registry.resolve_eq_some.1 hr).2

/-- Two live handles never name one object. -/
theorem Mirror.unique (hm : v.Mirror) {handle handle' : Handle} {kind : ResourceKind}
    {id : NativeId} (hr : v.registry.resolve handle kind = some id)
    (hr' : v.registry.resolve handle' kind = some id) : handle = handle' :=
  Option.some.inj ((hm.reversed.2 hr).symm.trans (hm.reversed.2 hr'))

/-- Every live handle tells its kind, and resolves as that. -/
theorem Mirror.resolve_live (hm : v.Mirror) {handle : Handle} {entry : Registry.Entry}
    (hentry : v.registry.entries.find? handle = some entry) :
    ∃ kind, handle.kind? = some kind ∧ v.registry.resolve handle kind = some entry.native := by
  obtain ⟨kind, sequence, rfl, -⟩ := hm.issued hentry
  have hkind := Handle.kind?_compose kind sequence
  exact ⟨kind, hkind, Registry.resolve_eq_some.2 ⟨hkind, entry, hentry, rfl⟩⟩

theorem parents_eq {r : Registry} {handle : Handle} {entry : Registry.Entry}
    (hentry : r.entries.find? handle = some entry) : r.parents handle = entry.parents := by
  simp [Registry.parents, hentry]

/-- What is on record as a parent is live. -/
theorem Mirror.parent_live (hm : v.Mirror) {handle parent : Handle} {entry : Registry.Entry}
    (hentry : v.registry.entries.find? handle = some entry) (hparent : parent ∈ entry.parents) :
    ∃ entry', v.registry.entries.find? parent = some entry' := by
  obtain ⟨kind, -, hr⟩ := hm.resolve_live hentry
  obtain ⟨o, -, hnames, -⟩ := hm.image hr
  rw [parents_eq hentry] at hnames
  obtain ⟨kind', id', -, hr'⟩ := hnames.mem_left hparent
  obtain ⟨entry', hentry', -⟩ := live_of_resolve hr'
  exact ⟨entry', hentry'⟩

/-- Something refers to an object if and only if its handle is on record as a parent. -/
theorem Mirror.referenced_iff (hm : v.Mirror) {handle : Handle} {kind : ResourceKind}
    {id : NativeId} (hr : v.registry.resolve handle kind = some id) :
    v.host.fabric.Referenced kind id ↔
      ∃ handle' entry, v.registry.entries.find? handle' = some entry ∧ handle ∈ entry.parents := by
  constructor
  · rintro ⟨kind', id', o, ho, hmem⟩
    obtain ⟨handle', hr'⟩ := hm.handled ho
    obtain ⟨o', ho', hnames, -⟩ := hm.image hr'
    obtain rfl : o = o' := Option.some.inj (ho.symm.trans ho')
    obtain ⟨parent, hparent, hpr⟩ := hnames.mem_right hmem
    obtain ⟨entry, hentry, -⟩ := live_of_resolve hr'
    rw [parents_eq hentry, ← hm.unique hr hpr] at hparent
    exact ⟨handle', entry, hentry, hparent⟩
  · rintro ⟨handle', entry, hentry, hparent⟩
    obtain ⟨kind', -, hr'⟩ := hm.resolve_live hentry
    obtain ⟨o, ho, hnames, -⟩ := hm.image hr'
    rw [parents_eq hentry] at hnames
    obtain ⟨kind'', id'', hmem, hpr⟩ := hnames.mem_left hparent
    obtain ⟨rfl, rfl⟩ := Registry.resolve_inj hr hpr
    exact ⟨kind', entry.native, o, ho, hmem⟩

/-! ## What effects do -/

/-- Work is not seen. -/
theorem Works.mirror (hw : v.Works w) (hm : v.Mirror) : w.Mirror := by
  obtain ⟨hregistry, hdetails, -, hhost⟩ := hw
  constructor
  case issued => rw [hregistry]; exact hm.issued
  case reversed => rw [hregistry]; exact hm.reversed
  case image => rw [hregistry, hdetails, hhost.objects]; exact hm.image
  case handled => rw [hregistry, hhost.objects]; exact hm.handled
  case described => rw [hregistry, hdetails]; exact hm.described
  case counted => rw [hregistry]; exact hm.counted
  case size => rw [hregistry]; exact hm.size

/-- The next handle is not live, as long as sequence numbers fit a handle. -/
theorem Mirror.next_absent (hm : v.Mirror) (hfew : v.registry.nextSequence < 2 ^ 56)
    (kind : ResourceKind) :
    v.registry.entries.find? (.compose kind v.registry.nextSequence) = none := by
  refine Option.eq_none_iff_forall_not_mem.2 fun entry hentry => ?_
  obtain ⟨kind', sequence, heq, hsequence⟩ := hm.issued hentry
  obtain ⟨-, rfl⟩ := Handle.compose_inj hfew (Nat.lt_trans hsequence hfew) heq
  exact Nat.lt_irrefl _ hsequence

/-- What resolves is not the next handle. -/
theorem Mirror.ne_next (hm : v.Mirror) (hfew : v.registry.nextSequence < 2 ^ 56) {handle : Handle}
    {kind : ResourceKind} {id : NativeId} (hr : v.registry.resolve handle kind = some id)
    (kind' : ResourceKind) : handle ≠ .compose kind' v.registry.nextSequence := by
  rintro rfl
  obtain ⟨entry, hentry, -⟩ := live_of_resolve hr
  simp [hm.next_absent hfew] at hentry

section Issued

variable {host : Host} {o : Object} {parents : List Handle} (hm : v.Mirror)
  (hfew : v.registry.nextSequence < 2 ^ 56)

include hm hfew

theorem Mirror.resolve_bestowed_old {handle : Handle} {kind : ResourceKind} {id : NativeId}
    (hr : v.registry.resolve handle kind = some id) (native : NativeId) :
    (v.registry.insert o.kind native parents).2.resolve handle kind = some id := by
  rw [Registry.resolve_insert, if_neg (hm.ne_next hfew hr o.kind), hr]

theorem Mirror.details_bestowed (id : NativeId) (handle : Handle) :
    (bestowed { v with host } o id parents).details.find? handle =
      if handle = .compose o.kind v.registry.nextSequence then o.details?
      else v.details.find? handle := by
  simp only [bestowed]
  cases o.details? with
  | some details => simp
  | none =>
      by_cases hnew : handle = .compose o.kind v.registry.nextSequence
      · simp [hnew, hm.described (hm.next_absent hfew o.kind)]
      · simp [hnew]

/-- A handle that is issued with named parents for an object just created keeps the mirror. -/
theorem Mirror.bestowed (hh : v.host.fabric.Sound) (hadd : v.host.fabric.Adds host.fabric o)
    (hnames : Names v.registry (parents.filter (!·.isNull)) o.references) :
    (bestowed { v with host } o v.host.fabric.nextId parents).Mirror := by
  have habsent := hm.next_absent hfew o.kind
  have hkeep {handle kind id} (hr : v.registry.resolve handle kind = some id) :
      (v.registry.insert o.kind v.host.fabric.nextId parents).2.resolve handle kind = some id :=
    hm.resolve_bestowed_old hfew hr _
  constructor
  case issued =>
    intro handle entry hentry
    simp only [Verbs.bestowed, Registry.find?_insert] at hentry
    split at hentry
    case isTrue hnew => exact ⟨_, _, hnew, Nat.lt_succ_self _⟩
    case isFalse =>
      obtain ⟨_, hold, -⟩ := Option.map_eq_some_iff.1 hentry
      obtain ⟨kind, sequence, heq, hlt⟩ := hm.issued hold
      exact ⟨kind, sequence, heq, Nat.lt_succ_of_lt hlt⟩
  case reversed =>
    intro kind id handle
    simp only [Verbs.bestowed, Registry.lookup_insert, Registry.resolve_insert]
    -- the object may be the new one or not, and so may the handle
    by_cases hobject : kind = o.kind ∧ id = v.host.fabric.nextId <;>
      by_cases hnew : handle = .compose o.kind v.registry.nextSequence
    · obtain ⟨rfl, rfl⟩ := hobject
      simp [hnew]
    · obtain ⟨rfl, rfl⟩ := hobject
      have hfree : v.registry.resolve handle o.kind ≠ some v.host.fabric.nextId := by
        intro hr
        obtain ⟨o', ho', -⟩ := hm.image hr
        simp [hh.next_free] at ho'
      simp [hnew, hfree, Ne.symm hnew]
    · have hback : v.registry.lookup kind id ≠ some handle := fun hback =>
        hm.ne_next hfew (hm.reversed.1 hback) o.kind hnew
      rw [if_neg hobject, if_pos hnew]
      grind
    · rw [if_neg hobject, if_neg hnew, hm.reversed]
  case image =>
    intro handle kind id hr
    rw [hm.details_bestowed hfew]
    simp only [Verbs.bestowed, Registry.resolve_insert, Registry.parents_insert] at hr ⊢
    split at hr
    case isTrue hnew =>
      split at hr
      case isFalse => cases hr
      case isTrue hkind =>
        obtain rfl := Option.some.inj hr
        rw [if_pos hnew, if_pos hnew]
        exact ⟨o, hkind ▸ hadd.object_new, hnames.mono fun _ _ _ _ hr => hkeep hr, rfl⟩
    case isFalse hnew =>
      obtain ⟨o', ho', hnames', hdetails⟩ := hm.image hr
      rw [if_neg hnew, if_neg hnew]
      exact ⟨o', hadd.object_old hh ho', hnames'.mono fun _ _ _ _ hr => hkeep hr, hdetails⟩
  case handled =>
    intro kind id o' ho'
    rcases hadd.object_cases ho' with ⟨rfl, rfl, -⟩ | hold
    · exact ⟨.compose o.kind v.registry.nextSequence, by
        simp [Verbs.bestowed, Registry.resolve_insert]⟩
    · obtain ⟨handle, hr⟩ := hm.handled hold
      exact ⟨handle, hkeep hr⟩
  case described =>
    intro handle hnone
    simp only [Verbs.bestowed, Registry.find?_insert] at hnone
    rw [hm.details_bestowed hfew]
    split at hnone
    case isTrue => cases hnone
    case isFalse hnew => rw [if_neg hnew, hm.described (Option.map_eq_none_iff.1 hnone)]
  case counted =>
    -- no live handle names the new one as a parent, nor does it name itself
    refine hm.counted.insert habsent (Nat.eq_zero_of_not_pos fun hpos => ?_) fun hmem => ?_
    · obtain ⟨handle, entry, hentry, hparent⟩ := Registry.mentions_pos.1 hpos
      obtain ⟨entry', hentry'⟩ := hm.parent_live hentry hparent
      simp [habsent] at hentry'
    · have hnull : (!(Handle.compose o.kind v.registry.nextSequence).isNull) = true := by
        simp [Handle.isNull_compose]
      obtain ⟨kind, id, -, hr⟩ := hnames.mem_left (List.mem_filter.2 ⟨hmem, hnull⟩)
      exact hm.ne_next hfew hr o.kind rfl
  case size =>
    have hone : (v.registry.insert o.kind v.host.fabric.nextId parents).2.size =
        v.registry.size + 1 := by
      simp only [Registry.size, Table.size_eq_total]
      exact Registry.total_insert habsent fun _ _ => rfl
    exact hone ▸ Nat.succ_lt_succ hm.size

end Issued

/-- Revoking the handle of an object just destroyed keeps the mirror. -/
theorem Mirror.revoked (hm : v.Mirror) {host : Host} {handle : Handle} {o : Object}
    {id : NativeId} (hr : v.registry.resolve handle o.kind = some id)
    (hrem : v.host.fabric.Removes host.fabric o id)
    (hunused : ¬ v.host.fabric.Referenced o.kind id) :
    (revoke handle { v with host }).Mirror := by
  obtain ⟨hkind, entry, hentry, rfl⟩ := Registry.resolve_eq_some.1 hr
  have hback := hm.reversed.2 hr
  -- the handle that goes and the object that goes determine each other
  have hgone {handle' kind' id'} (hr' : v.registry.resolve handle' kind' = some id') :
      handle' = handle ↔ kind' = o.kind ∧ id' = entry.native := by
    constructor
    · rintro rfl
      exact Registry.resolve_inj hr' hr
    · rintro ⟨rfl, rfl⟩
      exact hm.unique hr' hr
  constructor
  case issued =>
    intro handle' entry' hentry'
    simp only [revoke, note, Registry.find?_remove hentry] at hentry'
    split at hentry'
    case isTrue => cases hentry'
    case isFalse =>
      obtain ⟨_, hold, -⟩ := Option.map_eq_some_iff.1 hentry'
      obtain ⟨kind, sequence, heq, hlt⟩ := hm.issued hold
      refine ⟨kind, sequence, heq, ?_⟩
      simpa only [revoke, note, Registry.nextSequence_remove] using hlt
  case reversed =>
    intro kind' id' handle'
    simp only [revoke, note, Registry.lookup_remove hkind hentry hback,
      Registry.resolve_remove hentry, Option.ite_none_left_eq_some, hm.reversed]
    exact and_congr_left fun hr' => not_congr (hgone hr').symm
  case image =>
    intro handle' kind' id' hr'
    simp only [revoke, note, Registry.resolve_remove hentry, Registry.parents_remove hentry,
      Option.ite_none_left_eq_some, Table.find?_erase] at hr' ⊢
    obtain ⟨hne, hr'⟩ := hr'
    obtain ⟨o', ho', hnames, hdetails⟩ := hm.image hr'
    rw [if_neg hne, if_neg hne]
    refine ⟨o', hrem.object_old ho' (mt (hgone hr').2 hne), hnames.mono ?_, hdetails⟩
    intro parent kind'' id'' hmem hparent
    rw [Registry.resolve_remove hentry, if_neg, hparent]
    -- a parent that goes would be referred to
    intro hsame
    obtain ⟨rfl, rfl⟩ := (hgone hparent).1 hsame
    exact hunused ⟨kind', id', o', ho', hmem⟩
  case handled =>
    intro kind' id' o' ho'
    obtain ⟨hne, hold⟩ := hrem.object_cases ho'
    obtain ⟨handle', hr'⟩ := hm.handled hold
    refine ⟨handle', ?_⟩
    simp only [revoke, note, Registry.resolve_remove hentry, if_neg (mt (hgone hr').1 hne), hr']
  case described =>
    intro handle' hnone
    simp only [revoke, note, Registry.find?_remove hentry, Table.find?_erase] at hnone ⊢
    split at hnone
    case isTrue hsame => rw [if_pos hsame]
    case isFalse hne => rw [if_neg hne, hm.described (Option.map_eq_none_iff.1 hnone)]
  case counted => exact hm.counted.remove hentry
  case size =>
    have hone : (v.registry.remove handle).2.size + 1 = v.registry.size := by
      simp only [Registry.size, Table.size_eq_total]
      exact Registry.total_remove hentry fun _ _ => rfl
    have hsize := hm.size
    simp only [revoke, note, Registry.nextSequence_remove]
    omega

/-! ## Runs -/

theorem Effect.nextSequence_le (he : v.Effect w) :
    v.registry.nextSequence ≤ w.registry.nextSequence := by
  cases he with
  | works hw => exact Nat.le_of_eq (congrArg _ hw.registry.symm)
  | issued => exact Nat.le_succ _
  | revoked => exact Nat.le_of_eq (Registry.nextSequence_remove _ _).symm

theorem Effect.policy (he : v.Effect w) : w.policy = v.policy := by
  cases he with
  | works hw => exact hw.policy
  | issued | revoked => rfl

theorem Effect.sound (he : v.Effect w) (hh : v.host.Sound) : w.host.Sound := by
  cases he with
  | works hw => exact hw.host.sound hh
  | issued _ hsound _ => exact (hsound hh).note trivial
  | revoked _ _ _ hsound => exact (hsound hh).note trivial

/-- Every effect keeps the mirror, as long as sequence numbers fit a handle. -/
theorem Effect.mirror (he : v.Effect w) (hm : v.Mirror) (hh : v.host.Sound)
    (hfew : w.registry.nextSequence ≤ 2 ^ 56) : w.Mirror := by
  cases he with
  | works hw => exact hw.mirror hm
  | issued hadd _ hnames => exact hm.bestowed (Nat.lt_of_succ_le hfew) hh.fabric hadd hnames
  | revoked hr hrem hunused _ => exact hm.revoked hr hrem hunused

/-- Before any handle is issued there is nothing to mirror, whatever happened to the host. -/
theorem start_mirror (policy : DependencyPolicy) (host : Host) (devices : List DeviceConfig) :
    (start .soft policy (host.withDevices devices)).Mirror := by
  obtain ⟨attached, nextId, hfabric⟩ := Fabric.ofDevices_eq devices
  have hnone {handle kind id} :
      (start .soft policy (host.withDevices devices)).registry.resolve handle kind ≠ some id := by
    intro hr
    obtain ⟨entry, hentry, -⟩ := live_of_resolve hr
    cases hentry
  constructor
  case issued => intro handle entry hentry; cases hentry
  case reversed => exact ⟨nofun, fun hr => absurd hr hnone⟩
  case image => exact fun hr => absurd hr hnone
  case handled =>
    intro kind id o ho
    simp only [start, Host.note_fabric, Host.withDevices, hfabric] at ho
    cases kind <;> cases ho
  case described => exact fun _ => rfl
  case counted => intro handle entry hentry; cases hentry
  case size => exact Nat.one_pos

theorem fresh_mirror (policy : DependencyPolicy) (memory : Memory) (devices : List DeviceConfig) :
    (fresh policy memory devices).Mirror := start_mirror policy { memory } devices

theorem fresh_sound (policy : DependencyPolicy) (memory : Memory) (devices : List DeviceConfig) :
    (fresh policy memory devices).host.Sound :=
  (Host.fresh_sound memory devices).note trivial

/-- The host stays sound, and no handle is issued twice. -/
theorem performAll_sound (hh : v.host.Sound) (ops : List AnyOperation) :
    (v.performAll ops).host.Sound ∧
      v.registry.nextSequence ≤ (v.performAll ops).registry.nextSequence := by
  induction ops generalizing v with
  | nil => exact ⟨hh, Nat.le_refl _⟩
  | cons op rest ih =>
      have he := perform_effect hh op.2
      obtain ⟨hh', hle⟩ := ih (he.sound hh)
      exact ⟨hh', Nat.le_trans he.nextSequence_le hle⟩

/-- A run keeps the mirror, as long as sequence numbers fit a handle. -/
theorem performAll_mirror (hm : v.Mirror) (hh : v.host.Sound) (ops : List AnyOperation)
    (hfew : (v.performAll ops).registry.nextSequence ≤ 2 ^ 56) : (v.performAll ops).Mirror := by
  induction ops generalizing v with
  | nil => exact hm
  | cons op rest ih =>
      have he := perform_effect hh op.2
      have hh' := he.sound hh
      have hstep := he.mirror hm hh (Nat.le_trans (performAll_sound hh' rest).2 hfew)
      exact ih hstep hh' hfew

/-- While fewer handles are issued than a handle can number, the next number fits one, too. -/
theorem nextSequence_le_of_issued (hissued : v.issued < 2 ^ 56) :
    v.registry.nextSequence ≤ 2 ^ 56 := by
  unfold issued at hissued
  omega

theorem reachable_mirror (policy : DependencyPolicy) (memory : Memory)
    (devices : List DeviceConfig) (ops : List AnyOperation)
    (hissued : ((fresh policy memory devices).performAll ops).issued < 2 ^ 56) :
    ((fresh policy memory devices).performAll ops).Mirror :=
  performAll_mirror (fresh_mirror policy memory devices) (fresh_sound policy memory devices) ops
    (nextSequence_le_of_issued hissued)

/-- Operations on a fresh handle layer that create an object of each kind. -/
def oneOfEach : List AnyOperation :=
  let ctx : Handle := .compose .context 1
  let pd : Handle := .compose .protectionDomain 2
  let channel : Handle := .compose .completionChannel 3
  let cq : Handle := .compose .completionQueue 4
  let srq : Handle := .compose .sharedReceiveQueue 5
  [⟨_, .openDevice 0⟩, ⟨_, .allocPd ctx⟩, ⟨_, .createChannel ctx⟩, ⟨_, .createCq ctx 4 channel 7 0⟩,
    ⟨_, .createSrq pd {}⟩, ⟨_, .regMr pd 4096 64 .standard⟩,
    ⟨_, .createQp pd { sendCq := cq, recvCq := cq, srq }⟩]

end Rdma.Verbs
