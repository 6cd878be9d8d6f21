import Rdma.Proofs.Host.Counters
import Rdma.Proofs.Verbs.Custody
import Rdma.Proofs.Verbs.Mirror
import Rdma.Proofs.Verbs.Relocation

/-!
# Devices that come and go

A device that is attached draws an identity, so that all objects created later have other identities
than they would have had. Every identity in use was drawn before, though, and the fabric with the
device is the one without it under other identities. What a caller gets to see is the same, as long
as it does not look at the attached devices.

* `Drawn` — all identities in use were drawn;
* `Drawn.moved_refitted` — what attaching and detaching devices changes;
* `sights_moved` — what is seen under other identities;
* `hotplug_undisturbed` — what is seen while devices come and go.
-/

namespace Rdma

/-! ## Relocations that keep what was drawn -/

/-- All identities from `bound` on make room for some more. -/
def Relocation.gap (bound room : Nat) (started : 0 < bound) (devices : List Fabric.Device)
    (past : List Event) : Relocation where
  move id := if id < bound then id else id + room
  first := bound
  mono (id id' : Nat) (hid : id < id') := by
    show (if id < bound then id else id + room : Nat) < if id' < bound then id' else id' + room
    split <;> split <;> omega
  null := if_pos started
  steady (id : Nat) hid := by
    rw [if_neg (Nat.not_lt.2 hid), if_neg (Nat.not_lt.2 (Nat.le_succ_of_le hid)), Nat.succ_add]
  devices := fun _ => devices
  past := past

variable {m : Relocation}

namespace Fabric

variable {f : Fabric}

theorem Belongs.present {kind : ResourceKind} {id ctx : NativeId} (hb : f.Belongs kind id ctx) :
    ∃ o, f.object? kind id = some o := by
  cases hb <;> exact ⟨_, ‹_›⟩

theorem Sound.reference_below (hf : f.Sound) {kind : ResourceKind} {id : NativeId} {o : Object}
    (ho : f.object? kind id = some o) {r : ResourceKind × NativeId} (hr : r ∈ o.references) :
    r.2 < f.nextId := by
  obtain ⟨ctx, hsupported⟩ := hf.supported ho
  obtain ⟨o', ho'⟩ := (hsupported r hr).present
  exact (hf.below ho').2

/-- Where no identity that was drawn moves, only the devices and the counter are other ones. -/
theorem Sound.moved_eq (hf : f.Sound)
    (hpending : ∀ {id c}, f.channels.find? id = some c → ∀ e ∈ c.pending, e.cq < f.nextId)
    (hfix : ∀ id < f.nextId, m.move id = id) :
    f.moved m = { f with devices := m.devices f.devices, nextId := m.move f.nextId } := by
  have hobject {kind : ResourceKind} {id : NativeId} {o : Object} (ho : f.object? kind id = some o) :
      m.move id = id ∧ o.Stays m :=
    ⟨hfix id (hf.below ho).2, fun r hr => hfix r.2 (hf.reference_below ho hr)⟩
  refine f.moved_eq m hobject (fun hc e he => hfix e.cq (hpending hc e he)) fun hid => ?_
  obtain ⟨q, ho, -⟩ := (hf.numbered _ _).1 hid
  exact (hobject ho).1

end Fabric

/-- Revoking a handle leaves no new way back. -/
theorem Registry.lookup_of_remove {r : Registry} {handle handle' : Handle} {kind : ResourceKind}
    {id : NativeId} (hback : (r.remove handle).2.lookup kind id = some handle') :
    r.lookup kind id = some handle' := by
  unfold remove at hback
  split at hback
  · exact hback
  · simp only [lookup, forget] at hback
    split at hback
    · exact hback
    split at hback
    · exact (Table.erased hback).2
    · exact hback

namespace Verbs

variable {v w : Verbs}

/-- All identities that the handle layer knows were drawn. -/
structure Drawn (v : Verbs) : Prop where
  host : v.host.Sound
  natives : ∀ {handle entry}, v.registry.entries.find? handle = some entry →
    entry.native < v.host.fabric.nextId
  back : ∀ {kind id handle}, v.registry.lookup kind id = some handle → id < v.host.fabric.nextId

/-- The handle layer over a fabric with other devices and another counter, after another past. -/
def refitted (v : Verbs) (devices : List Fabric.Device) (nextId : NativeId) (past : List Event) :
    Verbs :=
  { v with
    host := { v.host with
      fabric := { v.host.fabric with devices, nextId }
      journal := ⟨past⟩ } }

/-- Without a past, and under identities that keep those that were drawn, the handle layer only has
other devices and another counter. -/
theorem Drawn.moved_refitted (hv : v.Drawn)
    (hfix : ∀ id < v.host.fabric.nextId, m.move id = id) :
    ({ v with host := { v.host with journal := {} } } : Verbs).moved m =
      v.refitted (m.devices v.host.fabric.devices) (m.move v.host.fabric.nextId) m.past := by
  have hpending {id : NativeId} {c : Fabric.Channel} (hc : v.host.fabric.channels.find? id = some c)
      (e : CqEvent) (he : e ∈ c.pending) : e.cq < v.host.fabric.nextId := by
    obtain ⟨q, hq, -⟩ := hv.host.pending hc e he
    exact (hv.host.fabric.below hq).2
  have hfabric : v.host.fabric.moved m =
      { v.host.fabric with
        devices := m.devices v.host.fabric.devices
        nextId := m.move v.host.fabric.nextId } :=
    hv.host.fabric.moved_eq hpending hfix
  have hentries : Registry.movedEntries m v.registry.entries = v.registry.entries := by
    refine v.registry.entries.rekey_eq_self Function.injective_id fun handle entry hentry =>
      ⟨rfl, ?_⟩
    have hnative : m.move entry.native = entry.native := hfix _ (hv.natives hentry)
    simp only [Registry.Entry.moved, hnative]
  have hreverse : Registry.movedReverse m v.registry.reverse = v.registry.reverse := by
    refine v.registry.reverse.rekey_eq_self (Registry.wayBack_injective m) fun key handle hback =>
      ⟨?_, rfl⟩
    obtain ⟨kind, id⟩ := key
    exact congrArg (Prod.mk kind) (hfix id (hv.back hback))
  simp only [moved, Host.moved, Registry.moved, refitted, hfabric, hentries, hreverse]
  rfl

/-! ## Drawn identities -/

/-- No verb puts an identity on record that has not been drawn. -/
theorem Effect.drawn (he : v.Effect w) (hv : v.Drawn)
    (hgrown : v.host.fabric.nextId ≤ w.host.fabric.nextId) : w.Drawn := by
  have hhost := he.sound hv.host
  cases he with
  | works hw =>
      refine ⟨hhost, fun hentry => ?_, fun hback => ?_⟩
      · rw [hw.registry] at hentry
        exact Nat.lt_of_lt_of_le (hv.natives hentry) hgrown
      · rw [hw.registry] at hback
        exact Nat.lt_of_lt_of_le (hv.back hback) hgrown
  | @issued host o parents hadds =>
      have hnew : v.host.fabric.nextId < host.fabric.nextId :=
        Nat.lt_of_lt_of_eq (Nat.lt_succ_self _) hadds.nextId.symm
      refine ⟨hhost, fun hentry => ?_, fun hback => ?_⟩
      · simp only [bestowed, Registry.find?_insert] at hentry
        split at hentry
        · obtain rfl := Option.some.inj hentry
          exact hnew
        · obtain ⟨_, hold, rfl⟩ := Option.map_eq_some_iff.1 hentry
          have hbelow := hv.natives hold
          exact Nat.lt_of_lt_of_le hbelow hgrown
      · simp only [bestowed, Registry.lookup_insert] at hback
        split at hback
        case isTrue hmade => exact hmade.2 ▸ hnew
        case isFalse => exact Nat.lt_of_lt_of_le (hv.back hback) hgrown
  | @revoked host handle o id hr =>
      obtain ⟨-, entry, hentry, -⟩ := Registry.resolve_eq_some.1 hr
      refine ⟨hhost, fun hkept => ?_, fun hback => ?_⟩
      · simp only [revoke, note, Registry.find?_remove hentry] at hkept
        split at hkept
        · cases hkept
        · obtain ⟨_, hold, rfl⟩ := Option.map_eq_some_iff.1 hkept
          have hbelow := hv.natives hold
          exact Nat.lt_of_lt_of_le hbelow hgrown
      · exact Nat.lt_of_lt_of_le (hv.back (Registry.lookup_of_remove hback)) hgrown

theorem perform_drawn (hv : v.Drawn) {α : Type} (op : Operation α) : (perform op v).2.Drawn :=
  (perform_effect hv.host op).drawn hv (perform_leads v op).nextId_le

theorem performAll_drawn (hv : v.Drawn) (ops : List AnyOperation) : (v.performAll ops).Drawn := by
  induction ops generalizing v with
  | nil => exact hv
  | cons op rest ih => exact ih (perform_drawn hv op.2)

theorem fresh_drawn (policy : DependencyPolicy) (memory : Memory) (devices : List DeviceConfig) :
    (fresh policy memory devices).Drawn :=
  ⟨fresh_sound policy memory devices, nofun, nofun⟩

/-! ## What a caller sees -/

/-- What is done with the handle layer and the memory that it works on. -/
inductive Action : Type → Type 1 where
  | verb {α : Type} (op : Operation α) : Action α
  /-- Memory is read or written between the verbs. -/
  | access {α : Type} (f : Memory → α × Memory) : Action α

/-- An action with any type of answer. -/
abbrev AnyAction := Σ α : Type, Action α

/-- What an action does. -/
def act {α : Type} : Action α → Verb α
  | .verb op => perform op
  | .access f => .always fun v =>
      let (a, memory) := f v.host.memory
      (a, { v with host := { v.host with memory } })

/-- The action attaches or detaches devices. -/
def Action.hotplugs {α : Type} : Action α → Bool
  | .verb op => op.hotplugs
  | .access _ => false

/-- The action looks at the attached devices. -/
def Action.enumerates {α : Type} : Action α → Bool
  | .verb op => op.enumerates
  | .access _ => false

/-- What is seen of an action: its answer, and the memory thereafter. -/
structure Sight where
  {α : Type}
  answer : Except VerbsError α
  memory : Memory

/-- The handle layer after actions in a row. -/
def actAll (v : Verbs) (actions : List AnyAction) : Verbs :=
  actions.foldl (fun v action => (act action.2 v).2) v

/-- What is seen of actions in a row, other than that devices come and go. -/
def sights (v : Verbs) : List AnyAction → List Sight
  | [] => []
  | action :: rest =>
    let (answer, w) := act action.2 v
    if action.2.hotplugs then w.sights rest else ⟨answer, w.host.memory⟩ :: w.sights rest

section Sights

variable {action : AnyAction} (rest : List AnyAction)

theorem sights_cons_hotplug (v : Verbs) (hplug : action.2.hotplugs = true) :
    v.sights (action :: rest) = (act action.2 v).2.sights rest := by
  simp only [sights, hplug, if_true]

theorem sights_cons_seen (v : Verbs) (hplug : action.2.hotplugs = false) :
    v.sights (action :: rest) =
      ⟨(act action.2 v).1, (act action.2 v).2.host.memory⟩ :: (act action.2 v).2.sights rest := by
  simp only [sights, hplug, Bool.false_eq_true, if_false]

end Sights

theorem act_drawn (hv : v.Drawn) {α : Type} (action : Action α) : (act action v).2.Drawn := by
  cases action with
  | verb op => exact perform_drawn hv op
  | access f => exact ⟨hv.host.of_frame rfl rfl rfl rfl, hv.natives, hv.back⟩

theorem act_nextId_le (v : Verbs) {α : Type} (action : Action α) :
    v.host.fabric.nextId ≤ (act action v).2.host.fabric.nextId := by
  cases action with
  | verb op => exact (perform_leads v op).nextId_le
  | access f => exact Nat.le_refl _

/-- Only the devices, the counter and what happened are other ones once devices came or went. -/
theorem act_refits {α : Type} {action : Action α} (hplug : action.hotplugs = true) (v : Verbs) :
    ∃ devices room past,
      (act action v).2 = v.refitted devices (v.host.fabric.nextId + room) past := by
  cases action with
  | access f => cases hplug
  | verb op =>
      cases op with
      | plug device => exact ⟨_, 1, _, rfl⟩
      | unplug name => exact ⟨_, 0, _, rfl⟩
      | _ => cases hplug

variable (m) in
theorem act_along (v : Verbs) {α : Type} {action : Action α} (hplug : action.hotplugs = false)
    (hblind : action.enumerates = false) (hfirst : m.first ≤ v.host.fabric.nextId) :
    v.Along m id (act action) (act action) := by
  cases action with
  | verb op => exact perform_along m v hplug hblind hfirst
  | access f => exact Step.along_same rfl

/-- Other identities are not seen. -/
theorem sights_moved (v : Verbs) {actions : List AnyAction}
    (hplug : ∀ action ∈ actions, action.2.hotplugs = false)
    (hblind : ∀ action ∈ actions, action.2.enumerates = false)
    (hfirst : m.first ≤ v.host.fabric.nextId) :
    (v.moved m).sights actions = v.sights actions ∧
      ((v.moved m).actAll actions).host.memory = (v.actAll actions).host.memory := by
  induction actions generalizing v with
  | nil => exact ⟨rfl, rfl⟩
  | cons action rest ih =>
      obtain ⟨hplug₁, hplug⟩ := List.forall_mem_cons.1 hplug
      obtain ⟨hblind₁, hblind⟩ := List.forall_mem_cons.1 hblind
      have hacted : act action.2 (v.moved m) =
          ((act action.2 v).1, (act action.2 v).2.moved m) :=
        (act_along m v hplug₁ hblind₁ hfirst).same
      obtain ⟨hsights, hmemory⟩ := ih (act action.2 v).2 hplug hblind
        (Nat.le_trans hfirst (v.act_nextId_le action.2))
      simp only [sights_cons_seen rest _ hplug₁, actAll, List.foldl_cons, hacted] at hmemory ⊢
      exact ⟨congrArg (_ :: ·) hsights, hmemory⟩

/-- Other devices are not seen, nor that identities were given to them. -/
theorem Drawn.sights_refitted (hv : v.Drawn) {actions : List AnyAction}
    (hplug : ∀ action ∈ actions, action.2.hotplugs = false)
    (hblind : ∀ action ∈ actions, action.2.enumerates = false)
    (devices : List Fabric.Device) (room : Nat) (past : List Event) :
    let w := v.refitted devices (v.host.fabric.nextId + room) past
    w.sights actions = v.sights actions ∧
      (w.actAll actions).host.memory = (v.actAll actions).host.memory := by
  let n := v.host.fabric.nextId
  let u : Verbs := { v with host := { v.host with journal := {} } }
  have hseen (devices : List Fabric.Device) (room : Nat) (past : List Event) :
      (v.refitted devices (n + room) past).sights actions = u.sights actions ∧
        ((v.refitted devices (n + room) past).actAll actions).host.memory =
          (u.actAll actions).host.memory := by
    let m : Relocation := .gap n room hv.host.fabric.started devices past
    have hfix (id : NativeId) (hid : id < n) : m.move id = id := if_pos hid
    have hnext : m.move n = n + room := if_neg (Nat.lt_irrefl n)
    have hmoved : u.moved m = v.refitted devices (n + room) past :=
      (hv.moved_refitted hfix).trans (congrArg (v.refitted devices · past) hnext)
    rw [← hmoved]
    exact u.sights_moved hplug hblind (Nat.le_refl n)
  -- the handle layer as it is, too, is refitted
  obtain ⟨hsights, hmemory⟩ := hseen devices room past
  obtain ⟨hsights', hmemory'⟩ :=
    hseen v.host.fabric.devices 0 v.host.journal.newestFirst
  exact ⟨hsights.trans hsights'.symm, hmemory.trans hmemory'.symm⟩

/-- The same is seen as if no devices had come or gone. -/
theorem Drawn.sights_eq (hv : v.Drawn) {actions : List AnyAction}
    (hblind : ∀ action ∈ actions, action.2.enumerates = false) :
    let calm := actions.filter (!·.2.hotplugs)
    v.sights actions = v.sights calm ∧
      (v.actAll actions).host.memory = (v.actAll calm).host.memory := by
  induction actions generalizing v with
  | nil => exact ⟨rfl, rfl⟩
  | cons action rest ih =>
      obtain ⟨-, hrest⟩ := List.forall_mem_cons.1 hblind
      obtain ⟨hsights, hmemory⟩ := ih (act_drawn hv action.2) hrest
      cases hplug : action.2.hotplugs with
      | false =>
          simp only [List.filter_cons, hplug, Bool.not_false, if_true,
            sights_cons_seen _ _ hplug]
          exact ⟨congrArg (_ :: ·) hsights, hmemory⟩
      | true =>
          simp only [List.filter_cons, hplug, Bool.not_true, Bool.false_eq_true, if_false,
            sights_cons_hotplug _ _ hplug]
          -- the rest is seen as if the devices had not come or gone
          let calm := rest.filter (!·.2.hotplugs)
          have hplug' : ∀ action ∈ calm, action.2.hotplugs = false := fun action hmem =>
            by simpa using (List.mem_filter.1 hmem).2
          have hblind' : ∀ action ∈ calm, action.2.enumerates = false := fun action hmem =>
            hrest action (List.mem_filter.1 hmem).1
          obtain ⟨devices, room, past, hrefitted⟩ := act_refits hplug v
          obtain ⟨hsights', hmemory'⟩ := hv.sights_refitted hplug' hblind' devices room past
          rw [← hrefitted] at hsights' hmemory'
          exact ⟨hsights.trans hsights', hmemory.trans hmemory'⟩

/-- A device comes before a protection domain is allocated, and all go thereafter. Memory is
written, and the open device is asked for its port. -/
def hotplugging : List AnyAction :=
  [⟨_, .verb (.plug {})⟩, ⟨_, .verb (.allocPd (.compose .context 1))⟩,
    ⟨_, .verb (.unplug "softrdma_0")⟩,
    ⟨_, .access fun memory => ((), memory.writeBytes 4096 [1, 2])⟩,
    ⟨_, .verb (.queryPort (.compose .context 1) 1)⟩, ⟨_, .verb (.plug {})⟩]

/-- The same while no devices come or go. -/
def withoutDevices : List AnyAction :=
  [⟨_, .verb (.allocPd (.compose .context 1))⟩,
    ⟨_, .access fun memory => ((), memory.writeBytes 4096 [1, 2])⟩,
    ⟨_, .verb (.queryPort (.compose .context 1) 1)⟩]

end Verbs

end Rdma
