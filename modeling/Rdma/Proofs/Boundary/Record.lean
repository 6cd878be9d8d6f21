import Rdma.Proofs.Boundary.Library
import Rdma.Proofs.Verbs.Refusal

/-!
# Calls without a record

A record only tells the caller how a call ended. Without one a call does what it does with any, and
only the journal says that an outcome was lost. So a call that creates leaves a resource behind whose
handle nobody was told, and everything that the resource is made of stays in use.

* `make_unrecorded` — the record does not matter to the library;
* `unrecorded_call` — what calls without a record do, for every state of the library.
-/

namespace Rdma

namespace Library

/-- Nothing changed but the journal. -/
def Untouched (lib lib' : Library) : Prop :=
  ∃ journal, lib' = lib.mapHost fun h => { h with journal }

variable {lib lib' lib'' : Library}

theorem Untouched.refl (lib : Library) : lib.Untouched lib :=
  ⟨lib.host.journal, by cases lib <;> rfl⟩

theorem Untouched.trans (h : lib.Untouched lib') (h' : lib'.Untouched lib'') :
    lib.Untouched lib'' := by
  obtain ⟨journal, rfl⟩ := h
  obtain ⟨journal', rfl⟩ := h'
  exact ⟨journal', by cases lib <;> rfl⟩

theorem Untouched.symm (h : lib.Untouched lib') : lib'.Untouched lib := by
  obtain ⟨journal, rfl⟩ := h
  exact ⟨lib.host.journal, by cases lib <;> rfl⟩

theorem untouched_note (lib : Library) (e : Event) : lib.Untouched (lib.note e) :=
  ⟨lib.host.journal.add e, by cases lib <;> rfl⟩

theorem untouched_live {v w : Verbs} (h : v.Untouched w) : (live v).Untouched (live w) := by
  obtain ⟨journal, rfl⟩ := h
  exact ⟨journal, rfl⟩

end Library

namespace Boundary

variable {α : Type}

/-- The calls that create. -/
def Operation.creates : Operation α → Bool
  | .openDevice _ | .allocPd _ | .regMr .. | .createChannel _ | .createCq .. | .createSrq ..
  | .createQp .. => true
  | _ => false

variable {op : Operation α}

theorem untouched_report (record : Option ResultRecord) (outcome : Except VerbsError Handle)
    (lib : Library) : lib.Untouched (report record outcome lib).2 := by
  unfold report
  split
  · exact .refl lib
  · exact lib.untouched_note _
  · exact .refl lib
  · exact lib.untouched_note _

theorem make_outcome (op : Operation α) (env : Environment) (record : Option ResultRecord)
    (lib : Library) : (op.make env record lib).1.outcome = (op.call env lib).1 := rfl

theorem make_untouched (op : Operation α) (env : Environment) (record : Option ResultRecord)
    (lib : Library) : ((op.call env lib).2).Untouched (op.make env record lib).2 :=
  untouched_report record _ _

/-- Whether there is a record does not matter to anything but record and journal. -/
theorem make_unrecorded (op : Operation α) (env : Environment) (record : ResultRecord)
    (lib : Library) :
    (op.make env none lib).1.outcome = (op.make env (some record) lib).1.outcome ∧
      ((op.make env (some record) lib).2).Untouched (op.make env none lib).2 := by
  have hsilent := make_untouched op env none lib
  have htold := make_untouched op env (some record) lib
  exact ⟨rfl, htold.symm.trans hsilent⟩

theorem make_none_record (op : Operation α) (env : Environment) (lib : Library) :
    (op.make env none lib).1.record = none := by
  show (report none ((op.call env lib).1.map op.handleOf) (op.call env lib).2).1 = none
  unfold report
  split <;> simp_all

/-! ## Calls that change nothing -/

/-- A call that is refused on its own arguments does not reach the library. -/
theorem make_refused {what : ArgumentError} (hrefused : op.asVerb = .error what)
    (env : Environment) (record : Option ResultRecord) (lib : Library) :
    (op.make env record lib).1.outcome = .error (.invalidArgument what) ∧
      lib.Untouched (op.make env record lib).2 := by
  have hcall : op.call env lib = (.error (.invalidArgument what), lib) := by
    rw [call_eq, hrefused]
    rfl
  have hmade := make_untouched op env record lib
  rw [hcall] at hmade
  exact ⟨by rw [make_outcome, hcall], hmade⟩

/-- Any other call is one verb. -/
theorem make_verb {verb : Verbs.Operation α} (hverb : op.asVerb = .ok verb) (env : Environment)
    (record : Option ResultRecord) (v : Verbs) :
    (op.make env record (.live v)).1.outcome = (Verbs.perform verb v).1 ∧
      (Library.live (Verbs.perform verb v).2).Untouched (op.make env record (.live v)).2 := by
  have hcall : op.call env (.live v) = ((Verbs.perform verb v).1, .live (Verbs.perform verb v).2) := by
    rw [call_eq, hverb]
    rfl
  have hmade := make_untouched op env record (.live v)
  rw [hcall] at hmade
  exact ⟨by rw [make_outcome, hcall], hmade⟩

/-! ## Calls that create -/

/-- A handle names a resource that was not there before. -/
def Born (v w : Verbs) (handle : Handle) : Prop :=
  ∃ kind id o, w.registry.resolve handle kind = some id ∧
    w.host.fabric.object? kind id = some o ∧ v.host.fabric.object? kind id = none

variable {v w : Verbs}

theorem born_of_bestows (hh : v.host.Sound) {handle : Handle} {w : Verbs}
    (hb : v.Bestows (.ok handle, w)) : Born v w handle := by
  cases hb with
  | @made host o parents hadds =>
      refine ⟨o.kind, v.host.fabric.nextId, o, ?_, hadds.object_new, ?_⟩
      · simp only [Verbs.bestowed, Registry.resolve_insert, if_true]
      · refine Option.eq_none_iff_forall_not_mem.2 fun o' ho' => ?_
        exact Nat.lt_irrefl _ (hh.fabric.below ho').2

/-- Whatever an entry point that creates yields is the handle of a new object. -/
theorem creates_born (hh : v.host.Sound) (hop : op.creates = true) {verb : Verbs.Operation α}
    (hverb : op.asVerb = .ok verb) {a : α} (hdone : (Verbs.perform verb v).1 = .ok a) :
    Born v (Verbs.perform verb v).2 (op.handleOf a) := by
  have hborn {x : Verbs.Verb Handle} (hb : v.Bestows (x v)) {handle : Handle}
      (hx : (x v).1 = .ok handle) : Born v (x v).2 handle := by
    have hresult : x v = (.ok handle, (x v).2) := Prod.ext hx rfl
    rw [hresult] at hb
    exact born_of_bestows hh hb
  cases op with
  | openDevice index =>
      simp only [Operation.asVerb] at hverb
      split at hverb
      · cases hverb
      · cases hverb
        exact hborn (Verbs.openDevice_bestows hh _) hdone
  | allocPd ctx => cases hverb; exact hborn (Verbs.allocPd_bestows hh ctx) hdone
  | regMr pd addr length access =>
      cases hverb
      exact hborn (Verbs.regMr_bestows hh pd addr length access) hdone
  | createChannel ctx => cases hverb; exact hborn (Verbs.createChannel_bestows hh ctx) hdone
  | createCq ctx depth channel cookie vector =>
      cases hverb
      exact hborn (Verbs.createCq_bestows hh ctx depth channel cookie vector) hdone
  | createSrq pd init =>
      cases init with
      | none => cases hverb
      | some init => cases hverb; exact hborn (Verbs.createSrq_bestows hh pd init) hdone
  | createQp pd init =>
      cases init with
      | none => cases hverb
      | some init => cases hverb; exact hborn (Verbs.createQp_bestows hh pd init) hdone
  | _ => cases hop

/-! ## All calls -/

/-- In every state of a library that is initialised, a call without a record has the outcome and the
effect that it has with any record, and writes none. It leaves everything but the journal as it was
if it is refused on its own arguments, only looks, or fails, unless it fails half way or fetches. If
it creates, there is a resource more than before, and its handle is told to nobody. -/
theorem unrecorded_call (memory : Memory) (acts : List (Environment × Act)) {v : Verbs}
    (hlive : applyAll (begun memory) acts = .live v) (env : Environment) (op : Operation α) :
    let silent := op.make env none (.live v)
    silent.1.record = none ∧
      (∀ record, silent.1.outcome = (op.make env (some record) (.live v)).1.outcome ∧
        ((op.make env (some record) (.live v)).2).Untouched silent.2) ∧
      (∀ what, op.asVerb = .error what →
        silent.1.outcome = .error (.invalidArgument what) ∧ (Library.live v).Untouched silent.2) ∧
      (∀ verb, op.asVerb = .ok verb →
        (verb.looks = true → (Library.live v).Untouched silent.2) ∧
        (verb.inParts = false → verb.fetches = false →
          ∀ e, silent.1.outcome = .error e → (Library.live v).Untouched silent.2)) ∧
      (op.creates = true → ∀ a, silent.1.outcome = .ok a →
        ∃ w, silent.2 = .live w ∧ Born v w (op.handleOf a)) := by
  intro silent
  have hh : v.host.Sound := by
    have hsound := begun_sound memory acts
    rwa [hlive] at hsound
  refine ⟨make_none_record op env _, fun record => make_unrecorded op env record _,
    fun what hrefused => make_refused hrefused env none _, fun verb hverb => ⟨fun hlooks => ?looks,
      fun hparts hfetches e hfailed => ?fails⟩, fun hcreates a hdone => ?creates⟩
  case looks =>
    obtain ⟨-, hmade⟩ := make_verb hverb env none v
    rwa [Verbs.perform_looks hlooks v] at hmade
  case fails =>
    obtain ⟨houtcome, hmade⟩ := make_verb hverb env none v
    have hspares : v.Spares (Verbs.perform verb v) :=
      Verbs.perform_spares hh hparts fun h => by simp [hfetches] at h
    exact (Library.untouched_live (hspares e (houtcome ▸ hfailed))).trans hmade
  case creates =>
    cases hverb : op.asVerb with
    | error what =>
        rw [(make_refused hverb env none (Library.live v)).1] at hdone
        cases hdone
    | ok verb =>
        obtain ⟨houtcome, journal, hmade⟩ := make_verb hverb env none v
        obtain ⟨kind, id, o, hr, ho, hnone⟩ := creates_born hh hcreates hverb (houtcome ▸ hdone)
        exact ⟨_, hmade, kind, id, o, hr, ho, hnone⟩

/-- The library of a process that has opened its first device, with a record. -/
def firstOpened : List (Environment × Act) := [({}, .call (.openDevice 0) (some {}))]

/-- A protection domain whose handle nobody was told. -/
theorem firstOpened_unrecorded :
    let lib := applyAll (begun {}) firstOpened
    let silent := (Operation.allocPd (.compose .context 1)).make {} none lib
    silent.1.record = none ∧ ∃ v w handle, lib = .live v ∧ silent.2 = .live w ∧
      silent.1.outcome = .ok handle ∧ Born v w handle := by
  intro lib silent
  obtain ⟨v, hlive⟩ : ∃ v, lib = .live v := ⟨_, rfl⟩
  have hdone : silent.1.outcome = .ok (.compose .protectionDomain 2) := by decide +kernel
  obtain ⟨hrecord, -, -, -, hcreates⟩ :=
    unrecorded_call {} firstOpened hlive {} (.allocPd (.compose .context 1))
  rw [← hlive] at hrecord hcreates
  obtain ⟨w, hafter, hborn⟩ := hcreates rfl _ hdone
  exact ⟨hrecord, v, w, _, hlive, hafter, hdone, hborn⟩

/-- Such a protection domain keeps its context from being closed: a call without a record may change
what is there. -/
theorem unrecorded_changes :
    let lib := applyAll (begun {}) firstOpened
    let silent := (Operation.allocPd (.compose .context 1)).make {} none lib
    let closed := (Operation.closeDevice (.compose .context 1)).make {} (some {}) silent.2
    lib.isLive = true ∧ ¬ lib.Untouched silent.2 ∧
      closed.1.record = some { status := Errno.busy, handle := 0 } := by
  intro lib silent closed
  refine ⟨rfl, ?_, by decide +kernel⟩
  rintro ⟨journal, hsame⟩
  have hbefore : lib.host.fabric.pds.size = 0 := by decide +kernel
  have hafter : silent.2.host.fabric.pds.size = 1 := by decide +kernel
  have hsize : silent.2.host.fabric.pds.size = lib.host.fabric.pds.size := by
    rw [hsame]
    cases lib <;> rfl
  omega

end Boundary

end Rdma
