import Rdma.Proofs.Boundary.Initialisation

/-!
# What a call tells its caller

A call does what its verb does to the handle layer of the process, and the caller's record says how
that ended: zero and the handle of something that is there now, or the status of the failure and no
handle (`Reports`). A poll has no record and returns a number (`Polls`).

* `apply_mirrored`, `applyAll_mirrored` — in a step and in a run, the handle layer of a process mirrors
  its fabric, so what a record names is there;
* `make_reports`, `pollCq_polls` — one call;
* `calls_report` — any call after any run of a process.
-/

namespace Rdma

/-! ## Statuses -/

namespace VerbsError

/-- Did a check fail that is made here, before the provider does the work or after? -/
def ofCheck : VerbsError → Bool
  | enumeration _ | deviceIndex .. | nullResource _ | invalidHandle .. | invalidArgument _ => true
  | busy .. | driver _ | rejected .. => false

/-- Why the provider did not do the work. -/
def provider? : VerbsError → Option OsError
  | driver cause | rejected _ cause => some cause
  | _ => none

/-- The status that a failure is known by. -/
inductive KnownBy : VerbsError → Int32 → Prop
  | errno {e : VerbsError} {cause : OsError} {errno : Errno} : e.provider? = some cause →
      cause.errno? = some errno → errno ≠ 0 → KnownBy e errno
  /-- The provider gave no number, or zero. -/
  | io {e : VerbsError} {cause : OsError} : e.provider? = some cause →
      cause.errno? = none ∨ cause.errno? = some 0 → KnownBy e Errno.io
  | busy (kind : ResourceKind) (dependents : UInt64) : KnownBy (.busy kind dependents) Errno.busy
  | precondition {e : VerbsError} : e.ofCheck = true → KnownBy e preconditionStatus

theorem knownBy_of_provider {e : VerbsError} {cause : OsError} (he : e.provider? = some cause) :
    KnownBy e cause.status := by
  cases cause with
  | code errno =>
      by_cases hzero : errno = 0
      · rw [OsError.status, if_pos hzero]
        exact .io he (.inr (congrArg some hzero))
      · rw [OsError.status, if_neg hzero]
        exact .errno he rfl hzero
  | custom message => exact .io he (.inl rfl)

/-- Every failure is known by its status. -/
theorem status_knownBy (e : VerbsError) : KnownBy e e.status := by
  cases e with
  | driver cause | rejected _ cause => exact knownBy_of_provider rfl
  | busy kind dependents => exact .busy kind dependents
  | _ => exact .precondition rfl

end VerbsError

/-! ## The handle layer of a process mirrors its fabric -/

namespace Library

/-- The number of handles issued so far. -/
def issued : Library → Nat
  | idle _ => 0
  | live v => v.issued

/-- The handle names a resource that is there. -/
def Resolves (lib : Library) (handle : Handle) : Prop :=
  ∃ v kind id o, lib = live v ∧ v.registry.resolve handle kind = some id ∧
    v.host.fabric.object? kind id = some o

/-- The handle layer mirrors the fabric, if there is one. -/
def Mirrored : Library → Prop
  | idle _ => True
  | live v => v.Mirror

variable {lib lib' : Library}

theorem Untouched.resolves (hu : lib.Untouched lib') {handle : Handle} (hr : lib.Resolves handle) :
    lib'.Resolves handle := by
  obtain ⟨journal, rfl⟩ := hu
  obtain ⟨v, kind, id, o, rfl, hid, ho⟩ := hr
  exact ⟨_, kind, id, o, rfl, hid, ho⟩

/-- A handle that names something is not zero. -/
theorem Resolves.ne_zero {handle : Handle} (hr : lib.Resolves handle) : handle.raw ≠ 0 := by
  obtain ⟨v, kind, id, o, -, hid, -⟩ := hr
  exact of_decide_eq_false (Verbs.not_isNull_of_resolve hid)

theorem instanceIn_mirror (hm : lib.Mirrored) (env : Environment) : (lib.instanceIn env).Mirror := by
  cases lib with
  | live v => exact hm
  | idle h =>
      obtain ⟨journal, hinstance⟩ := instanceIn_idle env h
      rw [hinstance]
      exact Verbs.start_mirror _ _ _

end Library

namespace Boundary

open Relation (ReflTransGen)

variable {α : Type} {v w : Verbs} {lib : Library}

theorem continues_issued (hc : ReflTransGen Continues v w) (hh : v.host.Sound) :
    v.issued ≤ w.issued := by
  induction hc with
  | refl => exact Nat.le_refl _
  | tail hu hstep ih =>
      have he := hstep.effect (continues_policy hu hh).2
      exact Nat.le_trans ih (Nat.sub_le_sub_right he.nextSequence_le 1)

/-- A handle layer that goes on mirrors its fabric as long as the numbers of its handles fit. -/
theorem continues_mirror (hc : ReflTransGen Continues v w) (hh : v.host.Sound) (hm : v.Mirror)
    (hfew : w.issued < 2 ^ 56) : w.Mirror := by
  induction hc with
  | refl => exact hm
  | tail hu hstep ih =>
      have hsound := (continues_policy hu hh).2
      have hle := continues_issued (.single hstep) hsound
      exact (hstep.effect hsound).mirror (ih (Nat.lt_of_le_of_lt hle hfew)) hsound
        (Verbs.nextSequence_le_of_issued hfew)

theorem live_mirrored (hh : v.host.Sound) (hm : v.Mirror) {env : Environment} {act : Act}
    (hfew : (act.apply env (.live v)).issued < 2 ^ 56) : (act.apply env (.live v)).Mirrored := by
  obtain ⟨w, hafter, hcontinues⟩ := apply_continues env act v
  rw [hafter] at hfew ⊢
  exact continues_mirror hcontinues hh hm hfew

/-- An act keeps the mirror. It sets it up if it makes the library live. -/
theorem apply_mirrored (hh : lib.host.Sound) (hm : lib.Mirrored) {env : Environment} {act : Act}
    (hfew : (act.apply env lib).issued < 2 ^ 56) : (act.apply env lib).Mirrored := by
  cases lib with
  | live v => exact live_mirrored hh hm hfew
  | idle h =>
      by_cases hreached : act.reaches = true
      · rw [apply_reached hreached] at hfew ⊢
        exact live_mirrored (instanceIn_sound hh env) (Library.instanceIn_mirror hm env) hfew
      · -- a library that goes live without being reached has just been initialised
        have hb := apply_begins env act h
        generalize act.initStatus? env (.idle h) = status, act.apply env (.idle h) = lib at hb
        cases hb with
        | initialised => exact Verbs.start_mirror _ _ _
        | reached _ hr => exact absurd hr hreached
        | _ => trivial

theorem apply_issued (hh : lib.host.Sound) (env : Environment) (act : Act) :
    lib.issued ≤ (act.apply env lib).issued := by
  cases lib with
  | idle h => exact Nat.zero_le _
  | live v =>
      obtain ⟨w, hafter, hcontinues⟩ := apply_continues env act v
      rw [hafter]
      exact continues_issued hcontinues hh

theorem applyAll_issued (hh : lib.host.Sound) (acts : List (Environment × Act)) :
    lib.issued ≤ (applyAll lib acts).issued := by
  induction acts generalizing lib with
  | nil => exact Nat.le_refl _
  | cons first rest ih =>
      exact Nat.le_trans (apply_issued hh first.1 first.2) (ih (apply_sound hh first.1 first.2))

theorem applyAll_mirrored (hh : lib.host.Sound) (hm : lib.Mirrored)
    (acts : List (Environment × Act)) (hfew : (applyAll lib acts).issued < 2 ^ 56) :
    (applyAll lib acts).Mirrored := by
  induction acts generalizing lib with
  | nil => exact hm
  | cons first rest ih =>
      have hh' := apply_sound hh first.1 first.2
      have hstep := apply_mirrored hh hm (Nat.lt_of_le_of_lt (applyAll_issued hh' rest) hfew)
      exact ih hh' hstep hfew

/-! ## Records -/

/-- The calls that yield a handle: those that create, and the one that fetches an event. -/
def Operation.yields : Operation α → Bool
  | .getCqEvent _ => true
  | op => op.creates

theorem handleOf_eq_null {op : Operation α} (hop : op.yields = false) (a : α) :
    op.handleOf a = .null := by
  cases op <;> first | rfl | cases hop

/-- A fetched event is about a completion queue that there is. -/
theorem getCqEvent_resolves (hm : v.Mirror) {channel : Handle} {a : Handle × UInt64}
    (hdone : (Verbs.getCqEvent .soft channel v).1 = .ok a) :
    (Library.live (Verbs.getCqEvent .soft channel v).2).Resolves a.1 := by
  cases hr : v.registry.resolve channel .completionChannel with
  | none => simp [Verbs.getCqEvent, Step.bind_apply, Verbs.resolve, Step.read, hr] at hdone
  | some id =>
      have hworks := v.host.getCqEvent_works id
      simp only [Verbs.getCqEvent, Step.bind_apply, Verbs.resolve, Step.read, hr, Verbs.native,
        Verbs.onHost, Provider.soft] at hdone ⊢
      generalize Host.getCqEvent id v.host = result at hdone hworks ⊢
      obtain ⟨_ | event, k⟩ := result
      · cases hdone
      · cases hcq : v.registry.lookup .completionQueue event.cq with
        | none => simp [hcq] at hdone
        | some cq =>
            have hresolves := hm.reversed.1 hcq
            obtain ⟨o, ho, -⟩ := hm.image hresolves
            obtain rfl : (cq, event.cookie) = a := by simpa [hcq] using hdone
            exact ⟨_, _, _, o, rfl, hresolves, hworks.objects ▸ ho⟩

/-- What a verb yields a handle of is there afterwards. -/
theorem yields_resolves (hh : v.host.Sound) (hm : v.Mirror) {op : Operation α}
    (hop : op.yields = true) {verb : Verbs.Operation α} (hverb : op.asVerb = .ok verb) {a : α}
    (hdone : (Verbs.perform verb v).1 = .ok a) :
    (Library.live (Verbs.perform verb v).2).Resolves (op.handleOf a) := by
  by_cases hcreates : op.creates = true
  · obtain ⟨kind, id, o, hr, ho, -⟩ := creates_born hh hcreates hverb hdone
    exact ⟨_, kind, id, o, rfl, hr, ho⟩
  · cases op with
    | getCqEvent channel => cases hverb; exact getCqEvent_resolves hm hdone
    | _ => exact absurd hop hcreates

/-- A record tells how a call ended that has left `lib`. -/
structure Reports (op : Operation α) (outcome : Except VerbsError α) (lib : Library)
    (told : ResultRecord) : Prop where
  /-- Status zero is success, and no failure has it. -/
  succeeded : told.status = 0 ↔ ∃ a, outcome = .ok a
  handle : ∀ {a}, outcome = .ok a →
    told.handle = (op.handleOf a).raw ∧ told.toExcept = .ok (op.handleOf a)
  /-- A handle that is yielded is not null, and names something. -/
  resolves : ∀ {a}, outcome = .ok a → op.yields = true →
    told.handle ≠ 0 ∧ lib.Resolves ⟨told.handle⟩
  bare : ∀ {a}, outcome = .ok a → op.yields = false → told.handle = 0
  failed : ∀ {e}, outcome = .error e →
    told.handle = 0 ∧ e.KnownBy told.status ∧ told.toExcept = .error told.status

/-- The record of an outcome reports it, if what it yields a handle of is there. -/
theorem ofOutcome_reports {op : Operation α} {outcome : Except VerbsError α}
    (hyields : op.yields = true → ∀ a, outcome = .ok a → lib.Resolves (op.handleOf a)) :
    Reports op outcome lib (.ofOutcome (outcome.map op.handleOf)) := by
  have htold := ResultRecord.toExcept_ofOutcome (outcome.map op.handleOf)
  cases outcome with
  | error e =>
      exact
        { succeeded := ⟨fun hzero => absurd hzero e.status_ne_zero, nofun⟩
          handle := nofun
          resolves := nofun
          bare := nofun
          failed := fun he => Except.error.inj he ▸ ⟨rfl, e.status_knownBy, htold⟩ }
  | ok a =>
      exact
        { succeeded := ⟨fun _ => ⟨a, rfl⟩, fun _ => rfl⟩
          handle := fun ha => Except.ok.inj ha ▸ ⟨rfl, htold⟩
          resolves := fun _ hop => ⟨(hyields hop a rfl).ne_zero, hyields hop a rfl⟩
          bare := fun _ hop => congrArg Handle.raw (handleOf_eq_null hop a)
          failed := nofun }

theorem make_record (op : Operation α) (env : Environment) (record : ResultRecord)
    (lib : Library) : (op.make env (some record) lib).1.record =
      some (.ofOutcome ((op.make env (some record) lib).1.outcome.map op.handleOf)) := by
  show (report (some record) ((op.call env lib).1.map op.handleOf) (op.call env lib).2).1 = _
  unfold report
  split <;> simp_all [make_outcome]

/-- A call that is not refused on its own arguments is its verb on the process's handle layer. -/
theorem make_instance {op : Operation α} {verb : Verbs.Operation α} (hverb : op.asVerb = .ok verb)
    (env : Environment) (record : Option ResultRecord) (lib : Library) :
    (op.make env record lib).1.outcome = (Verbs.perform verb (lib.instanceIn env)).1 ∧
      (Library.live (Verbs.perform verb (lib.instanceIn env)).2).Untouched
        (op.make env record lib).2 := by
  have hsame : op.make env record lib = op.make env record (.live (lib.instanceIn env)) := by
    simp only [Operation.make, Boundary.make, call_eq, hverb]
    rfl
  rw [hsame]
  exact make_verb hverb env record _

/-- Whatever a record held, a call leaves in it how it ended. -/
theorem make_reports (hh : lib.host.Sound) (hm : lib.Mirrored) (op : Operation α)
    (env : Environment) (record : ResultRecord) :
    ∃ told, (op.make env (some record) lib).1.record = some told ∧
      Reports op (op.make env (some record) lib).1.outcome (op.make env (some record) lib).2 told := by
  refine ⟨_, make_record op env record lib, ofOutcome_reports fun hop a hdone => ?_⟩
  cases hverb : op.asVerb with
  | error what =>
      rw [(make_refused hverb env (some record) lib).1] at hdone
      cases hdone
  | ok verb =>
      obtain ⟨houtcome, hmade⟩ := make_instance hverb env (some record) lib
      rw [houtcome] at hdone
      exact hmade.resolves (yields_resolves (instanceIn_sound hh env)
        (Library.instanceIn_mirror hm env) hop hverb hdone)

/-! ## Polls -/

/-- A poll takes as many completions as there is room for, or fails with a positive status. -/
theorem pollCq_cases (cq : Handle) (n : Nat) (v : Verbs) :
    (∃ completions w, Verbs.pollCq .soft cq n v = (.ok completions, w) ∧ completions.length ≤ n) ∨
      ∃ e w, Verbs.pollCq .soft cq n v = (.error e, w) ∧ -e.status < 0 := by
  cases hr : v.registry.resolve cq .completionQueue with
  | none =>
      refine .inr ⟨.invalidHandle .completionQueue cq, v, ?_, ?_⟩
      · simp only [Verbs.pollCq, Step.bind_apply, Verbs.resolve, Step.read, hr]
      · exact show (-1 : Int32) < 0 by decide
  | some id =>
      simp only [Verbs.pollCq, Step.bind_apply, Verbs.resolve, Step.read, hr, Verbs.native,
        Verbs.onHost, Provider.soft]
      cases hq : v.host.fabric.cqs.find? id with
      | none =>
          rw [Host.pollCq_of_absent hq]
          exact .inr ⟨_, _, rfl, by decide⟩
      | some q =>
          cases hover : q.overflowed with
          | true =>
              rw [Host.pollCq_of_overflowed hq hover]
              exact .inr ⟨_, _, rfl, by decide⟩
          | false =>
              rw [Host.pollCq_of_kept hq hover]
              exact .inl ⟨_, _, rfl, List.length_take_le n _⟩

/-- What a poll returns and leaves, by how its verb ends on the handle layer of the process. -/
inductive Polls (v : Verbs) (cq : Handle) (array : Bool) (n : Int32) (lib : Library) :
    (Int32 × List Completion) × Library → Prop
  /-- There is no room for completions, and no verb is asked for them. -/
  | refused : badBuffer array n = true → Polls v cq array n lib ((-1, []), lib)
  /-- As many completions were written as the number says, and no more than there is room for. -/
  | polled {completions : List Completion} {number : Int32} {w : Verbs} :
      badBuffer array n = false →
      Verbs.perform (.pollCq cq n.toInt.toNat) v = (.ok completions, w) →
      number.toInt = completions.length → completions.length ≤ n.toInt →
      Polls v cq array n lib ((number, completions), .live w)
  | failed {e : VerbsError} {w : Verbs} {lib' : Library} : badBuffer array n = false →
      Verbs.perform (.pollCq cq n.toInt.toNat) v = (.error e, w) → -e.status < 0 →
      (Library.live w).Untouched lib' → Polls v cq array n lib ((-e.status, []), lib')

theorem room_nonneg {array : Bool} {n : Int32} (hroom : badBuffer array n = false) :
    0 ≤ n.toInt := by
  have hnot : ¬ n < 0 := by
    intro hnegative
    have hzero : n ≠ 0 := fun hzero => by simp [hzero] at hnegative
    simp [badBuffer, hzero, hnegative] at hroom
  rw [Int32.lt_iff_toInt_lt] at hnot
  exact Int.not_lt.1 hnot

/-- Every poll does one of these. -/
theorem pollCq_polls (env : Environment) (cq : Handle) (array : Bool) (n : Int32) (lib : Library) :
    Polls (lib.instanceIn env) cq array n lib (pollCq env cq array n lib) := by
  cases hbad : badBuffer array n with
  | true =>
      have hrefused : pollCq env cq array n lib = ((-1, []), lib) := by
        simp only [pollCq, ← badBuffer.eq_def, if_pos hbad]
        rfl
      rw [hrefused]
      exact .refused hbad
  | false =>
      have hroom := room_nonneg hbad
      simp only [pollCq, ← badBuffer.eq_def, hbad, Bool.false_eq_true, if_false]
      rcases pollCq_cases cq n.toInt.toNat (lib.instanceIn env) with
        ⟨completions, w, hdone, hlength⟩ | ⟨e, w, hfailed, hnegative⟩
      · simp only [run, hdone]
        have hlength' : completions.length ≤ n.toInt := by omega
        have hbound := n.toInt_lt
        refine .polled hbad hdone (Int32.toInt_ofNat_of_lt ?_) hlength'
        omega
      · simp only [run, hfailed]
        exact .failed hbad hfailed hnegative (Library.untouched_note _ _)

/-- A poll returns a negative number exactly if it fails. -/
theorem Polls.negative {cq : Handle} {array : Bool} {n : Int32}
    {result : (Int32 × List Completion) × Library} (hp : Polls v cq array n lib result) :
    result.1.1 < 0 ↔ badBuffer array n = true ∨
      ∃ e, (Verbs.perform (.pollCq cq n.toInt.toNat) v).1 = .error e := by
  cases hp with
  | refused hbad => exact ⟨fun _ => .inl hbad, fun _ => show (-1 : Int32) < 0 by decide⟩
  | polled hbad hdone hnumber =>
      rw [hdone]
      simp [hbad, Int32.lt_iff_toInt_lt, hnumber]
  | failed hbad hfailed hnegative =>
      rw [hfailed]
      simpa [hbad] using hnegative

/-! ## All calls -/

/-- The number of devices is told as it is, unless it is too large to be. -/
theorem deviceCount_instance (env : Environment) (lib : Library) :
    (deviceCount env lib).1.toInt =
        min ((Verbs.deviceCount .soft (lib.instanceIn env)).1 : Int) 0x7fffffff ∧
      (deviceCount env lib).2 = .live (Verbs.deviceCount .soft (lib.instanceIn env)).2 := by
  refine ⟨?_, rfl⟩
  show (Int32.ofInt (min ((Verbs.deviceCount .soft (lib.instanceIn env)).1 : Int) _)).toInt = _
  generalize (Verbs.deviceCount .soft (lib.instanceIn env)).1 = n
  rw [Int32.toInt_ofInt_of_le] <;> omega

/-- After any run of a process that issued fewer handles than can be told apart:

* a call that is not refused on its own arguments has the outcome and the effect of its verb on the
  handle layer of the process, and one that is fails and has none;
* whatever the caller's record held, it reports how the call ended;
* the number that a poll returns is that of the completions it wrote, or negative if it failed;
* the calls that cannot fail tell what their verbs answer. -/
theorem calls_report (memory : Memory) (acts : List (Environment × Act))
    (hissued : (applyAll (begun memory) acts).issued < 2 ^ 56) (env : Environment) :
    let lib := applyAll (begun memory) acts
    let v := lib.instanceIn env
    (∀ {α : Type} (op : Operation α) (record : ResultRecord),
      let reply := op.make env (some record) lib
      (∀ verb, op.asVerb = .ok verb → reply.1.outcome = (Verbs.perform verb v).1 ∧
        (Library.live (Verbs.perform verb v).2).Untouched reply.2) ∧
      (∀ what, op.asVerb = .error what → reply.1.outcome = .error (.invalidArgument what) ∧
        lib.Untouched reply.2) ∧
      ∃ told, reply.1.record = some told ∧ Reports op reply.1.outcome reply.2 told) ∧
      (∀ cq array n,
        let polled := pollCq env cq array n lib
        Polls v cq array n lib polled ∧
          (polled.1.1 < 0 ↔ badBuffer array n = true ∨
            ∃ e, (Verbs.perform (.pollCq cq n.toInt.toNat) v).1 = .error e)) ∧
      ((deviceCount env lib).1.toInt = min ((Verbs.deviceCount .soft v).1 : Int) 0x7fffffff ∧
        (deviceCount env lib).2 = .live (Verbs.deviceCount .soft v).2) ∧
      ∀ ctx buffer,
        (deviceName env ctx buffer lib).1.1 = (Text.utf8Bytes (v.deviceName .soft ctx)).length ∧
          (deviceName env ctx buffer lib).2 = .live v := by
  intro lib v
  have hh : lib.host.Sound := begun_sound memory acts
  have hbegun : (begun memory).host.Sound := Host.bare_sound memory
  have hm : lib.Mirrored := applyAll_mirrored hbegun trivial acts hissued
  refine ⟨fun op record => ⟨fun verb hverb => make_instance hverb env (some record) lib,
    fun what hrefused => make_refused hrefused env (some record) lib,
    make_reports hh hm op env record⟩, fun cq array n => ?polls, deviceCount_instance env lib,
    fun ctx buffer => ⟨rfl, rfl⟩⟩
  case polls =>
    have hpolls := pollCq_polls env cq array n lib
    exact ⟨hpolls, hpolls.negative⟩

/-- A record that held something else tells of a new protection domain. -/
theorem firstOpened_reports :
    let lib := applyAll (begun {}) firstOpened
    let pd : Handle := .compose .protectionDomain 2
    let reply := (Operation.allocPd (.compose .context 1)).make {}
      (some { status := Errno.busy, handle := 99 }) lib
    lib.issued = 1 ∧ reply.1.outcome = .ok pd ∧ ∃ told, reply.1.record = some told ∧
      told.status = 0 ∧ told.handle = pd.raw ∧ told.handle ≠ 0 ∧ reply.2.Resolves pd ∧
      told.toExcept = .ok pd := by
  intro lib pd reply
  obtain ⟨hcalls, -⟩ := calls_report {} firstOpened (by decide +kernel) {}
  obtain ⟨-, -, told, htold, hreports⟩ := hcalls (.allocPd (.compose .context 1))
    { status := Errno.busy, handle := 99 }
  have hdone : reply.1.outcome = .ok pd := by decide +kernel
  obtain ⟨hhandle, htoExcept⟩ := hreports.handle hdone
  obtain ⟨hnull, hresolves⟩ := hreports.resolves hdone rfl
  rw [hhandle] at hresolves
  exact ⟨by decide +kernel, hdone, told, htold, hreports.succeeded.2 ⟨pd, hdone⟩, hhandle, hnull,
    hresolves, htoExcept⟩

end Boundary

end Rdma
