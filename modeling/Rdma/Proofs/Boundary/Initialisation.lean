import Mathlib.Data.List.Count
import Mathlib.Logic.Relation
import Rdma.Proofs.Boundary.Record

/-!
# The library is configured once

A library is idle until an initialisation finds a usable configuration or a call reaches the handle
layer of the process. A call that is refused on its own arguments does not reach it, and an
initialisation that fails leaves the library to the next one (`Begins`). A live library goes on with
its handle layer: each later state comes from the one before by a verb, a note or a change to a
descriptor (`Continues`), and initialisations are refused.

* `apply_begins`, `apply_continues` — the step;
* `isLive_applyAll`, `applyAll_continues` — the run;
* `configured_once` — any run of a process.
-/

namespace Rdma

/-! ## Configurations -/

/-- The configuration that the environment asks for, or why there is none. -/
def Environment.asks (env : Environment) : Except ConfigError Config := (env.config {}).1

/-- The configuration, if there is one and its provider is to be had. -/
def Config.usable? : Except ConfigError Config → Option Config
  | .ok c => if c.provider = .soft then some c else none
  | .error _ => none

/-- The handle layer that a configuration makes of a host. -/
def Config.instanceOn (c : Config) (h : Host) : Verbs :=
  .start .soft c.policy (h.withDevices c.devices)

/-- Reading the environment writes an event down at most. -/
theorem Environment.config_eq (env : Environment) (h : Host) :
    ∃ journal, env.config h = (env.asks, { h with journal }) := by
  unfold Environment.asks Environment.config
  cases env.configFile with
  | none => exact ⟨h.journal, rfl⟩
  | some file => exact ⟨h.journal.add (.loadingConfig file.path), rfl⟩

namespace Library

/-- The usable configuration that an initialisation finds in an environment. -/
def Source.usable? (env : Environment) : Source → Option Config
  | .environment => Config.usable? env.asks
  | .file f => Config.usable? f.load
  | .unreadablePath => none

/-- The configuration of a handle layer that nobody asked for: the environment's if it can be used,
the default one if not. -/
def implicitConfig (env : Environment) : Config := (Config.usable? env.asks).getD {}

variable {config : Except ConfigError Config} {h : Host}

theorem build_usable {c : Config} (hc : Config.usable? config = some c) (h : Host) :
    build config h = .ok (c.instanceOn h) := by
  cases config with
  | error cause => cases hc
  | ok config =>
      obtain ⟨hsoft, hsame⟩ := Option.ite_none_right_eq_some.1 hc
      obtain rfl := Option.some.inj hsame
      simp only [build, Except.bind, Verbs.ofConfig, Config.attach, hsoft]
      rfl

theorem build_unusable (hc : Config.usable? config = none) (h : Host) :
    ∃ cause, build config h = .error cause := by
  cases config with
  | error cause => exact ⟨cause, rfl⟩
  | ok config =>
      cases hprovider : config.provider with
      | soft => simp [Config.usable?, hprovider] at hc
      | ibverbs =>
          refine ⟨.providerUnavailable .ibverbs, ?_⟩
          simp only [build, Except.bind, Verbs.ofConfig, Config.attach, hprovider]
          rfl

theorem initFrom_eq (config : Except ConfigError Config) (h : Host) :
    ∃ journal, initFrom config h = match Config.usable? config with
      | some c => (0, live (c.instanceOn h))
      | none => (initFailedStatus, idle { h with journal }) := by
  unfold initFrom
  cases hc : Config.usable? config with
  | some c =>
      rw [build_usable hc]
      exact ⟨h.journal, rfl⟩
  | none =>
      obtain ⟨cause, hbuild⟩ := build_unusable hc h
      rw [hbuild]
      exact ⟨h.journal.add (.initFailed cause), rfl⟩

/-- What an initialisation of an idle library returns depends only on what it reads. -/
theorem init_idle (env : Environment) (source : Source) (h : Host) :
    ∃ journal, init env source (idle h) = match source.usable? env with
      | some c => (0, live (c.instanceOn { h with journal }))
      | none => (initFailedStatus, idle { h with journal }) := by
  cases source with
  | environment =>
      obtain ⟨journal, hconfig⟩ := env.config_eq h
      obtain ⟨journal', hinit⟩ := initFrom_eq env.asks { h with journal }
      simp only [init, hconfig, hinit, Source.usable?]
      cases Config.usable? env.asks with
      | some c => exact ⟨journal, rfl⟩
      | none => exact ⟨journal', rfl⟩
  | file file =>
      obtain ⟨journal, hinit⟩ := initFrom_eq file.load h
      simp only [init, hinit, Source.usable?]
      cases Config.usable? file.load with
      | some c => exact ⟨h.journal, rfl⟩
      | none => exact ⟨journal, rfl⟩
  | unreadablePath => exact ⟨h.journal, rfl⟩

/-- The first use of an idle library makes the handle layer of the implicit configuration. -/
theorem instanceIn_idle (env : Environment) (h : Host) :
    ∃ journal, instanceIn env (idle h) = (implicitConfig env).instanceOn { h with journal } := by
  obtain ⟨journal, hconfig⟩ := env.config_eq h
  unfold instanceIn implicitConfig
  simp only [hconfig]
  cases hc : Config.usable? env.asks with
  | some c =>
      rw [build_usable hc]
      exact ⟨journal, rfl⟩
  | none =>
      obtain ⟨cause, hbuild⟩ := build_unusable hc { h with journal }
      rw [hbuild]
      exact ⟨journal.add (.fellBack cause), rfl⟩

end Library

namespace Boundary

open Library (Source)

variable {α : Type} {v w : Verbs} {h : Host} {env : Environment} {act : Act}

/-! ## A live library -/

/-- A handle layer goes on: a verb of the software provider, the only one to be had, worked on it, a
failure was written down, or a holder changed a descriptor. -/
inductive Continues (v : Verbs) : Verbs → Prop
  | performed {α : Type} (verb : Verbs.Operation α) : Continues v (Verbs.perform verb v).2
  | failure (cause : VerbsError) : Continues v (v.note (.failure cause))
  | failureUnrecorded (cause : VerbsError) : Continues v (v.note (.failureUnrecorded cause))
  | setDescriptor (channel : NativeId) (descriptor : Descriptor) :
      Continues v { v with host := v.host.setDescriptor channel descriptor }

open Relation (ReflTransGen)

theorem Continues.effect (hc : Continues v w) (hh : v.host.Sound) : v.Effect w := by
  cases hc with
  | performed verb => exact Verbs.perform_effect hh verb
  | failure | failureUnrecorded => exact .works (v.note_works trivial)
  | setDescriptor channel descriptor =>
      exact .works ⟨rfl, rfl, rfl, Host.setDescriptor_works v.host channel descriptor⟩

/-- A handle layer that goes on keeps its policy, and its host stays sound. -/
theorem continues_policy (hc : ReflTransGen Continues v w) (hh : v.host.Sound) :
    w.policy = v.policy ∧ w.host.Sound := by
  induction hc with
  | refl => exact ⟨rfl, hh⟩
  | tail _ hstep ih =>
      have he := hstep.effect ih.2
      exact ⟨he.policy.trans ih.1, he.sound ih.2⟩

theorem report_continues (record : Option ResultRecord) (outcome : Except VerbsError Handle)
    (v : Verbs) :
    ∃ w, (report record outcome (.live v)).2 = .live w ∧ ReflTransGen Continues v w := by
  unfold report
  split
  · exact ⟨v, rfl, .refl⟩
  · exact ⟨_, rfl, .single (.failureUnrecorded _)⟩
  · exact ⟨v, rfl, .refl⟩
  · exact ⟨_, rfl, .single (.failure _)⟩

/-- Whatever happens to a live library, it goes on with the same handle layer. -/
theorem apply_continues (env : Environment) (act : Act) (v : Verbs) :
    ∃ w, act.apply env (.live v) = .live w ∧ ReflTransGen Continues v w := by
  cases act with
  | init => exact ⟨v, rfl, .refl⟩
  | deviceCount => exact ⟨_, rfl, .single (.performed .deviceCount)⟩
  | deviceName => exact ⟨v, rfl, .refl⟩
  | setMemory memory => exact ⟨_, rfl, .single (.performed (.setMemory memory))⟩
  | setDescriptorsLeft left => exact ⟨_, rfl, .single (.performed (.setDescriptorsLeft left))⟩
  | setDescriptor channel descriptor => exact ⟨_, rfl, .single (.setDescriptor channel descriptor)⟩
  | pollCq cq array n =>
      have hpolled : Continues v (Verbs.pollCq .soft cq n.toInt.toNat v).2 :=
        .performed (.pollCq cq n.toInt.toNat)
      simp only [Act.apply, pollCq, run, Library.instanceIn]
      split
      · exact ⟨v, rfl, .refl⟩
      · cases hresult : Verbs.pollCq .soft cq n.toInt.toNat v with
        | mk outcome w =>
            rw [hresult] at hpolled
            cases outcome with
            | ok completions => exact ⟨w, rfl, .single hpolled⟩
            | error e => exact ⟨_, rfl, .head hpolled (.single (.failure e))⟩
  | call op record =>
      simp only [Act.apply, Operation.make, Boundary.make, call_eq]
      cases op.asVerb with
      | error what => exact report_continues record _ v
      | ok verb =>
          obtain ⟨w, hreport, hnoted⟩ := report_continues record
            ((Verbs.perform verb v).1.map op.handleOf) (Verbs.perform verb v).2
          exact ⟨w, hreport, .head (.performed verb) hnoted⟩

/-- What an initialisation in a run returns. -/
def Act.initStatus? (env : Environment) (lib : Library) : Act → Option Int32
  | .init source => some (lib.init env source).1
  | _ => none

/-- What the initialisations of a run return, in order. -/
def initStatuses : Library → List (Environment × Act) → List Int32
  | _, [] => []
  | lib, (env, act) :: rest =>
      (act.initStatus? env lib).toList ++ initStatuses (act.apply env lib) rest

/-- A live library goes on with its handle layer through any run, and refuses to be initialised. -/
theorem applyAll_continues (v : Verbs) (acts : List (Environment × Act)) :
    (∃ w, applyAll (.live v) acts = .live w ∧ ReflTransGen Continues v w) ∧
      ∀ status ∈ initStatuses (.live v) acts, status = Errno.alreadyInitialised := by
  induction acts generalizing v with
  | nil => exact ⟨⟨v, rfl, .refl⟩, nofun⟩
  | cons first rest ih =>
      obtain ⟨env, act⟩ := first
      obtain ⟨u, hstep, hcontinues⟩ := apply_continues env act v
      obtain ⟨⟨w, hrest, hcontinues'⟩, hstatuses⟩ := ih u
      refine ⟨⟨w, ?_, hcontinues.trans hcontinues'⟩, fun status hstatus => ?_⟩
      · rw [← hrest, ← hstep]
        rfl
      · rw [initStatuses, hstep] at hstatus
        rcases List.mem_append.1 hstatus with hfirst | hlater
        · cases act <;> simp_all [Act.initStatus?, Library.init]
        · exact hstatuses status hlater

/-! ## An idle library -/

/-- Room for completions of a negative size, or of some size at no address. -/
def badBuffer (array : Bool) (n : Int32) : Bool := n ≠ 0 && (n < 0 || !array)

/-- The call is refused on its own arguments. -/
def Act.rejected : Act → Bool
  | .call op _ => !op.asVerb.isOk
  | .pollCq _ array n => badBuffer array n
  | _ => false

/-- The call reaches the handle layer of the process. -/
def Act.reaches : Act → Bool
  | .call op _ => op.asVerb.isOk
  | .pollCq _ array n => !badBuffer array n
  | .deviceCount | .deviceName .. => true
  | _ => false

/-- What an act makes of an idle library, and what it returns if it is an initialisation. -/
inductive Begins (env : Environment) (h : Host) : Act → Option Int32 → Library → Prop
  /-- An initialisation found a configuration that can be used. -/
  | initialised {source : Source} {c : Config} (journal : Journal) : source.usable? env = some c →
      Begins env h (.init source) (some 0) (.live (c.instanceOn { h with journal }))
  | initFailed {source : Source} (journal : Journal) : source.usable? env = none →
      Begins env h (.init source) (some Library.initFailedStatus) (.idle { h with journal })
  | rejected {act : Act} (journal : Journal) : act.rejected = true →
      Begins env h act none (.idle { h with journal })
  /-- A call reached the handle layer of the implicit configuration, and works on that. -/
  | reached {act : Act} {w : Verbs} (journal : Journal) : act.reaches = true →
      act.apply env (.live ((Library.implicitConfig env).instanceOn { h with journal })) = .live w →
      ReflTransGen Continues ((Library.implicitConfig env).instanceOn { h with journal }) w →
      Begins env h act none (.live w)
  | setMemory (memory : Memory) : Begins env h (.setMemory memory) none (.idle { h with memory })
  | setDescriptorsLeft (left : Bool) :
      Begins env h (.setDescriptorsLeft left) none (.idle { h with descriptorsLeft := left })
  | setDescriptor (channel : NativeId) (descriptor : Descriptor) :
      Begins env h (.setDescriptor channel descriptor) none
        (.idle (h.setDescriptor channel descriptor))

/-- A call that reaches the handle layer does to any library what it does to a live one. -/
theorem apply_reached (hr : act.reaches = true) (env : Environment) (lib : Library) :
    act.apply env lib = act.apply env (.live (lib.instanceIn env)) := by
  cases act with
  | deviceCount | deviceName => rfl
  | pollCq cq array n =>
      have hgood : ¬ badBuffer array n = true := by simpa [Act.reaches] using hr
      simp only [Act.apply, pollCq, ← badBuffer.eq_def, if_neg hgood]
      rfl
  | call op record =>
      simp only [Act.apply, Operation.make, Boundary.make, call_eq]
      cases hverb : op.asVerb with
      | ok verb => rfl
      | error what => simp [Act.reaches, hverb, Except.isOk, Except.toBool] at hr
  | init | setMemory | setDescriptorsLeft | setDescriptor => cases hr

theorem apply_rejected (hr : act.rejected = true) (env : Environment) (lib : Library) :
    lib.Untouched (act.apply env lib) := by
  cases act with
  | pollCq cq array n =>
      simp only [Act.rejected, badBuffer] at hr
      simp only [Act.apply, pollCq, if_pos hr]
      exact .refl lib
  | call op record =>
      cases hverb : op.asVerb with
      | error what => exact (make_refused hverb env record lib).2
      | ok verb => simp [Act.rejected, hverb, Except.isOk, Except.toBool] at hr
  | init | deviceCount | deviceName | setMemory | setDescriptorsLeft | setDescriptor => cases hr

theorem begins_of_rejected (hr : act.rejected = true) (env : Environment) (h : Host) :
    Begins env h act none (act.apply env (.idle h)) := by
  obtain ⟨journal, hafter⟩ := apply_rejected hr env (.idle h)
  rw [hafter]
  exact .rejected journal hr

theorem begins_of_reached (hr : act.reaches = true) (env : Environment) (h : Host) :
    Begins env h act none (act.apply env (.idle h)) := by
  obtain ⟨journal, hinstance⟩ := Library.instanceIn_idle env h
  obtain ⟨w, hafter, hcontinues⟩ :=
    apply_continues env act ((Library.implicitConfig env).instanceOn { h with journal })
  rw [apply_reached hr, hinstance, hafter]
  exact .reached journal hr hafter hcontinues

/-- Every act on an idle library does one of these. -/
theorem apply_begins (env : Environment) (act : Act) (h : Host) :
    Begins env h act (act.initStatus? env (.idle h)) (act.apply env (.idle h)) := by
  cases act with
  | init source =>
      obtain ⟨journal, hinit⟩ := Library.init_idle env source h
      rw [Act.apply, Act.initStatus?, hinit]
      cases hc : source.usable? env with
      | some c => exact .initialised journal hc
      | none => exact .initFailed journal hc
  | setMemory memory => exact .setMemory memory
  | setDescriptorsLeft left => exact .setDescriptorsLeft left
  | setDescriptor channel descriptor => exact .setDescriptor channel descriptor
  | deviceCount | deviceName => exact begins_of_reached rfl env h
  | pollCq cq array n =>
      cases hbad : badBuffer array n with
      | true =>
          have hrejected : (Act.pollCq cq array n).rejected = true := hbad
          exact begins_of_rejected hrejected env h
      | false =>
          have hreached : (Act.pollCq cq array n).reaches = true := by simp [Act.reaches, hbad]
          exact begins_of_reached hreached env h
  | call op record =>
      cases hok : op.asVerb.isOk with
      | true =>
          have hreached : (Act.call op record).reaches = true := hok
          exact begins_of_reached hreached env h
      | false =>
          have hrejected : (Act.call op record).rejected = true := by simp [Act.rejected, hok]
          exact begins_of_rejected hrejected env h

/-! ## Runs -/

variable {status : Option Int32} {lib : Library}

/-- An idle library that an act leaves idle was not reached, and an initialisation failed. -/
theorem Begins.idle (hb : Begins env h act status lib) (hidle : lib.isLive = false) :
    act.reaches = false ∧ ∀ s ∈ status, s = Library.initFailedStatus := by
  cases hb with
  | initFailed => exact ⟨rfl, fun s hs => (Option.some.inj hs).symm⟩
  | rejected journal hr =>
      refine ⟨?_, nofun⟩
      cases act <;> simp_all [Act.reaches, Act.rejected]
  | setMemory | setDescriptorsLeft | setDescriptor => exact ⟨rfl, nofun⟩
  | initialised | reached => cases hidle

/-- An idle library that an act makes live was reached, or it was initialised with success. -/
theorem Begins.live (hb : Begins env h act status lib) (hlive : lib.isLive = true) :
    act.reaches = true ∧ status = none ∨ act.reaches = false ∧ status = some 0 := by
  cases hb with
  | initialised => exact .inr ⟨rfl, rfl⟩
  | reached journal hr => exact .inl ⟨hr, rfl⟩
  | initFailed | rejected | setMemory | setDescriptorsLeft | setDescriptor => cases hlive

/-- A library is live once an initialisation has succeeded or a call has reached it, and not
before. -/
theorem isLive_applyAll (h : Host) (acts : List (Environment × Act)) :
    (applyAll (.idle h) acts).isLive = true ↔
      0 ∈ initStatuses (.idle h) acts ∨ ∃ a ∈ acts, a.2.reaches = true := by
  induction acts generalizing h with
  | nil => simp [applyAll, initStatuses, Library.isLive]
  | cons first rest ih =>
      obtain ⟨env, act⟩ := first
      have hb := apply_begins env act h
      show (applyAll (act.apply env (.idle h)) rest).isLive = true ↔ _
      simp only [initStatuses, List.mem_append, Option.mem_toList, List.mem_cons]
      cases hafter : act.apply env (.idle h) with
      | idle h' =>
          rw [hafter] at hb
          obtain ⟨hunreached, hstatus⟩ := hb.idle rfl
          have hnot : act.initStatus? env (.idle h) ≠ some 0 := fun hsome =>
            absurd (hstatus 0 hsome) (by decide)
          rw [ih h']
          simp [hnot, hunreached]
      | live v =>
          rw [hafter] at hb
          obtain ⟨⟨w, hlive, -⟩, -⟩ := applyAll_continues v rest
          rw [hlive]
          rcases hb.live rfl with ⟨hreached, -⟩ | ⟨-, hstatus⟩
          · simp [Library.isLive, hreached]
          · simp [Library.isLive, hstatus]

/-- No more than one initialisation succeeds. -/
theorem count_initStatuses (h : Host) (acts : List (Environment × Act)) :
    (initStatuses (.idle h) acts).count 0 ≤ 1 := by
  induction acts generalizing h with
  | nil => exact Nat.zero_le 1
  | cons first rest ih =>
      obtain ⟨env, act⟩ := first
      have hb := apply_begins env act h
      rw [initStatuses, List.count_append]
      cases hafter : act.apply env (.idle h) with
      | idle h' =>
          rw [hafter] at hb
          have hnone : (act.initStatus? env (.idle h)).toList.count 0 = 0 := by
            refine List.count_eq_zero.2 fun hmem => ?_
            exact absurd ((hb.idle rfl).2 0 (Option.mem_toList.1 hmem)) (by decide)
          have hrest := ih h'
          omega
      | live v =>
          have hrest : (initStatuses (.live v) rest).count 0 = 0 := by
            refine List.count_eq_zero.2 fun hmem => ?_
            exact absurd ((applyAll_continues v rest).2 0 hmem) (by decide)
          have hone : (act.initStatus? env (.idle h)).toList.count 0 ≤ 1 := by
            cases act.initStatus? env (.idle h) with
            | none => exact Nat.zero_le 1
            | some s => exact List.count_le_length
          omega

/-- In any run of a process, with any environment and files at each call:

* no more than one initialisation returns 0;
* the library is live if one did or a call has reached it, and not otherwise;
* a live library goes on with the same handle layer and the same policy whatever happens next, and
  refuses each further initialisation;
* an initialisation that finds no usable configuration leaves the library as it was, idle, and a
  later one that finds one succeeds;
* what an act makes of an idle library is what `Begins` says. -/
theorem configured_once (memory : Memory) (acts : List (Environment × Act)) :
    let lib := applyAll (begun memory) acts
    let statuses := initStatuses (begun memory) acts
    statuses.count 0 ≤ 1 ∧
      (lib.isLive = true ↔ 0 ∈ statuses ∨ ∃ a ∈ acts, a.2.reaches = true) ∧
      (∀ v, lib = .live v → ∀ later,
        (∃ w, applyAll lib later = .live w ∧ ReflTransGen Continues v w ∧ w.policy = v.policy) ∧
          ∀ status ∈ initStatuses lib later, status = Errno.alreadyInitialised) ∧
      (∀ env source, (lib.init env source).1 = Library.initFailedStatus →
        lib.isLive = false ∧ lib.Untouched (lib.init env source).2 ∧
          ∀ env' source', (source'.usable? env').isSome = true →
            ((lib.init env source).2.init env' source').1 = 0) ∧
      (∀ h, lib = .idle h → ∀ env act,
        Begins env h act (act.initStatus? env lib) (act.apply env lib)) := by
  intro lib statuses
  refine ⟨count_initStatuses _ acts, isLive_applyAll _ acts, fun v hlive later => ?live,
    fun env source hfailed => ?failed, fun h hidle env act => ?idle⟩
  case live =>
    have hh : v.host.Sound := by
      have hsound := begun_sound memory acts
      rwa [show applyAll (begun memory) acts = .live v from hlive] at hsound
    rw [hlive]
    obtain ⟨⟨w, hafter, hcontinues⟩, hrefused⟩ := applyAll_continues v later
    exact ⟨⟨w, hafter, hcontinues, (continues_policy hcontinues hh).1⟩, hrefused⟩
  case failed =>
    cases hlib : lib with
    | live v =>
        rw [hlib] at hfailed
        have hsame : Errno.alreadyInitialised = Library.initFailedStatus := hfailed
        exact absurd hsame (by decide)
    | idle h =>
        obtain ⟨journal, hinit⟩ := Library.init_idle env source h
        rw [hlib, hinit] at hfailed
        cases hc : source.usable? env with
        | some c =>
            rw [hc] at hfailed
            have hsame : (0 : Int32) = Library.initFailedStatus := hfailed
            exact absurd hsame (by decide)
        | none =>
            simp only [hinit, hc]
            refine ⟨rfl, ⟨journal, rfl⟩, fun env' source' hsome => ?_⟩
            obtain ⟨c, hc'⟩ := Option.isSome_iff_exists.1 hsome
            obtain ⟨journal', hlater⟩ := Library.init_idle env' source' { h with journal }
            rw [hlater, hc']
  case idle =>
    rw [hidle]
    exact apply_begins env act h

/-- A call with a bad argument, an initialisation that asks for a provider that is not to be had,
and one that asks for nothing. -/
def secondTry : List (Environment × Act) :=
  [({}, .call (.openDevice (-1)) (some {})),
    ({ provider := some "ibverbs" }, .init .environment), ({}, .init .environment)]

/-- The second try succeeds. What follows works on its handle layer and cannot set up another. -/
theorem secondTry_configured :
    let lib := applyAll (begun {}) secondTry
    initStatuses (begun {}) secondTry = [1, 0] ∧ (initStatuses (begun {}) secondTry).count 0 ≤ 1 ∧
      ∃ v w, lib = .live v ∧ applyAll lib firstOpened = .live w ∧
        ReflTransGen Continues v w ∧ w.policy = v.policy ∧
        (lib.init {} .unreadablePath).1 = Errno.alreadyInitialised := by
  intro lib
  obtain ⟨hcount, -, hsame, -, -⟩ := configured_once {} secondTry
  obtain ⟨v, hv⟩ : ∃ v, lib = .live v := ⟨_, rfl⟩
  obtain ⟨⟨w, hw, hcontinues, hpolicy⟩, -⟩ := hsame v hv firstOpened
  obtain ⟨-, hrefused⟩ := hsame v hv [({}, .init .unreadablePath)]
  refine ⟨by decide +kernel, hcount, v, w, hv, hw, hcontinues, hpolicy, hrefused _ ?_⟩
  exact List.mem_append_left _ (List.mem_singleton_self _)

end Boundary

end Rdma
