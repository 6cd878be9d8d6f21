import Rdma.Proofs.Host.Preparation
import Rdma.Proofs.Host.Run

/-!
# States of queue pairs

Verbs move queue pairs from state to state, and the engine fails them in the middle of what others
do. Whatever the order, the state of a queue pair tells what it can hold, and which modifications led
to it.

* `Reachable.every_qp` — what new queue pairs have, verbs keep and the engine keeps, all have;
* `reachable_states` — what each state goes with, and the only way to become ready to send.
-/

namespace Rdma

open Fabric (QueuePair PendingSend)

/-- What the state of a queue pair tells of it. -/
structure Fabric.QueuePair.Proper (q : QueuePair) : Prop where
  notSqe : q.state ≠ .sqe
  connected : q.state = .rtr ∨ q.state = .rts ∨ q.state = .sqd → q.destination.isSome = true
  sends : q.sendQueue ≠ [] → q.state = .rts ∨ q.state = .sqd
  recvs : q.recvQueue ≠ [] →
    (q.state = .init ∨ q.state = .rtr ∨ q.state = .rts ∨ q.state = .sqd) ∧ q.srq = none
  failed : q.state = .error → q.sendQueue = [] ∧ q.recvQueue = []
  reset : q.state = .reset → q.sendQueue = [] ∧ q.recvQueue = [] ∧ q.destination = none ∧
    q.access = .none

/-- A queue pair just created. -/
def NativeQpInit.fresh (init : NativeQpInit) (pd : NativeId) (number : UInt32) : QueuePair :=
  { pd, number, transport := init.transport, sendCq := init.sendCq, recvCq := init.recvCq,
    srq := init.srq, signalAll := init.signalAll, caps := init.caps }

namespace Host

variable {h k : Host} {devices : List DeviceConfig} {id : NativeId} {q q' : QueuePair}

/-! ## One induction for all queue pairs -/

/-- What every new queue pair has, and verbs and the engine keep, every queue pair has. -/
theorem Reachable.every_qp {P : QueuePair → Prop} (hnew : ∀ q, q.cleared = q → P q)
    (hrevises : ∀ (h : Host) op id q q', h.Revises op id q q' → P q → P q')
    (hspent : ∀ q q', q.Spent q' → P q → P q') (hr : Reachable devices h)
    (hq : h.fabric.qps.find? id = some q) : P q := by
  induction hr generalizing id q with
  | fresh memory =>
      obtain ⟨attached, nextId, hwork⟩ := fresh_work memory devices
      have hnone : (({ memory } : Host).withDevices devices).fabric.qps = {} :=
        congrArg (·.qps) hwork
      rw [hnone] at hq
      cases hq
  | perform op hr ih =>
      obtain ⟨g, hprepares⟩ := perform_prepares hr.sound.fabric op
      obtain ⟨q₁, hq₁, hwane⟩ := hprepares.steps.wanes.earlier hq
      refine hspent _ _ hwane ?_
      rcases hprepares.origin hq₁ with ⟨q₀, hq₀, hrevised⟩ | ⟨-, hfresh⟩
      · exact hrevises _ _ _ _ _ hrevised (ih hq₀)
      · exact hnew _ hfresh
  | note e _ _ ih => exact ih hq

/-! ## The table of states -/

theorem proper_of_cleared (hnew : q.cleared = q) : q.Proper := by
  rw [← hnew]
  exact ⟨nofun, by simp [QueuePair.cleared], nofun, nofun, nofun, fun _ => ⟨rfl, rfl, rfl, rfl⟩⟩

theorem failed_proper (q : QueuePair) : q.failed.Proper :=
  ⟨nofun, by simp [QueuePair.failed], nofun, nofun, fun _ => ⟨rfl, rfl⟩, nofun⟩

theorem proper_of_spent (hspent : q.Spent q') (hq : q.Proper) : q'.Proper := by
  cases hspent with
  | failed => exact failed_proper q
  | fewer hsends hrecvs =>
      -- nothing is left of what was empty
      have hnone {α : Type} {l l' : List α} (hl : l' <:+ l) (hne : l' ≠ []) : l ≠ [] := by
        rintro rfl
        exact hne (List.suffix_nil.1 hl)
      refine ⟨hq.notSqe, hq.connected, fun hne => hq.sends (hnone hsends hne),
        fun hne => hq.recvs (hnone hrecvs hne), fun herror => ?_, fun hreset => ?_⟩
      · obtain ⟨hs, hr⟩ := hq.failed herror
        exact ⟨List.suffix_nil.1 (hs ▸ hsends), List.suffix_nil.1 (hr ▸ hrecvs)⟩
      · obtain ⟨hs, hr, hrest⟩ := hq.reset hreset
        exact ⟨List.suffix_nil.1 (hs ▸ hsends), List.suffix_nil.1 (hr ▸ hrecvs), hrest⟩

/-- The ways between states that are legal, but for those that lead to reset or to error. -/
theorem legalTransition_cases {mask : QpMask} {source target : QpState}
    (hlegal : Fabric.legalTransition mask source target = true) (hreset : target ≠ .reset)
    (herror : target ≠ .error) :
    source = .reset ∧ target = .init ∧ mask.contains .port = true ∨
    source = .init ∧ target = .init ∨
    source = .init ∧ target = .rtr ∧ mask.contains .destination = true ∨
    source = .rtr ∧ target = .rts ∨
    (source = .rts ∨ source = .sqd) ∧ (target = .rts ∨ target = .sqd) ∨
    source = .sqe ∧ target = .rts := by
  cases source <;> cases target <;> simp_all [Fabric.legalTransition]

/-- A modification keeps what is queued, and a destination once there is one. -/
theorem modified_proper {attributes : QpAttributes} {mask : QpMask} {target : QpState}
    (hq : q.Proper)
    (htarget : target = .init ∨ target = .rtr ∨ target = .rts ∨ target = .sqd)
    (hconnected : target ≠ .init → q.destination.isSome = true ∨ mask.contains .destination = true)
    (hsends : q.sendQueue ≠ [] → target = .rts ∨ target = .sqd) :
    (q.modified attributes mask target).Proper where
  notSqe := by
    rcases htarget with rfl | rfl | rfl | rfl <;> exact nofun
  connected hstate := by
    have hinit : target ≠ .init := by
      rintro rfl
      rcases hstate with hs | hs | hs <;> cases hs
    by_cases hmask : mask.contains .destination = true
    · simp [QueuePair.modified, hmask]
    · simpa [QueuePair.modified, hmask] using (hconnected hinit).resolve_right hmask
  sends := hsends
  recvs hne := ⟨htarget, (hq.recvs hne).2⟩
  failed hs := by
    rcases htarget with rfl | rfl | rfl | rfl <;> cases hs
  reset hs := by
    rcases htarget with rfl | rfl | rfl | rfl <;> cases hs

/-- A legal transition keeps a queue pair proper. -/
theorem proper_of_entered {attributes : QpAttributes} {mask : QpMask} {target : QpState}
    (hallows : h.Allows q attributes mask target) (hq : q.Proper) :
    (q.entered attributes mask target).Proper := by
  by_cases hreset : target = .reset
  · subst hreset
    exact proper_of_cleared rfl
  by_cases herror : target = .error
  · subst herror
    by_cases hs : q.state = .error
    · simp only [QueuePair.entered, hs, if_true]
      exact ⟨QpState.noConfusion, by simp [QueuePair.modified],
        fun hne => absurd (hq.failed hs).1 hne, fun hne => absurd (hq.failed hs).2 hne,
        fun _ => hq.failed hs, QpState.noConfusion⟩
    · simp only [QueuePair.entered, hs, if_false]
      exact failed_proper _
  have hmodified : q.entered attributes mask target = q.modified attributes mask target := by
    cases target <;> first | rfl | exact absurd rfl hreset | exact absurd rfl herror
  rw [hmodified]
  -- only a queue pair that is ready to send, or draining, has something to send
  have hidle {state : QpState} (hs : q.state = state) (hrts : state ≠ .rts) (hsqd : state ≠ .sqd)
      (hne : q.sendQueue ≠ []) : target = .rts ∨ target = .sqd := by
    rcases hq.sends hne with h' | h'
    · exact absurd (hs.symm.trans h') hrts
    · exact absurd (hs.symm.trans h') hsqd
  rcases legalTransition_cases hallows.legal hreset herror with
    ⟨hs, rfl, -⟩ | ⟨hs, rfl⟩ | ⟨hs, rfl, hmask⟩ | ⟨hs, rfl⟩ | ⟨hs, ht⟩ | ⟨hs, -⟩
  · exact modified_proper hq (.inl rfl) (absurd rfl) (hidle hs (by decide) (by decide))
  · exact modified_proper hq (.inl rfl) (absurd rfl) (hidle hs (by decide) (by decide))
  · exact modified_proper hq (.inr (.inl rfl)) (fun _ => .inr hmask) (hidle hs (by decide) (by decide))
  · exact modified_proper hq (.inr (.inr (.inl rfl))) (fun _ => .inl (hq.connected (.inl hs)))
      fun _ => .inl rfl
  · exact modified_proper hq (.inr (.inr ht)) (fun _ => .inl (hq.connected (.inr hs))) fun _ => ht
  · exact absurd hs hq.notSqe

theorem proper_of_revised {op : Operation} (hrevises : h.Revises op id q q') (hq : q.Proper) :
    q'.Proper := by
  cases hrevises with
  | same => exact hq
  | modified _ hallows => exact proper_of_entered hallows hq
  | sends hstate =>
      have hready {state : QpState} (hrts : state ≠ .rts) (hsqd : state ≠ .sqd) :
          q.state ≠ state := by
        rcases hstate with hs | hs <;> rw [hs]
        · exact hrts.symm
        · exact hsqd.symm
      exact ⟨hq.notSqe, hq.connected, fun _ => hstate, hq.recvs,
        fun hs => absurd hs (hready nofun nofun), fun hs => absurd hs (hready nofun nofun)⟩
  | recvs hreset herror hown =>
      refine ⟨hq.notSqe, hq.connected, hq.sends, fun _ => ⟨?_, hown⟩, fun hs => absurd hs herror,
        fun hs => absurd hs hreset⟩
      have hsqe := hq.notSqe
      cases hs : q.state <;> simp_all
  | flushed => exact failed_proper q

theorem Reachable.proper (hr : Reachable devices h) (hq : h.fabric.qps.find? id = some q) :
    q.Proper :=
  hr.every_qp (fun _ => proper_of_cleared) (fun _ _ _ _ _ => proper_of_revised)
    (fun _ _ => proper_of_spent) hq

/-- A queue pair in the reset state is as it was created. -/
theorem cleared_of_reset (hq : q.Proper) (hreset : q.state = .reset) : q.cleared = q := by
  obtain ⟨hsends, hrecvs, hdestination, haccess⟩ := hq.reset hreset
  cases q
  simp only at hreset hsends hrecvs hdestination haccess
  subst hreset hsends hrecvs hdestination haccess
  rfl

/-! ## Ways to a state -/

/-- A modification moves a queue pair on. -/
inductive Advances (h : Host) (q : QueuePair) (attributes : QpAttributes) (mask : QpMask) :
    QpState → QpState → Prop
  | init {c : Fabric.Context} : mask.contains .port = true →
      h.fabric.contextOfPd q.pd = .ok c → c.config.hasPort attributes.port = true →
      Advances h q attributes mask .reset .init
  | rtr : mask.contains .destination = true → Advances h q attributes mask .init .rtr
  | rts : Advances h q attributes mask .rtr .rts
  | drain : Advances h q attributes mask .rts .sqd
  | back : Advances h q attributes mask .sqd .rts

/-- A queue pair came from the reset state to the state that it is in, one advance after the other. -/
inductive Arrives (devices : List DeviceConfig) (id : NativeId) : QpState → Host → Prop
  | start {h : Host} {q : QueuePair} : Reachable devices h → h.fabric.qps.find? id = some q →
      q.state = .reset → Arrives devices id .reset h
  | stay {h : Host} {state : QpState} {q : QueuePair} (op : Operation) :
      Arrives devices id state h → (h.perform op).fabric.qps.find? id = some q → q.state = state →
      Arrives devices id state (h.perform op)
  | note {h : Host} {state : QpState} {e : Event} : e.ofHandleLayer → Arrives devices id state h →
      Arrives devices id state (h.note e)
  | advance {h : Host} {state state' : QpState} {q q' : QueuePair} {attributes : QpAttributes}
      {mask : QpMask} :
      Arrives devices id state h → h.fabric.qps.find? id = some q →
      h.Advances q attributes mask state state' →
      (h.perform (.modifyQp id attributes mask)).fabric.qps.find? id = some q' →
      q'.state = state' → Arrives devices id state' (h.perform (.modifyQp id attributes mask))

/-- Where the mask selects a port, a modification that passes its checks gives a valid one. -/
theorem hasPort_of_checkAttributes {d : DeviceConfig} {attributes : QpAttributes} {mask : QpMask}
    (hcheck : Fabric.checkAttributes d attributes mask = .ok ())
    (hport : mask.contains .port = true) : d.hasPort attributes.port = true := by
  unfold Fabric.checkAttributes at hcheck
  obtain ⟨hvalid, -⟩ := refuse_eq_ok.1 hcheck
  simpa [hport] using hvalid

/-- A legal modification that neither resets nor fails a queue pair leaves its state or takes it on
by one. -/
theorem Allows.advances {attributes : QpAttributes} {mask : QpMask} {target : QpState}
    (hallows : h.Allows q attributes mask target) (hq : q.Proper) (hreset : target ≠ .reset)
    (herror : target ≠ .error) :
    q.state = target ∨ h.Advances q attributes mask q.state target := by
  rcases legalTransition_cases hallows.legal hreset herror with
    ⟨hs, rfl, hport⟩ | ⟨hs, rfl⟩ | ⟨hs, rfl, hmask⟩ | ⟨hs, rfl⟩ | ⟨hs, ht⟩ | ⟨hs, -⟩
  · obtain ⟨c, hc, hcheck⟩ := hallows.valid
    rw [hs]
    exact .inr (.init hport hc (hasPort_of_checkAttributes hcheck hport))
  · exact .inl hs
  · rw [hs]
    exact .inr (.rtr hmask)
  · rw [hs]
    exact .inr .rts
  · rcases hs with hs | hs <;> rcases ht with rfl | rfl <;> rw [hs]
    · exact .inl rfl
    · exact .inr .drain
    · exact .inr .back
    · exact .inl rfl
  · exact absurd hs hq.notSqe

/-- What one operation does to the state of a queue pair. -/
theorem perform_state (hr : Reachable devices h) {op : Operation}
    (hq : h.fabric.qps.find? id = some q)
    (hq' : (h.perform op).fabric.qps.find? id = some q') :
    q'.state = q.state ∨ q'.state = .error ∨ q'.state = .reset ∨
      ∃ attributes mask, op = .modifyQp id attributes mask ∧
        h.Advances q attributes mask q.state q'.state := by
  obtain ⟨g, hprepares⟩ := perform_prepares hr.sound.fabric op
  obtain ⟨q₁, hq₁, hspent⟩ := hprepares.steps.wanes.earlier hq'
  -- the engine only fails queue pairs
  have hengine : q'.state = q₁.state ∨ q'.state = .error := by
    cases hspent with
    | fewer => exact .inl rfl
    | failed => exact .inr rfl
  rcases hengine with hsame | herror
  case inr => exact .inr (.inl herror)
  rcases hprepares.origin hq₁ with ⟨q₀, hq₀, hrevises⟩ | ⟨hnone, -⟩
  case inr => rw [hq] at hnone; cases hnone
  obtain rfl := Option.some.inj (hq.symm.trans hq₀)
  rw [hsame]
  cases hrevises with
  | same | sends | recvs => exact .inl rfl
  | flushed => exact .inr (.inl rfl)
  | @modified attributes mask target hop hallows =>
      by_cases hreset : target = .reset
      · subst hreset
        exact .inr (.inr (.inl rfl))
      by_cases herror : target = .error
      · subst herror
        simp only [QueuePair.entered]
        split <;> exact .inr (.inl rfl)
      have hmodified : q.entered attributes mask target = q.modified attributes mask target := by
        cases target <;> first | rfl | exact absurd rfl hreset | exact absurd rfl herror
      rw [hmodified]
      rcases hallows.advances (hr.proper hq) hreset herror with hstay | hadvances
      · exact .inl hstay.symm
      · exact .inr (.inr (.inr ⟨attributes, mask, hop, hadvances⟩))

/-- A queue pair is in the error state, or it came to the state that it is in one advance after the
other. -/
theorem Reachable.arrives (hr : Reachable devices h) (hq : h.fabric.qps.find? id = some q)
    (herror : q.state ≠ .error) : Arrives devices id q.state h := by
  induction hr generalizing q with
  | fresh memory =>
      obtain ⟨attached, nextId, hwork⟩ := fresh_work memory devices
      have hnone : (({ memory } : Host).withDevices devices).fabric.qps = {} :=
        congrArg (·.qps) hwork
      rw [hnone] at hq
      cases hq
  | note e he hr ih => exact .note he (ih hq herror)
  | @perform h op hr ih =>
      by_cases hreset : q.state = .reset
      · rw [hreset]
        exact .start (.perform op hr) hq hreset
      cases hq₀ : h.fabric.qps.find? id with
      | none =>
          -- a new queue pair is in the reset state
          obtain ⟨g, hprepares⟩ := perform_prepares hr.sound.fabric op
          obtain ⟨q₁, hq₁, hspent⟩ := hprepares.steps.wanes.earlier hq
          rcases hprepares.origin hq₁ with ⟨_, hfound, -⟩ | ⟨-, hnew⟩
          · rw [hq₀] at hfound
            cases hfound
          · have hstate : q₁.state = .reset := by
              rw [← hnew]
              rfl
            cases hspent with
            | fewer => exact absurd hstate hreset
            | failed => exact absurd rfl herror
      | some q₀ =>
          rcases perform_state hr hq₀ hq with hs | hs | hs | ⟨attributes, mask, rfl, hadvances⟩
          · exact .stay op (hs ▸ ih hq₀ (hs ▸ herror)) hq rfl
          · exact absurd hs herror
          · exact absurd hs hreset
          · have hbefore : q₀.state ≠ .error := by
              intro hs
              rw [hs] at hadvances
              cases hadvances
            exact .advance (ih hq₀ hbefore) hq₀ hadvances hq rfl

/-! ## Reachable hosts -/

/-- Identities are not used again, so a queue pair that was created is what it was created as. -/
theorem Leads.fresh {h₀ : Host} {pd : NativeId} {init : NativeQpInit} {grant : QpGrant}
    (hr : Reachable devices h₀) (hgrant : (createQp pd init h₀).1 = .ok grant)
    (hk : (h₀.perform (.createQp pd init)).Leads k)
    (hq : k.fabric.qps.find? grant.native = some q) : q.cleared = init.fresh pd grant.number := by
  have hmade : (h₀.perform (.createQp pd init)).fabric.qps.find? grant.native =
      some (init.fresh pd grant.number) := by
    have hcreated := h₀.createQp_created pd init
    simp only [Host.perform]
    generalize createQp pd init h₀ = result at hgrant hcreated
    cases hcreated with
    | refused => cases hgrant
    | made o _ _ hdescribes =>
        obtain ⟨hnative, rfl⟩ := hdescribes
        obtain rfl := Except.ok.inj hgrant
        simp only [Fabric.put, Table.find?_insert, hnative, if_true]
        rfl
  have hr' : Reachable devices (h₀.perform (.createQp pd init)) := .perform _ hr
  have hfixed := ((hk.story hr').lived hr'.fit hmade hq).1
  exact hfixed

/-- On every reachable host the state of a queue pair tells what it holds. Any state but error was
come to from reset, one legal advance after the other, and in reset a queue pair is what it was
created as, whatever happened since. -/
theorem reachable_states (hr : Reachable devices h) (hq : h.fabric.qps.find? id = some q) :
    q.Proper ∧ (q.state ≠ .error → Arrives devices id q.state h) ∧
      (q.state = .reset → ∀ h₀ pd init grant, Reachable devices h₀ →
        (createQp pd init h₀).1 = .ok grant → grant.native = id →
        (h₀.perform (.createQp pd init)).Leads h → q = init.fresh pd grant.number) := by
  refine ⟨hr.proper hq, hr.arrives hq, fun hreset h₀ pd init grant hr₀ hgrant hid hk => ?_⟩
  subst hid
  rw [← hk.fresh hr₀ hgrant hq, cleared_of_reset (hr.proper hq) hreset]

/-- A queue pair that was connected to itself came to its state in four steps, and moved to reset it is
new again. -/
theorem loopback_states :
    let init : NativeQpInit :=
      { sendCq := 4, recvCq := 4, srq := none, transport := .reliable, signalAll := true,
        caps := {} }
    let before := (({} : Host).withDevices [{}]).performAll (loopback.take 3)
    let made := before.perform (.createQp 3 init)
    let ready := made.performAll (loopback.drop 4)
    let again := ready.perform (.modifyQp 5 {} .state)
    (∃ q, ready.fabric.qps.find? 5 = some q ∧ q.state = .rts ∧ q.Proper ∧
      Arrives [{}] 5 .rts ready) ∧
    again.fabric.qps.find? 5 = some (init.fresh 3 0x100) := by
  intro init before made ready again
  have hbefore : Reachable [{}] before := (Reachable.fresh {}).performAll _
  have hready : Reachable [{}] ready := (hbefore.perform _).performAll _
  have hrts : (ready.fabric.qps.find? 5).map (·.state) = some .rts := by decide +kernel
  obtain ⟨q, hq, hrts⟩ := Option.map_eq_some_iff.1 hrts
  obtain ⟨hproper, harrives, -⟩ := reachable_states hready hq
  have hreset : (again.fabric.qps.find? 5).map (·.state) = some .reset := by decide +kernel
  obtain ⟨q', hq', hreset⟩ := Option.map_eq_some_iff.1 hreset
  have hagain : Reachable [{}] again := hready.perform _
  obtain ⟨-, -, hfresh⟩ := reachable_states hagain hq'
  have hgrant : (createQp 3 init before).1 = .ok { native := 5, number := 0x100 } := by
    decide +kernel
  have hleads : made.Leads again := .perform _ (leads_performAll made _)
  have hnew := hfresh hreset before 3 init _ hbefore hgrant rfl hleads
  have hne : q.state ≠ .error := by
    rw [hrts]
    exact nofun
  exact ⟨⟨q, hq, hrts, hproper, hrts ▸ harrives hne⟩, hq'.trans (congrArg some hnew)⟩

end Host

end Rdma
