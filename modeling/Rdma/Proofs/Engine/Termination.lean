import Rdma.Proofs.Engine.Standstill

/-!
# The engine comes to rest

The loops of the engine have no bound of their own: a queue is drained until a step consumes nothing,
and passes are made until one moves nothing (`Drains`, `Sweeps`, `Runs`). Each step that consumes
shortens its own queue and lengthens none, so the loops end, and on every host they end where
`progress` does. There every head blocks, and to block is to change nothing at all.

* `drains_drain`, `sweeps_pass`, `runs_progress` — the loops end;
* `Runs.unique` — at one host only;
* `progress_rests` — where a run ends, and what a step that blocks leaves.
-/

namespace Rdma.Host

open Fabric (QueuePair PendingSend)

/-! ## The loops -/

/-- The queue pair steps until a step consumes nothing. The flag tells whether any step consumed. -/
inductive Drains (id : NativeId) : Host → Bool → Host → Prop
  | ends {h k : Host} : h.step id = (false, k) → Drains id h false k
  | goesOn {h g k : Host} {moved : Bool} : h.step id = (true, g) → Drains id g moved k →
      Drains id h true k

/-- The queue pairs are drained one after the other. -/
inductive Sweeps : List NativeId → Host → Bool → Host → Prop
  | done (h : Host) : Sweeps [] h false h
  | drain {id : NativeId} {rest : List NativeId} {h g k : Host} {moved moved' : Bool} :
      Drains id h moved g → Sweeps rest g moved' k → Sweeps (id :: rest) h (moved || moved') k

/-- The queue pairs that have something to send when a pass begins are drained, pass after pass, until
a pass moves nothing. -/
inductive Runs : Host → Host → Prop
  | ends {h k : Host} : Sweeps h.runnable h false k → Runs h k
  | goesOn {h g k : Host} : Sweeps h.runnable h true g → Runs g k → Runs h k

section Unique

variable {h k k' : Host} {moved moved' : Bool}

theorem Drains.unique {id : NativeId} (hd : Drains id h moved k) (hd' : Drains id h moved' k') :
    moved = moved' ∧ k = k' := by
  induction hd generalizing moved' k' with
  | ends hstep =>
      cases hd' with
      | ends hstep' => exact ⟨rfl, congrArg Prod.snd (hstep.symm.trans hstep')⟩
      | goesOn hstep' _ => cases hstep.symm.trans hstep'
  | goesOn hstep _ ih =>
      cases hd' with
      | ends hstep' => cases hstep.symm.trans hstep'
      | goesOn hstep' hrest =>
          obtain rfl := congrArg Prod.snd (hstep.symm.trans hstep')
          exact ⟨rfl, (ih hrest).2⟩

theorem Sweeps.unique {ids : List NativeId} (hs : Sweeps ids h moved k)
    (hs' : Sweeps ids h moved' k') : moved = moved' ∧ k = k' := by
  induction hs generalizing moved' k' with
  | done => cases hs'; exact ⟨rfl, rfl⟩
  | drain hdrains _ ih =>
      cases hs' with
      | drain hdrains' hrest =>
          obtain ⟨rfl, rfl⟩ := hdrains.unique hdrains'
          obtain ⟨rfl, rfl⟩ := ih hrest
          exact ⟨rfl, rfl⟩

/-- A run leads to one host only. -/
theorem Runs.unique (hr : Runs h k) (hr' : Runs h k') : k = k' := by
  induction hr with
  | ends hpass =>
      cases hr' with
      | ends hpass' => exact (hpass.unique hpass').2
      | goesOn hpass' _ => cases (hpass.unique hpass').1
  | goesOn hpass _ ih =>
      cases hr' with
      | ends hpass' => cases (hpass.unique hpass').1
      | goesOn hpass' hrest =>
          obtain rfl := (hpass.unique hpass').2
          exact ih hrest

end Unique

/-! ## Each queue only gets shorter -/

theorem queuedSends_eq {h : Host} {id : NativeId} {q : QueuePair}
    (hq : h.fabric.qps.find? id = some q) : h.queuedSends id = q.sendQueue.length := by
  simp only [queuedSends, hq, Option.map_some, Option.getD_some]

theorem queuedSends_updateQp_le {h : Host} {id id' : NativeId} {change : QueuePair → QueuePair}
    (hless : ∀ q, h.fabric.qps.find? id' = some q →
      (change q).sendQueue.length ≤ q.sendQueue.length) :
    (h.updateQp id' change).queuedSends id ≤ h.queuedSends id := by
  simp only [queuedSends, updateQp_fabric, Fabric.updateQp, Table.find?_modify]
  split
  case isTrue hid =>
    subst hid
    cases hq : h.fabric.qps.find? id with
    | none => exact Nat.le_refl _
    | some q => exact hless q hq
  case isFalse => exact Nat.le_refl _

theorem Motion.queuedSends_le {h k : Host} (hm : h.Motion k) (id : NativeId) :
    k.queuedSends id ≤ h.queuedSends id := by
  cases hm with
  | note | store => exact Nat.le_refl _
  | updateQp id' _ hless => exact queuedSends_updateQp_le hless
  | setRecv requests queue =>
      cases queue with
      | ofQp id' =>
          have hkept : (h.updateQp id' fun q => { q with recvQueue := requests }).queuedSends id ≤
              h.queuedSends id := queuedSends_updateQp_le fun _ _ => Nat.le_refl _
          exact hkept
      | shared srq => exact Nat.le_refl _
  | complete solicited _ _ =>
      obtain ⟨cqs, channels, journal, hsame⟩ := h.complete_frame _ _ solicited
      rw [hsame]
      exact Nat.le_refl _

theorem Moves.queuedSends_le {h k : Host} (hm : h.Moves k) (id : NativeId) :
    k.queuedSends id ≤ h.queuedSends id := by
  induction hm with
  | refl => exact Nat.le_refl _
  | tail _ hlast ih => exact Nat.le_trans (hlast.queuedSends_le id) ih

/-- A step that consumes a request takes it off the queue that it steps. -/
theorem queuedSends_step_lt {h : Host} {id : NativeId} (hc : (h.step id).1 = true) :
    (h.step id).2.queuedSends id < h.queuedSends id := by
  rcases h.step_cases id with hsame | ⟨q, pending, rest, hq, hsend, -, hmoves⟩
  · simp [hsame] at hc
  · have hpopped : (h.popped id rest).queuedSends id = rest.length :=
      queuedSends_eq (popped_find hq rest)
    have hle := hmoves.queuedSends_le id
    rw [queuedSends_eq hq, hsend, List.length_cons]
    omega

/-- A step that consumes nothing changes nothing. -/
theorem step_of_not_consumed {h : Host} {id : NativeId} (hc : (h.step id).1 = false) :
    h.step id = (false, h) := by
  rcases h.step_cases id with hsame | ⟨_, _, _, _, _, htrue, _⟩
  · exact hsame
  · cases hc.symm.trans htrue

/-! ## The loops end -/

/-- As much fuel as there are queued sends is enough, for each step consumes one. -/
theorem drainUpTo_drains {n : Nat} {h : Host} {id : NativeId} (hn : h.queuedSends id ≤ n) :
    Drains id h (drainUpTo n h id).1 (drainUpTo n h id).2 := by
  induction n generalizing h with
  | zero =>
      -- an empty queue is drained without a step
      refine .ends (step_of_idle fun q hq _ => ?_)
      rw [queuedSends_eq hq] at hn
      exact List.length_eq_zero_iff.1 (Nat.le_zero.1 hn)
  | succ n ih =>
      simp only [drainUpTo]
      cases hstep : h.step id with
      | mk consumed g =>
          cases consumed with
          | false => exact .ends hstep
          | true =>
              have hlt : g.queuedSends id < h.queuedSends id := by
                have hconsumed : (h.step id).1 = true := by rw [hstep]
                have hless := queuedSends_step_lt hconsumed
                rwa [hstep] at hless
              exact .goesOn hstep (ih (by omega))

/-- Draining a queue ends. -/
theorem drains_drain (h : Host) (id : NativeId) : Drains id h (h.drain id).1 (h.drain id).2 :=
  drainUpTo_drains (Nat.le_refl _)

theorem sweeps_foldl (ids : List NativeId) (moved : Bool) (h : Host) :
    ∃ moved', Sweeps ids h moved' (ids.foldl passOne (moved, h)).2 ∧
      (ids.foldl passOne (moved, h)).1 = (moved || moved') := by
  induction ids generalizing moved h with
  | nil => exact ⟨false, .done h, (Bool.or_false moved).symm⟩
  | cons id rest ih =>
      obtain ⟨moved', hsweeps, hflag⟩ := ih (moved || (h.drain id).1) (h.drain id).2
      exact ⟨(h.drain id).1 || moved', .drain (h.drains_drain id) hsweeps,
        hflag.trans (Bool.or_assoc _ _ _)⟩

/-- A pass ends. -/
theorem sweeps_pass (h : Host) : Sweeps h.runnable h h.pass.1 h.pass.2 := by
  obtain ⟨moved, hsweeps, hflag⟩ := sweeps_foldl h.runnable false h
  rw [Bool.false_or] at hflag
  rw [pass_eq, hflag]
  exact hsweeps

/-- A host at a standstill is not moved by a pass. -/
theorem Still.pass {h : Host} (hstill : h.Still) : h.pass = (false, h) := by
  have hdrains (id : NativeId) : h.drain id = (false, h) := by
    obtain ⟨hmoved, hsame⟩ := (h.drains_drain id).unique (.ends (hstill id))
    exact Prod.ext hmoved hsame
  have hfold (ids : List NativeId) : ids.foldl passOne (false, h) = (false, h) := by
    induction ids with
    | nil => rfl
    | cons id rest ih => rw [List.foldl_cons, passOne, hdrains, Bool.or_false, ih]
  rw [pass_eq, hfold]

theorem Still.runs {h : Host} (hstill : h.Still) : Runs h h := by
  have hpass := h.sweeps_pass
  rw [hstill.pass] at hpass
  exact .ends hpass

/-- As many passes as there are queued sends are enough, for each pass but the last consumes one. -/
theorem progressUpTo_runs {n : Nat} {h : Host} (hn : h.totalQueuedSends ≤ n) :
    Runs h (progressUpTo n h) := by
  induction n generalizing h with
  | zero => exact (still_of_total_zero (Nat.le_zero.1 hn)).runs
  | succ n ih =>
      have hsweeps := h.sweeps_pass
      cases hp : h.pass with
      | mk moved g =>
          simp only [progressUpTo, hp]
          rw [hp] at hsweeps
          cases moved with
          | false => exact .ends hsweeps
          | true =>
              -- a pass that moves something leaves fewer requests than there were
              obtain ⟨-, htrue, -⟩ := passOne_cases h.runnable false h
              rw [← pass_eq, hp] at htrue
              have hlt := (htrue rfl).resolve_left Bool.false_ne_true
              exact .goesOn hsweeps (ih (by omega))

/-- A run of the engine ends. -/
theorem runs_progress (h : Host) : Runs h h.progress := progressUpTo_runs (Nat.le_refl _)

theorem Still.progress {h : Host} (hstill : h.Still) : h.progress = h :=
  h.runs_progress.unique hstill.runs

/-! ## Where it rests -/

/-- Executing the request at the head of a send queue comes to nothing, as its reliable peer has no
receive request for it. -/
structure Blocks (h : Host) (id : NativeId) (q : QueuePair) : Prop where
  found : h.fabric.qps.find? id = some q
  ready : q.state = .rts
  head : ∃ pending rest, q.sendQueue = pending :: rest ∧
    ((h.popped id rest).execute id pending).1 = .blocked

theorem Blocks.step {h : Host} {id : NativeId} {q : QueuePair} (hb : h.Blocks id q) :
    h.step id = (false, h) := by
  obtain ⟨hq, hs, pending, rest, hsend, hblocked⟩ := hb
  exact step_of_blocked hq hs hsend hblocked

theorem Still.blocks {h : Host} (hstill : h.Still) {id : NativeId} {q : QueuePair}
    (hq : h.fabric.qps.find? id = some q) (hs : q.state = .rts) (hne : q.sendQueue ≠ []) :
    h.Blocks id q := by
  obtain ⟨pending, rest, hsend⟩ := List.exists_cons_of_ne_nil hne
  refine ⟨hq, hs, pending, rest, hsend, Decidable.byContradiction fun hb => ?_⟩
  obtain ⟨htrue, -⟩ := step_of_consumed hq hs hsend hb
  rw [hstill id] at htrue
  cases htrue

theorem execute_of_blocked {h : Host} {id : NativeId} {pending : PendingSend}
    (hb : (h.execute id pending).1 = .blocked) : (h.execute id pending).2 = h := by
  cases hq : h.fabric.qps.find? id with
  | none => simp only [execute, hq]
  | some q =>
      obtain ⟨-, -, hsame⟩ := execute_executed hq pending
      exact hsame hb

/-- On every host, reachable or not, a run of the engine ends, at one host only. There each queue pair
that may send and has something to send has a head that blocks, no step changes anything, and another
run ends where it begins. On the way, a step that does not consume a request changes nothing, and
where executing one blocks this leaves the host as it was, with the request back at the head. -/
theorem progress_rests (h : Host) :
    (∀ k, Runs h k ↔ k = h.progress) ∧
      (∀ id q, h.progress.fabric.qps.find? id = some q → q.state = .rts → q.sendQueue ≠ [] →
        h.progress.Blocks id q) ∧
      (∀ id, h.progress.step id = (false, h.progress)) ∧
      h.progress.progress = h.progress ∧
      (∀ id, (h.step id).1 = false → (h.step id).2 = h) ∧
      (∀ id q, h.Blocks id q → h.step id = (false, h)) ∧
      ∀ id pending, (h.execute id pending).1 = .blocked → (h.execute id pending).2 = h := by
  have hstill := h.progress_still
  refine ⟨fun k => ⟨fun hr => hr.unique h.runs_progress, ?ends⟩, ?heads, hstill, hstill.progress,
    ?quiet, fun _ _ hb => hb.step, fun _ _ => execute_of_blocked⟩
  case ends =>
    rintro rfl
    exact h.runs_progress
  case heads => exact fun _ _ => hstill.blocks
  case quiet => exact fun _ hc => congrArg Prod.snd (step_of_not_consumed hc)

/-- Of two messages that a queue pair sends to itself with one receive request posted, the second
blocks. -/
theorem loopback_rests :
    let h := (({} : Host).withDevices [{}]).performAll (loopback ++
      [.postRecv 5 [{ wrId := 7 }], .postSend 5 [{ wrId := 1 }, { wrId := 2 }]])
    h.progress.progress = h.progress ∧
      ∃ q, h.progress.fabric.qps.find? 5 = some q ∧ q.sendQueue.map (·.request.wrId) = [2] ∧
        h.progress.Blocks 5 q := by
  intro h
  obtain ⟨-, hblocks, -, hagain, -⟩ := progress_rests h
  obtain ⟨q, hq, hstate, hqueue⟩ : ∃ q, h.progress.fabric.qps.find? 5 = some q ∧ q.state = .rts ∧
      q.sendQueue.map (·.request.wrId) = [2] := by
    have hfound : (h.progress.fabric.qps.find? 5).map
        (fun q => (q.state, q.sendQueue.map (·.request.wrId))) = some (.rts, [2]) := by decide +kernel
    obtain ⟨q, hq, hsame⟩ := Option.map_eq_some_iff.1 hfound
    exact ⟨q, hq, congrArg Prod.fst hsame, congrArg Prod.snd hsame⟩
  refine ⟨hagain, q, hq, hqueue, hblocks 5 q hq hstate fun hnil => ?_⟩
  rw [hnil] at hqueue
  cases hqueue

end Rdma.Host
