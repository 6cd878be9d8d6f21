import Rdma.Proofs.Engine.Motion

/-!
# Running send queues to a standstill

A step either changes nothing or consumes the head of a send queue (`step_cases`). Consumed requests
are gone for good, so the number of queued requests bounds the passes, and the engine stops where no
step consumes anything.

* `progress_moves` — the engine does nothing but motions;
* `progress_still` — where the engine stops, every step leaves the host as it is.
-/

namespace Rdma.Host

open Fabric (QueuePair PendingSend)

/-! ## One step -/

/-- The host while the head of a send queue is executed: the request is off its queue. -/
def popped (h : Host) (id : NativeId) (rest : List PendingSend) : Host :=
  h.updateQp id fun q => { q with sendQueue := rest }

theorem popped_find {h : Host} {id : NativeId} {q : QueuePair}
    (hq : h.fabric.qps.find? id = some q) (rest : List PendingSend) :
    (h.popped id rest).fabric.qps.find? id = some { q with sendQueue := rest } := by
  simp [popped, Fabric.updateQp, hq]

theorem popped_motion {h : Host} {id : NativeId} {q : QueuePair} {pending : PendingSend}
    {rest : List PendingSend} (hq : h.fabric.qps.find? id = some q)
    (hsend : q.sendQueue = pending :: rest) : h.Motion (h.popped id rest) := by
  refine .updateQp h id (fun _ => rfl) fun q' hq' => ?_
  obtain rfl : q' = q := Option.some.inj (hq' ▸ hq)
  simp [hsend]

/-- Putting the request back restores the host. -/
theorem popped_restored {h : Host} {id : NativeId} {q : QueuePair} {pending : PendingSend}
    {rest : List PendingSend} (hq : h.fabric.qps.find? id = some q)
    (hsend : q.sendQueue = pending :: rest) :
    ((h.popped id rest).updateQp id fun q => { q with sendQueue := pending :: q.sendQueue }) = h := by
  have hsame : (h.fabric.qps.modify id fun q => { q with sendQueue := rest }).modify id
      (fun q => { q with sendQueue := pending :: q.sendQueue }) = h.fabric.qps := by
    rw [Table.modify_modify]
    refine Table.modify_eq_self fun q' hq' => ?_
    obtain rfl : q' = q := Option.some.inj (hq' ▸ hq)
    simp [← hsend]
  simp only [popped, updateQp, Fabric.updateQp, hsame]

theorem step_of_idle {h : Host} {id : NativeId}
    (hidle : ∀ q, h.fabric.qps.find? id = some q → q.state = .rts → q.sendQueue = []) :
    h.step id = (false, h) := by
  unfold step
  cases hq : h.fabric.qps.find? id with
  | none => rfl
  | some q =>
      by_cases hs : q.state = .rts
      · simp [hs, hidle q hq hs]
      · simp [hs]

/-- An outcome that does not block consumes the request; if it is a failure, the queue pair fails
too. -/
theorem conclude_moves {h : Host} {id : NativeId} {q : QueuePair} (pending : PendingSend)
    {outcome : SendOutcome} (hq : h.fabric.qps.find? id = some q) (hblocked : outcome ≠ .blocked)
    (hfatal : outcome ≠ .failed .fatal) :
    (h.conclude id q pending outcome).1 = true ∧
      h.Moves (h.conclude id q pending outcome).2 := by
  have hcq : h.fabric.CompletesInto q.sendCq := ⟨id, q, hq, .inl rfl⟩
  cases outcome with
  | blocked => exact absurd rfl hblocked
  | done byteLength =>
      have hnote : h.Motion (h.note (.sendRetired id pending.request .success)) :=
        .note h (by simp [Event.Plain])
      refine ⟨rfl, ?_⟩
      simp only [conclude]
      split
      · have hstatus := CompletionStatus.code_ne (s := .success) (t := .fatal) (by decide)
        exact .tail (.single hnote) (.complete _ false hcq hstatus)
      · exact .single hnote
  | failed status =>
      have hs : status ≠ .fatal := fun h => hfatal (h ▸ rfl)
      -- written down twice, then completed, then flushed
      have hlog : h.Motion (h.note (.requestFailed q.number pending.request.wrId status)) :=
        .note h trivial
      have hretired (k : Host) : k.Motion (k.note (.sendRetired id pending.request status)) :=
        .note k hs
      have hnoted := Relation.ReflTransGen.tail (.single hlog) (hretired _)
      have hdone (k : Host) (hk : k.fabric.CompletesInto q.sendCq) : k.Motion (k.complete q.sendCq
          (sendCompletion q.number pending.request status 0) false) :=
        .complete k false hk (CompletionStatus.code_ne hs)
      have hcompleted := hnoted.tail (hdone _ (Moves.completesInto hnoted hcq))
      exact ⟨rfl, hcompleted.trans (enterError_moves _ id)⟩

section Head

variable {h : Host} {id : NativeId} {q : QueuePair} {pending : PendingSend}
  {rest : List PendingSend} (hq : h.fabric.qps.find? id = some q) (hs : q.state = .rts)
  (hsend : q.sendQueue = pending :: rest)

include hq hs hsend

theorem step_eq : h.step id =
    match (h.popped id rest).execute id pending with
    | (outcome, k) =>
      match k.fabric.qps.find? id with
      | none => (false, k)
      | some q => k.conclude id q pending outcome := by
  simp only [step, hq, hs, hsend, ne_eq, not_true, if_false]
  rfl

/-- A head that blocks is put back, and nothing has changed. -/
theorem step_of_blocked (hb : ((h.popped id rest).execute id pending).1 = .blocked) :
    h.step id = (false, h) := by
  obtain ⟨-, -, hsame⟩ := execute_executed (popped_find hq rest) pending
  have hexec : (h.popped id rest).execute id pending = (.blocked, h.popped id rest) :=
    Prod.ext hb (hsame hb)
  rw [step_eq hq hs hsend, hexec]
  simp only [popped_find hq rest, conclude, popped_restored hq hsend]

/-- A head that does not block is consumed. -/
theorem step_of_consumed (hb : ((h.popped id rest).execute id pending).1 ≠ .blocked) :
    (h.step id).1 = true ∧ (h.popped id rest).Moves (h.step id).2 := by
  obtain ⟨hmoves, hfatal, -⟩ := execute_executed (popped_find hq rest) pending
  obtain ⟨q', hq', -⟩ := hmoves.find_qp (popped_find hq rest)
  obtain ⟨htrue, hrest⟩ := conclude_moves pending hq' hb hfatal
  rw [step_eq hq hs hsend]
  simp only [hq']
  exact ⟨htrue, hmoves.trans hrest⟩

end Head

/-- A step changes nothing, or it consumes the head of a send queue and moves on from there. -/
theorem step_cases (h : Host) (id : NativeId) :
    h.step id = (false, h) ∨
      ∃ q pending rest, h.fabric.qps.find? id = some q ∧ q.sendQueue = pending :: rest ∧
        (h.step id).1 = true ∧ (h.popped id rest).Moves (h.step id).2 := by
  by_cases hidle : ∀ q, h.fabric.qps.find? id = some q → q.state = .rts → q.sendQueue = []
  · exact .inl (step_of_idle hidle)
  · obtain ⟨q, hq, hs, hne⟩ : ∃ q, h.fabric.qps.find? id = some q ∧ q.state = .rts ∧
        q.sendQueue ≠ [] := by grind
    obtain ⟨pending, rest, hsend⟩ := List.exists_cons_of_ne_nil hne
    by_cases hb : ((h.popped id rest).execute id pending).1 = .blocked
    · exact .inl (step_of_blocked hq hs hsend hb)
    · exact .inr ⟨q, pending, rest, hq, hsend, step_of_consumed hq hs hsend hb⟩

theorem step_moves (h : Host) (id : NativeId) : h.Moves (h.step id).2 := by
  rcases h.step_cases id with hsame | ⟨q, pending, rest, hq, hsend, -, hmoves⟩
  · rw [hsame]
  · exact .head (popped_motion hq hsend) hmoves

/-! ## Queued requests only get fewer -/

theorem total_updateQp_le {h : Host} {id : NativeId} {change : QueuePair → QueuePair}
    (hless : ∀ q, h.fabric.qps.find? id = some q →
      (change q).sendQueue.length ≤ q.sendQueue.length) :
    (h.updateQp id change).totalQueuedSends ≤ h.totalQueuedSends := by
  simp only [totalQueuedSends, updateQp_fabric, Fabric.updateQp]
  cases hq : h.fabric.qps.find? id with
  | none =>
      have hsame : h.fabric.qps.modify id change = h.fabric.qps :=
        Table.modify_eq_self fun q hq' => by simp [hq] at hq'
      exact Nat.le_of_eq (congrArg (Table.total · _) hsame)
  | some q =>
      have htotal := Table.total_modify hq change (·.sendQueue.length)
      have := hless q hq
      omega

theorem Motion.total_le {h k : Host} (hm : h.Motion k) :
    k.totalQueuedSends ≤ h.totalQueuedSends := by
  cases hm with
  | note | store => exact Nat.le_refl _
  | updateQp id _ hless => exact total_updateQp_le hless
  | setRecv requests queue =>
      cases queue with
      | ofQp id =>
          have hkept : (h.updateQp id fun q => { q with recvQueue := requests }).totalQueuedSends ≤
              h.totalQueuedSends := total_updateQp_le fun _ _ => Nat.le_refl _
          exact hkept
      | shared srq => exact Nat.le_refl _
  | complete solicited _ _ =>
      obtain ⟨cqs, channels, journal, hsame⟩ := h.complete_frame _ _ solicited
      rw [hsame]
      exact Nat.le_refl _

theorem Moves.total_le {h k : Host} (hm : h.Moves k) :
    k.totalQueuedSends ≤ h.totalQueuedSends := by
  induction hm with
  | refl => exact Nat.le_refl _
  | tail _ hlast ih => exact Nat.le_trans hlast.total_le ih

/-- A step that consumes a request leaves fewer. -/
theorem total_step_lt {h : Host} {id : NativeId} (hc : (h.step id).1 = true) :
    (h.step id).2.totalQueuedSends < h.totalQueuedSends := by
  rcases h.step_cases id with hsame | ⟨q, pending, rest, hq, hsend, -, hmoves⟩
  · simp [hsame] at hc
  · have htotal := Table.total_modify hq (fun q => { q with sendQueue := rest })
      (·.sendQueue.length)
    have hrest := hmoves.total_le
    simp only [totalQueuedSends, popped, updateQp_fabric, Fabric.updateQp, hsend,
      List.length_cons] at htotal hrest ⊢
    omega

/-! ## Draining one queue -/

/-- Draining consumes something, or it finds nothing to consume and changes nothing. -/
theorem drainUpTo_cases (n : Nat) (h : Host) (id : NativeId) :
    h.Moves (drainUpTo n h id).2 ∧
      ((drainUpTo n h id).1 = true → (drainUpTo n h id).2.totalQueuedSends < h.totalQueuedSends) ∧
      ((drainUpTo n h id).1 = false →
        (drainUpTo n h id).2 = h ∧ (n ≠ 0 → h.step id = (false, h))) := by
  induction n generalizing h with
  | zero => exact ⟨.refl, by simp [drainUpTo], by simp [drainUpTo]⟩
  | succ n ih =>
      cases hstep : h.step id with
      | mk consumed k =>
          have hmoves : h.Moves k := by simpa [hstep] using h.step_moves id
          cases consumed with
          | false =>
              -- a step that consumes nothing ends the drain where it began
              have hk : k = h := by
                rcases h.step_cases id with hsame | ⟨_, _, _, _, _, htrue, _⟩
                · simpa [hstep] using hsame
                · simp [hstep] at htrue
              simp [drainUpTo, hstep, hk, Relation.ReflTransGen.refl]
          | true =>
              have hlt : k.totalQueuedSends < h.totalQueuedSends := by
                have hless : (h.step id).2.totalQueuedSends < h.totalQueuedSends :=
                  total_step_lt (by simp [hstep])
                simpa [hstep] using hless
              -- the rest of the drain can only take more off the queues
              obtain ⟨hrest, -, -⟩ := ih k
              simp only [drainUpTo, hstep]
              exact ⟨hmoves.trans hrest, fun _ => Nat.lt_of_le_of_lt hrest.total_le hlt, by simp⟩

/-- Where draining a queue with something to send consumes nothing, its head blocks. -/
theorem step_of_drain {h : Host} {id : NativeId} (hid : id ∈ h.runnable)
    (hd : (h.drain id).1 = false) : h.step id = (false, h) := by
  obtain ⟨q, hq, -, hne⟩ := mem_runnable.1 hid
  refine ((drainUpTo_cases _ h id).2.2 hd).2 ?_
  simpa [queuedSends, hq] using hne

/-! ## Passes -/

/-- What `pass` does with one queue pair. -/
def passOne (acc : Bool × Host) (id : NativeId) : Bool × Host :=
  (acc.1 || (acc.2.drain id).1, (acc.2.drain id).2)

/-- A pass moves something, or it finds every queue at a standstill and changes nothing. -/
theorem passOne_cases (ids : List NativeId) (moved : Bool) (h : Host) :
    h.Moves (ids.foldl passOne (moved, h)).2 ∧
      ((ids.foldl passOne (moved, h)).1 = true →
        moved = true ∨ (ids.foldl passOne (moved, h)).2.totalQueuedSends < h.totalQueuedSends) ∧
      ((ids.foldl passOne (moved, h)).1 = false →
        moved = false ∧ (ids.foldl passOne (moved, h)).2 = h ∧
          ∀ id ∈ ids, (h.drain id).1 = false) := by
  induction ids generalizing moved h with
  | nil => exact ⟨.refl, .inl, fun hm => ⟨hm, rfl, by simp⟩⟩
  | cons id rest ih =>
      obtain ⟨hdmoves, hdtrue, hdfalse⟩ := drainUpTo_cases (h.queuedSends id) h id
      obtain ⟨hmoves, htrue, hfalse⟩ := ih (moved || (h.drain id).1) (h.drain id).2
      simp only [List.foldl_cons, passOne] at hmoves htrue hfalse ⊢
      refine ⟨hdmoves.trans hmoves, fun hc => ?_, fun hc => ?_⟩
      · rcases htrue hc with hor | hlt
        · rcases Bool.or_eq_true_iff.1 hor with hmoved | hdrained
          · exact .inl hmoved
          · exact .inr (Nat.lt_of_le_of_lt hmoves.total_le (hdtrue hdrained))
        · exact .inr (Nat.lt_of_lt_of_le hlt hdmoves.total_le)
      · obtain ⟨hor, hsame, hrest⟩ := hfalse hc
        obtain ⟨hmoved, hdrained⟩ := Bool.or_eq_false_iff.1 hor
        have hk : (h.drain id).2 = h := (hdfalse hdrained).1
        -- nothing was drained, so the rest of the pass starts from the same host
        rw [hk] at hsame hrest
        refine ⟨hmoved, by rw [hk]; exact hsame, fun id' hid' => ?_⟩
        rcases List.mem_cons.1 hid' with rfl | hmem
        · exact hdrained
        · exact hrest id' hmem

theorem pass_eq (h : Host) : h.pass = h.runnable.foldl passOne (false, h) := rfl

/-! ## The standstill -/

/-- No step consumes anything, nor changes anything. -/
def Still (h : Host) : Prop := ∀ id, h.step id = (false, h)

/-- A pass that moves nothing certifies every queue, also those it passed over. -/
theorem pass_still {h : Host} (hp : h.pass.1 = false) : h.pass.2 = h ∧ h.Still := by
  obtain ⟨-, -, hfalse⟩ := passOne_cases h.runnable false h
  obtain ⟨-, hsame, hdrained⟩ := hfalse hp
  refine ⟨hsame, fun id => ?_⟩
  by_cases hid : id ∈ h.runnable
  -- a queue that the pass tried, and one that it passed over as idle
  · exact step_of_drain hid (hdrained id hid)
  · refine step_of_idle fun q hq hs => ?_
    by_cases hne : q.sendQueue = []
    · exact hne
    · exact absurd (mem_runnable.2 ⟨q, hq, hs, hne⟩) hid

theorem still_of_total_zero {h : Host} (hz : h.totalQueuedSends = 0) : h.Still := by
  intro id
  refine step_of_idle fun q hq _ => ?_
  have htotal := Table.total_modify hq (fun q => { q with sendQueue := [] }) (·.sendQueue.length)
  simp only [totalQueuedSends] at hz
  simp only [hz, List.length_nil] at htotal
  exact List.length_eq_zero_iff.1 (by omega)

theorem progressUpTo_moves (n : Nat) (h : Host) : h.Moves (progressUpTo n h) := by
  induction n generalizing h with
  | zero => exact .refl
  | succ n ih =>
      have hpass : h.Moves h.pass.2 := (passOne_cases h.runnable false h).1
      cases hp : h.pass with
      | mk moved k =>
          simp only [hp] at hpass
          cases moved <;> simp only [progressUpTo, hp]
          · exact hpass
          · exact hpass.trans (ih k)

/-- As many passes as there are queued requests come to a standstill: each one that moves anything
consumes a request. -/
theorem progressUpTo_still {n : Nat} {h : Host} (hn : h.totalQueuedSends ≤ n) :
    (progressUpTo n h).Still := by
  induction n generalizing h with
  | zero => exact still_of_total_zero (Nat.le_zero.1 hn)
  | succ n ih =>
      cases hp : h.pass with
      | mk moved k =>
          cases moved with
          | false =>
              obtain ⟨hsame, hstill⟩ := pass_still (h := h) (by rw [hp])
              have hk : k = h := by rw [hp] at hsame; exact hsame
              simpa only [progressUpTo, hp, hk] using hstill
          | true =>
              obtain ⟨-, htrue, -⟩ := passOne_cases h.runnable false h
              rw [← pass_eq, hp] at htrue
              have hlt : k.totalQueuedSends < h.totalQueuedSends :=
                (htrue rfl).resolve_left (by simp)
              -- one pass is spent, and so is at least one request
              simp only [progressUpTo, hp]
              exact ih (by omega)

theorem progress_moves (h : Host) : h.Moves h.progress := progressUpTo_moves _ h

theorem progress_still (h : Host) : h.progress.Still := progressUpTo_still (Nat.le_refl _)

end Rdma.Host
