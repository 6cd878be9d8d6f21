import Mathlib.Logic.Relation
import Rdma.Fabric.Object
import Rdma.Fabric.Posting

/-!
# What the engine can do to a host

Everything that running send queues does to a host is a sequence of five kinds of motion: an event
is written down, memory changes, a queue pair changes without getting more to send, a receive queue
is replaced, or a completion is handed to a completion queue of a queue pair. The lemmas named
`…_moves` say so of each function of the engine, once; what every motion keeps, the engine keeps.

* `Moves.skeleton` — the objects of the fabric stay as they were created;
* `execute_executed` — executing a request only moves, a request that blocks does not even that, and
  the guards for a queue pair that vanishes never fire.
-/

namespace Rdma

open Fabric (QueuePair PendingSend)

/-- Nothing in the event tells of a completion that went astray or of a queue pair that vanished. -/
def Event.Orderly : Event → Prop
  | .completed _ c _ _ => c.status ≠ CompletionStatus.fatal.code
  | .undelivered .. => False
  | .polled _ taken => ∀ c ∈ taken, c.status ≠ CompletionStatus.fatal.code
  | .sendRetired _ _ status => status ≠ .fatal
  | _ => True

/-- The completion queue that an event tells of. -/
def Event.cq? : Event → Option NativeId
  | .completed cq .. | .undelivered cq _ | .polled cq _ | .overflowed cq | .armed cq _ => some cq
  | .eventRaised _ event | .eventFetched _ event => some event.cq
  | _ => none

/-- The event tells of no completion queue, nor of a queue pair that vanished. -/
def Event.Plain : Event → Prop
  | .completed .. | .undelivered .. | .polled .. | .overflowed _ | .armed .. | .eventRaised ..
  | .eventFetched .. => False
  | .sendRetired _ _ status => status ≠ .fatal
  | _ => True

theorem Event.Plain.orderly {e : Event} (he : e.Plain) : e.Orderly := by
  cases e <;> first | exact he.elim | exact he

theorem Event.Plain.cq_eq_none {e : Event} (he : e.Plain) : e.cq? = none := by
  cases e <;> first | exact he.elim | rfl

/-- A queue pair completes into the queue. -/
def Fabric.CompletesInto (f : Fabric) (cq : NativeId) : Prop :=
  ∃ id q, f.qps.find? id = some q ∧ (cq = q.sendCq ∨ cq = q.recvCq)

namespace Fabric

/-- Queue pairs that were created alike have the same domain, number, queues and capacities. -/
theorem QueuePair.fixed_of_cleared {q q' : QueuePair} (h : q'.cleared = q.cleared) :
    q'.pd = q.pd ∧ q'.number = q.number ∧ q'.transport = q.transport ∧ q'.sendCq = q.sendCq ∧
      q'.recvCq = q.recvCq ∧ q'.srq = q.srq ∧ q'.signalAll = q.signalAll ∧ q'.caps = q.caps := by
  simpa [cleared] using h

/-! ## Updates that keep the objects -/

theorem updateQp_skeleton (f : Fabric) (id : NativeId) {change : QueuePair → QueuePair}
    (hkeep : ∀ q, (change q).cleared = q.cleared) :
    (f.updateQp id change).skeleton = f.skeleton := by
  simp only [skeleton, updateQp, Table.map_modify hkeep]

theorem updateCq_skeleton (f : Fabric) (id : NativeId)
    {change : CompletionQueue → CompletionQueue}
    (hkeep : ∀ q, (change q).asCreated = q.asCreated) :
    (f.updateCq id change).skeleton = f.skeleton := by
  simp only [skeleton, updateCq, Table.map_modify hkeep]

theorem updateChannel_skeleton (f : Fabric) (id : NativeId) {change : Channel → Channel}
    (hkeep : ∀ c, (change c).asCreated = c.asCreated) :
    (f.updateChannel id change).skeleton = f.skeleton := by
  simp only [skeleton, updateChannel, Table.map_modify hkeep]

theorem setRecvRequests_skeleton (f : Fabric) (requests : List RecvRequest) (queue : RecvQueue) :
    (f.setRecvRequests requests queue).skeleton = f.skeleton := by
  cases queue with
  | ofQp id => exact f.updateQp_skeleton id fun _ => rfl
  | shared srq =>
      have hkeep : ∀ s : SharedQueue, ({ s with queue := requests } : SharedQueue).asCreated =
          s.asCreated := fun _ => rfl
      simp only [skeleton, setRecvRequests, Table.map_modify hkeep]

end Fabric

namespace Host

theorem raiseEvent_skeleton (h : Host) (channel : NativeId) (event : CqEvent) :
    (h.raiseEvent channel event).fabric.skeleton = h.fabric.skeleton := by
  unfold raiseEvent
  cases h.fabric.channels.find? channel with
  | none => rfl
  | some c =>
      cases hs : c.descriptor.signal <;>
      · simp only [hs, note_fabric]
        exact h.fabric.updateChannel_skeleton channel fun _ => rfl

theorem wake_skeleton (h : Host) (cq : NativeId) (q : Fabric.CompletionQueue) :
    (h.wake cq q).fabric.skeleton = h.fabric.skeleton := by
  have hdisarmed : (h.fabric.updateCq cq fun q => { q with armed := none }).skeleton =
      h.fabric.skeleton := h.fabric.updateCq_skeleton cq fun _ => rfl
  cases hc : q.channel <;> simpa [wake, hc, raiseEvent_skeleton] using hdisarmed

theorem complete_skeleton (h : Host) (cq : NativeId) (c : Completion) (solicited : Bool) :
    (h.complete cq c solicited).fabric.skeleton = h.fabric.skeleton := by
  have hstored : (h.storeCompletion cq c solicited).fabric.skeleton = h.fabric.skeleton :=
    h.fabric.updateCq_skeleton cq fun _ => rfl
  unfold complete
  cases hq : h.fabric.cqs.find? cq with
  | none => rfl
  | some q =>
      by_cases hfull : q.isFull
      · have hlost : (h.fabric.updateCq cq fun q => { q with overflowed := true }).skeleton =
            h.fabric.skeleton := h.fabric.updateCq_skeleton cq fun _ => rfl
        by_cases hover : q.overflowed <;> simpa [hfull, loseCompletion, hover] using hlost
      · by_cases hwakes : q.wakes c solicited <;> simp [hfull, hwakes, wake_skeleton, hstored]

theorem raiseEvent_frame (h : Host) (channel : NativeId) (event : CqEvent) :
    ∃ channels journal,
      h.raiseEvent channel event = { h with fabric := { h.fabric with channels }, journal } := by
  unfold raiseEvent
  cases h.fabric.channels.find? channel with
  | none => exact ⟨_, _, rfl⟩
  | some c =>
      cases hs : c.descriptor.signal <;>
      · simp only [hs]
        exact ⟨_, _, rfl⟩

/-- Completing touches completion queues and channels only. -/
theorem complete_frame (h : Host) (cq : NativeId) (c : Completion) (solicited : Bool) :
    ∃ cqs channels journal,
      h.complete cq c solicited = { h with fabric := { h.fabric with cqs, channels }, journal } := by
  unfold complete
  cases hq : h.fabric.cqs.find? cq with
  | none => exact ⟨_, _, _, rfl⟩
  | some q =>
      by_cases hfull : q.isFull
      · by_cases hover : q.overflowed <;>
        · simp only [hfull, loseCompletion, hover, if_true]
          exact ⟨_, _, _, rfl⟩
      by_cases hwakes : q.wakes c solicited
      · cases hc : q.channel with
        | none =>
            simp only [hfull, hwakes, if_true, wake, hc]
            exact ⟨_, _, _, rfl⟩
        | some channel =>
            obtain ⟨channels, journal, hraised⟩ :=
              ((h.storeCompletion cq c solicited).updateCq cq fun q =>
                { q with armed := none }).raiseEvent_frame channel { cq, cookie := q.cookie }
            simp only [hfull, hwakes, if_true, wake, hc]
            exact ⟨_, channels, journal, hraised⟩
      · simp only [hfull, hwakes]
        exact ⟨_, _, _, rfl⟩

/-! ## Motions -/

/-- One thing that the engine does. -/
inductive Motion : Host → Host → Prop
  | note (h : Host) {e : Event} : e.Plain → Motion h (h.note e)
  | store (h : Host) (memory : Memory) : Motion h { h with memory }
  | updateQp (h : Host) (id : NativeId) {change : QueuePair → QueuePair} :
      (∀ q, (change q).cleared = q.cleared) →
      (∀ q, h.fabric.qps.find? id = some q →
        (change q).sendQueue.length ≤ q.sendQueue.length) → Motion h (h.updateQp id change)
  | setRecv (h : Host) (requests : List RecvRequest) (queue : RecvQueue) :
      Motion h { h with fabric := h.fabric.setRecvRequests requests queue }
  | complete (h : Host) {cq : NativeId} {c : Completion} (solicited : Bool) :
      h.fabric.CompletesInto cq → c.status ≠ CompletionStatus.fatal.code →
      Motion h (h.complete cq c solicited)

/-- What the engine does, one thing after the other. -/
abbrev Moves : Host → Host → Prop := Relation.ReflTransGen Motion

theorem Motion.skeleton {h k : Host} (hm : h.Motion k) :
    k.fabric.skeleton = h.fabric.skeleton := by
  cases hm with
  | note | store => rfl
  | updateQp id hkeep _ => exact h.fabric.updateQp_skeleton id hkeep
  | setRecv requests queue => exact h.fabric.setRecvRequests_skeleton requests queue
  | complete solicited _ _ => exact h.complete_skeleton _ _ solicited

theorem Moves.skeleton {h k : Host} (hm : h.Moves k) :
    k.fabric.skeleton = h.fabric.skeleton := by
  induction hm with
  | refl => rfl
  | tail _ hlast ih => exact hlast.skeleton.trans ih

/-- A queue pair stays what it was created as. -/
theorem Moves.find_qp {h k : Host} (hm : h.Moves k) {id : NativeId} {q : QueuePair}
    (hq : h.fabric.qps.find? id = some q) :
    ∃ q', k.fabric.qps.find? id = some q' ∧ q'.cleared = q.cleared := by
  have hsame := congrArg (fun f : Fabric => f.qps.find? id) hm.skeleton
  simp only [Fabric.skeleton, Table.find?_map, hq, Option.map_some, Option.map_eq_some_iff] at hsame
  exact hsame

theorem Moves.completesInto {h k : Host} (hm : h.Moves k) {cq : NativeId}
    (hc : h.fabric.CompletesInto cq) : k.fabric.CompletesInto cq := by
  obtain ⟨id, q, hq, hcq⟩ := hc
  obtain ⟨q', hq', hsame⟩ := hm.find_qp hq
  obtain ⟨-, -, -, hsend, hrecv, -⟩ := QueuePair.fixed_of_cleared hsame
  exact ⟨id, q', hq', by rwa [hsend, hrecv]⟩

/-! ## Flushing and completing -/

/-- A fold moves if each of its steps does. -/
theorem foldl_moves {α : Type} {f : Host → α → Host} {h : Host} (items : List α)
    (hstep : ∀ k a, h.Moves k → k.Moves (f k a)) : ∀ k, h.Moves k → h.Moves (items.foldl f k) := by
  induction items with
  | nil => exact fun k hk => hk
  | cons a rest ih => exact fun k hk => ih (f k a) (hk.trans (hstep k a hk))

/-- A flush moves the host one completion after another, each into a queue that is live. -/
theorem flush_moves (h : Host) (id : NativeId) : h.Moves (h.flush id) := by
  have hflushed : CompletionStatus.flushed.code ≠ CompletionStatus.fatal.code :=
    CompletionStatus.code_ne (by decide)
  unfold flush
  cases hq : h.fabric.qps.find? id with
  | none => exact .refl
  | some q =>
      have hempty : h.Moves (h.updateQp id fun q => { q with sendQueue := [], recvQueue := [] }) :=
        .single (.updateQp h id (fun _ => rfl) fun _ _ => Nat.zero_le _)
      -- the receives are flushed on top of what flushing the sends came to
      refine foldl_moves _ (fun k r hk => ?_) _ (foldl_moves _ (fun k s hk => ?_) _ hempty)
      · have hcq := hk.completesInto ⟨id, q, hq, .inr rfl⟩
        have hnote : Motion k (k.note (.recvFlushed id r)) := .note k trivial
        exact .tail (.single hnote) (.complete _ false hcq hflushed)
      · have hcq := hk.completesInto ⟨id, q, hq, .inl rfl⟩
        have hnote : Motion k (k.note (.sendRetired id s.request .flushed)) :=
          .note k (by simp [Event.Plain])
        exact .tail (.single hnote) (.complete _ false hcq hflushed)

theorem enterError_moves (h : Host) (id : NativeId) : h.Moves (h.enterError id) := by
  have hstate (k : Host) : k.Motion (k.updateQp id fun q => { q with state := .error }) :=
    .updateQp k id (fun _ => rfl) fun _ _ => Nat.le_refl _
  unfold enterError
  cases hq : h.fabric.qps.find? id with
  | none => exact .refl
  | some q =>
      -- a queue pair that is in error already is not written down again
      have hlogged : h.Moves (if q.state = .error then h else h.note (.enteredError q.number)) := by
        split
        · exact .refl
        · exact .single (.note h trivial)
      exact (hlogged.tail (hstate _)).trans (flush_moves _ id)

theorem completeRecv_moves (h : Host) (id : NativeId) {c : Completion} (solicited : Bool)
    (hc : c.status ≠ CompletionStatus.fatal.code) : h.Moves (h.completeRecv id c solicited) := by
  unfold completeRecv
  cases hq : h.fabric.qps.find? id with
  | none => exact .refl
  | some q =>
      have hdone : h.Moves (h.complete q.recvCq { c with qpNumber := q.number } solicited) :=
        .single (.complete h solicited ⟨id, q, hq, .inr rfl⟩ hc)
      by_cases hfailed : c.failed
      · simpa [hfailed] using hdone.trans (enterError_moves _ id)
      · simpa [hfailed] using hdone

theorem takeRecv_moves {h k : Host} {id : NativeId} {q : QueuePair} {r : RecvRequest}
    (ht : h.takeRecv id q = some (r, k)) : h.Moves k := by
  unfold takeRecv at ht
  cases hw : h.fabric.recvRequests (Fabric.recvQueueOf id q) with
  | nil => simp [hw] at ht
  | cons r' rest =>
      simp only [hw, Option.some.injEq, Prod.mk.injEq] at ht
      obtain ⟨-, rfl⟩ := ht
      exact .tail (.single (.setRecv h rest _)) (.note _ trivial)

/-! ## Executing -/

/-- The engine did `moves`, and reports anything but a queue pair that vanished. -/
def Executed (h : Host) (result : SendOutcome × Host) : Prop :=
  h.Moves result.2 ∧ result.1 ≠ .failed .fatal ∧ (result.1 = .blocked → result.2 = h)

theorem lost_ne_fatal {transport : Transport} {length : UInt32} {outcome : SendOutcome}
    (h : outcome ≠ .failed .fatal) : SendOutcome.lost transport length outcome ≠ .failed .fatal := by
  cases transport <;> simp [SendOutcome.lost, h]

theorem lost_eq_blocked {transport : Transport} {length : UInt32} {outcome : SendOutcome}
    (h : SendOutcome.lost transport length outcome = .blocked) :
    transport = .reliable ∧ outcome = .blocked := by
  cases transport <;> simp_all [SendOutcome.lost]

/-- Nothing happened, and the outcome is a failure with a cause. -/
theorem executed_failed (h : Host) {status : CompletionStatus} (hs : status ≠ .fatal) :
    h.Executed (.failed status, h) :=
  ⟨.refl, by simpa using hs, by simp⟩

/-- A delivery that blocks leaves the host as it was, and no peer vanishes in its course. -/
theorem deliver_executed {h : Host} {qp peer : QueuePair} {peerId : NativeId}
    (hp : h.fabric.qps.find? peerId = some peer) (pending : PendingSend) (length : UInt32) :
    h.Executed (h.deliver qp peerId peer pending length) := by
  unfold deliver
  cases ht : h.takeRecv peerId peer with
  | none => exact ⟨.refl, lost_ne_fatal (by simp), fun _ => rfl⟩
  | some taken =>
      obtain ⟨r, k⟩ := taken
      have hk : h.Moves k := takeRecv_moves ht
      -- taking a receive request loses no queue pair, so the peer is found again
      obtain ⟨peer', hp', -⟩ := hk.find_qp hp
      simp only [hp']
      split
      · have hstatus := CompletionStatus.code_ne (s := .localProtection) (t := .fatal) (by decide)
        exact ⟨hk.trans (completeRecv_moves _ _ _ hstatus), lost_ne_fatal (by simp),
          fun hb => absurd (lost_eq_blocked hb).2 (by simp)⟩
      split
      · have hstatus := CompletionStatus.code_ne (s := .localLength) (t := .fatal) (by decide)
        exact ⟨hk.trans (completeRecv_moves _ _ _ hstatus), lost_ne_fatal (by simp),
          fun hb => absurd (lost_eq_blocked hb).2 (by simp)⟩
      · have hstatus := CompletionStatus.code_ne (s := .success) (t := .fatal) (by decide)
        refine ⟨(hk.tail (.store k _)).trans (completeRecv_moves _ _ _ ?_), by simp, by simp⟩
        split <;> exact hstatus

theorem remoteWrite_executed (h : Host) (qp peer : QueuePair) (peerId : NativeId)
    (pending : PendingSend) (length : UInt32) :
    h.Executed (h.remoteWrite qp peerId peer pending length) := by
  simp only [remoteWrite]
  split
  · exact ⟨.refl, lost_ne_fatal (by simp), fun _ => rfl⟩
  split
  · cases ht : h.takeRecv peerId peer with
    | none => exact ⟨.refl, lost_ne_fatal (by simp), fun _ => rfl⟩
    | some taken =>
        have hstatus := CompletionStatus.code_ne (s := .success) (t := .fatal) (by decide)
        exact ⟨((takeRecv_moves ht).tail (.store _ _)).trans (completeRecv_moves _ _ _ hstatus),
          by simp, by simp⟩
  · exact ⟨.single (.store h _), by simp, by simp⟩

theorem remoteRead_executed (h : Host) (peer : QueuePair) (request : SendRequest)
    (length : UInt32) : h.Executed (h.remoteRead peer request length) := by
  unfold remoteRead
  split
  · exact ⟨.single (.store h _), by simp, by simp⟩
  · exact h.executed_failed (by decide)

theorem remoteAtomic_executed (h : Host) (peer : QueuePair) (request : SendRequest) :
    h.Executed (h.remoteAtomic peer request) := by
  unfold remoteAtomic
  split
  · split
    · exact h.executed_failed (by decide)
    split
    · exact h.executed_failed (by decide)
    split
    · exact h.executed_failed (by decide)
    · exact ⟨.single (.store h _), by simp, by simp⟩
  · exact h.executed_failed (by decide)

/-- The peer of a queue pair is on the fabric, accepts from it and is found by its number. -/
theorem peerOf_eq_some {f : Fabric} {qp peer : QueuePair} {peerId : NativeId}
    (hp : peerOf? f qp = some (peerId, peer)) :
    ∃ number, qp.destination = some number ∧ f.qpNumbers.find? number = some peerId ∧
      f.qps.find? peerId = some peer ∧ accepts peer qp := by
  simp only [peerOf?, Option.bind_eq_bind, Option.bind_eq_some_iff] at hp
  obtain ⟨number, hnumber, id, hid, q, hq, hp⟩ := hp
  split at hp
  · simp only [Option.some.injEq, Prod.mk.injEq] at hp
    obtain ⟨rfl, rfl⟩ := hp
    exact ⟨number, hnumber, hid, hq, ‹_›⟩
  · simp at hp

theorem executeFor_executed (h : Host) (qp : QueuePair) (pending : PendingSend) :
    h.Executed (h.executeFor qp pending) := by
  simp only [executeFor]
  split
  · exact h.executed_failed (by decide)
  split
  · exact h.executed_failed (by decide)
  split
  · exact h.executed_failed (by decide)
  cases hp : peerOf? h.fabric qp with
  | none => exact ⟨.refl, lost_ne_fatal (by simp), fun _ => rfl⟩
  | some found =>
      obtain ⟨peerId, peer⟩ := found
      obtain ⟨-, -, -, hpeer, -⟩ := peerOf_eq_some hp
      cases pending.request.opcode with
      | send | sendWithImm => exact deliver_executed hpeer pending _
      | write | writeWithImm => exact h.remoteWrite_executed qp peer peerId pending _
      | read => exact h.remoteRead_executed peer pending.request _
      | compareSwap | fetchAdd => exact h.remoteAtomic_executed peer pending.request

theorem execute_executed {h : Host} {id : NativeId} {q : QueuePair}
    (hq : h.fabric.qps.find? id = some q) (pending : PendingSend) :
    h.Executed (h.execute id pending) := by
  simpa only [execute, hq] using h.executeFor_executed q pending

end Host

end Rdma
