import Rdma.Proofs.Engine.Execution

/-!
# Requests that were done

The journal says of each send request that leaves its queue what it retired with. Those that were done
are `Host.sendsDone`, in the order in which the engine executed them: only a step that consumed a
request adds to them, and adds that request if it was done.

* `executeFor_silent` — executing a request says of none that it was done;
* `Consumption.sendsDone` — what a step says.
-/

namespace Rdma

open Fabric (QueuePair PendingSend)

/-- The send request that the event says was done, with its queue pair. -/
def Event.sendDone? : Event → Option (NativeId × SendRequest)
  | .sendRetired id request .success => some (id, request)
  | _ => none

/-- A request that was done, with its queue pair. -/
def SendOutcome.retired? (id : NativeId) (request : SendRequest) :
    SendOutcome → Option (NativeId × SendRequest)
  | .done _ => some (id, request)
  | _ => none

namespace Host

/-- The send requests that the journal says were done, oldest first. -/
def sendsDone (h : Host) : List (NativeId × SendRequest) :=
  h.journal.toList.filterMap Event.sendDone?

variable {h g k : Host} {id : NativeId} {q peer : QueuePair} {pending : PendingSend}

/-- Whether a request was done is one of the things that are said of requests. -/
theorem sendsDone_eq (h : Host) : h.sendsDone = h.entries.filterMap Event.sendDone? := by
  rw [sendsDone, entries, List.filterMap_filterMap]
  refine List.filterMap_congr fun e _ => ?_
  cases e <;> rfl

theorem sendsDone_append {es : List Event} (hentries : k.entries = h.entries ++ es) :
    k.sendsDone = h.sendsDone ++ es.filterMap Event.sendDone? := by
  rw [sendsDone_eq, sendsDone_eq, hentries, List.filterMap_append]

theorem sendsDone_of_entries (hentries : k.entries = h.entries) : k.sendsDone = h.sendsDone := by
  rw [sendsDone_eq, sendsDone_eq, hentries]

theorem note_sendsDone (h : Host) (e : Event) :
    (h.note e).sendsDone = h.sendsDone ++ (Event.sendDone? e).toList := by
  rw [sendsDone, note_journal, Journal.toList_add, List.filterMap_append]
  cases he : Event.sendDone? e <;> simp [sendsDone, he]

theorem note_sendsDone_of_none (h : Host) {e : Event} (he : Event.sendDone? e = none) :
    (h.note e).sendsDone = h.sendsDone := by
  rw [note_sendsDone, he]
  exact List.append_nil _

theorem complete_sendsDone (h : Host) (cq : NativeId) (c : Completion) (solicited : Bool) :
    (h.complete cq c solicited).sendsDone = h.sendsDone := by
  rw [sendsDone_append (h.complete_entries cq c solicited)]
  exact List.append_nil _

/-! ## Failing and receiving -/

theorem foldl_sendsDone {α : Type} (step : Host → α → Host)
    (hstep : ∀ k a, (step k a).sendsDone = k.sendsDone) (items : List α) (h : Host) :
    (items.foldl step h).sendsDone = h.sendsDone := by
  induction items generalizing h with
  | nil => rfl
  | cons a rest ih => exact (ih _).trans (hstep h a)

/-- Requests that are flushed are not done. -/
theorem flush_sendsDone (h : Host) (id : NativeId) : (h.flush id).sendsDone = h.sendsDone := by
  unfold flush
  split
  · rfl
  · refine (foldl_sendsDone _ (fun k r => ?_) _ _).trans (foldl_sendsDone _ (fun k s => ?_) _ _)
    · rw [complete_sendsDone, note_sendsDone_of_none _ rfl]
    · rw [complete_sendsDone, note_sendsDone_of_none _ rfl]

theorem enterError_sendsDone (h : Host) (id : NativeId) :
    (h.enterError id).sendsDone = h.sendsDone := by
  unfold enterError
  split
  · rfl
  · refine (flush_sendsDone _ _).trans ?_
    show (if _ then h else h.note _).sendsDone = h.sendsDone
    split
    · rfl
    · exact note_sendsDone_of_none h rfl

theorem completeRecv_sendsDone (h : Host) (id : NativeId) (c : Completion) (solicited : Bool) :
    (h.completeRecv id c solicited).sendsDone = h.sendsDone := by
  unfold completeRecv
  split
  · rfl
  · simp only
    split
    · rw [enterError_sendsDone, complete_sendsDone]
    · exact complete_sendsDone _ _ _ _

theorem takeRecv_sendsDone {r : RecvRequest} (ht : h.takeRecv id q = some (r, k)) :
    k.sendsDone = h.sendsDone := by
  obtain ⟨rest, -, rfl⟩ := takeRecv_eq_some ht
  exact note_sendsDone_of_none _ rfl

/-! ## Executing -/

/-- Nothing was written down of requests that are done, and what failed has a cause. -/
def Silent (h : Host) (result : SendOutcome × Host) : Prop :=
  result.2.sendsDone = h.sendsDone ∧ result.1 ≠ .failed .success

theorem lost_ne_success {transport : Transport} {length : UInt32} {outcome : SendOutcome}
    (hne : outcome ≠ .failed .success) :
    SendOutcome.lost transport length outcome ≠ .failed .success := by
  cases transport with
  | reliable => exact hne
  | unreliable => exact nofun

theorem silent_failed (h : Host) {status : CompletionStatus} (hstatus : status ≠ .success) :
    h.Silent (.failed status, h) :=
  ⟨rfl, by simpa using hstatus⟩

/-- What is done with memory is not written down. -/
theorem silent_done (h : Host) (n : UInt32) (m : Memory) :
    h.Silent (.done n, { h with memory := m }) :=
  ⟨rfl, nofun⟩

theorem deliver_silent (h : Host) (q : QueuePair) (peerId : NativeId) (peer : QueuePair)
    (pending : PendingSend) (length : UInt32) :
    h.Silent (h.deliver q peerId peer pending length) := by
  unfold deliver
  split
  · exact ⟨rfl, lost_ne_success nofun⟩
  next r k ht =>
    have htaken := takeRecv_sendsDone ht
    split
    · exact ⟨htaken, by simp⟩
    split
    · exact ⟨(completeRecv_sendsDone _ _ _ _).trans htaken, lost_ne_success (by simp)⟩
    split
    · exact ⟨(completeRecv_sendsDone _ _ _ _).trans htaken, lost_ne_success (by simp)⟩
    · exact ⟨(completeRecv_sendsDone _ _ _ _).trans htaken, nofun⟩

theorem remoteWrite_silent (h : Host) (q : QueuePair) (peerId : NativeId) (peer : QueuePair)
    (pending : PendingSend) (length : UInt32) :
    h.Silent (h.remoteWrite q peerId peer pending length) := by
  unfold remoteWrite
  simp only
  split
  · exact ⟨rfl, lost_ne_success (by simp)⟩
  split
  · split
    · exact ⟨rfl, lost_ne_success nofun⟩
    next r k ht =>
      have htaken := takeRecv_sendsDone ht
      exact ⟨(completeRecv_sendsDone _ _ _ _).trans htaken, nofun⟩
  · exact h.silent_done _ _

theorem remoteRead_silent (h : Host) (peer : QueuePair) (request : SendRequest) (length : UInt32) :
    h.Silent (h.remoteRead peer request length) := by
  unfold remoteRead
  split
  · exact h.silent_done _ _
  · exact h.silent_failed nofun

theorem remoteAtomic_silent (h : Host) (peer : QueuePair) (request : SendRequest) :
    h.Silent (h.remoteAtomic peer request) := by
  unfold remoteAtomic
  split
  · split
    · exact h.silent_failed nofun
    split
    · exact h.silent_failed nofun
    split
    · exact h.silent_failed nofun
    · exact h.silent_done _ _
  · exact h.silent_failed nofun

theorem executeFor_silent (h : Host) (q : QueuePair) (pending : PendingSend) :
    h.Silent (h.executeFor q pending) := by
  unfold executeFor
  simp only
  split
  · exact h.silent_failed nofun
  split
  · exact h.silent_failed nofun
  split
  · exact h.silent_failed nofun
  split
  · exact ⟨rfl, lost_ne_success (by simp)⟩
  split
  · exact h.deliver_silent q _ _ pending _
  · exact h.deliver_silent q _ _ pending _
  · exact h.remoteWrite_silent q _ _ pending _
  · exact h.remoteWrite_silent q _ _ pending _
  · exact h.remoteRead_silent _ _ _
  · exact h.remoteAtomic_silent _ _
  · exact h.remoteAtomic_silent _ _

/-! ## Stepping -/

/-- Concluding a request adds it to those that are done if it succeeded, and no other. -/
theorem conclude_sendsDone (h : Host) (id : NativeId) (q : QueuePair) (pending : PendingSend)
    {outcome : SendOutcome} (hcause : outcome ≠ .failed .success) :
    (h.conclude id q pending outcome).2.sendsDone =
      h.sendsDone ++ (outcome.retired? id pending.request).toList := by
  cases outcome with
  | blocked => exact (List.append_nil _).symm
  | done n =>
      have hnoted := note_sendsDone h (.sendRetired id pending.request .success)
      simp only [conclude]
      split
      · rw [complete_sendsDone, hnoted]
        rfl
      · exact hnoted
  | failed status =>
      have hnone : Event.sendDone? (.sendRetired id pending.request status) = none := by
        cases status <;> first | rfl | exact absurd rfl hcause
      simp only [conclude]
      -- what the failure flushes was not done either
      rw [enterError_sendsDone, complete_sendsDone, note_sendsDone_of_none _ hnone,
        note_sendsDone_of_none _ rfl]
      exact (List.append_nil _).symm

/-- A step that consumes a request says just of this one that it was done, if it was. -/
theorem Consumption.sendsDone {rest : List PendingSend} {outcome : SendOutcome}
    (hc : g.Consumption id q pending rest outcome k) (hstep : g.step id = (true, k)) :
    k.sendsDone = g.sendsDone ++ (outcome.retired? id pending.request).toList := by
  have hpopped := popped_find hc.found rest
  have hexecute : (g.popped id rest).execute id pending =
      (g.popped id rest).executeFor { q with sendQueue := rest } pending := by
    simp only [execute, hpopped]
  obtain ⟨hmoves, -, -⟩ := execute_executed hpopped pending
  obtain ⟨q', hq', -⟩ := hmoves.find_qp hpopped
  obtain ⟨hsilent, hcause⟩ := executeFor_silent (g.popped id rest) { q with sendQueue := rest } pending
  have houtcome := hc.outcome_eq
  have heq := step_eq hc.found hc.ready hc.head
  simp only [hq', hstep, houtcome] at heq
  rw [← hexecute] at hsilent hcause
  rw [houtcome] at hcause
  have hconcluded := conclude_sendsDone ((g.popped id rest).execute id pending).2 id q' pending hcause
  rw [← heq, hsilent] at hconcluded
  exact hconcluded

end Host

end Rdma
