import Rdma.Proofs.Transfer.Sending

/-!
# The order of send completions

The requests of a queue pair are retired in the order they were accepted, unless the queue pair is
its own peer and fails at a receive request that it used up itself. Such a failure flushes what waits
while the request that caused it is still in flight, and that request is retired last.

* `SendStep.ordered` — what one step of the send side does to the order;
* `Host.Leads.sends_ordered` — requests are retired and reported in order;
* `Host.overtaken_loopback` — the exception.
-/

namespace Rdma

open Fabric (QueuePair)

variable {id : NativeId} {made : QueuePair} {side side' : SendSide} {es : List Event}

/-- A queue pair whose request is in flight has not failed meanwhile. -/
def SendSide.Steady (side : SendSide) : Prop := side.attempt.isSome → side.state ≠ .error

/-- No request of the queue pair used up a receive request of its own that failed. -/
def NoOwnFailure (number : UInt32) (es : List Event) : Prop :=
  ∀ c ∈ es.filterMap (Event.answered? number), c.qpNumber = number →
    c.status = CompletionStatus.success.code

/-- What is not settled before a step, and what is accepted by it, is what it retires and what is not
settled afterwards. -/
theorem SendStep.ordered (h : SendStep id made side es side') (hclear : .queuesCleared id ∉ es)
    (hown : NoOwnFailure made.number es) (hsteady : side.Steady) :
    side.unsettled ++ es.filterMap (Event.sendAccepted? id) =
        (es.filterMap (Event.sendRetired? id)).map (·.1) ++ side'.unsettled ∧
      side'.Steady := by
  cases h with
  | idle hwaiting hattempt hstate =>
      constructor
      · rw [SendSide.unsettled, SendSide.unsettled, hwaiting, hattempt]
        exact List.append_nil _
      · intro hsome
        rw [hattempt] at hsome
        rw [hstate hsome]
        exact hsteady hsome
  | accept requests =>
      refine ⟨?_, nofun⟩
      rw [filterMap_accepted, filterMap_map_none fun _ => rfl]
      rfl
  | clear => exact absurd List.mem_cons_self hclear
  | @flush request waiting attempt =>
      cases attempt with
      | some attempt => exact absurd rfl (hsteady rfl)
      | none =>
          refine ⟨?_, nofun⟩
          rw [List.filterMap_cons_some (sendRetired?_self ..)]
          exact List.append_nil _
  | launch => exact ⟨List.append_nil _, fun _ => nofun⟩
  | @answer state state' waiting request peer r status c cq hreceipt hstate =>
      refine ⟨List.append_nil _, fun _ => ?_⟩
      rcases hstate with hsame | ⟨hs, hnumber⟩
      · rw [hsame]
        exact hsteady rfl
      · -- the queue pair is its own peer, and failed
        have hmem : c ∈ [Event.handed cq c].filterMap (Event.answered? made.number) :=
          List.mem_filterMap.2 ⟨_, List.mem_cons_self, hreceipt.answered cq⟩
        have hsuccess := hown c hmem (hreceipt.number.trans hnumber)
        rw [hreceipt.code] at hsuccess
        exact absurd hsuccess (CompletionStatus.code_ne hs)
  | @retire state waiting attempt status length =>
      refine ⟨?_, nofun⟩
      rw [List.filterMap_cons_none rfl, List.filterMap_cons_some (sendRetired?_self ..)]
      split <;> exact List.append_nil _

theorem NoOwnFailure.append {number : UInt32} {es' : List Event}
    (h : NoOwnFailure number (es ++ es')) : NoOwnFailure number es ∧ NoOwnFailure number es' := by
  rw [NoOwnFailure, List.filterMap_append] at h
  exact ⟨fun c hc => h c (List.mem_append_left _ hc), fun c hc => h c (List.mem_append_right _ hc)⟩

theorem Trail.ordered (h : Trail (SendStep id made) side es side')
    (hclear : .queuesCleared id ∉ es) (hown : NoOwnFailure made.number es)
    (hsteady : side.Steady) :
    side.unsettled ++ es.filterMap (Event.sendAccepted? id) =
        (es.filterMap (Event.sendRetired? id)).map (·.1) ++ side'.unsettled ∧
      side'.Steady := by
  induction h with
  | refl => exact ⟨List.append_nil _, hsteady⟩
  | tail _ hlast ih =>
      obtain ⟨hfirst, hrest⟩ := not_or.1 fun hmem => hclear (List.mem_append.2 hmem)
      obtain ⟨hown, hown'⟩ := hown.append
      obtain ⟨heq, hsteady⟩ := ih hfirst hown
      obtain ⟨heq', hsteady'⟩ := hlast.ordered hrest hown' hsteady
      refine ⟨?_, hsteady'⟩
      rw [List.filterMap_append, List.filterMap_append, List.map_append, ← List.append_assoc, heq,
        List.append_assoc, heq', List.append_assoc]

namespace Host

variable {h k : Host} {devices : List DeviceConfig} {q q' : QueuePair}

/-- Unless a queue pair is cleared, or fails at a receive request that it used up itself, its send
requests are retired in the order they were accepted, and the completions are the reports on them in
that order. -/
theorem Leads.sends_ordered (hk : h.Leads k) (hr : Reachable devices h)
    (hq : h.fabric.qps.find? id = some q) (hq' : k.fabric.qps.find? id = some q')
    (hclear : .queuesCleared id ∉ k.eventsSince h)
    (hown : NoOwnFailure q.number (k.eventsSince h)) :
    h.sendRequests id ++ (k.eventsSince h).filterMap (Event.sendAccepted? id) =
        ((k.eventsSince h).filterMap (Event.sendRetired? id)).map (·.1) ++ k.sendRequests id ∧
      (k.eventsSince h).filterMap (Event.sendReported? q.number) =
        ((k.eventsSince h).filterMap (Event.sendRetired? id)).filterMap q.report? := by
  obtain ⟨-, es, htrail, hread, hcleared⟩ := hk.sends hr hq hq'
  rw [NoOwnFailure, hread (readsSends_answered id q.number)] at hown
  rw [hread (readsSends_accepted id q.number), hread (readsSends_retired id q.number),
    hread (readsSends_reported id q.number)]
  exact ⟨(htrail.ordered (fun hmem => hclear (hcleared.1 hmem)) hown nofun).1, htrail.reported⟩

/-- A queue pair that is its own peer receives its first message, and the second waits. -/
theorem loopback_ordered :
    let h := (({} : Host).withDevices [{}]).performAll loopback
    let k := h.performAll [.postRecv 5 [{}], .postSend 5 [{ wrId := 1 }, { wrId := 2 }]]
    ((k.eventsSince h).filterMap (Event.sendReported? 0x100)).map (·.wrId) = [1] ∧
      h.sendRequests 5 ++ (k.eventsSince h).filterMap (Event.sendAccepted? 5) =
        ((k.eventsSince h).filterMap (Event.sendRetired? 5)).map (·.1) ++ k.sendRequests 5 := by
  intro h k
  obtain ⟨q, hq, hnumber⟩ : ∃ q, h.fabric.qps.find? 5 = some q ∧ q.number = 0x100 :=
    Option.map_eq_some_iff.1 (by decide +kernel)
  obtain ⟨q', hq'⟩ : ∃ q', k.fabric.qps.find? 5 = some q' :=
    Option.isSome_iff_exists.1 (by decide +kernel)
  have hclear : .queuesCleared 5 ∉ k.eventsSince h := by decide +kernel
  have hown : NoOwnFailure q.number (k.eventsSince h) := by
    rw [hnumber, NoOwnFailure]
    decide +kernel
  have hk : h.Leads k := leads_performAll h _
  have hr : Reachable [{}] h := (Reachable.fresh {}).performAll _
  exact ⟨by decide +kernel, (hk.sends_ordered hr hq hq' hclear hown).1⟩

/-- The same queue pair cannot use the receive request that its first message uses up. It fails, and
the second message is flushed and reported before the first. -/
theorem overtaken_loopback :
    let h := (({} : Host).withDevices [{}]).performAll (loopback ++
      [.postRecv 5 [{ sges := [{ addr := 0x1000, length := 8, lkey := 1 }] }],
        .postSend 5 [{ wrId := 1 }, { wrId := 2 }]])
    Reachable [{}] h ∧ .queuesCleared 5 ∉ h.journal.toList ∧
      (h.journal.toList.filterMap (Event.sendAccepted? 5)).map (·.wrId) = [1, 2] ∧
      h.journal.toList.filterMap (Event.sendReported? 0x100) =
        [{ cq := 4, wrId := 2, opcode := CompletionOpcode.send.code,
           status := CompletionStatus.flushed.code },
          { cq := 4, wrId := 1, opcode := CompletionOpcode.send.code,
            status := CompletionStatus.remoteOperation.code }] :=
  ⟨(Reachable.fresh {}).performAll _, by decide, by decide, by decide⟩

end Host

end Rdma
