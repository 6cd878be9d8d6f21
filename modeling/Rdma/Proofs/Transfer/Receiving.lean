import Rdma.Proofs.Transfer.Sending

/-!
# Receive queues

Receive requests enter a queue at its end, and leave it at its head when a queue pair takes them, or
flushes them from its own queue. Whoever uses one is told so by one completion.

* `Story.conserves` — what was in a queue and what entered it is what left it and what is in it;
* `Trail.recvReported` — the completions of receive requests are those of the requests that a queue
  pair used;
* `Host.reachable_conserves` — both along every run.
-/

namespace Rdma

open Fabric (QueuePair PendingSend)
open Host (sendCompletion)

/-! ## What events tell of receiving -/

namespace Event

/-- A request that the queue accepted. -/
def recvAccepted? (queue : RecvQueue) : Event → Option RecvRequest
  | .recvAccepted queue' request => if queue' = queue then some request else none
  | _ => none

/-- A request that left the queue, to be used or unused. -/
def recvLeft? (queue : RecvQueue) : Event → Option RecvRequest
  | .recvTaken queue' _ request => if queue' = queue then some request else none
  | .recvFlushed qp request => if .ofQp qp = queue then some request else none
  | _ => none

/-- A request that the queue pair took from whichever queue, or flushed. -/
def recvConsumed? (id : NativeId) : Event → Option RecvRequest
  | .recvTaken _ qp request | .recvFlushed qp request => if qp = id then some request else none
  | _ => none

/-- A completion of a receive request under the number of a queue pair. -/
def recvReported? (number : UInt32) : Event → Option Report
  | .completed cq c _ _ =>
    if c.qpNumber = number && c.ofReceive then
      some { cq, wrId := c.wrId, opcode := c.opcode, status := c.status }
    else none
  | _ => none

end Event

theorem filterMap_recvAccepted (queue : RecvQueue) (requests : List RecvRequest) :
    (requests.map (Event.recvAccepted queue)).filterMap (Event.recvAccepted? queue) = requests :=
  filterMap_map_some (fun _ => if_pos rfl) requests

section

variable {f g : Fabric} {s t : Scene} {es : List Event} {queue queue' : RecvQueue} {id : NativeId}

/-! ## Single queues -/

theorem Fabric.recvRequests_congr (hqps : g.qps = f.qps) (hsrqs : g.srqs = f.srqs)
    (queue : RecvQueue) : g.recvRequests queue = f.recvRequests queue := by
  cases queue with
  | ofQp id => rw [recvRequests, recvRequests, hqps]
  | shared id => rw [recvRequests, recvRequests, hsrqs]

/-- A change of a queue pair that keeps its own queue keeps all queues. -/
theorem Fabric.recvRequests_updateQp (f : Fabric) (id : NativeId) (queue : RecvQueue)
    (change : QueuePair → QueuePair) (hchange : ∀ q, (change q).recvQueue = q.recvQueue) :
    (f.updateQp id change).recvRequests queue = f.recvRequests queue := by
  cases queue with
  | shared => rfl
  | ofQp id' =>
      simp only [recvRequests, updateQp, Table.find?_modify]
      split
      case isTrue hid =>
        subst hid
        rw [Option.map_map]
        congr 2
        exact funext hchange
      case isFalse => rfl

theorem Fabric.recvRequests_set_self (hholds : f.Holds queue) (requests : List RecvRequest) :
    (f.setRecvRequests requests queue).recvRequests queue = requests := by
  cases queue with
  | ofQp id =>
      obtain ⟨q, hq⟩ := hholds
      simp only [setRecvRequests, recvRequests, Table.find?_modify, if_pos, hq]
      rfl
  | shared id =>
      obtain ⟨s, hs⟩ := hholds
      simp only [setRecvRequests, recvRequests, Table.find?_modify, if_pos, hs]
      rfl

theorem Fabric.recvRequests_set_of_ne (hne : queue ≠ queue') (requests : List RecvRequest) :
    (f.setRecvRequests requests queue').recvRequests queue = f.recvRequests queue := by
  cases queue <;> cases queue' <;>
    simp only [setRecvRequests, recvRequests, Table.find?_modify] <;> rw [if_neg] <;>
    exact fun hid => hne (congrArg _ hid)

/-- Only a queue that is there has requests. -/
theorem Fabric.holds_of_requests {r : RecvRequest} {rest : List RecvRequest}
    (hqueue : f.recvRequests queue = r :: rest) : f.Holds queue := by
  cases queue with
  | ofQp id =>
      cases hq : f.qps.find? id with
      | some q => exact ⟨q, hq⟩
      | none => rw [recvRequests, hq] at hqueue; cases hqueue
  | shared id =>
      cases hs : f.srqs.find? id with
      | some s => exact ⟨s, hs⟩
      | none => rw [recvRequests, hs] at hqueue; cases hqueue

theorem Fabric.requests_of_not_holds (hnone : ¬ f.Holds queue) : f.recvRequests queue = [] := by
  cases hqueue : f.recvRequests queue with
  | nil => rfl
  | cons r rest => exact absurd (holds_of_requests hqueue) hnone

/-- A queue pair that fails by a receipt is not flushed yet, so the queues are left as taking the
request leaves them. -/
theorem Fabric.recvRequests_afterReceipt (rest : List RecvRequest) (peerId : NativeId)
    (status : CompletionStatus) :
    (f.afterReceipt queue' rest peerId status).recvRequests queue =
      (f.setRecvRequests rest queue').recvRequests queue := by
  unfold afterReceipt
  split
  · rfl
  · exact recvRequests_updateQp _ peerId queue (fun q => { q with state := .error }) fun _ => rfl

/-! ## Acts and changes -/

/-- What an act takes from a queue is its head. -/
theorem Act.conserves (h : Act s es t) (queue : RecvQueue) :
    s.fabric.recvRequests queue =
      es.filterMap (Event.recvLeft? queue) ++ t.fabric.recvRequests queue := by
  -- the queue that is taken from loses its head, and any other is as it was
  have htaken {f : Fabric} {queue' : RecvQueue} {r : RecvRequest} {rest : List RecvRequest}
      (hqueue : f.recvRequests queue' = r :: rest) :
      f.recvRequests queue =
        (if queue' = queue then [r] else []) ++
          (f.setRecvRequests rest queue').recvRequests queue := by
    by_cases hsame : queue' = queue
    · subst hsame
      rw [Fabric.recvRequests_set_self (Fabric.holds_of_requests hqueue), hqueue, if_pos rfl]
      rfl
    · rw [Fabric.recvRequests_set_of_ne (Ne.symm hsame), if_neg hsame]
      rfl
  cases h with
  | fail | flushSend | launch =>
      symm
      apply Fabric.recvRequests_updateQp
      exact fun _ => rfl
  | @flushRecv f flight id q r rest hq _ hrecv =>
      have hqueue : f.recvRequests (.ofQp id) = r :: rest := by
        rw [Fabric.recvRequests, hq]
        exact hrecv
      refine (htaken hqueue).trans (congrArg (· ++ _) ?_)
      by_cases hsame : RecvQueue.ofQp id = queue <;> simp [Event.recvLeft?, hsame]
  | receive _ _ _ _ hqueue =>
      refine (htaken hqueue).trans ?_
      rw [Fabric.recvRequests_afterReceipt]
      refine congrArg (· ++ _) ?_
      split
      case isTrue hsame => simp [Event.recvLeft?, hsame]
      case isFalse hsame => simp [Event.recvLeft?, hsame]
  | retire =>
      rw [List.filterMap_cons_none rfl]
      split <;> rfl

theorem Fabric.recvRequests_ofQp (hqps : g.qps.find? id = f.qps.find? id) :
    g.recvRequests (.ofQp id) = f.recvRequests (.ofQp id) := by
  rw [recvRequests, recvRequests, hqps]

theorem Fabric.recvRequests_shared (hsrqs : g.srqs.find? id = f.srqs.find? id) :
    g.recvRequests (.shared id) = f.recvRequests (.shared id) := by
  rw [recvRequests, recvRequests, hsrqs]

/-- The identity that a queue is of. -/
def RecvQueue.owner : RecvQueue → NativeId
  | .ofQp id | .shared id => id

/-- The queue is there or yet to come. -/
def Fabric.Awaits (f : Fabric) (queue : RecvQueue) : Prop := f.Holds queue ∨ f.nextId ≤ queue.owner

/-- The queue is not one whose requests are dropped. -/
def Kept (queue : RecvQueue) (es : List Event) : Prop :=
  ∀ id, queue = .ofQp id → .queuesCleared id ∉ es

theorem Fabric.Fit.owner_lt (hf : f.Fit) (hholds : f.Holds queue) : queue.owner < f.nextId := by
  cases queue with
  | ofQp id =>
      obtain ⟨q, hq⟩ := hholds
      exact hf.qpBelow hq
  | shared id =>
      obtain ⟨s, hs⟩ := hholds
      exact hf.srqBelow hs

/-- A change adds what it accepts to the end of a queue. -/
theorem Change.conserves (h : Change f es g) (hf : f.Fit) (hawaits : g.Awaits queue)
    (hkept : Kept queue es) :
    f.recvRequests queue ++ es.filterMap (Event.recvAccepted? queue) = g.recvRequests queue := by
  have hsame (hes : es.filterMap (Event.recvAccepted? queue) = [])
      (hqueue : g.recvRequests queue = f.recvRequests queue) :
      f.recvRequests queue ++ es.filterMap (Event.recvAccepted? queue) = g.recvRequests queue := by
    rw [hes, hqueue, List.append_nil]
  -- a queue that was not there has nothing in it, be it new now or gone
  have hnew : f.recvRequests queue = [] ∨ queue.owner < f.nextId := by
    by_cases hholds : f.Holds queue
    · exact .inr (hf.owner_lt hholds)
    · exact .inl (Fabric.requests_of_not_holds hholds)
  cases h with
  | aside hqps hsrqs => exact hsame rfl (Fabric.recvRequests_congr hqps hsrqs queue)
  | @addQp _ q hcleared _ hqps hsrqs =>
      refine hsame rfl ?_
      cases queue with
      | shared id => exact Fabric.recvRequests_shared (congrArg (·.find? id) hsrqs)
      | ofQp id =>
          by_cases hid : id = f.nextId
          · rcases hnew with hempty | hlt
            · rw [hempty, Fabric.recvRequests, hqps, Table.find?_insert, if_pos hid, ← hcleared]
              rfl
            · exact absurd hid (Nat.ne_of_lt hlt)
          · apply Fabric.recvRequests_ofQp
            rw [hqps, Table.find?_insert, if_neg hid]
  | @addSrq _ s hempty hqps hsrqs =>
      refine hsame rfl ?_
      cases queue with
      | ofQp id => exact Fabric.recvRequests_ofQp (congrArg (·.find? id) hqps)
      | shared id =>
          by_cases hid : id = f.nextId
          · rcases hnew with hnone | hlt
            · rw [hnone, Fabric.recvRequests, hsrqs, Table.find?_insert, if_pos hid]
              exact hempty
            · exact absurd hid (Nat.ne_of_lt hlt)
          · apply Fabric.recvRequests_shared
            rw [hsrqs, Table.find?_insert, if_neg hid]
  | @dropQp _ dropped q hq hqps hsrqs =>
      refine hsame rfl ?_
      cases queue with
      | shared id => exact Fabric.recvRequests_shared (congrArg (·.find? id) hsrqs)
      | ofQp id =>
          -- a queue that goes with its queue pair is not kept
          have hid : id ≠ dropped := by
            rintro rfl
            exact hkept id rfl List.mem_cons_self
          apply Fabric.recvRequests_ofQp
          rw [hqps, Table.find?_erase, if_neg hid]
  | dropSrq dropped hqps hsrqs _ hnext =>
      refine hsame rfl ?_
      cases queue with
      | ofQp id => exact Fabric.recvRequests_ofQp (congrArg (·.find? id) hqps)
      | shared id =>
          by_cases hid : id = dropped
          · -- the queue is gone, so it was never there
            subst hid
            have hgone : ¬ g.Holds (.shared id) := by
              rintro ⟨s, hs⟩
              rw [hsrqs, Table.find?_erase, if_pos rfl] at hs
              cases hs
            rcases hawaits with hholds | hle
            · exact absurd hholds hgone
            · rw [hnext] at hle
              rcases hnew with hnone | hlt
              · rw [hnone, Fabric.requests_of_not_holds hgone]
              · exact absurd hle (Nat.not_le_of_lt hlt)
          · apply Fabric.recvRequests_shared
            rw [hsrqs, Table.find?_erase, if_neg hid]
  | modify =>
      refine hsame rfl ?_
      apply Fabric.recvRequests_updateQp
      exact fun _ => rfl
  | @clear cleared q hq =>
      refine hsame rfl ?_
      cases queue with
      | shared => rfl
      | ofQp id =>
          have hid : id ≠ cleared := by
            rintro rfl
            exact hkept id rfl List.mem_cons_self
          exact Fabric.recvRequests_ofQp (find?_updateQp_of_ne hid _)
  | postSends =>
      refine hsame (filterMap_map_none (fun _ => rfl) _) ?_
      apply Fabric.recvRequests_updateQp
      exact fun _ => rfl
  | @postRecvs queue' accepted hholds _ =>
      by_cases hqueue : queue' = queue
      · subst hqueue
        rw [Fabric.recvRequests_set_self hholds, filterMap_recvAccepted]
      · exact hsame (filterMap_map_none (fun _ => if_neg hqueue) _)
          (Fabric.recvRequests_set_of_ne (Ne.symm hqueue) _)

/-- A queue that is there after a change was there before, if it is not a new one. -/
theorem Change.holds (h : Change f es g) (hlt : queue.owner < f.nextId) (hholds : g.Holds queue) :
    f.Holds queue := by
  cases queue with
  | ofQp id =>
      obtain ⟨q', hq'⟩ := hholds
      obtain ⟨q, hq, -⟩ := h.earlier hlt hq'
      exact ⟨q, hq⟩
  | shared id =>
      obtain ⟨s, hs⟩ := hholds
      cases h with
      | aside _ hsrqs | addQp _ _ _ hsrqs | dropQp _ _ hsrqs => exact ⟨s, hsrqs ▸ hs⟩
      | addSrq _ _ hsrqs =>
          have hid : id ≠ f.nextId := Nat.ne_of_lt hlt
          rw [hsrqs, Table.find?_insert, if_neg hid] at hs
          exact ⟨s, hs⟩
      | dropSrq _ _ hsrqs =>
          rw [hsrqs] at hs
          obtain ⟨-, hs⟩ := Table.erased hs
          exact ⟨s, hs⟩
      | modify | clear | postSends => exact ⟨s, hs⟩
      | @postRecvs queue' =>
          cases queue' with
          | ofQp => exact ⟨s, hs⟩
          | shared id' =>
              rcases Table.modified hs with ⟨-, s', hs', -⟩ | hs
              · exact ⟨s', hs'⟩
              · exact ⟨s, hs⟩

/-- The engine creates no queues. -/
theorem Fabric.Spends.holds (h : f.Spends g) (hholds : g.Holds queue) : f.Holds queue := by
  cases queue with
  | ofQp id =>
      obtain ⟨q', hq'⟩ := hholds
      obtain ⟨q, hq, -⟩ := h.earlier hq'
      exact ⟨q, hq⟩
  | shared id =>
      obtain ⟨s, hs⟩ := hholds
      have hsome := h.srqs id
      rw [hs, Option.isSome_some] at hsome
      exact Option.isSome_iff_exists.1 hsome.symm

/-! ## Stories -/

/-- The engine accepts no requests: they enter a queue by posts alone. -/
theorem Acts.recvAccepted (h : Acts s es t) (queue : RecvQueue) :
    es.filterMap (Event.recvAccepted? queue) = [] :=
  h.filterMap_eq_nil fun e htold => by cases e <;> first | rfl | cases htold

/-- A queue that is gone does not come back. -/
theorem Turn.awaits (h : Turn s es t) (hawaits : t.fabric.Awaits queue) :
    s.fabric.Awaits queue := by
  rcases hawaits with hholds | hle
  · by_cases hlt : queue.owner < s.fabric.nextId
    · cases h with
      | act hact => exact .inl (hact.spends.holds hholds)
      | change hchange => exact .inl (hchange.holds hlt hholds)
    · exact .inr (Nat.le_of_not_lt hlt)
  · exact .inr (Nat.le_trans h.nextId_le hle)

/-- Acts take from the head of a queue and changes add to its end, never both in one turn. -/
theorem Turn.conserves (h : Turn s es t) (hs : s.fabric.Fit) (hawaits : t.fabric.Awaits queue)
    (hkept : Kept queue es) :
    s.fabric.recvRequests queue ++ es.filterMap (Event.recvAccepted? queue) =
      es.filterMap (Event.recvLeft? queue) ++ t.fabric.recvRequests queue := by
  cases h with
  | act hact =>
      rw [Acts.recvAccepted (.single hact), List.append_nil]
      exact hact.conserves queue
  | change hchange =>
      have hleft : es.filterMap (Event.recvLeft? queue) = [] :=
        hchange.filterMap_eq_nil (fun _ _ => rfl) (fun _ _ => rfl) fun _ => rfl
      rw [hleft]
      exact hchange.conserves hs hawaits hkept

/-- What was in a queue and what it accepted is what left it and what is in it. -/
theorem Story.conserves (h : Story s es t) (hs : s.fabric.Fit) (hawaits : t.fabric.Awaits queue)
    (hkept : Kept queue es) :
    s.fabric.recvRequests queue ++ es.filterMap (Event.recvAccepted? queue) =
      es.filterMap (Event.recvLeft? queue) ++ t.fabric.recvRequests queue := by
  induction h with
  | refl => exact List.append_nil _
  | tail hstory hlast ih =>
      have hfirst := ih (hlast.awaits hawaits) fun id hid hmem =>
        hkept id hid (List.mem_append_left _ hmem)
      have hnext := hlast.conserves (Story.fit hstory hs) hawaits fun id hid hmem =>
        hkept id hid (List.mem_append_right _ hmem)
      rw [List.filterMap_append, List.filterMap_append, ← List.append_assoc, hfirst,
        List.append_assoc, hnext, List.append_assoc]

/-! ## Who uses requests -/

/-- A queue pair takes from the queue it is to take from, and only while it is ready. -/
theorem Act.taker (h : Act s es t) {r : RecvRequest} (hmem : .recvTaken queue id r ∈ es) :
    ∃ q, s.fabric.qps.find? id = some q ∧ (q.state = .rtr ∨ q.state = .rts) ∧
      queue = Fabric.recvQueueOf id q := by
  cases h with
  | fail | launch => cases hmem
  | flushSend | flushRecv => simp at hmem
  | receive _ hp haccepts =>
      rcases List.mem_cons.1 hmem with heq | hmem
      · obtain ⟨rfl, rfl, -⟩ := Event.recvTaken.inj heq
        simp only [Host.accepts, Bool.and_eq_true, Bool.or_eq_true, decide_eq_true_eq] at haccepts
        exact ⟨_, hp, haccepts.1.1, rfl⟩
      · cases List.mem_singleton.1 hmem
  | retire =>
      rcases List.mem_cons.1 hmem with heq | hmem
      · cases heq
      · split at hmem
        · cases List.mem_singleton.1 hmem
        · cases hmem

/-- Whoever took a request during some acts was there before them, and is there afterwards. -/
theorem Acts.taker (h : Acts s es t) {r : RecvRequest} (hmem : .recvTaken queue id r ∈ es) :
    ∃ q q', s.fabric.qps.find? id = some q ∧ q.state ≠ .reset ∧
      t.fabric.qps.find? id = some q' ∧ queue = Fabric.recvQueueOf id q' := by
  have hkept {s t : Scene} (hspends : s.fabric.Spends t.fabric) {q : QueuePair}
      (hq : s.fabric.qps.find? id = some q) (hqueue : queue = Fabric.recvQueueOf id q) :
      ∃ q', t.fabric.qps.find? id = some q' ∧ queue = Fabric.recvQueueOf id q' := by
    obtain ⟨q', hq', hb⟩ := hspends.later hq
    have hsrq : q'.srq = q.srq := congrArg (·.srq) hb.fixed
    refine ⟨q', hq', hqueue.trans ?_⟩
    rw [Fabric.recvQueueOf, Fabric.recvQueueOf, hsrq]
  induction h with
  | refl => cases hmem
  | tail hacts hlast ih =>
      rcases List.mem_append.1 hmem with hmem | hmem
      · obtain ⟨q, q', hq, hstate, hq', hqueue⟩ := ih hmem
        obtain ⟨q'', hq'', hqueue'⟩ := hkept hlast.spends hq' hqueue
        exact ⟨q, q'', hq, hstate, hq'', hqueue'⟩
      · obtain ⟨q', hq', hready, hqueue⟩ := hlast.taker hmem
        obtain ⟨q, hq, hb⟩ := (Acts.spends hacts).earlier hq'
        obtain ⟨q'', hq'', hqueue'⟩ := hkept hlast.spends hq' hqueue
        -- acts lead from reset to the error state at most, where nothing is taken
        refine ⟨q, q'', hq, fun hreset => ?_, hq'', hqueue'⟩
        rcases hb.state with hsame | herror
        · rw [hsame, hreset] at hready
          rcases hready with hready | hready <;> cases hready
        · rw [herror] at hready
          rcases hready with hready | hready <;> cases hready

variable {made : QueuePair}

theorem recvQueueOf_eq_ofQp {id' : NativeId} {q : QueuePair} (hsrq : q.srq = none) :
    Fabric.recvQueueOf id' q = .ofQp id' := by
  rw [Fabric.recvQueueOf, hsrq]

/-- A queue pair with a receive queue of its own uses what leaves that queue, and nothing else. -/
theorem LivedTurn.recvLeft (h : LivedTurn id made s es t) (hsrq : made.srq = none) :
    es.filterMap (Event.recvLeft? (.ofQp id)) = es.filterMap (Event.recvConsumed? id) := by
  obtain ⟨q, hq, rfl⟩ := h.before
  have hown : Fabric.recvQueueOf id q = .ofQp id := recvQueueOf_eq_ofQp hsrq
  apply List.filterMap_congr
  intro e he
  cases e with
  | recvFlushed qp r => simp [Event.recvLeft?, Event.recvConsumed?]
  | recvTaken queue qp r =>
      cases h.turn with
      | change hchange =>
          rcases hchange.tells _ he with ⟨_, _, heq⟩ | ⟨_, _, heq⟩ | ⟨_, heq⟩ <;> cases heq
      | act hact =>
          obtain ⟨q', hq', -, rfl⟩ := hact.taker he
          by_cases hid : qp = id
          · subst hid
            obtain rfl := Option.some.inj (hq.symm.trans hq')
            rw [Event.recvLeft?, if_pos hown, Event.recvConsumed?, if_pos rfl]
          · -- another takes from a queue of its own or from a shared one
            have hother : Fabric.recvQueueOf qp q' ≠ .ofQp id := by
              cases hshared : q'.srq with
              | none => rw [recvQueueOf_eq_ofQp hshared]; exact fun heq => hid (RecvQueue.ofQp.inj heq)
              | some srq => rw [Fabric.recvQueueOf, hshared]; rintro ⟨⟩
            rw [Event.recvLeft?, if_neg hother, Event.recvConsumed?, if_neg hid]
  | _ => rfl

theorem recvReported?_sendCompletion (cq : NativeId) (number number' : UInt32)
    (request : SendRequest) (status : CompletionStatus) (length : UInt32) :
    Event.recvReported? number (.handed cq (sendCompletion number' request status length)) =
      none := by
  rw [Event.recvReported?, sendCompletion_ofReceive, Bool.and_false]
  rfl

/-- A queue pair that uses a request is told so by the act that it uses it by. -/
theorem recvUsed_reported {f : Fabric} {id' : NativeId} {q q' : QueuePair} (hf : f.Fit)
    (hq : f.qps.find? id = some q) (hq' : f.qps.find? id' = some q') {used : Event}
    {r : RecvRequest} {c : Completion}
    (hused : Event.recvConsumed? id used = if id' = id then some r else none)
    (hquiet : Event.recvReported? q.number used = none)
    (hwrId : c.wrId = r.wrId) (hnumber : c.qpNumber = q'.number) (hc : c.ofReceive = true) :
    ([used, .handed q'.recvCq c].filterMap (Event.recvReported? q.number)).map
        (fun report => (report.cq, report.wrId)) =
      ([used, .handed q'.recvCq c].filterMap (Event.recvConsumed? id)).map
        fun request => (q.recvCq, request.wrId) := by
  rw [List.filterMap_cons_none hquiet]
  by_cases hid : id' = id
  · subst hid
    obtain rfl := Option.some.inj (hq.symm.trans hq')
    have hread : Event.recvReported? q.number (.handed q.recvCq c) =
        some { cq := q.recvCq, wrId := c.wrId, opcode := c.opcode, status := c.status } := by
      rw [Event.recvReported?, hnumber, hc]
      simp
    rw [if_pos rfl] at hused
    rw [List.filterMap_cons_some hread, List.filterMap_cons_some hused, List.map_cons, hwrId]
    rfl
  · -- completions go by number, and no two queue pairs have the same
    have hother : q'.number ≠ q.number := fun hsame => hid (hf.number_inj hq hq' hsame)
    have hread : Event.recvReported? q.number (.handed q'.recvCq c) = none := by
      rw [Event.recvReported?, hnumber]
      simp [hother]
    rw [if_neg hid] at hused
    rw [List.filterMap_cons_none hread, List.filterMap_cons_none hused]
    rfl

/-- What a queue pair uses up or flushes is reported by the same act, and no act reports anything
else of receive requests. -/
theorem Act.recvReported (h : Act s es t) (hs : s.fabric.Fit) {q : QueuePair}
    (hq : s.fabric.qps.find? id = some q) :
    (es.filterMap (Event.recvReported? q.number)).map (fun report => (report.cq, report.wrId)) =
      (es.filterMap (Event.recvConsumed? id)).map fun request => (q.recvCq, request.wrId) := by
  cases h with
  | fail | launch => rfl
  | flushSend =>
      rw [List.filterMap_cons_none rfl, List.filterMap_cons_none (recvReported?_sendCompletion ..)]
      rfl
  | flushRecv hq' => exact recvUsed_reported hs hq hq' rfl rfl rfl rfl rfl
  | receive _ hp _ _ _ hreceipt =>
      exact recvUsed_reported hs hq hp rfl rfl hreceipt.wrId hreceipt.number hreceipt.ofReceive
  | retire =>
      rw [List.filterMap_cons_none rfl, List.filterMap_cons_none rfl]
      split
      · rw [List.filterMap_cons_none (recvReported?_sendCompletion ..)]
        rfl
      · rfl

/-- The completions of receive requests are those of the requests that the queue pair used. -/
theorem LivedTurn.recvReported (h : LivedTurn id made s es t) :
    (es.filterMap (Event.recvReported? made.number)).map (fun report => (report.cq, report.wrId)) =
      (es.filterMap (Event.recvConsumed? id)).map fun request => (made.recvCq, request.wrId) := by
  obtain ⟨q, hq, rfl⟩ := h.before
  cases h.turn with
  | act hact =>
      -- clearing a queue pair keeps its number and its completion queues
      have hreported := hact.recvReported h.fit hq
      exact hreported
  | change hchange =>
      rw [hchange.filterMap_eq_nil (fun _ _ => rfl) (fun _ _ => rfl) fun _ => rfl,
        hchange.filterMap_eq_nil (fun _ _ => rfl) (fun _ _ => rfl) fun _ => rfl]
      rfl

theorem Trail.recvReported (h : Trail (LivedTurn id made) s es t) :
    (es.filterMap (Event.recvReported? made.number)).map (fun report => (report.cq, report.wrId)) =
      (es.filterMap (Event.recvConsumed? id)).map fun request => (made.recvCq, request.wrId) := by
  induction h with
  | refl => rfl
  | tail _ hlast ih =>
      rw [List.filterMap_append, List.filterMap_append, List.map_append, List.map_append, ih,
        hlast.recvReported]

theorem Trail.recvLeft (h : Trail (LivedTurn id made) s es t) (hsrq : made.srq = none) :
    es.filterMap (Event.recvLeft? (.ofQp id)) = es.filterMap (Event.recvConsumed? id) := by
  induction h with
  | refl => rfl
  | tail _ hlast ih => rw [List.filterMap_append, List.filterMap_append, ih, hlast.recvLeft hsrq]

/-! ## Failed queue pairs -/

/-- Only reset and destruction lead out of the error state. -/
theorem Change.failed (h : Change f es g) (hf : f.Fit) (hclear : .queuesCleared id ∉ es)
    {q : QueuePair} (hq : f.qps.find? id = some q) (herror : q.state = .error) :
    ∃ q', g.qps.find? id = some q' ∧ q'.state = .error := by
  have hsame (hqps : g.qps.find? id = f.qps.find? id) :
      ∃ q', g.qps.find? id = some q' ∧ q'.state = .error := ⟨q, hqps.trans hq, herror⟩
  have hupdated {id' : NativeId} {change : QueuePair → QueuePair}
      (hchange : id = id' → (change q).state = .error) :
      ∃ q', (f.updateQp id' change).qps.find? id = some q' ∧ q'.state = .error := by
    by_cases hid : id = id'
    · subst hid
      exact ⟨_, find?_updateQp_self hq _, hchange rfl⟩
    · exact ⟨q, (find?_updateQp_of_ne hid _).trans hq, herror⟩
  cases h with
  | aside hqps | addSrq _ hqps | dropSrq _ hqps => exact hsame (congrArg (·.find? id) hqps)
  | addQp _ _ hqps =>
      apply hsame
      rw [hqps, Table.find?_insert, if_neg (Nat.ne_of_lt (hf.qpBelow hq))]
  | @dropQp _ dropped q' hq' hqps =>
      apply hsame
      have hid : id ≠ dropped := by
        rintro rfl
        exact hclear List.mem_cons_self
      rw [hqps, Table.find?_erase, if_neg hid]
  | modify htarget hstays =>
      refine hupdated fun hid => ?_
      subst hid
      exact hstays q hq herror
  | @clear cleared q' hq' =>
      refine hupdated fun hid => ?_
      subst hid
      exact absurd List.mem_cons_self hclear
  | postSends => exact hupdated fun _ => herror
  | @postRecvs queue =>
      cases queue with
      | ofQp => exact hupdated fun _ => herror
      | shared => exact hsame rfl

/-- A queue pair in the error state stays there and takes nothing. -/
theorem LivedTurn.failed (h : LivedTurn id made s es t) (hclear : .queuesCleared id ∉ es)
    {q : QueuePair} (hq : s.fabric.qps.find? id = some q) (herror : q.state = .error) :
    (∃ q', t.fabric.qps.find? id = some q' ∧ q'.state = .error) ∧
      ∀ queue r, .recvTaken queue id r ∉ es := by
  cases h.turn with
  | act hact =>
      obtain ⟨q', hq', hb⟩ := hact.spends.later hq
      refine ⟨⟨q', hq', hb.error herror⟩, fun queue r hmem => ?_⟩
      obtain ⟨p, hp, hready, -⟩ := hact.taker hmem
      obtain rfl := Option.some.inj (hq.symm.trans hp)
      rw [herror] at hready
      rcases hready with hready | hready <;> cases hready
  | change hchange =>
      refine ⟨hchange.failed h.fit hclear hq herror, fun queue r hmem => ?_⟩
      rcases hchange.tells _ hmem with ⟨_, _, heq⟩ | ⟨_, _, heq⟩ | ⟨_, heq⟩ <;> cases heq

theorem Trail.failed (h : Trail (LivedTurn id made) s es t) (hclear : .queuesCleared id ∉ es)
    {q : QueuePair} (hq : s.fabric.qps.find? id = some q) (herror : q.state = .error) :
    (∃ q', t.fabric.qps.find? id = some q' ∧ q'.state = .error) ∧
      ∀ queue r, .recvTaken queue id r ∉ es := by
  induction h with
  | refl => exact ⟨⟨q, hq, herror⟩, fun _ _ => List.not_mem_nil⟩
  | tail _ hlast ih =>
      obtain ⟨hfirst, hrest⟩ := not_or.1 fun hmem => hclear (List.mem_append.2 hmem)
      obtain ⟨⟨q', hq', herror'⟩, hnone⟩ := ih hfirst
      obtain ⟨hafter, hnone'⟩ := hlast.failed hrest hq' herror'
      refine ⟨hafter, fun queue r hmem => ?_⟩
      exact (List.mem_append.1 hmem).elim (hnone queue r) (hnone' queue r)

end

/-! ## Runs -/

namespace Host

variable {h k : Host} {devices : List DeviceConfig} {id : NativeId} {q q' : QueuePair}

theorem reads_recvAccepted (queue : RecvQueue) : Reads (Event.recvAccepted? queue) :=
  fun e _ => by cases e <;> rfl

theorem reads_recvLeft (queue : RecvQueue) : Reads (Event.recvLeft? queue) :=
  fun e _ => by cases e <;> rfl

theorem reads_recvConsumed (id : NativeId) : Reads (Event.recvConsumed? id) :=
  fun e _ => by cases e <;> rfl

theorem reads_recvReported (number : UInt32) : Reads (Event.recvReported? number) :=
  fun e he => by cases e <;> first | rfl | exact absurd rfl (he _ _)

/-- How receive requests are conserved from a host on. -/
structure ConservesReceives (h : Host) : Prop where
  /-- What a queue pair's own queue had and accepted is completed in order, or waits. -/
  own : ∀ {k : Host} {id : NativeId} {q q' : QueuePair}, h.Leads k →
    h.fabric.qps.find? id = some q → k.fabric.qps.find? id = some q' → q.srq = none →
    .queuesCleared id ∉ k.eventsSince h →
    (q.recvQueue ++ (k.eventsSince h).filterMap (Event.recvAccepted? (.ofQp id))).map (·.wrId) =
        ((k.eventsSince h).filterMap (Event.recvReported? q.number)).map (·.wrId) ++
          q'.recvQueue.map (·.wrId) ∧
      ∀ report ∈ (k.eventsSince h).filterMap (Event.recvReported? q.number), report.cq = q.recvCq
  /-- A new queue pair, or one that was reset, has no receive requests. -/
  begins : ∀ {id : NativeId} {q : QueuePair}, h.fabric.qps.find? id = some q → q.state = .reset →
    q.recvQueue = []
  /-- All that a shared queue ever accepted was taken in order, or waits. -/
  shared : ∀ {id : NativeId} {s : Fabric.SharedQueue}, h.fabric.srqs.find? id = some s →
    h.journal.toList.filterMap (Event.recvAccepted? (.shared id)) =
      h.journal.toList.filterMap (Event.recvLeft? (.shared id)) ++ s.queue
  /-- Who takes a request during an operation is there before and afterwards, and takes it from its
  own queue or the one it is attached to. -/
  takers : ∀ (op : Operation) {queue : RecvQueue} {id : NativeId} {r : RecvRequest},
    .recvTaken queue id r ∈ (h.perform op).eventsSince h →
    ∃ q q', h.fabric.qps.find? id = some q ∧ (h.perform op).fabric.qps.find? id = some q' ∧
      queue = Fabric.recvQueueOf id q'
  /-- Each request that a queue pair used has one completion, at its receive completion queue. -/
  reported : ∀ {k : Host} {id : NativeId} {q q' : QueuePair}, h.Leads k →
    h.fabric.qps.find? id = some q → k.fabric.qps.find? id = some q' →
    ((k.eventsSince h).filterMap (Event.recvReported? q.number)).map
        (fun report => (report.cq, report.wrId)) =
      ((k.eventsSince h).filterMap (Event.recvConsumed? id)).map
        fun request => (q.recvCq, request.wrId)
  /-- A queue pair in the error state stays there, and takes nothing from any queue. -/
  failed : ∀ {k : Host} {id : NativeId} {q q' : QueuePair}, h.Leads k →
    h.fabric.qps.find? id = some q → k.fabric.qps.find? id = some q' → q.state = .error →
    .queuesCleared id ∉ k.eventsSince h →
    q'.state = .error ∧ ∀ queue r, .recvTaken queue id r ∉ k.eventsSince h
  /-- What an operation accepts is what its answer tells. -/
  accepted : ∀ (op : Operation) (queue : RecvQueue),
    ((h.perform op).eventsSince h).filterMap (Event.recvAccepted? queue) =
      (h.intake op).filterMap (Event.recvAccepted? queue)

/-- What a queue that lasts had and accepted is what left it and what it has. -/
theorem Leads.conserves (hk : h.Leads k) (hr : Reachable devices h) (queue : RecvQueue)
    (hholds : k.fabric.work.Holds queue) (hkept : Kept queue (k.eventsSince h)) :
    h.fabric.work.recvRequests queue ++
        (k.eventsSince h).filterMap (Event.recvAccepted? queue) =
      (k.eventsSince h).filterMap (Event.recvLeft? queue) ++ k.fabric.work.recvRequests queue := by
  have hdelivered := hr.delivered_since hk
  rw [(reads_recvAccepted queue).filterMap_eq hdelivered,
    (reads_recvLeft queue).filterMap_eq hdelivered]
  exact (hk.story hr).conserves hr.fit (.inl hholds) fun id hid hmem =>
    hkept id hid ((queuesCleared_mem id).1 hmem)

/-- Every request that a queue pair used is completed once, at its receive completion queue. -/
theorem Leads.recvReported (hk : h.Leads k) (hr : Reachable devices h)
    (hq : h.fabric.qps.find? id = some q) (hq' : k.fabric.qps.find? id = some q') :
    ((k.eventsSince h).filterMap (Event.recvReported? q.number)).map
        (fun report => (report.cq, report.wrId)) =
      ((k.eventsSince h).filterMap (Event.recvConsumed? id)).map
        fun request => (q.recvCq, request.wrId) := by
  obtain ⟨-, hlived⟩ := (hk.story hr).lived hr.fit hq hq'
  have hdelivered := hr.delivered_since hk
  rw [(reads_recvReported q.number).filterMap_eq hdelivered,
    (reads_recvConsumed id).filterMap_eq hdelivered]
  exact hlived.recvReported

/-- What a queue pair's own queue had and accepted is completed in order, or waits, as long as its
queues are not emptied. -/
theorem Leads.recvOwn (hk : h.Leads k) (hr : Reachable devices h)
    (hq : h.fabric.qps.find? id = some q) (hq' : k.fabric.qps.find? id = some q')
    (hsrq : q.srq = none) (hclear : .queuesCleared id ∉ k.eventsSince h) :
    (q.recvQueue ++ (k.eventsSince h).filterMap (Event.recvAccepted? (.ofQp id))).map (·.wrId) =
        ((k.eventsSince h).filterMap (Event.recvReported? q.number)).map (·.wrId) ++
          q'.recvQueue.map (·.wrId) ∧
      ∀ report ∈ (k.eventsSince h).filterMap (Event.recvReported? q.number),
        report.cq = q.recvCq := by
  have hreported := hk.recvReported hr hq hq'
  have hqueue := hk.conserves hr (.ofQp id) ⟨q', hq'⟩ fun id' hid => by
    cases hid
    exact hclear
  have hleft : (k.eventsSince h).filterMap (Event.recvLeft? (.ofQp id)) =
      (k.eventsSince h).filterMap (Event.recvConsumed? id) := by
    obtain ⟨-, hlived⟩ := (hk.story hr).lived hr.fit hq hq'
    have hdelivered := hr.delivered_since hk
    rw [(reads_recvLeft (.ofQp id)).filterMap_eq hdelivered,
      (reads_recvConsumed id).filterMap_eq hdelivered]
    exact hlived.recvLeft hsrq
  have hbefore : h.fabric.work.recvRequests (.ofQp id) = q.recvQueue := by
    rw [Fabric.recvRequests, show h.fabric.work.qps.find? id = some q from hq]
    rfl
  have hafter : k.fabric.work.recvRequests (.ofQp id) = q'.recvQueue := by
    rw [Fabric.recvRequests, show k.fabric.work.qps.find? id = some q' from hq']
    rfl
  rw [hbefore, hafter, hleft] at hqueue
  constructor
  · have hwrIds := congrArg (List.map (·.2)) hreported
    rw [List.map_map, List.map_map] at hwrIds
    rw [hqueue, List.map_append]
    exact congrArg (· ++ _) hwrIds.symm
  · intro report hmem
    have hpair := List.mem_map_of_mem (f := fun report => (report.cq, report.wrId)) hmem
    rw [hreported] at hpair
    obtain ⟨request, -, hsame⟩ := List.mem_map.1 hpair
    exact (Prod.mk.inj hsame).1.symm

/-- A shared queue is followed from before it was created, so that all it ever accepted is counted. -/
theorem Reachable.recvShared (hr : Reachable devices h) {s : Fabric.SharedQueue}
    (hs : h.fabric.srqs.find? id = some s) :
    h.journal.toList.filterMap (Event.recvAccepted? (.shared id)) =
      h.journal.toList.filterMap (Event.recvLeft? (.shared id)) ++ s.queue := by
  obtain ⟨f, -, hsrqs, hfit, hstory⟩ := hr.history
  have hempty : f.recvRequests (.shared id) = [] := by
    rw [Fabric.recvRequests, hsrqs]
    rfl
  have hqueue : h.fabric.work.recvRequests (.shared id) = s.queue := by
    rw [Fabric.recvRequests, show h.fabric.work.srqs.find? id = some s from hs]
    rfl
  have hholds : h.fabric.work.Awaits (.shared id) := .inl ⟨s, hs⟩
  have hkept : Kept (.shared id) h.entries := by rintro id' ⟨⟩
  have hconserves := hstory.conserves hfit hholds hkept
  rw [hempty, hqueue] at hconserves
  rw [(reads_recvAccepted _).filterMap_eq hr.delivered, (reads_recvLeft _).filterMap_eq hr.delivered]
  exact hconserves

theorem Reachable.recvTakers (hr : Reachable devices h) (op : Operation) {queue : RecvQueue}
    {r : RecvRequest} (hmem : .recvTaken queue id r ∈ (h.perform op).eventsSince h) :
    ∃ q q', h.fabric.qps.find? id = some q ∧ (h.perform op).fabric.qps.find? id = some q' ∧
      queue = Fabric.recvQueueOf id q' := by
  obtain ⟨g, es, hes, hchange, hacts⟩ := hr.acts op
  have hmem' : .recvTaken queue id r ∈ h.intake op ++ es := by
    rw [← hes]
    exact List.mem_filterMap.2 ⟨_, hmem, rfl⟩
  rcases List.mem_append.1 hmem' with hintake | hact
  · rcases hchange.tells _ hintake with ⟨_, _, heq⟩ | ⟨_, _, heq⟩ | ⟨_, heq⟩ <;> cases heq
  · obtain ⟨q, q', hq, hstate, hq', hqueue⟩ := hacts.taker hact
    rcases hchange.origin hq with ⟨q₀, hq₀, -⟩ | ⟨-, hnew⟩
    · exact ⟨q₀, q', hq₀, hq', hqueue⟩
    · -- a new queue pair is in reset
      exact absurd (by rw [← hnew]; rfl) hstate

theorem Reachable.recvIntake (hr : Reachable devices h) (op : Operation) (queue : RecvQueue) :
    ((h.perform op).eventsSince h).filterMap (Event.recvAccepted? queue) =
      (h.intake op).filterMap (Event.recvAccepted? queue) := by
  obtain ⟨g, es, hes, -, hacts⟩ := hr.acts op
  rw [hr.reads hes (reads_recvAccepted queue), hacts.recvAccepted, List.append_nil]

/-- Receive requests are conserved, and used in order. -/
theorem reachable_conserves (hr : Reachable devices h) : h.ConservesReceives where
  own hk hq hq' hsrq hclear := hk.recvOwn hr hq hq' hsrq hclear
  begins hq hreset := (hr.fit.idle hq hreset).2
  shared hs := hr.recvShared hs
  takers op _ _ _ hmem := hr.recvTakers op hmem
  reported hk hq hq' := hk.recvReported hr hq hq'
  failed {k id q q'} hk hq hq' herror hclear := by
    obtain ⟨-, hlived⟩ := (hk.story hr).lived hr.fit hq hq'
    obtain ⟨⟨p, hp, hstate⟩, hnone⟩ := hlived.failed
      (fun hmem => hclear ((queuesCleared_mem id).1 hmem)) hq herror
    obtain rfl := Option.some.inj (hp.symm.trans hq')
    exact ⟨hstate, fun queue r hmem => hnone queue r (List.mem_filterMap.2 ⟨_, hmem, rfl⟩)⟩
  accepted op queue := hr.recvIntake op queue

/-- A queue pair that is its own peer and attached to a shared receive queue takes the first request
of two, and the other waits. -/
theorem shared_loopback_conserves :
    let connect (state : QpState) (mask : QpMask) : Operation :=
      .modifyQp 6 { state := state.code, port := 1, destination := 0x100 } (.state ||| mask)
    let h := (({} : Host).withDevices [{}]).performAll
      [.openDevice { native := 1, name := none }, .allocPd 2, .createCq 2 4 none 0 0,
        .createSrq 3 {},
        .createQp 3
          { sendCq := 4, recvCq := 4, srq := some 5, transport := .reliable, signalAll := true,
            caps := {} },
        connect .init .port, connect .rtr .destination, connect .rts {},
        .postSrqRecv 5 [{ wrId := 8 }, { wrId := 9 }], .postSend 6 [{ wrId := 1 }]]
    h.ConservesReceives ∧
      h.journal.toList.filterMap (Event.recvLeft? (.shared 5)) = [{ wrId := 8 }] ∧
      h.fabric.recvRequests (.shared 5) = [{ wrId := 9 }] ∧
      (h.journal.toList.filterMap (Event.recvReported? 0x100)).map (·.wrId) = [8] :=
  ⟨reachable_conserves ((Reachable.fresh {}).performAll _), by decide +kernel, by decide +kernel,
    by decide +kernel⟩

end Host

end Rdma
