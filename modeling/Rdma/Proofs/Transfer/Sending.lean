import Rdma.Proofs.Host.Run

/-!
# The send side of a queue pair

What a story says of the requests of one queue pair, and a small machine that says all that can
become of them (`SendStep`): requests wait in order, one at a time is attempted, and the peer may
answer an attempt. Reset and destruction empty the machine; an error flushes what waits.

* `Act.sends`, `Change.sends` — every act of the engine and every other change is a step of the send
  side of every queue pair;
* `LivedTurn.sends` — so is every step of a story that the queue pair lives through;
* `Leads.sends` — the send side from one host to a later one.
-/

namespace Rdma

open Fabric (QueuePair PendingSend)
open Host (sendCompletion)

/-! ## What events tell of sending -/

/-- What the owner of a queue pair is told of a request, and where. -/
structure Report where
  cq : NativeId
  wrId : UInt64
  opcode : UInt32
  status : UInt32
deriving Repr, DecidableEq

/-- The report on a send request that retired with a status, if there is one. -/
def Fabric.QueuePair.report? (q : QueuePair) : SendRequest × CompletionStatus → Option Report
  | (request, status) =>
    if q.reports request status then
      some { cq := q.sendCq, wrId := request.wrId, opcode := request.opcode.completionOpcode.code,
             status := status.code }
    else none

namespace Event

/-- A request that the queue pair accepted. -/
def sendAccepted? (id : NativeId) : Event → Option SendRequest
  | .sendAccepted qp request => if qp = id then some request else none
  | _ => none

/-- A request of the queue pair that was retired, and with what. -/
def sendRetired? (id : NativeId) : Event → Option (SendRequest × CompletionStatus)
  | .sendRetired qp request status => if qp = id then some (request, status) else none
  | _ => none

/-- A completion of a send request under the number of a queue pair. -/
def sendReported? (number : UInt32) : Event → Option Report
  | .completed cq c _ _ =>
    if c.qpNumber = number && !c.ofReceive then
      some { cq, wrId := c.wrId, opcode := c.opcode, status := c.status }
    else none
  | _ => none

/-- The completion of a receive request that a request from the number used up. -/
def answered? (number : UInt32) : Event → Option Completion
  | .completed _ c _ _ =>
    if c.ofReceive && c.sourceQp = number && c.status ≠ CompletionStatus.flushed.code then some c
    else none
  | _ => none

/-- Does the event tell of the requests that a queue pair sends? -/
def ofSends (id : NativeId) (number : UInt32) : Event → Bool
  | .sendAccepted qp _ | .sendRetired qp _ _ | .queuesCleared qp => qp = id
  | .completed cq c solicited stored =>
    (sendReported? number (.completed cq c solicited stored)).isSome ||
      (answered? number (.completed cq c solicited stored)).isSome
  | _ => false

end Event

/-! ## The machine -/

/-- A request off its send queue, as its own queue pair knows it. -/
structure Attempt where
  request : SendRequest
  /-- What the receive request that it used up was completed with. -/
  answer : Option CompletionStatus := none

structure SendSide where
  state : QpState := .reset
  waiting : List SendRequest := []
  attempt : Option Attempt := none

/-- The requests of a queue pair that are not settled: first the one in flight. -/
def SendSide.unsettled (side : SendSide) : List SendRequest :=
  (side.attempt.map (·.request)).toList ++ side.waiting

/-- The request in flight, if it came from the queue pair. -/
def attemptOf (id : NativeId) : Option Flight → Option Attempt
  | some flight =>
    if flight.sender = id then some { request := flight.pending.request, answer := flight.answer }
    else none
  | none => none

/-- The send side of a queue pair in a scene. One that is not there has nothing to send. -/
def Scene.sendSide (s : Scene) (id : NativeId) : SendSide :=
  match s.fabric.qps.find? id with
  | some q =>
    { state := q.state
      waiting := q.sendQueue.map (·.request)
      attempt := attemptOf id s.flight }
  | none => {}

/-- What can become of the requests of a queue pair that was created as `made`. -/
inductive SendStep (id : NativeId) (made : QueuePair) : SendSide → List Event → SendSide → Prop
  | idle {side side' : SendSide} : side'.waiting = side.waiting → side'.attempt = side.attempt →
      (side.attempt.isSome → side'.state = side.state) → SendStep id made side [] side'
  | accept {state : QpState} {waiting : List SendRequest} (requests : List SendRequest) :
      SendStep id made ⟨state, waiting, none⟩ (requests.map (.sendAccepted id))
        ⟨state, waiting ++ requests, none⟩
  | clear {state : QpState} {waiting : List SendRequest} :
      SendStep id made ⟨state, waiting, none⟩ [.queuesCleared id] {}
  | flush {request : SendRequest} {waiting : List SendRequest} {attempt : Option Attempt} :
      SendStep id made ⟨.error, request :: waiting, attempt⟩
        [.sendRetired id request .flushed,
          .handed made.sendCq (sendCompletion made.number request .flushed 0)]
        ⟨.error, waiting, attempt⟩
  | launch {request : SendRequest} {waiting : List SendRequest} :
      SendStep id made ⟨.rts, request :: waiting, none⟩ [] ⟨.rts, waiting, some { request }⟩
  | answer {state state' : QpState} {waiting : List SendRequest} {request : SendRequest}
      {peer : QueuePair} {r : RecvRequest} {status : CompletionStatus} {c : Completion}
      (cq : NativeId) : Receipt made peer request r status c →
      (state' = state ∨ status ≠ .success ∧ peer.number = made.number) →
      SendStep id made ⟨state, waiting, some { request }⟩ [.handed cq c]
        ⟨state', waiting, some { request, answer := some status }⟩
  | retire {state : QpState} {waiting : List SendRequest} {attempt : Attempt}
      {status : CompletionStatus} (length : UInt32) : status ≠ .flushed →
      (made.transport = .reliable → attempt.answer =
        if attempt.request.usesReceive status then some status.atReceiver else none) →
      SendStep id made ⟨state, waiting, some attempt⟩
        (.sendRetired id attempt.request status ::
          if made.reports attempt.request status then
            [.handed made.sendCq (sendCompletion made.number attempt.request status length)]
          else [])
        ⟨state, waiting, none⟩

/-! ## Acts -/

section

variable {f : Fabric} {id id' : NativeId} {q : QueuePair} {flight : Option Flight}

theorem sendSide_of_found {s : Scene} (hq : s.fabric.qps.find? id = some q) :
    s.sendSide id = ⟨q.state, q.sendQueue.map (·.request), attemptOf id s.flight⟩ := by
  simp only [Scene.sendSide, hq]

theorem sendSide_of_none {s : Scene} (hq : s.fabric.qps.find? id = none) : s.sendSide id = {} := by
  simp only [Scene.sendSide, hq]

theorem attemptOf_self (id : NativeId) (pending : PendingSend) (answer : Option CompletionStatus) :
    attemptOf id (some { sender := id, pending, answer }) =
      some { request := pending.request, answer } := if_pos rfl

theorem attemptOf_of_ne {flight : Flight} (hid : flight.sender ≠ id) :
    attemptOf id (some flight) = none := if_neg hid

theorem find?_updateQp_of_ne (hid : id ≠ id') (change : QueuePair → QueuePair) :
    (f.updateQp id' change).qps.find? id = f.qps.find? id := by
  simp only [Fabric.updateQp, Table.find?_modify, if_neg hid]

theorem find?_updateQp_self (hq : f.qps.find? id = some q) (change : QueuePair → QueuePair) :
    (f.updateQp id change).qps.find? id = some (change q) := by
  simp only [Fabric.updateQp, Table.find?_modify, if_pos, hq, Option.map_some]

/-- A queue pair whose peer or itself takes a receive request keeps what it sends, and fails only if
it took one that it cannot use. -/
theorem Fabric.afterReceipt_sends {queue : RecvQueue} {rest : List RecvRequest}
    {peerId : NativeId} {status : CompletionStatus} (hq : f.qps.find? id = some q) :
    ∃ q', (f.afterReceipt queue rest peerId status).qps.find? id = some q' ∧
      q'.sendQueue = q.sendQueue ∧ (q'.state = q.state ∨ id = peerId ∧ status ≠ .success) := by
  have htaken : ∃ q', (f.setRecvRequests rest queue).qps.find? id = some q' ∧
      q'.sendQueue = q.sendQueue ∧ q'.state = q.state := by
    cases queue with
    | shared => exact ⟨q, hq, rfl, rfl⟩
    | ofQp id' =>
        by_cases hid : id = id'
        · subst hid
          exact ⟨_, find?_updateQp_self hq _, rfl, rfl⟩
        · exact ⟨q, (find?_updateQp_of_ne hid _).trans hq, rfl, rfl⟩
  obtain ⟨q', hq', hsend, hstate⟩ := htaken
  -- a request that cannot be used puts who took it into the error state, and nobody else
  unfold afterReceipt
  split
  case isTrue => exact ⟨q', hq', hsend, .inl hstate⟩
  case isFalse hs =>
    by_cases hid : id = peerId
    · subst hid
      exact ⟨_, find?_updateQp_self hq' _, hsend, .inr ⟨rfl, hs⟩⟩
    · exact ⟨q', (find?_updateQp_of_ne hid _).trans hq', hsend, .inl hstate⟩

/-- No completion of a send request passes for one of a receive request. -/
theorem sendCompletion_ofReceive (number : UInt32) (request : SendRequest)
    (status : CompletionStatus) (length : UInt32) :
    (sendCompletion number request status length).ofReceive = false := by
  cases h : request.opcode <;> simp [sendCompletion, Completion.ofReceive, h] <;> decide

/-- The completion of a send request is told of to its own queue pair only. -/
theorem ofSends_sendCompletion (cq : NativeId) (number number' : UInt32) (request : SendRequest)
    (status : CompletionStatus) (length : UInt32) :
    Event.ofSends id number' (.handed cq (sendCompletion number request status length)) =
      decide (number = number') := by
  simp only [Event.ofSends, Event.sendReported?, Event.answered?, sendCompletion_ofReceive]
  by_cases h : number = number' <;> simp [sendCompletion, h]

/-- The completion of a receive request is told of to the sender that used it up. -/
theorem ofSends_ofReceive {c : Completion} (hc : c.ofReceive = true) (cq : NativeId)
    (number : UInt32) :
    Event.ofSends id number (.handed cq c) =
      decide (c.sourceQp = number ∧ c.status ≠ CompletionStatus.flushed.code) := by
  simp only [Event.ofSends, Event.sendReported?, Event.answered?, hc]
  by_cases h : c.sourceQp = number ∧ c.status ≠ CompletionStatus.flushed.code <;> simp [h]

theorem ofSends_sendRetired (id id' : NativeId) (number : UInt32) (request : SendRequest)
    (status : CompletionStatus) :
    Event.ofSends id number (.sendRetired id' request status) = decide (id' = id) := rfl

theorem filter_queuesCleared (id id' : NativeId) (number : UInt32) :
    [Event.queuesCleared id'].filter (Event.ofSends id number) =
      if id' = id then [.queuesCleared id'] else [] := by
  by_cases hid : id' = id <;> simp [Event.ofSends, hid]

/-- What is written down when a request is retired concerns its own queue pair only. -/
theorem filter_retirement {q' : QueuePair} (hid : id' ≠ id) (hnumber : q'.number ≠ q.number)
    {events : List Event}
    (hevents : ∀ e ∈ events, ∃ cq request status length,
      e = .handed cq (sendCompletion q'.number request status length))
    (request : SendRequest) (status : CompletionStatus) :
    (.sendRetired id' request status :: events).filter (Event.ofSends id q.number) = [] := by
  rw [List.filter_eq_nil_iff]
  intro e he
  rcases List.mem_cons.1 he with rfl | he
  · simp [ofSends_sendRetired, hid]
  · obtain ⟨cq, r, st, length, rfl⟩ := hevents e he
    simp [ofSends_sendCompletion, hnumber]

/-- Where neither the queue pair nor its request in flight changes, nothing happens to its send side.
-/
theorem SendStep.untouched {s t : Scene} {made : QueuePair} {number : UInt32} {es : List Event}
    (hqps : t.fabric.qps.find? id = s.fabric.qps.find? id)
    (hflight : attemptOf id t.flight = attemptOf id s.flight)
    (hes : es.filter (Event.ofSends id number) = []) :
    SendStep id made (s.sendSide id) (es.filter (Event.ofSends id number)) (t.sendSide id) := by
  have hside : t.sendSide id = s.sendSide id := by simp only [Scene.sendSide, hqps, hflight]
  rw [hes, hside]
  exact .idle rfl rfl fun _ => rfl

end

/-- Of the sender, only its number is on a receipt. -/
theorem Receipt.congr {q q' peer : QueuePair} {request : SendRequest} {r : RecvRequest}
    {status : CompletionStatus} {c : Completion} (h : Receipt q peer request r status c)
    (hnumber : q'.number = q.number) : Receipt q' peer request r status c :=
  { h with source := h.source.trans hnumber.symm }

/-- A receive request that was used up is not reported as flushed. By this it is told from those that
were given back unused. -/
theorem Receipt.notFlushed {q peer : QueuePair} {request : SendRequest} {r : RecvRequest}
    {status : CompletionStatus} {c : Completion} (h : Receipt q peer request r status c) :
    status ≠ .flushed := by
  rintro rfl
  rcases h.failed nofun with hs | hs <;> cases hs

/-- An act is a step of the send side of every queue pair that is there. -/
theorem Act.sends {s t : Scene} {es : List Event} (h : Act s es t) (hs : s.fabric.Fit)
    {id : NativeId} {q : QueuePair} (hq : s.fabric.qps.find? id = some q) :
    SendStep id q.cleared (s.sendSide id) (es.filter (Event.ofSends id q.number))
      (t.sendSide id) := by
  -- what is said of another queue pair's requests is not looked at
  have hother {id' : NativeId} {q' : QueuePair} (hid : id ≠ id')
      (hq' : s.fabric.qps.find? id' = some q') : q'.number ≠ q.number :=
    fun hsame => hid (hs.number_inj hq hq' hsame).symm
  cases h with
  | fail f id' =>
      by_cases hid : id = id'
      · subst hid
        rw [sendSide_of_found hq, sendSide_of_found (find?_updateQp_self hq _)]
        exact .idle rfl rfl nofun
      · exact .untouched (find?_updateQp_of_ne hid _) rfl rfl
  | @flushSend f flight id' q' pending rest hq' herror hsend =>
      by_cases hid : id = id'
      · subst hid
        obtain rfl := Option.some.inj (hq.symm.trans hq')
        rw [sendSide_of_found hq, sendSide_of_found (find?_updateQp_self hq _), hsend, herror]
        have hall : [Event.sendRetired id pending.request .flushed,
            .handed q.sendCq (sendCompletion q.number pending.request .flushed 0)].filter
              (Event.ofSends id q.number) = _ :=
          List.filter_eq_self.2 (by simp [ofSends_sendRetired, ofSends_sendCompletion])
        rw [hall]
        exact .flush
      · refine .untouched (find?_updateQp_of_ne hid _) rfl ?_
        refine filter_retirement (Ne.symm hid) (hother hid hq') (fun e he => ?_) _ _
        exact ⟨_, _, _, _, List.mem_singleton.1 he⟩
  | @flushRecv f flight id' q' r rest hq' herror hrecv =>
      -- what is given back unused answers nobody's request
      have hquiet : [Event.recvFlushed id' r, .handed q'.recvCq
          { wrId := r.wrId, status := CompletionStatus.flushed.code,
            opcode := CompletionOpcode.recv.code, qpNumber := q'.number }].filter
            (Event.ofSends id q.number) = [] := by
        rw [List.filter_cons_of_neg (by exact Bool.false_ne_true), List.filter_cons_of_neg]
        · rfl
        · rw [ofSends_ofReceive rfl]
          simp
      by_cases hid : id = id'
      · subst hid
        rw [hquiet, sendSide_of_found hq, sendSide_of_found (find?_updateQp_self hq _)]
        exact .idle rfl rfl fun _ => rfl
      · exact .untouched (find?_updateQp_of_ne hid _) rfl hquiet
  | @launch f id' q' pending rest hq' hrts hsend =>
      by_cases hid : id = id'
      · subst hid
        obtain rfl := Option.some.inj (hq.symm.trans hq')
        rw [sendSide_of_found hq, sendSide_of_found (find?_updateQp_self hq _), hsend, hrts,
          attemptOf_self]
        exact .launch
      · exact .untouched (find?_updateQp_of_ne hid _) (attemptOf_of_ne (Ne.symm hid)) rfl
  | @receive f sender peerId pending q' peer r rest status c hq' hp haccepts hdest hqueue hreceipt =>
      obtain ⟨q₁, hq₁, hsend, hstate⟩ := Fabric.afterReceipt_sends hq
      rw [List.filter_cons_of_neg (by exact Bool.false_ne_true), sendSide_of_found hq,
        sendSide_of_found hq₁, hsend]
      by_cases hid : id = sender
      · -- its own request is answered, and if it is its own peer it may fail by the answer
        subst hid
        obtain rfl := Option.some.inj (hq.symm.trans hq')
        rw [List.filter_cons_of_pos, attemptOf_self, attemptOf_self]
        · refine .answer peer.recvCq (hreceipt.congr rfl) (hstate.imp_right fun ⟨hpeer, hs⟩ => ⟨hs, ?_⟩)
          subst hpeer
          rw [Option.some.inj (hp.symm.trans hq)]
          rfl
        · rw [ofSends_ofReceive hreceipt.ofReceive, hreceipt.source, hreceipt.code]
          simpa using CompletionStatus.code_ne hreceipt.notFlushed
      · -- another queue pair's request uses up a receive request of this one
        rw [List.filter_cons_of_neg, attemptOf_of_ne (Ne.symm hid), attemptOf_of_ne (Ne.symm hid)]
        · exact .idle rfl rfl nofun
        · rw [ofSends_ofReceive hreceipt.ofReceive, hreceipt.source]
          simp [hother hid hq']
  | @retire f flight q' status length hq' hverdict =>
      by_cases hid : id = flight.sender
      · subst hid
        obtain rfl := Option.some.inj (hq.symm.trans hq')
        rw [sendSide_of_found hq, sendSide_of_found (s := ⟨f, none⟩) hq, List.filter_eq_self.2]
        · show SendStep _ _ ⟨_, _, attemptOf flight.sender (some flight)⟩ _ _
          rw [attemptOf_self]
          exact .retire length hverdict.notFlushed hverdict.answered
        · intro e he
          rcases List.mem_cons.1 he with rfl | he
          · exact decide_eq_true rfl
          · split at he
            · rw [List.mem_singleton.1 he, ofSends_sendCompletion]
              exact decide_eq_true rfl
            · cases he
      · refine .untouched rfl (attemptOf_of_ne (Ne.symm hid)).symm ?_
        refine filter_retirement (Ne.symm hid) (hother hid hq') (fun e he => ?_) _ _
        split at he
        · exact ⟨_, _, _, _, List.mem_singleton.1 he⟩
        · cases he

/-! ## Changes -/

/-- A change of one queue pair is a step of its own send side, and of no other. -/
theorem sends_updateQp {f : Fabric} {id id' : NativeId} {made : QueuePair} {number : UInt32}
    {es : List Event} {change : QueuePair → QueuePair}
    (hquiet : id ≠ id' ∨ f.qps.find? id' = none → es.filter (Event.ofSends id number) = [])
    (hself : ∀ q, id = id' → f.qps.find? id = some q →
      SendStep id made ⟨q.state, q.sendQueue.map (·.request), none⟩
        (es.filter (Event.ofSends id number))
        ⟨(change q).state, (change q).sendQueue.map (·.request), none⟩) :
    SendStep id made (Scene.sendSide ⟨f, none⟩ id) (es.filter (Event.ofSends id number))
      (Scene.sendSide ⟨f.updateQp id' change, none⟩ id) := by
  by_cases hid : id = id'
  · subst hid
    cases hq : f.qps.find? id with
    | none =>
        refine .untouched ?_ rfl (hquiet (.inr hq))
        show (f.updateQp id change).qps.find? id = f.qps.find? id
        simp only [Fabric.updateQp, Table.find?_modify, if_pos, hq, Option.map_none]
    | some q =>
        rw [sendSide_of_found (s := ⟨f, none⟩) hq,
          sendSide_of_found (s := ⟨f.updateQp id change, none⟩) (find?_updateQp_self hq change)]
        exact hself q rfl hq
  · exact .untouched (find?_updateQp_of_ne hid change) rfl (hquiet (.inl hid))

/-- A change is a step of every queue pair's send side, whether it is there or not. -/
theorem Change.sends {f g : Fabric} {es : List Event} (h : Change f es g) (hf : f.Fit)
    (id : NativeId) (made : QueuePair) :
    SendStep id made (Scene.sendSide ⟨f, none⟩ id) (es.filter (Event.ofSends id made.number))
      (Scene.sendSide ⟨g, none⟩ id) := by
  cases h with
  | aside hqps | addSrq _ hqps | dropSrq _ hqps =>
      exact .untouched (congrArg (·.find? id) hqps) rfl rfl
  | @addQp _ q hnew _ hqps =>
      by_cases hid : id = f.nextId
      · -- identities are not given out twice, so there was nothing under this one
        have hnone : f.qps.find? id = none := by
          rw [Option.eq_none_iff_forall_ne_some]
          intro q' hq'
          exact Nat.ne_of_lt (hf.qpBelow hq') hid
        have hsome : g.qps.find? id = some q := by
          rw [hqps, Table.find?_insert, if_pos hid]
        rw [sendSide_of_none hnone, sendSide_of_found (s := ⟨g, none⟩) hsome, ← hnew]
        exact .idle rfl rfl nofun
      · refine .untouched ?_ rfl rfl
        show g.qps.find? id = f.qps.find? id
        rw [hqps, Table.find?_insert, if_neg hid]
  | @dropQp _ id' q hq hqps =>
      by_cases hid : id = id'
      · subst hid
        have hnone : g.qps.find? id = none := by
          rw [hqps, Table.find?_erase, if_pos rfl]
        rw [sendSide_of_found (s := ⟨f, none⟩) hq, sendSide_of_none hnone, filter_queuesCleared,
          if_pos rfl]
        exact .clear
      · refine .untouched ?_ rfl ?_
        · show g.qps.find? id = f.qps.find? id
          rw [hqps, Table.find?_erase, if_neg hid]
        · rw [filter_queuesCleared, if_neg (Ne.symm hid)]
  | modify => exact sends_updateQp (fun _ => rfl) fun q _ _ => .idle rfl rfl nofun
  | @clear id' q hq =>
      refine sends_updateQp (fun h => ?_) fun q' hid hq' => ?_
      · rcases h with hid | hnone
        · rw [filter_queuesCleared, if_neg (Ne.symm hid)]
        · rw [hq] at hnone; cases hnone
      · subst hid
        rw [filter_queuesCleared, if_pos rfl]
        exact .clear
  | @postSends id' q accepted hq _ _ =>
      refine sends_updateQp (fun h => ?_) fun q' hid hq' => ?_
      · rw [List.filter_eq_nil_iff]
        intro e he
        obtain ⟨p, -, rfl⟩ := List.mem_map.1 he
        rcases h with hid | hnone
        · simpa [Event.ofSends] using Ne.symm hid
        · rw [hq] at hnone; cases hnone
      · subst hid
        rw [List.map_append, List.filter_eq_self.2]
        · show SendStep id made _ (accepted.map (Event.sendAccepted id ∘ (·.request))) _
          rw [← List.map_map]
          exact .accept _
        · intro e he
          obtain ⟨p, -, rfl⟩ := List.mem_map.1 he
          exact decide_eq_true rfl
  | @postRecvs queue accepted =>
      have hquiet : (accepted.map (Event.recvAccepted queue)).filter
          (Event.ofSends id made.number) = [] := by
        rw [List.filter_eq_nil_iff]
        intro e he
        obtain ⟨r, -, rfl⟩ := List.mem_map.1 he
        exact Bool.false_ne_true
      cases queue with
      | shared => exact .untouched rfl rfl hquiet
      | ofQp id' =>
          refine sends_updateQp (fun _ => hquiet) fun q _ _ => ?_
          rw [hquiet]
          exact .idle rfl rfl nofun

/-- A turn is a step of the send side of every queue pair that lives through it. -/
theorem LivedTurn.sends {id : NativeId} {made : QueuePair} {s t : Scene} {es : List Event}
    (h : LivedTurn id made s es t) :
    SendStep id made (s.sendSide id) (es.filter (Event.ofSends id made.number)) (t.sendSide id) := by
  obtain ⟨q, hq, rfl⟩ := h.before
  cases h.turn with
  | act hact => exact hact.sends h.fit hq
  | change hchange => exact hchange.sends h.fit id q.cleared

/-! ## Reports -/

theorem sendReported?_sendCompletion (cq : NativeId) (number : UInt32) (request : SendRequest)
    (status : CompletionStatus) (length : UInt32) :
    Event.sendReported? number (.handed cq (sendCompletion number request status length)) =
      some { cq, wrId := request.wrId, opcode := request.opcode.completionOpcode.code,
             status := status.code } := by
  rw [Event.sendReported?, sendCompletion_ofReceive]
  simp [sendCompletion]

/-- What a queue pair is told of its receive requests is no report on a send request. -/
theorem sendReported?_of_ofReceive {c : Completion} (hc : c.ofReceive = true) (cq : NativeId)
    (number : UInt32) : Event.sendReported? number (.handed cq c) = none := by
  rw [Event.sendReported?, hc]
  simp

theorem sendRetired?_self (id : NativeId) (request : SendRequest) (status : CompletionStatus) :
    Event.sendRetired? id (.sendRetired id request status) = some (request, status) := if_pos rfl

/-- The report on a send request answers no request. -/
theorem answered?_sendCompletion (cq : NativeId) (number number' : UInt32) (request : SendRequest)
    (status : CompletionStatus) (length : UInt32) :
    Event.answered? number (.handed cq (sendCompletion number' request status length)) = none := by
  rw [Event.answered?, sendCompletion_ofReceive]
  simp

/-- The completion of the receive request that a request used up answers it. -/
theorem Receipt.answered {q peer : QueuePair} {request : SendRequest} {r : RecvRequest}
    {status : CompletionStatus} {c : Completion} (h : Receipt q peer request r status c)
    (cq : NativeId) : Event.answered? q.number (.handed cq c) = some c := by
  have hcode := CompletionStatus.code_ne h.notFlushed
  rw [Event.answered?, h.ofReceive, h.source, h.code]
  simp [hcode]

theorem filterMap_map_none {α β : Type} {p : Event → Option β} {event : α → Event}
    (hp : ∀ a, p (event a) = none) (items : List α) : (items.map event).filterMap p = [] := by
  rw [List.filterMap_map, List.filterMap_eq_nil_iff]
  exact fun a _ => hp a

theorem filterMap_map_some {α : Type} {p : Event → Option α} {event : α → Event}
    (hp : ∀ a, p (event a) = some a) (items : List α) : (items.map event).filterMap p = items := by
  have hread : p ∘ event = some := funext hp
  rw [List.filterMap_map, hread, List.filterMap_some]

theorem filterMap_accepted (id : NativeId) (requests : List SendRequest) :
    (requests.map (Event.sendAccepted id)).filterMap (Event.sendAccepted? id) = requests :=
  filterMap_map_some (fun _ => if_pos rfl) requests

variable {id : NativeId} {made : QueuePair} {side side' : SendSide} {es : List Event}

/-- The completions of send requests are the reports on those that retire, in order. -/
theorem SendStep.reported (h : SendStep id made side es side') :
    es.filterMap (Event.sendReported? made.number) =
      (es.filterMap (Event.sendRetired? id)).filterMap made.report? := by
  cases h with
  | idle | launch | clear => rfl
  | accept requests =>
      rw [filterMap_map_none fun _ => rfl, filterMap_map_none fun _ => rfl]
      rfl
  | @flush request waiting attempt =>
      rw [List.filterMap_cons_none rfl, List.filterMap_cons_some (sendRetired?_self ..),
        List.filterMap_cons_some (sendReported?_sendCompletion ..)]
      rfl
  | answer cq hreceipt =>
      rw [List.filterMap_cons_none (sendReported?_of_ofReceive hreceipt.ofReceive ..)]
      rfl
  | @retire state waiting attempt status length =>
      -- whether there is a report depends on request and status alone, here as in `report?`
      rw [List.filterMap_cons_none rfl, List.filterMap_cons_some (sendRetired?_self ..)]
      by_cases hreports : made.reports attempt.request status = true
      · have hreport : made.report? (attempt.request, status) = some _ := if_pos hreports
        rw [if_pos hreports, List.filterMap_cons_some (sendReported?_sendCompletion ..)]
        show _ = List.filterMap made.report? [(attempt.request, status)]
        rw [List.filterMap_cons_some hreport]
        rfl
      · have hreport : made.report? (attempt.request, status) = none := if_neg hreports
        rw [if_neg hreports]
        show _ = List.filterMap made.report? [(attempt.request, status)]
        rw [List.filterMap_cons_none hreport]
        rfl

/-- So they are along any number of steps. -/
theorem Trail.reported (h : Trail (SendStep id made) side es side') :
    es.filterMap (Event.sendReported? made.number) =
      (es.filterMap (Event.sendRetired? id)).filterMap made.report? := by
  induction h with
  | refl => rfl
  | tail _ hlast ih =>
      rw [List.filterMap_append, List.filterMap_append, List.filterMap_append, ih, hlast.reported]

/-! ## Runs -/

section

variable {α : Type} {p : Event → Option α} {id : NativeId} {number : UInt32}

/-- What is read off an event concerns the send side of one queue pair. -/
structure ReadsSends (id : NativeId) (number : UInt32) (p : Event → Option α) : Prop where
  reads : Host.Reads p
  looks : ∀ e, Event.ofSends id number e = false → p e = none

/-- What concerns one send side can be read off the events of that side alone. -/
theorem ReadsSends.filterMap_filter (hp : ReadsSends id number p) (es : List Event) :
    (es.filter (Event.ofSends id number)).filterMap p = es.filterMap p := by
  rw [List.filterMap_filter]
  apply List.filterMap_congr
  intro e _
  cases he : Event.ofSends id number e with
  | true => rfl
  | false => exact (hp.looks e he).symm

theorem readsSends_accepted (id : NativeId) (number : UInt32) :
    ReadsSends id number (Event.sendAccepted? id) where
  reads e _ := by cases e <;> rfl
  looks e he := by cases e <;> first | rfl | exact if_neg (of_decide_eq_false he)

theorem readsSends_retired (id : NativeId) (number : UInt32) :
    ReadsSends id number (Event.sendRetired? id) where
  reads e _ := by cases e <;> rfl
  looks e he := by cases e <;> first | rfl | exact if_neg (of_decide_eq_false he)

theorem readsSends_reported (id : NativeId) (number : UInt32) :
    ReadsSends id number (Event.sendReported? number) where
  reads e he := by cases e <;> first | rfl | exact absurd rfl (he _ _)
  looks e he := by
    cases e with
    | completed =>
        have hnone := Option.isSome_eq_false_iff.1 (Bool.or_eq_false_iff.1 he).1
        exact Option.isNone_iff_eq_none.1 hnone
    | _ => rfl

theorem readsSends_answered (id : NativeId) (number : UInt32) :
    ReadsSends id number (Event.answered? number) where
  reads e he := by cases e <;> first | rfl | exact absurd rfl (he _ _)
  looks e he := by
    cases e with
    | completed =>
        have hnone := Option.isSome_eq_false_iff.1 (Bool.or_eq_false_iff.1 he).2
        exact Option.isNone_iff_eq_none.1 hnone
    | _ => rfl

end

namespace Host

variable {h k : Host} {devices : List DeviceConfig} {id : NativeId} {q q' : QueuePair}

/-- The send requests that wait at a queue pair. -/
def sendRequests (h : Host) (id : NativeId) : List SendRequest :=
  ((h.fabric.qps.find? id).map (·.sendQueue.map (·.request))).getD []

/-- The send side of a queue pair between operations. -/
theorem sendSide_work (h : Host) (id : NativeId) :
    Scene.sendSide ⟨h.fabric.work, none⟩ id =
      { state := ((h.fabric.qps.find? id).map (·.state)).getD .reset
        waiting := h.sendRequests id } := by
  cases hq : h.fabric.qps.find? id with
  | none =>
      rw [sendSide_of_none (s := ⟨h.fabric.work, none⟩) hq, sendRequests, hq]
      rfl
  | some q =>
      rw [sendSide_of_found (s := ⟨h.fabric.work, none⟩) hq, sendRequests, hq]
      rfl

/-- Whether the queues were emptied can be read off the events of the send side. -/
theorem mem_queuesCleared (events : List Event) (number : UInt32) :
    .queuesCleared id ∈ (events.filterMap Event.ofRequest?).filter (Event.ofSends id number) ↔
      .queuesCleared id ∈ events := by
  rw [List.mem_filter, queuesCleared_mem]
  exact and_iff_left (decide_eq_true rfl)

/-- What the send side of a queue pair goes through on the way from one host to a later one, and what
is read of it in the journal. -/
theorem Leads.sends (hk : h.Leads k) (hr : Reachable devices h)
    (hq : h.fabric.qps.find? id = some q) (hq' : k.fabric.qps.find? id = some q') :
    q'.cleared = q.cleared ∧
      ∃ es, Trail (SendStep id q.cleared) { state := q.state, waiting := h.sendRequests id } es
          { state := q'.state, waiting := k.sendRequests id } ∧
        (∀ {α : Type} {p : Event → Option α}, ReadsSends id q.number p →
          (k.eventsSince h).filterMap p = es.filterMap p) ∧
        (.queuesCleared id ∈ es ↔ .queuesCleared id ∈ k.eventsSince h) := by
  obtain ⟨hfixed, hlived⟩ := (hk.story hr).lived hr.fit hq hq'
  -- the story tells of requests only, so it stands for the journal wherever no more is read of it
  refine ⟨hfixed, ((k.eventsSince h).filterMap Event.ofRequest?).filter
    (Event.ofSends id q.number), ?_, fun hp => ?_, mem_queuesCleared _ _⟩
  · have htrail := hlived.view fun _ _ _ hturn => hturn.sends
    rw [sendSide_work, sendSide_work, hq, hq'] at htrail
    exact htrail
  · rw [hp.filterMap_filter]
    exact hp.reads.filterMap_eq (hr.delivered_since hk)

end Host

end Rdma
