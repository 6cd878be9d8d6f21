import Rdma.Proofs.Transfer.Sending
import Rdma.Proofs.Engine.Standstill

/-!
# Both sides of a transfer agree

A request that uses up a receive request is answered by its completion, and the sender's machine
keeps what the answer was until the request is retired. Reliable senders retire with what the answer
tells; unreliable ones retire with what they can see themselves.

* `SendStep.agrees` — one step of the send side, seen from both ends;
* `Acts.answered` — who answers, and in which state it is afterwards;
* `Host.reachable_agrees` — both along every run.
-/

namespace Rdma

open Fabric (QueuePair)
open Host (sendCompletion)

/-! ## What the two sides say -/

/-- The completions of successful receive requests that requests from a number used up. -/
def successes (number : UInt32) (es : List Event) : List Completion :=
  (es.filterMap (Event.answered? number)).filter fun c =>
    c.status = CompletionStatus.success.code

/-- The requests of a queue pair that retired as received. -/
def deliveries (id : NativeId) (es : List Event) : List SendRequest :=
  ((es.filterMap (Event.sendRetired? id)).filter fun retired =>
    retired.2 = .success && retired.1.opcode.consumesRecv).map (·.1)

/-- What the receive requests were completed with that the requests of a queue pair used up, going
by what those retired with. -/
def expectedAnswers (id : NativeId) (es : List Event) : List UInt32 :=
  ((es.filterMap (Event.sendRetired? id)).filter fun retired =>
    retired.1.usesReceive retired.2).map fun retired => retired.2.atReceiver.code

theorem successes_append (number : UInt32) (es es' : List Event) :
    successes number (es ++ es') = successes number es ++ successes number es' := by
  rw [successes, List.filterMap_append, List.filter_append]
  rfl

theorem deliveries_append (id : NativeId) (es es' : List Event) :
    deliveries id (es ++ es') = deliveries id es ++ deliveries id es' := by
  rw [deliveries, List.filterMap_append, List.filter_append, List.map_append]
  rfl

theorem expectedAnswers_append (id : NativeId) (es es' : List Event) :
    expectedAnswers id (es ++ es') = expectedAnswers id es ++ expectedAnswers id es' := by
  rw [expectedAnswers, List.filterMap_append, List.filter_append, List.map_append]
  rfl

namespace SendSide

/-- The requests that can still be received: the one in flight, if it was not answered, and those
that wait. -/
def unanswered (side : SendSide) : List SendRequest :=
  ((side.attempt.filter (·.answer.isNone)).map (·.request)).toList ++ side.waiting

/-- The request in flight, if it was received. -/
def received (side : SendSide) : List SendRequest :=
  ((side.attempt.filter (·.answer = some .success)).map (·.request)).toList

/-- The answer to the request in flight. -/
def answer (side : SendSide) : List UInt32 :=
  ((side.attempt.bind (·.answer)).map (·.code)).toList

end SendSide

/-! ## The send side, step by step -/

/-- What a part of a run says of the requests of one queue pair: some of those that could be received
were, in order, and each of their completions carries its request. A reliable queue pair retires with
what the completions say. -/
structure Agreement (id : NativeId) (made : QueuePair) (side : SendSide) (es : List Event)
    (side' : SendSide) (received : List SendRequest) : Prop where
  carried : List.Forall₂ Completion.Carries (successes made.number es) received
  ordered : (received ++ side'.unanswered).Sublist
    (side.unanswered ++ es.filterMap (Event.sendAccepted? id))
  delivered : made.transport = .reliable →
    side.received ++ received = deliveries id es ++ side'.received
  answered : made.transport = .reliable →
    side.answer ++ (es.filterMap (Event.answered? made.number)).map (·.status) =
      expectedAnswers id es ++ side'.answer

variable {id : NativeId} {made : QueuePair} {side side' : SendSide} {es : List Event}

theorem Agreement.refl (id : NativeId) (made : QueuePair) (side : SendSide) :
    Agreement id made side [] side [] where
  carried := .nil
  ordered := by
    rw [List.filterMap_nil, List.append_nil]
    exact List.Sublist.refl _
  delivered _ := List.append_nil _
  answered _ := List.append_nil _

theorem Agreement.trans {side'' : SendSide} {es' : List Event} {received received' : List SendRequest}
    (h : Agreement id made side es side' received)
    (h' : Agreement id made side' es' side'' received') :
    Agreement id made side (es ++ es') side'' (received ++ received') where
  carried := by
    rw [successes_append]
    exact List.rel_append h.carried h'.carried
  ordered := by
    rw [List.filterMap_append, List.append_assoc, ← List.append_assoc side.unanswered]
    refine (h'.ordered.append_left received).trans ?_
    rw [← List.append_assoc]
    exact h.ordered.append_right _
  delivered hreliable := by
    rw [deliveries_append, ← List.append_assoc, h.delivered hreliable, List.append_assoc,
      h'.delivered hreliable, List.append_assoc]
  answered hreliable := by
    rw [expectedAnswers_append, List.filterMap_append, List.map_append, ← List.append_assoc,
      h.answered hreliable, List.append_assoc, h'.answered hreliable, List.append_assoc]

/-- Where nothing is answered or retired. -/
theorem Agreement.of_quiet (hanswered : es.filterMap (Event.answered? made.number) = [])
    (hretired : es.filterMap (Event.sendRetired? id) = [])
    (hordered : side'.unanswered.Sublist
      (side.unanswered ++ es.filterMap (Event.sendAccepted? id)))
    (hreceived : side'.received = side.received) (hanswer : side'.answer = side.answer) :
    Agreement id made side es side' [] where
  carried := by
    rw [successes, hanswered]
    exact .nil
  ordered := hordered
  delivered _ := by
    rw [deliveries, hretired, hreceived]
    exact List.append_nil _
  answered _ := by
    rw [expectedAnswers, hretired, hanswered, hanswer]
    exact List.append_nil _

/-- Where one request is retired. A reliable one was answered before, if it used up a receive
request. -/
theorem Agreement.of_retired (request : SendRequest) (status : CompletionStatus)
    (hanswered : es.filterMap (Event.answered? made.number) = [])
    (hretired : es.filterMap (Event.sendRetired? id) = [(request, status)])
    (hordered : side'.unanswered.Sublist
      (side.unanswered ++ es.filterMap (Event.sendAccepted? id)))
    (hreceived : made.transport = .reliable → side.received =
      (if status = .success && request.opcode.consumesRecv then [request] else []) ++
        side'.received)
    (hanswer : made.transport = .reliable → side.answer =
      (if request.usesReceive status then [status.atReceiver.code] else []) ++ side'.answer) :
    Agreement id made side es side' [] where
  carried := by
    rw [successes, hanswered]
    exact .nil
  ordered := hordered
  delivered hreliable := by
    rw [List.append_nil, deliveries, hretired, hreceived hreliable, List.filter_cons]
    simp only
    split <;> rfl
  answered hreliable := by
    rw [expectedAnswers, hretired, hanswered, hanswer hreliable, List.filter_cons]
    simp only
    split <;> exact List.append_nil _

/-- A reliable request that was executed was answered by success if it retires so and uses up a
receive request, and not otherwise. -/
theorem received_of_answer {attempt : Attempt} {status : CompletionStatus}
    (hanswer : attempt.answer =
      if attempt.request.usesReceive status then some status.atReceiver else none) :
    attempt.answer = some .success ↔
      status = .success ∧ attempt.request.opcode.consumesRecv = true := by
  rw [hanswer]
  cases status <;> simp [SendRequest.usesReceive, CompletionStatus.atReceiver]

/-- The send side and its peer agree on every step. -/
theorem SendStep.agrees (h : SendStep id made side es side') :
    ∃ received, Agreement id made side es side' received := by
  cases h with
  | idle hwaiting hattempt =>
      refine ⟨[], .of_quiet rfl rfl ?_ ?_ ?_⟩
      · rw [SendSide.unanswered, SendSide.unanswered, hwaiting, hattempt]
        exact List.sublist_append_left _ _
      · rw [SendSide.received, SendSide.received, hattempt]
      · rw [SendSide.answer, SendSide.answer, hattempt]
  | accept requests =>
      refine ⟨[], .of_quiet (filterMap_map_none (fun _ => rfl) _)
        (filterMap_map_none (fun _ => rfl) _) ?_ rfl rfl⟩
      rw [filterMap_accepted]
      exact List.Sublist.refl _
  | clear => exact ⟨[], .of_quiet rfl rfl (List.nil_sublist _) rfl rfl⟩
  | launch => exact ⟨[], .of_quiet rfl rfl (List.sublist_append_left _ _) rfl rfl⟩
  | @flush request waiting attempt =>
      refine ⟨[], .of_retired request .flushed ?_ ?_ ?_ ?_ ?_⟩
      · rw [List.filterMap_cons_none rfl, List.filterMap_cons_none (answered?_sendCompletion ..)]
        rfl
      · rw [List.filterMap_cons_some (sendRetired?_self ..)]
        rfl
      · refine List.Sublist.trans ?_ (List.sublist_append_left _ _)
        exact (List.sublist_cons_self request waiting).append_left _
      · exact fun _ => rfl
      · intro _
        have hunused : request.usesReceive .flushed = false := by
          simp [SendRequest.usesReceive]
        rw [hunused]
        rfl
  | @answer state state' waiting request peer r status c cq hreceipt hstate =>
      by_cases hs : status = .success
      · subst hs
        refine ⟨[request], ?_, ?_, fun _ => rfl, fun _ => ?_⟩
        · rw [successes, List.filterMap_cons_some (hreceipt.answered cq), List.filterMap_nil,
            List.filter_cons_of_pos (by simpa using hreceipt.code)]
          exact .cons (hreceipt.carries rfl) .nil
        · exact List.sublist_append_left _ _
        · rw [List.filterMap_cons_some (hreceipt.answered cq), List.filterMap_nil]
          exact congrArg (fun code => [code]) hreceipt.code
      · have hcode := CompletionStatus.code_ne hs
        refine ⟨[], ?_, ?_, fun _ => ?_, fun _ => ?_⟩
        · rw [successes, List.filterMap_cons_some (hreceipt.answered cq), List.filterMap_nil,
            List.filter_cons_of_neg (by simpa [hreceipt.code] using hcode)]
          exact .nil
        · exact List.Sublist.trans (List.sublist_cons_self request waiting)
            (List.sublist_append_left _ _)
        · have hnot : (some (Attempt.mk request (some status))).filter
              (·.answer = some .success) = none := by
            simp [Option.filter, hs]
          rw [SendSide.received, SendSide.received, hnot]
          rfl
        · rw [List.filterMap_cons_some (hreceipt.answered cq), List.filterMap_nil]
          exact congrArg (fun code => [code]) hreceipt.code
  | @retire state waiting attempt status length hstatus hanswer =>
      refine ⟨[], .of_retired attempt.request status ?_ ?_ ?_ ?_ ?_⟩
      · rw [List.filterMap_cons_none rfl]
        split
        · rw [List.filterMap_cons_none (answered?_sendCompletion ..)]
          rfl
        · rfl
      · rw [List.filterMap_cons_some (sendRetired?_self ..)]
        split <;> rfl
      · refine List.Sublist.trans ?_ (List.sublist_append_left _ _)
        exact List.sublist_append_right _ waiting
      · intro hreliable
        have hiff := received_of_answer (hanswer hreliable)
        by_cases hsuccess : attempt.answer = some .success
        · simp [SendSide.received, hsuccess, hiff.1 hsuccess]
        · have hnot : ¬ (status = .success ∧ attempt.request.opcode.consumesRecv = true) :=
            fun hboth => hsuccess (hiff.2 hboth)
          simp [SendSide.received, hsuccess, hnot]
      · intro hreliable
        rw [SendSide.answer, Option.bind_some, hanswer hreliable]
        split <;> rfl

theorem Trail.agrees (h : Trail (SendStep id made) side es side') :
    ∃ received, Agreement id made side es side' received := by
  induction h with
  | refl => exact ⟨[], .refl id made side⟩
  | tail _ hlast ih =>
      obtain ⟨received, hagreement⟩ := ih
      obtain ⟨received', hagreement'⟩ := hlast.agrees
      exact ⟨received ++ received', hagreement.trans hagreement'⟩

/-! ## Who answers -/

/-- The completion is of a receive request that a request of `q` used up at `p`. -/
structure Fabric.QueuePair.AnsweredBy (q p : QueuePair) (c : Completion) : Prop where
  number : c.qpNumber = p.number
  destination : q.destination = some p.number
  transport : p.transport = q.transport
  connected : q.transport = .reliable → p.destination = some q.number
  failed : c.status ≠ CompletionStatus.success.code → p.state = .error

variable {s t : Scene} {q q' p p' : QueuePair} {c : Completion}

/-- It stays so while both queue pairs lose requests, or fail. -/
theorem Fabric.QueuePair.AnsweredBy.becomes (h : q.AnsweredBy p c) (hq : q.Becomes q')
    (hp : p.Becomes p') : q'.AnsweredBy p' c := by
  obtain ⟨-, -, hqTransport, -⟩ := QueuePair.fixed_of_cleared hq.fixed
  obtain ⟨-, -, hpTransport, -⟩ := QueuePair.fixed_of_cleared hp.fixed
  constructor
  case number => rw [hp.number]; exact h.number
  case destination => rw [hq.destination, hp.number]; exact h.destination
  case transport => rw [hpTransport, hqTransport]; exact h.transport
  case connected =>
    intro hreliable
    rw [hp.destination, hq.number]
    exact h.connected (hqTransport.symm.trans hreliable)
  case failed => exact fun hc => hp.error (h.failed hc)

theorem answered?_eq_some {number : UInt32} {cq : NativeId} {c' : Completion}
    (h : Event.answered? number (.handed cq c') = some c) : c' = c ∧ c.sourceQp = number := by
  rw [Event.answered?] at h
  split at h
  case isTrue hall =>
    obtain rfl := Option.some.inj h
    simp only [Bool.and_eq_true, decide_eq_true_eq] at hall
    exact ⟨rfl, hall.1.2⟩
  case isFalse => cases h

/-- A queue pair that takes a receive request that it cannot use fails. -/
theorem Fabric.afterReceipt_failed {f : Fabric} {queue : RecvQueue} {r : RecvRequest}
    {rest : List RecvRequest} {peerId : NativeId} {status : CompletionStatus}
    (hqueue : f.recvRequests queue = r :: rest) (hp : f.qps.find? peerId = some p)
    (hs : status ≠ .success) :
    ∃ p', (f.afterReceipt queue rest peerId status).qps.find? peerId = some p' ∧
      p'.state = .error := by
  obtain ⟨p₁, hp₁, -⟩ := (setRecvRequests_spends hqueue).later hp
  refine ⟨{ p₁ with state := .error }, ?_, rfl⟩
  rw [afterReceipt, if_neg hs]
  exact find?_updateQp_self hp₁ _

/-- Who answers in an act is the peer that the sender is connected to. -/
theorem Act.answered (h : Act s es t) (hs : s.fabric.Fit) (hq : s.fabric.qps.find? id = some q)
    (hmem : c ∈ es.filterMap (Event.answered? q.number)) :
    ∃ id' p q', t.fabric.qps.find? id' = some p ∧ t.fabric.qps.find? id = some q' ∧
      q'.AnsweredBy p c := by
  cases h with
  | fail | launch => cases hmem
  | flushSend =>
      rw [List.filterMap_cons_none rfl, List.filterMap_cons_none (answered?_sendCompletion ..)] at hmem
      cases hmem
  | flushRecv => simp [Event.answered?] at hmem
  | retire =>
      rw [List.filterMap_cons_none rfl] at hmem
      split at hmem
      · rw [List.filterMap_cons_none (answered?_sendCompletion ..)] at hmem
        cases hmem
      · cases hmem
  | @receive f sender peerId pending q₁ peer r rest status c' hq₁ hp haccepts hdest hqueue hreceipt =>
      rw [List.filterMap_cons_none rfl] at hmem
      obtain ⟨e, he, hread⟩ := List.mem_filterMap.1 hmem
      obtain rfl := List.mem_singleton.1 he
      -- the number tells who sent the request
      obtain ⟨rfl, hsource⟩ := answered?_eq_some hread
      obtain rfl := hs.number_inj hq hq₁ (hreceipt.source.symm.trans hsource)
      obtain rfl := Option.some.inj (hq.symm.trans hq₁)
      have hspends := Fabric.afterReceipt_spends hqueue peerId status
      obtain ⟨q', hq', hqb⟩ := hspends.later hq
      obtain ⟨p', hp', hpb⟩ := hspends.later hp
      refine ⟨peerId, p', q', hp', hq', ?_⟩
      simp only [Host.accepts, Bool.and_eq_true, Bool.or_eq_true, decide_eq_true_eq] at haccepts
      obtain ⟨⟨-, htransport⟩, hback⟩ := haccepts
      obtain ⟨-, -, hqTransport, -⟩ := QueuePair.fixed_of_cleared hqb.fixed
      obtain ⟨-, -, hpTransport, -⟩ := QueuePair.fixed_of_cleared hpb.fixed
      constructor
      case number => rw [hpb.number]; exact hreceipt.number
      case destination => rw [hqb.destination, hpb.number]; exact hdest
      case transport => rw [hpTransport, hqTransport]; exact htransport
      case connected =>
        intro hreliable
        rw [hpb.destination, hqb.number]
        rcases hback with hunreliable | hconnected
        · rw [hqTransport.symm.trans hreliable] at hunreliable
          cases hunreliable
        · exact hconnected
      case failed =>
        intro hc
        have hstatus : status ≠ .success := by
          rintro rfl
          exact hc hreceipt.code
        obtain ⟨p'', hp'', herror⟩ := Fabric.afterReceipt_failed hqueue hp hstatus
        rw [Option.some.inj (hp'.symm.trans hp'')]
        exact herror

/-- Who answered in some acts is, afterwards, the peer that the sender is connected to, and in the
error state if the receive request failed. -/
theorem Acts.answered (h : Acts s es t) (hs : s.fabric.Fit) (hq' : t.fabric.qps.find? id = some q')
    (hmem : c ∈ es.filterMap (Event.answered? q'.number)) :
    ∃ id' p, t.fabric.qps.find? id' = some p ∧ q'.AnsweredBy p c := by
  induction h generalizing q' with
  | refl => cases hmem
  | tail hacts hlast ih =>
      obtain ⟨q₁, hq₁, hb⟩ := hlast.spends.earlier hq'
      rw [List.filterMap_append, hb.number] at hmem
      rcases List.mem_append.1 hmem with hmem | hmem
      · obtain ⟨id', p, hp, hanswered⟩ := ih hq₁ hmem
        obtain ⟨p', hp', hpb⟩ := hlast.spends.later hp
        exact ⟨id', p', hp', hanswered.becomes hb hpb⟩
      · obtain ⟨id', p, q₂, hp, hq₂, hanswered⟩ := hlast.answered (Acts.fit hacts hs) hq₁ hmem
        obtain rfl := Option.some.inj (hq'.symm.trans hq₂)
        exact ⟨id', p, hp, hanswered⟩

/-! ## What unreliable senders see -/

/-- A request is retired because it was flushed, or with what the checks on the sender's side tell if
the sender is unreliable. -/
def Fabric.Retires (f : Fabric) (q : QueuePair) (request : SendRequest)
    (status : CompletionStatus) : Prop :=
  status = .flushed ∧ q.state = .error ∨
    status ≠ .flushed ∧
      (q.transport = .unreliable → (status = .success ↔ f.sendable q request = true))

theorem Fabric.Spends.retires {f g : Fabric} {request : SendRequest} {status : CompletionStatus}
    (h : f.Spends g) (hb : q.Becomes q') (hretires : f.Retires q request status) :
    g.Retires q' request status := by
  rcases hretires with ⟨hflushed, herror⟩ | ⟨hstatus, hsuccess⟩
  · exact .inl ⟨hflushed, hb.error herror⟩
  · refine .inr ⟨hstatus, fun hunreliable => ?_⟩
    obtain ⟨-, -, htransport, -⟩ := QueuePair.fixed_of_cleared hb.fixed
    rw [Fabric.sendable_congr h.regions hb.fixed]
    exact hsuccess (htransport.symm.trans hunreliable)

/-- A request is retired as flushed in the error state, or with the verdict on it. -/
theorem Act.retires (h : Act s es t) {request : SendRequest} {status : CompletionStatus}
    (hmem : .sendRetired id request status ∈ es) :
    ∃ q, s.fabric.qps.find? id = some q ∧ s.fabric.Retires q request status := by
  cases h with
  | fail | launch => cases hmem
  | flushRecv | receive => simp at hmem
  | flushSend hq herror =>
      rcases List.mem_cons.1 hmem with heq | hmem
      · obtain ⟨rfl, rfl, rfl⟩ := Event.sendRetired.inj heq
        exact ⟨_, hq, .inl ⟨rfl, herror⟩⟩
      · cases List.mem_singleton.1 hmem
  | retire _ hq hverdict =>
      rcases List.mem_cons.1 hmem with heq | hmem
      · obtain ⟨rfl, rfl, rfl⟩ := Event.sendRetired.inj heq
        exact ⟨_, hq, .inr ⟨hverdict.notFlushed, hverdict.sendable⟩⟩
      · split at hmem
        · cases List.mem_singleton.1 hmem
        · cases hmem

theorem Acts.retires (h : Acts s es t) (hq' : t.fabric.qps.find? id = some q')
    {request : SendRequest} {status : CompletionStatus}
    (hmem : .sendRetired id request status ∈ es) : t.fabric.Retires q' request status := by
  induction h generalizing q' with
  | refl => cases hmem
  | tail _ hlast ih =>
      obtain ⟨q₁, hq₁, hb⟩ := hlast.spends.earlier hq'
      rcases List.mem_append.1 hmem with hmem | hmem
      · exact hlast.spends.retires hb (ih hq₁ hmem)
      · obtain ⟨q₂, hq₂, hretires⟩ := hlast.retires hmem
        obtain rfl := Option.some.inj (hq₁.symm.trans hq₂)
        exact hlast.spends.retires hb hretires

/-! ## Runs -/

namespace Host

variable {h k : Host} {devices : List DeviceConfig}

/-- How the two sides of transfers agree from a host on. -/
structure Agrees (h : Host) : Prop where
  /-- The successful completions that requests of a queue pair led to are those of some of the
  requests that waited or were accepted, in order. If the queue pair is reliable, they are those of
  the requests that retired as received, and all answers are those that retirements tell of. -/
  received : ∀ {k : Host} {id : NativeId} {q q' : QueuePair}, h.Leads k →
    h.fabric.qps.find? id = some q → k.fabric.qps.find? id = some q' →
    ∃ received : List SendRequest,
      List.Forall₂ Completion.Carries (successes q.number (k.eventsSince h)) received ∧
        received.Sublist
          (h.sendRequests id ++ (k.eventsSince h).filterMap (Event.sendAccepted? id)) ∧
        (q.transport = .reliable →
          received = deliveries id (k.eventsSince h) ∧
            ((k.eventsSince h).filterMap (Event.answered? q.number)).map (·.status) =
              expectedAnswers id (k.eventsSince h))
  /-- Who answered during an operation is the peer that the sender is connected to, and in the error
  state if the receive request failed. -/
  answered : ∀ (op : Operation) {id : NativeId} {q : QueuePair} {c : Completion},
    (h.perform op).fabric.qps.find? id = some q →
    c ∈ ((h.perform op).eventsSince h).filterMap (Event.answered? q.number) →
    ∃ id' p, (h.perform op).fabric.qps.find? id' = some p ∧ q.AnsweredBy p c
  /-- An unreliable request that is executed succeeds if it passes the checks on its own side. -/
  retires : ∀ (op : Operation) {id : NativeId} {q : QueuePair} {request : SendRequest}
    {status : CompletionStatus}, (h.perform op).fabric.qps.find? id = some q →
    (request, status) ∈ ((h.perform op).eventsSince h).filterMap (Event.sendRetired? id) →
    (h.perform op).fabric.Retires q request status
  /-- Unreliable requests do not wait for a peer. -/
  unblocked : ∀ {id : NativeId} {q : QueuePair}, h.fabric.qps.find? id = some q →
    q.transport = .unreliable → q.state = .rts → q.sendQueue = []

theorem Leads.received (hk : h.Leads k) (hr : Reachable devices h)
    (hq : h.fabric.qps.find? id = some q) (hq' : k.fabric.qps.find? id = some q') :
    ∃ received : List SendRequest,
      List.Forall₂ Completion.Carries (successes q.number (k.eventsSince h)) received ∧
        received.Sublist
          (h.sendRequests id ++ (k.eventsSince h).filterMap (Event.sendAccepted? id)) ∧
        (q.transport = .reliable →
          received = deliveries id (k.eventsSince h) ∧
            ((k.eventsSince h).filterMap (Event.answered? q.number)).map (·.status) =
              expectedAnswers id (k.eventsSince h)) := by
  obtain ⟨-, es, htrail, hread, -⟩ := hk.sends hr hq hq'
  obtain ⟨received, hagreement⟩ := htrail.agrees
  have hordered := (List.sublist_append_left received _).trans hagreement.ordered
  rw [successes, deliveries, expectedAnswers, hread (readsSends_accepted id q.number),
    hread (readsSends_retired id q.number), hread (readsSends_answered id q.number)]
  refine ⟨received, hagreement.carried, hordered, fun hreliable => ⟨?_, ?_⟩⟩
  · exact (hagreement.delivered hreliable).trans (List.append_nil _)
  · exact (hagreement.answered hreliable).trans (List.append_nil _)

/-- Both sides of every transfer agree: a reliable request is received exactly once, by the queue
pair that it is connected to, and an unreliable one at most once. -/
theorem reachable_agrees (hr : Reachable devices h) : h.Agrees where
  received hk hq hq' := hk.received hr hq hq'
  answered op id q c hq hmem := by
    obtain ⟨g, es, hes, hchange, hacts⟩ := hr.acts op
    rw [hr.reads hes (readsSends_answered id q.number).reads,
      hchange.filterMap_eq_nil (fun _ _ => rfl) (fun _ _ => rfl) fun _ => rfl] at hmem
    exact hacts.answered (hchange.fit hr.fit) hq hmem
  retires op id q request status hq hmem := by
    obtain ⟨g, es, hes, hchange, hacts⟩ := hr.acts op
    rw [hr.reads hes (readsSends_retired id 0).reads,
      hchange.filterMap_eq_nil (fun _ _ => rfl) (fun _ _ => rfl) fun _ => rfl] at hmem
    obtain ⟨e, he, hretired⟩ := List.mem_filterMap.1 hmem
    cases e with
    | sendRetired qp =>
        rw [Event.sendRetired?] at hretired
        split at hretired
        case isTrue hid =>
          obtain ⟨rfl, rfl⟩ := Prod.mk.inj (Option.some.inj hretired)
          exact hacts.retires hq (hid ▸ he)
        case isFalse => cases hretired
    | _ => cases hretired
  unblocked {id q} hq hunreliable hrts := by
    by_contra hsend
    have hreliable := (hr.settled id q hq hrts hsend).transport
    rw [hunreliable] at hreliable
    cases hreliable

/-- A queue pair that is its own peer receives one message, and fails at the next, for the receive
request that it uses up has an entry that no region holds. -/
theorem loopback_agrees :
    let h := (({} : Host).withDevices [{}]).performAll loopback
    let k := h.performAll
      [.postRecv 5 [{}, { sges := [{ addr := 0x1000, length := 8, lkey := 1 }] }],
        .postSend 5 [{ wrId := 1, opcode := .sendWithImm, imm := 7 }, { wrId := 2 }]]
    h.Agrees ∧ (successes 0x100 (k.eventsSince h)).map (·.imm?) = [some 7] ∧
      (deliveries 5 (k.eventsSince h)).map (·.wrId) = [1] ∧
      expectedAnswers 5 (k.eventsSince h) =
        [CompletionStatus.success.code, CompletionStatus.localProtection.code] :=
  ⟨reachable_agrees ((Reachable.fresh {}).performAll _), by decide +kernel, by decide +kernel,
    by decide +kernel⟩

end Host

end Rdma
