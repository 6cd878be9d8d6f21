import Rdma.Proofs.Engine.Act
import Rdma.Proofs.Engine.Progress

/-!
# The engine acts

Whatever the engine does is a trail of acts, and what it writes down of requests is what the acts say
(`Host.Enacts`). The lemmas named `…_enacts` show it for one function of the engine each; from
`progress_enacts` on the acts stand for the engine.

* `execute_concludes` — executing a request that does not block is one flight, with the verdict that
  the outcome tells;
* `step_enacts` — one step launches a request, executes and retires it;
* `progress_enacts` — a run of the engine.
-/

namespace Rdma

open Fabric (QueuePair PendingSend)

/-- What an outcome tells the sender: the verdict on a request that does not block. -/
def SendOutcome.Tells (f : Fabric) (q : QueuePair) (flight : Flight) : SendOutcome → Prop
  | .done _ => Verdict f q flight .success
  | .blocked => False
  | .failed status => status ≠ .success ∧ Verdict f q flight status

theorem SendOutcome.Tells.congr {f g : Fabric} {q q' : QueuePair} {flight : Flight}
    {outcome : SendOutcome} (h : outcome.Tells f q flight) (hregions : g.regions = f.regions)
    (hfixed : q'.cleared = q.cleared) : outcome.Tells g q' flight := by
  cases outcome with
  | done _ => exact Verdict.congr h hregions hfixed
  | blocked => exact h
  | failed status => exact ⟨h.1, h.2.congr hregions hfixed⟩

namespace Host

/-- What the journal says of requests. -/
def entries (h : Host) : List Event := h.journal.toList.filterMap Event.ofRequest?

/-- Acts lead from one host to the other, and the journal has what they say. -/
def Enacts (h : Host) (flight : Option Flight) (k : Host) (flight' : Option Flight) : Prop :=
  ∃ es, Acts ⟨h.fabric.work, flight⟩ es ⟨k.fabric.work, flight'⟩ ∧ k.entries = h.entries ++ es

variable {h g k : Host} {flight flight' flight'' : Option Flight}

/-- Where neither the tables nor the entries changed, nothing was done. -/
theorem Enacts.of_same (hwork : k.fabric.work = h.fabric.work) (hentries : k.entries = h.entries) :
    h.Enacts flight k flight :=
  ⟨[], by rw [hwork]; exact .refl _, by rw [hentries, List.append_nil]⟩

theorem Enacts.refl (h : Host) : h.Enacts flight h flight := .of_same rfl rfl

theorem Enacts.trans (hg : h.Enacts flight g flight') (hk : g.Enacts flight' k flight'') :
    h.Enacts flight k flight'' := by
  obtain ⟨es, hacts, hentries⟩ := hg
  obtain ⟨es', hacts', hentries'⟩ := hk
  exact ⟨es ++ es', hacts.trans hacts', by rw [hentries', hentries, List.append_assoc]⟩

theorem Enacts.of_act {es : List Event} (hact : Act ⟨h.fabric.work, flight⟩ es
    ⟨k.fabric.work, flight'⟩) (hentries : k.entries = h.entries ++ es) :
    h.Enacts flight k flight' :=
  ⟨es, .single hact, hentries⟩

theorem Enacts.spends (hk : h.Enacts flight k flight') : h.fabric.work.Spends k.fabric.work := by
  obtain ⟨es, hacts, -⟩ := hk
  exact hacts.spends

theorem Enacts.fit (hk : h.Enacts flight k flight') (hf : h.fabric.work.Fit) :
    k.fabric.work.Fit := hk.spends.fit hf

/-! ## Completing -/

theorem note_entries (h : Host) (e : Event) : (h.note e).entries = h.entries ++ e.ofRequest?.toList := by
  cases he : e.ofRequest? <;> simp [entries, he]

theorem note_entries_of_none (h : Host) {e : Event} (he : e.ofRequest? = none) :
    (h.note e).entries = h.entries := by
  rw [note_entries, he]
  exact List.append_nil _

theorem raiseEvent_entries (h : Host) (channel : NativeId) (event : CqEvent) :
    (h.raiseEvent channel event).entries = h.entries := by
  unfold raiseEvent
  split
  · rfl
  · split <;> simp only [note_entries, Event.ofRequest?, Option.toList_none, List.append_nil] <;> rfl

/-- One entry for one completion, wherever it goes. -/
theorem complete_entries (h : Host) (cq : NativeId) (c : Completion) (solicited : Bool) :
    (h.complete cq c solicited).entries = h.entries ++ [.handed cq c] := by
  unfold complete
  split
  · exact note_entries h _
  split
  · have hnoted : ((h.updateCq cq fun q => { q with overflowed := true }).note
        (.completed cq c solicited false)).entries = h.entries ++ [.handed cq c] :=
      note_entries _ _
    unfold loseCompletion
    split
    · exact hnoted
    · exact (note_entries_of_none _ rfl).trans hnoted
  · have hstored : (h.storeCompletion cq c solicited).entries = h.entries ++ [.handed cq c] :=
      note_entries _ _
    split
    · unfold wake
      split
      · rw [raiseEvent_entries]
        exact hstored
      · exact hstored
    · exact hstored

theorem complete_work (h : Host) (cq : NativeId) (c : Completion) (solicited : Bool) :
    (h.complete cq c solicited).fabric.work = h.fabric.work := by
  obtain ⟨cqs, channels, journal, hsame⟩ := h.complete_frame cq c solicited
  rw [hsame]
  rfl

theorem complete_qps (h : Host) (cq : NativeId) (c : Completion) (solicited : Bool) :
    (h.complete cq c solicited).fabric.qps = h.fabric.qps :=
  congrArg (·.qps) (h.complete_work cq c solicited)

/-! ## Flushing -/

/-- Requests of a queue that are completed one after the other, each written down first. -/
theorem foldl_handed {α : Type} (event : α → Event)
    (hevent : ∀ a, (event a).ofRequest? = some (event a)) (cq : NativeId) (completion : α → Completion)
    (items : List α) (h : Host) :
    let k := items.foldl (fun h a => (h.note (event a)).complete cq (completion a) false) h
    k.fabric.work = h.fabric.work ∧
      k.entries = h.entries ++ items.flatMap fun a => [event a, .handed cq (completion a)] := by
  induction items generalizing h with
  | nil => exact ⟨rfl, (List.append_nil _).symm⟩
  | cons a rest ih =>
      obtain ⟨hwork, hentries⟩ := ih ((h.note (event a)).complete cq (completion a) false)
      refine ⟨hwork.trans (complete_work _ _ _ _), hentries.trans ?_⟩
      rw [complete_entries, note_entries, hevent]
      simp

/-- What is written down when a queue pair is flushed. -/
def flushEntries (id : NativeId) (q : QueuePair) : List Event :=
  (q.sendQueue.flatMap fun s => [.sendRetired id s.request .flushed,
    .handed q.sendCq (sendCompletion q.number s.request .flushed 0)]) ++
  q.recvQueue.flatMap fun r => [.recvFlushed id r,
    .handed q.recvCq
      { wrId := r.wrId, status := CompletionStatus.flushed.code,
        opcode := CompletionOpcode.recv.code, qpNumber := q.number }]

/-- If acts take the requests off a queue one by one, they empty it. -/
theorem acts_empty {α : Type} (get : QueuePair → List α) (set : List α → QueuePair → QueuePair)
    (say : QueuePair → α → List Event) {id : NativeId} {flight : Option Flight}
    (hget : ∀ l q, get (set l q) = l) (hset : ∀ l l' q, set l (set l' q) = set l q)
    (hself : ∀ q, set (get q) q = q) (hsay : ∀ l q, say (set l q) = say q)
    (hstate : ∀ l q, (set l q).state = q.state)
    (hact : ∀ {f q a rest}, f.qps.find? id = some q → q.state = .error → get q = a :: rest →
      Act ⟨f, flight⟩ (say q a) ⟨f.updateQp id (set rest), flight⟩)
    {f : Fabric} {q : QueuePair} (hq : f.qps.find? id = some q) (herror : q.state = .error) :
    Acts ⟨f, flight⟩ ((get q).flatMap (say q)) ⟨f.updateQp id (set []), flight⟩ := by
  induction hqueue : get q generalizing f q with
  | nil =>
      have hsame : f.updateQp id (set []) = f := by
        have hqps : f.qps.modify id (set []) = f.qps := by
          refine Table.modify_eq_self fun q' hq' => ?_
          obtain rfl := Option.some.inj (hq'.symm.trans hq)
          rw [← hqueue, hself]
        simp only [Fabric.updateQp, hqps]
      rw [hsame]
      exact .refl _
  | cons a rest ih =>
      have hnext : (f.updateQp id (set rest)).qps.find? id = some (set rest q) := by
        simp [Fabric.updateQp, hq]
      have hrest := ih hnext ((hstate rest q).trans herror) (hget rest q)
      -- the queue is emptied whatever of it is left
      have hall : (f.updateQp id (set rest)).updateQp id (set []) = f.updateQp id (set []) := by
        simp only [Fabric.updateQp, Table.modify_modify]
        congr 1
        exact congrArg _ (funext fun q => hset [] rest q)
      rw [hsay, hall] at hrest
      exact .head (hact hq herror hqueue) hrest

/-- A flush is a series of acts: first the sends are retired one by one, then the receives. -/
theorem acts_flush {f : Fabric} {id : NativeId} {q : QueuePair} (hq : f.qps.find? id = some q)
    (herror : q.state = .error) (flight : Option Flight) :
    Acts ⟨f, flight⟩ (flushEntries id q)
      ⟨f.updateQp id fun q => { q with sendQueue := [], recvQueue := [] }, flight⟩ := by
  have hsends : Acts ⟨f, flight⟩ _ ⟨_, flight⟩ :=
    acts_empty (·.sendQueue) (fun l q => { q with sendQueue := l })
      (fun q s => [.sendRetired id s.request .flushed,
        .handed q.sendCq (sendCompletion q.number s.request .flushed 0)])
      (fun _ _ => rfl) (fun _ _ _ => rfl) (fun _ => rfl) (fun _ _ => rfl) (fun _ _ => rfl)
      .flushSend hq herror
  have hnext : (f.updateQp id fun q => { q with sendQueue := [] }).qps.find? id =
      some { q with sendQueue := [] } := by simp [Fabric.updateQp, hq]
  have hrecvs : Acts ⟨_, flight⟩ _ ⟨_, flight⟩ :=
    acts_empty (·.recvQueue) (fun l q => { q with recvQueue := l })
      (fun q r => [.recvFlushed id r, .handed q.recvCq
        { wrId := r.wrId, status := CompletionStatus.flushed.code,
          opcode := CompletionOpcode.recv.code, qpNumber := q.number }])
      (fun _ _ => rfl) (fun _ _ _ => rfl) (fun _ => rfl) (fun _ _ => rfl) (fun _ _ => rfl)
      .flushRecv hnext herror
  have hall := hsends.trans hrecvs
  simp only [Fabric.updateQp, Table.modify_modify] at hall
  exact hall

/-- A queue pair that was put into the error state is in it. -/
theorem failed_state (h : Host) (id : NativeId) (q : QueuePair)
    (hq : (h.updateQp id fun q => { q with state := .error }).fabric.qps.find? id = some q) :
    q.state = .error := by
  simp only [updateQp_fabric, Fabric.updateQp, Table.find?_modify, if_true,
    Option.map_eq_some_iff] at hq
  obtain ⟨_, -, rfl⟩ := hq
  rfl

theorem flush_enacts (h : Host) (id : NativeId) (flight : Option Flight)
    (herror : ∀ q, h.fabric.qps.find? id = some q → q.state = .error) :
    h.Enacts flight (h.flush id) flight := by
  unfold flush
  cases hq : h.fabric.qps.find? id with
  | none => exact .refl h
  | some q =>
      have hacts := acts_flush (f := h.fabric.work) hq (herror q hq) flight
      -- both queues are emptied first, then their requests are completed
      let emptied := h.updateQp id fun q => { q with sendQueue := [], recvQueue := [] }
      obtain ⟨hwork, hentries⟩ := foldl_handed
        (fun s : PendingSend => .sendRetired id s.request .flushed) (fun _ => rfl) q.sendCq
        (fun s => sendCompletion q.number s.request .flushed 0) q.sendQueue emptied
      obtain ⟨hwork', hentries'⟩ := foldl_handed (.recvFlushed id) (fun _ => rfl) q.recvCq
        (fun r => { wrId := r.wrId, status := CompletionStatus.flushed.code,
                    opcode := CompletionOpcode.recv.code, qpNumber := q.number }) q.recvQueue
        (q.sendQueue.foldl (fun h s => (h.note (.sendRetired id s.request .flushed)).complete
          q.sendCq (sendCompletion q.number s.request .flushed 0) false) emptied)
      refine ⟨flushEntries id q, ?_, ?_⟩
      · rw [hwork', hwork]
        exact hacts
      · rw [hentries', hentries, List.append_assoc]
        rfl

theorem enterError_enacts (h : Host) (id : NativeId) : h.Enacts none (h.enterError id) none := by
  unfold enterError
  cases hq : h.fabric.qps.find? id with
  | none => exact .refl h
  | some q =>
      have hlogged : h.Enacts none (if q.state = .error then h else h.note (.enteredError q.number))
          none := by
        split
        · exact .refl h
        · exact .of_same rfl (note_entries_of_none h rfl)
      have hfailed (k : Host) : k.Enacts none (k.updateQp id fun q => { q with state := .error })
          none := .of_act (.fail _ id) (List.append_nil _).symm
      exact (hlogged.trans (hfailed _)).trans (flush_enacts _ id none (failed_state _ id))

/-! ## Receiving -/

theorem takeRecv_eq_some {id : NativeId} {qp : QueuePair} {r : RecvRequest}
    (ht : h.takeRecv id qp = some (r, k)) :
    ∃ rest, h.fabric.recvRequests (Fabric.recvQueueOf id qp) = r :: rest ∧
      k = ({ h with fabric := h.fabric.setRecvRequests rest (Fabric.recvQueueOf id qp) } : Host).note
        (.recvTaken (Fabric.recvQueueOf id qp) id r) := by
  simp only [takeRecv] at ht
  split at ht
  · cases ht
  · obtain ⟨rfl, rfl⟩ := Prod.mk.inj (Option.some.inj ht)
    exact ⟨_, ‹_›, rfl⟩

theorem setRecvRequests_work (f : Fabric) (requests : List RecvRequest) (queue : RecvQueue) :
    (f.setRecvRequests requests queue).work = f.work.setRecvRequests requests queue := by
  cases queue <;> rfl

/-- What becomes of a queue pair that fails, before it is flushed, is not written down as an entry. -/
theorem logError_same (h : Host) (p : Prop) [Decidable p] (number : UInt32) :
    let k := if p then h else h.note (.enteredError number)
    k.fabric = h.fabric ∧ k.entries = h.entries := by
  split
  · exact ⟨rfl, rfl⟩
  · exact ⟨rfl, note_entries_of_none h rfl⟩

theorem completeRecv_eq {id : NativeId} {p : QueuePair} (hp : h.fabric.qps.find? id = some p)
    (c : Completion) (solicited : Bool) :
    h.completeRecv id c solicited =
      let k := h.complete p.recvCq { c with qpNumber := p.number } solicited
      if c.failed then k.enterError id else k := by
  simp only [completeRecv, hp]

/-- A receive request that is taken and completed is received in one act, and flushing follows if it
failed. -/
theorem receive_enacts {sender peerId : NativeId} {pending : PendingSend} {q peer : QueuePair}
    {r : RecvRequest} {status : CompletionStatus} {c : Completion} (m : Memory) (solicited : Bool)
    (hq : h.fabric.qps.find? sender = some q) (hp : h.fabric.qps.find? peerId = some peer)
    (haccepts : accepts peer q = true) (hdest : q.destination = some peer.number)
    (ht : h.takeRecv peerId peer = some (r, k))
    (hreceipt : Receipt q peer pending.request r status { c with qpNumber := peer.number }) :
    h.Enacts (some { sender, pending })
      (({ k with memory := m } : Host).completeRecv peerId c solicited)
      (some { sender, pending, answer := some status }) := by
  obtain ⟨rest, hqueue, rfl⟩ := takeRecv_eq_some ht
  have hact := Act.receive (f := h.fabric.work) hq hp haccepts hdest hqueue hreceipt
  have hcode : c.status = status.code := hreceipt.code
  obtain ⟨peer', hp', hb⟩ := (Fabric.setRecvRequests_spends hqueue).later hp
  obtain ⟨-, hnumber, -, -, hrecvCq, -⟩ := QueuePair.fixed_of_cleared hb.fixed
  generalize Fabric.recvQueueOf peerId peer = queue at *
  rw [completeRecv_eq (p := peer') hp', hrecvCq, hnumber]
  -- the host with the completion handed over
  generalize hhanded : Host.complete _ peer.recvCq { c with qpNumber := peer.number } solicited =
    handed
  have hwork : handed.fabric.work = h.fabric.work.setRecvRequests rest queue := by
    rw [← hhanded, complete_work, ← setRecvRequests_work]
    rfl
  have hentries : handed.entries = h.entries ++ [.recvTaken queue peerId r,
      .handed peer.recvCq { c with qpNumber := peer.number }] := by
    rw [← hhanded, complete_entries]
    change (h.note (.recvTaken queue peerId r)).entries ++ _ = _
    rw [note_entries]
    exact List.append_assoc _ _ _
  have hfound : handed.fabric.qps.find? peerId = some peer' := by
    rw [← hhanded, complete_qps]
    exact hp'
  by_cases hs : status = .success
  case pos =>
    have hok : c.failed = false := by simp [Completion.failed, hcode, hs]
    simp only [Fabric.afterReceipt, hs, if_true, ← hwork] at hact
    rw [hok, hs]
    exact .of_act hact hentries
  case neg =>
    have hfailed : c.failed = true := by
      simpa [Completion.failed, hcode] using CompletionStatus.code_ne hs
    obtain ⟨hlog, hlogEntries⟩ := handed.logError_same (peer'.state = .error) peer'.number
    simp only [Fabric.afterReceipt, hs, if_false, ← hwork, ← hlog] at hact
    simp only [hfailed, if_true, enterError, hfound]
    have hact' := Enacts.of_act (k := (if peer'.state = .error then handed else
      handed.note (.enteredError peer'.number)).updateQp peerId fun q => { q with state := .error })
      hact (hlogEntries.trans hentries)
    exact hact'.trans (flush_enacts _ peerId _ (failed_state _ peerId))

/-! ## Executing -/

/-- A request passes the checks of its own side if the engine finds nothing to refuse there. -/
theorem sendable_iff {f : Fabric} {q : QueuePair} {pending : PendingSend} (hp : pending.AsPosted) :
    f.sendable q pending.request = true ↔
      (decide (q.transport = .unreliable) && pending.request.opcode.writesLocal) = false ∧
        localEntriesUsable f q pending = true ∧ payloadLength pending ≤ maxMessageSize := by
  simp only [Fabric.sendable, localEntriesUsable, hp.length, hp.inlined, Bool.and_eq_true,
    Bool.not_eq_true', decide_eq_true_eq, and_assoc]

/-- A request blocks and nothing happens, or what happens is a flight with the verdict that the
outcome tells. -/
def Concludes (h : Host) (sender : NativeId) (q : QueuePair) (pending : PendingSend)
    (result : SendOutcome × Host) : Prop :=
  result = (.blocked, h) ∨
    ∃ answer, h.Enacts (some { sender, pending }) result.2 (some { sender, pending, answer }) ∧
      result.1.Tells h.fabric q { sender, pending, answer }

section Executing

variable {sender peerId : NativeId} {q peer : QueuePair} {pending : PendingSend}
  {outcome : SendOutcome} {length : UInt32}

/-- A request that uses up no receive request leaves tables and entries alone. -/
theorem concludes_alone (hwork : k.fabric.work = h.fabric.work) (hentries : k.entries = h.entries)
    (htells : outcome.Tells h.fabric q { sender, pending }) :
    h.Concludes sender q pending (outcome, k) :=
  .inr ⟨none, .of_same hwork hentries, htells⟩

theorem tells_failed {f : Fabric} {status : CompletionStatus} (hstatus : status ≠ .success)
    (hflushed : status ≠ .flushed) (huses : pending.request.usesReceive status = false)
    (hlocal : q.transport = .unreliable → f.sendable q pending.request = false) :
    (SendOutcome.failed status).Tells f q { sender, pending } := by
  refine ⟨hstatus, hflushed, fun _ => ?_, fun htransport => ?_⟩
  · rw [huses]
    rfl
  · rw [hlocal htransport]
    exact iff_of_false hstatus Bool.false_ne_true

/-- What a reliable sender would be told does not matter to an unreliable one: a request that got
past its own side is done. -/
theorem tells_lost {f : Fabric} {flight : Flight} (hsend : f.sendable q flight.pending.request = true)
    (htells : q.transport = .reliable → outcome.Tells f q flight) :
    (SendOutcome.lost q.transport length outcome).Tells f q flight := by
  cases htransport : q.transport with
  | reliable => exact htells htransport
  | unreliable =>
      refine ⟨by decide, fun hreliable => ?_, fun _ => iff_of_true rfl hsend⟩
      cases htransport.symm.trans hreliable

/-- Without a receive request a reliable sender blocks, and an unreliable one does not notice. -/
theorem concludes_unreceived (hsend : h.fabric.sendable q pending.request = true) :
    h.Concludes sender q pending (.lost q.transport length .blocked, h) := by
  cases htransport : q.transport with
  | reliable => exact .inl rfl
  | unreliable =>
      have htells : (SendOutcome.lost q.transport length .blocked).Tells h.fabric q
          { sender, pending } :=
        tells_lost hsend fun hreliable => by cases htransport.symm.trans hreliable
      rw [htransport] at htells
      exact concludes_alone rfl rfl htells

/-- A request that is done, and used up a receive request if it has to. -/
theorem tells_done {answer : Option CompletionStatus}
    (hsend : h.fabric.sendable q pending.request = true)
    (hanswer : q.transport = .reliable →
      answer = if pending.request.opcode.consumesRecv then some .success else none) :
    (SendOutcome.done length).Tells h.fabric q { sender, pending, answer } := by
  refine ⟨by decide, fun hreliable => ?_, fun _ => iff_of_true rfl hsend⟩
  simpa [SendRequest.usesReceive, CompletionStatus.atReceiver] using hanswer hreliable

/-- A failed receive request is told of with the status it failed with. -/
theorem tells_refused {status : CompletionStatus}
    (hstatus : status = .remoteOperation ∨ status = .remoteInvalidRequest)
    (hsend : h.fabric.sendable q pending.request = true)
    (htwoSided : pending.request.opcode.consumesRecv = true) :
    (SendOutcome.lost q.transport length (.failed status)).Tells h.fabric q
      { sender, pending, answer := some status.atReceiver } := by
  refine tells_lost hsend fun hreliable => ⟨?_, ?_, fun _ => ?_, fun hunreliable => ?_⟩
  · rcases hstatus with rfl | rfl <;> decide
  · rcases hstatus with rfl | rfl <;> decide
  · rcases hstatus with rfl | rfl <;> simp [SendRequest.usesReceive, htwoSided]
  · cases hreliable.symm.trans hunreliable

section Peer

variable (hf : h.fabric.work.Fit) (hq : h.fabric.qps.find? sender = some q)
  (hpeer : peerOf? h.fabric q = some (peerId, peer))
  (hsend : h.fabric.sendable q pending.request = true)
  (hlength : length.toNat = pending.request.totalLength)

include hf hpeer

/-- The peer has the number that the queue pair is connected to. -/
theorem destination_of_peerOf : q.destination = some peer.number ∧
    h.fabric.qps.find? peerId = some peer ∧ accepts peer q = true := by
  obtain ⟨number, hdest, hnumber, hp, haccepts⟩ := peerOf_eq_some hpeer
  obtain ⟨p, hp', rfl⟩ := (hf.numbered number peerId).1 hnumber
  obtain rfl : p = peer := Option.some.inj (hp'.symm.trans hp)
  exact ⟨hdest, hp, haccepts⟩

include hq hsend hlength

/-- A send concludes as its receive request allows, and if there is none it blocks or is lost. -/
theorem deliver_concludes (hop : pending.request.opcode = .send ∨
    pending.request.opcode = .sendWithImm) :
    h.Concludes sender q pending (h.deliver q peerId peer pending length) := by
  obtain ⟨hdest, hp, haccepts⟩ := destination_of_peerOf hf hpeer
  have htwoSided : pending.request.opcode.consumesRecv = true := by
    rcases hop with hop | hop <;> rw [hop] <;> rfl
  unfold deliver
  cases ht : h.takeRecv peerId peer with
  | none => exact concludes_unreceived hsend
  | some taken =>
      obtain ⟨r, k⟩ := taken
      obtain ⟨peer', hp', -⟩ := (takeRecv_moves ht).find_qp hp
      have hrefused (status : CompletionStatus)
          (hstatus : status = .localProtection ∨ status = .localLength) :
          Receipt q peer pending.request r status
            { wrId := r.wrId, opcode := CompletionOpcode.recv.code, sourceQp := q.number,
              status := status.code, qpNumber := peer.number } :=
        ⟨htwoSided, rfl, rfl, rfl, rfl, by simp [Completion.ofReceive],
          by rcases hstatus with rfl | rfl <;> exact nofun, fun _ => hstatus⟩
      simp only [hp']
      split
      -- the receive request has entries that may not be written to
      · exact .inr ⟨some .localProtection,
          receive_enacts k.memory false hq hp haccepts hdest ht (hrefused _ (.inl rfl)),
          tells_refused (.inl rfl) hsend htwoSided⟩
      split
      -- the message does not fit
      · exact .inr ⟨some .localLength,
          receive_enacts k.memory false hq hp haccepts hdest ht (hrefused _ (.inr rfl)),
          tells_refused (.inr rfl) hsend htwoSided⟩
      · refine .inr ⟨some .success, receive_enacts _ _ hq hp haccepts hdest ht ?_,
          tells_done hsend fun _ => by rw [if_pos htwoSided]⟩
        have hplain : pending.request.opcode ≠ .writeWithImm := by
          rcases hop with hop | hop <;> rw [hop] <;> decide
        by_cases himm : pending.request.opcode.hasImm = true
        · simp only [himm, if_true]
          refine .success rfl rfl rfl rfl ⟨htwoSided, (if_neg hplain).symm, hlength, ?_⟩
          rw [if_pos himm]
          exact Completion.imm?_of_withImm rfl
        · simp only [himm, Bool.false_eq_true, if_false]
          refine .success rfl rfl rfl rfl ⟨htwoSided, (if_neg hplain).symm, hlength, ?_⟩
          rw [if_neg himm]
          exact Completion.imm?_of_plain rfl

/-- A write concludes without the peer unless it has an immediate, which takes a receive request. -/
theorem remoteWrite_concludes (hop : pending.request.opcode = .write ∨
    pending.request.opcode = .writeWithImm) :
    h.Concludes sender q pending (h.remoteWrite q peerId peer pending length) := by
  obtain ⟨hdest, hp, haccepts⟩ := destination_of_peerOf hf hpeer
  simp only [remoteWrite]
  split
  · refine concludes_alone rfl rfl (tells_lost hsend fun hreliable => ?_)
    exact tells_failed (by decide) (by decide) (by simp [SendRequest.usesReceive])
      fun hunreliable => by cases hreliable.symm.trans hunreliable
  split
  case isTrue htwoSided =>
    have himm : pending.request.opcode = .writeWithImm := by
      rcases hop with hop | hop
      · rw [hop] at htwoSided; cases htwoSided
      · exact hop
    cases ht : h.takeRecv peerId peer with
    | none => exact concludes_unreceived hsend
    | some taken =>
        obtain ⟨r, k⟩ := taken
        refine .inr ⟨some .success, receive_enacts _ _ hq hp haccepts hdest ht ?_,
          tells_done hsend fun _ => by rw [if_pos htwoSided]⟩
        refine .success rfl rfl rfl rfl ⟨htwoSided, (if_pos himm).symm, hlength, ?_⟩
        rw [himm]
        exact Completion.imm?_of_withImm rfl
  case isFalse honeSided =>
    exact concludes_alone rfl rfl (tells_done hsend fun _ => by rw [if_neg honeSided])

omit hf hq hpeer hlength in
theorem remoteRead_concludes (hop : pending.request.opcode = .read)
    (hreliable : q.transport = .reliable) :
    h.Concludes sender q pending (h.remoteRead peer pending.request length) := by
  unfold remoteRead
  split
  · exact concludes_alone rfl rfl (tells_done hsend fun _ => by rw [hop]; rfl)
  · exact concludes_alone rfl rfl (tells_failed (by decide) (by decide)
      (by simp [SendRequest.usesReceive]) fun hunreliable => by
        cases hreliable.symm.trans hunreliable)

omit hf hq hpeer hlength in
/-- An atomic concludes without the peer, as denied or as done. -/
theorem remoteAtomic_concludes (hop : pending.request.opcode.consumesRecv = false)
    (hreliable : q.transport = .reliable) :
    h.Concludes sender q pending (h.remoteAtomic peer pending.request) := by
  have hfailed {status : CompletionStatus} (hstatus : status ≠ .success) (hflushed : status ≠ .flushed)
      (hrefused : status ≠ .remoteOperation) :
      h.Concludes sender q pending (.failed status, h) := by
    refine concludes_alone rfl rfl (tells_failed hstatus hflushed ?_ fun hunreliable => ?_)
    · simp [SendRequest.usesReceive, hop, hrefused]
    · cases hreliable.symm.trans hunreliable
  have hstored (m : Memory) : h.Concludes sender q pending (.done 8, { h with memory := m }) :=
    concludes_alone rfl rfl (tells_done hsend fun _ => by rw [hop]; rfl)
  unfold remoteAtomic
  split
  · split
    · exact hfailed (by decide) (by decide) (by decide)
    split
    · exact hfailed (by decide) (by decide) (by decide)
    split
    · exact hfailed (by decide) (by decide) (by decide)
    · exact hstored _
  · exact hfailed (by decide) (by decide) (by decide)

end Peer

/-- Executing a request concludes it: the checks of its own side say whether it could be sent at
all, and what follows depends on the peer. -/
theorem executeFor_concludes (hf : h.fabric.work.Fit) (hq : h.fabric.qps.find? sender = some q)
    (hposted : pending.AsPosted) : h.Concludes sender q pending (h.executeFor q pending) := by
  have hsendable := sendable_iff (f := h.fabric) (q := q) hposted
  have hrefused {status : CompletionStatus} (hstatus : status ≠ .success)
      (hflushed : status ≠ .flushed) (huses : pending.request.usesReceive status = false)
      (hlocal : h.fabric.sendable q pending.request ≠ true) :
      h.Concludes sender q pending (.failed status, h) :=
    concludes_alone rfl rfl (tells_failed hstatus hflushed huses fun _ =>
      Bool.not_eq_true _ ▸ hlocal)
  simp only [executeFor]
  split
  case isTrue hone =>
    refine hrefused (by decide) (by decide) (by simp [SendRequest.usesReceive]) fun hsend => ?_
    rw [(hsendable.1 hsend).1] at hone
    cases hone
  case isFalse hone =>
  split
  case isTrue hunusable =>
    refine hrefused (by decide) (by decide) (by simp [SendRequest.usesReceive]) fun hsend => ?_
    rw [(hsendable.1 hsend).2.1] at hunusable
    cases hunusable
  case isFalse husable =>
  split
  case isTrue hlong =>
    refine hrefused (by decide) (by decide) (by simp [SendRequest.usesReceive]) fun hsend => ?_
    exact absurd hlong (Nat.not_lt.2 (hsendable.1 hsend).2.2)
  case isFalse hlong =>
  -- the request got past its own side
  have hone : (decide (q.transport = .unreliable) && pending.request.opcode.writesLocal) = false :=
    Bool.not_eq_true _ ▸ hone
  have hsend : h.fabric.sendable q pending.request = true :=
    hsendable.2 ⟨hone, by simpa using husable, Nat.not_lt.1 hlong⟩
  have hlength : (UInt32.ofNat (payloadLength pending)).toNat = pending.request.totalLength := by
    rw [UInt32.toNat_ofNat_of_lt', hposted.length]
    have hmax : maxMessageSize < UInt32.size := by decide
    omega
  have hreliable (hop : pending.request.opcode.writesLocal = true) : q.transport = .reliable := by
    cases htransport : q.transport with
    | reliable => rfl
    | unreliable => simp [htransport, hop] at hone
  cases hp : peerOf? h.fabric q with
  | none =>
      refine concludes_alone rfl rfl (tells_lost hsend fun hreliable => ?_)
      exact tells_failed (by decide) (by decide) (by simp [SendRequest.usesReceive])
        fun hunreliable => by cases hreliable.symm.trans hunreliable
  | some found =>
      obtain ⟨peerId, peer⟩ := found
      cases hop : pending.request.opcode <;> simp only [hop] at hreliable ⊢
      case send => exact deliver_concludes hf hq hp hsend hlength (.inl hop)
      case sendWithImm => exact deliver_concludes hf hq hp hsend hlength (.inr hop)
      case write => exact remoteWrite_concludes hf hq hp hsend hlength (.inl hop)
      case writeWithImm => exact remoteWrite_concludes hf hq hp hsend hlength (.inr hop)
      case read => exact remoteRead_concludes hsend hop (hreliable rfl)
      case compareSwap | fetchAdd =>
        exact remoteAtomic_concludes hsend (by rw [hop]; rfl) (hreliable rfl)

theorem execute_concludes (hf : h.fabric.work.Fit) (hq : h.fabric.qps.find? sender = some q)
    (hposted : pending.AsPosted) : h.Concludes sender q pending (h.execute sender pending) := by
  unfold execute
  rw [hq]
  exact executeFor_concludes hf hq hposted

end Executing

/-! ## Stepping -/

/-- What follows from an outcome retires the request, and fails the queue pair if that failed. -/
theorem conclude_enacts {id : NativeId} {q : QueuePair} {pending : PendingSend}
    {answer : Option CompletionStatus} {outcome : SendOutcome}
    (hq : h.fabric.qps.find? id = some q)
    (htells : outcome.Tells h.fabric.work q { sender := id, pending, answer }) :
    h.Enacts (some { sender := id, pending, answer }) (h.conclude id q pending outcome).2 none := by
  cases outcome with
  | blocked => exact htells.elim
  | done byteLength =>
      have hact : Act ⟨h.fabric.work, some { sender := id, pending, answer }⟩ _
          ⟨h.fabric.work, none⟩ := .retire byteLength hq htells
      simp only [conclude]
      split
      case isTrue hreports =>
        have hreports : q.reports pending.request .success = true := by
          simpa [QueuePair.reports] using hreports
        rw [if_pos hreports] at hact
        refine .of_act (by rw [complete_work]; exact hact) ?_
        rw [complete_entries, note_entries]
        exact List.append_assoc _ _ _
      case isFalse hreports =>
        have hreports : q.reports pending.request .success = false := by
          simpa [QueuePair.reports] using hreports
        rw [hreports] at hact
        exact .of_act hact (note_entries _ _)
  | failed status =>
      obtain ⟨hstatus, hverdict⟩ := htells
      have hact : Act ⟨h.fabric.work, some { sender := id, pending, answer }⟩ _
          ⟨h.fabric.work, none⟩ := .retire 0 hq hverdict
      have hreports : q.reports pending.request status = true := by
        simp [QueuePair.reports, hstatus]
      rw [if_pos hreports] at hact
      let retired := (((h.note (.requestFailed q.number pending.request.wrId status)).note
        (.sendRetired id pending.request status)).complete q.sendCq
          (sendCompletion q.number pending.request status 0) false)
      have hretired : h.Enacts (some { sender := id, pending, answer }) retired none := by
        refine .of_act (by rw [complete_work]; exact hact) ?_
        rw [complete_entries, note_entries, note_entries]
        simp [Event.ofRequest?]
      exact hretired.trans (enterError_enacts _ id)

/-- One step launches a request, executes and retires it, or does nothing. -/
theorem step_enacts (hf : h.fabric.work.Fit) (id : NativeId) :
    h.Enacts none (h.step id).2 none := by
  by_cases hidle : ∀ q, h.fabric.qps.find? id = some q → q.state = .rts → q.sendQueue = []
  · rw [step_of_idle hidle]
    exact .refl h
  obtain ⟨q, hq, hs, hne⟩ : ∃ q, h.fabric.qps.find? id = some q ∧ q.state = .rts ∧
      q.sendQueue ≠ [] := by grind
  obtain ⟨pending, rest, hsend⟩ := List.exists_cons_of_ne_nil hne
  by_cases hb : ((h.popped id rest).execute id pending).1 = .blocked
  · rw [step_of_blocked hq hs hsend hb]
    exact .refl h
  have hlaunch : h.Enacts none (h.popped id rest) (some { sender := id, pending }) :=
    .of_act (.launch hq hs hsend) (List.append_nil _).symm
  have hposted : pending.AsPosted := hf.posted hq pending (by rw [hsend]; exact List.mem_cons_self)
  -- the request does not block, so it is executed
  rcases execute_concludes (hlaunch.fit hf) (popped_find hq rest) hposted with
    hblocked | ⟨answer, hexecute, htells⟩
  · rw [hblocked] at hb
    exact absurd rfl hb
  obtain ⟨q', hq', hbecomes⟩ := hexecute.spends.later (popped_find hq rest)
  have hq' : ((h.popped id rest).execute id pending).2.fabric.qps.find? id = some q' := hq'
  have hconclude := conclude_enacts hq'
    (htells.congr hexecute.spends.regions hbecomes.fixed)
  rw [step_eq hq hs hsend]
  simp only [hq']
  exact hlaunch.trans (hexecute.trans hconclude)

/-! ## Running -/

theorem drainUpTo_enacts (n : Nat) (hf : h.fabric.work.Fit) (id : NativeId) :
    h.Enacts none (drainUpTo n h id).2 none := by
  induction n generalizing h with
  | zero => exact .refl h
  | succ n ih =>
      have hstep := step_enacts hf id
      simp only [drainUpTo]
      cases hs : h.step id with
      | mk consumed k =>
          rw [hs] at hstep
          cases consumed with
          | false => exact hstep
          | true => exact hstep.trans (ih (hstep.fit hf))

theorem pass_enacts (hf : h.fabric.work.Fit) : h.Enacts none h.pass.2 none := by
  have hdrained (ids : List NativeId) : ∀ (moved : Bool) (k : Host), k.fabric.work.Fit →
      k.Enacts none (ids.foldl passOne (moved, k)).2 none := by
    induction ids with
    | nil => exact fun _ k _ => .refl k
    | cons id rest ih =>
        intro moved k hk
        have hid : k.Enacts none (k.drain id).2 none := drainUpTo_enacts _ hk id
        exact hid.trans (ih _ _ (hid.fit hk))
  rw [pass_eq]
  exact hdrained _ _ h hf

theorem progress_enacts (hf : h.fabric.work.Fit) : h.Enacts none h.progress none := by
  have hrun (n : Nat) : ∀ k : Host, k.fabric.work.Fit → k.Enacts none (progressUpTo n k) none := by
    induction n with
    | zero => exact fun k _ => .refl k
    | succ n ih =>
        intro k hk
        have hpass := pass_enacts hk
        simp only [progressUpTo]
        cases hp : k.pass with
        | mk moved k' =>
            rw [hp] at hpass
            cases moved with
            | false => exact hpass
            | true => exact hpass.trans (ih k' (hpass.fit hk))
  exact hrun _ h hf

end Host

end Rdma
