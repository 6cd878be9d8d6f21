import Rdma.Proofs.Engine.Motion

/-!
# The acts of the engine

What the engine does to requests, one request at a time. A scene is a fabric without completion
queues and channels, and the request in flight: off its send queue and not yet retired. An act leads
from one scene to the next, and says what became of a request. A receive request that leaves its
queue is completed by the same act; a send request is launched by one act and retired by another,
and between the two the queue that it came from may be flushed.

* `Act.spends` — what an act can do to a queue pair;
* `Acts.fit` — acts keep a scene fit: numbers name one queue pair each, and requests in send queues
  are as they were posted.
-/

namespace Rdma

open Fabric (QueuePair PendingSend)

/-! ## What is written down of requests -/

namespace Event

/-- A completion was handed to a completion queue; what became of it there is left open. -/
abbrev handed (cq : NativeId) (c : Completion) : Event := .completed cq c false true

/-- What the event says of a request, if it says anything of one. -/
def ofRequest? : Event → Option Event
  | .completed cq c _ _ | .undelivered cq c => some (handed cq c)
  | .sendAccepted qp request => some (.sendAccepted qp request)
  | .sendRetired qp request status => some (.sendRetired qp request status)
  | .recvAccepted queue request => some (.recvAccepted queue request)
  | .recvTaken queue qp request => some (.recvTaken queue qp request)
  | .recvFlushed qp request => some (.recvFlushed qp request)
  | .queuesCleared qp => some (.queuesCleared qp)
  | _ => none

end Event

namespace Completion

/-- Does the completion belong to a receive request? -/
def ofReceive (c : Completion) : Bool :=
  c.opcode = CompletionOpcode.recv.code || c.opcode = CompletionOpcode.recvWriteWithImm.code

/-- The completion of a receive request tells of all that a send request carried. -/
structure Carries (c : Completion) (r : SendRequest) : Prop where
  twoSided : r.opcode.consumesRecv = true
  opcode : c.opcode = if r.opcode = .writeWithImm then CompletionOpcode.recvWriteWithImm.code
    else CompletionOpcode.recv.code
  length : c.byteLength.toNat = r.totalLength
  imm : c.imm? = if r.opcode.hasImm then some r.imm else none

theorem imm?_of_withImm {c : Completion} (h : c.flags = withImm) : c.imm? = some c.imm := by
  rw [imm?, h]
  rfl

theorem imm?_of_plain {c : Completion} (h : c.flags = 0) : c.imm? = none := by
  rw [imm?, h]
  rfl

theorem Carries.ofReceive {c : Completion} {r : SendRequest} (h : c.Carries r) :
    c.ofReceive = true := by
  have hopcode := h.opcode
  unfold Completion.ofReceive
  split at hopcode <;> simp [hopcode]

end Completion

/-- What the receive request was completed with that a reliable request used up, by what the request
itself retires with. -/
def CompletionStatus.atReceiver : CompletionStatus → CompletionStatus
  | .remoteOperation => .localProtection
  | .remoteInvalidRequest => .localLength
  | status => status

/-- Does the status say that a reliable request used up a receive request? -/
def SendRequest.usesReceive (r : SendRequest) (status : CompletionStatus) : Bool :=
  status = .remoteOperation ||
    r.opcode.consumesRecv && (status = .success || status = .remoteInvalidRequest)

namespace Fabric

/-- What waits in the send queue is the request as it was posted. -/
structure PendingSend.AsPosted (p : PendingSend) : Prop where
  length : Host.payloadLength p = p.request.totalLength
  inlined : p.inlined.isSome = p.request.isInline

/-- Is the owner of the queue pair told of a request that retires with the status? -/
def QueuePair.reports (q : QueuePair) (r : SendRequest) (status : CompletionStatus) : Bool :=
  status ≠ .success || q.signalAll || r.flags.contains .signaled

/-- Does a request pass the checks on its own side? -/
def sendable (f : Fabric) (q : QueuePair) (r : SendRequest) : Bool :=
  !(q.transport = .unreliable && r.opcode.writesLocal) &&
    (r.isInline || r.sges.all fun sge =>
      (f.localRegion? q.pd sge).any fun region =>
        !r.opcode.writesLocal || region.permission.contains .localWrite) &&
    r.totalLength ≤ maxMessageSize

/-- The fabric but for completion queues and channels: the engine hands completions to those, and
does not look at them otherwise. -/
def work (f : Fabric) : Fabric := { f with cqs := {}, channels := {} }

/-- The fabric after a queue pair took the first request of a receive queue. One that cannot use the
request fails. -/
def afterReceipt (f : Fabric) (queue : RecvQueue) (rest : List RecvRequest) (peerId : NativeId)
    (status : CompletionStatus) : Fabric :=
  let f := f.setRecvRequests rest queue
  if status = .success then f else f.updateQp peerId fun p => { p with state := .error }

end Fabric

/-! ## Acts -/

/-- A request off its send queue that has not been retired. -/
structure Flight where
  sender : NativeId
  pending : PendingSend
  /-- What the receive request that it used up was completed with. -/
  answer : Option CompletionStatus := none

structure Scene where
  fabric : Fabric
  flight : Option Flight := none

/-- What the peer of `q` reports of a receive request that a request of `q` used up. -/
structure Receipt (q peer : QueuePair) (request : SendRequest) (r : RecvRequest)
    (status : CompletionStatus) (c : Completion) : Prop where
  twoSided : request.opcode.consumesRecv = true
  wrId : c.wrId = r.wrId
  number : c.qpNumber = peer.number
  source : c.sourceQp = q.number
  code : c.status = status.code
  ofReceive : c.ofReceive = true
  carries : status = .success → c.Carries request
  failed : status ≠ .success → status = .localProtection ∨ status = .localLength

theorem Receipt.success {q peer : QueuePair} {request : SendRequest} {r : RecvRequest}
    {c : Completion} (hwrId : c.wrId = r.wrId) (hnumber : c.qpNumber = peer.number)
    (hsource : c.sourceQp = q.number) (hcode : c.status = CompletionStatus.success.code)
    (hcarries : c.Carries request) : Receipt q peer request r .success c :=
  ⟨hcarries.twoSided, hwrId, hnumber, hsource, hcode, hcarries.ofReceive, fun _ => hcarries,
    fun hs => absurd rfl hs⟩

/-- What a request that was executed may retire with. A reliable sender is told what became of the
receive request that was used up, and whether one was; an unreliable sender sees its own side only.
-/
structure Verdict (f : Fabric) (q : QueuePair) (flight : Flight) (status : CompletionStatus) :
    Prop where
  notFlushed : status ≠ .flushed
  answered : q.transport = .reliable →
    flight.answer =
      if flight.pending.request.usesReceive status then some status.atReceiver else none
  sendable : q.transport = .unreliable → (status = .success ↔ f.sendable q flight.pending.request)

/-- The checks look at regions, and at what a queue pair was created as. -/
theorem Fabric.sendable_congr {f g : Fabric} {q q' : QueuePair} (hregions : g.regions = f.regions)
    (hfixed : q'.cleared = q.cleared) (r : SendRequest) : g.sendable q' r = f.sendable q r := by
  obtain ⟨hpd, -, htransport, -⟩ := QueuePair.fixed_of_cleared hfixed
  simp only [sendable, localRegion?, hregions, hpd, htransport]

theorem Verdict.congr {f g : Fabric} {q q' : QueuePair} {flight : Flight}
    {status : CompletionStatus} (h : Verdict f q flight status) (hregions : g.regions = f.regions)
    (hfixed : q'.cleared = q.cleared) : Verdict g q' flight status where
  notFlushed := h.notFlushed
  answered htransport := by
    obtain ⟨-, -, hsame, -⟩ := QueuePair.fixed_of_cleared hfixed
    exact h.answered (hsame.symm.trans htransport)
  sendable htransport := by
    obtain ⟨-, -, hsame, -⟩ := QueuePair.fixed_of_cleared hfixed
    rw [Fabric.sendable_congr hregions hfixed]
    exact h.sendable (hsame.symm.trans htransport)

open Host (sendCompletion accepts)

/-- One thing that the engine does to requests. -/
inductive Act : Scene → List Event → Scene → Prop
  | fail (f : Fabric) (id : NativeId) :
      Act ⟨f, none⟩ [] ⟨f.updateQp id fun q => { q with state := .error }, none⟩
  | flushSend {f : Fabric} {flight : Option Flight} {id : NativeId} {q : QueuePair}
      {pending : PendingSend} {rest : List PendingSend} :
      f.qps.find? id = some q → q.state = .error → q.sendQueue = pending :: rest →
      Act ⟨f, flight⟩
        [.sendRetired id pending.request .flushed,
          .handed q.sendCq (sendCompletion q.number pending.request .flushed 0)]
        ⟨f.updateQp id fun q => { q with sendQueue := rest }, flight⟩
  | flushRecv {f : Fabric} {flight : Option Flight} {id : NativeId} {q : QueuePair}
      {r : RecvRequest} {rest : List RecvRequest} :
      f.qps.find? id = some q → q.state = .error → q.recvQueue = r :: rest →
      Act ⟨f, flight⟩
        [.recvFlushed id r,
          .handed q.recvCq
            { wrId := r.wrId, status := CompletionStatus.flushed.code,
              opcode := CompletionOpcode.recv.code, qpNumber := q.number }]
        ⟨f.updateQp id fun q => { q with recvQueue := rest }, flight⟩
  | launch {f : Fabric} {id : NativeId} {q : QueuePair} {pending : PendingSend}
      {rest : List PendingSend} :
      f.qps.find? id = some q → q.state = .rts → q.sendQueue = pending :: rest →
      Act ⟨f, none⟩ []
        ⟨f.updateQp id fun q => { q with sendQueue := rest }, some { sender := id, pending }⟩
  | receive {f : Fabric} {sender peerId : NativeId} {pending : PendingSend} {q peer : QueuePair}
      {r : RecvRequest} {rest : List RecvRequest} {status : CompletionStatus} {c : Completion} :
      f.qps.find? sender = some q → f.qps.find? peerId = some peer → accepts peer q = true →
      q.destination = some peer.number →
      f.recvRequests (Fabric.recvQueueOf peerId peer) = r :: rest →
      Receipt q peer pending.request r status c →
      Act ⟨f, some { sender, pending }⟩
        [.recvTaken (Fabric.recvQueueOf peerId peer) peerId r, .handed peer.recvCq c]
        ⟨f.afterReceipt (Fabric.recvQueueOf peerId peer) rest peerId status,
          some { sender, pending, answer := some status }⟩
  | retire {f : Fabric} {flight : Flight} {q : QueuePair} {status : CompletionStatus}
      (length : UInt32) :
      f.qps.find? flight.sender = some q → Verdict f q flight status →
      Act ⟨f, some flight⟩
        (.sendRetired flight.sender flight.pending.request status ::
          if q.reports flight.pending.request status then
            [.handed q.sendCq (sendCompletion q.number flight.pending.request status length)]
          else [])
        ⟨f, none⟩

/-- One step after the other, with all that they say. -/
inductive Trail {σ : Type} (step : σ → List Event → σ → Prop) : σ → List Event → σ → Prop
  | refl (s : σ) : Trail step s [] s
  | tail {s t u : σ} {es es' : List Event} : Trail step s es t → step t es' u →
      Trail step s (es ++ es') u

/-- Acts of the engine, one after the other. -/
abbrev Acts : Scene → List Event → Scene → Prop := Trail Act

namespace Trail

variable {σ : Type} {step : σ → List Event → σ → Prop} {s t u : σ} {es es' : List Event}

theorem single (h : step s es t) : Trail step s es t := by
  simpa using Trail.tail (.refl s) h

theorem trans (hst : Trail step s es t) (htu : Trail step t es' u) :
    Trail step s (es ++ es') u := by
  induction htu with
  | refl => simpa using hst
  | tail _ hlast ih => rw [← List.append_assoc]; exact ih.tail hlast

theorem head (hst : step s es t) (htu : Trail step t es' u) : Trail step s (es ++ es') u :=
  (single hst).trans htu

theorem mono {step' : σ → List Event → σ → Prop} (hle : ∀ s es t, step s es t → step' s es t)
    (h : Trail step s es t) : Trail step' s es t := by
  induction h with
  | refl => exact .refl s
  | tail _ hlast ih => exact ih.tail (hle _ _ _ hlast)

/-- Where every step is a step of a view, seen through the events that the view looks at, a trail is
a trail of the view. -/
theorem view {τ : Type} {step' : τ → List Event → τ → Prop} {see : σ → τ} {looks : Event → Bool}
    (hstep : ∀ s es t, step s es t → step' (see s) (es.filter looks) (see t))
    (h : Trail step s es t) : Trail step' (see s) (es.filter looks) (see t) := by
  induction h with
  | refl => exact .refl _
  | tail _ hlast ih =>
      rw [List.filter_append]
      exact ih.tail (hstep _ _ _ hlast)

/-- What each step keeps is kept along a trail. -/
theorem keeps {P : σ → Prop} (hstep : ∀ s es t, step s es t → P s → P t)
    (h : Trail step s es t) (hs : P s) : P t := by
  induction h with
  | refl => exact hs
  | tail _ hlast ih => exact hstep _ _ _ hlast ih

end Trail

/-! ## What acts spend -/

/-- A queue pair may lose requests and fail; all else it keeps. -/
structure Fabric.QueuePair.Becomes (q q' : QueuePair) : Prop where
  fixed : q'.cleared = q.cleared
  destination : q'.destination = q.destination
  state : q'.state = q.state ∨ q'.state = .error
  sends : q'.sendQueue <:+ q.sendQueue
  recvs : q'.recvQueue <:+ q.recvQueue

namespace Fabric

theorem QueuePair.Becomes.refl (q : QueuePair) : q.Becomes q :=
  ⟨rfl, rfl, .inl rfl, List.suffix_refl _, List.suffix_refl _⟩

theorem QueuePair.Becomes.trans {q q' q'' : QueuePair} (h : q.Becomes q') (h' : q'.Becomes q'') :
    q.Becomes q'' where
  fixed := h'.fixed.trans h.fixed
  destination := h'.destination.trans h.destination
  state := by
    rcases h'.state with hsame | herror
    · rw [hsame]; exact h.state
    · exact .inr herror
  sends := h'.sends.trans h.sends
  recvs := h'.recvs.trans h.recvs

/-- A queue pair in the error state stays there. -/
theorem QueuePair.Becomes.error {q q' : QueuePair} (h : q.Becomes q') (hq : q.state = .error) :
    q'.state = .error :=
  h.state.elim (·.trans hq) id

/-- `g` is `f` with requests spent: nothing came or went, and no queue grew. -/
structure Spends (f g : Fabric) : Prop where
  later : ∀ {id q}, f.qps.find? id = some q → ∃ q', g.qps.find? id = some q' ∧ q.Becomes q'
  earlier : ∀ {id q'}, g.qps.find? id = some q' → ∃ q, f.qps.find? id = some q ∧ q.Becomes q'
  srqs : ∀ id, (g.srqs.find? id).isSome = (f.srqs.find? id).isSome
  numbers : g.qpNumbers = f.qpNumbers
  regions : g.regions = f.regions
  nextId : g.nextId = f.nextId

variable {f g : Fabric} {id : NativeId}

theorem Spends.refl (f : Fabric) : f.Spends f where
  later hq := ⟨_, hq, .refl _⟩
  earlier hq := ⟨_, hq, .refl _⟩
  srqs _ := rfl
  numbers := rfl
  regions := rfl
  nextId := rfl

theorem Spends.trans {e : Fabric} (h : e.Spends f) (h' : f.Spends g) : e.Spends g where
  later hq := by
    obtain ⟨q', hq', hb⟩ := h.later hq
    obtain ⟨q'', hq'', hb'⟩ := h'.later hq'
    exact ⟨q'', hq'', hb.trans hb'⟩
  earlier hq := by
    obtain ⟨q', hq', hb'⟩ := h'.earlier hq
    obtain ⟨q'', hq'', hb⟩ := h.earlier hq'
    exact ⟨q'', hq'', hb.trans hb'⟩
  srqs id := (h'.srqs id).trans (h.srqs id)
  numbers := h'.numbers.trans h.numbers
  regions := h'.regions.trans h.regions
  nextId := h'.nextId.trans h.nextId

/-- The same queue pairs are there. -/
theorem Spends.found (h : f.Spends g) (id : NativeId) :
    (∃ q, g.qps.find? id = some q) ↔ ∃ q, f.qps.find? id = some q := by
  constructor
  · rintro ⟨q', hq'⟩
    obtain ⟨q, hq, -⟩ := h.earlier hq'
    exact ⟨q, hq⟩
  · rintro ⟨q, hq⟩
    obtain ⟨q', hq', -⟩ := h.later hq
    exact ⟨q', hq'⟩

theorem Spends.find?_eq_none (h : f.Spends g) :
    g.qps.find? id = none ↔ f.qps.find? id = none := by
  rw [← Option.not_isSome_iff_eq_none, ← Option.not_isSome_iff_eq_none, Option.isSome_iff_exists,
    Option.isSome_iff_exists, h.found]

theorem updateQp_spends {change : QueuePair → QueuePair}
    (hchange : ∀ q, f.qps.find? id = some q → q.Becomes (change q)) :
    f.Spends (f.updateQp id change) where
  later {id' q} hq := by
    simp only [updateQp, Table.find?_modify, hq]
    split
    case isTrue hid => subst hid; exact ⟨_, rfl, hchange q hq⟩
    case isFalse => exact ⟨q, rfl, .refl q⟩
  earlier {id' q'} hq' := by
    rcases Table.modified hq' with ⟨rfl, q, hq, rfl⟩ | hq'
    · exact ⟨q, hq, hchange q hq⟩
    · exact ⟨q', hq', .refl q'⟩
  srqs _ := rfl
  numbers := rfl
  regions := rfl
  nextId := rfl

theorem failed_spends (f : Fabric) (id : NativeId) :
    f.Spends (f.updateQp id fun q => { q with state := .error }) :=
  updateQp_spends fun _ _ => ⟨rfl, rfl, .inr rfl, List.suffix_refl _, List.suffix_refl _⟩

theorem setRecvRequests_spends {queue : RecvQueue} {r : RecvRequest} {rest : List RecvRequest}
    (hqueue : f.recvRequests queue = r :: rest) : f.Spends (f.setRecvRequests rest queue) := by
  cases queue with
  | ofQp id =>
      refine updateQp_spends fun q hq => ⟨rfl, rfl, .inl rfl, List.suffix_refl _, ?_⟩
      simp only [recvRequests, hq, Option.map_some, Option.getD_some] at hqueue
      rw [hqueue]
      exact List.suffix_cons r rest
  | shared srq =>
      refine ⟨(Spends.refl f).later, (Spends.refl f).earlier, fun id => ?_, rfl, rfl, rfl⟩
      simp only [setRecvRequests, Table.find?_modify]
      split <;> simp

theorem afterReceipt_spends {queue : RecvQueue} {r : RecvRequest} {rest : List RecvRequest}
    (hqueue : f.recvRequests queue = r :: rest) (peerId : NativeId) (status : CompletionStatus) :
    f.Spends (f.afterReceipt queue rest peerId status) := by
  have htaken := setRecvRequests_spends hqueue
  unfold afterReceipt
  split
  · exact htaken
  · exact htaken.trans (failed_spends _ peerId)

/-- The table of numbers leads to the queue pair that has the number. -/
abbrev Numbered (f : Fabric) : Prop :=
  ∀ number id, f.qpNumbers.find? number = some id ↔
    ∃ q, f.qps.find? id = some q ∧ q.number = number

theorem Numbered.updateQp (hf : f.Numbered) {change : QueuePair → QueuePair}
    (hnumber : ∀ q, (change q).number = q.number) : (f.updateQp id change).Numbered := by
  intro number id'
  rw [show (f.updateQp id change).qpNumbers = f.qpNumbers from rfl, hf]
  simp only [Fabric.updateQp, Table.find?_modify]
  split
  case isTrue hid =>
    simp only [Option.map_eq_some_iff]
    constructor
    · rintro ⟨q, hq, rfl⟩
      exact ⟨_, ⟨q, hq, rfl⟩, hnumber q⟩
    · rintro ⟨_, ⟨q, hq, rfl⟩, rfl⟩
      exact ⟨q, hq, (hnumber q).symm⟩
  case isFalse => exact Iff.rfl

/-- What the engine relies on: a number names one queue pair, identities are below the counter,
requests in send queues are as they were posted, and a queue pair in reset has none. -/
structure Fit (f : Fabric) : Prop where
  numbered : f.Numbered
  qpBelow : ∀ {id q}, f.qps.find? id = some q → id < f.nextId
  srqBelow : ∀ {id s}, f.srqs.find? id = some s → id < f.nextId
  posted : ∀ {id q}, f.qps.find? id = some q → ∀ p ∈ q.sendQueue, p.AsPosted
  idle : ∀ {id q}, f.qps.find? id = some q → q.state = .reset →
    q.sendQueue = [] ∧ q.recvQueue = []

/-- Two queue pairs of one number are one. -/
theorem Fit.number_inj (hf : f.Fit) {id' : NativeId} {q q' : QueuePair}
    (hq : f.qps.find? id = some q) (hq' : f.qps.find? id' = some q')
    (hsame : q'.number = q.number) : id' = id := by
  have hid := (hf.numbered q.number id).2 ⟨q, hq, rfl⟩
  have hid' := (hf.numbered q.number id').2 ⟨q', hq', hsame⟩
  exact Option.some.inj (hid'.symm.trans hid)

theorem QueuePair.Becomes.number {q q' : QueuePair} (h : q.Becomes q') : q'.number = q.number :=
  (QueuePair.fixed_of_cleared h.fixed).2.1

/-- Spending requests keeps the fabric fit for the engine: no queue grows, and no queue pair is
reset. -/
theorem Spends.fit (h : f.Spends g) (hf : f.Fit) : g.Fit where
  numbered number id := by
    rw [h.numbers, hf.numbered]
    constructor
    · rintro ⟨q, hq, hnumber⟩
      obtain ⟨q', hq', hb⟩ := h.later hq
      exact ⟨q', hq', hb.number.trans hnumber⟩
    · rintro ⟨q', hq', hnumber⟩
      obtain ⟨q, hq, hb⟩ := h.earlier hq'
      exact ⟨q, hq, hb.number.symm.trans hnumber⟩
  qpBelow hq' := by
    obtain ⟨q, hq, -⟩ := h.earlier hq'
    rw [h.nextId]
    exact hf.qpBelow hq
  srqBelow {id s} hs := by
    have hid := h.srqs id
    rw [hs, Option.isSome_some, eq_comm, Option.isSome_iff_exists] at hid
    obtain ⟨s', hs'⟩ := hid
    rw [h.nextId]
    exact hf.srqBelow hs'
  posted hq' p hp := by
    obtain ⟨q, hq, hb⟩ := h.earlier hq'
    exact hf.posted hq p (hb.sends.subset hp)
  idle {id q'} hq' hreset := by
    obtain ⟨q, hq, hb⟩ := h.earlier hq'
    -- who is in reset now was so before, since the only other way leads to the error state
    obtain ⟨hsend, hrecv⟩ := hf.idle hq <| by
      rcases hb.state with hsame | herror
      · exact hsame.symm.trans hreset
      · rw [herror] at hreset; cases hreset
    exact ⟨List.suffix_nil.1 (hsend ▸ hb.sends), List.suffix_nil.1 (hrecv ▸ hb.recvs)⟩

end Fabric

/-- An act takes requests off a queue or fails a queue pair, and does nothing else to the fabric. -/
theorem Act.spends {s t : Scene} {es : List Event} (h : Act s es t) :
    s.fabric.Spends t.fabric := by
  cases h with
  | fail f id => exact f.failed_spends id
  | flushSend hq _ hsend =>
      refine Fabric.updateQp_spends fun q' hq' => ⟨rfl, rfl, .inl rfl, ?_, List.suffix_refl _⟩
      obtain rfl := Option.some.inj (hq'.symm.trans hq)
      rw [hsend]
      exact List.suffix_cons _ _
  | flushRecv hq _ hrecv =>
      refine Fabric.updateQp_spends fun q' hq' => ⟨rfl, rfl, .inl rfl, List.suffix_refl _, ?_⟩
      obtain rfl := Option.some.inj (hq'.symm.trans hq)
      rw [hrecv]
      exact List.suffix_cons _ _
  | launch hq _ hsend =>
      refine Fabric.updateQp_spends fun q' hq' => ⟨rfl, rfl, .inl rfl, ?_, List.suffix_refl _⟩
      obtain rfl := Option.some.inj (hq'.symm.trans hq)
      rw [hsend]
      exact List.suffix_cons _ _
  | receive _ _ _ _ hqueue _ => exact Fabric.afterReceipt_spends hqueue _ _
  | retire => exact .refl _

theorem Acts.spends {s t : Scene} {es : List Event} (h : Acts s es t) :
    s.fabric.Spends t.fabric := by
  induction h with
  | refl => exact .refl _
  | tail _ hlast ih => exact ih.trans hlast.spends

theorem Acts.fit {s t : Scene} {es : List Event} (h : Acts s es t) (hs : s.fabric.Fit) :
    t.fabric.Fit := h.spends.fit hs

/-! ## What acts tell -/

/-- The event is one of the engine's, and a queue pair of the fabric did it. -/
def Fabric.Tells (f : Fabric) : Event → Prop
  | .sendRetired id _ _ | .recvTaken _ id _ | .recvFlushed id _ => ∃ q, f.qps.find? id = some q
  | .completed _ c _ _ => ∃ id q, f.qps.find? id = some q ∧ c.qpNumber = q.number
  | _ => False

/-- Whatever an act tells is about a queue pair that is there, under its own number. -/
theorem Act.tells {s t : Scene} {es : List Event} (h : Act s es t) :
    ∀ e ∈ es, s.fabric.Tells e := by
  cases h with
  | fail | launch =>
      intro e he
      cases he
  | flushSend hq | flushRecv hq =>
      intro e he
      rcases List.mem_cons.1 he with rfl | he
      · exact ⟨_, hq⟩
      · rw [List.mem_singleton.1 he]
        exact ⟨_, _, hq, rfl⟩
  | receive _ hp _ _ _ hreceipt =>
      intro e he
      rcases List.mem_cons.1 he with rfl | he
      · exact ⟨_, hp⟩
      · rw [List.mem_singleton.1 he]
        exact ⟨_, _, hp, hreceipt.number⟩
  | retire _ hq =>
      intro e he
      rcases List.mem_cons.1 he with rfl | he
      · exact ⟨_, hq⟩
      · split at he
        · rw [List.mem_singleton.1 he]
          exact ⟨_, _, hq, rfl⟩
        · cases he

theorem Fabric.Spends.tells {f g : Fabric} (h : f.Spends g) {e : Event} :
    f.Tells e ↔ g.Tells e := by
  cases e with
  | sendRetired id | recvTaken _ id | recvFlushed id => exact (h.found id).symm
  | completed =>
      constructor
      · rintro ⟨id, q, hq, hnumber⟩
        obtain ⟨q', hq', hb⟩ := h.later hq
        exact ⟨id, q', hq', hnumber.trans hb.number.symm⟩
      · rintro ⟨id, q', hq', hnumber⟩
        obtain ⟨q, hq, hb⟩ := h.earlier hq'
        exact ⟨id, q, hq, hnumber.trans hb.number⟩
  | _ => exact Iff.rfl

theorem Acts.tells {s t : Scene} {es : List Event} (h : Acts s es t) :
    ∀ e ∈ es, t.fabric.Tells e := by
  induction h with
  | refl =>
      intro e he
      cases he
  | tail _ hlast ih =>
      intro e he
      rcases List.mem_append.1 he with he | he
      · exact hlast.spends.tells.1 (ih e he)
      · exact hlast.spends.tells.1 (hlast.tells e he)

/-- What is read off posts only is not read off acts. -/
theorem Acts.filterMap_eq_nil {s t : Scene} {es : List Event} (h : Acts s es t) {α : Type}
    {p : Event → Option α} (hp : ∀ e, t.fabric.Tells e → p e = none) : es.filterMap p = [] := by
  rw [List.filterMap_eq_nil_iff]
  exact fun e he => hp e (h.tells e he)

end Rdma
