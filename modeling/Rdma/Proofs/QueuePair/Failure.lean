import Rdma.Proofs.Memory.Protection
import Rdma.Proofs.Transfer.Accounts
import Rdma.Proofs.Transfer.Order
import Rdma.Proofs.Transfer.Receiving

/-!
# Failed queue pairs

A queue pair in the error state is out of action until it is reset or destroyed. Whatever is posted
to it is flushed by the same call, its receive queue serves nobody, and the engine executes requests
of others as if it were not there: reliable ones that go to it fail.

* `Act.onlyFlushes` — what an act tells of a failed queue pair;
* `Story.spares` — a run in which it is not cleared;
* `Steps.bypass` — the engine leaves it out;
* `reachable_withdrawn` — all that follows from the error state, in every run.
-/

namespace Rdma

open Fabric (QueuePair PendingSend)
open Host (sendCompletion)

/-- Of the queue pair the event tells nothing but that its requests are flushed. -/
def Event.OnlyFlushes (id : NativeId) (number : UInt32) : Event → Prop
  | .sendRetired qp _ status => qp = id → status = .flushed
  | .recvTaken queue qp _ => qp ≠ id ∧ queue ≠ .ofQp id
  | .completed _ c _ _ => c.qpNumber = number → c.status = CompletionStatus.flushed.code
  | _ => True

/-- The report on a send request that was flushed. -/
def Fabric.QueuePair.flushedSend (q : QueuePair) (r : SendRequest) : Report :=
  { cq := q.sendCq, wrId := r.wrId, opcode := r.opcode.completionOpcode.code,
    status := CompletionStatus.flushed.code }

/-- The report on a receive request that was flushed. -/
def Fabric.QueuePair.flushedRecv (q : QueuePair) (r : RecvRequest) : Report :=
  { cq := q.recvCq, wrId := r.wrId, opcode := CompletionOpcode.recv.code,
    status := CompletionStatus.flushed.code }

/-- The queue pair, created as `made`, is in the error state. -/
def Fabric.HasFailed (f : Fabric) (id : NativeId) (made : QueuePair) : Prop :=
  ∃ q, f.qps.find? id = some q ∧ q.cleared = made ∧ q.state = .error

/-- The queue pair is in the error state, and no request of it is in flight. -/
structure Scene.Failed (s : Scene) (id : NativeId) (made : QueuePair) : Prop where
  failed : s.fabric.HasFailed id made
  alone : ∀ flight, s.flight = some flight → flight.sender ≠ id

variable {f g : Fabric} {s t : Scene} {es : List Event} {id : NativeId} {made q : QueuePair}

theorem Fabric.HasFailed.find (h : f.HasFailed id made) (hq : f.qps.find? id = some q) :
    q.cleared = made ∧ q.state = .error := by
  obtain ⟨q', hq', hfixed, herror⟩ := h
  obtain rfl := Option.some.inj (hq.symm.trans hq')
  exact ⟨hfixed, herror⟩

/-- No other queue pair has the number of the failed one. -/
theorem Fabric.HasFailed.of_number (h : f.HasFailed id made) (hf : f.Fit) {id' : NativeId}
    (hq : f.qps.find? id' = some q) (hnumber : q.number = made.number) : id' = id := by
  obtain ⟨q', hq', rfl, -⟩ := h
  exact hf.number_inj hq' hq hnumber

/-! ## Acts -/

/-- No act revives a failed queue pair, and none launches a request of it. -/
theorem Act.keeps_failed (h : Act s es t) (hs : s.Failed id made) : t.Failed id made := by
  obtain ⟨⟨q, hq, hfixed, herror⟩, halone⟩ := hs
  obtain ⟨q', hq', hb⟩ := h.spends.later hq
  refine ⟨⟨q', hq', hb.fixed.trans hfixed, hb.error herror⟩, fun flight hflight => ?_⟩
  cases h with
  | fail | retire => cases hflight
  | flushSend | flushRecv => exact halone flight hflight
  | receive =>
      obtain rfl := Option.some.inj hflight
      exact fun hid => halone _ rfl hid
  | launch hsender hrts =>
      obtain rfl := Option.some.inj hflight
      rintro rfl
      obtain rfl := Option.some.inj (hq.symm.trans hsender)
      rw [herror] at hrts
      cases hrts

/-- A failed queue pair does not take part in anything. -/
theorem Act.onlyFlushes (h : Act s es t) (hfit : s.fabric.Fit) (hs : s.Failed id made) :
    ∀ e ∈ es, e.OnlyFlushes id made.number := by
  obtain ⟨hfailed, halone⟩ := hs
  cases h with
  | fail | launch => exact List.forall_mem_nil _
  | flushSend =>
      simp only [List.forall_mem_cons]
      exact ⟨fun _ => rfl, fun _ => rfl, List.forall_mem_nil _⟩
  | flushRecv =>
      simp only [List.forall_mem_cons]
      exact ⟨trivial, fun _ => rfl, List.forall_mem_nil _⟩
  | @receive f sender peerId pending q peer r rest status c hq hp haccepts _ _ hreceipt =>
      simp only [List.forall_mem_cons]
      -- who takes a request is ready
      have hother : peerId ≠ id := by
        rintro rfl
        obtain ⟨-, herror⟩ := hfailed.find hp
        simp [Host.accepts, herror] at haccepts
      refine ⟨⟨hother, ?_⟩, fun hnumber => ?_, List.forall_mem_nil _⟩
      · rw [Fabric.recvQueueOf]
        split
        · rintro ⟨⟩
        · exact fun heq => hother (RecvQueue.ofQp.inj heq)
      · exact absurd (hfailed.of_number hfit hp (hreceipt.number.symm.trans hnumber)) hother
  | @retire f flight q status length hq hverdict =>
      have hother := halone flight rfl
      refine List.forall_mem_cons.2 ⟨fun hid => absurd hid hother, fun e he => ?_⟩
      split at he
      · obtain rfl := List.mem_singleton.1 he
        exact fun hnumber => absurd (hfailed.of_number hfit hq hnumber) hother
      · cases he

theorem recvReported?_flushed (q : QueuePair) (r : RecvRequest) :
    Event.recvReported? q.number (.handed q.recvCq
      { wrId := r.wrId, status := CompletionStatus.flushed.code,
        opcode := CompletionOpcode.recv.code, qpNumber := q.number }) = some (q.flushedRecv r) :=
  if_pos (by simp [Completion.ofReceive])

theorem recvReported?_of_ne {number : UInt32} {c : Completion} (hnumber : c.qpNumber ≠ number)
    (cq : NativeId) : Event.recvReported? number (.handed cq c) = none :=
  if_neg (by simp [hnumber])

/-- What is reported of receive requests of a failed queue pair is that they are flushed. -/
theorem Act.flushes_recvs (h : Act s es t) (hfit : s.fabric.Fit) (hs : s.Failed id made) :
    es.filterMap (Event.recvReported? made.number) =
      (es.filterMap (Event.recvLeft? (.ofQp id))).map made.flushedRecv := by
  have honly := h.onlyFlushes hfit hs
  cases h with
  | fail | launch => rfl
  | flushSend =>
      rw [List.filterMap_cons_none rfl, List.filterMap_cons_none (recvReported?_sendCompletion ..)]
      rfl
  | @flushRecv f flight id' q r rest hq =>
      by_cases hid : id' = id
      · subst hid
        obtain ⟨rfl, -⟩ := hs.failed.find hq
        have hleft : Event.recvLeft? (.ofQp id') (.recvFlushed id' r) = some r := if_pos rfl
        rw [List.filterMap_cons_none rfl, List.filterMap_cons_some hleft]
        exact List.filterMap_cons_some (recvReported?_flushed q r)
      · have hleft : Event.recvLeft? (.ofQp id) (.recvFlushed id' r) = none :=
          if_neg fun heq => hid (RecvQueue.ofQp.inj heq)
        have hnumber : q.number ≠ made.number := fun hnumber =>
          hid (hs.failed.of_number hfit hq hnumber)
        rw [List.filterMap_cons_none rfl, List.filterMap_cons_none hleft,
          List.filterMap_cons_none (recvReported?_of_ne hnumber _)]
        rfl
  | @receive f sender peerId pending q peer r rest status c hq hp haccepts _ _ hreceipt =>
      obtain ⟨⟨hother, hqueue⟩, -⟩ := List.forall_mem_cons.1 honly
      have hleft : Event.recvLeft? (.ofQp id)
          (.recvTaken (Fabric.recvQueueOf peerId peer) peerId r) = none := if_neg hqueue
      have hnumber : c.qpNumber ≠ made.number := fun hnumber =>
        hother (hs.failed.of_number hfit hp (hreceipt.number.symm.trans hnumber))
      rw [List.filterMap_cons_none rfl, List.filterMap_cons_none hleft,
        List.filterMap_cons_none (recvReported?_of_ne hnumber _)]
      rfl
  | retire =>
      rw [List.filterMap_cons_none rfl, List.filterMap_cons_none rfl]
      split
      · rw [List.filterMap_cons_none (recvReported?_sendCompletion ..)]
        rfl
      · rfl

/-! ## Runs -/

theorem Change.keeps_failed (h : Change f es g) (hf : f.Fit) (hclear : .queuesCleared id ∉ es)
    (hfailed : f.HasFailed id made) : g.HasFailed id made := by
  obtain ⟨q, hq, rfl, herror⟩ := hfailed
  obtain ⟨q', hq', herror'⟩ := h.failed hf hclear hq herror
  obtain ⟨q₀, hq₀, hfixed⟩ := h.earlier (hf.qpBelow hq) hq'
  obtain rfl := Option.some.inj (hq.symm.trans hq₀)
  exact ⟨q', hq', hfixed, herror'⟩

/-- What a story does to a failed queue pair, as long as nobody clears it. -/
structure Spares (id : NativeId) (made : QueuePair) (es : List Event) (t : Scene) : Prop where
  failed : t.Failed id made
  onlyFlushes : ∀ e ∈ es, e.OnlyFlushes id made.number
  recvs : es.filterMap (Event.recvReported? made.number) =
    (es.filterMap (Event.recvLeft? (.ofQp id))).map made.flushedRecv

theorem Turn.spares (h : Turn s es t) (hfit : s.fabric.Fit) (hclear : .queuesCleared id ∉ es)
    (hs : s.Failed id made) : Spares id made es t := by
  cases h with
  | act hact =>
      exact ⟨hact.keeps_failed hs, hact.onlyFlushes hfit hs, hact.flushes_recvs hfit hs⟩
  | change hchange =>
      refine ⟨⟨hchange.keeps_failed hfit hclear hs.failed, nofun⟩, fun e he => ?_, ?_⟩
      · rcases hchange.tells e he with ⟨_, _, rfl⟩ | ⟨_, _, rfl⟩ | ⟨_, rfl⟩ <;> trivial
      · rw [hchange.filterMap_eq_nil (fun _ _ => rfl) (fun _ _ => rfl) fun _ => rfl,
          hchange.filterMap_eq_nil (fun _ _ => rfl) (fun _ _ => rfl) fun _ => rfl]
        rfl

theorem Story.spares (h : Story s es t) (hfit : s.fabric.Fit) (hclear : .queuesCleared id ∉ es)
    (hs : s.Failed id made) : Spares id made es t := by
  induction h with
  | refl => exact ⟨hs, (fun _ he => nomatch he), rfl⟩
  | tail hstory hlast ih =>
      obtain ⟨hfirst, hrest⟩ := not_or.1 fun hmem => hclear (List.mem_append.2 hmem)
      obtain ⟨hfailed, honly, hrecvs⟩ := ih hfirst
      obtain ⟨hfailed', honly', hrecvs'⟩ := hlast.spares (Story.fit hstory hfit) hrest hfailed
      refine ⟨hfailed', fun e he => (List.mem_append.1 he).elim (honly e) (honly' e), ?_⟩
      rw [List.filterMap_append, List.filterMap_append, List.map_append, hrecvs, hrecvs']

/-- What the journal says of a queue pair is what is said of requests. -/
theorem Event.onlyFlushes_of_request {number : UInt32} {e : Event}
    (h : ∀ e', e.ofRequest? = some e' → e'.OnlyFlushes id number) : e.OnlyFlushes id number := by
  cases e with
  | sendRetired | recvTaken => exact h _ rfl
  | completed cq c => exact h (.handed cq c) rfl
  | _ => trivial

namespace Host

variable {g h k : Host} {devices : List DeviceConfig} {q' : QueuePair} {op : Operation}

theorem Leads.spares (hk : h.Leads k) (hr : Reachable devices h)
    (hq : h.fabric.qps.find? id = some q) (herror : q.state = .error)
    (hclear : .queuesCleared id ∉ k.eventsSince h) :
    k.fabric.HasFailed id q.cleared ∧ (∀ e ∈ k.eventsSince h, e.OnlyFlushes id q.number) ∧
      (k.eventsSince h).filterMap (Event.recvReported? q.number) =
        ((k.eventsSince h).filterMap (Event.recvLeft? (.ofQp id))).map q.flushedRecv := by
  have hfailed : Scene.Failed ⟨h.fabric.work, none⟩ id q.cleared :=
    ⟨⟨q, hq, rfl, herror⟩, nofun⟩
  obtain ⟨hafter, honly, hrecvs⟩ := (hk.story hr).spares hr.fit
    (fun hmem => hclear ((queuesCleared_mem id).1 hmem)) hfailed
  have hdelivered := hr.delivered_since hk
  refine ⟨hafter.failed, fun e he => ?_, ?_⟩
  · exact Event.onlyFlushes_of_request fun e' he' => honly e' (List.mem_filterMap.2 ⟨e, he, he'⟩)
  · rw [(reads_recvReported q.number).filterMap_eq hdelivered,
      (reads_recvLeft (.ofQp id)).filterMap_eq hdelivered]
    exact hrecvs

/-! ## Posts -/

section Posting

variable (hr : Reachable devices h) (hq : h.fabric.qps.find? id = some q)
  (herror : q.state = .error) (hclear : .queuesCleared id ∉ h.intake op)

include hr hq herror hclear

/-- What an operation does to a failed queue pair that it does not clear. -/
theorem Reachable.spares_failed :
    (h.perform op).fabric.HasFailed id q.cleared ∧
      (∀ e ∈ (h.perform op).eventsSince h, e.OnlyFlushes id q.number) ∧
      ((h.perform op).eventsSince h).filterMap (Event.recvReported? q.number) =
        (((h.perform op).eventsSince h).filterMap (Event.recvLeft? (.ofQp id))).map
          q.flushedRecv :=
  (Leads.perform op .refl).spares hr hq herror fun hmem =>
    hclear ((hr.intake_sends op id).2.1 hmem)

/-- Send requests are flushed by the call that posts them, in order, whether signaled or not. -/
theorem Reachable.flushes_sends :
    ((h.perform op).eventsSince h).filterMap (Event.sendReported? q.number) =
      ((h.intake op).filterMap (Event.sendAccepted? id)).map q.flushedSend := by
  have hk : h.Leads (h.perform op) := .perform op .refl
  obtain ⟨⟨q', hq', -, herror'⟩, honly, -⟩ := hr.spares_failed hq herror hclear
  obtain ⟨-, es, htrail, hread, hcleared⟩ := hk.sends hr hq hq'
  -- nothing waits before the call, and nothing afterwards
  have hbefore : h.sendRequests id = [] := by
    simp [sendRequests, hq, ((hr.proper hq).failed herror).1]
  have hafter : (h.perform op).sendRequests id = [] := by
    simp [sendRequests, hq', ((Reachable.perform op hr).proper hq').failed herror']
  have hown : NoOwnFailure q.number es := by
    intro c hc hnumber
    rw [← hread (readsSends_answered id q.number)] at hc
    obtain ⟨e, he, hanswered⟩ := List.mem_filterMap.1 hc
    cases e with
    | completed cq c' solicited stored =>
        rw [Event.answered?] at hanswered
        split at hanswered
        case isTrue hkind =>
          obtain rfl := Option.some.inj hanswered
          have hflushed := honly _ he hnumber
          simp [hflushed] at hkind
        case isFalse => cases hanswered
    | _ => cases hanswered
  have hordered := (htrail.ordered (fun hmem => hclear ((hr.intake_sends op id).2.1
    (hcleared.1 hmem))) hown (by rintro ⟨⟩)).1
  have hretired (pair : SendRequest × CompletionStatus)
      (hpair : pair ∈ es.filterMap (Event.sendRetired? id)) :
      q.cleared.report? pair = some (q.flushedSend pair.1) := by
    rw [← hread (readsSends_retired id q.number)] at hpair
    obtain ⟨e, he, hread⟩ := List.mem_filterMap.1 hpair
    cases e with
    | sendRetired qp request status =>
        rw [Event.sendRetired?] at hread
        split at hread
        case isTrue hid =>
          obtain rfl := Option.some.inj hread
          obtain rfl := honly _ he hid
          have hreports : q.cleared.reports request .flushed = true := rfl
          rw [QueuePair.report?, if_pos hreports]
          rfl
        case isFalse => cases hread
    | _ => cases hread
  rw [hread (readsSends_reported id q.number), ← (hr.intake_sends op id).1,
    hread (readsSends_accepted id q.number)]
  rw [hbefore, hafter] at hordered
  calc es.filterMap (Event.sendReported? q.number)
      = (es.filterMap (Event.sendRetired? id)).filterMap q.cleared.report? := htrail.reported
    _ = ((es.filterMap (Event.sendRetired? id)).map (·.1)).map q.flushedSend := by
        rw [List.filterMap_congr hretired, List.map_map, ← List.filterMap_eq_map]
        rfl
    _ = (es.filterMap (Event.sendAccepted? id)).map q.flushedSend := by
        simpa [SendSide.unsettled] using congrArg (List.map q.flushedSend) hordered.symm

/-- Receive requests are flushed by the call that posts them, in order. -/
theorem Reachable.flushes_recvs :
    ((h.perform op).eventsSince h).filterMap (Event.recvReported? q.number) =
      ((h.intake op).filterMap (Event.recvAccepted? (.ofQp id))).map q.flushedRecv := by
  have hk : h.Leads (h.perform op) := .perform op .refl
  obtain ⟨⟨q', hq', -, herror'⟩, -, hrecvs⟩ := hr.spares_failed hq herror hclear
  have hkept : Kept (.ofQp id) ((h.perform op).eventsSince h) := by
    rintro id' ⟨⟩ hmem
    exact hclear ((hr.intake_sends op id).2.1 hmem)
  have hconserves := hk.conserves hr (.ofQp id) ⟨q', hq'⟩ hkept
  -- the queue is empty before the call and afterwards
  have hbefore : h.fabric.work.recvRequests (.ofQp id) = [] := by
    rw [Fabric.recvRequests, show h.fabric.work.qps.find? id = some q from hq]
    exact ((hr.proper hq).failed herror).2
  have hafter : (h.perform op).fabric.work.recvRequests (.ofQp id) = [] := by
    rw [Fabric.recvRequests, show (h.perform op).fabric.work.qps.find? id = some q' from hq']
    exact ((Reachable.perform op hr |>.proper hq').failed herror').2
  rw [hbefore, hafter, List.nil_append, List.append_nil] at hconserves
  rw [hrecvs, ← hconserves, hr.recvIntake op (.ofQp id)]

end Posting

/-! ## The engine -/

/-- What a reliable request that nobody accepts fails with. The checks of its own side come first. -/
def unreachedStatus (f : Fabric) (q : QueuePair) (pending : PendingSend) : CompletionStatus :=
  if !localEntriesUsable f q pending then .localProtection
  else if maxMessageSize < payloadLength pending then .localLength
  else .retryExceeded

/-- A request that nobody accepted failed, and its owner was told first of all. -/
structure TurnedAway (g : Host) (id : NativeId) (q : QueuePair) (pending : PendingSend)
    (outcome : SendOutcome) (k : Host) : Prop where
  outcome_eq : outcome = .failed (unreachedStatus g.fabric q pending)
  reported : ∃ es, k.entries = g.entries ++
    .sendRetired id pending.request (unreachedStatus g.fabric q pending) ::
    .handed q.sendCq
      (sendCompletion q.number pending.request (unreachedStatus g.fabric q pending) 0) :: es

theorem executeFor_unreached {pending : PendingSend} (hreliable : q.transport = .reliable)
    (hnone : peerOf? h.fabric q = none) :
    h.executeFor q pending = (.failed (unreachedStatus h.fabric q pending), h) := by
  simp only [executeFor, unreachedStatus, hreliable, hnone]
  split
  case isTrue hunreliable => simp at hunreliable
  case isFalse =>
  split
  · rfl
  split
  · rfl
  · rfl

/-- The request of a failure is completed before anything else is. -/
theorem conclude_failed_entries (h : Host) (id : NativeId) (q : QueuePair) (pending : PendingSend)
    (status : CompletionStatus) :
    ∃ es, (h.conclude id q pending (.failed status)).2.entries = h.entries ++
      .sendRetired id pending.request status ::
      .handed q.sendCq (sendCompletion q.number pending.request status 0) :: es := by
  let noted := (h.note (.requestFailed q.number pending.request.wrId status)).note
    (.sendRetired id pending.request status)
  let told := noted.complete q.sendCq (sendCompletion q.number pending.request status 0) false
  obtain ⟨es, -, hentries⟩ := told.enterError_enacts id
  refine ⟨es, ?_⟩
  have hnoted : noted.entries = h.entries ++ [.sendRetired id pending.request status] := by
    simp [noted, note_entries, Event.ofRequest?]
  calc (told.enterError id).entries
      = told.entries ++ es := hentries
    _ = _ := by simp [told, complete_entries, hnoted]

variable {pending : PendingSend} {rest : List PendingSend} {outcome : SendOutcome}
  {number : UInt32}

/-- A reliable queue pair that is connected to nobody has its requests turned away. -/
theorem Consumption.turnedAway (hc : g.Consumption id q pending rest outcome k)
    (hstep : g.step id = (true, k)) (hg : g.fabric.Sound) (hreliable : q.transport = .reliable)
    (hnobody : ∀ peerId peer, ¬ g.fabric.Connected q peerId peer) :
    g.TurnedAway id q pending outcome k := by
  have hsame : (g.popped id rest).fabric.skeleton = g.fabric.skeleton :=
    g.fabric.updateQp_skeleton id fun _ => rfl
  have hnumbered := (hg.of_skeleton hsame).intact.numbers
  have hnone : peerOf? (g.popped id rest).fabric { q with sendQueue := rest } = none := by
    cases hpeer : peerOf? (g.popped id rest).fabric { q with sendQueue := rest } with
    | none => rfl
    | some found =>
        have hconnected : (g.popped id rest).fabric.work.Connected { q with sendQueue := rest }
            found.1 found.2 := Fabric.connected_of_peerOf hnumbered hpeer
        obtain ⟨p, hp, -⟩ := connected_of_popped hconnected
        exact absurd hp (hnobody _ _)
  have hexecute : (g.popped id rest).execute id pending =
      (.failed (unreachedStatus g.fabric q pending), g.popped id rest) := by
    simp only [execute, popped_find hc.found rest]
    exact executeFor_unreached (q := { q with sendQueue := rest }) hreliable hnone
  have heq := step_eq hc.found hc.ready hc.head
  simp only [hexecute, popped_find hc.found rest, hstep] at heq
  obtain ⟨es, hentries⟩ := (g.popped id rest).conclude_failed_entries id
    { q with sendQueue := rest } pending (unreachedStatus g.fabric q pending)
  refine ⟨?_, es, ?_⟩
  · rw [← hc.outcome_eq, hexecute]
  · rw [← heq] at hentries
    exact hentries

/-- A guarded step of the engine that leaves a failed queue pair out: it is neither the sender nor a
peer, and reliable requests that go to its number are turned away. -/
def Bypasses (id : NativeId) (number : UInt32) (g k : Host) : Prop :=
  ∃ sender q pending rest outcome, g.step sender = (true, k) ∧
    g.Guarded sender q pending rest outcome k ∧ sender ≠ id ∧
    (∀ peerId peer, g.fabric.Connected q peerId peer → peerId ≠ id) ∧
    (q.transport = .reliable → q.destination = some number →
      g.TurnedAway sender q pending outcome k)

/-- A failed queue pair is nobody's peer. -/
theorem ne_of_connected (hfailed : g.fabric.HasFailed id made) {peerId : NativeId}
    {peer : QueuePair} (hc : g.fabric.Connected q peerId peer) : peerId ≠ id := by
  rintro rfl
  obtain ⟨-, herror⟩ := hfailed.find hc.found
  rcases hc.ready with hready | hready <;> rw [herror] at hready <;> cases hready

/-- Every step of the engine bypasses a queue pair that has failed. -/
theorem Moment.bypasses (hg : g.Moment) (hfailed : g.fabric.HasFailed id made)
    {sender : NativeId} (hstep : g.step sender = (true, k)) :
    Bypasses id made.number g k ∧ k.fabric.HasFailed id made := by
  obtain ⟨q, pending, rest, outcome, hc⟩ := step_consumption hstep
  obtain ⟨q₀, hq₀, hfixed, herror⟩ := hfailed
  have hfailed : g.fabric.HasFailed id made := ⟨q₀, hq₀, hfixed, herror⟩
  obtain ⟨q₁, hq₁, hspent⟩ := hc.wanes.later hq₀
  refine ⟨⟨sender, q, pending, rest, outcome, hstep, hc.guarded hg, ?_, fun _ _ =>
    ne_of_connected hfailed, fun hreliable hdestination => ?_⟩,
    ⟨q₁, hq₁, hspent.cleared.trans hfixed, hspent.error herror⟩⟩
  · rintro rfl
    have hrts := hc.ready
    rw [(hfailed.find hc.found).2] at hrts
    cases hrts
  · -- who has the number is the failed queue pair, which accepts nothing
    refine hc.turnedAway hstep hg.sound hreliable fun peerId peer hconnected => ?_
    have hnumber : peer.number = made.number :=
      Option.some.inj (hconnected.number.symm.trans hdestination)
    have hnumbers := hg.sound.intact.numbers made.number
    have hown := (hnumbers id).2 ⟨q₀, hq₀, by rw [← hfixed]; rfl⟩
    have hpeer := (hnumbers peerId).2 ⟨peer, hconnected.found, hnumber⟩
    exact ne_of_connected hfailed hconnected (Option.some.inj (hpeer.symm.trans hown))

/-- The engine leaves a failed queue pair out. -/
theorem Steps.bypass (hs : g.Steps k) (hg : g.Moment) (hfailed : g.fabric.HasFailed id made) :
    Relation.ReflTransGen (Bypasses id made.number) g k := by
  suffices hall : Relation.ReflTransGen (Bypasses id made.number) g k ∧ k.Moment ∧
      k.fabric.HasFailed id made from hall.1
  induction hs with
  | refl => exact ⟨.refl, hg, hfailed⟩
  | tail _ hlast ih =>
      obtain ⟨sender, hstep⟩ := hlast
      obtain ⟨hrun, hmoment, hfailed⟩ := ih
      obtain ⟨hnext, hfailed'⟩ := hmoment.bypasses hfailed hstep
      exact ⟨hrun.tail hnext, (hmoment.step hstep).2, hfailed'⟩

/-! ## Operations -/

theorem Revises.cleared (hrevises : h.Revises op id q q') : q'.cleared = q.cleared := by
  cases hrevises with
  | @modified _ _ target =>
      cases target with
      | error =>
          simp only [QueuePair.entered]
          split <;> rfl
      | reset | init | rtr | rts | sqd | sqe => rfl
  | same | sends | recvs | flushed => rfl

/-- A failed queue pair that an operation does not clear is failed when the engine starts. -/
theorem Prepares.failed (hprepares : h.Prepares op g) (hq : h.fabric.qps.find? id = some q)
    (herror : q.state = .error) (hclear : .queuesCleared id ∉ h.intake op)
    (hlives : (h.perform op).fabric.HasFailed id q.cleared) : g.fabric.HasFailed id q.cleared := by
  obtain ⟨q', hq', -⟩ := hlives
  obtain ⟨q₁, hq₁, -⟩ := hprepares.steps.wanes.earlier hq'
  rcases hprepares.origin hq₁ with ⟨q₀, hq₀, hrevises⟩ | ⟨hnone, -⟩
  case inr =>
    rw [hq] at hnone
    cases hnone
  obtain rfl := Option.some.inj (hq.symm.trans hq₀)
  refine ⟨q₁, hq₁, hrevises.cleared, ?_⟩
  cases hrevises with
  | same | recvs => exact herror
  | flushed => rfl
  | sends => exact herror
  | @modified attributes mask target hop hallows hok =>
      -- from the error state a queue pair can only be reset, and that clears it
      have hlegal := hallows.legal
      rw [herror] at hlegal
      cases target with
      | error =>
          simp only [QueuePair.entered]
          split <;> rfl
      | reset =>
          refine absurd ?_ hclear
          simp [hop, intake, hok, hq, hallows.leads]
      | init | rtr | rts | sqd | sqe => cases hlegal

/-- What follows for a queue pair, as `k` has it, from its having been in the error state on `h`. -/
structure Withdrawn (h k : Host) (id : NativeId) (q : QueuePair) : Prop where
  /-- It is in the error state still, and nothing waits. -/
  stays : ∃ q', k.fabric.qps.find? id = some q' ∧ q'.cleared = q.cleared ∧ q'.state = .error ∧
    q'.sendQueue = [] ∧ q'.recvQueue = []
  /-- Nothing was executed, taken or completed for it since, but flushed. -/
  silent : ∀ e ∈ k.eventsSince h, e.OnlyFlushes id q.number
  /-- No reliable queue pair that goes to it has anything to send. -/
  deserted : ∀ {id' p}, k.fabric.qps.find? id' = some p → p.transport = .reliable →
    p.state = .rts → p.destination = some q.number → p.sendQueue = []
  /-- It ends when an operation answers that it was destroyed or reset. -/
  ends : ∀ op, .queuesCleared id ∈ (k.perform op).eventsSince k ↔ .queuesCleared id ∈ k.intake op
  /-- Send requests that an operation accepts are flushed by it, in order. -/
  sends : ∀ {op}, .queuesCleared id ∉ k.intake op →
    ((k.perform op).eventsSince k).filterMap (Event.sendReported? q.number) =
      ((k.intake op).filterMap (Event.sendAccepted? id)).map q.flushedSend
  /-- And so are receive requests. -/
  recvs : ∀ {op}, .queuesCleared id ∉ k.intake op →
    ((k.perform op).eventsSince k).filterMap (Event.recvReported? q.number) =
      ((k.intake op).filterMap (Event.recvAccepted? (.ofQp id))).map q.flushedRecv
  /-- The engine leaves it out. -/
  bypassed : ∀ {op}, .queuesCleared id ∉ k.intake op →
    ∃ g, k.Prepares op g ∧ Relation.ReflTransGen (Bypasses id q.number) g (k.perform op)

/-- Until it is reset or destroyed, a queue pair in the error state stays there, and all that is ever
posted to it is flushed. -/
theorem reachable_withdrawn (hr : Reachable devices h) (hq : h.fabric.qps.find? id = some q)
    (herror : q.state = .error) (hk : h.Leads k) (hclear : .queuesCleared id ∉ k.eventsSince h) :
    h.Withdrawn k id q := by
  have hr' : Reachable devices k := hk.reachable hr
  obtain ⟨hfailed, honly, -⟩ := hk.spares hr hq herror hclear
  obtain ⟨q', hq', hfixed, herror'⟩ := hfailed
  obtain ⟨-, hnumber, -, hsendCq, hrecvCq, -⟩ := Fabric.QueuePair.fixed_of_cleared hfixed
  have hsend : q'.flushedSend = q.flushedSend := by
    funext r
    rw [QueuePair.flushedSend, QueuePair.flushedSend, hsendCq]
  have hrecv : q'.flushedRecv = q.flushedRecv := by
    funext r
    rw [QueuePair.flushedRecv, QueuePair.flushedRecv, hrecvCq]
  rw [← hnumber] at honly
  refine ⟨⟨q', hq', hfixed, herror', (hr'.proper hq').failed herror'⟩, hnumber ▸ honly, ?_,
    fun op => (hr'.intake_sends op id).2, fun hkept => ?_, fun hkept => ?_, fun {op} hkept => ?_⟩
  · -- a request that waits has a peer that is ready
    intro id' p hp _ hrts hdestination
    refine Decidable.byContradiction fun hne => ?_
    obtain ⟨-, -, peerId, peer, hpeer, hpeerNumber, -, hready, -⟩ := hr'.settled id' p hp hrts hne
    have hsame : peer.number = q'.number :=
      (Option.some.inj (hpeerNumber.symm.trans hdestination)).trans hnumber.symm
    obtain rfl := hr'.fit.number_inj hq' hpeer hsame
    obtain rfl := Option.some.inj (hq'.symm.trans hpeer)
    rw [herror'] at hready
    exact hready.elim nofun nofun
  · rw [← hnumber, ← hsend]
    exact hr'.flushes_sends hq' herror' hkept
  · rw [← hnumber, ← hrecv]
    exact hr'.flushes_recvs hq' herror' hkept
  · obtain ⟨g, hprepares⟩ := perform_prepares hr'.sound.fabric op
    have hstarts := hprepares.failed hq' herror' hkept (hr'.spares_failed hq' herror' hkept).1
    have hrun := hprepares.steps.bypass (hprepares.moment hr') hstarts
    exact ⟨g, hprepares, hnumber ▸ hrun⟩

/-- A queue pair that was its own peer and was moved to error flushes what is posted to it, signaled
or not. -/
theorem loopback_withdrawn :
    let h := (({} : Host).withDevices [{}]).performAll
      (loopback ++ [.modifyQp 5 { state := QpState.error.code } .state])
    let k := h.perform (.postRecv 5 [{ wrId := 8 }])
    let last := k.perform (.postSend 5 [{ wrId := 1, flags := {} }, { wrId := 2 }])
    (∃ q, h.fabric.qps.find? 5 = some q ∧ h.Withdrawn k 5 q) ∧
      ((last.eventsSince k).filterMap (Event.sendReported? 0x100)).map
          (fun report => (report.wrId, report.status)) =
        [(1, CompletionStatus.flushed.code), (2, CompletionStatus.flushed.code)] := by
  intro h k last
  have hstate : (h.fabric.qps.find? 5).map (·.state) = some .error := by decide +kernel
  obtain ⟨q, hq, herror⟩ := Option.map_eq_some_iff.1 hstate
  have hr : Reachable [{}] h := (Reachable.fresh {}).performAll _
  have hk : h.Leads k := .perform _ .refl
  have hclear : .queuesCleared 5 ∉ k.eventsSince h := by decide +kernel
  exact ⟨⟨q, hq, reachable_withdrawn hr hq herror hk hclear⟩, by decide +kernel⟩

end Host

end Rdma
