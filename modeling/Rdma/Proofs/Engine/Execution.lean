import Rdma.Proofs.Engine.Enact
import Rdma.Proofs.Engine.Standstill

/-!
# What one step of the engine leaves

The engine moves memory and queues one request at a time. Executing a request either changes nothing
or takes one of the data paths, and each path has passed all of its checks (`Execution`). A run of
the engine is a chain of steps that consume a request each (`Host.Steps`), so what holds of every
execution holds at every moment of a run.

* `executeFor_comes` — what executing a request comes to;
* `step_consumption` — what a step that consumes a request comes to;
* `progress_steps` — a run of the engine consumes one request after the other;
* `Steps.wanes` — what a run does to queue pairs.
-/

namespace Rdma

open Fabric (QueuePair PendingSend)

namespace Fabric

/-- A queue pair with nothing queued. -/
def QueuePair.emptied (q : QueuePair) : QueuePair := { q with sendQueue := [], recvQueue := [] }

/-- A queue pair that failed: in the error state, with nothing queued. -/
def QueuePair.failed (q : QueuePair) : QueuePair := { q.emptied with state := .error }

theorem QueuePair.failed_of_error {q : QueuePair} (herror : q.state = .error) :
    q.failed = q.emptied := by
  rw [failed, ← herror]
  rfl

/-- Requests of `q` go to the peer: it has the number that `q` is connected to, can take requests of
the transport, and is connected back if that is reliable. -/
structure Connected (f : Fabric) (q : QueuePair) (peerId : NativeId) (peer : QueuePair) :
    Prop where
  found : f.qps.find? peerId = some peer
  number : q.destination = some peer.number
  ready : peer.state = .rtr ∨ peer.state = .rts
  transport : peer.transport = q.transport
  back : q.transport = .reliable → peer.destination = some q.number

theorem updateQp_work (f : Fabric) (id : NativeId) (change : QueuePair → QueuePair) :
    (f.updateQp id change).work = f.work.updateQp id change := rfl

theorem updateQp_updateQp (f : Fabric) (id : NativeId) (change change' : QueuePair → QueuePair) :
    (f.updateQp id change).updateQp id change' = f.updateQp id (change' ∘ change) := by
  simp only [updateQp, Table.modify_modify]

theorem updateQp_of_none {f : Fabric} {id : NativeId} (hnone : f.qps.find? id = none)
    (change : QueuePair → QueuePair) : f.updateQp id change = f := by
  have hqps : f.qps.modify id change = f.qps :=
    Table.modify_eq_self fun q hq => by simp [hnone] at hq
  simp only [updateQp, hqps]

/-- The fabric after the request of a queue pair that had an outcome: one that failed takes the
queue pair with it. -/
def concluded (f : Fabric) (id : NativeId) : SendOutcome → Fabric
  | .failed _ => f.updateQp id (·.failed)
  | _ => f

end Fabric

open Host (peerOf? localEntriesUsable payloadLength payload scatterBytes writable grants accepts
  atomicResult)

/-- The peer that a request goes to has the number that its queue pair is connected to. -/
theorem Fabric.connected_of_peerOf {f : Fabric} {q peer : QueuePair} {peerId : NativeId}
    (hnumbered : f.Numbered) (hpeer : peerOf? f q = some (peerId, peer)) :
    f.Connected q peerId peer := by
  obtain ⟨number, hdest, hnumber, hp, haccepts⟩ := Host.peerOf_eq_some hpeer
  obtain ⟨p, hp', rfl⟩ := (hnumbered number peerId).1 hnumber
  obtain rfl : p = peer := Option.some.inj (hp'.symm.trans hp)
  simp only [accepts, Bool.and_eq_true, Bool.or_eq_true, decide_eq_true_eq] at haccepts
  obtain ⟨⟨hready, htransport⟩, hback⟩ := haccepts
  exact ⟨hp, hdest, hready, htransport, fun hreliable =>
    hback.resolve_left fun hunreliable => by cases hreliable.symm.trans hunreliable⟩

/-- A queue pair that is connected is found by its number. -/
theorem Fabric.Connected.peerOf {f : Fabric} {q peer : QueuePair} {peerId : NativeId}
    (hc : f.Connected q peerId peer) (hnumbered : f.Numbered) :
    peerOf? f q = some (peerId, peer) := by
  have hnumber : f.qpByNumber? peer.number = some peerId :=
    (hnumbered peer.number peerId).2 ⟨peer, hc.found, rfl⟩
  have haccepts : accepts peer q = true := by
    have hback : q.transport = .unreliable ∨ peer.destination = some q.number := by
      cases htransport : q.transport with
      | reliable => exact .inr (hc.back htransport)
      | unreliable => exact .inl rfl
    simp only [accepts, Bool.and_eq_true, Bool.or_eq_true, decide_eq_true_eq]
    exact ⟨⟨hc.ready, hc.transport⟩, hback⟩
  simp [peerOf?, hc.number, hnumber, hc.found, haccepts]

/-! ## Executions -/

/-- A request got past the checks of its own side, and there is a peer that accepts it. -/
structure Reaches (f : Fabric) (q : QueuePair) (pending : PendingSend) (peerId : NativeId)
    (peer : QueuePair) : Prop where
  reliable : pending.request.opcode.writesLocal = true → q.transport = .reliable
  usable : localEntriesUsable f q pending = true
  bounded : payloadLength pending ≤ maxMessageSize
  peer : peerOf? f q = some (peerId, peer)

/-- What executing a request of `q` comes to: the outcome, the tables and the memory. -/
inductive Execution (f : Fabric) (m : Memory) (q : QueuePair) (pending : PendingSend) :
    SendOutcome → Fabric → Memory → Prop
  /-- The request does not pass the checks of its own side. -/
  | refused {status : CompletionStatus} :
      (status = .localQpOperation ∧ q.transport = .unreliable ∨
        status = .localProtection ∨ status = .localLength) →
      Execution f m q pending (.failed status) f m
  /-- There is no peer that accepts the request. -/
  | unreachable (length : UInt32) :
      (pending.request.opcode.writesLocal = true → q.transport = .reliable) → peerOf? f q = none →
      Execution f m q pending (.lost q.transport length (.failed .retryExceeded)) f m
  /-- The peer does not grant the access, or a one-sided request is malformed. -/
  | denied {status : CompletionStatus} (length : UInt32) :
      pending.request.opcode ≠ .send → pending.request.opcode ≠ .sendWithImm →
      (pending.request.opcode.writesLocal = true → q.transport = .reliable) →
      Execution f m q pending (.lost q.transport length (.failed status)) f m
  /-- The peer has no receive request for it. -/
  | unreceived {peerId : NativeId} {peer : QueuePair} (length : UInt32) :
      Reaches f q pending peerId peer → pending.request.opcode.consumesRecv = true →
      f.recvRequests (Fabric.recvQueueOf peerId peer) = [] →
      Execution f m q pending (.lost q.transport length .blocked) f m
  /-- The peer's receive request cannot be used, and the peer fails with it. -/
  | unusable {peerId : NativeId} {peer : QueuePair} {r : RecvRequest} {rest : List RecvRequest}
      {status : CompletionStatus} (length : UInt32) :
      Reaches f q pending peerId peer → pending.request.opcode.consumesRecv = true →
      f.recvRequests (Fabric.recvQueueOf peerId peer) = r :: rest →
      Execution f m q pending (.lost q.transport length (.failed status))
        ((f.setRecvRequests rest (Fabric.recvQueueOf peerId peer)).updateQp peerId (·.failed)) m
  | delivered {peerId : NativeId} {peer : QueuePair} {r : RecvRequest} {rest : List RecvRequest}
      (length : UInt32) :
      Reaches f q pending peerId peer →
      (pending.request.opcode = .send ∨ pending.request.opcode = .sendWithImm) →
      f.recvRequests (Fabric.recvQueueOf peerId peer) = r :: rest →
      (∀ sge ∈ r.sges, writable f peer.pd sge = true) → payloadLength pending ≤ r.totalLength →
      Execution f m q pending (.done length)
        (f.setRecvRequests rest (Fabric.recvQueueOf peerId peer))
        (scatterBytes m r.sges (payload m pending))
  | written {peerId : NativeId} {peer : QueuePair} (length : UInt32) :
      Reaches f q pending peerId peer → pending.request.opcode = .write →
      grants f peer .remoteWrite pending.request.remote (payloadLength pending) = true →
      Execution f m q pending (.done length) f
        (m.writeBytes pending.request.remote.addr (payload m pending))
  | writtenWithImm {peerId : NativeId} {peer : QueuePair} {r : RecvRequest}
      {rest : List RecvRequest} (length : UInt32) :
      Reaches f q pending peerId peer → pending.request.opcode = .writeWithImm →
      grants f peer .remoteWrite pending.request.remote (payloadLength pending) = true →
      f.recvRequests (Fabric.recvQueueOf peerId peer) = r :: rest →
      Execution f m q pending (.done length)
        (f.setRecvRequests rest (Fabric.recvQueueOf peerId peer))
        (m.writeBytes pending.request.remote.addr (payload m pending))
  | fetched {peerId : NativeId} {peer : QueuePair} (length : UInt32) :
      Reaches f q pending peerId peer → pending.request.opcode = .read →
      grants f peer .remoteRead pending.request.remote (payloadLength pending) = true →
      Execution f m q pending (.done length) f
        (scatterBytes m pending.request.sges
          (m.readBytes pending.request.remote.addr (payloadLength pending)))
  | exchanged {peerId : NativeId} {peer : QueuePair} {sge : Sge} (length : UInt32) :
      Reaches f q pending peerId peer → pending.request.opcode.isAtomic = true →
      pending.request.sges = [sge] → sge.length = 8 →
      grants f peer .remoteAtomic pending.request.remote 8 = true →
      Execution f m q pending (.done length) f
        ((m.writeWord pending.request.remote.addr
          (atomicResult pending.request (m.readWord pending.request.remote.addr))).writeWord
            sge.addr (m.readWord pending.request.remote.addr))

namespace Host

variable {h g k : Host}

/-! ## What functions of the engine leave -/

theorem complete_memory (h : Host) (cq : NativeId) (c : Completion) (solicited : Bool) :
    (h.complete cq c solicited).memory = h.memory := by
  obtain ⟨cqs, channels, journal, hsame⟩ := h.complete_frame cq c solicited
  rw [hsame]

/-- Handing over completions one after the other leaves memory alone. -/
theorem foldl_memory {α : Type} (step : Host → α → Host)
    (hstep : ∀ k a, (step k a).memory = k.memory) (items : List α) (h : Host) :
    (items.foldl step h).memory = h.memory := by
  induction items generalizing h with
  | nil => rfl
  | cons a rest ih => exact (ih _).trans (hstep h a)

theorem flush_memory (h : Host) (id : NativeId) : (h.flush id).memory = h.memory := by
  unfold flush
  split
  · rfl
  · refine (foldl_memory _ (fun k r => ?_) _ _).trans (foldl_memory _ (fun k s => ?_) _ _)
    · exact complete_memory _ _ _ _
    · exact complete_memory _ _ _ _

theorem flush_work (h : Host) (id : NativeId) :
    (h.flush id).fabric.work = h.fabric.work.updateQp id (·.emptied) := by
  unfold flush
  cases hq : h.fabric.qps.find? id with
  | none => exact (Fabric.updateQp_of_none (f := h.fabric.work) hq _).symm
  | some q =>
      let emptied := h.updateQp id (·.emptied)
      have hsends := (foldl_handed (fun s : PendingSend => .sendRetired id s.request .flushed)
        (fun _ => rfl) q.sendCq (fun s => sendCompletion q.number s.request .flushed 0)
        q.sendQueue emptied).1
      exact (foldl_handed (.recvFlushed id) (fun _ => rfl) q.recvCq _ q.recvQueue _).1.trans hsends

theorem enterError_memory (h : Host) (id : NativeId) : (h.enterError id).memory = h.memory := by
  unfold enterError
  split
  · rfl
  · rw [flush_memory]
    split <;> rfl

theorem enterError_work (h : Host) (id : NativeId) :
    (h.enterError id).fabric.work = h.fabric.work.updateQp id (·.failed) := by
  unfold enterError
  cases hq : h.fabric.qps.find? id with
  | none => exact (Fabric.updateQp_of_none (f := h.fabric.work) hq _).symm
  | some q =>
      obtain ⟨hlogged, -⟩ := h.logError_same (q.state = .error) q.number
      rw [flush_work, updateQp_fabric, hlogged, Fabric.updateQp_work, Fabric.updateQp_updateQp]
      rfl

theorem completeRecv_memory (h : Host) (id : NativeId) (c : Completion) (solicited : Bool) :
    (h.completeRecv id c solicited).memory = h.memory := by
  unfold completeRecv
  split
  · rfl
  split
  · rw [enterError_memory, complete_memory]
  · exact complete_memory _ _ _ _

theorem completeRecv_work (h : Host) (id : NativeId) (c : Completion) (solicited : Bool) :
    (h.completeRecv id c solicited).fabric.work =
      if c.failed then h.fabric.work.updateQp id (·.failed) else h.fabric.work := by
  unfold completeRecv
  cases hq : h.fabric.qps.find? id with
  | none =>
      rw [Fabric.updateQp_of_none (f := h.fabric.work) hq, ite_self]
  | some q =>
      by_cases hc : c.failed = true
      · simp only [hc, if_true, enterError_work, complete_work]
      · simp only [hc, complete_work, Bool.false_eq_true, if_false]

/-! ## Executing -/

/-- A result of executing a request is one of those that there are. -/
def Comes (h : Host) (q : QueuePair) (pending : PendingSend) (result : SendOutcome × Host) : Prop :=
  Execution h.fabric.work h.memory q pending result.1 result.2.fabric.work result.2.memory

theorem takeRecv_leaves {id : NativeId} {p : QueuePair} {r : RecvRequest}
    (ht : h.takeRecv id p = some (r, k)) :
    ∃ rest, h.fabric.work.recvRequests (Fabric.recvQueueOf id p) = r :: rest ∧
      k.fabric = h.fabric.setRecvRequests rest (Fabric.recvQueueOf id p) ∧
      k.memory = h.memory := by
  obtain ⟨rest, hqueue, rfl⟩ := takeRecv_eq_some ht
  exact ⟨rest, hqueue, rfl, rfl⟩

/-- A check that does not refuse holds. -/
theorem of_not_refused {b : Bool} (h : ¬ (!b) = true) : b = true := by simpa using h

/-- Whether an entry may be written to depends on the regions only. -/
theorem writable_congr {f g : Fabric} (hregions : f.regions = g.regions) (pd : NativeId)
    (sge : Sge) : writable f pd sge = writable g pd sge := by
  simp only [writable, Fabric.localRegion?, hregions]

section Executing

variable {peerId : NativeId} {q peer : QueuePair} {pending : PendingSend} {length : UInt32}

section Peer

variable (hreaches : Reaches h.fabric.work q pending peerId peer)

include hreaches

/-- A send finds no receive request, or takes one that is unusable, or is delivered into it. -/
theorem deliver_comes (hop : pending.request.opcode = .send ∨
    pending.request.opcode = .sendWithImm) (hlength : length.toNat = payloadLength pending) :
    h.Comes q pending (h.deliver q peerId peer pending length) := by
  obtain ⟨-, -, -, hp, -⟩ := peerOf_eq_some hreaches.peer
  have htwoSided : pending.request.opcode.consumesRecv = true := by
    rcases hop with hop | hop <;> rw [hop] <;> rfl
  unfold deliver
  cases ht : h.takeRecv peerId peer with
  | none => exact .unreceived length hreaches htwoSided (takeRecv_eq_none.1 ht)
  | some taken =>
      obtain ⟨r, k⟩ := taken
      obtain ⟨rest, hqueue, hfabric, hmemory⟩ := takeRecv_leaves ht
      obtain ⟨peer', hp', hb⟩ := (Fabric.setRecvRequests_spends hqueue).later hp
      obtain ⟨hpd, -⟩ := QueuePair.fixed_of_cleared hb.fixed
      have hwork : k.fabric.work =
          h.fabric.work.setRecvRequests rest (Fabric.recvQueueOf peerId peer) := by
        rw [hfabric, setRecvRequests_work]
      -- taking a receive request leaves the regions and the peer's domain, so usable means the same
      have hregions : k.fabric.regions = h.fabric.work.regions := by
        rw [show k.fabric.regions = k.fabric.work.regions from rfl, hwork]
        exact (Fabric.setRecvRequests_spends hqueue).regions
      have hfound : k.fabric.qps.find? peerId = some peer' := by
        rw [show k.fabric.qps = k.fabric.work.qps from rfl, hwork]
        exact hp'
      -- a receive request that cannot be used takes the peer with it
      have hunusable {status : CompletionStatus} {c : Completion} (hc : c.failed = true) :
          h.Comes q pending (.lost q.transport length (.failed status),
            k.completeRecv peerId c false) := by
        unfold Comes
        simp only [completeRecv_work, completeRecv_memory, hc, if_true, hwork, hmemory]
        exact .unusable length hreaches htwoSided hqueue
      simp only [hfound]
      split
      · exact hunusable rfl
      split
      · exact hunusable rfl
      case isFalse hwritable hfits =>
        unfold Comes
        simp only [completeRecv_work, completeRecv_memory]
        rw [if_neg, hwork, hmemory]
        · refine .delivered length hreaches hop hqueue (fun sge hsge => ?_) ?_
          · have hentry : writable k.fabric peer'.pd sge = true := by
              simp only [Bool.not_eq_true, Bool.not_eq_false', List.all_eq_true] at hwritable
              exact hwritable sge hsge
            rwa [hpd, writable_congr hregions] at hentry
          · exact hlength ▸ Nat.not_lt.1 hfits
        · split <;> exact Bool.false_ne_true

/-- A write is denied by the peer's regions before it takes a receive request. -/
theorem remoteWrite_comes (hop : pending.request.opcode = .write ∨
    pending.request.opcode = .writeWithImm) (hlength : length.toNat = payloadLength pending) :
    h.Comes q pending (h.remoteWrite q peerId peer pending length) := by
  simp only [remoteWrite]
  split
  case isTrue =>
    refine .denied length ?_ ?_ hreaches.reliable
    all_goals rcases hop with hop | hop <;> rw [hop] <;> decide
  case isFalse hgranted =>
  have hgranted : grants h.fabric.work peer .remoteWrite pending.request.remote
      (payloadLength pending) = true := by
    rw [← hlength]
    exact of_not_refused hgranted
  split
  case isTrue htwoSided =>
    have himm : pending.request.opcode = .writeWithImm := by
      rcases hop with hop | hop
      · rw [hop] at htwoSided; cases htwoSided
      · exact hop
    cases ht : h.takeRecv peerId peer with
    | none => exact .unreceived length hreaches htwoSided (takeRecv_eq_none.1 ht)
    | some taken =>
        obtain ⟨r, k⟩ := taken
        obtain ⟨rest, hqueue, hfabric, hmemory⟩ := takeRecv_leaves ht
        have hwork : k.fabric.work =
            h.fabric.work.setRecvRequests rest (Fabric.recvQueueOf peerId peer) := by
          rw [hfabric, setRecvRequests_work]
        unfold Comes
        simp only [completeRecv_work, completeRecv_memory]
        rw [if_neg (by exact Bool.false_ne_true), hwork, hmemory]
        exact .writtenWithImm length hreaches himm hgranted hqueue
  case isFalse honeSided =>
    have hplain : pending.request.opcode = .write := by
      rcases hop with hop | hop
      · exact hop
      · rw [hop] at honeSided; exact absurd rfl honeSided
    exact .written length hreaches hplain hgranted

theorem remoteRead_comes (hop : pending.request.opcode = .read)
    (hlength : length.toNat = payloadLength pending) :
    h.Comes q pending (h.remoteRead peer pending.request length) := by
  have hreliable : q.transport = .reliable := hreaches.reliable (by rw [hop]; rfl)
  unfold remoteRead
  split
  case isTrue hgranted =>
    simp only [hlength] at hgranted ⊢
    exact .fetched length hreaches hop hgranted
  case isFalse =>
    have hdenied : h.Comes q pending
        (.lost q.transport length (.failed .remoteAccess), h) :=
      .denied length (by rw [hop]; exact nofun) (by rw [hop]; exact nofun) hreaches.reliable
    rwa [hreliable] at hdenied

/-- An atomic is denied unless it has one entry of eight bytes and an aligned, granted target. -/
theorem remoteAtomic_comes (hop : pending.request.opcode.isAtomic = true) :
    h.Comes q pending (h.remoteAtomic peer pending.request) := by
  have hwrites : pending.request.opcode.writesLocal = true := by
    simp [SendOpcode.writesLocal, hop]
  have hdenied (status : CompletionStatus) : h.Comes q pending (.failed status, h) := by
    have hlost : h.Comes q pending (.lost q.transport 0 (.failed status), h) := by
      refine .denied 0 ?_ ?_ hreaches.reliable
      all_goals
        intro hsend
        rw [hsend] at hop
        cases hop
    rwa [hreaches.reliable hwrites] at hlost
  unfold remoteAtomic
  split
  case h_1 sge hsges =>
    split
    · exact hdenied _
    case isFalse hlength =>
    split
    · exact hdenied _
    split
    · exact hdenied _
    case isFalse hgranted =>
      exact .exchanged 8 hreaches hop hsges (Decidable.not_not.1 hlength) (of_not_refused hgranted)
  case h_2 => exact hdenied _

end Peer

/-- The request's own side is checked first, then the peer is looked up, then the opcode decides. -/
theorem executeFor_comes (h : Host) (q : QueuePair) (pending : PendingSend) :
    h.Comes q pending (h.executeFor q pending) := by
  simp only [executeFor]
  split
  case isTrue hone => exact .refused (.inl ⟨rfl, by simp_all⟩)
  case isFalse hone =>
  split
  case isTrue => exact .refused (.inr (.inl rfl))
  case isFalse husable =>
  split
  case isTrue => exact .refused (.inr (.inr rfl))
  case isFalse hlong =>
  have hbounded : payloadLength pending ≤ maxMessageSize := Nat.not_lt.1 hlong
  -- within the limit the length is not cut down to 32 bits
  have hlength : (UInt32.ofNat (payloadLength pending)).toNat = payloadLength pending := by
    have hmax : maxMessageSize < UInt32.size := by decide
    exact UInt32.toNat_ofNat_of_lt' (Nat.lt_of_le_of_lt hbounded hmax)
  have hreliable : pending.request.opcode.writesLocal = true → q.transport = .reliable := by
    intro hwrites
    cases htransport : q.transport with
    | reliable => rfl
    | unreliable => simp [htransport, hwrites] at hone
  cases hpeer : peerOf? h.fabric q with
  | none => exact .unreachable _ hreliable hpeer
  | some found =>
      obtain ⟨peerId, peer⟩ := found
      have hreaches : Reaches h.fabric.work q pending peerId peer :=
        ⟨hreliable, of_not_refused husable, hbounded, hpeer⟩
      cases hop : pending.request.opcode <;> simp only
      case send => exact deliver_comes hreaches (.inl hop) hlength
      case sendWithImm => exact deliver_comes hreaches (.inr hop) hlength
      case write => exact remoteWrite_comes hreaches (.inl hop) hlength
      case writeWithImm => exact remoteWrite_comes hreaches (.inr hop) hlength
      case read => exact remoteRead_comes hreaches hop hlength
      case compareSwap | fetchAdd => exact remoteAtomic_comes hreaches (by rw [hop]; rfl)

end Executing

/-! ## Stepping -/

theorem conclude_leaves (h : Host) (id : NativeId) (q : QueuePair) (pending : PendingSend)
    {outcome : SendOutcome} (hblocked : outcome ≠ .blocked) :
    (h.conclude id q pending outcome).2.memory = h.memory ∧
      (h.conclude id q pending outcome).2.fabric.work = h.fabric.work.concluded id outcome := by
  cases outcome with
  | blocked => exact absurd rfl hblocked
  | done =>
      simp only [conclude]
      split
      · exact ⟨complete_memory _ _ _ _, complete_work _ _ _ _⟩
      · exact ⟨rfl, rfl⟩
  | failed status =>
      simp only [conclude, enterError_memory, enterError_work, complete_memory, complete_work]
      exact ⟨rfl, rfl⟩

/-- While a request is off its queue to be executed, its queue pair is connected as it was. -/
theorem connected_of_popped {id peerId : NativeId} {q p : QueuePair} {rest : List PendingSend}
    (hc : (h.popped id rest).fabric.work.Connected { q with sendQueue := rest } peerId p) :
    ∃ p', h.fabric.Connected q peerId p' ∧ p'.pd = p.pd ∧ p'.access = p.access ∧
      p'.srq = p.srq := by
  obtain ⟨p', hp', hsame⟩ := popped_find_cases hc.found
  have hnumber : p.number = p'.number := congrArg (·.number) hsame
  have hstate : p.state = p'.state := congrArg (·.state) hsame
  have htransport : p.transport = p'.transport := congrArg (·.transport) hsame
  have hdestination : p.destination = p'.destination := congrArg (·.destination) hsame
  refine ⟨p', ⟨hp', hnumber ▸ hc.number, hstate ▸ hc.ready, htransport ▸ hc.transport,
    hdestination ▸ hc.back⟩, ?_, ?_, ?_⟩
  · exact (congrArg (·.pd) hsame).symm
  · exact (congrArg (·.access) hsame).symm
  · exact (congrArg (·.srq) hsame).symm

/-- The head of a send queue was executed, and it left the queue with an outcome. -/
structure Consumption (h : Host) (id : NativeId) (q : QueuePair) (pending : PendingSend)
    (rest : List PendingSend) (outcome : SendOutcome) (k : Host) : Prop where
  found : h.fabric.qps.find? id = some q
  ready : q.state = .rts
  head : q.sendQueue = pending :: rest
  consumed : outcome ≠ .blocked
  outcome_eq : ((h.popped id rest).execute id pending).1 = outcome
  executed : ∃ f, Execution (h.popped id rest).fabric.work h.memory { q with sendQueue := rest }
    pending outcome f k.memory ∧ k.fabric.work = f.concluded id outcome

/-- A step that consumes anything executes the head of a queue that is ready to send. -/
theorem step_consumption {id : NativeId} (hstep : h.step id = (true, k)) :
    ∃ q pending rest outcome, h.Consumption id q pending rest outcome k := by
  have htrue : (h.step id).1 = true := by rw [hstep]
  by_cases hidle : ∀ q, h.fabric.qps.find? id = some q → q.state = .rts → q.sendQueue = []
  · rw [step_of_idle hidle] at htrue
    cases htrue
  obtain ⟨q, hq, hs, hne⟩ : ∃ q, h.fabric.qps.find? id = some q ∧ q.state = .rts ∧
      q.sendQueue ≠ [] := by grind
  obtain ⟨pending, rest, hsend⟩ := List.exists_cons_of_ne_nil hne
  have hb : ((h.popped id rest).execute id pending).1 ≠ .blocked := by
    intro hb
    rw [step_of_blocked hq hs hsend hb] at htrue
    cases htrue
  -- the sender is there after the execution as it was before
  obtain ⟨hmoves, -, -⟩ := execute_executed (popped_find hq rest) pending
  obtain ⟨q', hq', -⟩ := hmoves.find_qp (popped_find hq rest)
  have hexecuted := executeFor_comes (h.popped id rest) { q with sendQueue := rest } pending
  have heq := step_eq hq hs hsend
  simp only [hq', hstep] at heq
  have hexecute : (h.popped id rest).execute id pending =
      (h.popped id rest).executeFor { q with sendQueue := rest } pending := by
    simp only [execute, popped_find hq rest]
  rw [hexecute] at heq hb
  obtain ⟨hmemory, hwork⟩ := conclude_leaves
    ((h.popped id rest).executeFor { q with sendQueue := rest } pending).2 id q' pending hb
  rw [← heq] at hmemory hwork
  refine ⟨q, pending, rest, _, hq, hs, hsend, hb, by rw [hexecute], _, ?_, hwork⟩
  rw [hmemory]
  exact hexecuted

/-! ## Running -/

/-- Steps that consume a request each, one after the other. -/
abbrev Steps : Host → Host → Prop :=
  Relation.ReflTransGen fun g k => ∃ id, g.step id = (true, k)

/-- However much fuel it has, draining is a run of steps. -/
theorem drainUpTo_steps (n : Nat) (h : Host) (id : NativeId) :
    h.Steps (drainUpTo n h id).2 := by
  induction n generalizing h with
  | zero => exact .refl
  | succ n ih =>
      simp only [drainUpTo]
      cases hstep : h.step id with
      | mk consumed k =>
          cases consumed with
          | true => exact .head ⟨id, hstep⟩ (ih k)
          | false =>
              rcases h.step_cases id with hsame | ⟨_, _, _, _, _, htrue, _⟩
              · rw [hsame] at hstep
                obtain rfl := congrArg Prod.snd hstep
                exact .refl
              · rw [hstep] at htrue
                cases htrue

theorem pass_steps (h : Host) : h.Steps h.pass.2 := by
  have hdrained (ids : List NativeId) : ∀ (moved : Bool) (k : Host),
      k.Steps (ids.foldl passOne (moved, k)).2 := by
    induction ids with
    | nil => exact fun _ _ => .refl
    | cons id rest ih =>
        intro moved k
        exact (drainUpTo_steps _ k id).trans (ih _ _)
  rw [pass_eq]
  exact hdrained _ _ h

theorem progress_steps (h : Host) : h.Steps h.progress := by
  have hrun (n : Nat) : ∀ k : Host, k.Steps (progressUpTo n k) := by
    induction n with
    | zero => exact fun _ => .refl
    | succ n ih =>
        intro k
        have hpass := pass_steps k
        simp only [progressUpTo]
        cases hp : k.pass with
        | mk moved k' =>
            rw [hp] at hpass
            cases moved with
            | false => exact hpass
            | true => exact hpass.trans (ih k')
  exact hrun _ h

theorem Steps.moves (hs : h.Steps k) : h.Moves k := by
  induction hs with
  | refl => exact .refl
  | @tail g k _ hlast ih =>
      obtain ⟨id, hstep⟩ := hlast
      have hmoves := g.step_moves id
      rw [hstep] at hmoves
      exact ih.trans hmoves

end Host

/-! ## Queue pairs during a run -/

namespace Fabric

/-- What a run does to a queue pair: requests leave its queues, or it fails. -/
inductive QueuePair.Spent (q : QueuePair) : QueuePair → Prop
  | fewer {sends : List PendingSend} {recvs : List RecvRequest} : sends <:+ q.sendQueue →
      recvs <:+ q.recvQueue → Spent q { q with sendQueue := sends, recvQueue := recvs }
  | failed : Spent q q.failed

theorem QueuePair.Spent.refl (q : QueuePair) : q.Spent q :=
  .fewer (List.suffix_refl _) (List.suffix_refl _)

theorem QueuePair.Spent.trans {q q' q'' : QueuePair} (h : q.Spent q') (h' : q'.Spent q'') :
    q.Spent q'' := by
  cases h' with
  | failed => cases h <;> exact .failed
  | fewer hsends hrecvs =>
      cases h with
      | fewer hsends' hrecvs' => exact .fewer (hsends.trans hsends') (hrecvs.trans hrecvs')
      | failed =>
          obtain rfl := List.suffix_nil.1 hsends
          obtain rfl := List.suffix_nil.1 hrecvs
          exact .failed

theorem QueuePair.Spent.cleared {q q' : QueuePair} (h : q.Spent q') : q'.cleared = q.cleared := by
  cases h <;> rfl

/-- A queue pair in the error state stays there. -/
theorem QueuePair.Spent.error {q q' : QueuePair} (h : q.Spent q') (hq : q.state = .error) :
    q'.state = .error := by
  cases h with
  | fewer => exact hq
  | failed => rfl

/-- No queue pair came or went, and each is what a run makes of it. -/
structure Wanes (f g : Fabric) : Prop where
  later : ∀ {id q}, f.qps.find? id = some q → ∃ q', g.qps.find? id = some q' ∧ q.Spent q'
  earlier : ∀ {id q'}, g.qps.find? id = some q' → ∃ q, f.qps.find? id = some q ∧ q.Spent q'

variable {e f g : Fabric}

theorem Wanes.refl (f : Fabric) : f.Wanes f where
  later hq := ⟨_, hq, .refl _⟩
  earlier hq := ⟨_, hq, .refl _⟩

theorem Wanes.trans (h : e.Wanes f) (h' : f.Wanes g) : e.Wanes g where
  later hq := by
    obtain ⟨q', hq', hspent⟩ := h.later hq
    obtain ⟨q'', hq'', hspent'⟩ := h'.later hq'
    exact ⟨q'', hq'', hspent.trans hspent'⟩
  earlier hq := by
    obtain ⟨q', hq', hspent'⟩ := h'.earlier hq
    obtain ⟨q, hq, hspent⟩ := h.earlier hq'
    exact ⟨q, hq, hspent.trans hspent'⟩

theorem updateQp_wanes {id : NativeId} {change : QueuePair → QueuePair}
    (hchange : ∀ q, f.qps.find? id = some q → q.Spent (change q)) :
    f.Wanes (f.updateQp id change) where
  later {id' q} hq := by
    simp only [updateQp, Table.find?_modify, hq]
    split
    case isTrue hid => exact ⟨_, rfl, hchange q (hid ▸ hq)⟩
    case isFalse => exact ⟨q, rfl, .refl q⟩
  earlier {id' q'} hq' := by
    rcases Table.modified hq' with ⟨hid, q, hq, rfl⟩ | hq'
    · exact ⟨q, hq, hchange q (hid ▸ hq)⟩
    · exact ⟨q', hq', .refl q'⟩

theorem failed_wanes (f : Fabric) (id : NativeId) : f.Wanes (f.updateQp id (·.failed)) :=
  updateQp_wanes fun _ _ => .failed

theorem setRecvRequests_wanes {queue : RecvQueue} {r : RecvRequest} {rest : List RecvRequest}
    (hqueue : f.recvRequests queue = r :: rest) : f.Wanes (f.setRecvRequests rest queue) := by
  cases queue with
  | shared => exact ⟨(Wanes.refl f).later, (Wanes.refl f).earlier⟩
  | ofQp id =>
      refine updateQp_wanes fun q hq => .fewer (List.suffix_refl _) ?_
      simp only [recvRequests, hq, Option.map_some, Option.getD_some] at hqueue
      rw [hqueue]
      exact List.suffix_cons r rest

theorem concluded_wanes (f : Fabric) (id : NativeId) (outcome : SendOutcome) :
    f.Wanes (f.concluded id outcome) := by
  cases outcome with
  | failed => exact f.failed_wanes id
  | done | blocked => exact .refl f

end Fabric

theorem Execution.wanes {f g : Fabric} {m m' : Memory} {q : QueuePair} {pending : PendingSend}
    {outcome : SendOutcome} (h : Execution f m q pending outcome g m') : f.Wanes g := by
  cases h with
  | refused | unreachable | denied | unreceived | written | fetched | exchanged => exact .refl f
  | unusable _ _ _ hqueue =>
      exact (Fabric.setRecvRequests_wanes hqueue).trans (Fabric.failed_wanes _ _)
  | delivered _ _ _ hqueue | writtenWithImm _ _ _ _ hqueue =>
      exact Fabric.setRecvRequests_wanes hqueue

namespace Host

variable {h k : Host}

/-- What a step does to queue pairs once the head is off its queue. -/
theorem Consumption.popped_wanes {id : NativeId} {q : QueuePair} {pending : PendingSend}
    {rest : List PendingSend} {outcome : SendOutcome}
    (hc : h.Consumption id q pending rest outcome k) :
    (h.popped id rest).fabric.Wanes k.fabric := by
  obtain ⟨f, hexecuted, hwork⟩ := hc.executed
  have hconcluded : f.Wanes k.fabric.work := hwork ▸ f.concluded_wanes id outcome
  have hall := hexecuted.wanes.trans hconcluded
  exact ⟨hall.later, hall.earlier⟩

theorem Consumption.wanes {id : NativeId} {q : QueuePair} {pending : PendingSend}
    {rest : List PendingSend} {outcome : SendOutcome}
    (hc : h.Consumption id q pending rest outcome k) : h.fabric.Wanes k.fabric := by
  have hpopped : h.fabric.Wanes (h.popped id rest).fabric := by
    refine Fabric.updateQp_wanes fun q' hq' => .fewer ?_ (List.suffix_refl _)
    obtain rfl := Option.some.inj (hq'.symm.trans hc.found)
    rw [hc.head]
    exact List.suffix_cons _ _
  exact hpopped.trans hc.popped_wanes

theorem Steps.wanes (hs : h.Steps k) : h.fabric.Wanes k.fabric := by
  induction hs with
  | refl => exact .refl _
  | tail _ hlast ih =>
      obtain ⟨id, hstep⟩ := hlast
      obtain ⟨_, _, _, _, hconsumption⟩ := step_consumption hstep
      exact ih.trans hconsumption.wanes

end Host

end Rdma
