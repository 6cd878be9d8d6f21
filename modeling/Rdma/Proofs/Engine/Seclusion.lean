import Rdma.Proofs.Engine.Execution

/-!
# What the engine leaves alone

A run of the engine starts from the queue pairs whose first request it can consume (`Host.Due`). It
reaches those that their requests go to, and no others. So where requests do not cross a border, and
nothing is due on the far side, the far side stays as it is: no queue pair there changes, and none is
told of anything.

* `not_due_of_detained` — a request that blocked goes on to block;
* `Steps.secludes` — what a run does to the tables beyond the border;
* `Acts.within` — whom a run tells.
-/

namespace Rdma

open Fabric (QueuePair PendingSend)
open Host (peerOf? accepts localEntriesUsable grants)

/-! ## Blocking -/

/-- Entries that can be used can be used when there are more regions. -/
theorem localEntriesUsable_of_added {f g : Fabric} (hmore : f.regions.values <+: g.regions.values)
    {q : QueuePair} {pending : PendingSend} (husable : localEntriesUsable f q pending = true) :
    localEntriesUsable g q pending = true := by
  simp only [localEntriesUsable, Bool.or_eq_true, List.all_eq_true, Option.any_eq_true] at husable ⊢
  refine husable.imp_right fun hentries sge hsge => ?_
  obtain ⟨r, hr, hallowed⟩ := hentries sge hsge
  exact ⟨r, hmore.find?_eq_some hr, hallowed⟩

/-- What is granted is granted when there are more regions. -/
theorem grants_of_added {f g : Fabric} (hmore : f.regions.values <+: g.regions.values)
    {peer : QueuePair} {right : Permission} {target : RemoteAddress} {length : Nat}
    (hgranted : grants f peer right target length = true) :
    grants g peer right target length = true := by
  simp only [grants, Bool.and_eq_true, Option.any_eq_true] at hgranted ⊢
  obtain ⟨haccess, r, hr, hallowed⟩ := hgranted
  exact ⟨haccess, r, hmore.find?_eq_some hr, hallowed⟩

namespace Host

variable {g h k : Host} {id : NativeId} {q : QueuePair} {pending : PendingSend}

/-- A request that blocks goes on to block while its peer is the same and has no receive request for
it, and no region is gone. -/
theorem executeFor_blocked_of (hb : (h.executeFor q pending).1 = .blocked)
    (hmore : h.fabric.regions.values <+: k.fabric.regions.values)
    (hpeer : ∀ {peerId peer}, peerOf? h.fabric q = some (peerId, peer) →
      h.takeRecv peerId peer = none →
      peerOf? k.fabric q = some (peerId, peer) ∧ k.takeRecv peerId peer = none) :
    (k.executeFor q pending).1 = .blocked := by
  obtain ⟨hreliable, -, peerId, peer, hp, hnone⟩ := executeFor_blocked hb
  obtain ⟨hp', hnone'⟩ := hpeer hp hnone
  simp only [executeFor, hp] at hb
  simp only [executeFor, hp']
  split at hb
  · cases hb
  case isFalse hone =>
  split at hb
  · cases hb
  case isFalse husable =>
  split at hb
  · cases hb
  case isFalse hlong =>
  rw [if_neg hone, if_neg, if_neg hlong]
  case hnc =>
    rw [localEntriesUsable_of_added hmore (of_not_refused husable)]
    exact Bool.false_ne_true
  cases hop : pending.request.opcode <;> simp only [hop] at hb ⊢
  case send | sendWithImm => simp only [deliver, hnone', SendOutcome.lost, hreliable]
  case write | writeWithImm =>
    simp only [remoteWrite, hnone, hop] at hb
    simp only [remoteWrite, hnone', hop]
    split at hb
    · cases (lost_eq_blocked hb).2
    case isFalse hgranted =>
    rw [if_neg]
    · split at hb
      · simp only [*, if_true, SendOutcome.lost]
      · cases hb
    · rw [grants_of_added hmore (of_not_refused hgranted)]
      exact Bool.false_ne_true
  case read => exact absurd hb (h.remoteRead_not_blocked peer pending.request _)
  case compareSwap | fetchAdd => exact absurd hb (h.remoteAtomic_not_blocked peer pending.request)

/-- The engine consumes the first request of the send queue as soon as it runs. -/
def Due (h : Host) (id : NativeId) : Prop := (h.step id).1 = true

theorem Due.waiting (hdue : h.Due id) : ∃ q pending rest, h.fabric.qps.find? id = some q ∧
    q.state = .rts ∧ q.sendQueue = pending :: rest := by
  obtain ⟨q, pending, rest, _, hc⟩ := step_consumption (Prod.ext hdue rfl)
  exact ⟨q, pending, rest, hc.found, hc.ready, hc.head⟩

theorem Still.not_due (hstill : h.Still) (id : NativeId) : ¬ h.Due id := by
  rw [Due, hstill id]
  exact Bool.false_ne_true

end Host

/-- What a request that blocks at the head of a send queue waits for has not come from `f` to `g`, and
no request has come to the head. -/
structure Fabric.Detains (f g : Fabric) (id : NativeId) : Prop where
  regions : f.regions.values <+: g.regions.values
  own : ∀ {q}, g.qps.find? id = some q → q.state = .rts → q.sendQueue ≠ [] →
    f.qps.find? id = some q
  peer : ∀ {q peerId peer}, f.qps.find? id = some q → q.state = .rts → q.sendQueue ≠ [] →
    f.Connected q peerId peer → g.qps.find? peerId = some peer ∧
      (f.recvRequests (recvQueueOf peerId peer) = [] → g.recvRequests (recvQueueOf peerId peer) = [])

namespace Host

variable {g h k : Host} {id : NativeId}

theorem popped_numbered (hh : h.fabric.Numbered) (id : NativeId) (rest : List PendingSend) :
    (h.popped id rest).fabric.Numbered :=
  hh.updateQp fun _ => rfl

/-- A queue pair has the same peer, and that the same receive queue, while the request at the head of
its send queue is executed. -/
theorem peer_of_popped {rest : List PendingSend} {q peer : QueuePair} {peerId : NativeId}
    (hh : h.fabric.Numbered)
    (hpeer : peerOf? (h.popped id rest).fabric { q with sendQueue := rest } = some (peerId, peer)) :
    ∃ p, h.fabric.Connected q peerId p ∧ p.srq = peer.srq ∧
      (h.popped id rest).fabric.Connected { q with sendQueue := rest } peerId peer := by
  have hnumbers := popped_numbered hh id rest
  have hconnected : (h.popped id rest).fabric.work.Connected { q with sendQueue := rest } peerId
      peer := Fabric.connected_of_peerOf hnumbers hpeer
  obtain ⟨p, hp, -, -, hsrq⟩ := connected_of_popped hconnected
  exact ⟨p, hp, hsrq, Fabric.connected_of_peerOf hnumbers hpeer⟩

/-- A request that is not due does not become due while it is detained. -/
theorem not_due_of_detained (hd : h.fabric.Detains k.fabric id) (hh : h.fabric.Numbered)
    (hk : k.fabric.Numbered) (hnot : ¬ h.Due id) : ¬ k.Due id := by
  intro hdue
  obtain ⟨q, pending, rest, hq', hrts, hsend⟩ := hdue.waiting
  have hne : q.sendQueue ≠ [] := by rw [hsend]; exact List.cons_ne_nil _ _
  have hq := hd.own hq' hrts hne
  have hb : ((h.popped id rest).executeFor { q with sendQueue := rest } pending).1 = .blocked := by
    refine Decidable.byContradiction fun hb => hnot (step_of_consumed hq hrts hsend ?_).1
    simpa only [execute, popped_find hq rest] using hb
  have hb' : ((k.popped id rest).executeFor { q with sendQueue := rest } pending).1 = .blocked := by
    refine executeFor_blocked_of hb hd.regions fun {peerId peer} hpeer hnone => ?_
    obtain ⟨p, hp, hsrq, hconnected⟩ := peer_of_popped hh hpeer
    obtain ⟨hkept, hempty⟩ := hd.peer hq hrts hne hp
    have hfound : (k.popped id rest).fabric.qps.find? peerId = some peer := by
      rw [← hconnected.found]
      simp only [popped, updateQp_fabric, Fabric.updateQp, Table.find?_modify, hkept, hp.found]
    refine ⟨Fabric.Connected.peerOf { hconnected with found := hfound }
      (popped_numbered hk id rest), ?_⟩
    have hqueue : Fabric.recvQueueOf peerId peer = Fabric.recvQueueOf peerId p := by
      rw [Fabric.recvQueueOf, Fabric.recvQueueOf, hsrq]
    rw [takeRecv_eq_none, popped_recvRequests, hqueue] at hnone ⊢
    exact hempty hnone
  have hblocked := step_of_blocked hq' hrts hsend (by
    simpa only [execute, popped_find hq' rest] using hb')
  rw [Due, hblocked] at hdue
  cases hdue

end Host

/-! ## Both sides of a border -/

/-- What lies beyond the border is as it was: queue pairs are the same, and shared receive queues on
which somebody there may wait stay empty. -/
structure Fabric.Secludes (f g : Fabric) (inside : NativeId → Prop) : Prop where
  outside : ∀ {id}, ¬ inside id → g.qps.find? id = f.qps.find? id
  empty : ∀ {srq}, f.recvRequests (.shared srq) = [] → g.recvRequests (.shared srq) = []
  regions : g.regions = f.regions

namespace Fabric

variable {e f g : Fabric} {inside : NativeId → Prop} {id : NativeId}

theorem Secludes.refl (f : Fabric) : f.Secludes f inside := ⟨fun _ => rfl, fun hempty => hempty, rfl⟩

theorem Secludes.trans (h : e.Secludes f inside) (h' : f.Secludes g inside) :
    e.Secludes g inside where
  outside hout := (h'.outside hout).trans (h.outside hout)
  empty hempty := h'.empty (h.empty hempty)
  regions := h'.regions.trans h.regions

theorem updateQp_secludes (hid : inside id) (change : QueuePair → QueuePair) :
    f.Secludes (f.updateQp id change) inside where
  outside {id'} hout := by
    have hother : id' ≠ id := fun hsame => hout (hsame ▸ hid)
    simp only [updateQp, Table.find?_modify, hother, if_false]
  empty hempty := hempty
  regions := rfl

theorem setRecvRequests_secludes {r : RecvRequest} {rest : List RecvRequest} {peer : QueuePair}
    (hid : inside id) (hqueue : f.recvRequests (recvQueueOf id peer) = r :: rest) :
    f.Secludes (f.setRecvRequests rest (recvQueueOf id peer)) inside := by
  rw [recvQueueOf] at hqueue ⊢
  split at hqueue
  case h_1 srq _ =>
    refine ⟨fun _ => rfl, fun {srq'} hempty => ?_, rfl⟩
    simp only [recvRequests, setRecvRequests, Table.find?_modify] at hempty hqueue ⊢
    split
    case isTrue hsame =>
      -- a queue that a request was taken from was not empty
      subst hsame
      rw [hempty] at hqueue
      cases hqueue
    case isFalse => exact hempty
  case h_2 => exact updateQp_secludes hid _

end Fabric

/-- A request that is executed leaves all but its peer alone. -/
theorem Execution.secludes {f g : Fabric} {m m' : Memory} {q : QueuePair} {pending : PendingSend}
    {outcome : SendOutcome} {inside : NativeId → Prop} (h : Execution f m q pending outcome g m')
    (hnumbered : f.Numbered)
    (hpeer : ∀ {peerId peer}, f.Connected q peerId peer → inside peerId) : f.Secludes g inside := by
  have hreached {peerId : NativeId} {peer : QueuePair} (hr : Reaches f q pending peerId peer) :
      inside peerId := hpeer (Fabric.connected_of_peerOf hnumbered hr.peer)
  cases h with
  | refused | unreachable | denied | unreceived | written | fetched | exchanged => exact .refl f
  | unusable _ hr _ hqueue =>
      exact (Fabric.setRecvRequests_secludes (hreached hr) hqueue).trans
        (Fabric.updateQp_secludes (hreached hr) _)
  | delivered _ hr _ hqueue | writtenWithImm _ hr _ _ hqueue =>
      exact Fabric.setRecvRequests_secludes (hreached hr) hqueue

/-- A queue pair that lost requests, or failed, is connected to those that it was connected to. -/
theorem Fabric.Connected.of_becomes {f g : Fabric} {q q' p p' : QueuePair} {peerId : NativeId}
    (hc : g.Connected q' peerId p') (hq : q.Becomes q') (hp : f.qps.find? peerId = some p)
    (hbecomes : p.Becomes p') : f.Connected q peerId p := by
  obtain ⟨-, -, htransport, -⟩ := QueuePair.fixed_of_cleared hq.fixed
  obtain ⟨-, -, htransport', -⟩ := QueuePair.fixed_of_cleared hbecomes.fixed
  refine ⟨hp, ?_, ?_, ?_, fun hreliable => ?_⟩
  · rw [← hq.destination, ← hbecomes.number]
    exact hc.number
  · rcases hbecomes.state with hsame | herror
    · exact hsame ▸ hc.ready
    · rcases hc.ready with hready | hready <;> rw [herror] at hready <;> cases hready
  · rw [← htransport, ← htransport']
    exact hc.transport
  · rw [← hbecomes.destination, ← hq.number]
    exact hc.back (htransport.trans hreliable)

theorem Fabric.QueuePair.Spent.becomes {q q' : QueuePair} (h : q.Spent q') : q.Becomes q' := by
  cases h with
  | fewer hsends hrecvs => exact ⟨rfl, rfl, .inl rfl, hsends, hrecvs⟩
  | failed => exact ⟨rfl, rfl, .inr rfl, List.nil_suffix, List.nil_suffix⟩

/-- A queue pair that may send and has something to send could do so before it lost requests. -/
theorem Fabric.QueuePair.Becomes.waiting {q q' : QueuePair} (h : q.Becomes q')
    (hrts : q'.state = .rts) (hne : q'.sendQueue ≠ []) : q.state = .rts ∧ q.sendQueue ≠ [] := by
  constructor
  · rcases h.state with hsame | herror
    · exact hsame.symm.trans hrts
    · rw [herror] at hrts
      cases hrts
  · intro hempty
    exact hne (List.suffix_nil.1 (hempty ▸ h.sends))

/-- No request crosses the border: a queue pair that may send is on the same side as its peer. -/
def Fabric.Parts (f : Fabric) (inside : NativeId → Prop) : Prop :=
  ∀ {id q peerId peer}, f.qps.find? id = some q → q.state = .rts → q.sendQueue ≠ [] →
    f.Connected q peerId peer → (inside id ↔ inside peerId)

namespace Host

variable {g h k : Host} {inside : NativeId → Prop} {id : NativeId}

theorem concluded_secludes (f : Fabric) (hid : inside id) (outcome : SendOutcome) :
    f.Secludes (f.concluded id outcome) inside := by
  cases outcome with
  | failed => exact Fabric.updateQp_secludes hid _
  | done | blocked => exact .refl f

theorem Consumption.secludes {q : QueuePair} {pending : PendingSend} {rest : List PendingSend}
    {outcome : SendOutcome} (hc : h.Consumption id q pending rest outcome k)
    (hh : h.fabric.Numbered) (hid : inside id)
    (hpeer : ∀ {peerId peer}, h.fabric.Connected q peerId peer → inside peerId) :
    h.fabric.Secludes k.fabric inside := by
  obtain ⟨f, hexecuted, hwork⟩ := hc.executed
  have hpopped : h.fabric.Secludes (h.popped id rest).fabric inside :=
    Fabric.updateQp_secludes hid _
  have hexecute : (h.popped id rest).fabric.work.Secludes f inside :=
    hexecuted.secludes (popped_numbered hh id rest) fun hconnected => by
      obtain ⟨p, hp, -⟩ := connected_of_popped hconnected
      exact hpeer hp
  have hconclude : f.Secludes k.fabric.work inside := hwork ▸ concluded_secludes f hid outcome
  have hrest := hexecute.trans hconclude
  exact hpopped.trans ⟨hrest.outside, hrest.empty, hrest.regions⟩

/-- What lies beyond the border detains what is not due there. -/
theorem detains_of_secluded (hs : g.fabric.Secludes h.fabric inside)
    (hparts : g.fabric.Parts inside) (hout : ¬ inside id) : g.fabric.Detains h.fabric id where
  regions := hs.regions ▸ List.prefix_rfl
  own hq _ _ := (hs.outside hout).symm.trans hq
  peer {q peerId peer} hq hrts hne hconnected := by
    have hpeer : ¬ inside peerId := fun hin => hout ((hparts hq hrts hne hconnected).2 hin)
    exact ⟨(hs.outside hpeer).trans hconnected.found,
      Fabric.recvRequests_empty (hs.outside hpeer) hs.empty⟩

theorem Steps.numbered (hsteps : g.Steps k) (hg : g.fabric.Numbered) : k.fabric.Numbered := by
  intro number id
  have hnumbers : k.fabric.qpNumbers = g.fabric.qpNumbers :=
    congrArg (·.qpNumbers) (Steps.moves hsteps).skeleton
  rw [hnumbers, hg]
  constructor
  · rintro ⟨q, hq, rfl⟩
    obtain ⟨q', hq', hspent⟩ := (Steps.wanes hsteps).later hq
    exact ⟨q', hq', hspent.becomes.number⟩
  · rintro ⟨q', hq', rfl⟩
    obtain ⟨q, hq, hspent⟩ := (Steps.wanes hsteps).earlier hq'
    exact ⟨q, hq, hspent.becomes.number.symm⟩

/-- The engine stays on its side of the border. -/
theorem Steps.secludes (hsteps : g.Steps k) (hg : g.fabric.Numbered) (hparts : g.fabric.Parts inside)
    (hcalm : ∀ {id}, ¬ inside id → ¬ g.Due id) : g.fabric.Secludes k.fabric inside := by
  induction hsteps with
  | refl => exact .refl _
  | @tail h k hbefore hlast ih =>
      obtain ⟨sender, hstep⟩ := hlast
      obtain ⟨q, pending, rest, outcome, hc⟩ := step_consumption hstep
      have hwanes := Steps.wanes hbefore
      have hh : h.fabric.Numbered := Steps.numbered hbefore hg
      have hin : inside sender := Classical.byContradiction fun hout =>
        not_due_of_detained (detains_of_secluded ih hparts hout) hg hh (hcalm hout)
          (congrArg Prod.fst hstep)
      obtain ⟨q₀, hq₀, hspent⟩ := hwanes.earlier hc.found
      obtain ⟨hrts, hne⟩ := hspent.becomes.waiting hc.ready (by simp [hc.head])
      refine ih.trans (hc.secludes hh hin fun hconnected => ?_)
      -- the peer was the peer at the start
      obtain ⟨p₀, hp₀, hspent'⟩ := hwanes.earlier hconnected.found
      exact (hparts hq₀ hrts hne
        (hconnected.of_becomes hspent.becomes hp₀ hspent'.becomes)).1 hin

end Host

/-! ## Who is told -/

/-- The queues beyond the border are as they were. -/
def Fabric.Pins (f g : Fabric) (inside : NativeId → Prop) : Prop :=
  ∀ {id q q'}, ¬ inside id → f.qps.find? id = some q → g.qps.find? id = some q' →
    q'.sendQueue = q.sendQueue ∧ q'.recvQueue = q.recvQueue

/-- The request in flight was sent on this side of the border, by a queue pair that could send on
`f`. -/
def Scene.Inward (s : Scene) (f : Fabric) (inside : NativeId → Prop) : Prop :=
  ∀ flight, s.flight = some flight → inside flight.sender ∧
    ∃ q, f.qps.find? flight.sender = some q ∧ q.state = .rts ∧ q.sendQueue ≠ []

/-- The event completes requests of queue pairs on this side only. -/
def Event.Inward (e : Event) (f : Fabric) (inside : NativeId → Prop) : Prop :=
  ∀ cq c, e = .handed cq c → ∃ id q, inside id ∧ f.qps.find? id = some q ∧ c.qpNumber = q.number

variable {f : Fabric} {s t : Scene} {es : List Event} {inside : NativeId → Prop}

theorem Scene.inward_of_none (h : s.flight = none) : s.Inward f inside := by
  intro flight hflight
  rw [h] at hflight
  cases hflight

theorem Event.Inward.later {e : Event} {f g : Fabric} (h : e.Inward f inside) (hs : f.Spends g) :
    e.Inward g inside := by
  intro cq c he
  obtain ⟨id, q, hin, hq, hnumber⟩ := h cq c he
  obtain ⟨q', hq', hbecomes⟩ := hs.later hq
  exact ⟨id, q', hin, hq', hnumber.trans hbecomes.number.symm⟩

/-- Where queues stay as they were in the end, they stayed so all the time. -/
theorem Fabric.Pins.split {f g k : Fabric} (h : f.Pins k inside) (hfg : f.Spends g)
    (hgk : g.Spends k) : f.Pins g inside ∧ g.Pins k inside := by
  have hall {id : NativeId} {q q' q'' : QueuePair} (hout : ¬ inside id)
      (hq : f.qps.find? id = some q) (hb : q.Becomes q') (hb' : q'.Becomes q'')
      (hq'' : k.qps.find? id = some q'') :
      (q'.sendQueue = q.sendQueue ∧ q'.recvQueue = q.recvQueue) ∧
        q''.sendQueue = q'.sendQueue ∧ q''.recvQueue = q'.recvQueue := by
    obtain ⟨hsends, hrecvs⟩ := h hout hq hq''
    have hsame : q'.sendQueue = q.sendQueue :=
      hb.sends.eq_of_length_le (hsends ▸ hb'.sends.length_le)
    have hsame' : q'.recvQueue = q.recvQueue :=
      hb.recvs.eq_of_length_le (hrecvs ▸ hb'.recvs.length_le)
    exact ⟨⟨hsame, hsame'⟩, hsends.trans hsame.symm, hrecvs.trans hsame'.symm⟩
  constructor
  · intro id q q' hout hq hq'
    obtain ⟨q₁, hq₁, hb⟩ := hfg.later hq
    obtain rfl := Option.some.inj (hq'.symm.trans hq₁)
    obtain ⟨q'', hq'', hb'⟩ := hgk.later hq'
    exact (hall hout hq hb hb' hq'').1
  · intro id q' q'' hout hq' hq''
    obtain ⟨q, hq, hb⟩ := hfg.earlier hq'
    obtain ⟨q₁, hq₁, hb'⟩ := hgk.later hq'
    obtain rfl := Option.some.inj (hq''.symm.trans hq₁)
    exact (hall hout hq hb hb' hq'').2

/-- An act by which a queue pair loses a request happens on this side of the border. -/
theorem inside_of_shorter {id : NativeId} {q : QueuePair} {change : QueuePair → QueuePair}
    (hpins : f.Pins (f.updateQp id change) inside) (hq : f.qps.find? id = some q)
    (hshorter : ¬ ((change q).sendQueue = q.sendQueue ∧ (change q).recvQueue = q.recvQueue)) :
    inside id := by
  refine Classical.byContradiction fun hout => hshorter (hpins hout hq ?_)
  simp [Fabric.updateQp, hq]

/-- An act of one side stays on that side: only a peer takes part in it, and peers are on one side.
-/
theorem Act.within (h : Act s es t) (hparts : f.Parts inside) (hspends : f.Spends s.fabric)
    (hpins : s.fabric.Pins t.fabric inside) (hs : s.Inward f inside) :
    t.Inward f inside ∧ ∀ e ∈ es, e.Inward s.fabric inside := by
  cases h with
  | fail => exact ⟨Scene.inward_of_none rfl, List.forall_mem_nil _⟩
  | @flushSend f' flight id q pending rest hq _ hsend =>
      have hin : inside id := inside_of_shorter hpins hq (by simp [hsend])
      refine ⟨hs, ?_⟩
      simp only [List.forall_mem_cons]
      refine ⟨by rintro _ _ ⟨⟩, fun cq c he => ?_, List.forall_mem_nil _⟩
      cases he
      exact ⟨id, q, hin, hq, rfl⟩
  | @flushRecv f' flight id q r rest hq _ hrecv =>
      have hin : inside id := inside_of_shorter hpins hq (by simp [hrecv])
      refine ⟨hs, ?_⟩
      simp only [List.forall_mem_cons]
      refine ⟨by rintro _ _ ⟨⟩, fun cq c he => ?_, List.forall_mem_nil _⟩
      cases he
      exact ⟨id, q, hin, hq, rfl⟩
  | @launch f' id q pending rest hq hrts hsend =>
      have hin : inside id := inside_of_shorter hpins hq (by simp [hsend])
      refine ⟨fun flight hflight => ?_, List.forall_mem_nil _⟩
      obtain rfl := Option.some.inj hflight
      obtain ⟨q₀, hq₀, hbecomes⟩ := hspends.earlier hq
      exact ⟨hin, q₀, hq₀, hbecomes.waiting hrts (by simp [hsend])⟩
  | @receive f' sender peerId pending q peer r rest status c hq hp haccepts hdest _ hreceipt =>
      obtain ⟨hin, q₀, hq₀, hrts, hne⟩ := hs _ rfl
      obtain ⟨q₁, hq₁, hbecomes⟩ := hspends.later hq₀
      obtain rfl := Option.some.inj (hq.symm.trans hq₁)
      obtain ⟨p₀, hp₀, hbecomes'⟩ := hspends.earlier hp
      -- who accepts the sender is connected to it, now and on `f`
      have hconnected : f'.Connected q peerId peer := by
        simp only [accepts, Bool.and_eq_true, Bool.or_eq_true, decide_eq_true_eq] at haccepts
        obtain ⟨⟨hready, htransport⟩, hback⟩ := haccepts
        exact ⟨hp, hdest, hready, htransport, fun hreliable => hback.resolve_left
          fun hunreliable => by cases hreliable.symm.trans hunreliable⟩
      have hpeer : inside peerId :=
        (hparts hq₀ hrts hne (hconnected.of_becomes hbecomes hp₀ hbecomes')).1 hin
      refine ⟨fun flight hflight => ?_, ?_⟩
      · obtain rfl := Option.some.inj hflight
        exact ⟨hin, q₀, hq₀, hrts, hne⟩
      · simp only [List.forall_mem_cons]
        refine ⟨by rintro _ _ ⟨⟩, fun cq c' he => ?_, List.forall_mem_nil _⟩
        cases he
        exact ⟨peerId, peer, hpeer, hp, hreceipt.number⟩
  | @retire f' flight q status length hq _ =>
      obtain ⟨hin, -⟩ := hs _ rfl
      refine ⟨Scene.inward_of_none rfl, ?_⟩
      simp only [List.forall_mem_cons]
      refine ⟨by rintro _ _ ⟨⟩, fun e he cq c hec => ?_⟩
      split at he
      · obtain rfl := List.mem_singleton.1 he
        cases hec
        exact ⟨flight.sender, q, hin, hq, rfl⟩
      · cases he

/-- Acts that leave the queues beyond the border alone complete nothing there. -/
theorem Acts.within (h : Acts s es t) (hnone : s.flight = none) (hparts : s.fabric.Parts inside)
    (hpins : s.fabric.Pins t.fabric inside) : ∀ e ∈ es, e.Inward t.fabric inside := by
  suffices hall : t.Inward s.fabric inside ∧ ∀ e ∈ es, e.Inward t.fabric inside from hall.2
  induction h with
  | refl => exact ⟨Scene.inward_of_none hnone, List.forall_mem_nil _⟩
  | @tail u t es es' hbefore hlast ih =>
      have hspends := Acts.spends hbefore
      obtain ⟨hpins, hpins'⟩ := hpins.split hspends hlast.spends
      obtain ⟨hinward, htold⟩ := ih hpins
      obtain ⟨hinward', htold'⟩ := hlast.within hparts hspends hpins' hinward
      refine ⟨hinward', fun e he => ?_⟩
      rcases List.mem_append.1 he with he | he
      · exact (htold e he).later hlast.spends
      · exact (htold' e he).later hlast.spends

end Rdma
