import Rdma.Proofs.Engine.Seclusion
import Rdma.Proofs.Host.Preparation
import Rdma.Proofs.Host.Run

/-!
# Connections are isolated

A post runs the engine over every send queue of the fabric. Whatever it finds there, it only reaches
the queue pair that was posted to, the one that this is connected to, and what was due before: where
the engine has run after everything that gave it something to do, that is nothing. Deregistering a
region is the exception. A request that waits for its peer and uses the region is due from then on,
and the next post to any queue pair makes it fail.

* `perform_due` — only a deregistration makes a send queue due;
* `parts_of_alike` — queue pairs that face each other are on one side of a border;
* `Posted.leaves` — what a post leaves alone;
* `reachable_isolates` — all of that in every run;
* `isolation_lapses` — the exception.
-/

namespace Rdma

open Fabric (QueuePair PendingSend)

/-- The completion that the event tells of. -/
def Event.completion? : Event → Option Completion
  | .completed _ c _ _ | .undelivered _ c => some c
  | _ => none

theorem Event.handed_of_completion {e : Event} {c : Completion} (he : e.completion? = some c) :
    ∃ cq, e.ofRequest? = some (.handed cq c) := by
  cases e with
  | completed cq _ | undelivered cq _ =>
      obtain rfl := Option.some.inj he
      exact ⟨cq, rfl⟩
  | _ => cases he

/-! ## What becomes due -/

theorem Fabric.Rests.detains {f g : Fabric} (h : f.Rests g) (id : NativeId) : f.Detains g id where
  regions := h.regions
  own {q} hq _ hne := h.sends id q hq hne
  peer {q peerId peer} _ _ _ hconnected := by
    have hfound := h.kept peerId peer hconnected.found
    exact ⟨hfound, recvRequests_empty (hfound.trans hconnected.found.symm) (h.recvs _)⟩

namespace Host

variable {h k : Host} {devices : List DeviceConfig} {id : NativeId}

theorem Reachable.numbered (hr : Reachable devices h) : h.fabric.Numbered := hr.fit.numbered

/-- Only a deregistration makes a send queue due. -/
theorem perform_due (hr : Reachable devices h) {op : Operation} (hop : ∀ mr, op ≠ .deregMr mr)
    (hdue : (h.perform op).Due id) : h.Due id := by
  refine Classical.byContradiction fun hnot => ?_
  cases perform_idles hr.sound.fabric hop with
  | ran hstill => exact hstill.not_due id hdue
  | rests hrests =>
      exact not_due_of_detained (hrests.detains id) hr.numbered (Reachable.perform op hr).numbered
        hnot hdue

theorem performAll_due (hr : Reachable devices h) {ops : List Operation}
    (hops : ∀ op ∈ ops, ∀ mr, op ≠ .deregMr mr) (hdue : (h.performAll ops).Due id) : h.Due id := by
  induction ops generalizing h with
  | nil => exact hdue
  | cons op rest ih =>
      obtain ⟨hop, hrest⟩ := List.forall_mem_cons.1 hops
      exact perform_due hr hop (ih (.perform op hr) hrest hdue)

end Host

/-! ## Who is on which side -/

namespace Fabric

variable {f g : Fabric} {id : NativeId}

/-- Once it is ready, `p` takes the requests of `q`: it has the number that `q` is connected to, is of
the same transport, and is connected back if that is reliable. -/
structure QueuePair.Faces (q p : QueuePair) : Prop where
  number : q.destination = some p.number
  transport : p.transport = q.transport
  back : q.transport = .reliable → p.destination = some q.number

theorem Connected.faces {q p : QueuePair} {peerId : NativeId} (h : f.Connected q peerId p) :
    q.Faces p := ⟨h.number, h.transport, h.back⟩

/-- What is reliable faces back. -/
theorem QueuePair.Faces.symm {q p : QueuePair} (h : q.Faces p) (hreliable : p.transport = .reliable) :
    p.Faces q :=
  ⟨h.back (h.transport.symm.trans hreliable), h.transport.symm, fun _ => h.number⟩

/-- Queue pairs that face the same queue pair have the same number. -/
theorem QueuePair.Faces.number_eq {q p p' : QueuePair} (h : q.Faces p) (h' : q.Faces p') :
    p.number = p'.number :=
  Option.some.inj (h.number.symm.trans h'.number)

/-- The fabrics differ in one queue pair at most, and there in requests, state and rights only. -/
def AlikeBut (f g : Fabric) (id : NativeId) : Prop :=
  ∃ change : QueuePair → QueuePair, (∀ q, (change q).cleared = q.cleared) ∧
    (∀ q, (change q).destination = q.destination) ∧ g.work = f.work.updateQp id change

theorem AlikeBut.refl (f : Fabric) (id : NativeId) : f.AlikeBut f id := by
  have hsame : f.work.qps.modify id (fun q => q) = f.work.qps :=
    Table.modify_eq_self fun _ _ => rfl
  exact ⟨fun q => q, fun _ => rfl, fun _ => rfl, by simp only [updateQp, hsame]⟩

theorem AlikeBut.others (h : f.AlikeBut g id) {id' : NativeId} (hother : id' ≠ id) :
    g.qps.find? id' = f.qps.find? id' := by
  obtain ⟨change, -, -, hwork⟩ := h
  have hqps : g.qps = f.qps.modify id change := congrArg (·.qps) hwork
  rw [hqps, Table.find?_modify, if_neg hother]

/-- A queue pair is the same in both as far as others can tell. -/
theorem AlikeBut.found (h : f.AlikeBut g id) {id' : NativeId} {q' : QueuePair}
    (hq' : g.qps.find? id' = some q') : ∃ q, f.qps.find? id' = some q ∧ q'.cleared = q.cleared ∧
      q'.destination = q.destination ∧ (id' ≠ id → q' = q) := by
  obtain ⟨change, hcleared, hdestination, hwork⟩ := h
  have hqps : g.qps = f.qps.modify id change := congrArg (·.qps) hwork
  rw [hqps, Table.find?_modify] at hq'
  split at hq'
  case isTrue hid =>
    obtain ⟨q, hq, rfl⟩ := Option.map_eq_some_iff.1 hq'
    exact ⟨q, hid ▸ hq, hcleared q, hdestination q, fun hother => absurd hid hother⟩
  case isFalse => exact ⟨q', hq', rfl, rfl, fun _ => rfl⟩

theorem AlikeBut.numbered (h : f.AlikeBut g id) (hf : f.Numbered) : g.Numbered := by
  obtain ⟨change, hcleared, -, hwork⟩ := h
  have hwork' : g.work.Numbered := hwork ▸ Numbered.updateQp (f := f.work) hf fun q =>
    (QueuePair.fixed_of_cleared (hcleared q)).2.1
  exact hwork'

/-- Facing is told by what stays the same. -/
theorem QueuePair.Faces.congr {q q' p p' : QueuePair} (h : q'.Faces p')
    (hq : q'.cleared = q.cleared) (hqd : q'.destination = q.destination)
    (hp : p'.cleared = p.cleared) (hpd : p'.destination = p.destination) : q.Faces p := by
  obtain ⟨-, hnumber, htransport, -⟩ := QueuePair.fixed_of_cleared hq
  obtain ⟨-, hnumber', htransport', -⟩ := QueuePair.fixed_of_cleared hp
  refine ⟨?_, ?_, fun hreliable => ?_⟩
  · rw [← hqd, ← hnumber']
    exact h.number
  · rw [← htransport, ← htransport']
    exact h.transport
  · rw [← hpd, ← hnumber]
    exact h.back (htransport.trans hreliable)

end Fabric

namespace Host

variable {h g k : Host} {devices : List DeviceConfig} {id : NativeId}

/-- The queue pairs that a post to one of them sets in motion: that one, those whose requests are due,
and those that they face. -/
inductive Stirs (h : Host) (id : NativeId) : NativeId → Prop
  | root {s : NativeId} : s = id ∨ h.Due s → Stirs h id s
  | facing {s s' : NativeId} {q p : QueuePair} : s = id ∨ h.Due s →
      h.fabric.qps.find? s = some q → h.fabric.qps.find? s' = some p → q.Faces p → Stirs h id s'

/-- Whatever is posted to one queue pair, requests stay among those that it sets in motion. -/
theorem parts_of_alike (hr : Reachable devices h) {f : Fabric} (ha : h.fabric.AlikeBut f id) :
    f.Parts (h.Stirs id) := by
  intro sender q' peerId p' hq' hrts hne hconnected
  obtain ⟨q, hq, hsame, hdestination, hother⟩ := ha.found hq'
  obtain ⟨p, hp, hsame', hdestination', -⟩ := ha.found hconnected.found
  have hfaces : q.Faces p := hconnected.faces.congr hsame hdestination hsame' hdestination'
  by_cases hid : sender = id
  · exact ⟨fun _ => .facing (.inl hid) hq hp hfaces, fun _ => .root (.inl hid)⟩
  -- any other queue pair with something to send is reliable, for it waits
  obtain rfl := hother hid
  have hreliable : q'.transport = .reliable := (hr.settled sender q' hq hrts hne).transport
  have hreliable' : p.transport = .reliable := hfaces.transport.trans hreliable
  constructor
  · intro hin
    cases hin with
    | root hroot => exact .facing hroot hq hp hfaces
    | @facing s _ d q₁ hroot hd hq₁ hfacing =>
        obtain rfl := Option.some.inj (hq.symm.trans hq₁)
        -- the sender faces one queue pair only
        obtain rfl : s = peerId :=
          hr.fit.number_inj hp hd ((hfacing.symm hreliable).number_eq hfaces)
        exact .root hroot
  · intro hin
    cases hin with
    | root hroot => exact .facing hroot hp hq (hfaces.symm hreliable')
    | @facing s _ d p₁ hroot hd hp₁ hfacing =>
        obtain rfl := Option.some.inj (hp.symm.trans hp₁)
        obtain rfl : s = sender :=
          hr.fit.number_inj hq hd ((hfacing.symm hreliable').number_eq (hfaces.symm hreliable'))
        exact .root hroot

/-- What a post does not set in motion is not due when the engine starts. -/
theorem calm_of_alike (hr : Reachable devices h) (ha : h.fabric.AlikeBut g.fabric id) {x : NativeId}
    (hout : ¬ h.Stirs id x) : ¬ g.Due x := by
  have hx : x ≠ id := fun hsame => hout (.root (.inl hsame))
  refine not_due_of_detained ⟨?_, fun hq _ _ => ?_, fun {q peerId peer} hq hrts hne hconnected => ?_⟩
    hr.numbered (ha.numbered hr.numbered) fun hdue => hout (.root (.inr hdue))
  · obtain ⟨change, -, -, hwork⟩ := ha
    have hregions : g.fabric.regions = h.fabric.regions := congrArg (·.regions) hwork
    exact hregions ▸ List.prefix_rfl
  · exact (ha.others hx).symm.trans hq
  · have hpeer : peerId ≠ id := fun hsame => hout
      ((parts_of_alike hr (.refl _ _) hq hrts hne hconnected).2 (.root (.inl hsame)))
    have hfound := (ha.others hpeer).trans hconnected.found
    refine ⟨hfound, Fabric.recvRequests_empty (ha.others hpeer) fun {srq} hempty => ?_⟩
    obtain ⟨change, -, -, hwork⟩ := ha
    have hsrqs : g.fabric.srqs = h.fabric.srqs := congrArg (·.srqs) hwork
    simp only [Fabric.recvRequests, hsrqs] at hempty ⊢
    exact hempty

/-! ## Posting -/

/-- A post was refused, or requests of one queue pair were queued, and perhaps flushed, and the engine
ran. -/
inductive Posted (h : Host) (id : NativeId) : Host → Prop
  | refused : Posted h id h
  | ran {said : List Event} {queued flushed : Host} :
      Change h.fabric.work said queued.fabric.work → queued.entries = h.entries ++ said →
      h.fabric.AlikeBut queued.fabric id → queued.Enacts none flushed none →
      h.fabric.AlikeBut flushed.fabric id → Posted h id flushed.progress

/-- A post alters its own queue pair and leaves the rest to the engine. -/
theorem Posted.of_post {α : Type} (event : α → Event)
    (hevent : ∀ a, (event a).ofRequest? = some (event a)) (items : List α)
    (append : QueuePair → QueuePair) (hcleared : ∀ q, (append q).cleared = q.cleared)
    (hdestination : ∀ q, (append q).destination = q.destination)
    (hstate : ∀ q, (append q).state = q.state) {q : QueuePair} (hq : h.fabric.qps.find? id = some q)
    (hchange : Change h.fabric.work (items.map event) (h.fabric.work.updateQp id append)) :
    let noted := items.foldl (fun h a => h.note (event a)) (h.updateQp id append)
    h.Posted id (if q.state = .error then noted.flush id else noted).progress := by
  intro noted
  obtain ⟨hfabric, hentries⟩ := foldl_note_entries event hevent items (h.updateQp id append)
  obtain ⟨-, hwork⟩ := noted_leaves event hevent items (h.updateQp id append) id (q.state = .error)
  have hnoted : noted.fabric.work = h.fabric.work.updateQp id append :=
    congrArg Fabric.work hfabric
  refine .ran (hnoted ▸ hchange) hentries ⟨append, hcleared, hdestination, hnoted⟩
    (flushIf_enacts noted _ id fun herror q' hq' => ?_) ?_
  · have hfound : (h.updateQp id append).fabric.qps.find? id = some q' := hfabric ▸ hq'
    simp only [updateQp_fabric, Fabric.updateQp, Table.find?_modify, if_true, hq, Option.map_some,
      Option.some.injEq] at hfound
    rw [← hfound, hstate, herror]
  · by_cases herror : q.state = .error
    · simp only [if_pos herror] at hwork ⊢
      exact ⟨fun p => (append p).emptied, hcleared, hdestination,
        hwork.trans (h.fabric.work.updateQp_updateQp id append (·.emptied))⟩
    · simp only [if_neg herror] at hwork ⊢
      exact ⟨append, hcleared, hdestination, hwork⟩

theorem postSend_posted (h : Host) (id : NativeId) (requests : List SendRequest) :
    h.Posted id (postSend id requests h).2 := by
  unfold postSend
  cases hq : h.fabric.qps.find? id with
  | none => exact .refused
  | some q =>
      by_cases hstate : (q.state = .rts || q.state = .sqd || q.state = .error) = true
      case neg => simp only [hstate]; exact .refused
      simp only [hstate, if_true]
      have hback (i : Nat) (request : SendRequest) (p : PendingSend)
          (hok : h.fabric.acceptSend h.memory q (q.sendQueue.length + i) request = .ok p) :
          p.request = request := (Fabric.acceptSend_eq_ok hok).1
      obtain ⟨-, -, hchecked⟩ := accept_spec hback 0 requests
      refine .of_post (fun s : PendingSend => .sendAccepted id s.request) (fun _ => rfl) _
        (fun q => { q with sendQueue := q.sendQueue ++ _ }) (fun _ => rfl) (fun _ => rfl)
        (fun _ => rfl) hq (.postSends hq ?_ fun p hp => ?_)
      · rintro hreset
        rw [hreset] at hstate
        cases hstate
      · obtain ⟨_, _, hok⟩ := hchecked p hp
        exact (Fabric.acceptSend_eq_ok hok).2.1

theorem postRecv_posted (h : Host) (id : NativeId) (requests : List RecvRequest) :
    h.Posted id (postRecv id requests h).2 := by
  unfold postRecv
  cases hq : h.fabric.qps.find? id with
  | none => exact .refused
  | some q =>
      by_cases hcannot : (decide (q.state = .reset) || q.srq.isSome) = true
      case pos => simp only [hcannot, if_true]; exact .refused
      simp only [hcannot, Bool.false_eq_true, if_false]
      simp only [Bool.or_eq_true, decide_eq_true_eq, not_or, Bool.not_eq_true,
        Option.isSome_eq_false_iff, Option.isNone_iff_eq_none] at hcannot
      generalize accept _ 0 requests = posted
      refine .of_post (.recvAccepted (.ofQp id)) (fun _ => rfl) posted.1
        (fun q => { q with recvQueue := q.recvQueue ++ posted.1 }) (fun _ => rfl) (fun _ => rfl)
        (fun _ => rfl) hq ?_
      have hchange : Change h.fabric.work (posted.1.map (.recvAccepted (.ofQp id)))
          (h.fabric.work.setRecvRequests (h.fabric.work.recvRequests (.ofQp id) ++ posted.1)
            (.ofQp id)) := by
        refine .postRecvs ⟨q, hq⟩ fun id' q' hid hq' => ?_
        obtain rfl := RecvQueue.ofQp.inj hid
        obtain rfl := Option.some.inj (hq.symm.trans hq')
        exact hcannot
      rw [← appendRecvs_ofQp] at hchange
      exact hchange

/-- A post leaves alone what it does not set in motion, and completes nothing there. -/
theorem Posted.leaves (hposted : h.Posted id k) (hr : Reachable devices h) :
    (∀ {x}, ¬ h.Stirs id x → k.fabric.qps.find? x = h.fabric.qps.find? x) ∧
      ∃ es, k.entries = h.entries ++ es ∧ ∀ e ∈ es, e.Inward k.fabric.work (h.Stirs id) := by
  cases hposted with
  | refused => exact ⟨fun _ => rfl, [], (List.append_nil _).symm, List.forall_mem_nil _⟩
  | @ran said queued flushed hchange hentries hqueued henacts hflushed =>
      have hsecludes := (progress_steps flushed).secludes (hflushed.numbered hr.numbered)
        (parts_of_alike hr hflushed) (calm_of_alike hr hflushed)
      have hsame {x : NativeId} (hout : ¬ h.Stirs id x) :
          flushed.progress.fabric.qps.find? x = h.fabric.qps.find? x ∧
            queued.fabric.qps.find? x = h.fabric.qps.find? x := by
        have hx : x ≠ id := fun hid => hout (.root (.inl hid))
        exact ⟨(hsecludes.outside hout).trans (hflushed.others hx), hqueued.others hx⟩
      refine ⟨fun hout => (hsame hout).1, ?_⟩
      have hfit : flushed.fabric.work.Fit := henacts.fit (hchange.fit hr.fit)
      obtain ⟨es, hacts, hentries'⟩ := henacts.trans (progress_enacts hfit)
      refine ⟨said ++ es, by rw [hentries', hentries, List.append_assoc], fun e he => ?_⟩
      rcases List.mem_append.1 he with he | he
      · intro cq c hhanded
        rcases hchange.tells e he with ⟨_, _, rfl⟩ | ⟨_, _, rfl⟩ | ⟨_, rfl⟩ <;> cases hhanded
      · have hqueued' : h.fabric.AlikeBut queued.fabric.work id := hqueued
        refine hacts.within rfl (parts_of_alike hr hqueued') (fun {x q q'} hout hq hq' => ?_) e he
        obtain ⟨hk, hg⟩ := hsame hout
        obtain rfl := Option.some.inj (hq.symm.trans ((hg.trans hk.symm).trans hq'))
        exact ⟨rfl, rfl⟩

/-! ## Isolation -/

/-- The operation posts requests to the queue pair. -/
def Operation.PostsTo (id : NativeId) : Operation → Prop
  | .postSend qp _ | .postRecv qp _ => qp = id
  | _ => False

/-- Nothing happened to the queue pair `r`, and nothing was completed for it. -/
structure Isolated (h k : Host) (id : NativeId) (r : QueuePair) : Prop where
  same : k.fabric.qps.find? id = some r
  silent : ∀ e ∈ k.eventsSince h, ∀ c, e.completion? = some c → c.qpNumber ≠ r.number

theorem Posted.isolated (hposted : h.Posted id k) (hr : Reachable devices h)
    (hk : h.Leads k) {x : NativeId} {r : QueuePair} (hx : h.fabric.qps.find? x = some r)
    (hout : ¬ h.Stirs id x) : h.Isolated k x r := by
  obtain ⟨hsame, es, hentries, htold⟩ := hposted.leaves hr
  have hkept : k.fabric.qps.find? x = some r := (hsame hout).trans hx
  refine ⟨hkept, fun e he c hc hnumber => ?_⟩
  obtain ⟨cq, hhanded⟩ := Event.handed_of_completion hc
  have hmem : .handed cq c ∈ es := by
    rw [← hk.filterMap_eventsSince hentries]
    exact List.mem_filterMap.2 ⟨e, he, hhanded⟩
  obtain ⟨y, p, hin, hp, hown⟩ := htold _ hmem cq c rfl
  obtain rfl : y = x := (hk.reachable hr).fit.number_inj hkept hp (hown.symm.trans hnumber)
  exact hout hin

/-- Nothing but the deregistration of a region makes a send queue due. A call that posts to a queue
pair leaves every queue pair alone that is neither that one, nor the one it is connected to, nor due,
nor one that a due one is connected to. -/
theorem reachable_isolates (hr : Reachable devices h) :
    (∀ ops : List Operation, (∀ op ∈ ops, ∀ mr, op ≠ .deregMr mr) →
      ∀ x, (h.performAll ops).Due x → h.Due x) ∧
    ∀ id q op, h.fabric.qps.find? id = some q → op.PostsTo id →
      ∀ x r, h.fabric.qps.find? x = some r → x ≠ id → q.destination ≠ some r.number →
        ¬ h.Due x →
        (∀ s d, h.fabric.qps.find? s = some d → h.Due s → d.destination ≠ some r.number) →
        h.Isolated (h.perform op) x r := by
  refine ⟨fun ops hops x => performAll_due hr hops, ?_⟩
  intro id q op hq hposts x r hx hother hdestination hcalm hdeserted
  have hposted : h.Posted id (h.perform op) := by
    cases op with
    | postSend qp requests =>
        obtain rfl : qp = id := hposts
        exact h.postSend_posted qp requests
    | postRecv qp requests =>
        obtain rfl : qp = id := hposts
        exact h.postRecv_posted qp requests
    | _ => exact hposts.elim
  refine hposted.isolated hr (.perform op .refl) hx fun hin => ?_
  cases hin with
  | root hroot => exact hroot.elim hother hcalm
  | @facing s _ d p hroot hd hp hfaces =>
      obtain rfl := Option.some.inj (hx.symm.trans hp)
      rcases hroot with rfl | hdue
      · obtain rfl := Option.some.inj (hq.symm.trans hd)
        exact hdestination hfaces.number
      · exact hdeserted s d hd hdue hfaces.number

/-- Queue pair 5 is its own peer, and so is queue pair 6, whose message from region 7 waits. -/
def twoLoopbacks : List Operation :=
  let connect (state : QpState) (mask : QpMask) : Operation :=
    .modifyQp 6 { state := state.code, port := 1, destination := 0x101 } (.state ||| mask)
  loopback ++
    [.createQp 3
        { sendCq := 4, recvCq := 4, srq := none, transport := .reliable, signalAll := true,
          caps := {} },
      connect .init .port, connect .rtr .destination, connect .rts {},
      .regMr 3 0x1000 0x100 .none,
      .postSend 6 [{ wrId := 1, sges := [{ addr := 0x1000, length := 8, lkey := 0x1000 }] }]]

/-- The first queue pair takes receive requests while the message of the other waits. -/
theorem twoLoopbacks_isolated :
    let h := (({} : Host).withDevices [{}]).performAll twoLoopbacks
    let op : Operation := .postRecv 5 [{ wrId := 2 }]
    (∀ x, ¬ h.Due x) ∧
      ∃ r, h.fabric.qps.find? 6 = some r ∧ r.sendQueue.length = 1 ∧
        h.Isolated (h.perform op) 6 r := by
  intro h op
  have hfresh : Reachable [{}] (({} : Host).withDevices [{}]) := .fresh {}
  have hcalm (x : NativeId) : ¬ h.Due x := by
    intro hdue
    have hstart := (reachable_isolates hfresh).1 twoLoopbacks (by simp [twoLoopbacks, loopback]) x hdue
    -- a fresh host has no queue pairs
    obtain ⟨q, _, _, hq, -⟩ := hstart.waiting
    cases hq
  have hfirst : (h.fabric.qps.find? 5).map (·.destination) = some (some 0x100) := by
    decide +kernel
  have hsecond : (h.fabric.qps.find? 6).map (fun r => (r.number, r.sendQueue.length)) =
      some (0x101, 1) := by decide +kernel
  obtain ⟨q, hq, hdestination⟩ := Option.map_eq_some_iff.1 hfirst
  obtain ⟨r, hr, hfields⟩ := Option.map_eq_some_iff.1 hsecond
  obtain ⟨hnumber, hlength⟩ := Prod.mk.inj hfields
  have hother : q.destination ≠ some r.number := by
    rw [hdestination, hnumber]
    decide
  exact ⟨hcalm, r, hr, hlength, (reachable_isolates (hfresh.performAll _)).2 5 q op hq rfl 6 r hr
    (by decide) hother (hcalm 6) fun s _ _ hdue => absurd hdue (hcalm s)⟩

/-- Once region 7 is gone, a call that posts nothing to queue pair 5 makes queue pair 6 fail. -/
theorem isolation_lapses :
    let h := (({} : Host).withDevices [{}]).performAll (twoLoopbacks ++ [.deregMr 7])
    let k := h.perform (.postRecv 5 [])
    Reachable [{}] h ∧
      (h.fabric.qps.find? 5).map (·.destination) = some (some 0x100) ∧
      (h.fabric.qps.find? 6).map (fun r => (r.number, r.state, r.sendQueue.length)) =
        some (0x101, .rts, 1) ∧
      (k.fabric.qps.find? 6).map (fun r => (r.number, r.state, r.sendQueue.length)) =
        some (0x101, .error, 0) ∧
      ((k.eventsSince h).filterMap Event.completion?).map (fun c => (c.qpNumber, c.status)) =
        [(0x101, CompletionStatus.localProtection.code)] :=
  ⟨(Reachable.fresh {}).performAll _, by decide +kernel, by decide +kernel, by decide +kernel,
    by decide +kernel⟩

end Host

end Rdma
