import Rdma.Proofs.Host.Change
import Rdma.Proofs.Host.Journal

/-!
# Runs

A run of operations appends to the journal. What it appends tells a story: changes and acts, one
after the other, that lead from the tables before to the tables after. What holds of every step of a
story, by cases on changes and acts, holds of every run by one induction.

* `Leads.story` — a run is a story, told by the events it appends;
* `Reachable.fit` — the tables of a reachable host are fit for the engine;
* `Reachable.acts` — one operation in a run: a change, known from the answer, then acts.
-/

namespace Rdma

open Fabric (QueuePair PendingSend)

/-! ## Stories -/

/-- One step of a story: an act of the engine, or a change while no request is in flight. -/
inductive Turn : Scene → List Event → Scene → Prop
  | act {s t : Scene} {es : List Event} : Act s es t → Turn s es t
  | change {f g : Fabric} {es : List Event} : Change f es g → Turn ⟨f, none⟩ es ⟨g, none⟩

abbrev Story : Scene → List Event → Scene → Prop := Trail Turn

theorem Turn.fit {s t : Scene} {es : List Event} (h : Turn s es t) (hs : s.fabric.Fit) :
    t.fabric.Fit := by
  cases h with
  | act hact => exact hact.spends.fit hs
  | change hchange => exact hchange.fit hs

theorem Story.fit {s t : Scene} {es : List Event} (h : Story s es t) (hs : s.fabric.Fit) :
    t.fabric.Fit :=
  h.keeps (P := fun s => s.fabric.Fit) (fun _ _ _ hturn => hturn.fit) hs

/-! ## Lives -/

/-- A queue pair that is there after a change was there before, created as what it is now, or it is
new. -/
theorem Change.origin {f g : Fabric} {es : List Event} (h : Change f es g) {id : NativeId}
    {q' : QueuePair} (hq' : g.qps.find? id = some q') :
    (∃ q, f.qps.find? id = some q ∧ q'.cleared = q.cleared) ∨ id = f.nextId ∧ q'.cleared = q' := by
  have hupdated {id' : NativeId} {change : QueuePair → QueuePair}
      (hq' : (f.updateQp id' change).qps.find? id = some q')
      (hchange : ∀ q, (change q).cleared = q.cleared) :
      ∃ q, f.qps.find? id = some q ∧ q'.cleared = q.cleared := by
    rcases Table.modified hq' with ⟨hsame, q, hq, rfl⟩ | hq'
    · exact ⟨q, hsame ▸ hq, hchange q⟩
    · exact ⟨q', hq', rfl⟩
  cases h with
  | aside hqps | addSrq _ hqps | dropSrq _ hqps => exact .inl ⟨q', hqps ▸ hq', rfl⟩
  | addQp hnew _ hqps =>
      rw [hqps] at hq'
      rcases Table.inserted hq' with ⟨hid, rfl⟩ | hq'
      · exact .inr ⟨hid, hnew⟩
      · exact .inl ⟨q', hq', rfl⟩
  | dropQp _ hqps =>
      rw [hqps] at hq'
      obtain ⟨-, hq'⟩ := Table.erased hq'
      exact .inl ⟨q', hq', rfl⟩
  | modify | clear | postSends => exact .inl (hupdated hq' fun _ => rfl)
  | @postRecvs queue =>
      cases queue with
      | ofQp =>
          exact .inl (hupdated (show (f.updateQp _ _).qps.find? id = some q' from hq') fun _ => rfl)
      | shared => exact .inl ⟨q', hq', rfl⟩

/-- Queue pairs that were there before the change were created as what they are now. -/
theorem Change.earlier {f g : Fabric} {es : List Event} (h : Change f es g) {id : NativeId}
    {q' : QueuePair} (hid : id < f.nextId) (hq' : g.qps.find? id = some q') :
    ∃ q, f.qps.find? id = some q ∧ q'.cleared = q.cleared := by
  rcases h.origin hq' with hearlier | ⟨hnew, -⟩
  · exact hearlier
  · exact absurd hnew (Nat.ne_of_lt hid)

/-- Nobody has the number of a queue pair that a change destroys. -/
theorem Change.dropped {f g : Fabric} {es : List Event} (h : Change f es g) (hf : f.Fit)
    {id : NativeId} {q : QueuePair} (hq : f.qps.find? id = some q) (hnone : g.qps.find? id = none)
    {id' : NativeId} {q' : QueuePair} (hq' : g.qps.find? id' = some q') :
    q'.number ≠ q.number := by
  have hkept (hsame : g.qps.find? id = f.qps.find? id) : q'.number ≠ q.number := by
    rw [hnone, hq] at hsame
    cases hsame
  have hupdated {id' : NativeId} {change : QueuePair → QueuePair}
      (hnone : (f.updateQp id' change).qps.find? id = none) : f.qps.find? id = none := by
    simp only [Fabric.updateQp, Table.find?_modify] at hnone
    split at hnone
    case isTrue => exact Option.map_eq_none_iff.1 hnone
    case isFalse => exact hnone
  cases h with
  | aside hqps | addSrq _ hqps | dropSrq _ hqps => exact hkept (congrArg (·.find? id) hqps)
  | addQp _ _ hqps =>
      apply hkept
      rw [hqps, Table.find?_insert, if_neg (Nat.ne_of_lt (hf.qpBelow hq))]
  | @dropQp _ dropped _ _ hqps =>
      by_cases hid : id = dropped
      · subst hid
        rw [hqps] at hq'
        obtain ⟨hid', hq'⟩ := Table.erased hq'
        exact fun hsame => hid' (hf.number_inj hq hq' hsame)
      · apply hkept
        rw [hqps, Table.find?_erase, if_neg hid]
  | modify | clear | postSends =>
      rw [hupdated hnone] at hq
      cases hq
  | @postRecvs queue =>
      cases queue with
      | ofQp =>
          rw [hupdated (show (f.updateQp _ _).qps.find? id = none from hnone)] at hq
          cases hq
      | shared => exact hkept rfl

/-- A change says what is accepted, and what is cleared. -/
theorem Change.tells {f g : Fabric} {es : List Event} (h : Change f es g) :
    ∀ e ∈ es, (∃ id request, e = .sendAccepted id request) ∨
      (∃ queue request, e = .recvAccepted queue request) ∨ ∃ id, e = .queuesCleared id := by
  cases h with
  | aside | addQp | addSrq | dropSrq | modify =>
      intro e he
      cases he
  | dropQp | clear =>
      intro e he
      exact .inr (.inr ⟨_, List.mem_singleton.1 he⟩)
  | postSends =>
      intro e he
      obtain ⟨p, -, rfl⟩ := List.mem_map.1 he
      exact .inl ⟨_, _, rfl⟩
  | postRecvs =>
      intro e he
      obtain ⟨r, -, rfl⟩ := List.mem_map.1 he
      exact .inr (.inl ⟨_, _, rfl⟩)

/-- What is read off what the engine does is not read off a change. -/
theorem Change.filterMap_eq_nil {f g : Fabric} {es : List Event} (h : Change f es g) {α : Type}
    {p : Event → Option α} (hsend : ∀ id request, p (.sendAccepted id request) = none)
    (hrecv : ∀ queue request, p (.recvAccepted queue request) = none)
    (hclear : ∀ id, p (.queuesCleared id) = none) : es.filterMap p = [] := by
  rw [List.filterMap_eq_nil_iff]
  intro e he
  rcases h.tells e he with ⟨_, _, rfl⟩ | ⟨_, _, rfl⟩ | ⟨_, rfl⟩
  · exact hsend _ _
  · exact hrecv _ _
  · exact hclear _

theorem Change.nextId_le {f g : Fabric} {es : List Event} (h : Change f es g) :
    f.nextId ≤ g.nextId := by
  cases h with
  | aside _ _ _ hnext => exact hnext
  | addQp _ _ _ _ _ hnext | addSrq _ _ _ _ hnext => rw [hnext]; exact Nat.le_succ _
  | dropQp _ _ _ _ hnext | dropSrq _ _ _ _ hnext => exact Nat.le_of_eq hnext.symm
  | modify | clear | postSends => exact Nat.le_refl _
  | @postRecvs queue => cases queue <;> exact Nat.le_refl _

theorem Turn.earlier {s t : Scene} {es : List Event} (h : Turn s es t) {id : NativeId}
    {q' : QueuePair} (hid : id < s.fabric.nextId) (hq' : t.fabric.qps.find? id = some q') :
    ∃ q, s.fabric.qps.find? id = some q ∧ q'.cleared = q.cleared := by
  cases h with
  | act hact =>
      obtain ⟨q, hq, hb⟩ := hact.spends.earlier hq'
      exact ⟨q, hq, hb.fixed⟩
  | change hchange => exact hchange.earlier hid hq'

theorem Turn.nextId_le {s t : Scene} {es : List Event} (h : Turn s es t) :
    s.fabric.nextId ≤ t.fabric.nextId := by
  cases h with
  | act hact => exact Nat.le_of_eq hact.spends.nextId.symm
  | change hchange => exact hchange.nextId_le

/-- There is a queue pair of the identity, and it was created as `made`. -/
def Fabric.Lives (f : Fabric) (id : NativeId) (made : QueuePair) : Prop :=
  ∃ q, f.qps.find? id = some q ∧ q.cleared = made

/-- A step of a story that a queue pair lives through. -/
structure LivedTurn (id : NativeId) (made : QueuePair) (s : Scene) (es : List Event) (t : Scene) :
    Prop where
  turn : Turn s es t
  fit : s.fabric.Fit
  before : s.fabric.Lives id made
  after : t.fabric.Lives id made

/-- Identities are not used again: a queue pair that is there before and after a story lives through
all of it. -/
theorem Story.lived {s t : Scene} {es : List Event} (h : Story s es t) (hs : s.fabric.Fit)
    {id : NativeId} {q q' : QueuePair} (hq : s.fabric.qps.find? id = some q)
    (hq' : t.fabric.qps.find? id = some q') :
    q'.cleared = q.cleared ∧ Trail (LivedTurn id q.cleared) s es t := by
  induction h generalizing q' with
  | refl =>
      obtain rfl := Option.some.inj (hq.symm.trans hq')
      exact ⟨rfl, .refl s⟩
  | @tail t u es es' hstory hlast ih =>
      have hnext : s.fabric.nextId ≤ t.fabric.nextId :=
        Trail.keeps (P := fun t => s.fabric.nextId ≤ t.fabric.nextId)
          (fun _ _ _ hturn hle => Nat.le_trans hle hturn.nextId_le) hstory (Nat.le_refl _)
      obtain ⟨p, hp, hfixed⟩ := hlast.earlier (Nat.lt_of_lt_of_le (hs.qpBelow hq) hnext) hq'
      obtain ⟨hfixed', htrail⟩ := ih hp
      have hlived : LivedTurn id q.cleared t es' u :=
        ⟨hlast, Story.fit hstory hs, ⟨p, hp, hfixed'⟩, ⟨q', hq', hfixed.trans hfixed'⟩⟩
      exact ⟨hfixed.trans hfixed', htrail.tail hlived⟩

/-! ## The journal grows -/

namespace Host

variable {h k : Host} {devices : List DeviceConfig}

/-- A step that does not look at the journal appends to it. -/
theorem Blind.journal {ε α : Type} {work : Step Host ε α} (hb : Blind work) (h : Host) :
    ∃ events, (work h).2.journal.toList = h.journal.toList ++ events := by
  let bare : Host := { h with journal := {} }
  have hpast : h = bare.withPast h.journal.newestFirst := by simp [bare, withPast]
  refine ⟨(work bare).2.journal.toList, ?_⟩
  rw [hpast, hb]
  simp [later, withPast, bare, Journal.toList]

theorem note_appends (h : Host) (e : Event) :
    ∃ events, (h.note e).journal.toList = h.journal.toList ++ events :=
  ⟨[e], Journal.toList_add _ _⟩

/-- The journal is written at its end only. -/
theorem perform_appends (h : Host) (op : Operation) :
    ∃ events, (h.perform op).journal.toList = h.journal.toList ++ events := by
  have hsame : ∃ events, h.journal.toList = h.journal.toList ++ events :=
    ⟨[], (List.append_nil _).symm⟩
  cases op with
  | openDevice device => exact (openDevice_blind device).journal h
  | closeDevice ctx => exact (closeDevice_blind ctx).journal h
  | allocPd ctx => exact (allocPd_blind ctx).journal h
  | deallocPd pd => exact (deallocPd_blind pd).journal h
  | regMr pd addr length permission => exact (regMr_blind pd addr length permission).journal h
  | deregMr mr => exact (deregMr_blind mr).journal h
  | createChannel ctx => exact (createChannel_blind ctx).journal h
  | destroyChannel channel => exact (destroyChannel_blind channel).journal h
  | createCq ctx depth channel cookie vector =>
      exact (createCq_blind ctx depth channel cookie vector).journal h
  | destroyCq cq => exact (destroyCq_blind cq).journal h
  | pollCq cq n => exact (pollCq_blind cq n).journal h
  | reqNotifyCq cq solicitedOnly => exact (reqNotifyCq_blind cq solicitedOnly).journal h
  | getCqEvent channel => exact (getCqEvent_blind channel).journal h
  | createSrq pd init => exact (createSrq_blind pd init).journal h
  | destroySrq srq => exact (destroySrq_blind srq).journal h
  | postSrqRecv srq requests => exact (postSrqRecv_blind srq requests).journal h
  | createQp pd init => exact (createQp_blind pd init).journal h
  | modifyQp qp attributes mask => exact (modifyQp_blind qp attributes mask).journal h
  | destroyQp qp => exact (destroyQp_blind qp).journal h
  | postSend qp requests => exact (postSend_blind qp requests).journal h
  | postRecv qp requests => exact (postRecv_blind qp requests).journal h
  | plug device => exact note_appends h _
  | unplug name => exact note_appends h _
  | deviceList | queryDevice | queryPort | queryGid | channelDescriptor | queryQpState
  | ackCqEvents | setMemory | setDescriptorsLeft | setDescriptor => exact hsame

/-! ## Runs -/

/-- Operations, and events of the handle layer between them, lead from one host to the other. -/
inductive Leads (h : Host) : Host → Prop
  | refl : Leads h h
  | perform {k : Host} (op : Operation) : Leads h k → Leads h (k.perform op)
  | note {k : Host} (e : Event) : e.ofHandleLayer → Leads h k → Leads h (k.note e)

theorem Leads.reachable (hk : h.Leads k) (hr : Reachable devices h) : Reachable devices k := by
  induction hk with
  | refl => exact hr
  | perform op _ ih => exact .perform op ih
  | note e he _ ih => exact .note e he ih

theorem Leads.trans {g : Host} (hg : h.Leads g) (hk : g.Leads k) : h.Leads k := by
  induction hk with
  | refl => exact hg
  | perform op _ ih => exact ih.perform op
  | note e he _ ih => exact ih.note e he

theorem leads_performAll (h : Host) (ops : List Operation) : h.Leads (h.performAll ops) := by
  have hfrom (ops : List Operation) : ∀ {k : Host}, h.Leads k → h.Leads (k.performAll ops) := by
    induction ops with
    | nil => exact fun hk => hk
    | cons op rest ih => exact fun hk => ih (.perform op hk)
  exact hfrom ops .refl

theorem ofRequest?_of_handleLayer {e : Event} (he : e.ofHandleLayer) : e.ofRequest? = none := by
  cases e <;> first | rfl | cases he

theorem Proceeds.story {said : List Event} (hk : h.Proceeds said k) :
    ∃ es, Story ⟨h.fabric.work, none⟩ es ⟨k.fabric.work, none⟩ ∧ k.entries = h.entries ++ es := by
  obtain ⟨g, es, hchange, hacts, hentries⟩ := hk
  refine ⟨said ++ es, ?_, by rw [hentries, List.append_assoc]⟩
  exact (Trail.single (.change hchange)).trans (hacts.mono fun _ _ _ => .act)

/-- A fresh host has no queues, and nothing is written down of requests. -/
theorem fresh_work (memory : Memory) (devices : List DeviceConfig) :
    ∃ attached nextId, (({ memory } : Host).withDevices devices).fabric.work =
      { devices := attached, nextId } := by
  obtain ⟨attached, nextId, hfabric⟩ := Fabric.ofDevices_eq devices
  refine ⟨attached, nextId, ?_⟩
  simp only [withDevices, hfabric]
  rfl

/-- Of the devices of a fresh host only sizes that ports cannot have are written down. -/
theorem noteInvalidMtus_journal (h : Host) (devices : List DeviceConfig) :
    ∃ events, (h.noteInvalidMtus devices).journal.toList = h.journal.toList ++ events ∧
      ∀ e ∈ events, ∃ name mtu, e = .invalidMtu name mtu := by
  unfold noteInvalidMtus
  induction devices generalizing h with
  | nil => exact ⟨[], (List.append_nil _).symm, fun _ he => absurd he List.not_mem_nil⟩
  | cons device rest ih =>
      rw [List.foldl_cons]
      split
      · obtain ⟨events, hevents, honly⟩ := ih (h.note (.invalidMtu device.name device.mtu))
        refine ⟨.invalidMtu device.name device.mtu :: events, ?_, ?_⟩
        · rw [hevents, note_journal, Journal.toList_add, List.append_assoc, List.singleton_append]
        · intro e he
          rcases List.mem_cons.1 he with rfl | he
          · exact ⟨_, _, rfl⟩
          · exact honly e he
      · exact ih h

theorem noteInvalidMtus_entries (h : Host) (devices : List DeviceConfig) :
    (h.noteInvalidMtus devices).entries = h.entries := by
  obtain ⟨events, hevents, honly⟩ := h.noteInvalidMtus_journal devices
  have hnone : events.filterMap Event.ofRequest? = [] := by
    rw [List.filterMap_eq_nil_iff]
    intro e he
    obtain ⟨name, mtu, rfl⟩ := honly e he
    rfl
  rw [entries, hevents, List.filterMap_append, hnone, List.append_nil, entries]

theorem empty_fit (attached : List Fabric.Device) (nextId : NativeId) :
    ({ devices := attached, nextId } : Fabric).Fit := by
  constructor
  case numbered =>
    intro number id
    refine iff_of_false nofun ?_
    rintro ⟨q, hq, -⟩
    cases hq
  case qpBelow => exact fun hq => nomatch hq
  case srqBelow => exact fun hs => nomatch hs
  case posted => exact fun hq => nomatch hq
  case idle => exact fun hq => nomatch hq

/-- All that is written down of requests is one story. It begins where there are no queues. -/
theorem Reachable.history (hr : Reachable devices h) :
    ∃ f : Fabric, f.qps = {} ∧ f.srqs = {} ∧ f.Fit ∧
      Story ⟨f, none⟩ h.entries ⟨h.fabric.work, none⟩ := by
  induction hr with
  | fresh memory =>
      obtain ⟨attached, nextId, hwork⟩ := fresh_work memory devices
      refine ⟨_, rfl, rfl, empty_fit attached nextId, ?_⟩
      have hnothing : (({ memory } : Host).withDevices devices).entries = [] :=
        noteInvalidMtus_entries { memory } devices
      rw [hwork, hnothing]
      exact .refl _
  | perform op _ ih =>
      obtain ⟨f, hqps, hsrqs, hfit, hstory⟩ := ih
      obtain ⟨es, hnext, hentries⟩ := (perform_proceeds (hstory.fit hfit) op).story
      exact ⟨f, hqps, hsrqs, hfit, hentries ▸ hstory.trans hnext⟩
  | note e he _ ih =>
      obtain ⟨f, hqps, hsrqs, hfit, hstory⟩ := ih
      refine ⟨f, hqps, hsrqs, hfit, ?_⟩
      rw [note_entries_of_none _ (ofRequest?_of_handleLayer he)]
      exact hstory

theorem Reachable.fit (hr : Reachable devices h) : h.fabric.work.Fit := by
  obtain ⟨f, -, -, hfit, hstory⟩ := hr.history
  exact hstory.fit hfit

/-- What the journal of a host has got since it was the journal of an earlier one. -/
def eventsSince (k h : Host) : List Event := k.journal.toList.drop h.journal.toList.length

theorem eventsSince_eq {events : List Event}
    (happends : k.journal.toList = h.journal.toList ++ events) : k.eventsSince h = events := by
  rw [eventsSince, happends, List.drop_left]

/-- A run appends to the journal. -/
theorem Leads.journal (hk : h.Leads k) :
    k.journal.toList = h.journal.toList ++ k.eventsSince h := by
  have happends : ∃ events, k.journal.toList = h.journal.toList ++ events := by
    induction hk with
    | refl => exact ⟨[], (List.append_nil _).symm⟩
    | @perform k op hk ih =>
        obtain ⟨events, hevents⟩ := ih
        obtain ⟨events', hevents'⟩ := k.perform_appends op
        exact ⟨events ++ events', by rw [hevents', hevents, List.append_assoc]⟩
    | @note k e _ hk ih =>
        obtain ⟨events, hevents⟩ := ih
        exact ⟨events ++ [e], by rw [note_journal, Journal.toList_add, hevents, List.append_assoc]⟩
  obtain ⟨events, hevents⟩ := happends
  rw [eventsSince_eq hevents, hevents]

/-- What is said of requests since then is what the entries were extended by. -/
theorem Leads.filterMap_eventsSince (hk : h.Leads k) {es : List Event}
    (hentries : k.entries = h.entries ++ es) : (k.eventsSince h).filterMap Event.ofRequest? = es := by
  have hsplit : k.entries = h.entries ++ (k.eventsSince h).filterMap Event.ofRequest? := by
    rw [entries, entries, ← List.filterMap_append, ← hk.journal]
  exact List.append_cancel_left (hsplit.symm.trans hentries)

/-- On the way to a reachable host no completion went astray. -/
theorem Reachable.delivered (hr : Reachable devices k) (cq : NativeId) (c : Completion) :
    .undelivered cq c ∉ k.journal.toList :=
  fun hc => hr.sound.orderly _ (List.mem_reverse.1 hc)

/-- What is read off an event is what it says of a request. -/
def Reads {α : Type} (p : Event → Option α) : Prop :=
  ∀ e, (∀ cq c, e ≠ .undelivered cq c) → p e = e.ofRequest?.bind p

theorem Reads.filterMap_eq {α : Type} {p : Event → Option α} (hp : Reads p) {events : List Event}
    (hevents : ∀ cq c, .undelivered cq c ∉ events) :
    events.filterMap p = (events.filterMap Event.ofRequest?).filterMap p := by
  rw [List.filterMap_filterMap]
  apply List.filterMap_congr
  intro e he
  exact hp e fun cq c hc => hevents cq c (hc ▸ he)

theorem Reachable.delivered_since (hr : Reachable devices h) (hk : h.Leads k) (cq : NativeId)
    (c : Completion) : .undelivered cq c ∉ k.eventsSince h := by
  intro hc
  apply (hk.reachable hr).delivered cq c
  rw [hk.journal]
  exact List.mem_append_right _ hc

theorem queuesCleared_mem {events : List Event} (id : NativeId) :
    .queuesCleared id ∈ events.filterMap Event.ofRequest? ↔ .queuesCleared id ∈ events := by
  rw [List.mem_filterMap]
  constructor
  · rintro ⟨e, he, hread⟩
    cases e <;> cases hread
    exact he
  · intro he
    exact ⟨_, he, rfl⟩

/-- A run tells a story in the events that it appends to the journal. -/
theorem Leads.story (hk : h.Leads k) (hr : Reachable devices h) :
    Story ⟨h.fabric.work, none⟩ ((k.eventsSince h).filterMap Event.ofRequest?)
      ⟨k.fabric.work, none⟩ := by
  have htold : ∃ es, Story ⟨h.fabric.work, none⟩ es ⟨k.fabric.work, none⟩ ∧
      k.entries = h.entries ++ es := by
    induction hk with
    | refl => exact ⟨[], .refl _, (List.append_nil _).symm⟩
    | perform op hk ih =>
        obtain ⟨es, hstory, hentries⟩ := ih
        obtain ⟨es', hstory', hentries'⟩ := (perform_proceeds (hk.reachable hr).fit op).story
        exact ⟨es ++ es', hstory.trans hstory', by rw [hentries', hentries, List.append_assoc]⟩
    | @note k e he hk ih =>
        obtain ⟨es, hstory, hentries⟩ := ih
        exact ⟨es, hstory, (note_entries_of_none k (ofRequest?_of_handleLayer he)).trans hentries⟩
  obtain ⟨es, hstory, hentries⟩ := htold
  rw [hk.filterMap_eventsSince hentries]
  exact hstory

/-- One operation in a run: the change that its answer tells of, then acts of the engine. -/
theorem Reachable.acts (hr : Reachable devices h) (op : Operation) :
    ∃ g es, ((h.perform op).eventsSince h).filterMap Event.ofRequest? = h.intake op ++ es ∧
      Change h.fabric.work (h.intake op) g ∧
      Acts ⟨g, none⟩ es ⟨(h.perform op).fabric.work, none⟩ := by
  obtain ⟨g, es, hchange, hacts, hentries⟩ := perform_proceeds hr.fit op
  refine ⟨g, es, (Leads.perform op .refl).filterMap_eventsSince ?_, hchange, hacts⟩
  rw [hentries, List.append_assoc]

/-- What is read off one operation is read off what its answer tells and off the acts. -/
theorem Reachable.reads (hr : Reachable devices h) {op : Operation} {es : List Event}
    (hes : ((h.perform op).eventsSince h).filterMap Event.ofRequest? = h.intake op ++ es)
    {α : Type} {p : Event → Option α} (hp : Reads p) :
    ((h.perform op).eventsSince h).filterMap p =
      (h.intake op).filterMap p ++ es.filterMap p := by
  rw [hp.filterMap_eq (hr.delivered_since (.perform op .refl)), hes, List.filterMap_append]

end Host

end Rdma
