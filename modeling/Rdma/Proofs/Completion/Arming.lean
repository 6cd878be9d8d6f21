import Rdma.Proofs.Completion.Tally

/-!
# Arming a completion queue

A completion queue that reports to a channel can be armed, for all completions or for solicited and
failed ones. The first completion that it then stores and waits for raises one event and disarms it,
and nothing else raises an event. Armed once more before that, it waits for all that it waited for,
and more if it is asked to.

* `CompletionQueue.Notifies` — what the tale of a queue says of its armings and events;
* `CqStep.notified`, `Trail.notified` — a step of the queue's life keeps that, and so does its life;
* `reachable_notifies` — it holds on every reachable host, and no queue raises more events than it
  was armed.
-/

namespace Rdma

open Fabric (CompletionQueue)

variable {id channel : NativeId} {tale es : List Event}

/-! ## Reading the journal -/

/-- The queue was armed, for solicited completions only or not. -/
def Event.armed? (cq : NativeId) : Event → Option Bool
  | .armed cq' solicitedOnly => if cq' = cq then some solicitedOnly else none
  | _ => none

theorem Event.armed?_of_other {e : Event} (he : e.tellsOf id = false) : e.armed? id = none := by
  cases e <;> simp_all [tellsOf, cq?, armed?]

/-- What the queue waits for after the events. -/
def waitingFor (cq : NativeId) (events : List Event) : Option Bool :=
  events.foldl (Event.rearm cq) none

@[simp] theorem waitingFor_concat (events : List Event) (e : Event) :
    waitingFor id (events ++ [e]) = e.rearm id (waitingFor id events) := by
  simp [waitingFor]

/-- Does a queue that is armed so wait for the completion? -/
def awaits (armed : Option Bool) (c : Completion) (solicited : Bool) : Bool :=
  armed.any fun only => !only || solicited || c.failed

/-- An event that neither stores a completion, nor raises an event, nor arms the queue. -/
structure Event.Idle (cq : NativeId) (e : Event) : Prop where
  stored : e.stored? cq = none
  raised : e.raised? cq = none
  armed : e.armed? cq = none

theorem Event.Idle.rearm {e : Event} (he : e.Idle id) (armed : Option Bool) :
    e.rearm id armed = armed := by
  obtain ⟨hstored, -, harmed⟩ := he
  cases e with
  | armed => simp_all [Event.armed?, Event.rearm]
  | completed cq c solicited stored => cases stored <;> simp_all [Event.stored?, Event.rearm]
  | _ => rfl

/-! ## The tale of a queue -/

/-- What may happen to a queue that reports to a channel: a completion that it stores is followed by
an event if the queue waits for it, and is not if the queue does not; and no event is raised
otherwise. -/
inductive Told (cq channel : NativeId) (event : CqEvent) : List Event → Prop
  | nil : Told cq channel event []
  | idle {tale : List Event} {e : Event} : Told cq channel event tale → e.Idle cq →
      Told cq channel event (tale ++ [e])
  | armed {tale : List Event} (solicitedOnly : Bool) : Told cq channel event tale →
      Told cq channel event (tale ++ [.armed cq solicitedOnly])
  | stored {tale : List Event} {c : Completion} {solicited : Bool} : Told cq channel event tale →
      awaits (waitingFor cq tale) c solicited = false →
      Told cq channel event (tale ++ [.completed cq c solicited true])
  | woken {tale : List Event} {c : Completion} {solicited : Bool} : Told cq channel event tale →
      awaits (waitingFor cq tale) c solicited = true →
      Told cq channel event
        (tale ++ [.completed cq c solicited true, .eventRaised channel event])

/-- A completion that the queue waits for disarms it, and no other does. -/
theorem waitingFor_stored (tale : List Event) (c : Completion) (solicited : Bool) :
    waitingFor id (tale ++ [.completed id c solicited true]) =
      if awaits (waitingFor id tale) c solicited then none else waitingFor id tale := by
  rw [waitingFor_concat]
  simp only [Event.rearm, decide_true, Bool.true_and]
  rfl

theorem waitingFor_woken {c : Completion} {solicited : Bool} {event : CqEvent}
    (hawaits : awaits (waitingFor id tale) c solicited = true) :
    waitingFor id (tale ++ [.completed id c solicited true, .eventRaised channel event]) = none := by
  rw [List.append_cons, waitingFor_concat, waitingFor_stored, if_pos hawaits]
  rfl

theorem waitingFor_armed (tale : List Event) (solicitedOnly : Bool) :
    waitingFor id (tale ++ [.armed id solicitedOnly]) =
      if waitingFor id tale = some false then some false else some solicitedOnly := by
  by_cases hall : waitingFor id tale = some false <;>
    simp [Event.rearm, CompletionQueue.arming, hall]

/-- Since the queue was armed, only events of a kind happened to it. -/
def Since (cq : NativeId) (solicitedOnly : Bool) (Was : Option Bool → Prop) (Only : Event → Prop)
    (tale : List Event) : Prop :=
  ∃ past since, tale = past ++ .armed cq solicitedOnly :: since ∧ Was (waitingFor cq past) ∧
    ∀ e ∈ since, Only e

section Since

variable {solicitedOnly : Bool} {Was : Option Bool → Prop} {Only : Event → Prop}

theorem Since.start (hwas : Was (waitingFor id tale)) :
    Since id solicitedOnly Was Only (tale ++ [.armed id solicitedOnly]) :=
  ⟨tale, [], rfl, hwas, List.forall_mem_nil _⟩

theorem Since.concat (h : Since id solicitedOnly Was Only tale) {e : Event} (he : Only e) :
    Since id solicitedOnly Was Only (tale ++ [e]) := by
  obtain ⟨past, since, rfl, hwas, honly⟩ := h
  refine ⟨past, since ++ [e], by simp, hwas, fun e' he' => ?_⟩
  rcases List.mem_append.1 he' with he' | he'
  · exact honly e' he'
  · exact List.mem_singleton.1 he' ▸ he

end Since

namespace Told

variable {event : CqEvent}

/-- Armed for all completions, the queue has stored none since it became so. -/
theorem since_all (h : Told id channel event tale) (hall : waitingFor id tale = some false) :
    Since id false (· ≠ some false) (fun e => e.stored? id = none) tale := by
  induction h with
  | nil => cases hall
  | idle h hidle ih =>
      rw [waitingFor_concat, hidle.rearm] at hall
      exact (ih hall).concat hidle.stored
  | @armed tale solicitedOnly h ih =>
      rw [waitingFor_armed] at hall
      by_cases hbefore : waitingFor id tale = some false
      · exact (ih hbefore).concat rfl
      · obtain rfl : solicitedOnly = false := by simpa [hbefore] using hall
        exact .start hbefore
  | stored h hawaits ih =>
      -- a queue that waits for all completions waits for this one
      rw [waitingFor_stored, hawaits, if_neg Bool.false_ne_true] at hall
      simp [awaits, hall] at hawaits
  | woken h hawaits ih =>
      rw [waitingFor_woken hawaits] at hall
      cases hall

/-- Armed for solicited completions only, the queue has stored neither a solicited nor a failed one
since it became armed. -/
theorem since_solicited (h : Told id channel event tale)
    (hsolicited : waitingFor id tale = some true) :
    Since id true (· = none) (fun e => ∀ c solicited, e = .completed id c solicited true →
      solicited = false ∧ c.failed = false) tale := by
  induction h with
  | nil => cases hsolicited
  | idle h hidle ih =>
      rw [waitingFor_concat, hidle.rearm] at hsolicited
      refine (ih hsolicited).concat fun c s he => ?_
      have hstored := hidle.stored
      simp [he, Event.stored?] at hstored
  | @armed tale solicitedOnly h ih =>
      rw [waitingFor_armed] at hsolicited
      have hnot : waitingFor id tale ≠ some false := fun hall => by simp [hall] at hsolicited
      obtain rfl : solicitedOnly = true := by simpa [hnot] using hsolicited
      cases hbefore : waitingFor id tale with
      | none => exact .start hbefore
      | some only =>
          cases only with
          | false => exact absurd hbefore hnot
          | true => exact (ih hbefore).concat (by rintro _ _ ⟨⟩)
  | stored h hawaits ih =>
      rw [waitingFor_stored, hawaits, if_neg Bool.false_ne_true] at hsolicited
      refine (ih hsolicited).concat fun c s he => ?_
      cases he
      simpa [awaits, hsolicited] using hawaits
  | woken h hawaits ih =>
      rw [waitingFor_woken hawaits] at hsolicited
      cases hsolicited

/-- Each event raised takes an arming, and one more is left while the queue is armed. -/
theorem few (h : Told id channel event tale) :
    (tale.filterMap (Event.raised? id)).length + (if (waitingFor id tale).isSome then 1 else 0) ≤
      (tale.filterMap (Event.armed? id)).length := by
  induction h with
  | nil => exact Nat.le_refl _
  | idle h hidle ih => simpa [hidle.raised, hidle.armed, hidle.rearm] using ih
  | @armed tale solicitedOnly h ih =>
      have hraised : (tale ++ [Event.armed id solicitedOnly]).filterMap (Event.raised? id) =
          tale.filterMap (Event.raised? id) := by simp [Event.raised?]
      have harmed : (tale ++ [Event.armed id solicitedOnly]).filterMap (Event.armed? id) =
          tale.filterMap (Event.armed? id) ++ [solicitedOnly] := by simp [Event.armed?]
      rw [hraised, harmed, List.length_append, List.length_singleton]
      split <;> omega
  | @stored tale c solicited h hawaits ih =>
      rw [waitingFor_stored, hawaits, if_neg Bool.false_ne_true]
      simpa [List.filterMap_cons, Event.raised?, Event.armed?] using ih
  | @woken tale c solicited h hawaits ih =>
      have hsome : (waitingFor id tale).isSome := by
        cases hwaits : waitingFor id tale with
        | none => simp [hwaits, awaits] at hawaits
        | some only => rfl
      rw [if_pos hsome] at ih
      rw [waitingFor_woken hawaits]
      by_cases hcq : event.cq = id <;>
        simp [List.filterMap_cons, Event.raised?, Event.armed?, hcq] <;> omega

end Told

theorem Delivery.unarmed {f g : Fabric} {es : List Event} (h : Delivery f es g) (id : NativeId) :
    es.filterMap (Event.armed? id) = [] := by
  cases h with
  | @lose _ q =>
      cases hover : q.overflowed <;>
        simp [CompletionQueue.losing, hover, List.filterMap_cons, Event.armed?]
  | @wake _ q =>
      cases hchannel : q.channel <;>
        simp [CompletionQueue.waking, hchannel, List.filterMap_cons, Event.armed?]
  | _ => rfl

/-! ## Lives -/

/-- What the events that tell of a queue say of its armings and of the events it raised. -/
structure Fabric.CompletionQueue.Notifies (q : CompletionQueue) (id : NativeId)
    (tale : List Event) : Prop where
  armed : q.armed = waitingFor id tale
  told : ∀ channel, q.channel = some channel → Told id channel (q.event id) tale
  unbound : q.channel = none → q.armed = none ∧ tale.filterMap (Event.raised? id) = []

/-- Where a queue stands after what is told of it. -/
def CqLife.Notified (id : NativeId) (tale : List Event) : CqLife → Prop
  | .unborn => tale = []
  | .live q => q.Notifies id tale
  | .gone => (tale.filterMap (Event.raised? id)).length ≤
      (tale.filterMap (Event.armed? id)).length

namespace Fabric.CompletionQueue

variable {q q' : CompletionQueue}

/-- No queue raises more events than it was armed. -/
theorem Notifies.few (h : q.Notifies id tale) :
    (tale.filterMap (Event.raised? id)).length ≤ (tale.filterMap (Event.armed? id)).length := by
  cases hchannel : q.channel with
  | none => simp [(h.unbound hchannel).2]
  | some channel => exact Nat.le_trans (Nat.le_add_right _ _) (h.told channel hchannel).few

theorem notifies_created (hnew : q.asCreated = q) : q.Notifies id [] := by
  rw [← hnew]
  exact ⟨rfl, fun _ _ => .nil, fun _ => ⟨rfl, rfl⟩⟩

/-- Nothing that matters for arming. -/
theorem Notifies.idle (h : q.Notifies id tale) {e : Event} (he : e.Idle id)
    (harmed : q'.armed = q.armed) (hchannel : q'.channel = q.channel)
    (hcookie : q'.cookie = q.cookie) : q'.Notifies id (tale ++ [e]) := by
  have hevent : q'.event id = q.event id := by rw [event, event, hcookie]
  constructor
  case armed => rw [harmed, h.armed, waitingFor_concat, he.rearm]
  case told =>
    intro channel hchannel'
    rw [hevent]
    exact (h.told channel (hchannel ▸ hchannel')).idle he
  case unbound =>
    intro hnone
    obtain ⟨hnot, hraised⟩ := h.unbound (hchannel ▸ hnone)
    exact ⟨harmed.trans hnot, by simp [hraised, he.raised]⟩

theorem wakes_eq_awaits (q : CompletionQueue) (c : Completion) (solicited : Bool) :
    q.wakes c solicited = awaits q.armed c solicited := by
  unfold wakes awaits
  cases q.armed <;> rfl

/-- A completion that the queue does not wait for. -/
theorem Notifies.store (h : q.Notifies id tale) {c : Completion} {solicited : Bool}
    (hwakes : q.wakes c solicited = false) :
    (q.stored c).Notifies id (tale ++ [.completed id c solicited true]) := by
  rw [wakes_eq_awaits, h.armed] at hwakes
  constructor
  case armed =>
    rw [waitingFor_stored, hwakes]
    exact h.armed
  case told => exact fun channel hchannel => (h.told channel hchannel).stored hwakes
  case unbound =>
    intro hnone
    obtain ⟨hnot, hraised⟩ := h.unbound hnone
    exact ⟨hnot, by simp [hraised, Event.raised?]⟩

/-- A completion that the queue waits for. -/
theorem Notifies.wake (h : q.Notifies id tale) {c : Completion} {solicited : Bool}
    (hwakes : q.wakes c solicited = true) :
    (q.stored c).disarmed.Notifies id (tale ++ q.waking id c solicited) := by
  rw [wakes_eq_awaits] at hwakes
  cases hchannel : q.channel with
  | none => simp [(h.unbound hchannel).1, awaits] at hwakes
  | some channel =>
      rw [h.armed] at hwakes
      have hwaking : q.waking id c solicited =
          [.completed id c solicited true, .eventRaised channel (q.event id)] := by
        simp [waking, hchannel]
      rw [hwaking]
      constructor
      case armed => rw [waitingFor_woken hwakes]; rfl
      case told =>
        intro channel' hchannel'
        obtain rfl := Option.some.inj (hchannel.symm.trans hchannel')
        exact (h.told channel hchannel).woken hwakes
      case unbound =>
        intro hnone
        cases hchannel.symm.trans hnone

/-- The queue is armed. -/
theorem Notifies.arm (h : q.Notifies id tale) (hchannel : q.channel.isSome)
    (solicitedOnly : Bool) :
    (q.armedFor solicitedOnly).Notifies id (tale ++ [.armed id solicitedOnly]) := by
  constructor
  case armed => simp [armedFor, Event.rearm, h.armed]
  case told => exact fun channel hchannel => (h.told channel hchannel).armed solicitedOnly
  case unbound => exact fun hnone => by simp [show q.channel = none from hnone] at hchannel

end Fabric.CompletionQueue

variable {l l' : CqLife}

/-- One step in the life of a completion queue keeps the account of its notifications. -/
theorem CqStep.notified (h : CqStep id l es l') (hl : l.Notified id tale) :
    l'.Notified id (tale ++ es) := by
  cases h with
  | same => rwa [List.append_nil]
  | passed =>
      obtain rfl : tale = [] := hl
      exact Nat.le_refl _
  | created hnew =>
      obtain rfl : tale = [] := hl
      exact CompletionQueue.notifies_created hnew
  | destroyed =>
      rw [List.append_nil]
      exact CompletionQueue.Notifies.few hl
  | @lost q c solicited hfull =>
      -- a completion that is lost wakes nobody, and neither does the note of the overflow
      have hlost : q.lost.Notifies id (tale ++ [.completed id c solicited false]) :=
        CompletionQueue.Notifies.idle hl ⟨rfl, rfl, rfl⟩ rfl rfl rfl
      cases hover : q.overflowed with
      | true =>
          rw [CompletionQueue.losing, hover, if_pos rfl]
          exact hlost
      | false =>
          rw [CompletionQueue.losing, hover, if_neg Bool.false_ne_true, List.append_cons]
          exact hlost.idle ⟨rfl, rfl, rfl⟩ rfl rfl rfl
  | stored c solicited _ hwakes => exact CompletionQueue.Notifies.store hl hwakes
  | woken c solicited _ hwakes => exact CompletionQueue.Notifies.wake hl hwakes
  | polled n _ => exact CompletionQueue.Notifies.idle hl ⟨rfl, rfl, rfl⟩ rfl rfl rfl
  | armed solicitedOnly hchannel => exact CompletionQueue.Notifies.arm hl hchannel solicitedOnly
  | fetched => exact CompletionQueue.Notifies.idle hl ⟨rfl, rfl, rfl⟩ rfl rfl rfl
  | acked n =>
      rw [List.append_nil]
      obtain ⟨harmed, htold, hunbound⟩ := hl
      exact ⟨harmed, htold, hunbound⟩

theorem Trail.notified (h : Trail (CqStep id) l es l') (hl : l.Notified id tale) :
    l'.Notified id (tale ++ es) := by
  induction h with
  | refl => rwa [List.append_nil]
  | tail _ hlast ih =>
      rw [← List.append_assoc]
      exact hlast.notified ih

/-! ## Runs -/

namespace Host

variable {h k : Host} {devices : List DeviceConfig} {q : CompletionQueue}

theorem Reachable.notified (hr : Reachable devices h) (id : NativeId) :
    (h.fabric.cqLife id).Notified id (h.journal.toList.filter (·.tellsOf id)) := by
  have hstart : (({} : Fabric).cqLife id).Notified id [] := by
    have hnone : ({} : Fabric).cqs.find? id = none := rfl
    by_cases hid : id < ({} : Fabric).nextId <;>
      simp [Fabric.cqLife, hnone, hid, CqLife.Notified]
  exact (hr.life id).notified hstart

/-- No queue, be it gone or there, has raised more events than it was armed. -/
theorem Reachable.few_raised (hr : Reachable devices h) (id : NativeId) :
    (h.journal.toList.filterMap (Event.raised? id)).length ≤
      (h.journal.toList.filterMap (Event.armed? id)).length := by
  rw [← filterMap_tellsOf fun _ => Event.raised?_of_other,
    ← filterMap_tellsOf fun _ => Event.armed?_of_other]
  have hnotified := hr.notified id
  cases hlife : h.fabric.cqLife id with
  | unborn =>
      rw [hlife] at hnotified
      have hnone : h.journal.toList.filter (·.tellsOf id) = [] := hnotified
      simp [hnone]
  | live q =>
      rw [hlife] at hnotified
      exact CompletionQueue.Notifies.few hnotified
  | gone =>
      rw [hlife] at hnotified
      exact hnotified

/-! ## One call -/

/-- A queue that reports to a channel can be armed. -/
theorem reqNotifyCq_of_bound (hq : h.fabric.cqs.find? id = some q)
    (hchannel : q.channel = some channel) (solicitedOnly : Bool) :
    reqNotifyCq id solicitedOnly h =
      (.ok (), (h.updateCq id (·.armedFor solicitedOnly)).note (.armed id solicitedOnly)) := by
  simp only [reqNotifyCq, Step.guarded, hq, hchannel]
  rfl

/-- A completion that is stored raises one event and disarms the queue if the queue waits for it, and
does neither if not. -/
theorem complete_raises (hh : h.Sound) (hq : h.fabric.cqs.find? id = some q)
    (hchannel : q.channel = some channel) (hroom : q.isFull = false) (c : Completion)
    (solicited : Bool) :
    let k := h.complete id c solicited
    (∃ q', k.fabric.cqs.find? id = some q' ∧
        q'.armed = if awaits q.armed c solicited then none else q.armed) ∧
      (k.eventsSince h).filterMap (Event.raised? id) =
        if awaits q.armed c solicited then [(channel, q.event id)] else [] := by
  rw [← CompletionQueue.wakes_eq_awaits]
  simp only [complete, hq, hroom, Bool.false_eq_true, if_false]
  cases hwakes : q.wakes c solicited with
  | false =>
      have hstored : (h.storeCompletion id c solicited).journal.toList =
          h.journal.toList ++ [.completed id c solicited true] := Journal.toList_add _ _
      rw [if_neg Bool.false_ne_true, eventsSince_eq hstored]
      exact ⟨⟨q.stored c, by simp [storeCompletion, Fabric.updateCq, hq, CompletionQueue.stored],
        rfl⟩, rfl⟩
  | true =>
      obtain ⟨events, hjournal, hnone⟩ :=
        wake_journal (q := q) (hh.channel_of_cq hq) c solicited
      have hothers : events.filterMap (Event.raised? id) = [] := by
        rw [← filterMap_tellsOf fun _ => Event.raised?_of_other, ← filter_ofQueues, hnone]
        rfl
      rw [if_pos rfl, eventsSince_eq hjournal, List.filterMap_append, hothers]
      refine ⟨⟨(q.stored c).disarmed, ?_, rfl⟩, ?_⟩
      · rw [wake_fabric, Fabric.updateChannel?_cqs]
        simp [storeCompletion, Fabric.updateCq, hq, CompletionQueue.stored]
      · simp [CompletionQueue.waking, hchannel, List.filterMap_cons, Event.raised?,
          CompletionQueue.event]

/-- What the operation arms the queue for, if it does that with success. -/
def armRequest (h : Host) (id : NativeId) : Operation → Option Bool
  | .reqNotifyCq cq solicitedOnly =>
    if cq = id then (reqNotifyCq cq solicitedOnly h).1.toOption.map fun _ => solicitedOnly else none
  | _ => none

/-- An arming is written down if and only if it succeeds, and nothing else is written down as one. -/
theorem perform_armed (hh : h.Sound) (op : Operation) (id : NativeId) :
    ((h.perform op).eventsSince h).filterMap (Event.armed? id) = (h.armRequest id op).toList := by
  have hnothing : (h.eventsSince h).filterMap (Event.armed? id) = [] := by
    rw [eventsSince_eq (List.append_nil _).symm]
    rfl
  have hnoted {k : Host} {e : Event} (hk : k.journal.toList = h.journal.toList ++ [e]) :
      (k.eventsSince h).filterMap (Event.armed? id) = (e.armed? id).toList := by
    rw [eventsSince_eq hk]
    cases he : e.armed? id <;> simp [he]
  cases hop : op.demands with
  | false =>
      have hnone : h.armRequest id op = none := by cases op <;> first | rfl | cases hop
      have hunarmed := (perform_delivers hh hop).since.unread fun _ _ _ h => h.unarmed id
      rw [← filterMap_tellsOf fun _ => Event.armed?_of_other, filter_ofQueues,
        filterMap_tellsOf fun _ => Event.armed?_of_other] at hunarmed
      rw [hunarmed, hnone]
      rfl
  | true =>
      cases op with
      | pollCq cq n =>
          exact Step.guarded_cases (P := fun r : Except OsError (List Completion) × Host =>
            (r.2.eventsSince h).filterMap (Event.armed? id) = []) (fun _ _ => hnothing)
            fun taken _ => hnoted (e := .polled cq taken) (Journal.toList_add _ _)
      | reqNotifyCq cq solicitedOnly =>
          simp only [perform, armRequest]
          unfold reqNotifyCq
          refine Step.guarded_cases (P := fun r : Except OsError Unit × Host =>
            (r.2.eventsSince h).filterMap (Event.armed? id) =
              (if cq = id then r.1.toOption.map fun _ => solicitedOnly else none).toList)
            (fun _ _ => ?_) fun _ _ => ?_
          · simp [hnothing, Except.toOption]
          · exact hnoted (e := .armed cq solicitedOnly) (Journal.toList_add _ _)
      | getCqEvent channel =>
          simp only [perform, getCqEvent]
          split
          · exact hnothing
          split
          · exact hnothing
          split
          · exact hnothing
          case h_2 event _ _ =>
            exact hnoted (e := .eventFetched channel event) (Journal.toList_add _ _)
      | ackCqEvents | setDescriptor => exact hnothing
      | _ => cases hop

/-- A queue that reports to a channel raises an event at the first completion that it stores and that
it waits for, and disarmed by that raises none until it is armed again. While it is armed, no such
completion has been stored since it became so. To arm it again never narrows what it waits for, and
widens it if asked to. So no queue has ever raised more events than it was armed with success. -/
theorem reachable_notifies {h : Host} {devices : List DeviceConfig} (hr : Reachable devices h) :
    (∀ id q channel, h.fabric.cqs.find? id = some q → q.channel = some channel →
      let tale := h.journal.toList.filter (·.tellsOf id)
      q.armed = waitingFor id tale ∧ Told id channel (q.event id) tale ∧
        (q.armed = some false →
          Since id false (· ≠ some false) (fun e => e.stored? id = none) tale) ∧
        (q.armed = some true →
          Since id true (· = none) (fun e => ∀ c solicited, e = .completed id c solicited true →
            solicited = false ∧ c.failed = false) tale) ∧
        (∀ c solicited, q.isFull = false →
          (∃ q', (h.complete id c solicited).fabric.cqs.find? id = some q' ∧
              q'.armed = if awaits q.armed c solicited then none else q.armed) ∧
            ((h.complete id c solicited).eventsSince h).filterMap (Event.raised? id) =
              if awaits q.armed c solicited then [(channel, q.event id)] else []) ∧
        ∀ solicitedOnly, ∃ k q', reqNotifyCq id solicitedOnly h = (.ok (), k) ∧
          k.fabric.cqs.find? id = some q' ∧
          q'.armed = if q.armed = some false then some false else some solicitedOnly) ∧
      (∀ id, (h.journal.toList.filterMap (Event.raised? id)).length ≤
        (h.journal.toList.filterMap (Event.armed? id)).length) ∧
      ∀ op id, ((h.perform op).eventsSince h).filterMap (Event.armed? id) =
        (h.armRequest id op).toList := by
  refine ⟨fun id q channel hq hchannel => ?_, hr.few_raised, perform_armed hr.sound⟩
  have hnotified := hr.notified id
  rw [Fabric.cqLife_of_live hq] at hnotified
  obtain ⟨harmed, htold, -⟩ := hnotified
  have htold := htold channel hchannel
  refine ⟨harmed, htold, fun hall => ?_, fun hsolicited => ?_,
    fun c solicited hroom => complete_raises hr.sound hq hchannel hroom c solicited,
    fun solicitedOnly => ?_⟩
  · exact htold.since_all (harmed ▸ hall)
  · exact htold.since_solicited (harmed ▸ hsolicited)
  · refine ⟨_, q.armedFor solicitedOnly, reqNotifyCq_of_bound hq hchannel solicitedOnly,
      by simp [Fabric.updateCq, hq], ?_⟩
    by_cases hall : q.armed = some false <;>
      simp [CompletionQueue.armedFor, CompletionQueue.arming, hall]

/-- Of two failed completions the first raises the event that was asked for. The queue is armed again
after the second. -/
theorem loopback_notifies :
    let h := (({} : Host).withDevices [{}]).performAll
      [.openDevice { native := 1, name := none }, .allocPd 2, .createChannel 2,
        .createCq 2 4 (some 4) 77 0,
        .createQp 3
          { sendCq := 5, recvCq := 5, srq := none, transport := .reliable, signalAll := true,
            caps := {} },
        .modifyQp 6 { state := QpState.error.code } .state, .reqNotifyCq 5 true,
        .reqNotifyCq 5 false, .postSend 6 [{ wrId := 1 }, { wrId := 2 }], .reqNotifyCq 5 true]
    let tale := h.journal.toList.filter (·.tellsOf 5)
    ∃ q, h.fabric.cqs.find? 5 = some q ∧ q.armed = some true ∧ Told 5 4 ⟨5, 77⟩ tale ∧
      Since 5 true (· = none) (fun e => ∀ c solicited, e = .completed 5 c solicited true →
        solicited = false ∧ c.failed = false) tale ∧
      h.journal.toList.filterMap (Event.raised? 5) = [(4, ⟨5, 77⟩)] ∧
      h.journal.toList.filterMap (Event.stored? 5) ≠ [] ∧
      h.journal.toList.filterMap (Event.armed? 5) = [true, false, true] := by
  intro h tale
  have hstate : (h.fabric.cqs.find? 5).map (fun q => (q.channel, q.armed, q.event 5)) =
      some (some 4, some true, ⟨5, 77⟩) := by decide +kernel
  obtain ⟨q, hq, hqueue⟩ := Option.map_eq_some_iff.1 hstate
  obtain ⟨hchannel, harmed, hevent⟩ : q.channel = some 4 ∧ q.armed = some true ∧
      q.event 5 = ⟨5, 77⟩ := by simpa using hqueue
  have hr : Reachable [{}] h := (Reachable.fresh {}).performAll _
  obtain ⟨hnotifies, -, -⟩ := reachable_notifies hr
  obtain ⟨-, htold, -, hsolicited, -⟩ := hnotifies 5 q 4 hq hchannel
  exact ⟨q, hq, harmed, hevent ▸ htold, hsolicited harmed, by decide +kernel, by decide +kernel,
    by decide +kernel⟩

end Host

end Rdma
