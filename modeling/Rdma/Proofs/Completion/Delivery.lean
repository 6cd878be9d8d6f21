import Rdma.Proofs.Host.Run

/-!
# What happens to completion queues and channels

The provider creates and destroys completion queues and channels, and hands completions over: those
are deliveries. A consumer polls, arms, fetches and acknowledges: those are demands. Each step is
labelled with what is written down of it. An operation of a consumer is one demand at most, and any
other operation is some deliveries.

* `complete_tells` — handing one completion over is one delivery;
* `Moves.tells` — the engine only delivers;
* `perform_delivers`, `perform_demands` — the operations;
* `Leads.deals`, `Reachable.deals` — the runs.
-/

namespace Rdma

open Fabric (CompletionQueue Channel)

/-! ## What steps do to queues and channels -/

/-- The descriptor after taking `n` tokens one by one, as far as it can be read. -/
def Descriptor.drained : Nat → Descriptor → Descriptor
  | 0, d => d
  | n + 1, d => if !d.readable then d else (d.take.map (drained n)).toOption.getD d

namespace Fabric

/-- The channel with one more event. Its descriptor gets a token if it takes one. -/
def Channel.raised (event : CqEvent) (c : Channel) : Channel :=
  { c with
    descriptor := c.descriptor.signal.toOption.getD c.descriptor
    pending := c.pending ++ [event] }

/-- The channel without the events of a completion queue, nor the tokens that went with them. -/
def Channel.rid (cq : NativeId) (c : Channel) : Channel :=
  let kept := c.pending.filter (·.cq ≠ cq)
  { c with
    descriptor := c.descriptor.drained (c.pending.length - kept.length)
    pending := kept }

/-- Change the channel, if there is one. -/
def updateChannel? (f : Fabric) (channel : Option NativeId) (change : Channel → Channel) : Fabric :=
  channel.elim f fun id => f.updateChannel id change

@[simp] theorem updateChannel?_cqs (f : Fabric) (channel : Option NativeId)
    (change : Channel → Channel) : (f.updateChannel? channel change).cqs = f.cqs := by
  cases channel <;> rfl

@[simp] theorem updateChannel?_nextId (f : Fabric) (channel : Option NativeId)
    (change : Channel → Channel) : (f.updateChannel? channel change).nextId = f.nextId := by
  cases channel <;> rfl

theorem updateChannel_eq_self {f : Fabric} {channel : NativeId} {change : Channel → Channel}
    (hsame : ∀ c, f.channels.find? channel = some c → change c = c) :
    f.updateChannel channel change = f := by
  simp only [updateChannel, Table.modify_eq_self hsame]

/-- Only the channel that is found is changed. -/
theorem updateChannel_of_find {f : Fabric} {channel : NativeId} {c : Channel}
    (hc : f.channels.find? channel = some c) {change change' : Channel → Channel}
    (hsame : change c = change' c) :
    f.updateChannel channel change = f.updateChannel channel change' := by
  have hcongr : f.channels.modify channel change = f.channels.modify channel change' := by
    refine Table.modify_congr fun c' hc' => ?_
    obtain rfl := Option.some.inj (hc.symm.trans hc')
    exact hsame
  simp only [updateChannel, hcongr]

theorem updateChannel_updateChannel (f : Fabric) (channel : NativeId)
    (change change' : Channel → Channel) :
    (f.updateChannel channel change).updateChannel channel change' =
      f.updateChannel channel (change' ∘ change) := by
  simp only [updateChannel, Table.modify_modify]

namespace CompletionQueue

/-- The event that the queue raises. -/
def event (id : NativeId) (q : CompletionQueue) : CqEvent := { cq := id, cookie := q.cookie }

def lost (q : CompletionQueue) : CompletionQueue := { q with overflowed := true }

def stored (c : Completion) (q : CompletionQueue) : CompletionQueue :=
  { q with entries := q.entries.push c }

def disarmed (q : CompletionQueue) : CompletionQueue := { q with armed := none }

def polled (n : Nat) (q : CompletionQueue) : CompletionQueue :=
  { q with entries := q.entries.drop n }

/-- What an armed queue waits for when it is armed once more. -/
def arming (armed : Option Bool) (solicitedOnly : Bool) : Option Bool :=
  some (armed ≠ some false && solicitedOnly)

def armedFor (solicitedOnly : Bool) (q : CompletionQueue) : CompletionQueue :=
  { q with armed := arming q.armed solicitedOnly }

def fetched (q : CompletionQueue) : CompletionQueue :=
  { q with unacknowledged := q.unacknowledged + 1 }

def acked (n : UInt32) (q : CompletionQueue) : CompletionQueue :=
  { q with unacknowledged := q.unacknowledged - min n q.unacknowledged }

/-- What is written down when the queue loses a completion. -/
def losing (id : NativeId) (c : Completion) (solicited : Bool) (q : CompletionQueue) : List Event :=
  .completed id c solicited false :: if q.overflowed then [] else [.overflowed id]

/-- What is written down when the queue stores a completion that it waits for. -/
def waking (id : NativeId) (c : Completion) (solicited : Bool) (q : CompletionQueue) :
    List Event :=
  .completed id c solicited true :: (q.channel.map (.eventRaised · (q.event id))).toList

end CompletionQueue

end Fabric

/-! ## Steps -/

/-- A step of the provider, with what is written down of completion queues. -/
inductive Delivery : Fabric → List Event → Fabric → Prop
  | aside {f g : Fabric} : g.cqs = f.cqs → g.channels = f.channels → f.nextId ≤ g.nextId →
      Delivery f [] g
  | addChannel {f g : Fabric} {c : Channel} : c.asCreated = c →
      f.channels.find? f.nextId = none → g.cqs = f.cqs →
      g.channels = f.channels.insert f.nextId c → g.nextId = f.nextId + 1 → Delivery f [] g
  | dropChannel {f g : Fabric} {channel : NativeId} :
      (∀ id q, f.cqs.find? id = some q → q.channel ≠ some channel) → g.cqs = f.cqs →
      g.channels = f.channels.erase channel → g.nextId = f.nextId → Delivery f [] g
  | addCq {f g : Fabric} {q : CompletionQueue} : q.asCreated = q → f.cqs.find? f.nextId = none →
      g.cqs = f.cqs.insert f.nextId q → g.channels = f.channels → g.nextId = f.nextId + 1 →
      Delivery f [] g
  | dropCq {f g : Fabric} {id : NativeId} {q : CompletionQueue} : f.cqs.find? id = some q →
      q.unacknowledged = 0 → id < f.nextId → g.cqs = f.cqs.erase id →
      g.channels = (f.updateChannel? q.channel (·.rid id)).channels → g.nextId = f.nextId →
      Delivery f [] g
  | lose {f : Fabric} {id : NativeId} {q : CompletionQueue} (c : Completion) (solicited : Bool) :
      f.cqs.find? id = some q → q.isFull = true →
      Delivery f (q.losing id c solicited) (f.updateCq id (·.lost))
  | store {f : Fabric} {id : NativeId} {q : CompletionQueue} (c : Completion) (solicited : Bool) :
      f.cqs.find? id = some q → q.isFull = false → q.wakes c solicited = false →
      Delivery f [.completed id c solicited true] (f.updateCq id (·.stored c))
  | wake {f : Fabric} {id : NativeId} {q : CompletionQueue} (c : Completion) (solicited : Bool) :
      f.cqs.find? id = some q → q.isFull = false → q.wakes c solicited = true →
      (∀ channel, q.channel = some channel → ∃ c, f.channels.find? channel = some c) →
      Delivery f (q.waking id c solicited)
        ((f.updateCq id fun q => (q.stored c).disarmed).updateChannel? q.channel
          (·.raised (q.event id)))

/-- A step that a consumer asks for, with what is written down of completion queues. -/
inductive Demand : Fabric → List Event → Fabric → Prop
  | poll {f : Fabric} {id : NativeId} {q : CompletionQueue} (n : Nat) : f.cqs.find? id = some q →
      q.overflowed = false → Demand f [.polled id (q.entries.take n)] (f.updateCq id (·.polled n))
  | arm {f : Fabric} {id : NativeId} {q : CompletionQueue} (solicitedOnly : Bool) :
      f.cqs.find? id = some q → q.channel.isSome →
      Demand f [.armed id solicitedOnly] (f.updateCq id (·.armedFor solicitedOnly))
  | fetch {f : Fabric} {channel : NativeId} {c : Channel} {descriptor : Descriptor}
      {event : CqEvent} {rest : List CqEvent} {q : CompletionQueue} :
      f.channels.find? channel = some c → c.descriptor.take = .ok descriptor →
      c.pending = event :: rest → f.cqs.find? event.cq = some q → q.channel = some channel →
      q.cookie = event.cookie →
      Demand f [.eventFetched channel event]
        ((f.updateChannel channel fun c => { c with descriptor, pending := rest }).updateCq
          event.cq (·.fetched))
  /-- A token without an event is lost. -/
  | loseToken {f : Fabric} {channel : NativeId} {c : Channel} {descriptor : Descriptor} :
      f.channels.find? channel = some c → c.descriptor.take = .ok descriptor → c.pending = [] →
      Demand f [] (f.updateChannel channel fun c => { c with descriptor })
  | ack {f : Fabric} (id : NativeId) (n : UInt32) : Demand f [] (f.updateCq id (·.acked n))
  | setDescriptor {f : Fabric} (channel : NativeId) (descriptor : Descriptor) :
      Demand f [] (f.updateChannel channel fun c => { c with descriptor })

/-- A step of either side. -/
inductive Dealing (f : Fabric) (es : List Event) (g : Fabric) : Prop
  | delivery : Delivery f es g → Dealing f es g
  | demand : Demand f es g → Dealing f es g

/-- Does the event tell of a completion queue? -/
def Event.ofQueues (e : Event) : Bool := e.cq?.isSome

namespace Host

open Fabric (Object)

variable {h k : Host} {step : Fabric → List Event → Fabric → Prop} {devices : List DeviceConfig}

/-- The way from one host to the other took steps of a kind, and what was written down of completion
queues tells which. -/
def Tells (step : Fabric → List Event → Fabric → Prop) (h k : Host) : Prop :=
  ∃ events, k.journal.toList = h.journal.toList ++ events ∧
    Trail step h.fabric (events.filter Event.ofQueues) k.fabric

theorem Tells.refl (h : Host) : h.Tells step h := ⟨[], (List.append_nil _).symm, .refl _⟩

theorem Tells.trans {g : Host} (hg : h.Tells step g) (hk : g.Tells step k) : h.Tells step k := by
  obtain ⟨events, hevents, htrail⟩ := hg
  obtain ⟨events', hevents', htrail'⟩ := hk
  refine ⟨events ++ events', by rw [hevents', hevents, List.append_assoc], ?_⟩
  rw [List.filter_append]
  exact htrail.trans htrail'

theorem Tells.mono {step' : Fabric → List Event → Fabric → Prop}
    (hle : ∀ f es g, step f es g → step' f es g) (hk : h.Tells step k) : h.Tells step' k := by
  obtain ⟨events, hevents, htrail⟩ := hk
  exact ⟨events, hevents, htrail.mono hle⟩

theorem Tells.single {events : List Event}
    (hevents : k.journal.toList = h.journal.toList ++ events)
    (hstep : step h.fabric (events.filter Event.ofQueues) k.fabric) : h.Tells step k :=
  ⟨events, hevents, .single hstep⟩

/-- Nothing was written down of completion queues on the way from one host to the other. -/
def Quiet (h k : Host) : Prop :=
  ∃ events, k.journal.toList = h.journal.toList ++ events ∧ events.filter Event.ofQueues = []

theorem Quiet.refl (h : Host) : h.Quiet h := ⟨[], (List.append_nil _).symm, rfl⟩

/-- Nothing happened to completion queues and channels. -/
theorem tells_aside (hcqs : k.fabric.cqs = h.fabric.cqs)
    (hchannels : k.fabric.channels = h.fabric.channels) (hnext : h.fabric.nextId ≤ k.fabric.nextId)
    (hjournal : k.journal = h.journal) : h.Tells Delivery k := by
  have hevents : k.journal.toList = h.journal.toList ++ [] := by rw [hjournal, List.append_nil]
  exact .single hevents (.aside hcqs hchannels hnext)

theorem tells_note (h : Host) {e : Event} (he : e.cq? = none) : h.Tells Delivery (h.note e) := by
  refine .single (Journal.toList_add _ _) ?_
  simp only [List.filter_cons, Event.ofQueues, he]
  exact .aside rfl rfl (Nat.le_refl _)

/-! ## Handing over -/

theorem raiseEvent_fabric (h : Host) (channel : NativeId) (event : CqEvent) :
    (h.raiseEvent channel event).fabric = h.fabric.updateChannel channel (·.raised event) := by
  unfold raiseEvent
  cases hc : h.fabric.channels.find? channel with
  | none => exact (Fabric.updateChannel_eq_self (by simp [hc])).symm
  | some c =>
      cases hsignal : c.descriptor.signal with
      | ok descriptor =>
          simp only [hsignal, note_fabric]
          exact Fabric.updateChannel_of_find hc (by simp [Channel.raised, hsignal, Except.toOption])
      | error cause =>
          simp only [hsignal, note_fabric]
          exact Fabric.updateChannel_of_find hc (by simp [Channel.raised, hsignal, Except.toOption])

/-- On a live channel an event is raised, even if no token can be added. -/
theorem raiseEvent_journal {channel : NativeId} {c : Channel}
    (hc : h.fabric.channels.find? channel = some c) (event : CqEvent) :
    ∃ events, (h.raiseEvent channel event).journal.toList =
        h.journal.toList ++ .eventRaised channel event :: events ∧
      events.filter Event.ofQueues = [] := by
  unfold raiseEvent
  simp only [hc]
  split
  case h_1 => exact ⟨[], by simp, rfl⟩
  case h_2 cause _ => exact ⟨[.signalFailed cause], by simp, rfl⟩

theorem loseCompletion_fabric (h : Host) (cq : NativeId) (q : CompletionQueue) (c : Completion)
    (solicited : Bool) :
    (h.loseCompletion cq q c solicited).fabric = h.fabric.updateCq cq (·.lost) := by
  unfold loseCompletion
  split <;> rfl

theorem loseCompletion_journal (h : Host) (cq : NativeId) (q : CompletionQueue) (c : Completion)
    (solicited : Bool) : (h.loseCompletion cq q c solicited).journal.toList =
      h.journal.toList ++ q.losing cq c solicited := by
  cases hover : q.overflowed <;> simp [loseCompletion, CompletionQueue.losing, hover]

theorem losing_ofQueues (cq : NativeId) (q : CompletionQueue) (c : Completion)
    (solicited : Bool) :
    (q.losing cq c solicited).filter Event.ofQueues = q.losing cq c solicited := by
  cases hover : q.overflowed <;> simp [CompletionQueue.losing, hover, Event.ofQueues, Event.cq?]

theorem waking_ofQueues (cq : NativeId) (q : CompletionQueue) (c : Completion)
    (solicited : Bool) :
    (q.waking cq c solicited).filter Event.ofQueues = q.waking cq c solicited := by
  cases hc : q.channel <;> simp [CompletionQueue.waking, hc, Event.ofQueues, Event.cq?]

theorem wake_fabric (h : Host) (cq : NativeId) (q : CompletionQueue) :
    (h.wake cq q).fabric = (h.fabric.updateCq cq (·.disarmed)).updateChannel? q.channel
      (·.raised (q.event cq)) := by
  unfold wake
  cases q.channel with
  | none => rfl
  | some channel => exact raiseEvent_fabric _ channel (q.event cq)

/-- A queue that waits for a completion stores it, and raises its event if its channel is live. -/
theorem wake_journal {cq : NativeId} {q : CompletionQueue}
    (hlive : ∀ channel, q.channel = some channel → ∃ c, h.fabric.channels.find? channel = some c)
    (c : Completion) (solicited : Bool) :
    ∃ events, ((h.storeCompletion cq c solicited).wake cq q).journal.toList =
        h.journal.toList ++ (q.waking cq c solicited ++ events) ∧
      events.filter Event.ofQueues = [] := by
  have hstored : (h.storeCompletion cq c solicited).journal.toList =
      h.journal.toList ++ [.completed cq c solicited true] := Journal.toList_add _ _
  unfold wake CompletionQueue.waking
  cases hchannel : q.channel with
  | none => exact ⟨[], by simp [hstored], rfl⟩
  | some channel =>
      obtain ⟨ch, hch⟩ := hlive channel hchannel
      obtain ⟨events, hraised, hnone⟩ := raiseEvent_journal
        (h := (h.storeCompletion cq c solicited).updateCq cq (·.disarmed)) hch (q.event cq)
      refine ⟨events, ?_, hnone⟩
      refine hraised.trans ?_
      simp [hstored]

theorem Sound.channel_of_cq (hh : h.Sound) {cq : NativeId} {q : CompletionQueue}
    (hq : h.fabric.cqs.find? cq = some q) (channel : NativeId)
    (hchannel : q.channel = some channel) : ∃ c, h.fabric.channels.find? channel = some c := by
  obtain ⟨c, hc, -⟩ := (hh.fabric.intact.cqs cq q hq).2 channel hchannel
  exact ⟨c, hc⟩

/-- Handing a completion over is one delivery. -/
theorem complete_tells (hh : h.Sound) {cq : NativeId} {q : CompletionQueue}
    (hq : h.fabric.cqs.find? cq = some q) (c : Completion) (solicited : Bool) :
    h.Tells Delivery (h.complete cq c solicited) := by
  unfold complete
  simp only [hq]
  cases hfull : q.isFull with
  | true =>
      refine .single (loseCompletion_journal h cq q c solicited) ?_
      rw [losing_ofQueues, if_pos rfl, loseCompletion_fabric]
      exact .lose c solicited hq hfull
  | false =>
      cases hwakes : q.wakes c solicited with
      | false => exact .single (Journal.toList_add _ _) (.store c solicited hq hfull hwakes)
      | true =>
          have hlive := hh.channel_of_cq hq
          obtain ⟨events, hjournal, hevents⟩ := wake_journal (q := q) hlive c solicited
          have hfabric : ((h.storeCompletion cq c solicited).wake cq q).fabric =
              (h.fabric.updateCq cq fun q => (q.stored c).disarmed).updateChannel? q.channel
                (·.raised (q.event cq)) := by
            rw [wake_fabric]
            simp only [storeCompletion, updateCq_fabric, note_fabric, Fabric.updateCq,
              Table.modify_modify]
            rfl
          refine .single hjournal ?_
          simp only [List.filter_append, waking_ofQueues, hevents, List.append_nil]
          exact hfabric ▸ .wake c solicited hq hfull hwakes hlive

/-! ## The engine -/

theorem Motion.tells (hm : h.Motion k) (hh : h.Sound) : h.Tells Delivery k := by
  cases hm with
  | note he => exact h.tells_note he.cq_eq_none
  | store | updateQp => exact tells_aside rfl rfl (Nat.le_refl _) rfl
  | setRecv requests queue => cases queue <;> exact tells_aside rfl rfl (Nat.le_refl _) rfl
  | complete solicited hcq _ =>
      obtain ⟨q, hq⟩ := hh.cq_of_completesInto hcq
      exact complete_tells hh hq _ solicited

/-- The engine delivers. -/
theorem Moves.tells (hm : h.Moves k) (hh : h.Sound) : h.Tells Delivery k := by
  induction hm with
  | refl => exact .refl h
  | tail hbefore hlast ih => exact ih.trans (hlast.tells (Moves.sound hbefore hh))

theorem Ran.tells (hr : h.Ran k) (hh : h.Sound) : h.Tells Delivery k := by
  cases hr with
  | refused => exact .refl h
  | noted he => exact h.tells_note he.cq_eq_none
  | @ran g _ hg hm _ =>
      have hnext : h.fabric.nextId = g.fabric.nextId :=
        congrArg (·.nextId) hg.skeleton.symm
      have haside : h.Tells Delivery g :=
        tells_aside hg.cqs hg.channels (Nat.le_of_eq hnext) hg.journal
      have hsound := hh.of_frame hg.skeleton hg.cqs hg.channels hg.journal
      exact haside.trans (Moves.tells hm hsound)

/-! ## Creating and destroying -/

theorem Created.tells {α : Type} {describes : α → NativeId → Object → Prop}
    {result : Except OsError α × Host} (hc : h.Created describes result) (hh : h.Sound) :
    h.Tells Delivery result.2 := by
  cases hc with
  | refused => exact .refl h
  | made o nextKey nextQpNumber _ hnew _ _ _ =>
      have hevents : h.journal.toList = h.journal.toList ++ [] := (List.append_nil _).symm
      have hfree (kind : ResourceKind) := hh.fabric.next_free kind
      cases o with
      | channel c =>
          have hnone := Option.map_eq_none_iff.1 (hfree .completionChannel)
          exact .single hevents (.addChannel hnew hnone rfl rfl rfl)
      | cq q =>
          have hnone := Option.map_eq_none_iff.1 (hfree .completionQueue)
          exact .single hevents (.addCq hnew hnone rfl rfl rfl)
      | context | pd | region | srq | qp => exact tells_aside rfl rfl (Nat.le_succ _) rfl

/-- Tokens are taken one by one, and what stops that is written down. -/
theorem drainTokens_drained (h : Host) (channel : NativeId) (n : Nat) :
    h.Quiet (drainTokens channel n h) ∧
      (drainTokens channel n h).fabric = h.fabric.updateChannel channel fun c =>
        { c with descriptor := c.descriptor.drained n } := by
  induction n generalizing h with
  | zero => exact ⟨.refl h, (Fabric.updateChannel_eq_self fun _ _ => rfl).symm⟩
  | succ n ih =>
      simp only [drainTokens]
      cases hc : h.fabric.channels.find? channel with
      | none => exact ⟨.refl h, (Fabric.updateChannel_eq_self (by simp [hc])).symm⟩
      | some c =>
          have hstops (hstop : c.descriptor.drained (n + 1) = c.descriptor) :
              h.fabric = h.fabric.updateChannel channel fun c =>
                { c with descriptor := c.descriptor.drained (n + 1) } := by
            refine (Fabric.updateChannel_eq_self fun c' hc' => ?_).symm
            obtain rfl := Option.some.inj (hc.symm.trans hc')
            rw [hstop]
          cases hreadable : c.descriptor.readable with
          | false =>
              simp only [hreadable]
              exact ⟨.refl h, hstops (by simp [Descriptor.drained, hreadable])⟩
          | true =>
              cases htake : c.descriptor.take with
              | error cause =>
                  simp only [hreadable, htake]
                  refine ⟨⟨[.drainFailed cause], Journal.toList_add _ _, rfl⟩, hstops ?_⟩
                  simp [Descriptor.drained, hreadable, htake, Except.toOption, Except.map]
              | ok descriptor =>
                  obtain ⟨hquiet, hfabric⟩ := ih (h.setDescriptor channel descriptor)
                  simp only [hreadable, htake]
                  refine ⟨hquiet, hfabric.trans ?_⟩
                  rw [setDescriptor, Fabric.updateChannel_updateChannel]
                  refine Fabric.updateChannel_of_find hc ?_
                  simp [Descriptor.drained, hreadable, htake, Except.toOption, Except.map]

theorem withoutEvents_rid (h : Host) (id : NativeId) (channel : Option NativeId) :
    h.Quiet (h.withoutEvents id channel) ∧
      (h.withoutEvents id channel).fabric = h.fabric.updateChannel? channel (·.rid id) := by
  cases channel with
  | none => exact ⟨.refl h, rfl⟩
  | some channel =>
      simp only [withoutEvents, dropEvents, Fabric.updateChannel?, Option.elim_some]
      cases hc : h.fabric.channels.find? channel with
      | none => exact ⟨.refl h, (Fabric.updateChannel_eq_self (by simp [hc])).symm⟩
      | some c =>
          obtain ⟨hquiet, hfabric⟩ := drainTokens_drained
            { h with fabric := h.fabric.updateChannel channel fun c' =>
              { c' with pending := c.pending.filter (·.cq ≠ id) } } channel
            (c.pending.length - (c.pending.filter (·.cq ≠ id)).length)
          refine ⟨hquiet, hfabric.trans ?_⟩
          rw [Fabric.updateChannel_updateChannel]
          exact Fabric.updateChannel_of_find hc rfl

/-- A completion queue goes with its pending events; without a queue pair the engine runs on. -/
theorem Dismissed.tells {o : Object} {id : NativeId} (hd : h.Dismissed id o k)
    (ho : h.fabric.object? o.kind id = some o) (hunused : ¬ h.fabric.InUse o.kind id)
    (hh : h.Sound) : h.Tells Delivery k := by
  cases hd with
  | plain hcq hqp =>
      have hevents : h.journal.toList = h.journal.toList ++ [] := (List.append_nil _).symm
      cases o with
      | channel c =>
          refine .single hevents (.dropChannel (fun id' q hq hchannel => hunused (.inl ?_)) rfl rfl
            rfl)
          exact ⟨.completionQueue, id', .cq q.asCreated, by simp [Fabric.object?, hq],
            by simp [Object.references, CompletionQueue.asCreated, hchannel, Object.kind]⟩
      | cq => exact absurd rfl hcq
      | qp => exact absurd rfl hqp
      | context | pd | region | srq => exact tells_aside rfl rfl (Nat.le_refl _) rfl
  | cq q hq =>
      obtain ⟨⟨events, hjournal, hevents⟩, hfabric⟩ := h.withoutEvents_rid id q.channel
      refine .single (k := (h.withoutEvents id q.channel).without id (.cq q.asCreated)) hjournal ?_
      rw [hevents]
      have hacked : q.unacknowledged = 0 := Decidable.byContradiction fun hne =>
        hunused (.inr ⟨rfl, q, hq, UInt32.pos_iff_ne_zero.2 hne⟩)
      refine .dropCq hq hacked (hh.fabric.below ho).2 ?_ ?_ ?_ <;>
        simp [without, Fabric.drop, hfabric]
  | qp q hq =>
      have hleft := hh.withoutQp hq
      have hnoted := hleft.note (e := .queuesCleared id) trivial
      have haside : h.Tells Delivery (h.without id (.qp q.cleared)) :=
        tells_aside rfl rfl (Nat.le_refl _) rfl
      exact (haside.trans (tells_note _ rfl)).trans (Moves.tells (progress_moves _) hnoted)

theorem Destroyed.tells {kind : ResourceKind} {id : NativeId}
    {result : Except OsError Unit × Host} (hd : h.Destroyed kind id result) (hh : h.Sound) :
    h.Tells Delivery result.2 := by
  cases hd with
  | absent | inUse => exact .refl h
  | removed ho hunused hdismissed =>
      obtain rfl := Fabric.object?_kind ho
      exact hdismissed.tells ho hunused hh

/-! ## Demands -/

theorem pollCq_of_absent {id : NativeId} (hnone : h.fabric.cqs.find? id = none) (n : Nat) :
    pollCq id n h = (.error .invalid, h) := by
  simp only [pollCq, Step.guarded, hnone]

/-- A queue that lost a completion yields none. -/
theorem pollCq_of_overflowed {id : NativeId} {q : CompletionQueue}
    (hq : h.fabric.cqs.find? id = some q) (hover : q.overflowed = true) (n : Nat) :
    pollCq id n h = (.error (.code .overflow), h) := by
  simp only [pollCq, Step.guarded, hq, hover, if_true]

/-- A queue that lost none yields the oldest. -/
theorem pollCq_of_kept {id : NativeId} {q : CompletionQueue} (hq : h.fabric.cqs.find? id = some q)
    (hover : q.overflowed = false) (n : Nat) :
    pollCq id n h = (.ok (q.entries.take n),
      (h.updateCq id (·.polled n)).note (.polled id (q.entries.take n))) := by
  simp only [pollCq, Step.guarded, hq, hover]
  rfl

theorem pollCq_tells (h : Host) (id : NativeId) (n : Nat) : h.Tells Demand (pollCq id n h).2 := by
  cases hq : h.fabric.cqs.find? id with
  | none => rw [pollCq_of_absent hq]; exact .refl h
  | some q =>
      cases hover : q.overflowed with
      | true => rw [pollCq_of_overflowed hq hover]; exact .refl h
      | false =>
          rw [pollCq_of_kept hq hover]
          exact .single (Journal.toList_add _ _) (.poll n hq hover)

theorem reqNotifyCq_tells (h : Host) (id : NativeId) (solicitedOnly : Bool) :
    h.Tells Demand (reqNotifyCq id solicitedOnly h).2 := by
  refine Step.guarded_cases (P := fun r : Except OsError Unit × Host => h.Tells Demand r.2)
    (fun _ _ => .refl h) fun _ hcheck => ?_
  cases hq : h.fabric.cqs.find? id with
  | none => simp [hq] at hcheck
  | some q =>
      have hchannel : q.channel.isSome := by
        cases hc : q.channel with
        | none => simp [hq, hc] at hcheck
        | some channel => rfl
      exact .single (Journal.toList_add _ _) (.arm solicitedOnly hq hchannel)

/-- Fetching takes the token first: without one nothing happens, and without an event it is lost. -/
theorem getCqEvent_tells (hh : h.Sound) (channel : NativeId) :
    h.Tells Demand (getCqEvent channel h).2 := by
  have hnothing : h.journal.toList = h.journal.toList ++ [] := (List.append_nil _).symm
  unfold getCqEvent
  cases hc : h.fabric.channels.find? channel with
  | none => exact .refl h
  | some c =>
      simp only
      cases htake : c.descriptor.take with
      | error cause => exact .refl h
      | ok descriptor =>
          simp only
          cases hpending : c.pending with
          | nil => exact .single hnothing (.loseToken hc htake hpending)
          | cons event rest =>
              obtain ⟨_, ho, hchannel, hcookie⟩ := hh.pending hc event (by simp [hpending])
              obtain ⟨q, hq, ⟨⟩⟩ := Option.map_eq_some_iff.1 ho
              exact .single (Journal.toList_add _ _)
                (.fetch hc htake hpending hq hchannel hcookie)

theorem ackCqEvents_tells (h : Host) (id : NativeId) (n : UInt32) :
    h.Tells Demand (ackCqEvents id n h) :=
  .single (List.append_nil _).symm (.ack id n)

theorem setDescriptor_tells (h : Host) (channel : NativeId) (descriptor : Descriptor) :
    h.Tells Demand (h.setDescriptor channel descriptor) :=
  .single (List.append_nil _).symm (.setDescriptor channel descriptor)

/-! ## Operations -/

/-- Is the operation one that a consumer of completions asks for? -/
def Operation.demands : Operation → Bool
  | .pollCq .. | .reqNotifyCq .. | .getCqEvent _ | .ackCqEvents .. | .setDescriptor .. => true
  | _ => false

/-- All operations but those of consumers deliver only. -/
theorem perform_delivers (hh : h.Sound) {op : Operation} (hop : op.demands = false) :
    h.Tells Delivery (h.perform op) := by
  cases op with
  | pollCq | reqNotifyCq | getCqEvent | ackCqEvents | setDescriptor => cases hop
  | openDevice device => exact (h.openDevice_created device).tells hh
  | closeDevice ctx => exact (h.closeDevice_destroyed ctx).tells hh
  | allocPd ctx => exact (h.allocPd_created ctx).tells hh
  | deallocPd pd => exact (h.deallocPd_destroyed pd).tells hh
  | regMr pd addr length permission => exact (h.regMr_created pd addr length permission).tells hh
  | deregMr mr => exact (h.deregMr_destroyed mr).tells hh
  | createChannel ctx => exact (h.createChannel_created ctx).tells hh
  | destroyChannel channel => exact (h.destroyChannel_destroyed channel).tells hh
  | createCq ctx depth channel cookie vector =>
      exact (h.createCq_created ctx depth channel cookie vector).tells hh
  | destroyCq cq => exact (h.destroyCq_destroyed cq).tells hh
  | createSrq pd init => exact (h.createSrq_created pd init).tells hh
  | destroySrq srq => exact (h.destroySrq_destroyed srq).tells hh
  | postSrqRecv srq requests => exact (h.postSrqRecv_ran srq requests).tells hh
  | createQp pd init => exact (h.createQp_created pd init).tells hh
  | modifyQp qp attributes mask => exact (h.modifyQp_ran qp attributes mask).tells hh
  | destroyQp qp => exact (h.destroyQp_destroyed qp).tells hh
  | postSend qp requests => exact (h.postSend_ran qp requests).tells hh
  | postRecv qp requests => exact (h.postRecv_ran qp requests).tells hh
  | plug device =>
      exact (h.tells_note rfl).trans (tells_aside rfl rfl (Nat.le_succ _) rfl)
  | unplug name => exact (h.tells_note rfl).trans (tells_aside rfl rfl (Nat.le_refl _) rfl)
  | deviceList | queryDevice | queryPort | queryGid | channelDescriptor | queryQpState
  | setMemory | setDescriptorsLeft => exact tells_aside rfl rfl (Nat.le_refl _) rfl

theorem perform_demands (hh : h.Sound) {op : Operation} (hop : op.demands = true) :
    h.Tells Demand (h.perform op) := by
  cases op with
  | pollCq cq n => exact h.pollCq_tells cq n
  | reqNotifyCq cq solicitedOnly => exact h.reqNotifyCq_tells cq solicitedOnly
  | getCqEvent channel => exact getCqEvent_tells hh channel
  | ackCqEvents cq n => exact h.ackCqEvents_tells cq n
  | setDescriptor channel descriptor => exact h.setDescriptor_tells channel descriptor
  | _ => cases hop

/-- Every operation is some steps of either side. -/
theorem perform_deals (hh : h.Sound) (op : Operation) : h.Tells Dealing (h.perform op) := by
  cases hop : op.demands with
  | false => exact (perform_delivers hh hop).mono fun _ _ _ => .delivery
  | true => exact (perform_demands hh hop).mono fun _ _ _ => .demand

/-! ## Runs -/

/-- The events since then tell of the steps taken since then. -/
theorem Tells.since (hk : h.Tells step k) :
    Trail step h.fabric ((k.eventsSince h).filter Event.ofQueues) k.fabric := by
  obtain ⟨events, hevents, htrail⟩ := hk
  rwa [eventsSince_eq hevents]

theorem cq_of_handleLayer {e : Event} (he : e.ofHandleLayer) : e.cq? = none := by
  cases e <;> first | rfl | cases he

/-- A run is some steps of either side. -/
theorem Leads.deals (hk : h.Leads k) (hr : Reachable devices h) : h.Tells Dealing k := by
  induction hk with
  | refl => exact .refl h
  | perform op hk ih => exact ih.trans (perform_deals (hk.reachable hr).sound op)
  | @note k e he hk ih =>
      exact ih.trans ((k.tells_note (cq_of_handleLayer he)).mono fun _ _ _ => .delivery)

/-- A fresh host has neither completion queues nor channels. -/
theorem fresh_tells (memory : Memory) (devices : List DeviceConfig) :
    ({ memory } : Host).Tells Delivery (({ memory } : Host).withDevices devices) := by
  obtain ⟨events, hevents, honly⟩ := noteInvalidMtus_journal { memory } devices
  have hnone : events.filter Event.ofQueues = [] := by
    rw [List.filter_eq_nil_iff]
    intro e he
    obtain ⟨name, mtu, rfl⟩ := honly e he
    simp [Event.ofQueues, Event.cq?]
  have hstarted : 1 ≤ (Fabric.ofDevices devices).nextId :=
    (Fabric.ofDevices_sound devices).started
  obtain ⟨attached, nextId, hfabric⟩ := Fabric.ofDevices_eq devices
  refine .single (k := ({ memory } : Host).withDevices devices) hevents ?_
  rw [hnone]
  exact .aside (by simp only [withDevices, hfabric]) (by simp only [withDevices, hfabric]) hstarted

/-- All that is written down of completion queues tells of the steps that led to a reachable host
from nothing. -/
theorem Reachable.deals (hr : Reachable devices h) :
    Trail Dealing {} (h.journal.toList.filter Event.ofQueues) h.fabric := by
  have hall : ∃ memory : Memory, ({ memory } : Host).Tells Dealing h := by
    induction hr with
    | fresh memory => exact ⟨memory, (fresh_tells memory devices).mono fun _ _ _ => .delivery⟩
    | perform op hr ih =>
        obtain ⟨memory, hbefore⟩ := ih
        exact ⟨memory, hbefore.trans (perform_deals hr.sound op)⟩
    | @note h e he hr ih =>
        obtain ⟨memory, hbefore⟩ := ih
        have hnoted := (h.tells_note (cq_of_handleLayer he)).mono fun _ _ _ => Dealing.delivery
        exact ⟨memory, hbefore.trans hnoted⟩
  obtain ⟨memory, events, hevents, htrail⟩ := hall
  have hnone : ({ memory } : Host).journal.toList = [] := rfl
  rw [hnone, List.nil_append] at hevents
  rwa [hevents]

end Host

end Rdma
