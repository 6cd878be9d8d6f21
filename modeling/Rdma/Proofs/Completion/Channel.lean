import Rdma.Proofs.Completion.Life

/-!
# The history of a channel

What was raised on a channel is what was fetched from it and what waits, in order, but for events of
completion queues that are gone: those that were not fetched went with their queue.

* `Channel.Accounts` — the account of a channel that the journal gives;
* `Dealing.accounts`, `Trail.accounts` — a step of either side keeps the accounts of all channels,
  and so do steps in a row;
* `Host.Reachable.accounts` — the account holds on every reachable host.
-/

namespace Rdma

open Fabric (CompletionQueue Channel)

variable {es events : List Event} {id : NativeId}

/-! ## Reading the journal -/

namespace Event

/-- An event that was raised on the channel. -/
def raisedOn? (channel : NativeId) : Event → Option CqEvent
  | .eventRaised channel' event => if channel' = channel then some event else none
  | _ => none

/-- An event that was fetched from the channel. -/
def fetchedOn? (channel : NativeId) : Event → Option CqEvent
  | .eventFetched channel' event => if channel' = channel then some event else none
  | _ => none

/-- The channel and the completion queue that the event tells of have identities below a bound, if
it tells of both. -/
def Below (bound : NativeId) : Event → Prop
  | .eventRaised channel event | .eventFetched channel event => channel < bound ∧ event.cq < bound
  | _ => True

theorem Below.mono {bound bound' : NativeId} (hle : bound ≤ bound') {e : Event}
    (he : e.Below bound) : e.Below bound' := by
  cases e <;> first
    | trivial
    | exact ⟨Nat.lt_of_lt_of_le he.1 hle, Nat.lt_of_lt_of_le he.2 hle⟩

/-- Is the event about a channel? -/
def ofChannels : Event → Bool
  | .eventRaised .. | .eventFetched .. => true
  | _ => false

theorem Below.of_not {bound : NativeId} {e : Event} (he : e.ofChannels = false) : e.Below bound := by
  cases e <;> trivial

theorem raisedOn?_of_not {e : Event} (he : e.ofChannels = false) : e.raisedOn? id = none := by
  cases e <;> first | rfl | cases he

theorem fetchedOn?_of_not {e : Event} (he : e.ofChannels = false) : e.fetchedOn? id = none := by
  cases e <;> first | rfl | cases he

theorem ofChannels_of_other {e : Event} (he : e.ofQueues = false) : e.ofChannels = false := by
  cases e <;> first | rfl | cases he

end Event

/-- What is read of channels is not read off the events that tell of no queue. -/
theorem filterMap_ofQueues {α : Type} {p : Event → Option α}
    (hp : ∀ e : Event, e.ofChannels = false → p e = none) (events : List Event) :
    (events.filter Event.ofQueues).filterMap p = events.filterMap p := by
  rw [List.filterMap_filter]
  refine List.filterMap_congr fun e _ => ?_
  cases hqueues : e.ofQueues with
  | false => simp [hp e (Event.ofChannels_of_other hqueues)]
  | true => simp

/-! ## The history of a channel -/

/-- What was raised on a channel is what was fetched from it and what waits, in order, but for
events of completion queues that are gone. -/
structure Fabric.Channel.Accounts (c : Channel) (cqs : Table NativeId CompletionQueue)
    (channel : NativeId) (events : List Event) : Prop where
  /-- Nothing is fetched or waits that was not raised. -/
  sublist : (events.filterMap (Event.fetchedOn? channel) ++ c.pending).Sublist
    (events.filterMap (Event.raisedOn? channel))
  /-- No event of a completion queue that is there went astray. -/
  live : (events.filterMap (Event.raisedOn? channel)).filter (fun e => cqs.contains e.cq) =
    (events.filterMap (Event.fetchedOn? channel) ++ c.pending).filter fun e => cqs.contains e.cq

/-- The history of all channels. -/
structure Fabric.Accounts (f : Fabric) (events : List Event) : Prop where
  below : ∀ e ∈ events, e.Below f.nextId
  cqBelow : ∀ id, f.cqs.contains id = true → id < f.nextId
  channelBelow : ∀ id, f.channels.contains id = true → id < f.nextId
  channels : ∀ id c, f.channels.find? id = some c → c.Accounts f.cqs id events

namespace Fabric

variable {f g : Fabric} {c c' : Channel} {cqs cqs' : Table NativeId CompletionQueue}

theorem contains_updateCq (f : Fabric) (id id' : NativeId)
    (change : CompletionQueue → CompletionQueue) :
    (f.updateCq id change).cqs.contains id' = f.cqs.contains id' := by
  simp only [Table.contains, updateCq, Table.find?_modify]
  split
  case isTrue hid => rw [hid, Option.isSome_map]
  case isFalse => rfl

/-- A channel that nothing happens to goes on with the account it has, if the queues it told of are
still there, or still gone. -/
theorem Channel.Accounts.frame (h : c.Accounts cqs id events) (hpending : c'.pending = c.pending)
    (hes : ∀ e ∈ es, e.ofChannels = false)
    (hcqs : ∀ e ∈ events.filterMap (Event.raisedOn? id), cqs'.contains e.cq = cqs.contains e.cq) :
    c'.Accounts cqs' id (events ++ es) := by
  have hraised : es.filterMap (Event.raisedOn? id) = [] :=
    List.filterMap_eq_nil_iff.2 fun e he => Event.raisedOn?_of_not (hes e he)
  have hfetched : es.filterMap (Event.fetchedOn? id) = [] :=
    List.filterMap_eq_nil_iff.2 fun e he => Event.fetchedOn?_of_not (hes e he)
  obtain ⟨hsublist, hlive⟩ := h
  constructor <;>
    simp only [List.filterMap_append, hraised, hfetched, List.append_nil, hpending]
  case sublist => exact hsublist
  case live =>
    rw [List.filter_congr hcqs, hlive]
    exact (List.filter_congr fun e he => hcqs e (hsublist.subset he)).symm

theorem Accounts.cq_below (h : f.Accounts events) {e : CqEvent}
    (he : e ∈ events.filterMap (Event.raisedOn? id)) : e.cq < f.nextId := by
  obtain ⟨e', he', hraised⟩ := List.mem_filterMap.1 he
  have hbelow := h.below e' he'
  cases e' <;> simp only [Event.raisedOn?, reduceCtorEq] at hraised
  case eventRaised channel event =>
    split at hraised <;> cases hraised
    exact hbelow.2

/-- Nothing was raised on a channel, or fetched from it, before it was there. -/
theorem Accounts.unborn (h : f.Accounts events) :
    events.filterMap (Event.raisedOn? f.nextId) = [] ∧
      events.filterMap (Event.fetchedOn? f.nextId) = [] := by
  constructor <;>
  · refine List.filterMap_eq_nil_iff.2 fun e he => ?_
    have hbelow := h.below e he
    cases e <;> first
      | rfl
      | exact if_neg (Nat.ne_of_lt hbelow.1)

/-- Queues and channels that stay, and no event raised or fetched. -/
theorem Accounts.frame (h : f.Accounts events)
    (hchannels : ∀ id c', g.channels.find? id = some c' →
      ∃ c, f.channels.find? id = some c ∧ c'.pending = c.pending)
    (hcqs : ∀ id, g.cqs.contains id = f.cqs.contains id) (hnext : f.nextId ≤ g.nextId)
    (hes : ∀ e ∈ es, e.ofChannels = false) : g.Accounts (events ++ es) := by
  constructor
  case below =>
    intro e he
    rcases List.mem_append.1 he with he | he
    · exact (h.below e he).mono hnext
    · exact .of_not (hes e he)
  case cqBelow => exact fun id hid => Nat.lt_of_lt_of_le (h.cqBelow id (hcqs id ▸ hid)) hnext
  case channelBelow =>
    intro id hid
    obtain ⟨c', hc'⟩ := Table.contains_iff.1 hid
    obtain ⟨c, hc, -⟩ := hchannels id c' hc'
    exact Nat.lt_of_lt_of_le (h.channelBelow id (Table.contains_iff.2 ⟨c, hc⟩)) hnext
  case channels =>
    intro id c' hc'
    obtain ⟨c, hc, hpending⟩ := hchannels id c' hc'
    exact (h.channels id c hc).frame hpending hes fun e _ => hcqs e.cq

theorem updateChannel_pending {channel : NativeId} {change : Channel → Channel} {id : NativeId}
    (hc' : (f.updateChannel channel change).channels.find? id = some c')
    (hkeep : ∀ c, (change c).pending = c.pending) :
    ∃ c, f.channels.find? id = some c ∧ c'.pending = c.pending := by
  rcases Table.modified hc' with ⟨hid, c, hc, rfl⟩ | hc'
  · exact ⟨c, hid ▸ hc, hkeep c⟩
  · exact ⟨c', hc', rfl⟩

/-- Another channel, on which nothing was raised before. -/
theorem Accounts.addChannel (h : f.Accounts events) (hnew : c.asCreated = c)
    (hcqs : g.cqs = f.cqs) (hchannels : g.channels = f.channels.insert f.nextId c)
    (hnext : g.nextId = f.nextId + 1) : g.Accounts (events ++ []) := by
  rw [List.append_nil]
  constructor
  case below => exact fun e he => (h.below e he).mono (hnext ▸ Nat.le_succ _)
  case cqBelow =>
    intro id hid
    rw [hcqs] at hid
    exact hnext ▸ Nat.lt_succ_of_lt (h.cqBelow id hid)
  case channelBelow =>
    intro id hid
    simp only [Table.contains, hchannels, Table.find?_insert] at hid
    split at hid
    case isTrue hsame => exact hnext ▸ hsame ▸ Nat.lt_succ_self _
    case isFalse => exact hnext ▸ Nat.lt_succ_of_lt (h.channelBelow id hid)
  case channels =>
    intro id c' hc'
    rw [hchannels, Table.find?_insert] at hc'
    rw [hcqs]
    split at hc'
    case isTrue hid =>
      obtain rfl := Option.some.inj hc'
      obtain ⟨hraised, hfetched⟩ := h.unborn
      have hpending : c.pending = [] := by rw [← hnew]; rfl
      subst hid
      constructor <;> rw [hraised, hfetched, hpending] <;> rfl
    case isFalse => exact h.channels id c' hc'

/-- Another completion queue, of which no event was raised before. -/
theorem Accounts.addCq (h : f.Accounts events) {q : CompletionQueue}
    (hcqs : g.cqs = f.cqs.insert f.nextId q) (hchannels : g.channels = f.channels)
    (hnext : g.nextId = f.nextId + 1) : g.Accounts (events ++ []) := by
  constructor
  case below =>
    rw [List.append_nil]
    exact fun e he => (h.below e he).mono (hnext ▸ Nat.le_succ _)
  case cqBelow =>
    intro id hid
    simp only [Table.contains, hcqs, Table.find?_insert] at hid
    split at hid
    case isTrue hsame => exact hnext ▸ hsame ▸ Nat.lt_succ_self _
    case isFalse => exact hnext ▸ Nat.lt_succ_of_lt (h.cqBelow id hid)
  case channelBelow =>
    intro id hid
    rw [hchannels] at hid
    exact hnext ▸ Nat.lt_succ_of_lt (h.channelBelow id hid)
  case channels =>
    intro id c hc
    rw [hchannels] at hc
    refine (h.channels id c hc).frame rfl (List.forall_mem_nil _) fun e he => ?_
    have hold : e.cq ≠ f.nextId := Nat.ne_of_lt (h.cq_below he)
    simp [Table.contains, hcqs, hold]

/-- A completion queue that is gone takes the events with it that were not fetched. -/
theorem Accounts.dropCq (h : f.Accounts events) {cq : NativeId} {channel : Option NativeId}
    (hcqs : g.cqs = f.cqs.erase cq)
    (hchannels : g.channels = (f.updateChannel? channel (·.rid cq)).channels)
    (hnext : g.nextId = f.nextId) : g.Accounts (events ++ []) := by
  have hgone (id : NativeId) : g.cqs.contains id = (f.cqs.contains id && id ≠ cq) := by
    simp only [Table.contains, hcqs, Table.find?_erase]
    split <;> simp [*]
  -- no channel has lost other events than those of the queue
  have hsame (id : NativeId) (c' : Channel) (hc' : g.channels.find? id = some c') :
      ∃ c, f.channels.find? id = some c ∧ c'.pending.Sublist c.pending ∧
        c'.pending.filter (·.cq ≠ cq) = c.pending.filter (·.cq ≠ cq) := by
    have hkept (hc' : f.channels.find? id = some c') :
        ∃ c, f.channels.find? id = some c ∧ c'.pending.Sublist c.pending ∧
          c'.pending.filter (·.cq ≠ cq) = c.pending.filter (·.cq ≠ cq) :=
      ⟨c', hc', .refl _, rfl⟩
    rw [hchannels] at hc'
    cases channel with
    | none => exact hkept hc'
    | some channel =>
        rcases Table.modified hc' with ⟨hid, c, hc, rfl⟩ | hc'
        · exact ⟨c, hid ▸ hc, List.filter_sublist, by simp [Channel.rid]⟩
        · exact hkept hc'
  rw [List.append_nil]
  constructor
  case below => rw [hnext]; exact h.below
  case cqBelow =>
    intro id hid
    rw [hgone, Bool.and_eq_true] at hid
    exact hnext ▸ h.cqBelow id hid.1
  case channelBelow =>
    intro id hid
    obtain ⟨c', hc'⟩ := Table.contains_iff.1 hid
    obtain ⟨c, hc, -⟩ := hsame id c' hc'
    exact hnext ▸ h.channelBelow id (Table.contains_iff.2 ⟨c, hc⟩)
  case channels =>
    intro id c' hc'
    obtain ⟨c, hc, hsublist, hfilter⟩ := hsame id c' hc'
    obtain ⟨hkept, hlive⟩ := h.channels id c hc
    constructor
    case sublist => exact ((List.Sublist.refl _).append hsublist).trans hkept
    case live =>
      have hlast (l : List CqEvent) : l.filter (fun e => g.cqs.contains e.cq) =
          (l.filter fun e => f.cqs.contains e.cq).filter (·.cq ≠ cq) := by
        rw [List.filter_filter]
        exact List.filter_congr fun e _ => (hgone e.cq).trans (Bool.and_comm ..)
      have hfirst (l : List CqEvent) : l.filter (fun e => g.cqs.contains e.cq) =
          (l.filter (·.cq ≠ cq)).filter fun e => f.cqs.contains e.cq := by
        rw [List.filter_filter]
        exact List.filter_congr fun e _ => hgone e.cq
      rw [hlast, hlive, ← hlast, hfirst, hfirst]
      simp only [List.filter_append, hfilter]

/-- A channel with one more event, which is written down. -/
theorem Channel.Accounts.raise (h : c.Accounts cqs id events) (event : CqEvent) :
    (c.raised event).Accounts cqs id (events ++ [.eventRaised id event]) := by
  obtain ⟨hsublist, hlive⟩ := h
  have hraised : (events ++ [Event.eventRaised id event]).filterMap (Event.raisedOn? id) =
      events.filterMap (Event.raisedOn? id) ++ [event] := by simp [Event.raisedOn?]
  have hfetched : (events ++ [Event.eventRaised id event]).filterMap (Event.fetchedOn? id) =
      events.filterMap (Event.fetchedOn? id) := by simp [Event.fetchedOn?]
  constructor <;> rw [hraised, hfetched, Channel.raised, ← List.append_assoc]
  case sublist => exact hsublist.append (.refl _)
  case live => rw [List.filter_append, hlive, ← List.filter_append]

/-- A channel without its first event, which is written down as fetched. -/
theorem Channel.Accounts.fetch (h : c.Accounts cqs id events) {event : CqEvent}
    {rest : List CqEvent} (hpending : c.pending = event :: rest) (hrest : c'.pending = rest) :
    c'.Accounts cqs id (events ++ [.eventFetched id event]) := by
  have hraised : (events ++ [Event.eventFetched id event]).filterMap (Event.raisedOn? id) =
      events.filterMap (Event.raisedOn? id) := by simp [Event.raisedOn?]
  have hsame : (events ++ [Event.eventFetched id event]).filterMap (Event.fetchedOn? id) ++
      c'.pending = events.filterMap (Event.fetchedOn? id) ++ c.pending := by
    simp [Event.fetchedOn?, hpending, hrest]
  constructor <;> rw [hraised, hsame]
  case sublist => exact h.sublist
  case live => exact h.live

/-- What is raised on one channel, or fetched from it, is not raised on another, or fetched. -/
theorem Channel.Accounts.other (h : c.Accounts cqs id events) {e : Event}
    (hraised : e.raisedOn? id = none) (hfetched : e.fetchedOn? id = none) :
    c.Accounts cqs id (events ++ [e]) := by
  constructor <;> simp only [List.filterMap_append, List.filterMap_cons, hraised, hfetched,
    List.filterMap_nil, List.append_nil]
  case sublist => exact h.sublist
  case live => exact h.live

/-- One channel changes, and what is written down of it keeps its account. -/
theorem Accounts.updateChannel (h : f.Accounts events) {channel : NativeId}
    {change : Channel → Channel} {e : Event} (hbelow : e.Below f.nextId)
    (hchange : ∀ c, f.channels.find? channel = some c →
      (change c).Accounts f.cqs channel (events ++ [e]))
    (hother : ∀ id, id ≠ channel → e.raisedOn? id = none ∧ e.fetchedOn? id = none) :
    (f.updateChannel channel change).Accounts (events ++ [e]) := by
  constructor
  case below =>
    intro e' he'
    rcases List.mem_append.1 he' with he' | he'
    · exact h.below e' he'
    · exact List.mem_singleton.1 he' ▸ hbelow
  case cqBelow => exact h.cqBelow
  case channelBelow =>
    intro id hid
    refine h.channelBelow id ?_
    simp only [Table.contains, Fabric.updateChannel, Table.find?_modify] at hid ⊢
    split at hid
    case isTrue => rwa [Option.isSome_map] at hid
    case isFalse => exact hid
  case channels =>
    intro id c' hc'
    simp only [Fabric.updateChannel, Table.find?_modify] at hc'
    split at hc'
    case isTrue hid =>
      obtain ⟨c, hc, rfl⟩ := Option.map_eq_some_iff.1 hc'
      exact hid ▸ hchange c (hid ▸ hc)
    case isFalse hid => exact (h.channels id c' hc').other (hother id hid).1 (hother id hid).2

end Fabric

/-! ## Steps of either side -/

section Steps

variable {f g : Fabric}

theorem raisedOn?_other {channel : NativeId} (event : CqEvent) :
    ∀ id, id ≠ channel → (Event.eventRaised channel event).raisedOn? id = none ∧
      (Event.eventRaised channel event).fetchedOn? id = none :=
  fun _ hid => ⟨if_neg hid.symm, rfl⟩

theorem fetchedOn?_other {channel : NativeId} (event : CqEvent) :
    ∀ id, id ≠ channel → (Event.eventFetched channel event).raisedOn? id = none ∧
      (Event.eventFetched channel event).fetchedOn? id = none :=
  fun _ hid => ⟨rfl, if_neg hid.symm⟩

/-- Queues that change, and a channel that nothing happens to. -/
theorem Fabric.Accounts.updateCq (h : f.Accounts events) (cq : NativeId)
    (change : CompletionQueue → CompletionQueue) (hes : ∀ e ∈ es, e.ofChannels = false) :
    (f.updateCq cq change).Accounts (events ++ es) :=
  h.frame (fun _ c hc => ⟨c, hc, rfl⟩) (fun id => f.contains_updateCq cq id change)
    (Nat.le_refl _) hes

/-- What completions and their events do keeps the account of every channel. -/
theorem Delivery.accounts (hstep : Delivery f es g) (h : f.Accounts events) :
    g.Accounts (events ++ es) := by
  cases hstep with
  | aside hcqs hchannels hnext =>
      exact h.frame (fun _ c hc => ⟨c, hchannels ▸ hc, rfl⟩) (fun _ => by rw [hcqs]) hnext
        (List.forall_mem_nil _)
  | addChannel hnew _ hcqs hchannels hnext => exact h.addChannel hnew hcqs hchannels hnext
  | dropChannel _ hcqs hchannels hnext =>
      refine h.frame (fun id c hc => ?_) (fun _ => by rw [hcqs]) (Nat.le_of_eq hnext.symm)
        (List.forall_mem_nil _)
      rw [hchannels] at hc
      obtain ⟨-, hc⟩ := Table.erased hc
      exact ⟨c, hc, rfl⟩
  | addCq _ _ hcqs hchannels hnext => exact h.addCq hcqs hchannels hnext
  | dropCq _ _ _ hcqs hchannels hnext => exact h.dropCq hcqs hchannels hnext
  | @lose _ q c solicited =>
      refine h.updateCq _ _ fun e he => ?_
      cases hover : q.overflowed <;> simp [CompletionQueue.losing, hover] at he <;>
        grind [Event.ofChannels]
  | store c solicited =>
      refine h.updateCq _ _ fun e he => ?_
      obtain rfl := List.mem_singleton.1 he
      rfl
  | @wake cq q c solicited hq _ _ hlive =>
      -- the completion is stored, which concerns no channel, before the event is raised
      have hstored : (f.updateCq cq fun q => (q.stored c).disarmed).Accounts
          (events ++ [.completed cq c solicited true]) :=
        h.updateCq _ _ fun e he => by obtain rfl := List.mem_singleton.1 he; rfl
      cases hchannel : q.channel with
      | none =>
          rw [CompletionQueue.waking, hchannel]
          exact hstored
      | some channel =>
          have hbelow : channel < f.nextId :=
            h.channelBelow channel (Table.contains_iff.2 (hlive channel hchannel))
          have hcq : cq < f.nextId := h.cqBelow cq (Table.contains_iff.2 ⟨q, hq⟩)
          rw [CompletionQueue.waking, hchannel, List.append_cons]
          exact hstored.updateChannel (e := .eventRaised channel (q.event cq)) ⟨hbelow, hcq⟩
            (fun c hc => (hstored.channels channel c hc).raise _) (raisedOn?_other _)

/-- What the program asks for keeps the account of every channel: the event it fetches is the
oldest. -/
theorem Demand.accounts (hstep : Demand f es g) (h : f.Accounts events) :
    g.Accounts (events ++ es) := by
  cases hstep with
  | poll n | arm solicitedOnly =>
      refine h.updateCq _ _ fun e he => ?_
      obtain rfl := List.mem_singleton.1 he
      rfl
  | ack => exact h.updateCq _ _ (List.forall_mem_nil _)
  | @fetch channel c descriptor event rest q hc _ hpending hq =>
      have hbelow : channel < f.nextId := h.channelBelow channel (Table.contains_iff.2 ⟨c, hc⟩)
      have hcq : event.cq < f.nextId := h.cqBelow event.cq (Table.contains_iff.2 ⟨q, hq⟩)
      -- the event leaves its channel, then its completion queue counts it
      have hfetched : (f.updateChannel channel fun c =>
          { c with descriptor, pending := rest }).Accounts
            (events ++ [.eventFetched channel event]) :=
        h.updateChannel (e := .eventFetched channel event) ⟨hbelow, hcq⟩
          (fun c' hc' => by
            obtain rfl := Option.some.inj (hc.symm.trans hc')
            exact (h.channels channel c hc).fetch hpending rfl)
          (fetchedOn?_other _)
      have hdone : Fabric.Accounts _ ((events ++ [.eventFetched channel event]) ++ []) :=
        hfetched.updateCq event.cq (·.fetched) (List.forall_mem_nil _)
      rwa [List.append_nil] at hdone
  | loseToken | setDescriptor =>
      exact h.frame (fun _ _ hc => Fabric.updateChannel_pending hc fun _ => rfl) (fun _ => rfl)
        (Nat.le_refl _) (List.forall_mem_nil _)

theorem Dealing.accounts (hstep : Dealing f es g) (h : f.Accounts events) :
    g.Accounts (events ++ es) := by
  cases hstep with
  | delivery hstep => exact hstep.accounts h
  | demand hstep => exact hstep.accounts h

theorem Trail.accounts (htrail : Trail Dealing f es g) (h : f.Accounts events) :
    g.Accounts (events ++ es) := by
  induction htrail with
  | refl => rwa [List.append_nil]
  | tail _ hlast ih =>
      rw [← List.append_assoc]
      exact hlast.accounts ih

end Steps

namespace Host

variable {h : Host} {devices : List DeviceConfig} {c : Channel}

/-- The journal tells the history of every channel. -/
theorem Reachable.accounts (hr : Reachable devices h)
    (hc : h.fabric.channels.find? id = some c) :
    c.Accounts h.fabric.cqs id h.journal.toList := by
  have hstart : ({} : Fabric).Accounts [] := by
    constructor
    case below => exact List.forall_mem_nil _
    case cqBelow | channelBelow => exact fun _ hid => nomatch hid
    case channels => exact fun _ _ hc => nomatch hc
  obtain ⟨hsublist, hlive⟩ := (hr.deals.accounts hstart).channels id c hc
  rw [List.nil_append] at hsublist hlive
  simp only [filterMap_ofQueues fun _ => Event.raisedOn?_of_not,
    filterMap_ofQueues fun _ => Event.fetchedOn?_of_not] at hsublist hlive
  exact ⟨hsublist, hlive⟩

end Host

end Rdma
