import Rdma.Proofs.Completion.Life

/-!
# What goes into a completion queue comes out of it

The journal tells which completions were handed to a completion queue, and what polling yielded.
What was polled, then what the queue still holds, then what it lost is all that was handed to it, in
order; and it loses a completion if and only if it is full when the completion arrives. Once it has
lost one it is stuck: it stays full, yields nothing and raises no event, and what arrives does not
disarm it.

* `CompletionQueue.Tallies` — the account of a queue that the journal gives;
* `CqStep.tallied`, `Trail.tallied` — a step of the queue's life keeps the account, and so does its
  life;
* `reachable_tallies` — the account holds on every reachable host, and an overflowed queue is stuck
  for good.
-/

namespace Rdma

open Fabric (CompletionQueue)

/-! ## Reading the journal -/

namespace Event

/-- A completion that was handed to the queue. -/
def arrived? (cq : NativeId) : Event → Option Completion
  | .completed cq' c _ _ => if cq' = cq then some c else none
  | _ => none

/-- A completion that the queue stored. -/
def stored? (cq : NativeId) : Event → Option Completion
  | .completed cq' c _ true => if cq' = cq then some c else none
  | _ => none

/-- A completion that the queue lost. -/
def lost? (cq : NativeId) : Event → Option Completion
  | .completed cq' c _ false => if cq' = cq then some c else none
  | _ => none

/-- What a poll of the queue yielded. -/
def polled? (cq : NativeId) : Event → Option (List Completion)
  | .polled cq' taken => if cq' = cq then some taken else none
  | _ => none

/-- An event that the queue raised, and the channel it went to. -/
def raised? (cq : NativeId) : Event → Option (NativeId × CqEvent)
  | .eventRaised channel event => if event.cq = cq then some (channel, event) else none
  | _ => none

/-- What the queue waits for after the event, if before it waited for `armed`. Only a completion
that is stored and waited for disarms it. -/
def rearm (cq : NativeId) (armed : Option Bool) : Event → Option Bool
  | .armed cq' solicitedOnly =>
    if cq' = cq then CompletionQueue.arming armed solicitedOnly else armed
  | .completed cq' c solicited true =>
    if cq' = cq && armed.any (fun only => !only || solicited || c.failed) then none else armed
  | _ => armed

end Event

variable {id : NativeId} {events es : List Event}

/-- What is read of a queue is not read off the events that tell of others. -/
theorem filterMap_tellsOf {α : Type} {p : Event → Option α}
    (hp : ∀ e : Event, e.tellsOf id = false → p e = none) (events : List Event) :
    (events.filter (·.tellsOf id)).filterMap p = events.filterMap p := by
  rw [List.filterMap_filter]
  refine List.filterMap_congr fun e _ => ?_
  cases htells : e.tellsOf id <;> simp [hp, htells]

namespace Event

variable {e : Event}

theorem arrived?_of_other (he : e.tellsOf id = false) : e.arrived? id = none := by
  cases e <;> simp_all [tellsOf, cq?, arrived?]

/-- What is stored has arrived. -/
theorem stored?_of_none (he : e.arrived? id = none) : e.stored? id = none := by
  cases e with
  | completed cq c solicited stored => cases stored <;> simp_all [arrived?, stored?]
  | _ => rfl

/-- What is lost has arrived. -/
theorem lost?_of_none (he : e.arrived? id = none) : e.lost? id = none := by
  cases e with
  | completed cq c solicited stored => cases stored <;> simp_all [arrived?, lost?]
  | _ => rfl

/-- What arrives and is not stored is lost. -/
theorem arrived?_eq_lost? (he : e.stored? id = none) : e.arrived? id = e.lost? id := by
  cases e with
  | completed cq c solicited stored => cases stored <;> simp_all [arrived?, stored?, lost?]
  | _ => rfl

theorem stored?_of_other (he : e.tellsOf id = false) : e.stored? id = none :=
  stored?_of_none (arrived?_of_other he)

theorem lost?_of_other (he : e.tellsOf id = false) : e.lost? id = none :=
  lost?_of_none (arrived?_of_other he)

theorem polled?_of_other (he : e.tellsOf id = false) : e.polled? id = none := by
  cases e <;> simp_all [tellsOf, cq?, polled?]

theorem raised?_of_other (he : e.tellsOf id = false) : e.raised? id = none := by
  cases e <;> simp_all [tellsOf, cq?, raised?]

theorem rearm_of_other (he : e.tellsOf id = false) (armed : Option Bool) :
    e.rearm id armed = armed := by
  cases e with
  | completed cq c solicited stored => cases stored <;> simp_all [tellsOf, cq?, rearm]
  | armed => simp_all [tellsOf, cq?, rearm]
  | _ => rfl

end Event

/-- How many completions the queue holds, by what was stored and what was polled. -/
def held (cq : NativeId) (events : List Event) : Nat :=
  (events.filterMap (Event.stored? cq)).length -
    (events.filterMap (Event.polled? cq)).flatten.length

theorem held_tellsOf (events : List Event) :
    held id (events.filter (·.tellsOf id)) = held id events := by
  simp only [held, filterMap_tellsOf fun _ => Event.stored?_of_other,
    filterMap_tellsOf fun _ => Event.polled?_of_other]

/-- What holds at every event holds with one event more if it holds at that. -/
theorem forall_prefix_concat {P : List Event → Event → Prop} {last : Event}
    (hall : ∀ past e, past ++ [e] <+: events → P past e) (hlast : P events last) :
    ∀ past e, past ++ [e] <+: events ++ [last] → P past e := by
  intro past e hprefix
  rcases List.prefix_concat_iff.1 hprefix with hsame | hearlier
  · obtain ⟨rfl, hlast'⟩ := List.append_inj' hsame rfl
    obtain rfl := List.singleton_injective hlast'
    exact hlast
  · exact hall past e hearlier

/-! ## The account of a queue -/

/-- What may follow after the events at a completion queue. -/
structure MayFollow (cq : NativeId) (capacity : UInt32) (past : List Event) (e : Event) : Prop where
  /-- A completion is lost if and only if the queue is full when it arrives. -/
  lost_iff : ∀ c solicited stored, e = .completed cq c solicited stored →
    (stored = false ↔ held cq past = capacity.toNat)
  /-- Once one was lost, none is stored, nothing is polled and no event is raised. -/
  stuck : past.filterMap (Event.lost? cq) ≠ [] →
    e.stored? cq = none ∧ e.polled? cq = none ∧ e.raised? cq = none

/-- What the events tell of a queue agrees with what it is. -/
structure Fabric.CompletionQueue.Tallies (q : CompletionQueue) (id : NativeId)
    (events : List Event) : Prop where
  /-- What was polled, then what is left, is what was stored. -/
  kept : (events.filterMap (Event.polled? id)).flatten ++ q.entries.toList =
    events.filterMap (Event.stored? id)
  /-- What arrived was stored up to the first that was lost, and from that on it was lost. -/
  arrived : events.filterMap (Event.arrived? id) =
    events.filterMap (Event.stored? id) ++ events.filterMap (Event.lost? id)
  bounded : q.entries.size ≤ q.capacity.toNat
  overflowed_iff : q.overflowed = true ↔ events.filterMap (Event.lost? id) ≠ []
  full : q.overflowed = true → q.entries.size = q.capacity.toNat
  armed : q.armed = events.foldl (Event.rearm id) none
  follows : ∀ past e, past ++ [e] <+: events → MayFollow id q.capacity past e

namespace Fabric.CompletionQueue

variable {q q' : CompletionQueue}

/-! ## One event more -/

theorem Tallies.held_eq (h : q.Tallies id events) : held id events = q.entries.size := by
  rw [held, ← h.kept, List.length_append, Nat.add_sub_cancel_left, Fifo.size_eq_length]

theorem Tallies.none_lost (h : q.Tallies id events) (hover : q.overflowed = false) :
    events.filterMap (Event.lost? id) = [] :=
  Decidable.not_not.1 fun hne => by simp [h.overflowed_iff.2 hne] at hover

/-- A queue that has room has lost nothing. -/
theorem Tallies.room (h : q.Tallies id events) (hroom : q.isFull = false) :
    q.entries.size < q.capacity.toNat ∧ q.overflowed = false := by
  have hfew : q.entries.size < q.capacity.toNat := by simpa [isFull] using hroom
  exact ⟨hfew, Bool.eq_false_iff.2 fun hover => Nat.ne_of_lt hfew (h.full hover)⟩

/-- A queue that has just been created has nothing to account for. -/
theorem tallies_created (hnew : q.asCreated = q) : q.Tallies id [] := by
  rw [← hnew]
  constructor
  case kept | arrived | armed => rfl
  case bounded => exact Nat.zero_le _
  case overflowed_iff | full => simp [asCreated]
  case follows => simp

/-- The account does not look at events that are fetched and acknowledged. -/
theorem Tallies.of_same (h : q.Tallies id events) (hentries : q'.entries = q.entries)
    (hcapacity : q'.capacity = q.capacity) (hover : q'.overflowed = q.overflowed)
    (harmed : q'.armed = q.armed) : q'.Tallies id events := by
  constructor
  case kept => rw [hentries]; exact h.kept
  case arrived => exact h.arrived
  case bounded => rw [hentries, hcapacity]; exact h.bounded
  case overflowed_iff => rw [hover]; exact h.overflowed_iff
  case full => rw [hentries, hcapacity, hover]; exact h.full
  case armed => rw [harmed]; exact h.armed
  case follows => rw [hcapacity]; exact h.follows

/-- An event that is neither an arrival nor a poll changes at most what the queue waits for. -/
theorem Tallies.rest (h : q.Tallies id events) {e : Event} (harrived : e.arrived? id = none)
    (hpolled : e.polled? id = none) (hraised : q.overflowed = false ∨ e.raised? id = none) :
    ({ q with armed := e.rearm id q.armed } : CompletionQueue).Tallies id (events ++ [e]) := by
  have hstored := Event.stored?_of_none harrived
  have hlost := Event.lost?_of_none harrived
  have hnone {α : Type} {p : Event → Option α} (hp : p e = none) :
      (events ++ [e]).filterMap p = events.filterMap p := by simp [hp]
  constructor
  case kept => rw [hnone hpolled, hnone hstored]; exact h.kept
  case arrived => rw [hnone harrived, hnone hstored, hnone hlost]; exact h.arrived
  case bounded => exact h.bounded
  case overflowed_iff => rw [hnone hlost]; exact h.overflowed_iff
  case full => exact h.full
  case armed => simp [h.armed]
  case follows =>
    refine forall_prefix_concat h.follows ⟨?_, fun hlost => ⟨hstored, hpolled, ?_⟩⟩
    · rintro c solicited stored rfl
      simp [Event.arrived?] at harrived
    · exact hraised.resolve_left fun hover => hlost (h.none_lost hover)

/-- A queue that has room stores what arrives, and is disarmed if it waits for that. -/
theorem Tallies.store (h : q.Tallies id events) (hroom : q.isFull = false) {c : Completion}
    {solicited : Bool} (hentries : q'.entries = q.entries.push c)
    (hcapacity : q'.capacity = q.capacity) (hover' : q'.overflowed = q.overflowed)
    (harmed : q'.armed = if q.wakes c solicited then none else q.armed) :
    q'.Tallies id (events ++ [.completed id c solicited true]) := by
  obtain ⟨hfew, hover⟩ := h.room hroom
  have hnone := h.none_lost hover
  constructor
  case kept => simp [hentries, Event.polled?, Event.stored?, ← h.kept]
  case arrived => simp [Event.arrived?, Event.stored?, Event.lost?, h.arrived, hnone]
  case bounded => rw [hentries, hcapacity]; exact hfew
  case overflowed_iff => simp [hover', Event.lost?, hover, hnone]
  case full => simp [hover', hover]
  case armed =>
    rw [harmed, List.foldl_append, ← h.armed]
    cases hwaits : q.armed <;> simp [wakes, hwaits, Event.rearm]
  case follows =>
    rw [hcapacity]
    refine forall_prefix_concat h.follows ⟨?_, fun hlost => absurd hnone hlost⟩
    rintro c solicited stored ⟨⟩
    rw [h.held_eq]
    exact iff_of_false nofun (Nat.ne_of_lt hfew)

/-- A full queue loses what arrives. -/
theorem Tallies.lose (h : q.Tallies id events) (hfull : q.isFull = true) (c : Completion)
    (solicited : Bool) : q.lost.Tallies id (events ++ [.completed id c solicited false]) := by
  have hsize : q.entries.size = q.capacity.toNat :=
    Nat.le_antisymm h.bounded (by simpa [isFull] using hfull)
  constructor
  case kept => simpa [lost, List.filterMap_cons, Event.polled?, Event.stored?] using h.kept
  case arrived => simp [Event.arrived?, Event.stored?, Event.lost?, h.arrived]
  case bounded => exact h.bounded
  case overflowed_iff => simp [lost, Event.lost?]
  case full => exact fun _ => hsize
  case armed => simp [lost, Event.rearm, h.armed]
  case follows =>
    refine forall_prefix_concat h.follows ⟨?_, fun _ => ⟨rfl, rfl, rfl⟩⟩
    rintro c solicited stored ⟨⟩
    rw [h.held_eq]
    exact iff_of_true rfl hsize

/-- What is polled leaves the queue at its old end. -/
theorem Tallies.poll (h : q.Tallies id events) (hover : q.overflowed = false) (n : Nat) :
    (q.polled n).Tallies id (events ++ [.polled id (q.entries.take n)]) := by
  have hsplit : q.entries.take n ++ q.entries.toList.drop n = q.entries.toList :=
    List.take_append_drop ..
  constructor
  case kept =>
    simpa [polled, List.filterMap_cons, Event.polled?, Event.stored?, hsplit] using h.kept
  case arrived =>
    simpa [List.filterMap_cons, Event.arrived?, Event.stored?, Event.lost?] using h.arrived
  case bounded =>
    have hbounded := h.bounded
    simp only [Fifo.size_eq_length, polled, Fifo.toList_drop, List.length_drop] at hbounded ⊢
    omega
  case overflowed_iff => simpa [polled, Event.lost?] using h.overflowed_iff
  case full => simp [polled, hover]
  case armed => simp [polled, Event.rearm, h.armed]
  case follows =>
    exact forall_prefix_concat h.follows ⟨nofun, fun hlost => absurd (h.none_lost hover) hlost⟩

end Fabric.CompletionQueue

/-! ## Whole lives -/

/-- What the events tell of a queue agrees with where it stands. -/
def CqLife.Tallied (id : NativeId) (events : List Event) : CqLife → Prop
  | .unborn => events = []
  | .live q => q.Tallies id events
  | .gone => True

variable {l l' : CqLife}

/-- One step in the life of a completion queue keeps the tally of what arrived and what was polled.
-/
theorem CqStep.tallied (h : CqStep id l es l') (hl : l.Tallied id events) :
    l'.Tallied id (events ++ es) := by
  cases h with
  | same => rwa [List.append_nil]
  | passed | destroyed => trivial
  | created hnew =>
      obtain rfl : events = [] := hl
      exact CompletionQueue.tallies_created hnew
  | @lost q c solicited hfull =>
      have hlost := CompletionQueue.Tallies.lose hl hfull c solicited
      cases hover : q.overflowed with
      | true =>
          rw [CompletionQueue.losing, hover, if_pos rfl]
          exact hlost
      | false =>
          rw [CompletionQueue.losing, hover, if_neg Bool.false_ne_true, List.append_cons]
          exact hlost.rest (e := .overflowed id) rfl rfl (.inr rfl)
  | stored c solicited hroom hwakes =>
      exact CompletionQueue.Tallies.store hl hroom rfl rfl rfl (by rw [hwakes]; rfl)
  | @woken q c solicited hroom hwakes =>
      have hstored : (q.stored c).disarmed.Tallies id
          (events ++ [.completed id c solicited true]) :=
        CompletionQueue.Tallies.store hl hroom rfl rfl rfl (by rw [hwakes]; rfl)
      cases hchannel : q.channel with
      | none =>
          rw [CompletionQueue.waking, hchannel]
          exact hstored
      | some channel =>
          rw [CompletionQueue.waking, hchannel, List.append_cons]
          -- the event is raised after the completion was counted
          have hover := (CompletionQueue.Tallies.room hl hroom).2
          exact hstored.rest (e := .eventRaised channel (q.event id)) rfl rfl (.inl hover)
  | polled n hover => exact CompletionQueue.Tallies.poll hl hover n
  | armed solicitedOnly _ =>
      refine (CompletionQueue.Tallies.rest hl rfl rfl (.inr rfl)).of_same rfl rfl rfl ?_
      simp [CompletionQueue.armedFor, Event.rearm]
  | fetched =>
      exact (CompletionQueue.Tallies.rest hl rfl rfl (.inr rfl)).of_same rfl rfl rfl rfl
  | acked n =>
      rw [List.append_nil]
      exact CompletionQueue.Tallies.of_same hl rfl rfl rfl rfl

/-- A life keeps the account that its steps keep. -/
theorem Trail.tallied (h : Trail (CqStep id) l es l') (hl : l.Tallied id events) :
    l'.Tallied id (events ++ es) := by
  induction h with
  | refl => rwa [List.append_nil]
  | tail _ hlast ih =>
      rw [← List.append_assoc]
      exact hlast.tallied ih

/-! ## The journal -/

/-- The account of a queue is that of the events that tell of it. -/
theorem Fabric.CompletionQueue.Tallies.of_filter {q : CompletionQueue}
    (h : q.Tallies id (events.filter (·.tellsOf id))) : q.Tallies id events := by
  obtain ⟨hkept, harrived, hbounded, hover, hfull, harmed, hfollows⟩ := h
  simp only [filterMap_tellsOf fun _ => Event.stored?_of_other,
    filterMap_tellsOf fun _ => Event.polled?_of_other,
    filterMap_tellsOf fun _ => Event.arrived?_of_other,
    filterMap_tellsOf fun _ => Event.lost?_of_other] at hkept harrived hover
  constructor
  case kept => exact hkept
  case arrived => exact harrived
  case bounded => exact hbounded
  case overflowed_iff => exact hover
  case full => exact hfull
  case armed =>
    rw [harmed, List.foldl_filter]
    congr 1
    funext armed e
    cases htells : e.tellsOf id with
    | true => rfl
    | false => rw [Event.rearm_of_other htells]; rfl
  case follows =>
    intro past e hprefix
    cases htells : e.tellsOf id with
    | false =>
        refine ⟨?_, fun _ => ⟨Event.stored?_of_other htells, Event.polled?_of_other htells,
          Event.raised?_of_other htells⟩⟩
        rintro c solicited stored rfl
        simp [Event.tellsOf, Event.cq?] at htells
    | true =>
        have hseen : past.filter (·.tellsOf id) ++ [e] <+: events.filter (·.tellsOf id) := by
          simpa [htells] using hprefix.filter (·.tellsOf id)
        obtain ⟨hlost, hstuck⟩ := hfollows _ e hseen
        rw [held_tellsOf] at hlost
        rw [filterMap_tellsOf fun _ => Event.lost?_of_other] at hstuck
        exact ⟨hlost, hstuck⟩

theorem Delivery.unpolled {f g : Fabric} {es : List Event} (h : Delivery f es g) (id : NativeId) :
    es.filterMap (Event.polled? id) = [] := by
  cases h with
  | @lose _ q =>
      cases hover : q.overflowed <;>
        simp [CompletionQueue.losing, hover, List.filterMap_cons, Event.polled?]
  | @wake _ q =>
      cases hchannel : q.channel <;>
        simp [CompletionQueue.waking, hchannel, List.filterMap_cons, Event.polled?]
  | _ => rfl

/-- What is not read off any delivery is not read off deliveries in a row. -/
theorem Trail.unread {f g : Fabric} {es : List Event} (h : Trail Delivery f es g) {α : Type}
    {p : Event → Option α} (hp : ∀ f es g, Delivery f es g → es.filterMap p = []) :
    es.filterMap p = [] := by
  induction h with
  | refl => rfl
  | tail _ hlast ih => rw [List.filterMap_append, ih, hp _ _ _ hlast, List.append_nil]

namespace Host

variable {h k : Host} {devices : List DeviceConfig} {q q' : CompletionQueue}

/-- The journal of a reachable host gives the account of every completion queue. -/
theorem Reachable.tallies (hr : Reachable devices h) (hq : h.fabric.cqs.find? id = some q) :
    q.Tallies id h.journal.toList := by
  have hstart : (({} : Fabric).cqLife id).Tallied id [] := by
    have hnone : ({} : Fabric).cqs.find? id = none := rfl
    by_cases hid : id < ({} : Fabric).nextId <;> simp [Fabric.cqLife, hnone, hid, CqLife.Tallied]
  have hlife := (hr.life id).tallied hstart
  rw [Fabric.cqLife_of_live hq] at hlife
  exact CompletionQueue.Tallies.of_filter hlife

/-- Handing a completion over is one arrival. -/
theorem complete_arrives (hh : h.Sound) (hq : h.fabric.cqs.find? id = some q) (c : Completion)
    (solicited : Bool) :
    ((h.complete id c solicited).eventsSince h).filterMap (Event.arrived? id) = [c] := by
  unfold complete
  simp only [hq]
  cases hfull : q.isFull with
  | true =>
      rw [if_pos rfl, eventsSince_eq (loseCompletion_journal h id q c solicited)]
      cases hover : q.overflowed <;>
        simp [CompletionQueue.losing, hover, List.filterMap_cons, Event.arrived?]
  | false =>
      cases hwakes : q.wakes c solicited with
      | false =>
          have hstored : (h.storeCompletion id c solicited).journal.toList =
              h.journal.toList ++ [.completed id c solicited true] := Journal.toList_add _ _
          rw [if_neg Bool.false_ne_true, if_neg Bool.false_ne_true, eventsSince_eq hstored]
          simp [Event.arrived?]
      | true =>
          obtain ⟨events, hjournal, hnone⟩ :=
            wake_journal (q := q) (hh.channel_of_cq hq) c solicited
          have hothers : events.filterMap (Event.arrived? id) = [] := by
            rw [← filterMap_tellsOf fun _ => Event.arrived?_of_other, ← filter_ofQueues, hnone]
            rfl
          rw [if_neg Bool.false_ne_true, if_pos rfl, eventsSince_eq hjournal,
            List.filterMap_append, hothers]
          cases hchannel : q.channel <;>
            simp [CompletionQueue.waking, hchannel, List.filterMap_cons, Event.arrived?]

/-! ## Polling -/

/-- What polling the queue answers, if the operation does that. -/
def pollAnswer (h : Host) (id : NativeId) : Operation → Option (List Completion)
  | .pollCq cq n => if cq = id then (pollCq cq n h).1.toOption else none
  | _ => none

/-- A poll is written down with its answer, and nothing else is written down as a poll. -/
theorem perform_polled (hh : h.Sound) (op : Operation) (id : NativeId) :
    ((h.perform op).eventsSince h).filterMap (Event.polled? id) = (h.pollAnswer id op).toList := by
  have hnothing : (h.eventsSince h).filterMap (Event.polled? id) = [] := by
    rw [eventsSince_eq (List.append_nil _).symm]
    rfl
  have hnoted {k : Host} {e : Event} (hk : k.journal.toList = h.journal.toList ++ [e]) :
      (k.eventsSince h).filterMap (Event.polled? id) = (e.polled? id).toList := by
    rw [eventsSince_eq hk]
    cases he : e.polled? id <;> simp [he]
  cases hop : op.demands with
  | false =>
      have hnone : h.pollAnswer id op = none := by cases op <;> first | rfl | cases hop
      have hunpolled := (perform_delivers hh hop).since.unread fun _ _ _ h => h.unpolled id
      rw [← filterMap_tellsOf fun _ => Event.polled?_of_other, filter_ofQueues,
        filterMap_tellsOf fun _ => Event.polled?_of_other] at hunpolled
      rw [hunpolled, hnone]
      rfl
  | true =>
      cases op with
      | pollCq cq n =>
          simp only [Host.perform, pollAnswer]
          cases hq : h.fabric.cqs.find? cq with
          | none => simp [pollCq_of_absent hq, hnothing, Except.toOption]
          | some q =>
              cases hover : q.overflowed with
              | true => simp [pollCq_of_overflowed hq hover, hnothing, Except.toOption]
              | false =>
                  rw [pollCq_of_kept hq hover, hnoted (Journal.toList_add _ _)]
                  by_cases hid : cq = id <;> simp [Event.polled?, hid, Except.toOption]
      | reqNotifyCq cq solicitedOnly =>
          exact Step.guarded_cases (P := fun r : Except OsError Unit × Host =>
            (r.2.eventsSince h).filterMap (Event.polled? id) = []) (fun _ _ => hnothing)
            fun _ _ => hnoted (e := .armed cq solicitedOnly) (Journal.toList_add _ _)
      | getCqEvent channel =>
          simp only [Host.perform, getCqEvent]
          split
          · exact hnothing
          split
          · exact hnothing
          split
          · exact hnothing
          case h_2 event _ _ =>
            exact hnoted (e := .eventFetched channel event) (Journal.toList_add _ _)
      | ackCqEvents | setDescriptor => exact hnothing
      | _ => cases hop

/-! ## Overflow -/

/-- From `h` to `k` an overflowed queue was stuck: what was `q` has become `q'`. -/
structure StuckSince (h k : Host) (id : NativeId) (q q' : CompletionQueue) : Prop where
  overflowed : q'.overflowed = true
  full : q'.entries.size = q'.capacity.toNat
  entries : q'.entries.toList = q.entries.toList
  polls : ∀ n, pollCq id n k = (.error (.code .overflow), k)
  /-- All that arrived was lost. -/
  dropped : (k.eventsSince h).filterMap (Event.arrived? id) =
    (k.eventsSince h).filterMap (Event.lost? id)
  silent : (k.eventsSince h).filterMap (Event.raised? id) = []
  armed : q.armed.isSome → q'.armed.isSome

/-- Without a completion that is stored nothing disarms a queue. -/
theorem foldl_rearm_isSome {events : List Event} (hnone : ∀ e ∈ events, e.stored? id = none)
    {armed : Option Bool} (harmed : armed.isSome) :
    (events.foldl (Event.rearm id) armed).isSome := by
  induction events generalizing armed with
  | nil => exact harmed
  | cons e rest ih =>
      refine ih (fun e he => hnone e (List.mem_cons_of_mem _ he)) ?_
      have he := hnone e List.mem_cons_self
      cases e with
      | armed cq solicitedOnly =>
          by_cases hid : cq = id <;> simp [Event.rearm, hid, harmed, CompletionQueue.arming]
      | completed cq c solicited stored =>
          cases stored with
          | false => exact harmed
          | true =>
              have hid : cq ≠ id := by simpa [Event.stored?] using he
              simp [Event.rearm, hid, harmed]
      | _ => exact harmed

/-- An overflowed queue is stuck as long as it is there. -/
theorem Reachable.stuck (hr : Reachable devices h) (hq : h.fabric.cqs.find? id = some q)
    (hover : q.overflowed = true) (hk : h.Leads k) (hq' : k.fabric.cqs.find? id = some q') :
    StuckSince h k id q q' := by
  have htally := hr.tallies hq
  have htally' := (hk.reachable hr).tallies hq'
  have hlost := htally.overflowed_iff.1 hover
  have hover' : q'.overflowed = true := by
    rw [htally'.overflowed_iff, hk.journal, List.filterMap_append]
    exact fun hnone => hlost (List.append_eq_nil_iff.1 hnone).1
  -- whatever was written down since then follows a loss
  have hstuck : ∀ e ∈ k.eventsSince h,
      e.stored? id = none ∧ e.polled? id = none ∧ e.raised? id = none := by
    intro e he
    obtain ⟨before, after, hsince⟩ := List.append_of_mem he
    refine (htally'.follows (h.journal.toList ++ before) e ⟨after, ?_⟩).stuck ?_
    · rw [hk.journal, hsince, List.append_assoc, List.append_assoc, List.singleton_append]
    · rw [List.filterMap_append]
      exact fun hnone => hlost (List.append_eq_nil_iff.1 hnone).1
  have hstored := List.filterMap_eq_nil_iff.2 fun e he => (hstuck e he).1
  have hpolled := List.filterMap_eq_nil_iff.2 fun e he => (hstuck e he).2.1
  constructor
  case overflowed => exact hover'
  case full => exact htally'.full hover'
  case entries =>
    have hkept := htally'.kept
    rw [hk.journal, List.filterMap_append, List.filterMap_append, hstored, hpolled,
      List.append_nil, List.append_nil, ← htally.kept] at hkept
    exact List.append_cancel_left hkept
  case polls => exact pollCq_of_overflowed hq' hover'
  case dropped => exact List.filterMap_congr fun e he => Event.arrived?_eq_lost? (hstuck e he).1
  case silent => exact List.filterMap_eq_nil_iff.2 fun e he => (hstuck e he).2.2
  case armed =>
    intro harmed
    rw [htally'.armed, hk.journal, List.foldl_append, ← htally.armed]
    exact foldl_rearm_isSome (fun e he => (hstuck e he).1) harmed

/-- A completion queue that has not overflowed neither loses, nor doubles, nor reorders completions:
what polling yielded, then what the queue holds, is what was handed to it. The account that the
journal gives of a queue, overflowed or not, is right; what is handed over is written down as an
arrival, and what is written down as polled is what polling answered. An overflowed queue is stuck
until it is destroyed. -/
theorem reachable_tallies {h : Host} {devices : List DeviceConfig} (hr : Reachable devices h)
    {id : NativeId} {q : CompletionQueue} (hq : h.fabric.cqs.find? id = some q) :
    (q.overflowed = false →
        (h.journal.toList.filterMap (Event.polled? id)).flatten ++ q.entries.toList =
          h.journal.toList.filterMap (Event.arrived? id)) ∧
      q.Tallies id h.journal.toList ∧
      (∀ c solicited,
        ((h.complete id c solicited).eventsSince h).filterMap (Event.arrived? id) = [c]) ∧
      (∀ op, ((h.perform op).eventsSince h).filterMap (Event.polled? id) =
        (h.pollAnswer id op).toList) ∧
      (q.overflowed = true → ∀ k q', h.Leads k → k.fabric.cqs.find? id = some q' →
        StuckSince h k id q q') := by
  have htally := hr.tallies hq
  refine ⟨fun hover => ?_, htally, complete_arrives hr.sound hq,
    fun op => perform_polled hr.sound op id, fun hover k q' hk hq' => hr.stuck hq hover hk hq'⟩
  rw [htally.arrived, htally.none_lost hover, List.append_nil]
  exact htally.kept

/-- Six completions are flushed into a queue of four, and one of them is polled in between. -/
theorem loopback_tallies :
    let h := (({} : Host).withDevices [{}]).performAll
      (loopback ++ [.modifyQp 5 { state := QpState.error.code } .state,
        .postSend 5 [{ wrId := 1 }, { wrId := 2 }], .pollCq 4 1,
        .postSend 5 [{ wrId := 3 }, { wrId := 4 }, { wrId := 5 }, { wrId := 6 }]])
    let k := h.performAll [.pollCq 4 2, .postSend 5 [{ wrId := 7 }]]
    ∃ q q', h.fabric.cqs.find? 4 = some q ∧ q.overflowed = true ∧ q.Tallies 4 h.journal.toList ∧
      (h.journal.toList.filterMap (Event.polled? 4)).map (·.map (·.wrId)) = [[1]] ∧
      q.entries.toList.map (·.wrId) = [2, 3, 4, 5] ∧
      (h.journal.toList.filterMap (Event.lost? 4)).map (·.wrId) = [6] ∧
      StuckSince h k 4 q q' := by
  intro h k
  have hstate : (h.fabric.cqs.find? 4).map
      (fun q => (q.overflowed, q.entries.toList.map (·.wrId))) = some (true, [2, 3, 4, 5]) := by
    decide +kernel
  obtain ⟨q, hq, hqueue⟩ := Option.map_eq_some_iff.1 hstate
  obtain ⟨hover, hentries⟩ := Prod.mk.inj hqueue
  obtain ⟨q', hq'⟩ : ∃ q', k.fabric.cqs.find? 4 = some q' :=
    Option.isSome_iff_exists.1 (by decide +kernel)
  have hr : Reachable [{}] h := (Reachable.fresh {}).performAll _
  obtain ⟨-, htally, -, -, hstuck⟩ := reachable_tallies hr hq
  exact ⟨q, q', hq, hover, htally, by decide +kernel, hentries, by decide +kernel,
    hstuck hover k q' (leads_performAll h _) hq'⟩

end Host

end Rdma
