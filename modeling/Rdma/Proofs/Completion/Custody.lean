import Rdma.Proofs.Completion.Channel

/-!
# Tokens in custody

A channel has two stores: the events that wait to be fetched, and the tokens of its descriptor. As
long as nobody but the provider takes tokens or adds any, the second store counts the first, so that
whoever takes a token gets an event. A completion queue counts the events that were fetched from it
and are to be acknowledged.

* `Fabric.Counts` — both counts are right;
* `Delivery.counts`, `perform_counts` — a step of the provider keeps them so, and so does every
  operation that leaves tokens alone;
* `Custody` — the runs of such operations;
* `custody_agrees` — channels, their tokens and their events agree in all such runs;
* `count_comes_round` — after 2^32 events the count of a completion queue is zero again, and the
  queue can be destroyed although none of them was acknowledged.
-/

namespace Rdma

open Fabric (CompletionQueue Channel)

variable {es : List Event} {id : NativeId}

/-! ## Tokens -/

namespace Descriptor

variable {d : Descriptor} {n : Nat}

theorem signal_counter (hd : d.target = .counter n) :
    d.signal = .ok { d with target := .counter (n + 1) } := by
  simp only [signal, hd]

theorem take_counter (hd : d.target = .counter (n + 1)) :
    d.take = .ok { d with target := .counter n } := by
  simp only [take, hd]

theorem take_empty (hd : d.target = .counter 0) : d.take = .error (.code .again) := by
  simp only [take, hd]

/-- As many tokens are taken as there are, and no more. -/
theorem drained_counter (k : Nat) (hd : d.target = .counter n) :
    (d.drained k).target = .counter (n - k) := by
  induction k generalizing d n with
  | zero => exact hd
  | succ k ih =>
      cases n with
      | zero => simp [drained, readable, hd]
      | succ n =>
          have hleft := ih (d := { d with target := .counter n }) rfl
          simp only [drained, readable, hd, take_counter hd]
          simpa [Except.map, Except.toOption] using hleft

end Descriptor

/-- What a consumer owes a completion queue: the events that it fetched and has not acknowledged, now
and at most at any time. -/
structure Debt where
  owed : Nat := 0
  most : Nat := 0
deriving DecidableEq

namespace Debt

/-- One event more was fetched. -/
def fetched (d : Debt) : Debt := { owed := d.owed + 1, most := max d.most (d.owed + 1) }

/-- Some events are acknowledged, or as many as are owed. -/
def acked (n : UInt32) (d : Debt) : Debt := { d with owed := d.owed - n.toNat }

/-- The debt after an operation. -/
def after (h : Host) (cq : NativeId) (d : Debt) : Host.Operation → Debt
  | .getCqEvent channel =>
    match (Host.getCqEvent channel h).1 with
    | .ok event => if event.cq = cq then d.fetched else d
    | .error _ => d
  | .ackCqEvents cq' n => if cq' = cq then d.acked n else d
  | _ => d

/-- The debt after operations in a row. -/
def afterAll (h : Host) (cq : NativeId) (d : Debt) : List Host.Operation → Debt
  | [] => d
  | op :: rest => afterAll (h.perform op) cq (d.after h cq op) rest

end Debt

/-- A completion queue counts in 32 bits, up to fewer events than this. -/
def ackLimit : Nat := UInt32.size

/-- The tokens of every channel count its events, and every completion queue counts its events to be
acknowledged, unless there were more of those at a time than it can count. -/
structure Fabric.Counts (f : Fabric) (debts : NativeId → Debt) : Prop where
  tokens : ∀ id c, f.channels.find? id = some c →
    c.descriptor.target = .counter c.pending.length
  acks : ∀ id q, f.cqs.find? id = some q → (debts id).most < ackLimit →
    q.unacknowledged.toNat = (debts id).owed
  unborn : ∀ id, f.nextId ≤ id → (debts id).owed = 0

namespace Fabric

variable {f g : Fabric} {debts : NativeId → Debt}

theorem Counts.frame (h : f.Counts debts)
    (hchannels : ∀ id c, g.channels.find? id = some c →
      f.channels.find? id = some c ∨ c.descriptor.target = .counter c.pending.length)
    (hcqs : ∀ id q', g.cqs.find? id = some q' →
      (∃ q, f.cqs.find? id = some q ∧ q'.unacknowledged = q.unacknowledged) ∨
        f.nextId ≤ id ∧ q'.unacknowledged = 0)
    (hnext : f.nextId ≤ g.nextId) : g.Counts debts := by
  constructor
  case tokens =>
    intro id c hc
    exact (hchannels id c hc).elim (h.tokens id c) fun hcounts => hcounts
  case acks =>
    intro id q' hq' hmost
    rcases hcqs id q' hq' with ⟨q, hq, hsame⟩ | ⟨hnew, hzero⟩
    · rw [hsame]
      exact h.acks id q hq hmost
    · rw [hzero, h.unborn id hnew]
      rfl
  case unborn => exact fun id hid => h.unborn id (Nat.le_trans hnext hid)

/-- The same completion queues, as far as their events go. -/
theorem updateCq_acks {cq id : NativeId} {change : CompletionQueue → CompletionQueue}
    {q' : CompletionQueue} (hq' : (f.updateCq cq change).cqs.find? id = some q')
    (hkeep : ∀ q, (change q).unacknowledged = q.unacknowledged) :
    ∃ q, f.cqs.find? id = some q ∧ q'.unacknowledged = q.unacknowledged := by
  simp only [updateCq, Table.find?_modify] at hq'
  split at hq'
  case isTrue hid =>
    obtain ⟨q, hq, rfl⟩ := Option.map_eq_some_iff.1 hq'
    exact ⟨q, hid ▸ hq, hkeep q⟩
  case isFalse => exact ⟨q', hq', rfl⟩

theorem Counts.updateChannel (h : f.Counts debts) {channel : NativeId} {change : Channel → Channel}
    (hchange : ∀ c, f.channels.find? channel = some c →
      c.descriptor.target = .counter c.pending.length →
      (change c).descriptor.target = .counter (change c).pending.length) :
    (f.updateChannel channel change).Counts debts := by
  refine h.frame (fun id c' hc' => ?_) (fun id q hq => .inl ⟨q, hq, rfl⟩) (Nat.le_refl _)
  simp only [Fabric.updateChannel, Table.find?_modify] at hc'
  split at hc'
  case isTrue hid =>
    obtain ⟨c, hc, rfl⟩ := Option.map_eq_some_iff.1 hc'
    exact .inr (hchange c (hid ▸ hc) (h.tokens id c hc))
  case isFalse => exact .inl hc'

theorem Counts.updateCq (h : f.Counts debts) (cq : NativeId)
    {change : CompletionQueue → CompletionQueue}
    (hkeep : ∀ q, (change q).unacknowledged = q.unacknowledged) :
    (f.updateCq cq change).Counts debts :=
  h.frame (fun _ _ hc => .inl hc) (fun _ _ hq => .inl (updateCq_acks hq hkeep)) (Nat.le_refl _)

/-- A completion queue whose count changes as the debt does. -/
theorem Counts.owe (h : f.Counts debts) {cq : NativeId} {change : CompletionQueue → CompletionQueue}
    {pay : Debt → Debt}
    (hchange : ∀ q, f.cqs.find? cq = some q → (pay (debts cq)).most < ackLimit →
      ((debts cq).most < ackLimit → q.unacknowledged.toNat = (debts cq).owed) →
      (change q).unacknowledged.toNat = (pay (debts cq)).owed)
    (hunborn : f.nextId ≤ cq → (pay (debts cq)).owed = 0) :
    (f.updateCq cq change).Counts fun id => if cq = id then pay (debts id) else debts id := by
  constructor
  case tokens => exact h.tokens
  case acks =>
    intro id q' hq' hmost
    simp only [Fabric.updateCq, Table.find?_modify] at hq'
    by_cases hid : cq = id
    · subst hid
      rw [if_pos rfl] at hq' hmost ⊢
      obtain ⟨q, hq, rfl⟩ := Option.map_eq_some_iff.1 hq'
      exact hchange q hq hmost (h.acks cq q hq)
    · rw [if_neg (Ne.symm hid)] at hq'
      rw [if_neg hid] at hmost ⊢
      exact h.acks id q' hq' hmost
  case unborn =>
    intro id hbelow
    by_cases hid : cq = id
    · subst hid
      rw [if_pos rfl]
      exact hunborn hbelow
    · rw [if_neg hid]
      exact h.unborn id hbelow

theorem Counts.fetch (h : f.Counts debts) {cq : NativeId} (hcq : cq < f.nextId) :
    (f.updateCq cq (·.fetched)).Counts fun id =>
      if cq = id then (debts id).fetched else debts id := by
  refine h.owe (fun q hq hmost hbefore => ?_) fun hnew => absurd hcq (Nat.not_lt.2 hnew)
  obtain ⟨hmost, howed⟩ := Nat.max_lt.1 hmost
  have hroom : (debts cq).owed + 1 < 2 ^ 32 := howed
  simp only [CompletionQueue.fetched, Debt.fetched, UInt32.toNat_add, hbefore hmost]
  exact Nat.mod_eq_of_lt hroom

theorem Counts.ack (h : f.Counts debts) (cq : NativeId) (n : UInt32) :
    (f.updateCq cq (·.acked n)).Counts fun id =>
      if cq = id then (debts id).acked n else debts id := by
  refine h.owe (fun q _ hmost hbefore => ?_) fun hnew => ?_
  · have hcount : q.unacknowledged.toNat = (debts cq).owed := hbefore hmost
    have hmin : min n q.unacknowledged = if n ≤ q.unacknowledged then n else q.unacknowledged := rfl
    rw [CompletionQueue.acked, Debt.acked, ← hcount, hmin]
    split
    case isTrue hfew => exact UInt32.toNat_sub_of_le _ _ hfew
    case isFalse hmany =>
      have hlt : q.unacknowledged.toNat < n.toNat := UInt32.lt_iff_toNat_lt.1 (UInt32.not_le.1 hmany)
      simp only [UInt32.sub_self]
      exact (Nat.sub_eq_zero_of_le (Nat.le_of_lt hlt)).symm
  · simp only [Debt.acked, h.unborn cq hnew, Nat.zero_sub]

/-- An event and its token. -/
theorem Channel.raised_counts {c : Channel} (hc : c.descriptor.target = .counter c.pending.length)
    (event : CqEvent) :
    (c.raised event).descriptor.target = .counter (c.raised event).pending.length := by
  simp [Channel.raised, Descriptor.signal_counter hc, Except.toOption]

/-- As many tokens go as events go. -/
theorem Channel.rid_counts {c : Channel} (hc : c.descriptor.target = .counter c.pending.length)
    (cq : NativeId) :
    (c.rid cq).descriptor.target = .counter (c.rid cq).pending.length := by
  have hfew : (c.pending.filter (·.cq ≠ cq)).length ≤ c.pending.length := List.length_filter_le ..
  simp only [Channel.rid, Descriptor.drained_counter _ hc, Nat.sub_sub_self hfew]

end Fabric

/-- The provider keeps the stores of every channel in step. -/
theorem Delivery.counts {f g : Fabric} {debts : NativeId → Debt} (hstep : Delivery f es g)
    (h : f.Counts debts) : g.Counts debts := by
  cases hstep with
  | aside hcqs hchannels hnext =>
      exact h.frame (fun _ _ hc => .inl (hchannels ▸ hc))
        (fun _ q hq => .inl ⟨q, hcqs ▸ hq, rfl⟩) hnext
  | addChannel hnew _ hcqs hchannels hnext =>
      refine h.frame (fun id c' hc' => ?_) (fun _ q hq => .inl ⟨q, hcqs ▸ hq, rfl⟩)
        (hnext ▸ Nat.le_succ _)
      rw [hchannels, Table.find?_insert] at hc'
      split at hc'
      case isTrue =>
        obtain rfl := Option.some.inj hc'
        exact .inr (hnew ▸ rfl)
      case isFalse => exact .inl hc'
  | dropChannel _ hcqs hchannels hnext =>
      refine h.frame (fun id c' hc' => ?_) (fun _ q hq => .inl ⟨q, hcqs ▸ hq, rfl⟩)
        (Nat.le_of_eq hnext.symm)
      rw [hchannels, Table.find?_erase] at hc'
      split at hc'
      · cases hc'
      · exact .inl hc'
  | addCq hnew _ hcqs hchannels hnext =>
      refine h.frame (fun _ _ hc => .inl (hchannels ▸ hc)) (fun id q' hq' => ?_)
        (hnext ▸ Nat.le_succ _)
      rw [hcqs, Table.find?_insert] at hq'
      split at hq'
      case isTrue hid =>
        obtain rfl := Option.some.inj hq'
        exact .inr ⟨Nat.le_of_eq hid.symm, hnew ▸ rfl⟩
      case isFalse => exact .inl ⟨q', hq', rfl⟩
  | @dropCq _ cq q _ _ _ hcqs hchannels hnext =>
      have hrid : (f.updateChannel? q.channel (·.rid cq)).Counts debts := by
        cases q.channel with
        | none => exact h
        | some channel => exact h.updateChannel fun c _ hc => c.rid_counts hc cq
      refine hrid.frame (fun _ _ hc => .inl (hchannels ▸ hc)) (fun id q' hq' => ?_)
        (Nat.le_of_eq ((Fabric.updateChannel?_nextId ..).trans hnext.symm))
      rw [hcqs, Table.find?_erase] at hq'
      split at hq'
      · cases hq'
      · exact .inl ⟨q', by rwa [Fabric.updateChannel?_cqs], rfl⟩
  | lose | store => exact h.updateCq _ fun _ => rfl
  | @wake cq q c =>
      have hstored : (f.updateCq cq fun q => (q.stored c).disarmed).Counts debts :=
        h.updateCq cq fun _ => rfl
      cases q.channel with
      | none => exact hstored
      | some channel => exact hstored.updateChannel fun c _ hc => c.raised_counts hc _

theorem Trail.counts {f g : Fabric} {debts : NativeId → Debt} (htrail : Trail Delivery f es g)
    (h : f.Counts debts) : g.Counts debts :=
  htrail.keeps (P := fun f => f.Counts debts) (fun _ _ _ hstep => hstep.counts) h

namespace Host

variable {h k : Host} {devices : List DeviceConfig} {debts : NativeId → Debt} {c : Channel}

/-! ## Fetching -/

/-- Where no event waits there is no token to take, and nothing happens. -/
theorem getCqEvent_of_empty (hc : ∀ c, h.fabric.channels.find? id = some c →
      c.descriptor.target = .counter c.pending.length ∧ c.pending = []) :
    ∃ cause, getCqEvent id h = (.error cause, h) := by
  unfold getCqEvent
  cases hfound : h.fabric.channels.find? id with
  | none => exact ⟨_, rfl⟩
  | some c =>
      obtain ⟨htokens, hpending⟩ := hc c hfound
      rw [hpending] at htokens
      simp only [Descriptor.take_empty htokens]
      exact ⟨_, rfl⟩

/-- Where an event waits there is a token, and both are taken. -/
theorem getCqEvent_of_waiting (hc : h.fabric.channels.find? id = some c)
    (htokens : c.descriptor.target = .counter c.pending.length) {event : CqEvent}
    {rest : List CqEvent} (hpending : c.pending = event :: rest) :
    getCqEvent id h = (.ok event,
      ({ h with fabric := (h.fabric.updateChannel id fun c => { c with
          descriptor := { c.descriptor with target := .counter rest.length }
          pending := rest }).updateCq event.cq (·.fetched) } : Host).note
        (.eventFetched id event)) := by
  rw [hpending] at htokens
  have htake := Descriptor.take_counter htokens
  have hsame : (h.fabric.updateChannel id fun c' => { c' with
        descriptor := { c.descriptor with target := .counter rest.length }, pending := rest }) =
      h.fabric.updateChannel id fun c' => { c' with
        descriptor := { c'.descriptor with target := .counter rest.length }, pending := rest } :=
    Fabric.updateChannel_of_find hc rfl
  simp only [getCqEvent, hc, htake, hpending, hsame]
  rfl

/-! ## Runs that leave descriptors alone -/

/-- Does the operation leave the tokens of every channel alone, but for what the provider does with
them? Flags of descriptors may change. -/
def Operation.LeavesTokens (h : Host) : Operation → Prop
  | .setDescriptor channel descriptor => ∀ c, h.fabric.channels.find? channel = some c →
      descriptor.target = c.descriptor.target
  | _ => True

/-- The hosts that operations lead to as long as nobody but the provider closes, reads or writes the
descriptor of a channel, with what consumers owe the completion queues. -/
inductive Custody (devices : List DeviceConfig) : (NativeId → Debt) → Host → Prop
  | fresh (memory : Memory) :
      Custody devices (fun _ => {}) (({ memory } : Host).withDevices devices)
  | perform {debts : NativeId → Debt} {h : Host} (op : Operation) : op.LeavesTokens h →
      Custody devices debts h → Custody devices (fun cq => (debts cq).after h cq op) (h.perform op)
  | note {debts : NativeId → Debt} {h : Host} (e : Event) : e.ofHandleLayer →
      Custody devices debts h → Custody devices debts (h.note e)

/-- Does the operation change a descriptor? All others leave tokens alone. -/
def Operation.setsDescriptor : Operation → Bool
  | .setDescriptor .. => true
  | _ => false

theorem Custody.performAll (hc : Custody devices debts h) {ops : List Operation}
    (hops : ∀ op ∈ ops, op.setsDescriptor = false) :
    Custody devices (fun cq => (debts cq).afterAll h cq ops) (h.performAll ops) := by
  induction ops generalizing h debts with
  | nil => exact hc
  | cons op rest ih =>
      have hop : op.LeavesTokens h := by
        have hnone := hops op List.mem_cons_self
        cases op <;> trivial
      exact ih (.perform op hop hc) fun op hop => hops op (List.mem_cons_of_mem _ hop)

theorem Custody.reachable (hc : Custody devices debts h) : Reachable devices h := by
  induction hc with
  | fresh memory => exact .fresh memory
  | perform op _ _ ih => exact .perform op ih
  | note e he _ ih => exact .note e he ih

/-- An event waits on a channel, or there is no token to take from it. -/
theorem waits_or_not (h : Host) (hcounts : h.fabric.Counts debts) (id : NativeId) :
    (∀ c, h.fabric.channels.find? id = some c →
        c.descriptor.target = .counter c.pending.length ∧ c.pending = []) ∨
      ∃ c event rest, h.fabric.channels.find? id = some c ∧ c.pending = event :: rest := by
  cases hc : h.fabric.channels.find? id with
  | none => exact .inl nofun
  | some c =>
      cases hpending : c.pending with
      | nil =>
          refine .inl fun c' hc' => ?_
          obtain rfl := Option.some.inj hc'
          exact ⟨hcounts.tokens id c hc, hpending⟩
      | cons event rest => exact .inr ⟨c, event, rest, rfl, hpending⟩

/-- Every operation that leaves tokens alone keeps counts. -/
theorem perform_counts (hh : h.Sound) (hcounts : h.fabric.Counts debts) {op : Operation}
    (hop : op.LeavesTokens h) :
    (h.perform op).fabric.Counts fun cq => (debts cq).after h cq op := by
  cases hdemands : op.demands with
  | false =>
      have hsame : (fun cq => (debts cq).after h cq op) = debts := by
        cases op <;> first | rfl | cases hdemands
      rw [hsame]
      exact (perform_delivers hh hdemands).since.counts hcounts
  | true =>
      cases op with
      | pollCq cq n =>
          refine Step.guarded_cases
            (P := fun r : Except OsError (List Completion) × Host => r.2.fabric.Counts debts)
            (fun _ _ => hcounts) fun _ _ => hcounts.updateCq cq fun _ => rfl
      | reqNotifyCq cq solicitedOnly =>
          refine Step.guarded_cases
            (P := fun r : Except OsError Unit × Host => r.2.fabric.Counts debts)
            (fun _ _ => hcounts) fun _ _ => hcounts.updateCq cq fun _ => rfl
      | getCqEvent channel =>
          rcases h.waits_or_not hcounts channel with hempty | ⟨c, event, rest, hc, hpending⟩
          · obtain ⟨cause, hanswer⟩ := getCqEvent_of_empty hempty
            simpa only [perform, Debt.after, hanswer] using hcounts
          · have htokens := hcounts.tokens channel c hc
            obtain ⟨q, ho, -⟩ := hh.pending hc event (by simp [hpending])
            have hbelow : event.cq < h.fabric.nextId := (hh.fabric.below ho).2
            simp only [perform, Debt.after, getCqEvent_of_waiting hc htokens hpending]
            exact (hcounts.updateChannel fun _ _ _ => rfl).fetch hbelow
      | ackCqEvents cq n => exact hcounts.ack cq n
      | setDescriptor channel descriptor =>
          exact hcounts.updateChannel fun c hc htokens => (hop c hc).trans htokens
      | _ => cases hdemands

/-- Runs that leave descriptors alone keep counts. -/
theorem Custody.counts (hc : Custody devices debts h) : h.fabric.Counts debts := by
  induction hc with
  | fresh memory =>
      have hstart : ({} : Fabric).Counts fun _ => {} := by
        constructor
        case tokens | acks => exact fun _ _ hfound => nomatch hfound
        case unborn => exact fun _ _ => rfl
      exact (fresh_tells memory devices).since.counts hstart
  | perform op hop hc ih => exact perform_counts hc.reachable.sound ih hop
  | note e _ _ ih => exact ih

/-! ## What a completion queue was created with -/

/-- A life does not change what a completion queue was created with. -/
theorem asCreated_of_life {q q' : CompletionQueue}
    (htrail : Trail (CqStep id) (.live q) es (.live q')) : q'.asCreated = q.asCreated := by
  -- a queue that is gone stays so, for its identity is not given out again
  let SameOrGone : CqLife → Prop
    | .unborn => False
    | .live q' => q'.asCreated = q.asCreated
    | .gone => True
  have hkeeps : ∀ l es l', CqStep id l es l' → SameOrGone l → SameOrGone l' := by
    intro l es l' hstep hl
    cases hstep with
    | same | lost | stored | woken | polled | armed | fetched | acked => exact hl
    | destroyed => trivial
    | passed | created => exact hl.elim
  exact htrail.keeps (P := SameOrGone) hkeeps rfl

end Host

/-- The stores of a channel agree with each other, with the completion queues and with what
happened. -/
structure Fabric.Channel.Agrees (c : Channel) (id : NativeId) (h : Host) : Prop where
  tokens : c.descriptor.target = .counter c.pending.length
  /-- Whatever waits tells of a live completion queue that reports to the channel. -/
  named : ∀ event ∈ c.pending, ∃ q, h.fabric.cqs.find? event.cq = some q ∧
    q.channel = some id ∧ q.cookie = event.cookie
  accounts : c.Accounts h.fabric.cqs id h.journal.toList

namespace Host

/-- While nobody but the provider touches tokens, channels and their tokens agree. Whoever asks a
channel for an event gets the oldest that waits, with its token, or nothing happens. A channel with
events cannot be destroyed, nor can a completion queue with events to be acknowledged, up to as many
as it can count. What a completion queue is created with stays with it. -/
theorem custody_agrees {devices : List DeviceConfig} {debts : NativeId → Debt} {h : Host}
    (hcustody : Custody devices debts h) :
    (∀ id c, h.fabric.channels.find? id = some c → c.Agrees id h ∧
      (c.pending ≠ [] → destroyChannel id h = (.error .busy, h)) ∧
      ∀ event rest, c.pending = event :: rest → ∃ k c', getCqEvent id h = (.ok event, k) ∧
        k.fabric.channels.find? id = some c' ∧ c'.pending = rest ∧
        c'.descriptor.target = .counter rest.length) ∧
    (∀ id, (∀ c, h.fabric.channels.find? id = some c → c.pending = []) →
      ∃ cause, getCqEvent id h = (.error cause, h)) ∧
    (∀ id q, h.fabric.cqs.find? id = some q → (debts id).most < ackLimit →
      q.unacknowledged.toNat = (debts id).owed ∧
        (0 < (debts id).owed → destroyCq id h = (.error .busy, h))) ∧
    ∀ ctx depth channel cookie vector grant,
      (createCq ctx depth channel cookie vector h).1 = .ok grant →
      ∀ k, (createCq ctx depth channel cookie vector h).2.Leads k →
      ∀ q, k.fabric.cqs.find? grant.native = some q → q.channel = channel ∧ q.cookie = cookie := by
  have hr := hcustody.reachable
  have hh := hr.sound
  have hcounts := hcustody.counts
  have hnamed (id : NativeId) (c : Channel) (hc : h.fabric.channels.find? id = some c)
      (event : CqEvent) (hevent : event ∈ c.pending) : ∃ q,
        h.fabric.cqs.find? event.cq = some q ∧ q.channel = some id ∧ q.cookie = event.cookie := by
    obtain ⟨_, ho, hchannel, hcookie⟩ := hh.pending hc event hevent
    obtain ⟨q, hq, ⟨⟩⟩ := Option.map_eq_some_iff.1 ho
    exact ⟨q, hq, hchannel, hcookie⟩
  refine ⟨fun id c hc => ⟨?agrees, fun hpending => ?busyChannel, fun event rest hpending => ?waits⟩,
    fun id hempty => ?empty, fun id q hq hmost => ?acks, ?born⟩
  case agrees => exact ⟨hcounts.tokens id c hc, hnamed id c hc, hr.accounts hc⟩
  case busyChannel =>
    obtain ⟨event, rest, hpending⟩ := List.exists_cons_of_ne_nil hpending
    obtain ⟨q, hq, hchannel, -⟩ := hnamed id c hc event (by simp [hpending])
    have hused : h.fabric.cqs.values.any (·.channel = some id) = true :=
      Table.any_values.2 ⟨event.cq, q, hq, by simpa using hchannel⟩
    simp only [destroyChannel, Step.guarded, Table.contains, hc, hused]
    rfl
  case waits =>
    have htokens := hcounts.tokens id c hc
    refine ⟨_, { c with
      descriptor := { c.descriptor with target := .counter rest.length }
      pending := rest }, getCqEvent_of_waiting hc htokens hpending, ?_, rfl, rfl⟩
    simp [Fabric.updateChannel, Fabric.updateCq, hc]
  case empty =>
    exact getCqEvent_of_empty fun c hc => ⟨hcounts.tokens id c hc, hempty c hc⟩
  case acks =>
    have hcount := hcounts.acks id q hq hmost
    refine ⟨hcount, fun howed => ?_⟩
    have hack : q.unacknowledged > 0 := UInt32.lt_iff_toNat_lt.2 (hcount ▸ howed)
    simp only [destroyCq, Step.guarded, Fabric.checkCqUnused, hq, hack, if_true]
  case born =>
    intro ctx depth channel cookie vector grant hgrant k hk q hq
    have hcreated : Reachable devices (createCq ctx depth channel cookie vector h).2 :=
      .perform (.createCq ctx depth channel cookie vector) hr
    obtain ⟨o, ⟨hnative, rfl⟩, ho⟩ :=
      (h.createCq_created ctx depth channel cookie vector).object hgrant
    obtain ⟨q', hq', hnew⟩ := Option.map_eq_some_iff.1 ho
    have hlife := hk.life hcreated grant.native
    rw [Fabric.cqLife_of_live (hnative ▸ hq'), Fabric.cqLife_of_live hq] at hlife
    have hsame := (asCreated_of_life hlife).trans (Fabric.Object.cq.inj hnew)
    exact ⟨congrArg (·.channel) hsame, congrArg (·.cookie) hsame⟩

/-- Two completion queues report to one channel. One of their two events is fetched. -/
theorem loopback_custody_agrees :
    let ops : List Operation :=
      [.openDevice { native := 1, name := none }, .allocPd 2, .createChannel 2,
        .createCq 2 4 (some 4) 77 0, .createCq 2 4 (some 4) 78 0,
        .createQp 3
          { sendCq := 5, recvCq := 6, srq := none, transport := .reliable, signalAll := true,
            caps := {} },
        .modifyQp 7 { state := QpState.error.code } .state, .reqNotifyCq 5 false,
        .reqNotifyCq 6 false, .postSend 7 [{ wrId := 1 }], .postRecv 7 [{ wrId := 2 }],
        .getCqEvent 4, .destroyQp 7]
    let h := (({} : Host).withDevices [{}]).performAll ops
    ∃ c, h.fabric.channels.find? 4 = some c ∧ c.pending = [⟨6, 78⟩] ∧ c.Agrees 4 h ∧
      h.journal.toList.filterMap (Event.raisedOn? 4) = [⟨5, 77⟩, ⟨6, 78⟩] ∧
      destroyChannel 4 h = (.error .busy, h) ∧ destroyCq 5 h = (.error .busy, h) ∧
      (getCqEvent 4 h).1 = .ok ⟨6, 78⟩ := by
  intro ops h
  have hstate : (h.fabric.channels.find? 4).map (·.pending) = some [⟨6, 78⟩] := by decide +kernel
  obtain ⟨c, hc, hpending⟩ := Option.map_eq_some_iff.1 hstate
  obtain ⟨q, hq⟩ : ∃ q, h.fabric.cqs.find? 5 = some q :=
    Option.isSome_iff_exists.1 (by decide +kernel)
  have hcustody : Custody [{}] _ h :=
    (Custody.fresh {}).performAll (show ∀ op ∈ ops, op.setsDescriptor = false by decide)
  have hdebt : (({} : Debt).afterAll (({} : Host).withDevices [{}]) 5 ops) = ⟨1, 1⟩ := by
    decide +kernel
  obtain ⟨hchannels, -, hcqs, -⟩ := custody_agrees hcustody
  obtain ⟨hagrees, hbusy, hfetch⟩ := hchannels 4 c hc
  obtain ⟨-, howed⟩ := hcqs 5 q hq (by rw [hdebt]; decide)
  obtain ⟨k, c', hanswer, -⟩ := hfetch ⟨6, 78⟩ [] hpending
  exact ⟨c, hc, hpending, hagrees, by decide +kernel, hbusy (by simp [hpending]),
    howed (by rw [hdebt]; decide), by rw [hanswer]⟩

/-! ## More events than a completion queue counts -/

/-- What is owed for `n` events of which none was acknowledged. -/
def unpaid (n : Nat) : Debt := { owed := n, most := n }

theorem unpaid_fetched (n : Nat) : (unpaid n).fetched = unpaid (n + 1) := by
  simp [unpaid, Debt.fetched]

/-- A completion queue, 5, reports to a channel, 4. What is posted to the queue pair, 6, completes
into it at once, for the queue pair is in the error state. -/
def watched : Host :=
  (({} : Host).withDevices [{}]).performAll
    [.openDevice { native := 1, name := none }, .allocPd 2, .createChannel 2,
      .createCq 2 1 (some 4) 77 0,
      .createQp 3
        { sendCq := 5, recvCq := 5, srq := none, transport := .reliable, signalAll := true,
          caps := {} },
      .modifyQp 6 { state := QpState.error.code } .state]

/-- The fabric with a count of events to be acknowledged. -/
def owing (count : UInt32) : Fabric :=
  watched.fabric.updateCq 5 fun q => { q with unacknowledged := count }

/-- The same fabric with an event that waits on the channel, for a receive request was flushed. -/
def signalled (count : UInt32) : Fabric :=
  let flushed : Completion :=
    { wrId := 1, status := CompletionStatus.flushed.code, opcode := CompletionOpcode.recv.code,
      qpNumber := 0x100 }
  ((owing count).updateCq 5 (·.stored flushed)).updateChannel 4 (·.raised ⟨5, 77⟩)

def raiseOne : List Operation := [.reqNotifyCq 5 false, .postRecv 6 [{ wrId := 1 }]]

def fetchOne : List Operation := [.pollCq 5 1, .getCqEvent 4]

/-- Events are raised and fetched one after the other, and none is acknowledged. -/
def fetching : Nat → List Operation
  | 0 => []
  | n + 1 => raiseOne ++ fetchOne ++ fetching n

theorem performAll_raiseOne {count : UInt32} (hf : h.fabric = owing count) (d : Debt) :
    (h.performAll raiseOne).fabric = signalled count ∧ d.afterAll h 5 raiseOne = d := by
  obtain ⟨⟩ := h
  subst hf
  exact ⟨rfl, rfl⟩

theorem performAll_fetchOne {count : UInt32} (hf : h.fabric = signalled count) (d : Debt) :
    (h.performAll fetchOne).fabric = owing (count + 1) ∧ d.afterAll h 5 fetchOne = d.fetched := by
  obtain ⟨⟩ := h
  subst hf
  exact ⟨rfl, rfl⟩

/-- A round leaves nothing behind in the fabric but a count that is one higher. The count is taken
modulo 2^32, and the debt is not. -/
theorem performAll_fetching {k : Nat} (hf : h.fabric = owing (.ofNat k)) (n : Nat) :
    (h.performAll (fetching n)).fabric = owing (.ofNat (k + n)) ∧
      (unpaid k).afterAll h 5 (fetching n) = unpaid (k + n) := by
  induction n generalizing h k with
  | zero => exact ⟨hf, rfl⟩
  | succ n ih =>
      obtain ⟨hraised, hsame⟩ := performAll_raiseOne hf (unpaid k)
      obtain ⟨hfetched, hmore⟩ := performAll_fetchOne hraised (unpaid k)
      let g := (h.performAll raiseOne).performAll fetchOne
      have hround : g.fabric = owing (.ofNat (k + 1)) := by
        rw [hfetched, UInt32.ofNat_add]
        rfl
      obtain ⟨hrest, hdebt⟩ := ih hround
      rw [Nat.add_right_comm, Nat.add_assoc] at hrest hdebt
      refine ⟨hrest, ?_⟩
      calc (unpaid k).afterAll h 5 (fetching (n + 1))
          = (((unpaid k).afterAll h 5 raiseOne).afterAll (h.performAll raiseOne) 5 fetchOne).afterAll
              g 5 (fetching n) := rfl
        _ = (unpaid (k + 1)).afterAll g 5 (fetching n) := by rw [hsame, hmore, unpaid_fetched]
        _ = unpaid (k + (n + 1)) := hdebt

/-- As many events are fetched, and then nothing completes into the queue any more. -/
def overrun (n : Nat) : Host := (watched.performAll (fetching n)).perform (.destroyQp 6)

theorem fetching_setsDescriptor (n : Nat) : ∀ op ∈ fetching n, op.setsDescriptor = false := by
  induction n with
  | zero => exact fun _ hop => nomatch hop
  | succ n ih =>
      intro op hop
      rcases List.mem_append.1 hop with hone | hrest
      · exact (by decide : ∀ op ∈ raiseOne ++ fetchOne, op.setsDescriptor = false) op hone
      · exact ih op hrest

theorem overrun_custody (n : Nat) :
    ∃ debts, Custody [{}] debts (overrun n) ∧ debts 5 = unpaid n := by
  have hdebt := (performAll_fetching (h := watched) (k := 0) rfl n).2
  rw [Nat.zero_add] at hdebt
  have hwatched : Custody [{}] _ watched := (Custody.fresh {}).performAll (by decide)
  have hfetched := hwatched.performAll (fetching_setsDescriptor n)
  exact ⟨_, .perform (.destroyQp 6) trivial hfetched, hdebt⟩

theorem overrun_fabric (n : Nat) : (overrun n).fabric =
    { owing (.ofNat n) with qps := .empty, qpNumbers := .empty } := by
  have hfetched := (performAll_fetching (h := watched) (k := 0) rfl n).1
  rw [Nat.zero_add] at hfetched
  unfold overrun
  -- nothing else is used of how this host came about
  generalize UInt32.ofNat n = count at hfetched ⊢
  generalize watched.performAll (fetching n) = h at hfetched ⊢
  obtain ⟨⟩ := h
  subst hfetched
  rfl

/-- A completion queue of which `n` events were fetched and none acknowledged can be destroyed
whenever `n` is a multiple of 2^32, for its count is zero then. -/
theorem destroyCq_overrun (n : Nat) :
    (destroyCq 5 (overrun n)).1 = .ok () ↔ UInt32.size ∣ n := by
  have hfabric := overrun_fabric n
  obtain ⟨q, hq, hcount⟩ : ∃ q, (overrun n).fabric.cqs.find? 5 = some q ∧
      q.unacknowledged = .ofNat n := by
    rw [hfabric]
    exact ⟨_, rfl, rfl⟩
  have hunused : (overrun n).fabric.qps.values = [] := by
    rw [hfabric]
    rfl
  have hzero : q.unacknowledged = 0 ↔ UInt32.size ∣ n := by
    rw [hcount, ← UInt32.toNat_inj, UInt32.toNat_ofNat', Nat.dvd_iff_mod_eq_zero]
    rfl
  rw [← hzero]
  by_cases hnone : q.unacknowledged = 0
  · simp [destroyCq, Step.guarded, Fabric.checkCqUnused, hq, hunused, hnone]
  · simp [destroyCq, Step.guarded, Fabric.checkCqUnused, hq, hnone, UInt32.pos_iff_ne_zero]

/-- Six objects are enough for 2^32 events of one completion queue to be fetched. As long as one of
them is not acknowledged the queue should not be destroyed; here none is, and yet it can be. -/
theorem count_comes_round :
    let h := overrun 4294967296
    (∃ debts, Custody [{}] debts h ∧ (debts 5).owed = 4294967296) ∧ h.fabric.nextId = 7 ∧
      (destroyCq 5 h).1 = .ok () := by
  obtain ⟨debts, hcustody, hdebt⟩ := overrun_custody 4294967296
  have hfabric := overrun_fabric 4294967296
  have hdestroyed := (destroyCq_overrun 4294967296).2 ⟨1, rfl⟩
  generalize UInt32.ofNat 4294967296 = count at hfabric
  exact ⟨⟨debts, hcustody, congrArg Debt.owed hdebt⟩, by rw [hfabric]; rfl, hdestroyed⟩

end Host

end Rdma
