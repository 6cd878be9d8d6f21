import Rdma.Proofs.Completion.Delivery

/-!
# The life of a completion queue

Out of all that happens to completion queues and channels, what happens to one completion queue is
its life: it is created once, completions are stored in it or lost, it is polled and armed, its
events are fetched and acknowledged, and it may be destroyed. What holds of every step of a life, by
cases on the steps, holds of a whole life by one induction.

* `Dealing.life` — a step of either side is a step in the life of each completion queue;
* `Host.Leads.life`, `Host.Reachable.life` — lives told by the journal.
-/

namespace Rdma

open Fabric (CompletionQueue)

/-- Where a completion queue stands. -/
inductive CqLife where
  | unborn
  | live (q : CompletionQueue)
  | gone

/-- Where the completion queue of an identity stands. Identities are given out once. -/
def Fabric.cqLife (f : Fabric) (id : NativeId) : CqLife :=
  match f.cqs.find? id with
  | some q => .live q
  | none => if id < f.nextId then .gone else .unborn

/-- Does the event tell of the completion queue? -/
def Event.tellsOf (cq : NativeId) (e : Event) : Bool := e.cq? = some cq

/-- A step in the life of a completion queue, with what is written down of it. -/
inductive CqStep (id : NativeId) : CqLife → List Event → CqLife → Prop
  | same (l : CqLife) : CqStep id l [] l
  /-- The identity is given to something else. -/
  | passed : CqStep id .unborn [] .gone
  | created {q : CompletionQueue} : q.asCreated = q → CqStep id .unborn [] (.live q)
  | destroyed {q : CompletionQueue} : q.unacknowledged = 0 → CqStep id (.live q) [] .gone
  | lost {q : CompletionQueue} (c : Completion) (solicited : Bool) : q.isFull = true →
      CqStep id (.live q) (q.losing id c solicited) (.live q.lost)
  | stored {q : CompletionQueue} (c : Completion) (solicited : Bool) : q.isFull = false →
      q.wakes c solicited = false →
      CqStep id (.live q) [.completed id c solicited true] (.live (q.stored c))
  | woken {q : CompletionQueue} (c : Completion) (solicited : Bool) : q.isFull = false →
      q.wakes c solicited = true →
      CqStep id (.live q) (q.waking id c solicited) (.live (q.stored c).disarmed)
  | polled {q : CompletionQueue} (n : Nat) : q.overflowed = false →
      CqStep id (.live q) [.polled id (q.entries.take n)] (.live (q.polled n))
  | armed {q : CompletionQueue} (solicitedOnly : Bool) : q.channel.isSome →
      CqStep id (.live q) [.armed id solicitedOnly] (.live (q.armedFor solicitedOnly))
  | fetched {q : CompletionQueue} {channel : NativeId} : q.channel = some channel →
      CqStep id (.live q) [.eventFetched channel (q.event id)] (.live q.fetched)
  | acked {q : CompletionQueue} (n : UInt32) : CqStep id (.live q) [] (.live (q.acked n))

/-! ## Steps of either side -/

namespace Fabric

variable {f g : Fabric} {id : NativeId}

theorem cqLife_of_live {q : CompletionQueue} (hq : f.cqs.find? id = some q) :
    f.cqLife id = .live q := by
  simp only [cqLife, hq]

theorem cqLife_congr (hcqs : g.cqs.find? id = f.cqs.find? id)
    (hnext : id < g.nextId ↔ id < f.nextId) : g.cqLife id = f.cqLife id := by
  simp only [cqLife, hcqs, hnext]

end Fabric

theorem filter_tellsOf {id : NativeId} {es : List Event} (hes : ∀ e ∈ es, e.cq? = some id) :
    es.filter (·.tellsOf id) = es :=
  List.filter_eq_self.2 fun e he => by simp [Event.tellsOf, hes e he]

theorem filter_tellsOf_other {id id' : NativeId} {es : List Event}
    (hes : ∀ e ∈ es, e.cq? = some id') (hne : id ≠ id') : es.filter (·.tellsOf id) = [] :=
  List.filter_eq_nil_iff.2 fun e he => by simp [Event.tellsOf, hes e he, hne.symm]

theorem Fabric.CompletionQueue.cq_of_losing (q : CompletionQueue) {id : NativeId} {c : Completion}
    {solicited : Bool} : ∀ e ∈ q.losing id c solicited, e.cq? = some id := by
  intro e he
  cases hover : q.overflowed <;> simp [losing, hover] at he <;> grind [Event.cq?]

theorem Fabric.CompletionQueue.cq_of_waking (q : CompletionQueue) {id : NativeId} {c : Completion}
    {solicited : Bool} : ∀ e ∈ q.waking id c solicited, e.cq? = some id := by
  intro e he
  cases hc : q.channel <;> simp [waking, hc] at he <;> grind [Event.cq?, CompletionQueue.event]

section Views

variable {f g : Fabric} {es : List Event}

/-- A step of one completion queue is one in its life, and no other queue has a part in it. -/
theorem CqStep.of_modify {id id' : NativeId} {q : CompletionQueue}
    {change : CompletionQueue → CompletionQueue} (hq : f.cqs.find? id = some q)
    (hcqs : g.cqs = f.cqs.modify id change) (hnext : g.nextId = f.nextId)
    (hes : ∀ e ∈ es, e.cq? = some id) (hstep : CqStep id (.live q) es (.live (change q))) :
    CqStep id' (f.cqLife id') (es.filter (·.tellsOf id')) (g.cqLife id') := by
  by_cases hid : id' = id
  · subst hid
    have hq' : g.cqs.find? id' = some (change q) := by simp [hcqs, hq]
    rw [filter_tellsOf hes, Fabric.cqLife_of_live hq, Fabric.cqLife_of_live hq']
    exact hstep
  · have hsame : g.cqLife id' = f.cqLife id' :=
      Fabric.cqLife_congr (by simp [hcqs, hid]) (by rw [hnext])
    rw [filter_tellsOf_other hes hid, hsame]
    exact .same _

/-- An identity given to something that is no completion queue. -/
theorem CqStep.of_same_cqs (hcqs : g.cqs = f.cqs) (hnext : f.nextId ≤ g.nextId) {id : NativeId} :
    CqStep id (f.cqLife id) [] (g.cqLife id) := by
  unfold Fabric.cqLife
  rw [hcqs]
  cases f.cqs.find? id with
  | some q => exact .same _
  | none =>
      by_cases hbefore : id < f.nextId
      · simp only [hbefore, Nat.lt_of_lt_of_le hbefore hnext, if_true]
        exact .same _
      · by_cases hafter : id < g.nextId <;> simp only [hbefore, hafter, if_true, if_false]
        · exact .passed
        · exact .same _

/-- A delivery is one step, or none, in the life of each completion queue. -/
theorem Delivery.life (h : Delivery f es g) (id : NativeId) :
    CqStep id (f.cqLife id) (es.filter (·.tellsOf id)) (g.cqLife id) := by
  cases h with
  | aside hcqs _ hnext => exact .of_same_cqs hcqs hnext
  | addChannel _ _ hcqs _ hnext => exact .of_same_cqs hcqs (hnext ▸ Nat.le_succ _)
  | dropChannel _ hcqs _ hnext => exact .of_same_cqs hcqs (Nat.le_of_eq hnext.symm)
  | @addCq _ q hnew hfree hcqs _ hnext =>
      by_cases hid : id = f.nextId
      · subst hid
        have hunborn : f.cqLife f.nextId = .unborn := by simp [Fabric.cqLife, hfree]
        have hq : g.cqs.find? f.nextId = some q := by simp [hcqs]
        rw [hunborn, Fabric.cqLife_of_live hq]
        exact .created hnew
      · have hbelow : id < g.nextId ↔ id < f.nextId := by
          rw [hnext]
          exact Nat.lt_succ_iff_lt_or_eq.trans (or_iff_left hid)
        -- the counter moved past the new queue only, so any other stays what it was
        have hsame : g.cqLife id = f.cqLife id :=
          Fabric.cqLife_congr (by simp [hcqs, hid]) hbelow
        rw [hsame]
        exact .same _
  | @dropCq _ id' q hq hacked hbelow hcqs _ hnext =>
      by_cases hid : id = id'
      · subst hid
        have hgone : g.cqLife id = .gone := by simp [Fabric.cqLife, hcqs, hnext, hbelow]
        rw [hgone, Fabric.cqLife_of_live hq]
        exact .destroyed hacked
      · have hsame : g.cqLife id = f.cqLife id :=
          Fabric.cqLife_congr (by simp [hcqs, hid]) (by rw [hnext])
        rw [hsame]
        exact .same _
  | lose c solicited hq hfull =>
      exact .of_modify hq rfl rfl (CompletionQueue.cq_of_losing _) (.lost c solicited hfull)
  | store c solicited hq hroom hwakes =>
      exact .of_modify hq rfl rfl (by simp [Event.cq?]) (.stored c solicited hroom hwakes)
  | @wake id' q c solicited hq hroom hwakes _ =>
      have hcqs (channel : Option NativeId) (change : Fabric.Channel → Fabric.Channel) :
          ((f.updateCq id' fun q => (q.stored c).disarmed).updateChannel? channel change).cqs =
            f.cqs.modify id' fun q => (q.stored c).disarmed := Fabric.updateChannel?_cqs ..
      exact .of_modify hq (hcqs _ _) (Fabric.updateChannel?_nextId ..) q.cq_of_waking
        (.woken c solicited hroom hwakes)

/-- A demand is one step, or none, in the life of each completion queue. -/
theorem Demand.life (h : Demand f es g) (id : NativeId) :
    CqStep id (f.cqLife id) (es.filter (·.tellsOf id)) (g.cqLife id) := by
  cases h with
  | poll n hq hover => exact .of_modify hq rfl rfl (by simp [Event.cq?]) (.polled n hover)
  | arm solicitedOnly hq hchannel =>
      exact .of_modify hq rfl rfl (by simp [Event.cq?]) (.armed solicitedOnly hchannel)
  | @fetch channel _ _ event rest q _ _ _ hq hchannel hcookie =>
      have hevent : q.event event.cq = event := by rw [CompletionQueue.event, hcookie]
      have hstep : CqStep event.cq (.live q) [.eventFetched channel event] (.live q.fetched) :=
        hevent ▸ .fetched hchannel
      exact .of_modify hq rfl rfl (by simp [Event.cq?]) hstep
  | loseToken | setDescriptor => exact .of_same_cqs rfl (Nat.le_refl _)
  | ack id' n =>
      cases hq : f.cqs.find? id' with
      | none =>
          have hsame : (f.updateCq id' (·.acked n)).cqs = f.cqs :=
            Table.modify_eq_self (by simp [hq])
          exact .of_same_cqs hsame (Nat.le_refl _)
      | some q => exact .of_modify hq rfl rfl (fun _ he => by cases he) (.acked n)

theorem Dealing.life (h : Dealing f es g) (id : NativeId) :
    CqStep id (f.cqLife id) (es.filter (·.tellsOf id)) (g.cqLife id) := by
  cases h with
  | delivery h => exact h.life id
  | demand h => exact h.life id

end Views

/-! ## Runs -/

/-- What tells of one queue is among what tells of any. -/
theorem filter_ofQueues (id : NativeId) (events : List Event) :
    (events.filter Event.ofQueues).filter (·.tellsOf id) = events.filter (·.tellsOf id) := by
  rw [List.filter_filter]
  refine List.filter_congr fun e _ => ?_
  cases htells : e.tellsOf id with
  | false => rfl
  | true => simp [Event.ofQueues, of_decide_eq_true htells]

/-- What happens to all queues and channels, seen by one queue. -/
theorem Trail.life {f g : Fabric} {events : List Event}
    (h : Trail Dealing f (events.filter Event.ofQueues) g) (id : NativeId) :
    Trail (CqStep id) (f.cqLife id) (events.filter (·.tellsOf id)) (g.cqLife id) := by
  rw [← filter_ofQueues]
  exact h.view fun _ _ _ hstep => hstep.life id

namespace Host

variable {h k : Host} {devices : List DeviceConfig}

/-- What happens to a completion queue in a run is part of its life. -/
theorem Leads.life (hk : h.Leads k) (hr : Reachable devices h) (id : NativeId) :
    Trail (CqStep id) (h.fabric.cqLife id) ((k.eventsSince h).filter (·.tellsOf id))
      (k.fabric.cqLife id) :=
  Trail.life (hk.deals hr).since id

/-- The journal tells the whole life of every completion queue. -/
theorem Reachable.life (hr : Reachable devices h) (id : NativeId) :
    Trail (CqStep id) (({} : Fabric).cqLife id) (h.journal.toList.filter (·.tellsOf id))
      (h.fabric.cqLife id) :=
  Trail.life hr.deals id

end Host

end Rdma
