import Rdma.Fabric.Engine
import Rdma.Proofs.Fabric.Relocation

/-!
# Hosts under other identities

What runs on a host runs the same under other identities: the engine visits the queue pairs in the
same order, and completes the same requests in the same way.

* `complete_moved` — what is handed to completion queues;
* `step_moved`, `progress_moved` — the engine.
-/

namespace Rdma

variable (m : Relocation)

/-- The event under other identities. -/
def Event.moved : Event → Event
  | .sendAccepted qp request => .sendAccepted (m.move qp) request
  | .sendRetired qp request status => .sendRetired (m.move qp) request status
  | .recvAccepted queue request => .recvAccepted (queue.moved m) request
  | .recvTaken queue qp request => .recvTaken (queue.moved m) (m.move qp) request
  | .recvFlushed qp request => .recvFlushed (m.move qp) request
  | .queuesCleared qp => .queuesCleared (m.move qp)
  | .completed cq completion solicited stored => .completed (m.move cq) completion solicited stored
  | .undelivered cq completion => .undelivered (m.move cq) completion
  | .polled cq completions => .polled (m.move cq) completions
  | .overflowed cq => .overflowed (m.move cq)
  | .armed cq solicitedOnly => .armed (m.move cq) solicitedOnly
  | .eventRaised channel event => .eventRaised (m.move channel) (event.moved m)
  | .eventFetched channel event => .eventFetched (m.move channel) (event.moved m)
  | .created handle native => .created handle (m.move native)
  | e => e

namespace Host

open Fabric (QueuePair PendingSend Channel CompletionQueue)

/-- The host under other identities. -/
def moved (h : Host) : Host :=
  { h with
    fabric := h.fabric.moved m
    journal := ⟨h.journal.newestFirst.map (·.moved m) ++ m.past⟩ }

variable (h : Host)

@[simp] theorem moved_fabric : (h.moved m).fabric = h.fabric.moved m := rfl

@[simp] theorem moved_memory : (h.moved m).memory = h.memory := rfl

@[simp] theorem moved_descriptorsLeft : (h.moved m).descriptorsLeft = h.descriptorsLeft := rfl

section Changes

variable (id : NativeId)

theorem updateQp_moved {change change' : QueuePair → QueuePair}
    (same : ∀ q, change' (q.moved m) = (change q).moved m) :
    (h.moved m).updateQp (m.move id) change' = (h.updateQp id change).moved m :=
  congrArg (fun fabric => { h.moved m with fabric }) (h.fabric.updateQp_moved m id same)

theorem updateCq_moved {change change' : CompletionQueue → CompletionQueue}
    (same : ∀ q, change' (q.moved m) = (change q).moved m) :
    (h.moved m).updateCq (m.move id) change' = (h.updateCq id change).moved m :=
  congrArg (fun fabric => { h.moved m with fabric }) (h.fabric.updateCq_moved m id same)

theorem updateChannel_moved {change change' : Channel → Channel}
    (same : ∀ c, change' (c.moved m) = (change c).moved m) :
    { h.moved m with fabric := (h.moved m).fabric.updateChannel (m.move id) change' } =
      { h with fabric := h.fabric.updateChannel id change }.moved m :=
  congrArg (fun fabric => { h.moved m with fabric }) (h.fabric.updateChannel_moved m id same)

end Changes

theorem foldl_moved {α : Type} {f f' : Host → α → Host}
    (hf : ∀ h a, f' (h.moved m) a = (f h a).moved m) (items : List α) :
    items.foldl f' (h.moved m) = (items.foldl f h).moved m :=
  List.foldl_hom (moved m) hf

/-! ## Completing -/

/-- An event moves with its queue, but its cookie is the program's own and stays. -/
theorem raiseEvent_moved (channel : NativeId) (event : CqEvent) :
    (h.moved m).raiseEvent (m.move channel) (event.moved m) =
      (h.raiseEvent channel event).moved m := by
  let queued (k : Host) (id : NativeId) (e : CqEvent) (descriptor : Descriptor) : Host :=
    { k with
      fabric := k.fabric.updateChannel id fun c =>
        { c with descriptor, pending := c.pending ++ [e] } }
  have hqueued (descriptor : Descriptor) :
      queued (h.moved m) (m.move channel) (event.moved m) descriptor =
        (queued h channel event descriptor).moved m :=
    h.updateChannel_moved m channel fun c => by simp [Channel.moved]
  unfold raiseEvent
  simp only [moved_fabric, Fabric.channel?_moved]
  cases h.fabric.channels.find? channel with
  | none => rfl
  | some c =>
      simp only [Option.map_some, Channel.moved_descriptor]
      cases c.descriptor.signal with
      | ok descriptor =>
          exact congrArg (·.note (.eventRaised (m.move channel) (event.moved m)))
            (hqueued descriptor)
      | error cause =>
          exact congrArg (fun k => (k.note (.eventRaised (m.move channel) (event.moved m))).note
            (.signalFailed cause)) (hqueued c.descriptor)

theorem loseCompletion_moved (cq : NativeId) (q : CompletionQueue) (c : Completion)
    (solicited : Bool) :
    (h.moved m).loseCompletion (m.move cq) (q.moved m) c solicited =
      (h.loseCompletion cq q c solicited).moved m := by
  have hlost : (h.moved m).updateCq (m.move cq) (fun q => { q with overflowed := true }) =
      (h.updateCq cq fun q => { q with overflowed := true }).moved m :=
    h.updateCq_moved m cq fun _ => rfl
  simp only [loseCompletion, hlost, CompletionQueue.moved_overflowed]
  split <;> rfl

theorem storeCompletion_moved (cq : NativeId) (c : Completion) (solicited : Bool) :
    (h.moved m).storeCompletion (m.move cq) c solicited =
      (h.storeCompletion cq c solicited).moved m :=
  congrArg (·.note (.completed (m.move cq) c solicited true))
    (h.updateCq_moved m cq fun _ => by rfl)

theorem wake_moved (cq : NativeId) (q : CompletionQueue) :
    (h.moved m).wake (m.move cq) (q.moved m) = (h.wake cq q).moved m := by
  have hdisarmed : (h.moved m).updateCq (m.move cq) (fun q => { q with armed := none }) =
      (h.updateCq cq fun q => { q with armed := none }).moved m :=
    h.updateCq_moved m cq fun _ => rfl
  simp only [wake, hdisarmed, CompletionQueue.moved_channel, CompletionQueue.moved_cookie]
  cases q.channel with
  | none => rfl
  | some channel => exact raiseEvent_moved m _ channel { cq, cookie := q.cookie }

@[simp] theorem complete_moved (cq : NativeId) (c : Completion) (solicited : Bool) :
    (h.moved m).complete (m.move cq) c solicited = (h.complete cq c solicited).moved m := by
  unfold complete
  simp only [moved_fabric, Fabric.cq?_moved]
  cases h.fabric.cqs.find? cq with
  | none => rfl
  | some q =>
      have hfull : (q.moved m).isFull = q.isFull := rfl
      have hwakes : (q.moved m).wakes c solicited = q.wakes c solicited := rfl
      simp only [Option.map_some, hfull, hwakes, storeCompletion_moved]
      split
      · exact h.loseCompletion_moved m cq q c solicited
      split
      · exact wake_moved m _ cq q
      · rfl

@[simp] theorem flush_moved (id : NativeId) :
    (h.moved m).flush (m.move id) = (h.flush id).moved m := by
  unfold flush
  simp only [moved_fabric, Fabric.qp?_moved]
  cases h.fabric.qps.find? id with
  | none => rfl
  | some qp =>
      have hemptied : (h.moved m).updateQp (m.move id)
            (fun q => { q with sendQueue := [], recvQueue := [] }) =
          (h.updateQp id fun q => { q with sendQueue := [], recvQueue := [] }).moved m :=
        h.updateQp_moved m id fun _ => rfl
      simp only [Option.map_some, hemptied, QueuePair.moved_sendQueue, QueuePair.moved_recvQueue]
      rw [foldl_moved m _ fun k s => ?_, foldl_moved m _ fun k r => ?_]
      · exact complete_moved m (k.note (.recvFlushed id r)) qp.recvCq _ _
      · exact complete_moved m (k.note (.sendRetired id s.request .flushed)) qp.sendCq _ _

@[simp] theorem enterError_moved (id : NativeId) :
    (h.moved m).enterError (m.move id) = (h.enterError id).moved m := by
  have hfailed (k : Host) : (k.moved m).updateQp (m.move id) (fun q => { q with state := .error }) =
      (k.updateQp id fun q => { q with state := .error }).moved m :=
    k.updateQp_moved m id fun _ => rfl
  unfold enterError
  simp only [moved_fabric, Fabric.qp?_moved]
  cases h.fabric.qps.find? id with
  | none => rfl
  | some qp =>
      simp only [Option.map_some, QueuePair.moved_state, QueuePair.moved_number]
      split
      · rw [hfailed, flush_moved]
      · exact (congrArg (·.flush (m.move id)) (hfailed (h.note (.enteredError qp.number)))).trans
          (flush_moved m _ id)

@[simp] theorem completeRecv_moved (id : NativeId) (c : Completion) (solicited : Bool) :
    (h.moved m).completeRecv (m.move id) c solicited = (h.completeRecv id c solicited).moved m := by
  unfold completeRecv
  simp only [moved_fabric, Fabric.qp?_moved]
  cases h.fabric.qps.find? id with
  | none => rfl
  | some qp =>
      simp only [Option.map_some, QueuePair.moved_recvCq, QueuePair.moved_number, complete_moved]
      split
      · rw [enterError_moved]
      · rfl

/-! ## Executing -/

/-- The same answer, on the host under other identities. -/
def alongside {α : Type} : α × Host → α × Host
  | (a, h) => (a, h.moved m)

@[simp] theorem alongside_mk {α : Type} (a : α) : alongside m (a, h) = (a, h.moved m) := rfl

theorem takeRecv_moved (id : NativeId) (qp : QueuePair) :
    (h.moved m).takeRecv (m.move id) (qp.moved m) = (h.takeRecv id qp).map (alongside m) := by
  simp only [takeRecv, moved_fabric, Fabric.recvQueueOf_moved, Fabric.recvRequests_moved]
  split
  · rfl
  case h_2 request rest _ =>
    exact congrArg (fun fabric => some (request, ({ h.moved m with fabric } : Host).note
      (.recvTaken ((Fabric.recvQueueOf id qp).moved m) (m.move id) request)))
      (h.fabric.setRecvRequests_moved m rest _)

theorem writable_moved (pd : NativeId) :
    writable (h.fabric.moved m) (m.move pd) = writable h.fabric pd := by
  funext sge
  simp only [writable, Fabric.localRegion?_moved]
  cases h.fabric.localRegion? pd sge <;> rfl

theorem grants_moved (peer : QueuePair) (right : Permission) (target : RemoteAddress)
    (length : Nat) : grants (h.fabric.moved m) (peer.moved m) right target length =
      grants h.fabric peer right target length := by
  simp only [grants, QueuePair.moved_access, QueuePair.moved_pd, Fabric.remoteRegion?_moved]
  cases h.fabric.remoteRegion? peer.pd target length <;> rfl

theorem deliver_moved (qp : QueuePair) (peerId : NativeId) (peer : QueuePair)
    (pending : PendingSend) (length : UInt32) :
    (h.moved m).deliver (qp.moved m) (m.move peerId) (peer.moved m) pending length =
      alongside m (h.deliver qp peerId peer pending length) := by
  unfold deliver
  rw [takeRecv_moved]
  cases h.takeRecv peerId peer with
  | none => rfl
  | some taken =>
      obtain ⟨recv, k⟩ := taken
      simp only [Option.map_some, alongside_mk, moved_fabric, Fabric.qp?_moved]
      -- the peer is looked up again once its receive request was taken
      cases k.fabric.qps.find? peerId with
      | none => rfl
      | some current =>
          simp only [Option.map_some, QueuePair.moved_pd, QueuePair.moved_transport,
            QueuePair.moved_number, writable_moved, completeRecv_moved]
          split
          · rfl
          split
          · rfl
          · let stored := scatterBytes k.memory recv.sges (payload k.memory pending)
            exact congrArg (Prod.mk _) (completeRecv_moved m { k with memory := stored } peerId _ _)

theorem remoteWrite_moved (qp : QueuePair) (peerId : NativeId) (peer : QueuePair)
    (pending : PendingSend) (length : UInt32) :
    (h.moved m).remoteWrite (qp.moved m) (m.move peerId) (peer.moved m) pending length =
      alongside m (h.remoteWrite qp peerId peer pending length) := by
  simp only [remoteWrite, moved_fabric, grants_moved, takeRecv_moved, QueuePair.moved_transport,
    QueuePair.moved_number]
  split
  · rfl
  split
  · cases h.takeRecv peerId peer with
    | none => rfl
    | some taken =>
        obtain ⟨recv, k⟩ := taken
        let stored := k.memory.writeBytes pending.request.remote.addr (payload k.memory pending)
        exact congrArg (Prod.mk _) (completeRecv_moved m { k with memory := stored } peerId _ _)
  · rfl

theorem remoteRead_moved (peer : QueuePair) (request : SendRequest) (length : UInt32) :
    (h.moved m).remoteRead (peer.moved m) request length =
      alongside m (h.remoteRead peer request length) := by
  simp only [remoteRead, moved_fabric, grants_moved]
  split <;> rfl

theorem remoteAtomic_moved (peer : QueuePair) (request : SendRequest) :
    (h.moved m).remoteAtomic (peer.moved m) request = alongside m (h.remoteAtomic peer request) := by
  simp only [remoteAtomic, moved_fabric, grants_moved]
  split
  · split
    · rfl
    split
    · rfl
    split <;> rfl
  · rfl

theorem localEntriesUsable_moved (qp : QueuePair) (pending : PendingSend) :
    localEntriesUsable (h.fabric.moved m) (qp.moved m) pending =
      localEntriesUsable h.fabric qp pending := by
  simp only [localEntriesUsable, QueuePair.moved_pd, Fabric.localRegion?_moved, Option.any_map,
    Fabric.Region.moved_permission]

/-- A peer is found by its number, which stays, so moving it moves what is found. -/
theorem peerOf?_moved (qp : QueuePair) :
    peerOf? (h.fabric.moved m) (qp.moved m) =
      (peerOf? h.fabric qp).map fun peer => (m.move peer.1, peer.2.moved m) := by
  have haccepts (peer : QueuePair) : accepts (peer.moved m) (qp.moved m) = accepts peer qp := rfl
  simp only [peerOf?, QueuePair.moved_destination]
  cases qp.destination with
  | none => rfl
  | some number =>
      simp only [Option.bind_eq_bind, Option.bind_some, Fabric.qpByNumber?_moved]
      cases h.fabric.qpByNumber? number with
      | none => rfl
      | some id =>
          simp only [Option.map_some, Option.bind_some, Fabric.qp?_moved]
          cases h.fabric.qps.find? id with
          | none => rfl
          | some peer =>
              simp only [Option.map_some, Option.bind_some, haccepts]
              split <;> rfl

theorem executeFor_moved (qp : QueuePair) (pending : PendingSend) :
    (h.moved m).executeFor (qp.moved m) pending = alongside m (h.executeFor qp pending) := by
  simp only [executeFor, moved_fabric, QueuePair.moved_transport, localEntriesUsable_moved,
    peerOf?_moved]
  split
  · rfl
  split
  · rfl
  split
  · rfl
  cases peerOf? h.fabric qp with
  | none => rfl
  | some peer =>
      simp only [Option.map_some]
      split
      · exact deliver_moved m h _ _ _ _ _
      · exact deliver_moved m h _ _ _ _ _
      · exact remoteWrite_moved m h _ _ _ _ _
      · exact remoteWrite_moved m h _ _ _ _ _
      · exact remoteRead_moved m h _ _ _
      · exact remoteAtomic_moved m h _ _
      · exact remoteAtomic_moved m h _ _

theorem execute_moved (id : NativeId) (pending : PendingSend) :
    (h.moved m).execute (m.move id) pending = alongside m (h.execute id pending) := by
  simp only [execute, moved_fabric, Fabric.qp?_moved]
  cases h.fabric.qps.find? id with
  | none => rfl
  | some qp => exact executeFor_moved m h qp pending

theorem conclude_moved (id : NativeId) (qp : QueuePair) (pending : PendingSend)
    (outcome : SendOutcome) :
    (h.moved m).conclude (m.move id) (qp.moved m) pending outcome =
      alongside m (h.conclude id qp pending outcome) := by
  cases outcome with
  | blocked => exact congrArg (Prod.mk false) (h.updateQp_moved m id fun _ => by rfl)
  | done byteLength =>
      have hcompleted := complete_moved m (h.note (.sendRetired id pending.request .success))
        qp.sendCq (sendCompletion qp.number pending.request .success byteLength) false
      simp only [conclude, QueuePair.moved_signalAll]
      refine congrArg (Prod.mk true) ?_
      split
      · exact hcompleted
      · rfl
  | failed status =>
      -- the failure is noted twice before it is completed, under a number that stays
      let failing := (h.note (.requestFailed qp.number pending.request.wrId status)).note
        (.sendRetired id pending.request status)
      exact congrArg (Prod.mk true)
        ((congrArg (·.enterError (m.move id)) (complete_moved m failing qp.sendCq _ false)).trans
          (enterError_moved m _ id))

/-- The engine cannot tell identities but by whether they are equal, so its steps move with them. -/
theorem step_moved (id : NativeId) :
    (h.moved m).step (m.move id) = alongside m (h.step id) := by
  simp only [step, moved_fabric, Fabric.qp?_moved]
  cases h.fabric.qps.find? id with
  | none => rfl
  | some qp =>
      simp only [Option.map_some, QueuePair.moved_state, QueuePair.moved_sendQueue]
      split
      · rfl
      cases qp.sendQueue with
      | nil => rfl
      | cons pending rest =>
          have hoff : (h.moved m).updateQp (m.move id) (fun q => { q with sendQueue := rest }) =
              (h.updateQp id fun q => { q with sendQueue := rest }).moved m :=
            h.updateQp_moved m id fun _ => rfl
          simp only [hoff, execute_moved]
          obtain ⟨outcome, k⟩ :=
            (h.updateQp id fun q => { q with sendQueue := rest }).execute id pending
          simp only [alongside_mk, moved_fabric, Fabric.qp?_moved]
          cases k.fabric.qps.find? id with
          | none => rfl
          | some current => exact conclude_moved m k id current pending outcome

/-! ## Running -/

theorem drainUpTo_moved (n : Nat) (id : NativeId) :
    drainUpTo n (h.moved m) (m.move id) = alongside m (drainUpTo n h id) := by
  induction n generalizing h with
  | zero => rfl
  | succ n ih =>
      simp only [drainUpTo, step_moved]
      obtain ⟨moved, k⟩ := h.step id
      cases moved with
      | true => simp only [alongside_mk, ih]; rfl
      | false => rfl

theorem drain_moved (id : NativeId) :
    (h.moved m).drain (m.move id) = alongside m (h.drain id) := by
  have hqueued : (h.moved m).queuedSends (m.move id) = h.queuedSends id := by
    simp only [queuedSends, moved_fabric, Fabric.qp?_moved, Option.map_map]
    rfl
  rw [drain, hqueued, drainUpTo_moved]
  rfl

/-- The queue pairs come in the same order, for it is that of their numbers. -/
theorem runnable_moved : (h.moved m).runnable = h.runnable.map m.move := by
  have hentries : (h.moved m).fabric.qps.entries =
      h.fabric.qps.entries.map fun e => (m.move e.1, e.2.moved m) := rfl
  exact runnable_map (fun _ _ => m.mono.le_iff_le) hentries fun _ => ⟨rfl, rfl, rfl⟩

theorem pass_moved : (h.moved m).pass = alongside m h.pass := by
  have hstart : (false, h.moved m) = alongside m (false, h) := rfl
  unfold pass
  rw [hstart, runnable_moved, List.foldl_map]
  refine List.foldl_hom (alongside m) fun s id => ?_
  obtain ⟨moved, k⟩ := s
  simp only [alongside_mk, drain_moved]
  rfl

theorem progressUpTo_moved (n : Nat) :
    progressUpTo n (h.moved m) = (progressUpTo n h).moved m := by
  induction n generalizing h with
  | zero => rfl
  | succ n ih =>
      simp only [progressUpTo, pass_moved]
      obtain ⟨moved, k⟩ := h.pass
      cases moved with
      | true => exact ih k
      | false => rfl

@[simp] theorem progress_moved : (h.moved m).progress = h.progress.moved m := by
  have hqueued : (h.moved m).totalQueuedSends = h.totalQueuedSends :=
    h.fabric.qps.total_rekey m.injective _ _
  rw [progress, hqueued]
  exact h.progressUpTo_moved m _

end Host

end Rdma
