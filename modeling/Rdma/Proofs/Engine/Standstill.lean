import Rdma.Proofs.Host.Reachable

/-!
# Queued requests wait for their peers

Where the engine stands still, a request at the head of a send queue is one that needs a receive
request, and its sender is connected to a live peer that has none. An operation that could end such
a wait runs the engine again, so this is so on every reachable host: no request is forgotten.

* `executeFor_blocked` — why a request blocks;
* `Still.settled` — what stands still waits;
* `perform_idles` — an operation after which the engine does not run gives it nothing to do;
* `perform_settled` — every operation keeps it so;
* `Reachable.settled`, `reachable_waits` — so it is on every reachable host, and that is what the head
  of every send queue waits for.
-/

namespace Rdma

open Fabric (QueuePair PendingSend Object)

/-- The queue pair is connected to a live one that has no receive request for the request at the
head of its send queue. -/
structure Fabric.Waits (f : Fabric) (q : QueuePair) : Prop where
  transport : q.transport = .reliable
  head : ∃ pending rest, q.sendQueue = pending :: rest ∧ pending.request.opcode.consumesRecv = true
  peer : ∃ id p, f.qps.find? id = some p ∧ q.destination = some p.number ∧
    p.transport = .reliable ∧ (p.state = .rtr ∨ p.state = .rts) ∧ p.destination = some q.number ∧
    f.recvRequests (recvQueueOf id p) = []

/-- Every queue pair that may send and has something to send waits for its peer. -/
def Fabric.Settled (f : Fabric) : Prop :=
  ∀ id q, f.qps.find? id = some q → q.state = .rts → q.sendQueue ≠ [] → f.Waits q

/-- A queue pair has no receive request while it is kept and a shared queue it takes from stays empty. -/
theorem Fabric.recvRequests_empty {f g : Fabric} {id : NativeId} {q : QueuePair}
    (hkept : g.qps.find? id = f.qps.find? id)
    (hshared : ∀ {srq}, f.recvRequests (.shared srq) = [] → g.recvRequests (.shared srq) = [])
    (hempty : f.recvRequests (recvQueueOf id q) = []) : g.recvRequests (recvQueueOf id q) = [] := by
  rw [recvQueueOf] at hempty ⊢
  split at hempty
  · exact hshared hempty
  · simp only [recvRequests, hkept] at hempty ⊢
    exact hempty

namespace Host

variable {h k : Host}

/-! ## Why a request blocks -/

theorem takeRecv_eq_none {id : NativeId} {p : QueuePair} :
    h.takeRecv id p = none ↔ h.fabric.recvRequests (Fabric.recvQueueOf id p) = [] := by
  unfold takeRecv
  cases hw : h.fabric.recvRequests (Fabric.recvQueueOf id p) <;> simp [hw]

theorem deliver_blocked {qp peer : QueuePair} {peerId : NativeId} {pending : PendingSend}
    {length : UInt32} (hb : (h.deliver qp peerId peer pending length).1 = .blocked) :
    qp.transport = .reliable ∧ h.takeRecv peerId peer = none := by
  unfold deliver at hb
  cases ht : h.takeRecv peerId peer with
  | none =>
      simp only [ht] at hb
      exact ⟨(lost_eq_blocked hb).1, rfl⟩
  | some taken =>
      simp only [ht] at hb
      split at hb
      · cases hb
      split at hb
      · cases (lost_eq_blocked hb).2
      split at hb
      · cases (lost_eq_blocked hb).2
      · cases hb

theorem remoteWrite_blocked {qp peer : QueuePair} {peerId : NativeId} {pending : PendingSend}
    {length : UInt32} (hb : (h.remoteWrite qp peerId peer pending length).1 = .blocked) :
    qp.transport = .reliable ∧ pending.request.opcode.consumesRecv = true ∧
      h.takeRecv peerId peer = none := by
  simp only [remoteWrite] at hb
  split at hb
  · cases (lost_eq_blocked hb).2
  split at hb
  case isTrue hconsumes =>
    cases ht : h.takeRecv peerId peer with
    | none =>
        simp only [ht] at hb
        exact ⟨(lost_eq_blocked hb).1, hconsumes, rfl⟩
    | some taken =>
        simp only [ht] at hb
        cases hb
  case isFalse => cases hb

theorem remoteRead_not_blocked (h : Host) (peer : QueuePair) (request : SendRequest)
    (length : UInt32) : (h.remoteRead peer request length).1 ≠ .blocked := by
  unfold remoteRead
  split <;> exact nofun

theorem remoteAtomic_not_blocked (h : Host) (peer : QueuePair) (request : SendRequest) :
    (h.remoteAtomic peer request).1 ≠ .blocked := by
  unfold remoteAtomic
  repeat' split
  all_goals exact nofun

/-- A request blocks only where a reliable peer accepts it and has no receive request for it. -/
theorem executeFor_blocked {qp : QueuePair} {pending : PendingSend}
    (hb : (h.executeFor qp pending).1 = .blocked) :
    qp.transport = .reliable ∧ pending.request.opcode.consumesRecv = true ∧
      ∃ peerId peer, peerOf? h.fabric qp = some (peerId, peer) ∧ h.takeRecv peerId peer = none := by
  simp only [executeFor] at hb
  split at hb
  · cases hb
  split at hb
  · cases hb
  split at hb
  · cases hb
  -- the request got past all checks on this side
  cases hp : peerOf? h.fabric qp with
  | none =>
      simp only [hp] at hb
      cases (lost_eq_blocked hb).2
  | some found =>
      obtain ⟨peerId, peer⟩ := found
      simp only [hp] at hb
      cases hop : pending.request.opcode <;> simp only [hop] at hb
      case send | sendWithImm =>
        obtain ⟨htransport, hnone⟩ := deliver_blocked hb
        exact ⟨htransport, rfl, peerId, peer, rfl, hnone⟩
      case write | writeWithImm =>
        obtain ⟨htransport, hconsumes, hnone⟩ := remoteWrite_blocked hb
        exact ⟨htransport, hop ▸ hconsumes, peerId, peer, rfl, hnone⟩
      case read => exact absurd hb (h.remoteRead_not_blocked peer pending.request _)
      case compareSwap | fetchAdd =>
        exact absurd hb (h.remoteAtomic_not_blocked peer pending.request)

/-! ## What stands still waits -/

/-- Taking a request off a send queue changes no queue pair otherwise. -/
theorem popped_find_cases {id id' : NativeId} {rest : List PendingSend} {p : QueuePair}
    (hp : (h.popped id rest).fabric.qps.find? id' = some p) :
    ∃ p₀, h.fabric.qps.find? id' = some p₀ ∧ p = { p₀ with sendQueue := p.sendQueue } := by
  rcases Table.modified hp with ⟨-, p₀, hp₀, rfl⟩ | hp
  · exact ⟨p₀, hp₀, rfl⟩
  · exact ⟨p, hp, rfl⟩

theorem popped_recvRequests (h : Host) (id : NativeId) (rest : List PendingSend)
    (queue : RecvQueue) :
    (h.popped id rest).fabric.recvRequests queue = h.fabric.recvRequests queue := by
  cases queue with
  | shared srq => rfl
  | ofQp id' =>
      simp only [popped, updateQp_fabric, Fabric.updateQp, Fabric.recvRequests, Table.find?_modify]
      split <;> simp [Option.map_map, Function.comp_def]

/-- Where no step moves anything, each head waits for a live peer that has no receive request for
it. -/
theorem Still.settled (hstill : h.Still) (hf : h.fabric.Sound) : h.fabric.Settled := by
  intro id q hq hs hne
  obtain ⟨pending, rest, hsend⟩ := List.exists_cons_of_ne_nil hne
  -- a head that does not block would be consumed
  have hb : ((h.popped id rest).execute id pending).1 = .blocked := by
    refine Decidable.byContradiction fun hb => ?_
    obtain ⟨htrue, -⟩ := step_of_consumed hq hs hsend hb
    rw [hstill id] at htrue
    cases htrue
  simp only [execute, popped_find hq rest] at hb
  obtain ⟨htransport, hconsumes, peerId, peer, hpeer, hnone⟩ := executeFor_blocked hb
  obtain ⟨number, hnumber, hfound, hp, haccepts⟩ := peerOf_eq_some hpeer
  obtain ⟨p, hp₀, hsame⟩ := popped_find_cases hp
  rw [takeRecv_eq_none, popped_recvRequests] at hnone
  rw [hsame] at haccepts hnone
  -- the table of numbers leads to the peer by its own number
  have hown : p.number = number := by
    obtain ⟨p', ho, hnumber'⟩ := (hf.numbered number peerId).1 hfound
    simp only [Fabric.object?, hp₀, Option.map_some, Option.some.injEq, Object.qp.injEq] at ho
    rw [← hnumber', ← ho]
    rfl
  simp only [accepts, Bool.and_eq_true, Bool.or_eq_true, decide_eq_true_eq] at haccepts
  obtain ⟨⟨hstate, halike⟩, hback⟩ := haccepts
  have hreliable : p.transport = .reliable := halike.trans htransport
  -- only an unreliable queue pair need not be connected back
  have hback : p.destination = some q.number :=
    hback.resolve_left fun hunreliable => by cases htransport.symm.trans hunreliable
  exact ⟨htransport, ⟨pending, rest, hsend, hconsumes⟩, peerId, p, hp₀, hown ▸ hnumber, hreliable,
    hstate, hback, hnone⟩

/-! ## Operations keep the waits -/

/-- Waits go on while all queue pairs are kept, no other has something to send, and no shared receive
queue gets requests. -/
theorem settled_of_kept (hs : h.fabric.Settled)
    (hkept : ∀ id q, h.fabric.qps.find? id = some q → k.fabric.qps.find? id = some q)
    (hnone : ∀ id q, k.fabric.qps.find? id = some q → q.sendQueue ≠ [] →
      h.fabric.qps.find? id = some q)
    (hempty : ∀ srq, h.fabric.recvRequests (.shared srq) = [] →
      k.fabric.recvRequests (.shared srq) = []) : k.fabric.Settled := by
  intro id q hq hrts hne
  obtain ⟨htransport, hhead, id', p, hp, hnumber, hreliable, hstate, hback, hrecv⟩ :=
    hs id q (hnone id q hq hne) hrts hne
  have hp' := hkept id' p hp
  exact ⟨htransport, hhead, id', p, hp', hnumber, hreliable, hstate, hback,
    Fabric.recvRequests_empty (hp'.trans hp.symm) (hempty _) hrecv⟩

/-- What does not touch queue pairs or shared receive queues ends no wait and starts none. -/
theorem settled_of_frame (hs : h.fabric.Settled) (hqps : k.fabric.qps = h.fabric.qps)
    (hsrqs : k.fabric.srqs = h.fabric.srqs) : k.fabric.Settled :=
  settled_of_kept hs (by simp [hqps]) (by simp +contextual [hqps])
    (by simp [Fabric.recvRequests, hsrqs])

end Host

/-- From `f` to `g` nothing came that a request may wait for, and no request came that could be sent:
queue pairs are kept, others have nothing to send, no shared receive queue gets requests, and regions
are at most added. -/
structure Fabric.Rests (f g : Fabric) : Prop where
  kept : ∀ id q, f.qps.find? id = some q → g.qps.find? id = some q
  sends : ∀ id q, g.qps.find? id = some q → q.sendQueue ≠ [] → f.qps.find? id = some q
  recvs : ∀ srq, f.recvRequests (.shared srq) = [] → g.recvRequests (.shared srq) = []
  regions : f.regions.values <+: g.regions.values

theorem Fabric.Rests.of_frame {f g : Fabric} (hqps : g.qps = f.qps) (hsrqs : g.srqs = f.srqs)
    (hregions : g.regions = f.regions) : f.Rests g where
  kept := by simp [hqps]
  sends := by simp +contextual [hqps]
  recvs := by simp [recvRequests, hsrqs]
  regions := hregions ▸ List.prefix_rfl

namespace Host

variable {h k : Host}

/-- The engine ran to a standstill, or there was nothing for it to do. -/
inductive Idles (h : Host) : Host → Prop
  | ran {k : Host} : k.Still → Idles h k
  | rests {k : Host} : h.fabric.Rests k.fabric → Idles h k

theorem Idles.of_frame (hqps : k.fabric.qps = h.fabric.qps) (hsrqs : k.fabric.srqs = h.fabric.srqs)
    (hregions : k.fabric.regions = h.fabric.regions) : h.Idles k :=
  .rests (.of_frame hqps hsrqs hregions)

theorem Idles.settled (hidles : h.Idles k) (hs : h.fabric.Settled) (hk : k.fabric.Sound) :
    k.fabric.Settled := by
  cases hidles with
  | ran hstill => exact hstill.settled hk
  | rests hrests => exact settled_of_kept hs hrests.kept hrests.sends hrests.recvs

theorem Ran.idles (hr : h.Ran k) : h.Idles k := by
  cases hr with
  | refused | noted => exact .of_frame rfl rfl rfl
  | ran _ _ hstill => exact .ran hstill

/-- A new object unblocks nothing: it has no requests, and a new region comes last in its table. -/
theorem Created.idles {α : Type} {describes : α → NativeId → Object → Prop}
    {result : Except OsError α × Host} (hc : h.Created describes result) (hf : h.fabric.Sound) :
    h.Idles result.2 := by
  cases hc with
  | refused => exact .of_frame rfl rfl rfl
  | made o _ _ _ hnew _ _ _ =>
      cases o with
      | region r =>
          have hfresh : h.fabric.regions.find? h.fabric.nextId = none := by
            simpa [Fabric.object?] using hf.next_free .memoryRegion
          refine .rests ⟨fun _ _ hq => hq, fun _ _ hq _ => hq, fun _ hrecv => hrecv, ?_⟩
          simp only [Fabric.put, Table.values, Table.entries_insert hfresh, List.map_append]
          exact List.prefix_append _ _
      | srq s =>
          refine .rests ⟨fun _ _ hq => hq, fun _ _ hq _ => hq, fun srq hrecv => ?_, List.prefix_rfl⟩
          have hqueue : s.queue = [] := (congrArg (·.queue) hnew).symm
          simp only [Fabric.recvRequests, Fabric.put, Table.find?_insert] at hrecv ⊢
          split
          · simp [hqueue]
          · exact hrecv
      | qp new =>
          have hqueue : new.sendQueue = [] := (congrArg (·.sendQueue) hnew).symm
          -- the new queue pair takes the place of no other, and has nothing to send
          have hfresh : h.fabric.qps.find? h.fabric.nextId = none := by
            simpa [Fabric.object?] using hf.next_free .queuePair
          refine .rests ⟨fun id q hq => ?_, fun id q hq hne => ?_, fun _ hrecv => hrecv,
            List.prefix_rfl⟩
          · simp only [Fabric.put]
            rw [Table.find?_insert, if_neg, hq]
            rintro rfl
            rw [hfresh] at hq
            cases hq
          · simp only [Fabric.put, Table.find?_insert] at hq
            split at hq
            · obtain rfl := Option.some.inj hq
              exact absurd hqueue hne
            · exact hq
      | context | pd | channel | cq => exact .of_frame rfl rfl rfl

theorem drainTokens_frame (h : Host) (channel : NativeId) (n : Nat) :
    (drainTokens channel n h).fabric.qps = h.fabric.qps ∧
      (drainTokens channel n h).fabric.srqs = h.fabric.srqs := by
  induction n generalizing h with
  | zero => exact ⟨rfl, rfl⟩
  | succ n ih =>
      simp only [drainTokens]
      split
      · exact ⟨rfl, rfl⟩
      split
      · exact ⟨rfl, rfl⟩
      split
      · exact ih _
      · exact ⟨rfl, rfl⟩

theorem withoutEvents_frame (h : Host) (id : NativeId) (channel : Option NativeId) :
    (h.withoutEvents id channel).fabric.qps = h.fabric.qps ∧
      (h.withoutEvents id channel).fabric.srqs = h.fabric.srqs := by
  cases channel with
  | none => exact ⟨rfl, rfl⟩
  | some channel =>
      simp only [withoutEvents, dropEvents]
      split
      · exact ⟨rfl, rfl⟩
      · exact drainTokens_frame _ channel _

/-- After anything but a region is dropped, the engine has run or has nothing to do. -/
theorem Dismissed.idles {o : Object} {id : NativeId} (hd : h.Dismissed id o k)
    (hkind : o.kind ≠ .memoryRegion) : h.Idles k := by
  cases hd with
  | plain _ hqp =>
      cases o with
      | qp => exact absurd rfl hqp
      | region => exact absurd rfl hkind
      | srq s =>
          refine .rests ⟨fun _ _ hq => hq, fun _ _ hq _ => hq, fun srq hrecv => ?_, List.prefix_rfl⟩
          simp only [Fabric.recvRequests, without, Fabric.drop, Table.find?_erase] at hrecv ⊢
          split
          · rfl
          · exact hrecv
      | context | pd | channel | cq => exact .of_frame rfl rfl rfl
  | cq q _ =>
      obtain ⟨hqps, hsrqs⟩ := h.withoutEvents_frame id q.channel
      exact .of_frame hqps hsrqs (congrArg (·.regions) (h.withoutEvents_skeleton id q.channel))
  | qp q _ => exact .ran (progress_still _)

theorem Destroyed.idles {kind : ResourceKind} {id : NativeId}
    {result : Except OsError Unit × Host} (hd : h.Destroyed kind id result)
    (hkind : kind ≠ .memoryRegion) : h.Idles result.2 := by
  cases hd with
  | absent | inUse => exact .of_frame rfl rfl rfl
  | removed ho _ hdismissed => exact hdismissed.idles (Fabric.object?_kind ho ▸ hkind)

theorem pollCq_idles (h : Host) (id : NativeId) (n : Nat) : h.Idles (pollCq id n h).2 :=
  Step.guarded_cases (P := fun r : Except OsError (List Completion) × Host => h.Idles r.2)
    (fun _ _ => .of_frame rfl rfl rfl) fun _ _ => .of_frame rfl rfl rfl

theorem reqNotifyCq_idles (h : Host) (id : NativeId) (solicitedOnly : Bool) :
    h.Idles (reqNotifyCq id solicitedOnly h).2 :=
  Step.guarded_cases (P := fun r : Except OsError Unit × Host => h.Idles r.2)
    (fun _ _ => .of_frame rfl rfl rfl) fun _ _ => .of_frame rfl rfl rfl

theorem getCqEvent_idles (h : Host) (channel : NativeId) :
    h.Idles (getCqEvent channel h).2 := by
  unfold getCqEvent
  split
  · exact .of_frame rfl rfl rfl
  split
  · exact .of_frame rfl rfl rfl
  split <;> exact .of_frame rfl rfl rfl

/-- After an operation that could give it something to do the engine has run. The exception is that a
region goes: requests that waited could fail then. -/
theorem perform_idles (hf : h.fabric.Sound) {op : Operation} (hop : ∀ mr, op ≠ .deregMr mr) :
    h.Idles (h.perform op) := by
  cases op with
  | deregMr mr => exact absurd rfl (hop mr)
  | deviceList | queryDevice | queryPort | queryGid | channelDescriptor | queryQpState
  | ackCqEvents | plug | unplug | setMemory | setDescriptorsLeft | setDescriptor =>
      exact .of_frame rfl rfl rfl
  | openDevice device => exact (h.openDevice_created device).idles hf
  | closeDevice ctx => exact (h.closeDevice_destroyed ctx).idles nofun
  | allocPd ctx => exact (h.allocPd_created ctx).idles hf
  | deallocPd pd => exact (h.deallocPd_destroyed pd).idles nofun
  | regMr pd addr length permission => exact (h.regMr_created pd addr length permission).idles hf
  | createChannel ctx => exact (h.createChannel_created ctx).idles hf
  | destroyChannel channel => exact (h.destroyChannel_destroyed channel).idles nofun
  | createCq ctx depth channel cookie vector =>
      exact (h.createCq_created ctx depth channel cookie vector).idles hf
  | destroyCq cq => exact (h.destroyCq_destroyed cq).idles nofun
  | pollCq cq n => exact h.pollCq_idles cq n
  | reqNotifyCq cq solicitedOnly => exact h.reqNotifyCq_idles cq solicitedOnly
  | getCqEvent channel => exact h.getCqEvent_idles channel
  | createSrq pd init => exact (h.createSrq_created pd init).idles hf
  | destroySrq srq => exact (h.destroySrq_destroyed srq).idles nofun
  | postSrqRecv srq requests => exact (h.postSrqRecv_ran srq requests).idles
  | createQp pd init => exact (h.createQp_created pd init).idles hf
  | modifyQp qp attributes mask => exact (h.modifyQp_ran qp attributes mask).idles
  | destroyQp qp => exact (h.destroyQp_destroyed qp).idles nofun
  | postSend qp requests => exact (h.postSend_ran qp requests).idles
  | postRecv qp requests => exact (h.postRecv_ran qp requests).idles

theorem deregMr_settled (hs : h.fabric.Settled) (id : NativeId) :
    (deregMr id h).2.fabric.Settled :=
  Step.guarded_cases (P := fun r : Except OsError Unit × Host => r.2.fabric.Settled)
    (fun _ _ => hs) fun _ _ => settled_of_frame hs rfl rfl

/-- No operation leaves a queue pair with something to send that it could send. -/
theorem perform_settled (hh : h.Sound) (hs : h.fabric.Settled) (op : Operation) :
    (h.perform op).fabric.Settled := by
  by_cases hop : ∃ mr, op = .deregMr mr
  · obtain ⟨mr, rfl⟩ := hop
    exact deregMr_settled hs mr
  · exact (perform_idles hh.fabric fun mr heq => hop ⟨mr, heq⟩).settled hs
      (perform_sound hh op).fabric

theorem Reachable.settled {devices : List DeviceConfig} (hr : Reachable devices h) :
    h.fabric.Settled := by
  induction hr with
  | fresh memory =>
      obtain ⟨attached, nextId, hfabric⟩ := Fabric.ofDevices_eq devices
      intro id q hq
      simp only [withDevices, hfabric] at hq
      cases hq
  | perform op hr ih => exact perform_settled hr.sound ih op
  | note _ _ _ ih => exact settled_of_frame ih rfl rfl

/-- On every reachable host, a queue pair that may send and has something to send is connected to a
live peer, and waits for that to have a receive request. -/
theorem reachable_waits {devices : List DeviceConfig} (hr : Reachable devices h) {id : NativeId}
    {q : QueuePair} (hq : h.fabric.qps.find? id = some q) (hrts : q.state = .rts)
    (hsend : q.sendQueue ≠ []) : h.fabric.Waits q :=
  hr.settled id q hq hrts hsend

/-- A message that a queue pair sends to itself waits until it posts a receive request. -/
theorem loopback_waits :
    let h := (({} : Host).withDevices [{}]).performAll (loopback ++ [.postSend 5 [{ wrId := 1 }]])
    ∃ q, h.fabric.qps.find? 5 = some q ∧ q.sendQueue.length = 1 ∧ h.fabric.Waits q := by
  intro h
  have hq : h.fabric.qps.find? 5 = some _ := rfl
  exact ⟨_, hq, rfl, reachable_waits ((Reachable.fresh {}).performAll _) hq rfl nofun⟩

end Host

end Rdma
