import Rdma.Proofs.Fabric.Population
import Rdma.Proofs.Host.Capacity

/-!
# Configured limits

A device is configured with limits: how many objects of a kind a context may hold, how large they may
be, and how many requests of which size their queues may take. Each limit is checked where an object
is created or a request is posted. Here every check is shown to be enough, whatever operations come
after it.

* `perform_alters` — an operation changes no object, adds one that there is room for, or removes one;
* `Reachable.limited` — so no context outgrows its limits;
* `Reachable.origin` — and what is there was put there by an operation, as it still is;
* `reachable_within_limits` — the limits of a reachable host, all together.
-/

namespace Rdma

namespace Fabric

/-- The queues of the queue pair hold no more than it was created for. With a shared receive queue it
has none of its own. -/
structure QueuePair.WithinCaps (q : QueuePair) : Prop where
  sends : q.sendQueue.length ≤ q.caps.maxSendWr.toNat
  sendEntries : ∀ p ∈ q.sendQueue, p.request.sges.length ≤ q.caps.maxSendSge.toNat
  inlined : ∀ p ∈ q.sendQueue, ∀ data, p.inlined = some data →
    data.length ≤ q.caps.maxInlineData.toNat
  recvs : q.srq = none → q.recvQueue.length ≤ q.caps.maxRecvWr.toNat
  recvEntries : q.srq = none → ∀ r ∈ q.recvQueue, r.sges.length ≤ q.caps.maxRecvSge.toNat

structure SharedQueue.WithinCaps (s : SharedQueue) : Prop where
  length : s.queue.length ≤ s.maxWr.toNat
  entries : ∀ r ∈ s.queue, r.sges.length ≤ s.maxSge.toNat

/-- What a context holds is no more than the configuration allows. -/
structure WithinConfig (f : Fabric) (ctx : NativeId) (d : DeviceConfig) : Prop where
  pds : f.pds.count (·.context = ctx) ≤ d.maxPd.toNat
  cqs : f.cqs.count (·.context = ctx) ≤ d.maxCq.toNat
  regions : f.regions.count (fun r => f.contextOfPd? r.pd = some ctx) ≤ d.maxMr.toNat
  srqs : f.srqs.count (fun s => f.contextOfPd? s.pd = some ctx) ≤ d.maxSrq.toNat
  qps : f.qps.count (fun q => f.contextOfPd? q.pd = some ctx) ≤ d.maxQp.toNat

/-! ## Capacities of completion queues -/

theorem le_powerOfTwoAbove (n : Nat) : n ≤ powerOfTwoAbove n := by
  unfold powerOfTwoAbove
  split
  case isTrue h => exact h
  case isFalse =>
    have hlog : n - 1 < 2 ^ (Nat.log2 (n - 1) + 1) := Nat.lt_log2_self
    rw [Nat.one_shiftLeft]
    omega

theorem cqCapacity_toNat (depth limit : UInt32) :
    (cqCapacity depth limit).toNat = min (powerOfTwoAbove depth.toNat) limit.toNat :=
  UInt32.toNat_ofNat_of_lt' (Nat.lt_of_le_of_lt (Nat.min_le_right _ _) limit.toNat_lt)

theorem cqCapacity_le (depth limit : UInt32) : cqCapacity depth limit ≤ limit := by
  rw [UInt32.le_iff_toNat_le, cqCapacity_toNat]
  exact Nat.min_le_right _ _

/-- Rounding up and capping never goes below what was asked for. -/
theorem le_cqCapacity {depth limit : UInt32} (h : depth ≤ limit) :
    depth ≤ cqCapacity depth limit := by
  rw [UInt32.le_iff_toNat_le, cqCapacity_toNat]
  exact Nat.le_min.2 ⟨le_powerOfTwoAbove _, UInt32.le_iff_toNat_le.1 h⟩

/-! ## What a passed check admits -/

variable {f : Fabric} {ctx pd : NativeId} {c : Context} {o : Object}

/-- An object belongs to one context, so its limits are those to look at. -/
theorem Admits.of_context (hctx : f.contextOf? o = some ctx) (hc : f.contexts.find? ctx = some c)
    (hadmitted : o.Admitted c.config)
    (hroom : ∀ limit, c.config.limit? o.kind = some limit →
      f.population ctx o.kind < limit.toNat) : f.Admits o := by
  intro ctx' c' hctx' hc'
  obtain rfl := Option.some.inj (hctx.symm.trans hctx')
  obtain rfl := Option.some.inj (hc.symm.trans hc')
  exact ⟨hadmitted, hroom⟩

theorem contextOfPd_iff : f.contextOfPd pd = .ok c ↔
    ∃ ctx, f.contextOfPd? pd = some ctx ∧ f.contexts.find? ctx = some c := by
  unfold contextOfPd
  cases f.contextOfPd? pd <;> simp [context_eq_ok]

/-- The checks count what is in the context of a protection domain. -/
theorem sameContext_eq (hctx : f.contextOfPd? pd = some ctx) (other : NativeId) :
    f.sameContext pd other = decide (f.contextOfPd? other = some ctx) := by
  rw [sameContext, hctx]

/-- A region that passes its check is within the limits of its device. -/
theorem checkRegion_admits {addr length : UInt64} {permission : Permission}
    (hcheck : f.checkRegion pd addr length permission = .ok ()) {r : Region} (hpd : r.pd = pd)
    (hlength : r.length = length) (hpermission : r.permission = permission) :
    f.Admits (.region r) := by
  obtain ⟨c, hc, hcheck⟩ := bind_eq_ok.1 hcheck
  obtain ⟨hrange, hcheck⟩ := refuse_eq_ok.1 hcheck
  obtain ⟨hrights, hcheck⟩ := refuse_eq_ok.1 hcheck
  obtain ⟨hroom, -⟩ := refuse_eq_ok.1 hcheck
  obtain ⟨ctx, hctx, hcontext⟩ := contextOfPd_iff.1 hc
  subst hpd hlength hpermission
  simp only [Bool.or_eq_true, decide_eq_true_eq, not_or] at hrange
  simp only [Bool.or_eq_true, Bool.not_eq_true', not_or, Bool.not_eq_true,
    Bool.not_eq_false] at hrights
  refine .of_context hctx hcontext ⟨?_, ?_, hrights.1, hrights.2⟩ ?_
  · exact UInt64.pos_iff_ne_zero.2 hrange.1.2
  · exact UInt64.not_lt.1 hrange.2
  · rintro _ ⟨⟩
    simp only [regionsInContextOf, sameContext_eq hctx] at hroom
    exact Nat.lt_of_not_le hroom

/-- A completion queue that passes its check is within the limits and as deep as asked for. -/
theorem checkCq_admits {depth capacity : UInt32} {channel : Option NativeId} {vector : Int32}
    (hcheck : f.checkCq ctx depth channel vector = .ok capacity) {q : CompletionQueue}
    (hctx : q.context = ctx) (hcapacity : q.capacity = capacity) :
    f.Admits (.cq q) ∧ depth ≤ q.capacity := by
  obtain ⟨c, hc, hcheck⟩ := bind_eq_ok.1 hcheck
  obtain ⟨hdepth, hcheck⟩ := refuse_eq_ok.1 hcheck
  obtain ⟨-, hcheck⟩ := refuse_eq_ok.1 hcheck
  -- a channel brings one more check, and both ways end in the same two
  have hrest : f.cqs.count (·.context = ctx) < c.config.maxCq.toNat ∧
      cqCapacity depth c.config.maxCqe = capacity := by
    cases channel with
    | none =>
        obtain ⟨hroom, hcheck⟩ := refuse_eq_ok.1 hcheck
        exact ⟨Nat.lt_of_not_le hroom, Except.ok.inj hcheck⟩
    | some =>
        obtain ⟨-, hcheck⟩ := refuse_eq_ok.1 hcheck
        obtain ⟨hroom, hcheck⟩ := refuse_eq_ok.1 hcheck
        exact ⟨Nat.lt_of_not_le hroom, Except.ok.inj hcheck⟩
  obtain ⟨hroom, rfl⟩ := hrest
  subst hctx
  simp only [Bool.or_eq_true, decide_eq_true_eq, not_or] at hdepth
  rw [hcapacity]
  refine ⟨.of_context rfl (context_eq_ok.1 hc) ?_ ?_, le_cqCapacity (UInt32.not_lt.1 hdepth.2)⟩
  · show q.capacity ≤ c.config.maxCqe
    rw [hcapacity]
    exact cqCapacity_le _ _
  · rintro _ ⟨⟩
    exact hroom

theorem checkSrq_admits {init : SrqInit} (hcheck : f.checkSrq pd init = .ok ()) :
    f.Admits (.srq { pd, maxWr := init.maxWr, maxSge := init.maxSge }) := by
  obtain ⟨c, hc, hcheck⟩ := bind_eq_ok.1 hcheck
  obtain ⟨hmaxWr, hcheck⟩ := refuse_eq_ok.1 hcheck
  obtain ⟨hmaxSge, hcheck⟩ := refuse_eq_ok.1 hcheck
  obtain ⟨hroom, -⟩ := refuse_eq_ok.1 hcheck
  obtain ⟨ctx, hctx, hcontext⟩ := contextOfPd_iff.1 hc
  simp only [Bool.or_eq_true, decide_eq_true_eq, not_or] at hmaxWr hmaxSge
  refine .of_context hctx hcontext ⟨UInt32.not_lt.1 hmaxWr.2, UInt32.not_lt.1 hmaxSge.2⟩ ?_
  rintro _ ⟨⟩
  simp only [srqsInContextOf, sameContext_eq hctx] at hroom
  exact Nat.lt_of_not_le hroom

/-- Accepted capabilities are within the limits, those of a receive queue if there is one. -/
theorem capsAccepted_admitted {d : DeviceConfig} {init : NativeQpInit} {q : QueuePair}
    (haccepted : capsAccepted d init = true) (hcaps : q.caps = init.caps) (hsrq : q.srq = init.srq) :
    q.Admitted d := by
  simp only [capsAccepted, Bool.and_eq_true, Bool.or_eq_true, decide_eq_true_eq] at haccepted
  obtain ⟨⟨⟨⟨-, hsendWr⟩, hsendSge⟩, hinline⟩, hrecv⟩ := haccepted
  have hown (hnone : q.srq = none) :
      init.caps.maxRecvWr ≤ d.maxQpWr ∧ init.caps.maxRecvSge ≤ d.maxSge := by
    rw [hsrq] at hnone
    rcases hrecv with hshared | ⟨⟨-, hrecvWr⟩, hrecvSge⟩
    · rw [hnone] at hshared
      cases hshared
    · exact ⟨hrecvWr, hrecvSge⟩
  constructor
  case maxSendWr => rw [hcaps]; exact hsendWr
  case maxSendSge => rw [hcaps]; exact hsendSge
  case maxInlineData => rw [hcaps]; exact hinline
  case maxRecvWr => rw [hcaps]; exact fun hnone => (hown hnone).1
  case maxRecvSge => rw [hcaps]; exact fun hnone => (hown hnone).2

theorem checkQp_admits {init : NativeQpInit} (hcheck : f.checkQp pd init = .ok ()) {q : QueuePair}
    (hpd : q.pd = pd) (hcaps : q.caps = init.caps) (hsrq : q.srq = init.srq) :
    f.Admits (.qp q) := by
  obtain ⟨c, hc, hcheck⟩ := bind_eq_ok.1 hcheck
  obtain ⟨-, hcheck⟩ := refuse_eq_ok.1 hcheck
  obtain ⟨-, hcheck⟩ := refuse_eq_ok.1 hcheck
  obtain ⟨haccepted, hcheck⟩ := refuse_eq_ok.1 hcheck
  obtain ⟨hroom, -⟩ := refuse_eq_ok.1 hcheck
  obtain ⟨ctx, hctx, hcontext⟩ := contextOfPd_iff.1 hc
  simp only [Bool.not_eq_true', Bool.not_eq_false] at haccepted
  subst hpd
  refine .of_context hctx hcontext (capsAccepted_admitted haccepted hcaps hsrq) ?_
  rintro _ ⟨⟩
  simp only [qpsInContextOf, sameContext_eq hctx] at hroom
  exact Nat.lt_of_not_le hroom

end Fabric

namespace Host

open Fabric (Object)

variable {h k : Host} {devices : List DeviceConfig}

/-! ## Objects come and go -/

/-- The kind of the objects that an operation creates. -/
def Operation.creates? : Operation → Option ResourceKind
  | .openDevice _ => some .context
  | .allocPd _ => some .protectionDomain
  | .regMr .. => some .memoryRegion
  | .createChannel _ => some .completionChannel
  | .createCq .. => some .completionQueue
  | .createSrq .. => some .sharedReceiveQueue
  | .createQp .. => some .queuePair
  | _ => none

/-- What an operation does to objects. -/
inductive Alters (h : Host) (op : Operation) : Host → Prop
  | keeps {k : Host} : k.fabric.object? = h.fabric.object? → Alters h op k
  | adds {k : Host} {o : Object} : op.creates? = some o.kind → h.fabric.Adds k.fabric o →
      h.fabric.Supports o → h.fabric.Admits o → Alters h op k
  | removes {k : Host} {o : Object} {id : NativeId} : h.fabric.Removes k.fabric o id →
      Alters h op k

theorem Created.alters {α : Type} {describes : α → NativeId → Object → Prop} {op : Operation}
    {result : Except OsError α × Host} (hc : h.Created describes result)
    (hadmits : ∀ a o, result.1 = .ok a → describes a h.fabric.nextId o →
      op.creates? = some o.kind ∧ h.fabric.Admits o) : h.Alters op result.2 := by
  cases hc with
  | refused => exact .keeps rfl
  | made o nextKey nextQpNumber hdescribes hnew hfree hcandidate hsup =>
      obtain ⟨hkind, hadmits⟩ := hadmits _ o rfl hdescribes
      exact .adds hkind (Fabric.put_adds hnew hfree nextKey hcandidate) hsup hadmits

theorem Destroyed.alters {kind : ResourceKind} {id : NativeId} {op : Operation}
    {result : Except OsError Unit × Host} (hd : h.Destroyed kind id result) :
    h.Alters op result.2 := by
  cases hd with
  | absent | inUse => exact .keeps rfl
  | removed ho _ hdismissed =>
      obtain rfl := Fabric.object?_kind ho
      exact .removes (hdismissed.removes ho)

/-- An operation changes no object, adds one that is within the limits, or removes one. -/
theorem perform_alters (h : Host) (op : Operation) : h.Alters op (h.perform op) := by
  cases op with
  | deviceList | queryDevice | queryPort | queryGid | channelDescriptor | queryQpState | setMemory
  | setDescriptorsLeft => exact .keeps rfl
  | openDevice device =>
      refine (h.openDevice_created device).alters fun _ _ _ hdescribes => ?_
      obtain ⟨-, d, -, rfl⟩ := hdescribes
      exact ⟨rfl, nofun⟩
  | closeDevice ctx => exact (h.closeDevice_destroyed ctx).alters
  | allocPd ctx =>
      refine (h.allocPd_created ctx).alters fun _ _ hok hdescribes => ?_
      obtain ⟨-, rfl⟩ := hdescribes
      obtain ⟨_, hcheck, -⟩ := Step.guarded_ok hok
      obtain ⟨c, hc, hcheck⟩ := bind_eq_ok.1 hcheck
      obtain ⟨hroom, -⟩ := refuse_eq_ok.1 hcheck
      refine ⟨rfl, .of_context rfl (Fabric.context_eq_ok.1 hc) trivial ?_⟩
      rintro _ ⟨⟩
      exact Nat.lt_of_not_le hroom
  | deallocPd pd => exact (h.deallocPd_destroyed pd).alters
  | regMr pd addr length permission =>
      refine (h.regMr_created pd addr length permission).alters fun _ _ hok hdescribes => ?_
      obtain ⟨-, r, rfl, hpd, -, hlength, hpermission⟩ := hdescribes
      obtain ⟨⟨⟩, hcheck, -⟩ := Step.guarded_ok hok
      exact ⟨rfl, Fabric.checkRegion_admits hcheck hpd hlength hpermission⟩
  | deregMr mr => exact (h.deregMr_destroyed mr).alters
  | createChannel ctx =>
      refine (h.createChannel_created ctx).alters fun _ _ hok hdescribes => ?_
      obtain ⟨-, rfl⟩ := hdescribes
      exact ⟨rfl, fun _ _ _ _ => ⟨trivial, nofun⟩⟩
  | destroyChannel channel => exact (h.destroyChannel_destroyed channel).alters
  | createCq ctx depth channel cookie vector =>
      refine (h.createCq_created ctx depth channel cookie vector).alters
        fun _ _ hok hdescribes => ?_
      obtain ⟨-, rfl⟩ := hdescribes
      obtain ⟨capacity, hcheck, rfl⟩ := Step.guarded_ok hok
      exact ⟨rfl, (Fabric.checkCq_admits hcheck rfl rfl).1⟩
  | destroyCq cq => exact (h.destroyCq_destroyed cq).alters
  | pollCq cq n => exact .keeps (h.pollCq_works cq n).objects
  | reqNotifyCq cq solicitedOnly => exact .keeps (h.reqNotifyCq_works cq solicitedOnly).objects
  | getCqEvent channel => exact .keeps (h.getCqEvent_works channel).objects
  | ackCqEvents cq n => exact .keeps (h.ackCqEvents_works cq n).objects
  | createSrq pd init =>
      refine (h.createSrq_created pd init).alters fun _ _ hok hdescribes => ?_
      obtain ⟨-, rfl⟩ := hdescribes
      obtain ⟨⟨⟩, hcheck, -⟩ := Step.guarded_ok hok
      exact ⟨rfl, Fabric.checkSrq_admits hcheck⟩
  | destroySrq srq => exact (h.destroySrq_destroyed srq).alters
  | postSrqRecv srq requests => exact .keeps (h.postSrqRecv_ran srq requests).works.objects
  | createQp pd init =>
      refine (h.createQp_created pd init).alters fun _ _ hok hdescribes => ?_
      obtain ⟨-, rfl⟩ := hdescribes
      obtain ⟨_, hcheck, -⟩ := Step.guarded_ok hok
      obtain ⟨⟨⟩, hcheck, -⟩ := bind_eq_ok.1 hcheck
      exact ⟨rfl, Fabric.checkQp_admits hcheck rfl rfl rfl⟩
  | modifyQp qp attributes mask =>
      exact .keeps (h.modifyQp_ran qp attributes mask).works.objects
  | destroyQp qp => exact (h.destroyQp_destroyed qp).alters
  | postSend qp requests => exact .keeps (h.postSend_ran qp requests).works.objects
  | postRecv qp requests => exact .keeps (h.postRecv_ran qp requests).works.objects
  | plug device => exact .keeps (h.plug_works device).objects
  | unplug name => exact .keeps (h.unplug_works name).objects
  | setDescriptor channel descriptor =>
      exact .keeps (h.setDescriptor_works channel descriptor).objects

theorem Alters.limited {op : Operation} (ha : h.Alters op k) (hh : h.Sound)
    (hl : h.fabric.Limited) : k.fabric.Limited := by
  cases ha with
  | keeps hsame => exact hl.of_objects hsame
  | adds _ hadd hsup hadmits => exact Fabric.Limited.adds hh.fabric hadd hsup hl hadmits
  | removes hrem => exact hl.removes hh.fabric hrem

/-- A fresh host has no objects. -/
theorem fresh_object? (memory : Memory) (devices : List DeviceConfig) (kind : ResourceKind)
    (id : NativeId) :
    (({ memory } : Host).withDevices devices).fabric.object? kind id = none := by
  obtain ⟨attached, nextId, hfabric⟩ := Fabric.ofDevices_eq devices
  have hempty : (({ memory } : Host).withDevices devices).fabric =
      { devices := attached, nextId } := hfabric
  rw [hempty]
  cases kind <;> rfl

/-- On a reachable host no context has more than it was opened for. -/
theorem Reachable.limited (hr : Reachable devices h) : h.fabric.Limited := by
  induction hr with
  | fresh memory =>
      constructor
      · intro ctx c kind limit hc
        have hnone := fresh_object? memory devices .context ctx
        rw [Fabric.find_context.1 hc] at hnone
        cases hnone
      · intro kind id o ctx c ho
        rw [fresh_object?] at ho
        cases ho
  | @perform h op hr ih => exact (h.perform_alters op).limited hr.sound ih
  | note e he _ ih => exact ih

/-! ## Where objects come from -/

/-- What is there was put there by one operation, as it is now. -/
theorem Reachable.origin (hr : Reachable devices h) {kind : ResourceKind} {id : NativeId}
    {o : Object} (ho : h.fabric.object? kind id = some o) :
    ∃ g op, Reachable devices g ∧ op.creates? = some kind ∧ g.fabric.nextId = id ∧
      (g.perform op).fabric.object? kind id = some o ∧ (g.perform op).Leads h := by
  induction hr with
  | fresh memory =>
      rw [fresh_object?] at ho
      cases ho
  | @perform h op hr ih =>
      have hold (ho : h.fabric.object? kind id = some o) :
          ∃ g op', Reachable devices g ∧ op'.creates? = some kind ∧ g.fabric.nextId = id ∧
            (g.perform op').fabric.object? kind id = some o ∧
              (g.perform op').Leads (h.perform op) := by
        obtain ⟨g, op', hg, hcreates, hid, hmade, hleads⟩ := ih ho
        exact ⟨g, op', hg, hcreates, hid, hmade, .perform op hleads⟩
      cases h.perform_alters op with
      | keeps hsame => exact hold (hsame ▸ ho)
      | adds hcreates hadd =>
          rcases hadd.object_cases ho with ⟨rfl, rfl, rfl⟩ | ho'
          · exact ⟨h, op, hr, hcreates, rfl, ho, .refl⟩
          · exact hold ho'
      | removes hrem => exact hold (hrem.object_cases ho).2
  | note e he _ ih =>
      obtain ⟨g, op, hg, hcreates, hid, hmade, hleads⟩ := ih ho
      exact ⟨g, op, hg, hcreates, hid, hmade, .note e he hleads⟩

/-- A context was opened with the configuration of a device that was attached then. -/
theorem Reachable.opened (hr : Reachable devices h) {ctx : NativeId} {c : Fabric.Context}
    (hc : h.fabric.contexts.find? ctx = some c) :
    ∃ g device d, Reachable devices g ∧ (openDevice device g).1 = .ok ctx ∧
      (openDevice device g).2.Leads h ∧
        g.fabric.devices.find? (·.uid = device.native) = some d ∧ c.config = d.config := by
  obtain ⟨g, op, hg, hcreates, rfl, hmade, hleads⟩ := hr.origin (Fabric.find_context.1 hc)
  cases op with
  | openDevice device =>
      obtain ⟨_, hok, rfl, d, hd, ho⟩ :=
        (g.openDevice_created device).of_object hg.sound.fabric hmade
      obtain rfl := Object.context.inj ho
      exact ⟨g, device, d, hg, hok, hleads, hd, rfl⟩
  | _ => cases hcreates

/-- A completion queue was created with the capacity that its creator was told, and that is no less
than was asked for. -/
theorem Reachable.granted (hr : Reachable devices h) {id : NativeId} {q : Fabric.CompletionQueue}
    (hq : h.fabric.cqs.find? id = some q) :
    ∃ g ctx depth channel cookie vector, Reachable devices g ∧
      (createCq ctx depth channel cookie vector g).1 =
        .ok { native := id, capacity := q.capacity } ∧
      (createCq ctx depth channel cookie vector g).2.Leads h ∧ depth ≤ q.capacity := by
  have hobject : h.fabric.object? .completionQueue id = some (.cq q.asCreated) := by
    simp [Fabric.object?, hq]
  obtain ⟨g, op, hg, hcreates, rfl, hmade, hleads⟩ := hr.origin hobject
  cases op with
  | createCq ctx depth channel cookie vector =>
      obtain ⟨grant, hok, hnative, ho⟩ :=
        (g.createCq_created ctx depth channel cookie vector).of_object hg.sound.fabric hmade
      have hcapacity : q.capacity = grant.capacity :=
        congrArg Fabric.CompletionQueue.capacity (Object.cq.inj ho)
      obtain ⟨capacity, hcheck, hgrant⟩ := Step.guarded_ok hok
      obtain rfl := hgrant
      refine ⟨g, ctx, depth, channel, cookie, vector, hg, ?_, hleads, ?_⟩
      · rw [hok, hcapacity]
        rfl
      · rw [hcapacity]
        exact (Fabric.checkCq_admits hcheck (q := { context := ctx, channel, cookie, capacity })
          rfl rfl).2
  | _ => cases hcreates

/-! ## All limits -/

/-- Whatever belongs to a context is within the limits of that. -/
theorem Reachable.admitted (hr : Reachable devices h) {kind : ResourceKind} {id : NativeId}
    {o : Object} (ho : h.fabric.object? kind id = some o) (hkind : kind ≠ .context) :
    ∃ ctx c, h.fabric.contextOf? o = some ctx ∧ h.fabric.contexts.find? ctx = some c ∧
      o.Admitted c.config := by
  have hf := hr.sound.fabric
  obtain rfl := Fabric.object?_kind ho
  obtain ⟨ctx, c, hctx, hc⟩ := (hf.supported ho).context hf hkind
  exact ⟨ctx, c, hctx, hc, hr.limited.admitted ho hctx hc⟩

theorem Reachable.srq_withinCaps (hr : Reachable devices h) {id : NativeId}
    {s : Fabric.SharedQueue} (hs : h.fabric.srqs.find? id = some s) : s.WithinCaps := by
  have hwithin := hr.hasRoom.shared (show h.fabric.work.srqs.find? id = some s from hs)
  rw [List.filterMap_nil, List.append_nil] at hwithin
  exact ⟨by simpa using hwithin.length, fun r hr => hwithin.entries _ (List.mem_map_of_mem hr)⟩

/-- The queues of a queue pair stay within the capabilities it was created with. -/
theorem Reachable.qp_withinCaps (hr : Reachable devices h) {id : NativeId}
    {q : Fabric.QueuePair} (hq : h.fabric.qps.find? id = some q) : q.WithinCaps := by
  have hwork : h.fabric.work.qps.find? id = some q := hq
  have hsends := hr.hasRoom.sends hwork
  have hinlined := hr.hasRoom.inlined hwork
  have hown := hr.hasRoom.own hwork
  simp only [List.filterMap_nil, List.append_nil] at hsends hinlined hown
  constructor
  case sends => simpa using hsends.length
  case sendEntries =>
    exact fun p hp => hsends.entries _ (List.mem_map_of_mem (List.mem_map_of_mem hp))
  case inlined =>
    intro p hp data hdata
    -- the payload that was taken is the one that the request describes
    obtain ⟨hlength, hinline⟩ := hr.fit.posted hwork p hp
    rw [hdata] at hinline
    have hle := hinlined _ (List.mem_map_of_mem hp) hinline.symm
    rwa [← hlength, payloadLength, hdata] at hle
  case recvs => exact fun hsrq => by simpa using (hown hsrq).length
  case recvEntries => exact fun hsrq r hr => (hown hsrq).entries _ (List.mem_map_of_mem hr)

/-- All that is limited keeps within its limits. -/
structure WithinLimits (devices : List DeviceConfig) (h : Host) : Prop where
  /-- A context has the configuration it was opened with, and holds no more than that allows. -/
  contexts : ∀ ctx c, h.fabric.contexts.find? ctx = some c → h.fabric.WithinConfig ctx c.config ∧
    ∃ g device d, Reachable devices g ∧ (openDevice device g).1 = .ok ctx ∧
      (openDevice device g).2.Leads h ∧
        g.fabric.devices.find? (·.uid = device.native) = some d ∧ c.config = d.config
  /-- A completion queue is as large as was asked for, and not too large. -/
  cqs : ∀ id q, h.fabric.cqs.find? id = some q →
    (∃ c, h.fabric.contexts.find? q.context = some c ∧ q.capacity ≤ c.config.maxCqe) ∧
    ∃ g ctx depth channel cookie vector, Reachable devices g ∧
      (createCq ctx depth channel cookie vector g).1 =
        .ok { native := id, capacity := q.capacity } ∧
      (createCq ctx depth channel cookie vector g).2.Leads h ∧ depth ≤ q.capacity
  regions : ∀ id r, h.fabric.regions.find? id = some r →
    ∃ c, h.fabric.contextOfPd r.pd = .ok c ∧ r.Admitted c.config
  srqs : ∀ id s, h.fabric.srqs.find? id = some s → s.WithinCaps ∧
    ∃ c, h.fabric.contextOfPd s.pd = .ok c ∧ s.Admitted c.config
  qps : ∀ id q, h.fabric.qps.find? id = some q → q.WithinCaps ∧
    ∃ c, h.fabric.contextOfPd q.pd = .ok c ∧ q.Admitted c.config

/-- On a reachable host the configured limits hold, all of them. -/
theorem reachable_within_limits {h : Host} {devices : List DeviceConfig}
    (hr : Reachable devices h) : h.WithinLimits devices := by
  constructor
  case contexts =>
    intro ctx c hc
    have hl := hr.limited
    refine ⟨?_, hr.opened hc⟩
    exact
      { pds := hl.population .protectionDomain hc rfl
        cqs := hl.population .completionQueue hc rfl
        regions := hl.population .memoryRegion hc rfl
        srqs := hl.population .sharedReceiveQueue hc rfl
        qps := hl.population .queuePair hc rfl }
  case cqs =>
    intro id q hq
    refine ⟨?_, hr.granted hq⟩
    have ho : h.fabric.object? .completionQueue id = some (.cq q.asCreated) := by
      simp [Fabric.object?, hq]
    obtain ⟨_, c, ⟨⟩, hc, hadmitted⟩ := hr.admitted ho (by decide)
    exact ⟨c, hc, hadmitted⟩
  case regions =>
    intro id r hregion
    have ho : h.fabric.object? .memoryRegion id = some (.region r) := by
      simp [Fabric.object?, hregion]
    obtain ⟨ctx, c, hctx, hc, hadmitted⟩ := hr.admitted ho (by decide)
    exact ⟨c, Fabric.contextOfPd_iff.2 ⟨ctx, hctx, hc⟩, hadmitted⟩
  case srqs =>
    intro id s hs
    refine ⟨hr.srq_withinCaps hs, ?_⟩
    have ho : h.fabric.object? .sharedReceiveQueue id = some (.srq s.asCreated) := by
      simp [Fabric.object?, hs]
    obtain ⟨ctx, c, hctx, hc, hadmitted⟩ := hr.admitted ho (by decide)
    exact ⟨c, Fabric.contextOfPd_iff.2 ⟨ctx, hctx, hc⟩, hadmitted.maxWr, hadmitted.maxSge⟩
  case qps =>
    intro id q hq
    refine ⟨hr.qp_withinCaps hq, ?_⟩
    have ho : h.fabric.object? .queuePair id = some (.qp q.cleared) := by
      simp [Fabric.object?, hq]
    obtain ⟨ctx, c, hctx, hc, hadmitted⟩ := hr.admitted ho (by decide)
    exact ⟨c, Fabric.contextOfPd_iff.2 ⟨ctx, hctx, hc⟩, hadmitted.maxSendWr, hadmitted.maxSendSge,
      hadmitted.maxInlineData, hadmitted.maxRecvWr, hadmitted.maxRecvSge⟩

/-- A second protection domain is refused, a completion queue of three entries is not rounded up to
four, and of three receive requests two are queued. -/
theorem crowded_within_limits :
    let device : DeviceConfig := { maxPd := 1, maxCqe := 3 }
    let h := (({} : Host).withDevices [device]).performAll
      [.openDevice { native := 1, name := none }, .allocPd 2, .allocPd 2, .createCq 2 3 none 0 0,
        .createQp 3
          { sendCq := 4, recvCq := 4, srq := none, transport := .reliable, signalAll := true,
            caps := { maxRecvWr := 2 } },
        .modifyQp 5 { state := QpState.init.code, port := 1 } (.state ||| .port),
        .postRecv 5 [{}, {}, {}]]
    h.fabric.pds.count (·.context = 2) = 1 ∧
      (h.fabric.cqs.find? 4).map (·.capacity) = some 3 ∧
      (h.fabric.qps.find? 5).map (·.recvQueue.length) = some 2 ∧ h.WithinLimits [device] :=
  ⟨by decide, by decide, by decide, reachable_within_limits ((Reachable.fresh {}).performAll _)⟩

end Host

end Rdma
