import Rdma.Proofs.Host.Working

/-!
# Reachable hosts

Every operation keeps a host sound, so every reachable host is. What that says of the tables of the
fabric is spelled out in `Fabric.Intact`: all references lead to live objects of one context, the
numbers of queue pairs are exactly those in the table of numbers, and an identity names one object.

* `perform_sound` — the step;
* `Reachable.sound` — the run;
* `Reachable.number_free` — the search for a queue pair number ends;
* `reachable_intact` — the tables, and the completions that were handed over.
-/

namespace Rdma

namespace Host

open Fabric (Object)

variable {h : Host} {devices : List DeviceConfig}

theorem plug_works (h : Host) (device : DeviceConfig) : h.Works (h.plug device) where
  objects := by
    funext kind id
    cases kind <;> rfl
  sound hh :=
    { fabric := hh.fabric.plug device
      orderly := (hh.note (show (Event.plugged device.name).Orderly from trivial)).orderly
      entries := hh.entries
      pending := fun hc e he => hh.pending hc e he }

theorem unplug_works (h : Host) (name : String) : h.Works (h.unplug name).2 where
  objects := by
    funext kind id
    cases kind <;> rfl
  sound hh :=
    { fabric := hh.fabric.unplug name
      orderly := (hh.note (show (Event.unplugged name).Orderly from trivial)).orderly
      entries := hh.entries
      pending := fun hc e he => hh.pending hc e he }

/-- Every operation keeps a host sound, whatever its arguments name. -/
theorem perform_sound (hh : h.Sound) (op : Operation) : (h.perform op).Sound := by
  cases op with
  | deviceList => exact hh
  | openDevice device => exact (h.openDevice_created device).sound hh
  | closeDevice ctx => exact (h.closeDevice_destroyed ctx).sound hh
  | queryDevice ctx => exact hh
  | queryPort ctx port => exact hh
  | queryGid ctx port index => exact hh
  | allocPd ctx => exact (h.allocPd_created ctx).sound hh
  | deallocPd pd => exact (h.deallocPd_destroyed pd).sound hh
  | regMr pd addr length permission => exact (h.regMr_created pd addr length permission).sound hh
  | deregMr mr => exact (h.deregMr_destroyed mr).sound hh
  | createChannel ctx => exact (h.createChannel_created ctx).sound hh
  | destroyChannel channel => exact (h.destroyChannel_destroyed channel).sound hh
  | channelDescriptor channel => exact hh
  | createCq ctx depth channel cookie vector =>
      exact (h.createCq_created ctx depth channel cookie vector).sound hh
  | destroyCq cq => exact (h.destroyCq_destroyed cq).sound hh
  | pollCq cq n => exact (h.pollCq_works cq n).sound hh
  | reqNotifyCq cq solicitedOnly => exact (h.reqNotifyCq_works cq solicitedOnly).sound hh
  | getCqEvent channel => exact (h.getCqEvent_works channel).sound hh
  | ackCqEvents cq n => exact (h.ackCqEvents_works cq n).sound hh
  | createSrq pd init => exact (h.createSrq_created pd init).sound hh
  | destroySrq srq => exact (h.destroySrq_destroyed srq).sound hh
  | postSrqRecv srq requests => exact (h.postSrqRecv_ran srq requests).sound hh
  | createQp pd init => exact (h.createQp_created pd init).sound hh
  | modifyQp qp attributes mask => exact (h.modifyQp_ran qp attributes mask).sound hh
  | queryQpState qp => exact hh
  | destroyQp qp => exact (h.destroyQp_destroyed qp).sound hh
  | postSend qp requests => exact (h.postSend_ran qp requests).sound hh
  | postRecv qp requests => exact (h.postRecv_ran qp requests).sound hh
  | plug device => exact (h.plug_works device).sound hh
  | unplug name => exact (h.unplug_works name).sound hh
  | setMemory memory => exact hh.of_frame rfl rfl rfl rfl
  | setDescriptorsLeft left => exact hh.of_frame rfl rfl rfl rfl
  | setDescriptor channel descriptor => exact (h.setDescriptor_works channel descriptor).sound hh

/-- Starting a fabric forgets the one before. -/
theorem withDevices_sound (hh : h.Sound) (devices : List DeviceConfig) :
    (h.withDevices devices).Sound := by
  have hnoted (devices : List DeviceConfig) (h : Host) (hh : h.Sound) :
      (h.noteInvalidMtus devices).Sound := by
    unfold noteInvalidMtus
    induction devices generalizing h with
    | nil => exact hh
    | cons d rest ih =>
        simp only [List.foldl_cons]
        split
        · exact ih _ (hh.note trivial)
        · exact ih _ hh
  obtain ⟨attached, nextId, hfabric⟩ := Fabric.ofDevices_eq devices
  refine ⟨Fabric.ofDevices_sound devices, (hnoted devices h hh).orderly, fun {id q} hq => ?_,
    fun {id c} hc => ?_⟩
  · simp only [withDevices, hfabric] at hq
    cases hq
  · simp only [withDevices, hfabric] at hc
    cases hc

/-- A host without a fabric. -/
theorem bare_sound (memory : Memory) : ({ memory } : Host).Sound := by
  refine ⟨Fabric.empty_sound, fun e he => ?_, fun {id q} hq => ?_, fun {id c} hc => ?_⟩
  · cases he
  · cases hq
  · cases hc

theorem fresh_sound (memory : Memory) (devices : List DeviceConfig) :
    (({ memory } : Host).withDevices devices).Sound :=
  withDevices_sound (bare_sound memory) devices

theorem orderly_of_handleLayer {e : Event} (he : e.ofHandleLayer) : e.Orderly := by
  cases e <;> simp_all [Event.ofHandleLayer, Event.Orderly]

/-- Every reachable host is sound. -/
theorem Reachable.sound (hr : Reachable devices h) : h.Sound := by
  induction hr with
  | fresh memory => exact fresh_sound memory devices
  | perform op _ ih => exact perform_sound ih op
  | note e he _ ih => exact ih.note (orderly_of_handleLayer he)

/-- The host after operations in a row. -/
def performAll (h : Host) (ops : List Operation) : Host := ops.foldl perform h

theorem Reachable.performAll (hr : Reachable devices h) (ops : List Operation) :
    Reachable devices (h.performAll ops) := by
  induction ops generalizing h with
  | nil => exact hr
  | cons op rest ih => exact ih (.perform op hr)

/-- Operations on a fresh host that connect a queue pair to itself. -/
def loopback : List Operation :=
  let connect (state : QpState) (mask : QpMask) : Operation :=
    .modifyQp 5 { state := state.code, port := 1, destination := 0x100 } (.state ||| mask)
  [.openDevice { native := 1, name := none }, .allocPd 2, .createCq 2 4 none 0 0,
    .createQp 3
      { sendCq := 4, recvCq := 4, srq := none, transport := .reliable, signalAll := true,
        caps := {} },
    connect .init .port, connect .rtr .destination, connect .rts {}]

end Host

namespace Fabric

/-! ## The tables of a sound fabric -/

/-- Every reference leads to a live object of the right context, the table of numbers is the inverse
of the queue pairs' numbers, and an identity names one object. -/
structure Intact (f : Fabric) : Prop where
  pds : ∀ id p, f.pds.find? id = some p → ∃ ctx, f.contexts.find? p.context = some ctx
  channels : ∀ id c, f.channels.find? id = some c → ∃ ctx, f.contexts.find? c.context = some ctx
  cqs : ∀ id q, f.cqs.find? id = some q →
    (∃ ctx, f.contexts.find? q.context = some ctx) ∧
      ∀ channel, q.channel = some channel →
        ∃ c, f.channels.find? channel = some c ∧ c.context = q.context
  regions : ∀ id r, f.regions.find? id = some r → ∃ p, f.pds.find? r.pd = some p
  srqs : ∀ id s, f.srqs.find? id = some s → ∃ p, f.pds.find? s.pd = some p
  qps : ∀ id q, f.qps.find? id = some q →
    ∃ p, f.pds.find? q.pd = some p ∧
      (∃ cq, f.cqs.find? q.sendCq = some cq ∧ cq.context = p.context) ∧
      (∃ cq, f.cqs.find? q.recvCq = some cq ∧ cq.context = p.context) ∧
      ∀ srq, q.srq = some srq →
        ∃ s p', f.srqs.find? srq = some s ∧ f.pds.find? s.pd = some p' ∧ p'.context = p.context
  numbers : ∀ number id, f.qpNumbers.find? number = some id ↔
    ∃ q, f.qps.find? id = some q ∧ q.number = number
  distinct : ∀ kind kind' id o o', f.object? kind id = some o → f.object? kind' id = some o' →
    kind = kind' ∧ o = o'
  below : ∀ kind id o, f.object? kind id = some o → id < f.nextId

variable {f : Fabric} {id ctx : NativeId}

theorem Belongs.find_context (hb : f.Belongs .context id ctx) :
    id = ctx ∧ ∃ c, f.contexts.find? id = some c := by
  cases hb with
  | context ho =>
      obtain ⟨c, hc, -⟩ := Option.map_eq_some_iff.1 ho
      exact ⟨rfl, c, hc⟩

theorem Belongs.find_pd (hb : f.Belongs .protectionDomain id ctx) :
    ∃ p, f.pds.find? id = some p ∧ p.context = ctx := by
  cases hb with
  | pd ho =>
      obtain ⟨_, hp, ⟨⟩⟩ := Option.map_eq_some_iff.1 ho
      exact ⟨_, hp, rfl⟩

theorem Belongs.find_channel (hb : f.Belongs .completionChannel id ctx) :
    ∃ c, f.channels.find? id = some c ∧ c.context = ctx := by
  cases hb with
  | channel ho =>
      obtain ⟨_, hc, ⟨⟩⟩ := Option.map_eq_some_iff.1 ho
      exact ⟨_, hc, rfl⟩

theorem Belongs.find_cq (hb : f.Belongs .completionQueue id ctx) :
    ∃ q, f.cqs.find? id = some q ∧ q.context = ctx := by
  cases hb with
  | cq ho =>
      obtain ⟨_, hq, ⟨⟩⟩ := Option.map_eq_some_iff.1 ho
      exact ⟨_, hq, rfl⟩

theorem Belongs.find_srq (hb : f.Belongs .sharedReceiveQueue id ctx) :
    ∃ s p, f.srqs.find? id = some s ∧ f.pds.find? s.pd = some p ∧ p.context = ctx := by
  cases hb with
  | srq ho hp =>
      obtain ⟨_, hs, ⟨⟩⟩ := Option.map_eq_some_iff.1 ho
      obtain ⟨_, hp, ⟨⟩⟩ := Option.map_eq_some_iff.1 hp
      exact ⟨_, _, hs, hp, rfl⟩

/-- Soundness, table by table: each kind of object finds the objects that it refers to. -/
theorem Sound.intact (hf : f.Sound) : f.Intact := by
  constructor
  case pds =>
    intro id p hp
    obtain ⟨ctx, hrefs⟩ := hf.supported (show f.object? .protectionDomain id = some (.pd p) by
      simp [object?, hp])
    exact (hrefs (.context, p.context) (by simp [Object.references])).find_context.2
  case channels =>
    intro id c hc
    obtain ⟨ctx, hrefs⟩ := hf.supported
      (show f.object? .completionChannel id = some (.channel c.asCreated) by simp [object?, hc])
    exact (hrefs (.context, c.context) List.mem_cons_self).find_context.2
  case cqs =>
    intro id q hq
    obtain ⟨ctx, hrefs⟩ := hf.supported
      (show f.object? .completionQueue id = some (.cq q.asCreated) by simp [object?, hq])
    obtain ⟨hctx, hlive⟩ := (hrefs (.context, q.context) List.mem_cons_self).find_context
    refine ⟨hlive, fun channel hchannel => ?_⟩
    have hc := hrefs (.completionChannel, channel) (by
      simp [Object.references, CompletionQueue.asCreated, hchannel])
    obtain ⟨c, hc, hsame⟩ := hc.find_channel
    exact ⟨c, hc, hsame.trans hctx.symm⟩
  case regions =>
    intro id r hr
    obtain ⟨ctx, hrefs⟩ := hf.supported (show f.object? .memoryRegion id = some (.region r) by
      simp [object?, hr])
    obtain ⟨p, hp, -⟩ := (hrefs (.protectionDomain, r.pd) List.mem_cons_self).find_pd
    exact ⟨p, hp⟩
  case srqs =>
    intro id s hs
    obtain ⟨ctx, hrefs⟩ := hf.supported
      (show f.object? .sharedReceiveQueue id = some (.srq s.asCreated) by simp [object?, hs])
    obtain ⟨p, hp, -⟩ := (hrefs (.protectionDomain, s.pd) List.mem_cons_self).find_pd
    exact ⟨p, hp⟩
  case qps =>
    intro id q hq
    obtain ⟨ctx, hrefs⟩ := hf.supported
      (show f.object? .queuePair id = some (.qp q.cleared) by simp [object?, hq])
    obtain ⟨p, hp, rfl⟩ := (hrefs (.protectionDomain, q.pd) List.mem_cons_self).find_pd
    have hsend := hrefs (.completionQueue, q.sendCq) (by
      simp [Object.references, QueuePair.cleared])
    have hrecv := hrefs (.completionQueue, q.recvCq) (by
      simp [Object.references, QueuePair.cleared])
    refine ⟨p, hp, hsend.find_cq, hrecv.find_cq, fun srq hsrq => ?_⟩
    have hs := hrefs (.sharedReceiveQueue, srq) (by
      simp [Object.references, QueuePair.cleared, hsrq])
    exact hs.find_srq
  case numbers =>
    intro number id
    rw [hf.numbered]
    constructor
    · rintro ⟨q, ho, hnumber⟩
      obtain ⟨_, hq, ⟨⟩⟩ := Option.map_eq_some_iff.1 ho
      exact ⟨_, hq, hnumber⟩
    · rintro ⟨q, hq, hnumber⟩
      exact ⟨q.cleared, by simp [object?, hq], hnumber⟩
  case distinct =>
    intro kind kind' id o o' ho ho'
    obtain rfl := hf.oneKind ho ho'
    exact ⟨rfl, Option.some.inj (ho.symm.trans ho')⟩
  case below => exact fun kind id o ho => (hf.below ho).2

/-- No more numbers are taken than there are queue pairs. -/
theorem Sound.numbers_le (hf : f.Sound) : f.qpNumbers.size ≤ f.qps.size := by
  have htaken : f.qpNumbers.keys ⊆ f.qps.values.map (·.number) := by
    intro number hmem
    obtain ⟨id, hid⟩ := Table.mem_keys.mp hmem
    obtain ⟨q, hq, hnumber⟩ := (hf.intact.numbers number id).mp hid
    exact List.mem_map.mpr ⟨q, Table.mem_values.mpr ⟨id, hq⟩, hnumber⟩
  have hle := (f.qpNumbers.distinct.subperm htaken).length_le
  simpa [Table.values, Table.size] using hle

/-- The search for a number ends with one, as long as there are more numbers than queue pairs. -/
theorem Sound.number_free (hf : f.Sound) (hfew : f.qps.size < qpNumberCount) :
    ∃ number g, f.allocQpNumber? = some (number, g) := by
  have hfound := freeQpNumber?_isSome hf.candidate (Nat.lt_of_le_of_lt hf.numbers_le hfew)
  obtain ⟨⟨number, next⟩, hfree⟩ := Option.isSome_iff_exists.mp hfound
  exact ⟨number, _, by rw [allocQpNumber?, hfree]; rfl⟩

end Fabric

namespace Host

/-- On every reachable host with fewer queue pairs than numbers a number is free. -/
theorem Reachable.number_free (hr : Reachable devices h)
    (hfew : h.fabric.qps.size < Fabric.qpNumberCount) :
    ∃ number f, h.fabric.allocQpNumber? = some (number, f) :=
  hr.sound.fabric.number_free hfew

/-- On every reachable host all references lead to live objects. No completion tells of a queue pair
that vanished, neither one that was handed over nor one that waits in a queue, and none was handed to
a completion queue that there is not. -/
theorem reachable_intact {h : Host} {devices : List DeviceConfig} (hr : Reachable devices h) :
    h.fabric.Intact ∧
      (∀ cq c solicited stored, .completed cq c solicited stored ∈ h.journal.toList →
        c.status ≠ CompletionStatus.fatal.code) ∧
      (∀ id q, h.fabric.cqs.find? id = some q →
        ∀ c ∈ q.entries.toList, c.status ≠ CompletionStatus.fatal.code) ∧
      ∀ cq c, .undelivered cq c ∉ h.journal.toList := by
  have hh := hr.sound
  have horderly (e : Event) (he : e ∈ h.journal.toList) : e.Orderly :=
    hh.orderly e (List.mem_reverse.1 he)
  exact ⟨hh.fabric.intact, fun _ _ _ _ he => horderly _ he, fun _ _ hq c hc => hh.entries hq c hc,
    fun _ _ he => horderly _ he⟩

theorem loopback_intact :
    let h := (({} : Host).withDevices [{}]).performAll loopback
    h.fabric.qpNumbers.find? 0x100 = some 5 ∧ h.fabric.Intact :=
  ⟨by decide, (reachable_intact ((Reachable.fresh {}).performAll loopback)).1⟩

end Host

end Rdma
