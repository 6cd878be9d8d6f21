import Rdma.Proofs.Host.Preparation
import Rdma.Proofs.Host.Run

/-!
# Registered regions

Whether a region that lets peers write lets its owner write too is checked when it is registered, and
never again: nothing changes a region while it is there. An operation that changes which regions
there are does not touch memory.

* `perform_registers` — what an operation does to regions;
* `Reachable.consistent` — the permissions of all regions are consistent.
-/

namespace Rdma

open Fabric (QueuePair Object)

/-- The rights that ask for local write come with it. -/
theorem Permission.localWrite_of_consistent {p right : Permission} (hp : p.isConsistent = true)
    (hright : right = remoteWrite ∨ right = remoteAtomic) (hcontains : p.contains right = true) :
    p.contains localWrite = true := by
  have hcontains : p.bits &&& right.bits = right.bits := of_decide_eq_true hcontains
  have hasks : (remoteWrite ||| remoteAtomic).bits &&& right.bits = right.bits := by
    rcases hright with rfl | rfl <;> decide
  have hnone : right.bits ≠ 0 := by
    rcases hright with rfl | rfl <;> decide
  have hlocal : p.bits &&& 1 ≠ 0 := by
    rcases Bool.or_eq_true_iff.1 hp with hneither | hlocal
    · have hneither : p.bits &&& (remoteWrite ||| remoteAtomic).bits = 0 :=
        of_decide_eq_true hneither
      rw [← hasks, ← UInt32.and_assoc, hneither, UInt32.zero_and, hasks] at hcontains
      exact absurd hcontains.symm hnone
    · exact of_decide_eq_true hlocal
  have hbit : p.bits &&& 1 = 0 ∨ p.bits &&& 1 = 1 := by
    rcases Nat.mod_two_eq_zero_or_one p.bits.toNat with hzero | hone
    · exact .inl (UInt32.toNat_inj.1 (by simpa using hzero))
    · exact .inr (UInt32.toNat_inj.1 (by simpa using hone))
  exact decide_eq_true (hbit.resolve_left hlocal)

/-- Regions that allow remote writes allow local ones. -/
def Fabric.Consistent (f : Fabric) : Prop :=
  ∀ id r, f.regions.find? id = some r → r.permission.isConsistent = true

namespace Host

/-- What can become of regions. -/
inductive Registers (h k : Host) : Prop
  | kept : (∀ id, k.fabric.regions.find? id = h.fabric.regions.find? id) → Registers h k
  | changed : k.memory = h.memory →
      (∀ id r, k.fabric.regions.find? id = some r →
        h.fabric.regions.find? id = some r ∨ r.permission.isConsistent = true) → Registers h k

variable {h k : Host} {devices : List DeviceConfig}

theorem Registers.of_regions (hsame : k.fabric.regions = h.fabric.regions) : h.Registers k :=
  .kept fun id => congrArg (·.find? id) hsame

theorem Works.registers (hw : h.Works k) : h.Registers k := by
  refine .kept fun id => ?_
  have hsame := congrFun (congrFun hw.objects .memoryRegion) id
  exact Option.map_injective (fun _ _ => Object.region.inj) hsame

theorem Created.registers {α : Type} {describes : α → NativeId → Object → Prop}
    {result : Except OsError α × Host} (hc : h.Created describes result)
    (hkind : ∀ a id r, describes a id (.region r) → r.permission.isConsistent = true) :
    h.Registers result.2 := by
  cases hc with
  | refused => exact .of_regions rfl
  | made o _ _ hdescribes =>
      refine .changed rfl fun id r hr => ?_
      cases o with
      | region r' =>
          rcases Table.inserted hr with ⟨-, rfl⟩ | hr
          · exact .inr (hkind _ _ _ hdescribes)
          · exact .inl hr
      | _ => exact .inl hr

/-- A region is checked before it is registered. -/
theorem regMr_registers (h : Host) (pd : NativeId) (addr length : UInt64)
    (permission : Permission) : h.Registers (regMr pd addr length permission h).2 := by
  refine Step.guarded_cases (P := fun r : Except OsError RegionGrant × Host => h.Registers r.2)
    (fun _ _ => .of_regions rfl) fun _ hcheck => .changed rfl fun id r hr => ?_
  obtain ⟨c, -, hcheck⟩ := bind_eq_ok.1 hcheck
  obtain ⟨-, hcheck⟩ := refuse_eq_ok.1 hcheck
  obtain ⟨hpermission, -⟩ := refuse_eq_ok.1 hcheck
  simp only [Bool.or_eq_true, not_or, Bool.not_eq_true', Bool.not_eq_false] at hpermission
  rcases Table.inserted hr with ⟨-, rfl⟩ | hr
  · exact .inr hpermission.2
  · exact .inl hr

/-- A destruction registers nothing. -/
theorem Destroyed.registers {kind : ResourceKind} {id : NativeId}
    {result : Except OsError Unit × Host} (hd : h.Destroyed kind id result) :
    h.Registers result.2 := by
  cases hd with
  | absent | inUse => exact .of_regions rfl
  | @removed o k ho _ hdismissed =>
      cases hdismissed with
      | qp q _ =>
          let gone := (h.without id (.qp q.cleared)).note (.queuesCleared id)
          exact .of_regions (congrArg (·.regions) (progress_moves gone).skeleton)
      | cq q _ =>
          exact .of_regions (congrArg (·.regions) (h.withoutEvents_skeleton id q.channel))
      | plain =>
          refine .changed rfl fun id' r hr => .inl ?_
          cases o with
          | region =>
              exact (Table.erased hr).2
          | _ => exact hr

/-- An operation keeps the regions, or it leaves memory alone and registers none but consistent
ones. -/
theorem perform_registers (h : Host) (op : Operation) : h.Registers (h.perform op) := by
  cases op with
  | deviceList | queryDevice | queryPort | queryGid | channelDescriptor | queryQpState | setMemory
  | setDescriptorsLeft => exact .of_regions rfl
  | openDevice device =>
      exact (h.openDevice_created device).registers fun _ _ _ ⟨_, _, _, ho⟩ => nomatch ho
  | closeDevice ctx => exact (h.closeDevice_destroyed ctx).registers
  | allocPd ctx => exact (h.allocPd_created ctx).registers fun _ _ _ hd => nomatch hd.2
  | deallocPd pd => exact (h.deallocPd_destroyed pd).registers
  | regMr pd addr length permission => exact h.regMr_registers pd addr length permission
  | deregMr mr => exact (h.deregMr_destroyed mr).registers
  | createChannel ctx => exact (h.createChannel_created ctx).registers fun _ _ _ hd => nomatch hd.2
  | destroyChannel channel => exact (h.destroyChannel_destroyed channel).registers
  | createCq ctx depth channel cookie vector =>
      exact (h.createCq_created ctx depth channel cookie vector).registers fun _ _ _ hd =>
        nomatch hd.2
  | destroyCq cq => exact (h.destroyCq_destroyed cq).registers
  | pollCq cq n => exact (h.pollCq_works cq n).registers
  | reqNotifyCq cq solicitedOnly => exact (h.reqNotifyCq_works cq solicitedOnly).registers
  | getCqEvent channel => exact (h.getCqEvent_works channel).registers
  | ackCqEvents cq n => exact (h.ackCqEvents_works cq n).registers
  | createSrq pd init => exact (h.createSrq_created pd init).registers fun _ _ _ hd => nomatch hd.2
  | destroySrq srq => exact (h.destroySrq_destroyed srq).registers
  | postSrqRecv srq requests => exact (h.postSrqRecv_ran srq requests).works.registers
  | createQp pd init => exact (h.createQp_created pd init).registers fun _ _ _ hd => nomatch hd.2
  | modifyQp qp attributes mask => exact (h.modifyQp_ran qp attributes mask).works.registers
  | destroyQp qp => exact (h.destroyQp_destroyed qp).registers
  | postSend qp requests => exact (h.postSend_ran qp requests).works.registers
  | postRecv qp requests => exact (h.postRecv_ran qp requests).works.registers
  | plug device => exact (h.plug_works device).registers
  | unplug name => exact (h.unplug_works name).registers
  | setDescriptor channel descriptor => exact (h.setDescriptor_works channel descriptor).registers

/-- The permissions of all regions are consistent. -/
theorem Reachable.consistent (hr : Reachable devices h) : h.fabric.Consistent := by
  induction hr with
  | fresh memory =>
      obtain ⟨attached, nextId, hwork⟩ := fresh_work memory devices
      intro id r hfound
      have hnone : (({ memory } : Host).withDevices devices).fabric.regions = {} :=
        congrArg (·.regions) hwork
      rw [hnone] at hfound
      cases hfound
  | note e _ _ ih => exact ih
  | @perform h op _ ih =>
      intro id r hfound
      cases h.perform_registers op with
      | kept hsame => exact ih id r ((hsame id).symm.trans hfound)
      | changed _ hregions => exact (hregions id r hfound).elim (ih id r) fun hnew => hnew

end Host

end Rdma
