import Rdma.Proofs.Host.Limits

/-!
# Counters

Identities, of objects and of devices alike, and memory keys are drawn from counters of the fabric.
The counter of identities only grows, so an identity names nothing but what it was drawn for. The
counter of keys moves on with each region that is registered, and with nothing else.

* `perform_draws` — what one operation draws;
* `Leads.nextId_le`, `Leads.object_old` — old identities in the course of a run.
-/

namespace Rdma.Host

open Fabric (Object)

variable {h k : Host}

/-- The operation registers a region. -/
def Operation.registers (h : Host) : Operation → Bool
  | .regMr pd addr length permission => (Host.regMr pd addr length permission h).1.isOk
  | _ => false

/-- What an operation draws from the counters, and which devices it may attach. -/
structure Draws (h : Host) (op : Operation) (k : Host) : Prop where
  nextId_le : h.fabric.nextId ≤ k.fabric.nextId
  devices : ∀ d ∈ k.fabric.devices, d ∈ h.fabric.devices ∨ d.uid = h.fabric.nextId
  nextKey : k.fabric.nextKey =
    if op.registers h then h.fabric.allocKey.2.nextKey else h.fabric.nextKey

section Draws

variable {op : Operation}

/-- No device comes or goes, and no region is registered. -/
theorem Draws.of_eq (hop : op.registers h = false) (hid : h.fabric.nextId ≤ k.fabric.nextId)
    (hdevices : k.fabric.devices = h.fabric.devices) (hkey : k.fabric.nextKey = h.fabric.nextKey) :
    h.Draws op k := by
  refine ⟨hid, fun d hd => ?_, ?_⟩
  · rw [hdevices] at hd
    exact .inl hd
  · rw [hop, hkey]
    rfl

/-- Work draws nothing. -/
theorem Draws.of_skeleton (hop : op.registers h = false)
    (hsame : k.fabric.skeleton = h.fabric.skeleton) : h.Draws op k := by
  have hid : k.fabric.nextId = h.fabric.nextId := congrArg (·.nextId) hsame
  exact .of_eq hop (Nat.le_of_eq hid.symm) (congrArg (·.devices) hsame) (congrArg (·.nextKey) hsame)

/-- A guarded verb draws nothing if it is refused. -/
theorem Draws.of_guarded {α β : Type} {check : Host → Except OsError α}
    {commit : α → Host → β × Host} (hop : op.registers h = false)
    (hcommit : ∀ a, check h = .ok a → h.Draws op (commit a h).2) :
    h.Draws op (Step.guarded check commit h).2 :=
  Step.guarded_cases (P := fun r : Except OsError β × Host => h.Draws op r.2)
    (fun _ _ => .of_skeleton hop rfl) hcommit

theorem Dismissed.draws {id : NativeId} {o : Object} (hd : h.Dismissed id o k)
    (hop : op.registers h = false) : h.Draws op k := by
  cases hd with
  | plain => cases o <;> exact .of_eq hop (Nat.le_refl _) rfl rfl
  | cq q _ =>
      have hsame := h.withoutEvents_skeleton id q.channel
      exact .of_eq hop (Nat.le_of_eq (congrArg (·.nextId) hsame).symm) (congrArg (·.devices) hsame)
        (congrArg (·.nextKey) hsame)
  | qp q _ =>
      let gone := (h.without id (.qp q.cleared)).note (.queuesCleared id)
      have hsame := (progress_moves gone).skeleton
      exact .of_eq hop (Nat.le_of_eq (congrArg (·.nextId) hsame).symm) (congrArg (·.devices) hsame)
        (congrArg (·.nextKey) hsame)

theorem Destroyed.draws {kind : ResourceKind} {id : NativeId} {result : Except OsError Unit × Host}
    (hd : h.Destroyed kind id result) (hop : op.registers h = false) : h.Draws op result.2 := by
  cases hd with
  | absent | inUse => exact .of_skeleton hop rfl
  | removed _ _ hdismissed => exact hdismissed.draws hop

end Draws

theorem createQp_draws (h : Host) (pd : NativeId) (init : NativeQpInit) :
    h.Draws (.createQp pd init) (createQp pd init h).2 := by
  refine .of_guarded rfl fun grant hcheck => ?_
  obtain ⟨number, f⟩ := grant
  obtain ⟨⟨⟩, -, hnumber⟩ := bind_eq_ok.1 hcheck
  cases hfound : h.fabric.allocQpNumber? with
  | none =>
      rw [hfound] at hnumber
      cases hnumber
  | some grant =>
      rw [hfound] at hnumber
      obtain rfl := Except.ok.inj hnumber
      obtain ⟨-, _, rfl, -⟩ := Fabric.allocQpNumber?_eq_some hfound
      exact .of_eq rfl (Nat.le_succ _) rfl rfl

theorem regMr_draws (h : Host) (pd : NativeId) (addr length : UInt64) (permission : Permission) :
    h.Draws (.regMr pd addr length permission) (regMr pd addr length permission h).2 := by
  cases hcheck : h.fabric.checkRegion pd addr length permission with
  | error cause =>
      have hrefused : regMr pd addr length permission h = (.error cause, h) := by
        simp only [regMr, Step.guarded, hcheck]
      rw [hrefused]
      refine .of_skeleton ?_ rfl
      simp only [Operation.registers, hrefused]
      rfl
  | ok =>
      refine ⟨?_, ?_, ?_⟩ <;> simp only [Operation.registers, regMr, Step.guarded, hcheck]
      · exact Nat.le_succ _
      · exact fun d hd => .inl hd
      · rfl

theorem getCqEvent_draws (h : Host) (channel : NativeId) :
    h.Draws (.getCqEvent channel) (getCqEvent channel h).2 := by
  unfold getCqEvent
  split
  · exact .of_skeleton rfl rfl
  split
  · exact .of_skeleton rfl rfl
  split <;> exact .of_eq rfl (Nat.le_refl _) rfl rfl

/-- An operation draws one identity at most, and a key with it just if it registers a region. A
device that it attaches gets the next identity. -/
theorem perform_draws (h : Host) (op : Operation) : h.Draws op (h.perform op) := by
  cases op with
  | deviceList | queryDevice | queryPort | queryGid | channelDescriptor | queryQpState | setMemory
  | setDescriptorsLeft | ackCqEvents | setDescriptor => exact .of_eq rfl (Nat.le_refl _) rfl rfl
  | openDevice | allocPd | createChannel | createCq | createSrq =>
      exact .of_guarded rfl fun _ _ => .of_eq rfl (Nat.le_succ _) rfl rfl
  | pollCq | reqNotifyCq => exact .of_guarded rfl fun _ _ => .of_eq rfl (Nat.le_refl _) rfl rfl
  | closeDevice ctx => exact (h.closeDevice_destroyed ctx).draws rfl
  | deallocPd pd => exact (h.deallocPd_destroyed pd).draws rfl
  | deregMr mr => exact (h.deregMr_destroyed mr).draws rfl
  | destroyChannel channel => exact (h.destroyChannel_destroyed channel).draws rfl
  | destroyCq cq => exact (h.destroyCq_destroyed cq).draws rfl
  | destroySrq srq => exact (h.destroySrq_destroyed srq).draws rfl
  | destroyQp qp => exact (h.destroyQp_destroyed qp).draws rfl
  | regMr pd addr length permission => exact h.regMr_draws pd addr length permission
  | getCqEvent channel => exact h.getCqEvent_draws channel
  | createQp pd init => exact h.createQp_draws pd init
  | postSrqRecv srq requests => exact .of_skeleton rfl (h.postSrqRecv_ran srq requests).skeleton
  | modifyQp qp attributes mask =>
      exact .of_skeleton rfl (h.modifyQp_ran qp attributes mask).skeleton
  | postSend qp requests => exact .of_skeleton rfl (h.postSend_ran qp requests).skeleton
  | postRecv qp requests => exact .of_skeleton rfl (h.postRecv_ran qp requests).skeleton
  | plug device =>
      refine ⟨Nat.le_succ _, fun d hd => ?_, rfl⟩
      rcases List.mem_append.1 hd with hd | hd
      · exact .inl hd
      · exact .inr (List.mem_singleton.1 hd ▸ rfl)
  | unplug name => exact ⟨Nat.le_refl _, fun d hd => .inl (List.mem_filter.1 hd).1, rfl⟩

/-! ## Runs -/

theorem Leads.nextId_le (hk : h.Leads k) : h.fabric.nextId ≤ k.fabric.nextId := by
  induction hk with
  | refl => exact Nat.le_refl _
  | @perform k op _ ih => exact Nat.le_trans ih (k.perform_draws op).nextId_le
  | note _ _ _ ih => exact ih

/-- What an old identity names was there before, as it is now. -/
theorem Leads.object_old (hk : h.Leads k) {kind : ResourceKind} {id : NativeId} {o : Object}
    (hid : id < h.fabric.nextId) (ho : k.fabric.object? kind id = some o) :
    h.fabric.object? kind id = some o := by
  induction hk with
  | refl => exact ho
  | @perform k op hk ih =>
      cases k.perform_alters op with
      | keeps hsame => exact ih (hsame ▸ ho)
      | removes hremoves => exact ih (hremoves.object_cases ho).2
      | adds _ hadds =>
          rcases hadds.object_cases ho with ⟨-, rfl, -⟩ | hold
          · exact absurd hid (Nat.not_lt.2 hk.nextId_le)
          · exact ih hold
  | note _ _ _ ih => exact ih ho

end Rdma.Host
