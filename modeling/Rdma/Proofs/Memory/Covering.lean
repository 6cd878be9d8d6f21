import Rdma.Proofs.Host.Course
import Rdma.Proofs.Host.Limits

/-!
# What regions cover

Where a region ends is computed in 64 bits each time it is asked what it covers, and registration does
not ask whether it ends there. A region whose end is beyond the last address, or just behind it, covers
nothing at all; any other covers what lies between its bounds.

* `Region.covers_iff` — what a region covers, in terms of numbers;
* `Course.registered` — every region was registered in the past as it is;
* `Course.covering` — so the bounds are exact if no call registered a region without an end.
-/

namespace Rdma

namespace Fabric

/-- The region has an end that is an address. -/
def Region.Fits (r : Region) : Prop := r.addr.toNat + r.length.toNat < UInt64.size

/-- All bytes of a range are between the bounds of the region. -/
def Region.Encloses (r : Region) (addr : UInt64) (length : Nat) : Prop :=
  r.addr.toNat ≤ addr.toNat ∧ addr.toNat + length ≤ r.addr.toNat + r.length.toNat

variable {r : Region}

/-- The end of a region is computed without overflow just if it has one. -/
theorem Region.fits_iff : r.Fits ↔ (r.addr + r.length).toNat = r.addr.toNat + r.length.toNat := by
  have hend : (r.addr + r.length).toNat < UInt64.size := (r.addr + r.length).toNat_lt
  constructor
  · intro hfits
    rw [UInt64.toNat_add]
    exact Nat.mod_eq_of_lt hfits
  · intro hexact
    rw [Fits, ← hexact]
    exact hend

/-- The comparison in 64 bits is right for a region whose end can be told, and refuses any other. -/
theorem Region.covers_iff (r : Region) (addr : UInt64) (length : Nat) :
    r.covers addr length = true ↔ r.Fits ∧ r.Encloses addr length := by
  have haddr : r.addr.toNat < UInt64.size := r.addr.toNat_lt
  have hlength : r.length.toNat < UInt64.size := r.length.toNat_lt
  simp only [covers, Bool.and_eq_true, decide_eq_true_eq, UInt64.le_iff_toNat_le, Encloses]
  by_cases hfits : r.Fits
  · rw [fits_iff.1 hfits]
    rw [Fits] at hfits
    constructor
    · rintro ⟨⟨hfirst, -⟩, hlast⟩
      exact ⟨hfits, hfirst, hlast⟩
    · rintro ⟨-, hfirst, hlast⟩
      exact ⟨⟨hfirst, by omega⟩, hlast⟩
  · -- the end that is computed lies before the first byte
    have hover : UInt64.size ≤ r.addr.toNat + r.length.toNat := Nat.not_lt.1 hfits
    have hend : (r.addr + r.length).toNat = r.addr.toNat + r.length.toNat - UInt64.size := by
      rw [UInt64.toNat_add, Nat.mod_eq_sub_mod hover]
      exact Nat.mod_eq_of_lt (by omega)
    rw [hend]
    constructor
    · rintro ⟨⟨hfirst, -⟩, hlast⟩
      omega
    · rintro ⟨hfits', -⟩
      exact absurd hfits' hfits

end Fabric

namespace Host

open Fabric (Region)

variable {h k : Host} {devices : List DeviceConfig} {past : List (Host × Operation)}

/-- The region was registered under the identity by an operation of the past. -/
def Registered (past : List (Host × Operation)) (id : NativeId) (r : Region) : Prop :=
  ∃ g, (g, .regMr r.pd r.addr r.length r.permission) ∈ past ∧
    (regMr r.pd r.addr r.length r.permission g).1 = .ok { native := id, info := r.info }

theorem Registered.mono {later : List (Host × Operation)} {id : NativeId} {r : Region}
    (h : Registered past id r) : Registered (past ++ later) id r := by
  obtain ⟨g, hpast, hok⟩ := h
  exact ⟨g, List.mem_append_left _ hpast, hok⟩

/-- A region that an operation adds is the one that it was asked to register. -/
theorem registered_of_new (hh : h.Sound) {op : Operation} {r : Region}
    (hcreates : op.creates? = some .memoryRegion)
    (hr : (h.perform op).fabric.regions.find? h.fabric.nextId = some r) :
    Registered [(h, op)] h.fabric.nextId r := by
  cases op with
  | regMr pd addr length permission =>
      obtain ⟨grant, hok, hid, r', hsame, hpd, hinfo, hlength, hpermission⟩ :=
        (h.regMr_created pd addr length permission).of_object hh.fabric (Fabric.find_region.1 hr)
      obtain rfl := Fabric.Object.region.inj hsame
      obtain ⟨-, -, hgrant⟩ := Step.guarded_ok hok
      have haddr : r.addr = addr := by
        have hasked : grant.info.addr = addr := hgrant ▸ rfl
        rw [← hasked, ← hinfo]
        rfl
      subst hpd haddr hlength hpermission
      refine ⟨h, List.mem_singleton.2 rfl, ?_⟩
      rw [hok, ← hid, hinfo]
  | _ => cases hcreates

/-- A region was there before the operation, or the operation registered it. -/
theorem perform_region (hh : h.Sound) (op : Operation) {id : NativeId} {r : Region}
    (hr : (h.perform op).fabric.regions.find? id = some r) :
    h.fabric.regions.find? id = some r ∨
      id = h.fabric.nextId ∧ Registered [(h, op)] h.fabric.nextId r := by
  have hobject := Fabric.find_region.1 hr
  cases h.perform_alters op with
  | keeps hsame => exact .inl (Fabric.find_region.2 (hsame ▸ hobject))
  | removes hremoves => exact .inl (Fabric.find_region.2 (hremoves.object_cases hobject).2)
  | adds hcreates hadds =>
      rcases hadds.object_cases hobject with ⟨hkind, rfl, rfl⟩ | hold
      · exact .inr ⟨rfl, registered_of_new hh hcreates hr⟩
      · exact .inl (Fabric.find_region.2 hold)

/-- Every region was registered in the past as it is now. -/
theorem Course.registered (hc : Course devices past h) {id : NativeId} {r : Region}
    (hr : h.fabric.regions.find? id = some r) : Registered past id r := by
  induction hc with
  | fresh memory =>
      have hnone := fresh_object? memory devices .memoryRegion id
      rw [Fabric.find_region.1 hr] at hnone
      cases hnone
  | note _ _ _ ih => exact ih hr
  | perform op hc ih =>
      rcases perform_region hc.reachable.sound op hr with hold | ⟨rfl, g, hpast, hok⟩
      · exact (ih hold).mono
      · exact ⟨g, List.mem_append_right _ hpast, hok⟩

/-- On every course, each region has the bounds it was registered with, and covers what lies between
them if it has an end that is an address, and nothing otherwise. If every call of the course that
registered a region asked for one with an end, all regions have one, no end overflows when it is
computed, and a region covers just what lies between its bounds. -/
theorem Course.covering (hc : Course devices past h) :
    (∀ id r, h.fabric.regions.find? id = some r → Registered past id r ∧
      ∀ a n, r.covers a n = true ↔ r.Fits ∧ r.Encloses a n) ∧
    ((∀ id r, Registered past id r → r.Fits) →
      ∀ id r, h.fabric.regions.find? id = some r →
        r.addr.toNat + r.length.toNat < 2 ^ 64 ∧
          (r.addr + r.length).toNat = r.addr.toNat + r.length.toNat ∧
          ∀ a n, r.covers a n = true ↔ r.Encloses a n) := by
  refine ⟨fun id r hr => ⟨hc.registered hr, r.covers_iff⟩, fun hall id r hr => ?_⟩
  have hfits : r.Fits := hall id r (hc.registered hr)
  refine ⟨hfits, Region.fits_iff.1 hfits, fun a n => ?_⟩
  rw [r.covers_iff]
  exact and_iff_right hfits

/-- Operations that register 16 bytes from an address on. -/
def registering (addr : UInt64) : List Operation :=
  [.openDevice { native := 1, name := none }, .allocPd 2, .regMr 3 addr 16 .standard]

/-- The last 16 bytes but one that a region can have cover themselves. -/
theorem registering_covers :
    let h := (({} : Host).withDevices [{}]).performAll (registering 0xffffffffffffffef)
    ∃ r, h.fabric.regions.find? 4 = some r ∧ r.addr.toNat + r.length.toNat < 2 ^ 64 ∧
      r.covers 0xffffffffffffffef 16 = true := by
  intro h
  let fresh : Host := ({} : Host).withDevices [{}]
  let ops : List Operation := registering 0xffffffffffffffef
  have hc : Course [{}] (fresh.history ops) h := (Course.fresh {}).performAll ops
  have hall : ∀ id r, Registered (fresh.history ops) id r → r.Fits := by
    rintro id r ⟨g, hpast, -⟩
    simp only [ops, history, registering, List.mem_cons, Prod.mk.injEq, reduceCtorEq, and_false,
      false_or, List.not_mem_nil, or_false, Operation.regMr.injEq] at hpast
    obtain ⟨-, -, haddr, hlength, -⟩ := hpast
    rw [Region.Fits, haddr, hlength]
    decide
  obtain ⟨r, hr, haddr, hlength⟩ : ∃ r, h.fabric.regions.find? 4 = some r ∧
      r.addr = 0xffffffffffffffef ∧ r.length = 16 :=
    ⟨_, rfl, rfl, rfl⟩
  obtain ⟨hfits, -, hcovers⟩ := hc.covering.2 hall 4 r hr
  refine ⟨r, hr, hfits, (hcovers _ _).2 ?_⟩
  rw [Region.Encloses, haddr, hlength]
  decide

/-- A region that ends behind the last address is registered all the same. Its end overflows, and it
covers nothing of what lies between its bounds. -/
theorem endless_region_registered :
    let h := (({} : Host).withDevices [{}]).performAll (registering 0xfffffffffffffff0)
    Reachable [{}] h ∧ ∃ r, h.fabric.regions.find? 4 = some r ∧
      r.addr.toNat + r.length.toNat = 2 ^ 64 ∧ (r.addr + r.length).toNat = 0 ∧
      r.Encloses 0xfffffffffffffff0 8 ∧ r.covers 0xfffffffffffffff0 8 = false := by
  intro h
  refine ⟨(Reachable.fresh {}).performAll _, _, rfl, ?_⟩
  exact ⟨by decide, by decide, ⟨by decide, by decide⟩, by decide⟩

end Host

end Rdma
