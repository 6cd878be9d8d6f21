import Rdma.Proofs.Host.Counters
import Rdma.Proofs.Memory.Covering
import Rdma.Proofs.Verbs.Custody
import Rdma.Proofs.Verbs.Mirror

/-!
# Ranges of a region, by offset and by address

Whoever has a region asks its description for entries and targets: at an offset, with a length that
must end within the region. The fabric is given addresses, and asks the regions that it has whether
they cover them. Both say the same of every region that has an end. The description is a copy that
was written down when the region was registered, and it stays the one of that region while others
use the host as well.

* `Region.Fits.sge?_eq`, `Region.Fits.remote?_eq`, `Region.Fits.covers_at` — offsets and addresses;
* `Shared.informed` — descriptions on record;
* `Shared.ranges` — the agreement.
-/

namespace Rdma

namespace Fabric

variable {f : Fabric} {r : Region}

/-- No address goes round the address space and still lies in the region. -/
theorem Region.Fits.covers_at (hfits : r.Fits) (offset : UInt64) (n : Nat) :
    r.covers (r.addr + offset) n = true ↔ offset.toNat + n ≤ r.length.toNat := by
  have hoffset : offset.toNat < UInt64.size := offset.toNat_lt
  have haddr : (r.addr + offset).toNat = (r.addr.toNat + offset.toNat) % UInt64.size :=
    UInt64.toNat_add _ _
  rw [r.covers_iff, Encloses, haddr]
  by_cases hlast : r.addr.toNat + offset.toNat < UInt64.size
  · rw [Nat.mod_eq_of_lt hlast]
    constructor
    · rintro ⟨-, -, hend⟩
      omega
    · intro hend
      exact ⟨hfits, by omega, by omega⟩
  · have hround : (r.addr.toNat + offset.toNat) % UInt64.size =
        r.addr.toNat + offset.toNat - UInt64.size := by
      have hstart : r.addr.toNat < UInt64.size := r.addr.toNat_lt
      rw [Nat.mod_eq_sub_mod (Nat.not_lt.1 hlast)]
      exact Nat.mod_eq_of_lt (by omega)
    have hend : r.addr.toNat + r.length.toNat < UInt64.size := hfits
    rw [hround]
    constructor
    · rintro ⟨-, hfirst, -⟩
      omega
    · intro hwithin
      omega

theorem Region.Fits.addressAt?_eq (hfits : r.Fits) {offset : UInt64}
    (hoffset : offset.toNat ≤ r.length.toNat) :
    r.info.addressAt? offset = some (r.addr + offset) := by
  have hend : r.addr.toNat + r.length.toNat < UInt64.size := hfits
  exact if_pos (by show r.addr.toNat + offset.toNat < UInt64.size; omega)

theorem Region.Fits.sge?_eq (hfits : r.Fits) (offset : UInt64) (length : UInt32) :
    r.info.sge? offset length =
      if offset.toNat + length.toNat ≤ r.length.toNat then some ⟨r.addr + offset, length, r.lkey⟩
      else none := by
  unfold RegionInfo.sge?
  by_cases hwithin : offset.toNat + length.toNat ≤ r.length.toNat
  · rw [hfits.addressAt?_eq (by omega)]
    rfl
  · cases r.info.addressAt? offset with
    | none => exact (if_neg hwithin).symm
    | some addr => exact (if_neg hwithin).trans (if_neg hwithin).symm

theorem Region.Fits.remote?_eq (hfits : r.Fits) (offset : UInt64) :
    r.info.remote? offset =
      if offset.toNat ≤ r.length.toNat then some ⟨r.addr + offset, r.rkey⟩ else none := by
  unfold RegionInfo.remote?
  by_cases hwithin : offset.toNat ≤ r.length.toNat
  · rw [hfits.addressAt?_eq hwithin, if_pos hwithin]
    exact if_pos (UInt64.le_iff_toNat_le.2 hwithin)
  · have hbeyond : ¬ offset ≤ r.info.length := fun hle => hwithin (UInt64.le_iff_toNat_le.1 hle)
    rw [if_neg hwithin]
    cases r.info.addressAt? offset with
    | none => rfl
    | some addr => exact if_neg hbeyond

theorem Region.whole_length (r : Region) :
    r.info.whole.length.toNat = min r.length.toNat (2 ^ 32 - 1) := by
  have hsmall : min r.length.toNat (UInt32.size - 1) < UInt32.size :=
    Nat.lt_of_le_of_lt (Nat.min_le_right _ _) (by decide)
  exact UInt32.toNat_ofNat_of_lt' hsmall

/-- The whole of a region is what its first bytes are. -/
theorem Region.Fits.covers_whole (hfits : r.Fits) :
    r.covers r.info.whole.addr r.info.whole.length.toNat = true := by
  have hstart := hfits.covers_at 0 r.info.whole.length.toNat
  rw [UInt64.add_zero] at hstart
  refine hstart.2 ?_
  rw [r.whole_length, UInt64.toNat_zero, Nat.zero_add]
  exact Nat.min_le_left _ _

/-- What a region covers is found under its key. -/
theorem localRegion?_isSome {id : NativeId} (hr : f.regions.find? id = some r) {addr : UInt64}
    {length : UInt32} (hcovers : r.covers addr length.toNat = true) :
    (f.localRegion? r.pd ⟨addr, length, r.lkey⟩).isSome = true := by
  rw [localRegion?, List.find?_isSome]
  exact ⟨r, Table.mem_values.2 ⟨id, hr⟩, by simp [hcovers]⟩

end Fabric

namespace Verbs

open Fabric (Region Object)

variable {v w : Verbs} {devices : List DeviceConfig}

/-! ## A host with other users -/

/-- A handle layer over a fresh host that others use as well: verbs, and operations of the provider
between them. -/
inductive Shared (devices : List DeviceConfig) : Verbs → Prop
  | fresh (policy : DependencyPolicy) (memory : Memory) :
      Shared devices (Verbs.fresh policy memory devices)
  | perform {v : Verbs} {α : Type} (op : Operation α) : Shared devices v →
      Shared devices (perform op v).2
  | beside {v : Verbs} (op : Host.Operation) : Shared devices v →
      Shared devices { v with host := v.host.perform op }

theorem Shared.host (hv : Shared devices v) : Host.Reachable devices v.host := by
  induction hv with
  | fresh policy memory => exact .note _ rfl (.fresh memory)
  | @perform v _ op _ ih => exact (perform_leads v op).reachable ih
  | beside op _ ih => exact ih.perform op

/-- The handle of a region has the description of that region, if it is still there. Its identity
was drawn before, so that nothing else can take its place. -/
structure Describes (v : Verbs) (mr : Handle) (id : NativeId) (info : RegionInfo) : Prop where
  recorded : v.details.find? mr = some (.region info)
  drawn : id < v.host.fabric.nextId
  described : ∀ r, v.host.fabric.regions.find? id = some r → r.info = info

/-- Every handle of a region has its description. -/
def Informed (v : Verbs) : Prop :=
  ∀ mr id, v.registry.resolve mr .memoryRegion = some id → ∃ info, v.Describes mr id info

/-- A run of the host takes no description away. -/
theorem Describes.leads {mr : Handle} {id : NativeId} {info : RegionInfo}
    (hd : v.Describes mr id info) (hhost : v.host.Leads w.host)
    (hdetails : w.details.find? mr = v.details.find? mr) : w.Describes mr id info where
  recorded := hdetails.trans hd.recorded
  drawn := Nat.lt_of_lt_of_le hd.drawn hhost.nextId_le
  described r hr :=
    hd.described r (Fabric.find_region.2 (hhost.object_old hd.drawn (Fabric.find_region.1 hr)))

/-- A new region comes with its handle, and no other handle can have its identity. -/
theorem Informed.bestowed (hv : v.Informed) {host : Host} {o : Object} {parents : List Handle}
    (hadds : v.host.fabric.Adds host.fabric o)
    (hhost : v.host.Leads (bestowed { v with host } o v.host.fabric.nextId parents).host) :
    (bestowed { v with host } o v.host.fabric.nextId parents).Informed := by
  intro mr id hr
  simp only [Verbs.bestowed, Registry.resolve_insert] at hr
  by_cases hnew : mr = .compose o.kind v.registry.nextSequence
  · rw [if_pos hnew] at hr
    split at hr
    case isFalse => cases hr
    case isTrue hkind =>
      obtain rfl := Option.some.inj hr
      cases o with
      | region r =>
          have hsame := hadds.object_new
          refine ⟨r.info, ?_, ?_, fun r' hr' => ?_⟩
          · simp [Verbs.bestowed, Object.details?, hnew]
          · show v.host.fabric.nextId < host.fabric.nextId
            exact Nat.lt_of_lt_of_eq (Nat.lt_succ_self _) hadds.nextId.symm
          · obtain rfl := Option.some.inj ((Fabric.find_region.2 hsame).symm.trans hr')
            rfl
      | _ => cases hkind
  · rw [if_neg hnew] at hr
    obtain ⟨info, hd⟩ := hv _ _ hr
    refine ⟨info, hd.leads hhost ?_⟩
    simp only [Verbs.bestowed]
    cases o.details? with
    | none => rfl
    | some details => simp [hnew]

theorem Informed.revoke (hv : v.Informed) {host : Host} {handle : Handle} {kind : ResourceKind}
    {id : NativeId} (hhandle : v.registry.resolve handle kind = some id)
    (hhost : v.host.Leads (revoke handle { v with host }).host) :
    (revoke handle { v with host }).Informed := by
  intro mr id' hr
  obtain ⟨entry, hentry, -⟩ := live_of_resolve hhandle
  simp only [Verbs.revoke, Verbs.note, Registry.resolve_remove hentry] at hr
  split at hr
  case isTrue => cases hr
  case isFalse hother =>
    obtain ⟨info, hd⟩ := hv _ _ hr
    refine ⟨info, hd.leads hhost ?_⟩
    simp [Verbs.revoke, Verbs.note, hother]

theorem Informed.perform (hv : v.Informed) (hh : v.host.Sound) {α : Type} (op : Operation α) :
    (perform op v).2.Informed := by
  have hhost := perform_leads v op
  have heffect := perform_effect hh op
  generalize (Verbs.perform op v).2 = w at hhost heffect ⊢
  cases heffect with
  | works hw =>
      intro mr id hr
      rw [hw.registry] at hr
      obtain ⟨info, hd⟩ := hv _ _ hr
      exact ⟨info, hd.leads hhost (by rw [hw.details])⟩
  | issued hadds _ _ => exact hv.bestowed hadds hhost
  | revoked hr _ _ _ => exact hv.revoke hr hhost

theorem Shared.informed (hv : Shared devices v) : v.Informed := by
  induction hv with
  | fresh policy memory =>
      intro mr id hr
      obtain ⟨entry, hentry, -⟩ := live_of_resolve hr
      cases hentry
  | perform op hv ih => exact ih.perform hv.host.sound op
  | @beside v op _ ih =>
      intro mr id hr
      obtain ⟨info, hd⟩ := ih _ _ hr
      exact ⟨info, hd.leads (.perform op .refl) rfl⟩

/-! ## The agreement -/

/-- The description that a live region with an end is queried for gives out just the entries and
targets that the region covers. -/
theorem Shared.ranges (hv : Shared devices v) {mr : Handle} {id : NativeId} {r : Region}
    (hmr : v.registry.resolve mr .memoryRegion = some id)
    (hr : v.host.fabric.regions.find? id = some r)
    (hfits : r.addr.toNat + r.length.toNat < 2 ^ 64) :
    ∃ info, queryMr mr v = (.ok info, v) ∧ info.addr = r.addr ∧ info.length = r.length ∧
      (∀ offset length,
        ((info.sge? offset length).isSome ↔ offset.toNat + length.toNat ≤ r.length.toNat) ∧
        ∀ sge, info.sge? offset length = some sge →
          sge = ⟨info.addr + offset, length, r.lkey⟩ ∧ r.covers sge.addr sge.length.toNat = true ∧
            (v.host.fabric.localRegion? r.pd sge).isSome) ∧
      (∀ (offset : UInt64) (n : Nat), r.length.toNat < offset.toNat + n →
        r.covers (info.addr + offset) n = false) ∧
      (∀ offset,
        ((info.remote? offset).isSome ↔ offset.toNat ≤ r.length.toNat) ∧
        ∀ target, info.remote? offset = some target →
          target = ⟨info.addr + offset, r.rkey⟩ ∧
            ∀ n, r.covers target.addr n = true ↔ offset.toNat + n ≤ r.length.toNat) ∧
      info.whole.lkey = r.lkey ∧ r.covers info.whole.addr info.whole.length.toNat = true ∧
        (v.host.fabric.localRegion? r.pd info.whole).isSome ∧
        info.whole.length.toNat = min r.length.toNat (2 ^ 32 - 1) := by
  have hfits : r.Fits := hfits
  obtain ⟨info, hd⟩ := hv.informed mr id hmr
  obtain rfl := hd.described r hr
  refine ⟨r.info, ?_, rfl, rfl, fun offset length => ⟨?_, fun sge hsge => ?_⟩,
    fun offset n hbeyond => ?_, fun offset => ⟨?_, fun target htarget => ?_⟩, rfl,
    hfits.covers_whole, Fabric.localRegion?_isSome hr hfits.covers_whole, r.whole_length⟩
  · simp only [queryMr, detailsOf, Step.bind_apply, resolve, Step.read, hmr, hd.recorded]
    rfl
  · rw [hfits.sge?_eq]
    split <;> simp [*]
  · rw [hfits.sge?_eq] at hsge
    split at hsge
    case isFalse => cases hsge
    case isTrue hwithin =>
      obtain rfl := Option.some.inj hsge
      have hcovers := (hfits.covers_at offset length.toNat).2 hwithin
      exact ⟨rfl, hcovers, Fabric.localRegion?_isSome hr hcovers⟩
  · refine Bool.eq_false_iff.2 fun hcovers => ?_
    exact Nat.not_le.2 hbeyond ((hfits.covers_at offset n).1 hcovers)
  · rw [hfits.remote?_eq]
    split <;> simp [*]
  · rw [hfits.remote?_eq] at htarget
    split at htarget
    case isFalse => cases htarget
    case isTrue =>
      obtain rfl := Option.some.inj htarget
      exact ⟨rfl, hfits.covers_at offset⟩

/-- A region of 64 bytes, of which one user of the host has a handle while the other uses the host.
-/
theorem registered_beside_ranges :
    let ctx : Handle := .compose .context 1
    let pd : Handle := .compose .protectionDomain 2
    let mr : Handle := .compose .memoryRegion 3
    let v := (fresh .registry {} [{}]).performAll
      [⟨_, .openDevice 0⟩, ⟨_, .allocPd ctx⟩, ⟨_, .regMr pd 4096 64 .standard⟩]
    let w : Verbs := { v with host := v.host.perform (.allocPd 2) }
    ∃ r, w.host.fabric.regions.find? 4 = some r ∧ r.addr.toNat + r.length.toNat < 2 ^ 64 ∧
      ∃ info, queryMr mr w = (.ok info, w) ∧ (info.sge? 64 0).isSome ∧
        r.covers (info.addr + 63) 2 = false := by
  intro ctx pd mr v w
  have hw : Shared [{}] w := by
    exact .beside _ (.perform _ (.perform _ (.perform _ (.fresh .registry {}))))
  have hregion : (w.host.fabric.regions.find? 4).map (fun r => (r.addr, r.length)) =
      some (4096, 64) := by decide
  obtain ⟨r, hr, hrange⟩ := Option.map_eq_some_iff.1 hregion
  obtain ⟨haddr, hlength⟩ := Prod.mk.inj hrange
  have hfits : r.addr.toNat + r.length.toNat < 2 ^ 64 := by
    rw [haddr, hlength]
    decide
  have hmr : w.registry.resolve mr .memoryRegion = some 4 := by decide
  obtain ⟨info, hquery, -, -, hsge, hbeyond, -⟩ := hw.ranges hmr hr hfits
  refine ⟨r, hr, hfits, info, hquery, (hsge 64 0).1.2 ?_, hbeyond 63 2 ?_⟩
  · rw [hlength]
    decide
  · rw [hlength]
    decide

end Verbs

end Rdma
