import Mathlib.Algebra.Group.Nat.Defs
import Mathlib.Data.List.Nodup
import Mathlib.Data.List.Perm.Subperm
import Mathlib.Logic.Function.Iterate
import Rdma.Fabric.Basic

/-!
# Queue pair numbers

The search for a free number tries one candidate more than there are numbers in use. The candidates
go through all numbers before they come round to the first, so as long as there are fewer queue pairs
than numbers those tried are all different, and one of them is free.

* `freeQpNumber?_free` — what the search finds is free;
* `freeQpNumber?_isSome` — the search finds something.
-/

namespace Rdma.Fabric

/-- How many queue pair numbers there are. -/
def qpNumberCount : Nat := 0xffff00

/-- The number is one of those given out: it has 24 bits, and is not one of the lowest. -/
def IsQpNumber (n : UInt32) : Prop := 0x100 ≤ n.toNat ∧ n.toNat < 0x1000000

variable {n : UInt32}

/-- The next number in plain arithmetic: the last one of 24 bits is followed by the first. -/
theorem toNat_qpNumberAfter (hn : IsQpNumber n) :
    (qpNumberAfter n).toNat = if n.toNat + 1 = 0x1000000 then 0x100 else n.toNat + 1 := by
  obtain ⟨hlow, hhigh⟩ := hn
  have hmask : ((n + 1) &&& 0xffffff).toNat = (n.toNat + 1) % 2 ^ 24 := by
    have hones : (0xffffff : UInt32).toNat = 2 ^ 24 - 1 := rfl
    rw [UInt32.toNat_and, hones, Nat.and_two_pow_sub_one_eq_mod, UInt32.toNat_add,
      UInt32.toNat_one]
    omega
  have hzero : ((n + 1) &&& 0xffffff) = 0 ↔ n.toNat + 1 = 0x1000000 := by
    rw [← UInt32.toNat_inj, hmask]
    show (n.toNat + 1) % 2 ^ 24 = 0 ↔ n.toNat + 1 = 0x1000000
    omega
  simp only [qpNumberAfter, hzero]
  split
  · rfl
  · rw [hmask]
    omega

theorem IsQpNumber.after (hn : IsQpNumber n) : IsQpNumber (qpNumberAfter n) := by
  have hnext := toNat_qpNumberAfter hn
  obtain ⟨hlow, hhigh⟩ := hn
  unfold IsQpNumber
  split at hnext <;> omega

/-- The candidates go through all numbers in order, and round. -/
theorem toNat_iterate (hn : IsQpNumber n) (k : Nat) :
    (qpNumberAfter^[k] n).toNat = 0x100 + (n.toNat - 0x100 + k) % qpNumberCount := by
  induction k generalizing n with
  | zero =>
      obtain ⟨hlow, hhigh⟩ := hn
      simp only [Function.iterate_zero, id, qpNumberCount]
      omega
  | succ k ih =>
      have hnext := toNat_qpNumberAfter hn
      rw [Function.iterate_succ_apply, ih hn.after, hnext]
      obtain ⟨hlow, hhigh⟩ := hn
      unfold qpNumberCount
      split <;> omega

/-! ## The search -/

variable {used : Table UInt32 NativeId} {tries : Nat} {candidate number next : UInt32}

theorem freeQpNumber?_free (hfound : freeQpNumber? used tries candidate = some (number, next)) :
    used.find? number = none := by
  induction tries generalizing candidate with
  | zero => cases hfound
  | succ tries ih =>
      simp only [freeQpNumber?] at hfound
      split at hfound
      · exact ih hfound
      · obtain ⟨rfl, -⟩ := Prod.mk.inj (Option.some.inj hfound)
        exact Table.contains_false ‹_›

/-- The search goes on from a number that is given out. -/
theorem freeQpNumber?_next (hfound : freeQpNumber? used tries candidate = some (number, next))
    (hc : IsQpNumber candidate) : IsQpNumber next := by
  induction tries generalizing candidate with
  | zero => cases hfound
  | succ tries ih =>
      simp only [freeQpNumber?] at hfound
      split at hfound
      · exact ih hfound hc.after
      · obtain ⟨-, rfl⟩ := Prod.mk.inj (Option.some.inj hfound)
        exact hc.after

theorem contains_of_none (hnone : freeQpNumber? used tries candidate = none) :
    ∀ k < tries, used.contains (qpNumberAfter^[k] candidate) = true := by
  induction tries generalizing candidate with
  | zero => intro k hk; cases hk
  | succ tries ih =>
      simp only [freeQpNumber?] at hnone
      split at hnone
      case isFalse => cases hnone
      case isTrue hused =>
        intro k hk
        cases k with
        | zero => exact hused
        | succ k =>
            rw [Function.iterate_succ_apply]
            exact ih hnone k (Nat.lt_of_succ_lt_succ hk)

/-- A search that fails tried more numbers than there are in use, and all were different. -/
theorem freeQpNumber?_isSome (hc : IsQpNumber candidate) (hfew : used.size < qpNumberCount) :
    (freeQpNumber? used (used.size + 1) candidate).isSome = true := by
  refine Option.isSome_iff_ne_none.mpr fun hnone => ?_
  have hused := contains_of_none hnone
  have hdifferent : ((List.range (used.size + 1)).map (qpNumberAfter^[·] candidate)).Nodup := by
    refine List.Nodup.map_on (fun i hi j hj heq => ?_) List.nodup_range
    have hsame := congrArg UInt32.toNat heq
    rw [toNat_iterate hc, toNat_iterate hc] at hsame
    rw [List.mem_range] at hi hj
    unfold qpNumberCount at hsame hfew
    omega
  have hkeys : (List.range (used.size + 1)).map (qpNumberAfter^[·] candidate) ⊆ used.keys := by
    intro number hmem
    obtain ⟨k, hk, rfl⟩ := List.mem_map.mp hmem
    exact Table.mem_keys.mpr (Table.contains_iff.mp (hused k (List.mem_range.mp hk)))
  have hle := (hdifferent.subperm hkeys).length_le
  simp only [List.length_map, List.length_range, Table.keys] at hle
  exact Nat.not_succ_le_self _ hle

theorem allocQpNumber?_eq_some {f g : Fabric} (hfound : f.allocQpNumber? = some (number, g)) :
    f.qpNumbers.find? number = none ∧
      ∃ nextQpNumber, g = { f with nextQpNumber } ∧
        (IsQpNumber f.nextQpNumber → IsQpNumber nextQpNumber) := by
  simp only [allocQpNumber?, Option.map_eq_some_iff, Prod.exists, Prod.mk.injEq] at hfound
  obtain ⟨_, next, hfree, rfl, rfl⟩ := hfound
  exact ⟨freeQpNumber?_free hfree, next, rfl, freeQpNumber?_next hfree⟩

end Rdma.Fabric
