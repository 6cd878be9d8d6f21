import Mathlib.Data.List.Flatten
import Mathlib.Data.List.Nodup
import Rdma.Proofs.Memory.Protection

/-!
# Overwriting memory in order

Data that is stored over a list of addresses replaces the bytes there one after the other, up to its
own length, and leaves all others alone (`Memory.overwrite`). Writing to a range and scattering over
entries are both that, on the addresses of the range and of the entries in a row. So what lands does
not depend on how the entries cut it up, or on which of them are empty or overlap.

* `read_writeBytes`, `read_scatterBytes` — what storing comes to;
* `take_map_overwrite` — where no address comes twice, the data is read back in order.
-/

namespace Rdma

namespace Memory

/-- What is read after the data was stored at the addresses, first byte first. It may be shorter than
the list of addresses, and the rest of them is left alone then. -/
def overwrite (read : UInt64 → UInt8) : List UInt64 → List UInt8 → UInt64 → UInt8
  | address :: addresses, byte :: data =>
    overwrite (Function.update read address byte) addresses data
  | _, _ => read

variable {read : UInt64 → UInt8} {addresses : List UInt64} {data : List UInt8} {a : UInt64}

@[simp] theorem overwrite_nil (read : UInt64 → UInt8) (addresses : List UInt64) :
    overwrite read addresses [] = read := by
  cases addresses <;> rfl

/-- Only the addresses that data is stored at change. -/
theorem overwrite_of_not_mem (ha : a ∉ addresses) : overwrite read addresses data a = read a := by
  induction addresses generalizing read data with
  | nil => rfl
  | cons address rest ih =>
      rw [List.mem_cons, not_or] at ha
      cases data with
      | nil => rfl
      | cons byte data =>
          rw [overwrite, ih ha.2]
          exact Function.update_of_ne ha.1 _ _

/-- No more addresses are looked at than there is data. -/
theorem overwrite_take {n : Nat} (hn : data.length ≤ n) :
    overwrite read (addresses.take n) data = overwrite read addresses data := by
  induction addresses generalizing read data n with
  | nil => rw [List.take_nil]
  | cons address rest ih =>
      cases data with
      | nil => simp only [overwrite_nil]
      | cons byte data =>
          obtain ⟨n, rfl⟩ : ∃ n', n = n' + 1 := ⟨n - 1, by rw [List.length_cons] at hn; omega⟩
          rw [List.length_cons, Nat.add_le_add_iff_right] at hn
          exact ih hn

/-- What does not fit into the first addresses goes on to the next. -/
theorem overwrite_append (addresses' : List UInt64) :
    overwrite read (addresses ++ addresses') data =
      overwrite (overwrite read addresses (data.take addresses.length)) addresses'
        (data.drop addresses.length) := by
  induction addresses generalizing read data with
  | nil => simp [overwrite]
  | cons address rest ih =>
      cases data with
      | nil => simp only [List.take_nil, List.drop_nil, overwrite_nil]
      | cons byte data => exact ih

/-- Where no address comes twice, reading the addresses in order gives the data back. -/
theorem take_map_overwrite (hdistinct : addresses.Nodup) (hfits : data.length ≤ addresses.length) :
    (addresses.map (overwrite read addresses data)).take data.length = data := by
  induction addresses generalizing read data with
  | nil => rw [List.length_eq_zero_iff.1 (Nat.le_zero.1 hfits)]; rfl
  | cons address rest ih =>
      cases data with
      | nil => rfl
      | cons byte data =>
          obtain ⟨hfirst, hrest⟩ := List.nodup_cons.1 hdistinct
          have hread : overwrite (Function.update read address byte) rest data address = byte := by
            rw [overwrite_of_not_mem hfirst, Function.update_self]
          simp only [overwrite, List.map_cons, List.length_cons, List.take_succ_cons, hread]
          rw [ih hrest (Nat.le_of_succ_le_succ hfits)]

/-! ## Ranges -/

theorem length_span (address : UInt64) (n : Nat) : (span address n).length = n := by
  simp [span]

theorem take_span {address : UInt64} {n k : Nat} (hk : k ≤ n) :
    (span address n).take k = span address k := by
  rw [span, ← List.map_take, List.take_range, Nat.min_eq_left hk]
  rfl

/-- A range that does not go round the address space has no address twice. -/
theorem nodup_span {address : UInt64} {n : Nat} (hn : n ≤ UInt64.size) :
    (span address n).Nodup := by
  refine (List.nodup_map_iff_inj_on List.nodup_range).2 fun i hi j hj hsame => ?_
  rw [List.mem_range] at hi hj
  have hoffset := congrArg UInt64.toNat ((UInt64.add_right_inj address).1 hsame)
  rwa [UInt64.toNat_ofNat_of_lt' (Nat.lt_of_lt_of_le hi hn),
    UInt64.toNat_ofNat_of_lt' (Nat.lt_of_lt_of_le hj hn)] at hoffset

/-- Writing to a range, which may be longer than what is written. -/
theorem read_writeBytes (m : Memory) (address : UInt64) {n : Nat} (hn : data.length ≤ n) :
    (m.writeBytes address data).read = overwrite m.read (span address n) data := by
  rw [← overwrite_take (Nat.le_refl data.length), take_span hn]
  clear hn
  induction data generalizing m address with
  | nil => rfl
  | cons byte rest ih =>
      rw [writeBytes, ih, List.length_cons, span_succ, overwrite]
      congr 1
      funext a
      rw [read_write, Function.update_apply]

end Memory

/-- The addresses that an entry describes, in order. -/
def Sge.addresses (sge : Sge) : List UInt64 := Memory.span sge.addr sge.length.toNat

theorem Sge.nodup_addresses (sge : Sge) : sge.addresses.Nodup :=
  Memory.nodup_span (Nat.le_trans (Nat.le_of_lt sge.length.toNat_lt) (by decide))

theorem Sge.length_addresses (sges : List Sge) :
    (sges.map Sge.addresses).flatten.length = Sge.totalLength sges := by
  induction sges with
  | nil => rfl
  | cons sge rest ih =>
      rw [List.map_cons, List.flatten_cons, List.length_append, ih, Sge.addresses,
        Memory.length_span]
      rfl

namespace Host

/-- Gathering reads the addresses of the entries in a row. -/
theorem gatherBytes_eq (m : Memory) (sges : List Sge) :
    gatherBytes m sges = (sges.map Sge.addresses).flatten.map m.read := by
  simp only [gatherBytes, Memory.readBytes, List.flatMap_def, List.map_flatten, List.map_map]
  rfl

/-- Scattering stores at the addresses of the entries in a row, up to the length of the data. -/
theorem read_scatterBytes (m : Memory) (sges : List Sge) (data : List UInt8) :
    (scatterBytes m sges data).read =
      Memory.overwrite m.read (sges.map Sge.addresses).flatten data := by
  induction sges generalizing m data with
  | nil => rfl
  | cons sge rest ih =>
      have hfirst := m.read_writeBytes sge.addr (data.length_take_le sge.length.toNat)
      rw [scatterBytes, ih, hfirst, List.map_cons, List.flatten_cons, Memory.overwrite_append,
        Sge.addresses, Memory.length_span]

end Host

end Rdma
