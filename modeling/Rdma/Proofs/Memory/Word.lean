import Mathlib.Data.Nat.Digits.Lemmas
import Rdma.Proofs.Memory.Overwrite

/-!
# Words in memory

A word is stored as its eight bytes, lowest first. Two aligned words share all their bytes or none.

* `wordOfBytes_bytesOfWord`, `readWord_writeWord` — what is stored is read back;
* `readWord_congr` — a word is as long as its bytes are;
* `eq_of_mem_span` — aligned words that share a byte.
-/

namespace Rdma.Memory

/-- The word that at most eight bytes stand for, as a number. -/
theorem toNat_wordOfBytes {bytes : List UInt8} (hlength : bytes.length ≤ 8) :
    (wordOfBytes bytes).toNat = Nat.ofDigits 256 (bytes.map (·.toNat)) := by
  induction bytes with
  | nil => rfl
  | cons byte rest ih =>
      rw [List.length_cons] at hlength
      have hrest := ih (by omega)
      have hdigits : ∀ d ∈ rest.map (·.toNat), d < 256 := by
        intro d hd
        obtain ⟨b, -, rfl⟩ := List.mem_map.1 hd
        exact b.toNat_lt
      have hsmall : (wordOfBytes rest).toNat < 256 ^ 7 := by
        rw [hrest]
        refine Nat.lt_of_lt_of_le (Nat.ofDigits_lt_base_pow_length (by decide) hdigits) ?_
        rw [List.length_map]
        exact Nat.pow_le_pow_right (by decide) (by omega)
      have hbyte : byte.toUInt64.toNat = byte.toNat := UInt8.toNat_toUInt64 byte
      have hshift : (wordOfBytes rest <<< 8).toNat = 2 ^ 8 * (wordOfBytes rest).toNat := by
        rw [UInt64.toNat_shiftLeft, Nat.shiftLeft_eq, Nat.mul_comm]
        exact Nat.mod_eq_of_lt (by show 2 ^ 8 * _ < 2 ^ 64; omega)
      show (wordOfBytes rest <<< 8 ||| byte.toUInt64).toNat = _
      rw [UInt64.toNat_or, hshift, hbyte, ← Nat.two_pow_add_eq_or_of_lt byte.toNat_lt, hrest,
        List.map_cons, Nat.ofDigits_cons]
      exact Nat.add_comm _ _

/-- The bytes of a word are its digits. -/
theorem toNat_bytesOfWord (word : UInt64) :
    (bytesOfWord word).map (·.toNat) = (List.range 8).map fun i => word.toNat / 256 ^ i % 256 := by
  rw [bytesOfWord, List.map_map]
  refine List.map_congr_left fun i hi => ?_
  rw [List.mem_range] at hi
  show (word >>> (8 * UInt64.ofNat i)).toUInt8.toNat = _
  have hshift : (8 * UInt64.ofNat i).toNat = 8 * i := by
    rw [UInt64.toNat_mul, UInt64.toNat_ofNat_of_lt' (Nat.lt_trans hi (by decide))]
    exact Nat.mod_eq_of_lt (by show 8 * i < 2 ^ 64; omega)
  have hplace : 8 * i % 64 = 8 * i := Nat.mod_eq_of_lt (by omega)
  rw [UInt64.toNat_toUInt8, UInt64.toNat_shiftRight, hshift, hplace, Nat.shiftRight_eq_div_pow,
    Nat.pow_mul]

theorem ofDigits_range (n w : Nat) :
    Nat.ofDigits 256 ((List.range n).map fun i => w / 256 ^ i % 256) = w % 256 ^ n := by
  induction n generalizing w with
  | zero => simp [Nat.mod_one]
  | succ n ih =>
      rw [List.range_succ_eq_map, List.map_cons, List.map_map, Nat.ofDigits_cons]
      have hnext : ((fun i => w / 256 ^ i % 256) ∘ Nat.succ) = fun i => w / 256 / 256 ^ i % 256 := by
        funext i
        show w / 256 ^ (i + 1) % 256 = _
        rw [Nat.div_div_eq_div_mul, Nat.pow_succ, Nat.mul_comm]
      rw [hnext, ih, Nat.pow_succ, Nat.mul_comm (256 ^ n), Nat.mod_mul]
      simp

theorem wordOfBytes_bytesOfWord (word : UInt64) : wordOfBytes (bytesOfWord word) = word := by
  rw [← UInt64.toNat_inj, toNat_wordOfBytes (Nat.le_of_eq (length_bytesOfWord word)),
    toNat_bytesOfWord, ofDigits_range]
  exact Nat.mod_eq_of_lt word.toNat_lt

/-! ## Words in memory -/

variable {m m' : Memory} {a address address' word : UInt64}

theorem readBytes_writeWord (m : Memory) (address word : UInt64) :
    (m.writeWord address word).readBytes address 8 = bytesOfWord word := by
  have hlength := length_bytesOfWord word
  have hread := m.read_writeBytes address (Nat.le_of_eq hlength)
  have hdistinct : (span address 8).Nodup := nodup_span (by decide)
  have hback : ((span address 8).map (overwrite m.read (span address 8) (bytesOfWord word))).take
      (bytesOfWord word).length = bytesOfWord word :=
    take_map_overwrite hdistinct (Nat.le_of_eq (hlength.trans (length_span address 8).symm))
  rw [← hread, hlength, List.take_of_length_le] at hback
  · exact hback
  · rw [List.length_map, length_span]

theorem readWord_writeWord (m : Memory) (address word : UInt64) :
    (m.writeWord address word).readWord address = word := by
  rw [readWord, readBytes_writeWord, wordOfBytes_bytesOfWord]

theorem read_writeWord_of_not_mem (ha : a ∉ span address 8) :
    (m.writeWord address word).read a = m.read a := by
  rw [writeWord, m.read_writeBytes address (Nat.le_of_eq (length_bytesOfWord word))]
  exact overwrite_of_not_mem ha

/-- A word is what its bytes are. -/
theorem readWord_congr (hsame : ∀ a ∈ span address 8, m'.read a = m.read a) :
    m'.readWord address = m.readWord address :=
  congrArg wordOfBytes (List.map_congr_left hsame)

/-- The place of a byte in an aligned word. -/
theorem toNat_of_mem_span (haligned : address % 8 = 0) (ha : a ∈ span address 8) :
    address.toNat = a.toNat / 8 * 8 := by
  obtain ⟨i, hi, rfl⟩ := mem_span.1 ha
  have hmod : address.toNat % 8 = 0 := by
    have hzero := congrArg UInt64.toNat haligned
    rwa [UInt64.toNat_mod] at hzero
  have hlt := address.toNat_lt
  -- no aligned word goes round the address space
  have hplace : (address + UInt64.ofNat i).toNat = address.toNat + i := by
    rw [UInt64.toNat_add, UInt64.toNat_ofNat_of_lt' (Nat.lt_trans hi (by decide))]
    exact Nat.mod_eq_of_lt (by omega)
  omega

/-- Aligned words that share a byte are the same. -/
theorem eq_of_mem_span (haligned : address % 8 = 0) (haligned' : address' % 8 = 0)
    (ha : a ∈ span address 8) (ha' : a ∈ span address' 8) : address = address' := by
  rw [← UInt64.toNat_inj, toNat_of_mem_span haligned ha, toNat_of_mem_span haligned' ha']

end Rdma.Memory
