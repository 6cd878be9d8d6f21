import Rdma.Table

/-!
# Byte-addressed memory

Memory is total: an address never written reads as zero. It is stored in blocks of equal size, of
which only the written ones are kept. The view is `read`; `read_write` is the whole story of
`write`.
-/

namespace Rdma

/-- Number of bytes in a block. -/
abbrev blockSize : Nat := 262144

/-- The bytes of a block. -/
structure Block where
  bytes : ByteArray
  size_eq : bytes.size = blockSize

namespace Block

instance : DecidableEq Block := fun b c =>
  decidable_of_iff (b.bytes.data = c.bytes.data)
    ⟨fun same => by obtain ⟨⟨data⟩, _⟩ := b; cases same; rfl, fun same => same ▸ rfl⟩

instance : Repr Block := ⟨fun b _ => repr b.bytes.toList⟩

/-- A block of zeros. -/
def blank : Block := ⟨⟨Array.replicate blockSize 0⟩, Array.size_replicate⟩

theorem lt_size (b : Block) (i : Fin blockSize) : i.val < b.bytes.size :=
  Nat.lt_of_lt_of_eq i.isLt b.size_eq.symm

def get (b : Block) (i : Fin blockSize) : UInt8 := b.bytes.get i (b.lt_size i)

def set (b : Block) (i : Fin blockSize) (byte : UInt8) : Block :=
  ⟨b.bytes.set i byte (b.lt_size i), (Array.size_set _).trans b.size_eq⟩

@[simp] theorem get_blank (i : Fin blockSize) : blank.get i = 0 := Array.getElem_replicate _

@[simp] theorem get_set (b : Block) (i j : Fin blockSize) (byte : UInt8) :
    (b.set i byte).get j = if j = i then byte else b.get j := by
  have fits : j.val < (b.bytes.data.set i byte (b.lt_size i)).size :=
    Nat.lt_of_lt_of_eq (b.lt_size j) (Array.size_set _).symm
  have step := Array.getElem_set (b.lt_size i) fits
  simp only [Fin.ext_iff, eq_comm (a := j.val)]
  exact step

end Block

/-- The block that holds an address. -/
def blockOf (address : UInt64) : UInt64 := address / 262144

/-- The place of an address in its block. -/
def offsetOf (address : UInt64) : Fin blockSize :=
  ⟨(address % 262144).toNat, by
    rw [UInt64.toNat_mod]
    exact Nat.mod_lt _ (by decide)⟩

theorem eq_of_place {a b : UInt64} (block : blockOf a = blockOf b)
    (offset : offsetOf a = offsetOf b) : a = b := by
  have h₁ := congrArg UInt64.toNat block
  have h₂ := congrArg Fin.val offset
  simp only [blockOf, offsetOf, UInt64.toNat_div, UInt64.toNat_mod] at h₁ h₂
  have h := Nat.div_add_mod a.toNat (262144 : UInt64).toNat
  rw [h₁, h₂, Nat.div_add_mod] at h
  exact UInt64.toNat_inj.1 h.symm

/-- Memory addressed by 64-bit words. -/
structure Memory where
  blocks : Table UInt64 Block := {}
deriving Repr, DecidableEq

namespace Memory

def read (m : Memory) (address : UInt64) : UInt8 :=
  match m.blocks.find? (blockOf address) with
  | some block => block.get (offsetOf address)
  | none => 0

/-- The memory with room for a block; it reads the same. -/
def reserve (m : Memory) (block : UInt64) : Memory :=
  if m.blocks.contains block then m else ⟨m.blocks.insert block .blank⟩

def write (m : Memory) (address : UInt64) (byte : UInt8) : Memory :=
  ⟨(m.reserve (blockOf address)).blocks.modify (blockOf address) (·.set (offsetOf address) byte)⟩

@[simp] theorem read_fresh (address : UInt64) : ({} : Memory).read address = 0 := rfl

theorem read_reserve (m : Memory) (block address : UInt64) :
    (m.reserve block).read address = m.read address := by
  simp only [reserve]
  split
  case isTrue => rfl
  case isFalse h =>
    have absent : m.blocks.find? block = none := by simpa [Table.contains] using h
    by_cases hb : blockOf address = block <;> simp [read, hb, absent]

@[simp] theorem read_write (m : Memory) (address address' : UInt64) (byte : UInt8) :
    (m.write address byte).read address' =
      if address' = address then byte else m.read address' := by
  rw [← read_reserve m (blockOf address) address']
  obtain ⟨block, hb⟩ : ∃ block, (m.reserve (blockOf address)).blocks.find? (blockOf address) =
      some block := by
    rw [← Option.isSome_iff_exists, reserve]
    split <;> simp_all [Table.contains]
  by_cases same : blockOf address' = blockOf address
  · by_cases place : offsetOf address' = offsetOf address
    · simp [read, write, hb, eq_of_place same place]
    · have other : address' ≠ address := fun h => place (congrArg offsetOf h)
      simp [read, write, same, place, hb, other]
  · have other : address' ≠ address := fun h => same (congrArg blockOf h)
    simp [read, write, same, other]

/-- The addresses of `length` bytes from `address` on. -/
def span (address : UInt64) (length : Nat) : List UInt64 :=
  (List.range length).map (address + UInt64.ofNat ·)

def readBytes (m : Memory) (address : UInt64) (length : Nat) : List UInt8 :=
  (span address length).map m.read

/-- Store `data` from `address` on, first byte first. -/
def writeBytes (m : Memory) (address : UInt64) : List UInt8 → Memory
  | [] => m
  | byte :: rest => (m.write address byte).writeBytes (address + 1) rest

/-- The word a little-endian byte list stands for. -/
def wordOfBytes (bytes : List UInt8) : UInt64 :=
  bytes.foldr (fun byte word => word <<< 8 ||| byte.toUInt64) 0

/-- The eight bytes of a word, lowest first. -/
def bytesOfWord (word : UInt64) : List UInt8 :=
  (List.range 8).map fun i => (word >>> (8 * UInt64.ofNat i)).toUInt8

/-- The little-endian word at `address`. -/
def readWord (m : Memory) (address : UInt64) : UInt64 := wordOfBytes (m.readBytes address 8)

def writeWord (m : Memory) (address word : UInt64) : Memory :=
  m.writeBytes address (bytesOfWord word)

end Memory

end Rdma
