import Rdma.WorkRequest

/-!
# Memory regions as their owners see them
-/

namespace Rdma

/-- Address, length and keys of a registered memory region. -/
structure RegionInfo where
  addr : UInt64 := 0
  length : UInt64 := 0
  lkey : UInt32 := 0
  rkey : UInt32 := 0
deriving Repr, DecidableEq

namespace RegionInfo

/-- The address `offset` bytes into the region, unless it lies beyond the last address. -/
def addressAt? (r : RegionInfo) (offset : UInt64) : Option UInt64 :=
  if r.addr.toNat + offset.toNat < UInt64.size then some (r.addr + offset) else none

/-- An entry of `length` bytes at `offset`, if the region holds that range. -/
def sge? (r : RegionInfo) (offset : UInt64) (length : UInt32) : Option Sge :=
  (r.addressAt? offset).bind fun addr =>
    if offset.toNat + length.toNat ≤ r.length.toNat then some ⟨addr, length, r.lkey⟩ else none

/-- An entry of the whole region, cut off at the longest length an entry can have. -/
def whole (r : RegionInfo) : Sge :=
  ⟨r.addr, UInt32.ofNat (min r.length.toNat (UInt32.size - 1)), r.lkey⟩

/-- The region as a remote target at `offset`, which may be its end but not beyond. -/
def remote? (r : RegionInfo) (offset : UInt64) : Option RemoteAddress :=
  (r.addressAt? offset).bind fun addr =>
    if offset ≤ r.length then some ⟨addr, r.rkey⟩ else none

end RegionInfo

end Rdma
