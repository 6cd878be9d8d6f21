import Rdma.Text.Quoted
import Rdma.Text.Record

/-!
# Access permissions

A permission is a set of access rights, one bit a right. Bits that stand for no right are kept, so
that the provider can refuse them.
-/

namespace Rdma

/-- Access rights to a memory region or, for its peer, to the memory behind a queue pair. -/
structure Permission where
  bits : UInt32
deriving Repr, DecidableEq

namespace Permission

def none : Permission := ⟨0⟩
def localWrite : Permission := ⟨1⟩
def remoteWrite : Permission := ⟨2⟩
def remoteRead : Permission := ⟨4⟩
def remoteAtomic : Permission := ⟨8⟩
def windowBind : Permission := ⟨16⟩
def zeroBased : Permission := ⟨32⟩
def onDemand : Permission := ⟨64⟩

/-- The rights in ascending order of their bits, with the names they are shown by. -/
def rights : List (Permission × String) :=
  [(localWrite, "LOCAL_WRITE"), (remoteWrite, "REMOTE_WRITE"), (remoteRead, "REMOTE_READ"),
    (remoteAtomic, "REMOTE_ATOMIC"), (windowBind, "MW_BIND"), (zeroBased, "ZERO_BASED"),
    (onDemand, "ON_DEMAND")]

/-- The bits that stand for a right. -/
def knownBits : UInt32 := 0x7f

def union (p q : Permission) : Permission := ⟨p.bits ||| q.bits⟩

def inter (p q : Permission) : Permission := ⟨p.bits &&& q.bits⟩

/-- The rights of `p` that are not rights of `q`. -/
def difference (p q : Permission) : Permission := ⟨p.bits &&& ~~~q.bits⟩

instance : Add Permission := ⟨union⟩
instance : Sub Permission := ⟨difference⟩
instance : OrOp Permission := ⟨union⟩
instance : AndOp Permission := ⟨inter⟩

/-- Local write and every kind of remote access. -/
def standard : Permission := localWrite ||| remoteRead ||| remoteWrite ||| remoteAtomic

instance : Inhabited Permission := ⟨standard⟩

/-- Does `p` hold every right of `q`? -/
def contains (p q : Permission) : Bool := p.bits &&& q.bits = q.bits

def hasUnknownBits (p : Permission) : Bool := p.bits &&& ~~~knownBits ≠ 0

/-- Remote write and remote atomic access both ask for local write. -/
def isConsistent (p : Permission) : Bool :=
  (p &&& (remoteWrite ||| remoteAtomic)).bits = 0 || (p &&& localWrite).bits ≠ 0

/-- The rights held, as a set of quoted names. -/
def describe (p : Permission) : String :=
  Text.set ((rights.filter fun r => p.contains r.1).map fun r => Text.quoted r.2)

end Permission

end Rdma
