import Rdma.Text.Record

/-!
# Ports

Path MTUs, port states, link layers, port addresses and the attributes a port reports.
-/

namespace Rdma

/-- Path MTU. -/
inductive Mtu where
  | b256
  | b512
  | b1024
  | b2048
  | b4096
deriving Repr, DecidableEq

namespace Mtu

def code : Mtu → UInt32
  | b256 => 1
  | b512 => 2
  | b1024 => 3
  | b2048 => 4
  | b4096 => 5

def ofCode? : UInt32 → Option Mtu
  | 1 => some b256
  | 2 => some b512
  | 3 => some b1024
  | 4 => some b2048
  | 5 => some b4096
  | _ => none

def bytes (m : Mtu) : UInt32 := 128 <<< m.code

/-- The largest MTU that does not exceed `n` bytes. -/
def ofBytes? (n : UInt32) : Option Mtu :=
  if 4096 ≤ n then some b4096
  else if 2048 ≤ n then some b2048
  else if 1024 ≤ n then some b1024
  else if 512 ≤ n then some b512
  else if 256 ≤ n then some b256
  else none

def label : Mtu → String
  | b256 => "Mtu256"
  | b512 => "Mtu512"
  | b1024 => "Mtu1024"
  | b2048 => "Mtu2048"
  | b4096 => "Mtu4096"

theorem ofCode?_code (m : Mtu) : ofCode? m.code = some m := by cases m <;> rfl

end Mtu

/-- State of a port. -/
inductive PortState where
  | nop
  | down
  | init
  | armed
  | active
  | activeDefer
deriving Repr, DecidableEq

def PortState.code : PortState → UInt32
  | nop => 0
  | down => 1
  | init => 2
  | armed => 3
  | active => 4
  | activeDefer => 5

/-- Link layer of a port. -/
inductive LinkLayer where
  | infiniband
  | ethernet
deriving Repr, DecidableEq

namespace LinkLayer

def code : LinkLayer → UInt8
  | infiniband => 1
  | ethernet => 2

def name : LinkLayer → String
  | infiniband => "infiniband"
  | ethernet => "ethernet"

end LinkLayer

/-- A global port address: sixteen bytes, most significant first. -/
abbrev Gid := Vector UInt8 16

def Gid.zero : Gid := Vector.replicate 16 0

/-- What a port reports about itself. Numbers are the provider's own: they need not be known codes.
-/
structure PortAttributes where
  state : UInt32 := 0
  maxMtu : UInt32 := 0
  activeMtu : UInt32 := 0
  gidTableLength : Int32 := 0
  capabilityFlags : UInt32 := 0
  maxMessageSize : UInt32 := 0
  lid : UInt16 := 0
  subnetManagerLid : UInt16 := 0
  pkeyTableLength : UInt16 := 0
  activeWidth : UInt8 := 0
  activeSpeed : UInt8 := 0
  physicalState : UInt8 := 0
  linkLayer : UInt8 := 0
  lmc : UInt8 := 0
  maxVirtualLanes : UInt8 := 0
deriving Repr, DecidableEq

namespace PortAttributes

def isActive (p : PortAttributes) : Bool := p.state = PortState.active.code

/-- The active MTU, if the port reports a known code. -/
def activeMtu? (p : PortAttributes) : Option Mtu := Mtu.ofCode? p.activeMtu

/-- The attributes, by the names they are shown under. -/
def fields (p : PortAttributes) : List (String × Int) :=
  [("state", p.state.toNat), ("max_mtu", p.maxMtu.toNat), ("active_mtu", p.activeMtu.toNat),
    ("gid_tbl_len", p.gidTableLength.toInt), ("port_cap_flags", p.capabilityFlags.toNat),
    ("max_msg_sz", p.maxMessageSize.toNat), ("lid", p.lid.toNat),
    ("sm_lid", p.subnetManagerLid.toNat), ("pkey_tbl_len", p.pkeyTableLength.toNat),
    ("active_width", p.activeWidth.toNat), ("active_speed", p.activeSpeed.toNat),
    ("phys_state", p.physicalState.toNat), ("link_layer", p.linkLayer.toNat),
    ("lmc", p.lmc.toNat), ("max_vl_num", p.maxVirtualLanes.toNat)]

def describe (p : PortAttributes) : String :=
  Text.record "PortAttr" (p.fields.map fun f => (f.1, toString f.2))

end PortAttributes

end Rdma
