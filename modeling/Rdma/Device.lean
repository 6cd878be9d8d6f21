import Rdma.Port
import Rdma.Text.Quoted
import Rdma.Text.Utf8

/-!
# Devices

The limits a software device is configured with, and the attributes any device reports.
-/

namespace Rdma

/-- Description and limits of one software device. -/
structure DeviceConfig where
  /-- The device's name; the empty name is reported as no name. -/
  name : String := "softrdma_0"
  ports : UInt8 := 1
  /-- Port MTU in bytes. -/
  mtu : UInt32 := 4096
  linkLayer : LinkLayer := .infiniband
  completionVectors : UInt32 := 1
  maxPd : UInt32 := 1024
  maxMr : UInt32 := 4096
  maxMrSize : UInt64 := 0x10000000000
  maxCq : UInt32 := 1024
  maxCqe : UInt32 := 65536
  maxQp : UInt32 := 1024
  maxQpWr : UInt32 := 16384
  maxSge : UInt32 := 16
  maxInlineData : UInt32 := 256
  maxSrq : UInt32 := 256
  maxSrqWr : UInt32 := 16384
deriving Repr, DecidableEq

namespace DeviceConfig

/-- The MTU of the device's ports; a size below the smallest MTU stands for the largest. -/
def portMtu (d : DeviceConfig) : Mtu := (Mtu.ofBytes? d.mtu).getD .b4096

/-- The name, unless it is empty. -/
def name? (d : DeviceConfig) : Option String :=
  if d.name.isEmpty then none else some d.name

/-- Ports are numbered from 1. -/
def hasPort (d : DeviceConfig) (port : UInt8) : Bool := port ≠ 0 && port ≤ d.ports

end DeviceConfig

/-- Room for a firmware version: text up to the first zero byte. -/
abbrev FirmwareVersion := Vector UInt8 64

namespace FirmwareVersion

/-- The front of `bytes` that fits, filled up with zeros. -/
def ofBytes (bytes : List UInt8) : FirmwareVersion :=
  Vector.ofFn fun i => bytes.getD i 0

/-- The version stored for a text: its first 63 bytes at most, so that a zero byte always follows.
-/
def ofText (text : String) : FirmwareVersion := ofBytes ((Text.utf8Bytes text).take 63)

def text (v : FirmwareVersion) : String :=
  Text.ofUtf8Lossy (v.toList.takeWhile (· ≠ 0))

end FirmwareVersion

/-- What a device reports about itself. -/
structure DeviceAttributes where
  firmware : FirmwareVersion := FirmwareVersion.ofBytes []
  nodeGuid : UInt64 := 0
  systemImageGuid : UInt64 := 0
  maxMrSize : UInt64 := 0
  pageSizes : UInt64 := 0
  vendorId : UInt32 := 0
  vendorPartId : UInt32 := 0
  hardwareVersion : UInt32 := 0
  maxQp : UInt32 := 0
  maxQpWr : UInt32 := 0
  capabilityFlags : UInt32 := 0
  maxSge : UInt32 := 0
  maxCq : UInt32 := 0
  maxCqe : UInt32 := 0
  maxMr : UInt32 := 0
  maxPd : UInt32 := 0
  maxResponderReads : UInt32 := 0
  maxInitiatorReads : UInt32 := 0
  maxSrq : UInt32 := 0
  maxSrqWr : UInt32 := 0
  maxSrqSge : UInt32 := 0
  atomicCapability : UInt32 := 0
  maxPkeys : UInt16 := 0
  localAckDelay : UInt8 := 0
  portCount : UInt8 := 0
deriving Repr, DecidableEq

namespace DeviceAttributes

/-- Atomic operations are atomic among the queue pairs of one device. -/
def atomicWithinDevice : UInt32 := 1

/-- The attributes of 64 bits, by the names they are shown under. -/
def words (d : DeviceAttributes) : List (String × UInt64) :=
  [("node_guid", d.nodeGuid), ("sys_image_guid", d.systemImageGuid), ("max_mr_size", d.maxMrSize),
    ("page_size_cap", d.pageSizes)]

/-- The other numbers among the attributes, by the names they are shown under. -/
def counts (d : DeviceAttributes) : List (String × Nat) :=
  [("vendor_id", d.vendorId.toNat), ("vendor_part_id", d.vendorPartId.toNat),
    ("hw_ver", d.hardwareVersion.toNat), ("max_qp", d.maxQp.toNat),
    ("max_qp_wr", d.maxQpWr.toNat), ("device_cap_flags", d.capabilityFlags.toNat),
    ("max_sge", d.maxSge.toNat), ("max_cq", d.maxCq.toNat), ("max_cqe", d.maxCqe.toNat),
    ("max_mr", d.maxMr.toNat), ("max_pd", d.maxPd.toNat),
    ("max_qp_rd_atom", d.maxResponderReads.toNat),
    ("max_qp_init_rd_atom", d.maxInitiatorReads.toNat), ("max_srq", d.maxSrq.toNat),
    ("max_srq_wr", d.maxSrqWr.toNat), ("max_srq_sge", d.maxSrqSge.toNat),
    ("atomic_cap", d.atomicCapability.toNat), ("max_pkeys", d.maxPkeys.toNat),
    ("local_ca_ack_delay", d.localAckDelay.toNat), ("phys_port_cnt", d.portCount.toNat)]

/-- The counts that are shown of a device. -/
def shownCounts : List String := ["max_qp", "max_qp_wr", "max_cqe", "phys_port_cnt"]

def describe (d : DeviceAttributes) : String :=
  Text.openRecord "DeviceAttr"
    (("fw_ver", Text.quoted d.firmware.text) ::
      ("node_guid", Text.hexPadded 16 d.nodeGuid.toNat) ::
      (d.counts.filter (shownCounts.contains ·.1)).map fun f => (f.1, toString f.2))

end DeviceAttributes

end Rdma
