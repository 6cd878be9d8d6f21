import Rdma.Host

/-!
# Device verbs of the software provider
-/

namespace Rdma

/-- A device as an enumeration lists it. -/
structure ListedDevice where
  native : NativeId
  name : Option String
deriving Repr, DecidableEq

namespace Fabric

/-- How an enumeration lists a device. -/
def Device.listed (d : Device) : ListedDevice := { native := d.uid, name := d.config.name? }

/-- The node identifier of a device: the vendor's number and 32 bits of the device's own. -/
def nodeGuid (uid : NativeId) : UInt64 :=
  0x0002c90300000000 ||| (UInt64.ofNat uid &&& 0xffffffff)

/-- The local identifier of a port: twelve bits of the device's number above the port's. -/
def portLid (uid : NativeId) (port : UInt8) : UInt16 :=
  ((UInt64.ofNat uid &&& 0xfff) <<< 4).toUInt16 ||| port.toUInt16

/-- The global identifier of a port: the link-local prefix, then the node identifier plus the port.
-/
def portGid (uid : NativeId) (port : UInt8) : Gid :=
  let interface := nodeGuid uid + port.toUInt64
  Vector.ofFn fun i =>
    if i.val = 0 then 0xfe
    else if i.val = 1 then 0x80
    else if i.val < 8 then 0
    else (interface >>> (8 * (15 - UInt64.ofNat i.val))).toUInt8

/-- Version that every software device reports for its firmware. -/
def firmwareVersion : String := "0.1.0"

def attributesOf (c : Context) : DeviceAttributes :=
  let d := c.config
  { firmware := FirmwareVersion.ofText firmwareVersion
    nodeGuid := nodeGuid c.deviceUid
    systemImageGuid := nodeGuid c.deviceUid
    maxMrSize := d.maxMrSize
    pageSizes := ~~~0xfff
    maxQp := d.maxQp
    maxQpWr := d.maxQpWr
    maxSge := d.maxSge
    maxCq := d.maxCq
    maxCqe := d.maxCqe
    maxMr := d.maxMr
    maxPd := d.maxPd
    maxResponderReads := 16
    maxInitiatorReads := 16
    maxSrq := d.maxSrq
    maxSrqWr := d.maxSrqWr
    maxSrqSge := d.maxSge
    atomicCapability := DeviceAttributes.atomicWithinDevice
    maxPkeys := 1
    portCount := d.ports }

/-- Ports are always active: four lanes of 25 Gb/s each, link up. -/
def portAttributesOf (c : Context) (port : UInt8) : PortAttributes :=
  { state := PortState.active.code
    maxMtu := c.config.portMtu.code
    activeMtu := c.config.portMtu.code
    gidTableLength := 1
    maxMessageSize := 0x80000000
    lid := if c.config.linkLayer = .infiniband then portLid c.deviceUid port else 0
    subnetManagerLid := 1
    pkeyTableLength := 1
    activeWidth := 2
    activeSpeed := 32
    physicalState := 5
    linkLayer := c.config.linkLayer.code
    maxVirtualLanes := 1 }

/-- The context, if it has the port. -/
def contextWithPort (f : Fabric) (id : NativeId) (port : UInt8) : Except OsError Context := do
  let c ← f.context id
  if c.config.hasPort port then pure c else throw .invalid

end Fabric

namespace Host

def deviceList : Native (List ListedDevice) :=
  .read fun h => .ok (h.fabric.devices.map (·.listed))

/-- Open a device of an earlier enumeration, if it is still attached. -/
def openDevice (device : ListedDevice) : Native NativeId :=
  .guarded
    (fun h =>
      match h.fabric.devices.find? (·.uid = device.native) with
      | some d => .ok d
      | none => .error (.code .noDevice))
    fun d h =>
      let (id, f) := h.fabric.allocId
      (id, { h with
        fabric := { f with
          contexts := f.contexts.insert id { deviceUid := d.uid, config := d.config } } })

/-- Close a context that nothing was created under. -/
def closeDevice (id : NativeId) : Native Unit :=
  .guarded
    (fun h => do
      let _ ← h.fabric.context id
      if h.fabric.contextUsage id > 0 then throw .busy)
    fun _ h =>
      ((), { h with fabric := { h.fabric with contexts := h.fabric.contexts.erase id } })

/-- The name of the device behind a context. -/
def deviceName (id : NativeId) (h : Host) : Option String :=
  (h.fabric.contexts.find? id).bind (·.config.name?)

def queryDevice (id : NativeId) : Native DeviceAttributes :=
  .read fun h => (h.fabric.context id).map Fabric.attributesOf

def queryPort (id : NativeId) (port : UInt8) : Native PortAttributes :=
  .read fun h => (h.fabric.contextWithPort id port).map (Fabric.portAttributesOf · port)

/-- Ports have one global identifier each, at index 0. -/
def queryGid (id : NativeId) (port index : UInt8) : Native Gid :=
  .read fun h => do
    let c ← h.fabric.contextWithPort id port
    if index ≠ 0 then throw .invalid
    pure (Fabric.portGid c.deviceUid port)

end Host

end Rdma
