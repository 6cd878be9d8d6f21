import Rdma.Verbs.Basic

/-!
# Verbs on devices, protection domains and memory regions
-/

namespace Rdma.Verbs

variable (P : Provider)

/-! ## Devices -/

/-- Number of devices present, zero where the provider cannot list them. -/
def deviceCount (v : Verbs) : Nat × Verbs :=
  match P.deviceList v.host with
  | (.ok devices, host) => (devices.length, { v with host })
  | (.error cause, host) => (0, { v with host }.note (.enumerationFailed cause))

/-- Names of the devices present, empty for unnamed ones. -/
def deviceNames (v : Verbs) : List String × Verbs :=
  match P.deviceList v.host with
  | (.ok devices, host) => (devices.map fun d => d.name.getD "", { v with host })
  | (.error _, host) => ([], { v with host })

/-- Open the device at an index of a fresh enumeration. -/
def openDevice (index : Nat) : Verb Handle := do
  let devices ← onHost .enumeration P.deviceList
  match devices[index]? with
  | none => throw (.deviceIndex index devices.length)
  | some device =>
    let id ← native (P.openDevice device)
    issue .context id []

def closeDevice (ctx : Handle) : Verb Unit := destroy ctx .context P.closeDevice

/-- Name of the device behind a context, empty where there is none. -/
def deviceName (ctx : Handle) (v : Verbs) : String :=
  ((v.registry.resolve ctx .context).bind fun id => P.deviceName id v.host).getD ""

def queryDevice (ctx : Handle) : Verb DeviceAttributes := do
  native (P.queryDevice (← resolve ctx .context))

def queryPort (ctx : Handle) (port : UInt8) : Verb PortAttributes := do
  native (P.queryPort (← resolve ctx .context) port)

def queryGid (ctx : Handle) (port index : UInt8) : Verb Gid := do
  native (P.queryGid (← resolve ctx .context) port index)

/-! ## Protection domains and memory regions -/

def allocPd (ctx : Handle) : Verb Handle := do
  let id ← native (P.allocPd (← resolve ctx .context))
  issue .protectionDomain id [ctx]

def deallocPd (pd : Handle) : Verb Unit := destroy pd .protectionDomain P.deallocPd

/-- Register `length` bytes at `addr`. The null address and the empty range are refused before the
provider is asked. -/
def regMr (pd : Handle) (addr length : UInt64) (permission : Permission) : Verb Handle := do
  if addr = 0 then throw (.invalidArgument .nullRegionAddress)
  if length = 0 then throw (.invalidArgument .zeroRegionLength)
  let region ← native (P.regMr (← resolve pd .protectionDomain) addr length permission)
  let handle ← issue .memoryRegion region.native [pd]
  recordDetails handle (.region region.info)
  pure handle

/-- Address, length and keys of a region. -/
def queryMr (mr : Handle) : Verb RegionInfo :=
  detailsOf mr .memoryRegion fun
    | .region info => some info
    | _ => none

def deregMr (mr : Handle) : Verb Unit := destroy mr .memoryRegion P.deregMr

end Rdma.Verbs
