import Rdma.Host
import Rdma.Region

/-!
# Protection domains and memory regions of the software provider
-/

namespace Rdma

/-- A region just registered. -/
structure RegionGrant where
  native : NativeId
  info : RegionInfo
deriving Repr, DecidableEq

namespace Fabric

/-- How many regions there are in all protection domains of the context of `pd`. -/
def regionsInContextOf (f : Fabric) (pd : NativeId) : Nat :=
  f.regions.count fun r => f.sameContext pd r.pd

/-- May a region be registered? -/
def checkRegion (f : Fabric) (pd : NativeId) (addr length : UInt64) (permission : Permission) :
    Except OsError Unit := do
  let c ← f.contextOfPd pd
  if addr = 0 || length = 0 || length > c.config.maxMrSize then throw .invalid
  if permission.hasUnknownBits || !permission.isConsistent then throw .invalid
  if f.regionsInContextOf pd ≥ c.config.maxMr.toNat then throw .noMemory

end Fabric

namespace Host

def allocPd (context : NativeId) : Native NativeId :=
  .guarded
    (fun h => do
      let c ← h.fabric.context context
      if h.fabric.pds.count (·.context = context) ≥ c.config.maxPd.toNat then throw .noMemory)
    fun _ h =>
      let (id, f) := h.fabric.allocId
      (id, { h with fabric := { f with pds := f.pds.insert id { context } } })

/-- Free a protection domain that nothing belongs to. -/
def deallocPd (id : NativeId) : Native Unit :=
  .guarded
    (fun h => do
      if !h.fabric.pds.contains id then throw .invalid
      if h.fabric.pdUsage id > 0 then throw .busy)
    fun _ h => ((), { h with fabric := { h.fabric with pds := h.fabric.pds.erase id } })

/-- Register `length` bytes at `addr`. One key serves local and remote use. -/
def regMr (pd : NativeId) (addr length : UInt64) (permission : Permission) : Native RegionGrant :=
  .guarded (fun h => h.fabric.checkRegion pd addr length permission)
    fun _ h =>
      let (id, f) := h.fabric.allocId
      let (key, f) := f.allocKey
      ({ native := id, info := { addr, length, lkey := key, rkey := key } },
        { h with
          fabric := { f with
            regions := f.regions.insert id
              { pd, addr, length, permission, lkey := key, rkey := key } } })

def deregMr (id : NativeId) : Native Unit :=
  .guarded (fun h => if h.fabric.regions.contains id then .ok () else .error .invalid)
    fun _ h => ((), { h with fabric := { h.fabric with regions := h.fabric.regions.erase id } })

end Host

end Rdma
