import Rdma.Fabric.Basic
import Rdma.Memory
import Rdma.Step

/-!
# The host

A host has a software fabric, the memory that regions are registered in, and the journal. What the
software provider does are steps on a host.
-/

namespace Rdma

structure Host where
  fabric : Fabric := {}
  memory : Memory := {}
  journal : Journal := {}
  /-- May new descriptors be made? -/
  descriptorsLeft : Bool := true
deriving Repr, DecidableEq

/-- What a native verb does: a value or an error, and the host afterwards. -/
abbrev Native (α : Type) := Step Host OsError α

/-- A post fails at the first request that is not accepted. -/
structure Rejection where
  index : Nat
  cause : OsError
deriving Repr, DecidableEq

/-- What posting a list of requests does. -/
abbrev Posting := Step Host Rejection Unit

namespace Host

/-- Write an event down. -/
def note (h : Host) (e : Event) : Host := { h with journal := h.journal.add e }

def updateQp (h : Host) (id : NativeId) (change : Fabric.QueuePair → Fabric.QueuePair) : Host :=
  { h with fabric := h.fabric.updateQp id change }

def updateCq (h : Host) (id : NativeId) (change : Fabric.CompletionQueue → Fabric.CompletionQueue) :
    Host :=
  { h with fabric := h.fabric.updateCq id change }

@[simp] theorem note_fabric (h : Host) (e : Event) : (h.note e).fabric = h.fabric := rfl

@[simp] theorem note_memory (h : Host) (e : Event) : (h.note e).memory = h.memory := rfl

@[simp] theorem note_journal (h : Host) (e : Event) : (h.note e).journal = h.journal.add e := rfl

@[simp] theorem updateQp_fabric (h : Host) (id : NativeId)
    (change : Fabric.QueuePair → Fabric.QueuePair) :
    (h.updateQp id change).fabric = h.fabric.updateQp id change := rfl

@[simp] theorem updateCq_fabric (h : Host) (id : NativeId)
    (change : Fabric.CompletionQueue → Fabric.CompletionQueue) :
    (h.updateCq id change).fabric = h.fabric.updateCq id change := rfl

@[simp] theorem updateCq_journal (h : Host) (id : NativeId)
    (change : Fabric.CompletionQueue → Fabric.CompletionQueue) :
    (h.updateCq id change).journal = h.journal := rfl

/-- The size a device's ports cannot have is told once for each device. -/
def noteInvalidMtus (h : Host) (devices : List DeviceConfig) : Host :=
  devices.foldl
    (fun h d => if (Mtu.ofBytes? d.mtu).isNone then h.note (.invalidMtu d.name d.mtu) else h) h

/-- Start a fabric with the given devices. -/
def withDevices (h : Host) (devices : List DeviceConfig) : Host :=
  { h.noteInvalidMtus devices with fabric := Fabric.ofDevices devices }

/-- Attach a device. It appears in enumerations from now on. -/
def plug (h : Host) (device : DeviceConfig) : Host :=
  { h.note (.plugged device.name) with fabric := h.fabric.plug device }

/-- Detach every device of a name, and tell whether there was one. Open contexts keep working. -/
def unplug (h : Host) (name : String) : Bool × Host :=
  let fabric := h.fabric.unplug name
  (fabric.devices.length ≠ h.fabric.devices.length,
    { h.note (.unplugged name) with fabric })

end Host

end Rdma
