import Rdma.Boundary.Library
import Rdma.Boundary.WorkList

/-!
# Calls across the C boundary

Each fallible call either fails on its own arguments or runs one verb on the library's handle layer,
and its outcome goes into the record that the caller gave, if any. Arguments that the caller passes
by address may be missing.
-/

namespace Rdma.Boundary

/-- What a call does to the library, and its outcome. -/
abbrev Call (α : Type) := Step Library VerbsError α

variable {α : Type}

/-- Run a verb of the software provider on the library's handle layer, which is there from now on.
-/
def run (env : Environment) (verb : Verbs.Verb α) : Call α := fun lib =>
  let (outcome, verbs) := verb (lib.instanceIn env)
  (outcome, .live verbs)

/-- Run an infallible verb. -/
def runPure (env : Environment) (verb : Verbs → α × Verbs) (lib : Library) : α × Library :=
  let (a, verbs) := verb (lib.instanceIn env)
  (a, .live verbs)

def refuse (what : ArgumentError) : Call α := throw (.invalidArgument what)

/-- An argument that must not be missing. -/
def given (what : ArgumentError) (argument : Option α) : Call α :=
  match argument with
  | some a => pure a
  | none => refuse what

/-- Room for an answer that must not be missing. -/
def room (what : ArgumentError) (there : Bool) : Call Unit :=
  if there then pure () else refuse what

/-- A list that must be well formed. -/
def wellFormed (list : Except ArgumentError α) : Call α :=
  match list with
  | .ok a => pure a
  | .error what => refuse what

/-! ## Reports -/

/-- Write an outcome down: in the caller's record, or only in the journal where there is none. -/
def report (record : Option ResultRecord) (outcome : Except VerbsError Handle) (lib : Library) :
    Option ResultRecord × Library :=
  match record, outcome with
  | none, .ok _ => (none, lib)
  | none, .error e => (none, lib.note (.failureUnrecorded e))
  | some _, .ok handle => (some (.ofOutcome (.ok handle)), lib)
  | some _, .error e => (some (.ofOutcome (.error e)), lib.note (.failure e))

/-- What a call leaves to its caller: the outcome, of which values go into the caller's structures
on success, and the caller's record. -/
structure Reply (α : Type) where
  outcome : Except VerbsError α
  record : Option ResultRecord

/-- Make a call and report it. `handleOf` tells which handle a success yields. -/
def make (call : Call α) (handleOf : α → Handle) (record : Option ResultRecord) (lib : Library) :
    Reply α × Library :=
  let (outcome, lib) := call lib
  let (record, lib) := report record (outcome.map handleOf) lib
  ({ outcome, record }, lib)

/-! ## Calls -/

variable (env : Environment)

/-! ### Devices -/

/-- Number of devices present. -/
def deviceCount (lib : Library) : Int32 × Library :=
  let (n, lib) := runPure env (Verbs.deviceCount .soft) lib
  (Int32.ofInt (min n 0x7fffffff), lib)

/-- Copy the name of a device to a buffer of `size` bytes, if there is a buffer, cut off to end with
a zero byte. Yields the length of the whole name, and the bytes that were written. -/
def deviceName (ctx : Handle) (buffer : Option Nat) (lib : Library) :
    (Nat × List UInt8) × Library :=
  let verbs := lib.instanceIn env
  let name := Text.utf8Bytes (verbs.deviceName .soft ctx)
  let written :=
    match buffer with
    | none | some 0 => []
    | some (size + 1) => name.take size ++ [0]
  ((name.length, written), .live verbs)

def openDevice (index : Int32) : Call Handle :=
  if index < 0 then refuse .negativeDeviceIndex
  else run env (Verbs.openDevice .soft index.toInt.toNat)

def closeDevice (ctx : Handle) : Call Unit := run env (Verbs.closeDevice .soft ctx)

def queryDevice (ctx : Handle) (attributes : Bool) : Call DeviceAttributes := do
  room .nullDeviceAttributes attributes
  run env (Verbs.queryDevice .soft ctx)

def queryPort (ctx : Handle) (attributes : Bool) (port : UInt8) : Call PortAttributes := do
  room .nullPortAttributes attributes
  run env (Verbs.queryPort .soft ctx port)

/-! ### Protection domains and memory regions -/

def allocPd (ctx : Handle) : Call Handle := run env (Verbs.allocPd .soft ctx)

def deallocPd (pd : Handle) : Call Unit := run env (Verbs.deallocPd .soft pd)

def regMr (pd : Handle) (addr length : UInt64) (access : Permission) : Call Handle :=
  run env (Verbs.regMr .soft pd addr length access)

def queryMr (mr : Handle) (info : Bool) : Call RegionInfo := do
  room .nullRegionInfo info
  run env (Verbs.queryMr mr)

def deregMr (mr : Handle) : Call Unit := run env (Verbs.deregMr .soft mr)

/-! ### Channels and completion queues -/

def createChannel (ctx : Handle) : Call Handle := run env (Verbs.createChannel .soft ctx)

def destroyChannel (channel : Handle) : Call Unit := run env (Verbs.destroyChannel .soft channel)

def channelDescriptor (channel : Handle) : Call Descriptor :=
  run env (Verbs.channelDescriptor .soft channel)

def createCq (ctx : Handle) (depth : UInt32) (channel : Handle) (cookie : UInt64) (vector : Int32) :
    Call Handle :=
  run env (Verbs.createCq .soft ctx depth channel cookie vector)

def destroyCq (cq : Handle) : Call Unit := run env (Verbs.destroyCq .soft cq)

/-- Take at most `n` completions. Yields their number, or on failure a negative value; `array` tells
whether there is room for them. -/
def pollCq (cq : Handle) (array : Bool) (n : Int32) (lib : Library) :
    (Int32 × List Completion) × Library :=
  if n ≠ 0 && (n < 0 || !array) then ((-VerbsError.preconditionStatus, []), lib)
  else
    match run env (Verbs.pollCq .soft cq n.toInt.toNat) lib with
    | (.ok completions, lib) => ((Int32.ofNat completions.length, completions), lib)
    | (.error e, lib) => ((-e.status, []), lib.note (.failure e))

def reqNotifyCq (cq : Handle) (solicitedOnly : Int32) : Call Unit :=
  run env (Verbs.reqNotifyCq .soft cq (solicitedOnly ≠ 0))

def getCqEvent (channel : Handle) : Call (Handle × UInt64) :=
  run env (Verbs.getCqEvent .soft channel)

def ackCqEvents (cq : Handle) (n : UInt32) : Call Unit := run env (Verbs.ackCqEvents .soft cq n)

/-! ### Shared receive queues -/

def createSrq (pd : Handle) (init : Option SrqInit) : Call Handle := do
  let init ← given .nullSrqAttributes init
  run env (Verbs.createSrq .soft pd init)

def destroySrq (srq : Handle) : Call Unit := run env (Verbs.destroySrq .soft srq)

def postSrqRecv (srq : Handle) (heap : Heap RawRecv) (head : Option Nat) : Call Unit := do
  let requests ← wellFormed (recvList heap head)
  run env (Verbs.postSrqRecv .soft srq requests)

/-! ### Queue pairs -/

def createQp (pd : Handle) (init : Option QpInit) : Call Handle := do
  let init ← given .nullQpAttributes init
  run env (Verbs.createQp .soft pd init)

def modifyQp (qp : Handle) (attributes : Option QpAttributes) (mask : QpMask) : Call Unit := do
  let attributes ← given .nullQpAttributes attributes
  run env (Verbs.modifyQp .soft qp attributes mask)

def destroyQp (qp : Handle) : Call Unit := run env (Verbs.destroyQp .soft qp)

def qpNumber (qp : Handle) : Call UInt32 := run env (Verbs.qpNumber qp)

/-- The number that a call for it returns: zero on failure. -/
def numberReturned : Except VerbsError UInt32 → UInt32
  | .ok number => number
  | .error _ => 0

def qpState (qp : Handle) : Call QpState := run env (Verbs.qpState .soft qp)

/-- The state that a call for it returns: its code, minus one on failure. -/
def stateReturned : Except VerbsError QpState → Int32
  | .ok state => state.code.toInt32
  | .error _ => -1

def endpoint (qp : Handle) (port : UInt8) (answer : Bool) : Call Endpoint := do
  room .nullEndpoint answer
  run env (Verbs.endpoint .soft qp port)

def connectQp (qp : Handle) (here remote : Option Endpoint) (access : Permission) : Call Unit := do
  let here ← given .nullLocalEndpoint here
  let remote ← given .nullRemoteEndpoint remote
  run env (Verbs.connectQp .soft qp here remote access)

def postSend (qp : Handle) (heap : Heap RawSend) (head : Option Nat) : Call Unit := do
  let requests ← wellFormed (sendList heap head)
  run env (Verbs.postSend .soft qp requests)

def postRecv (qp : Handle) (heap : Heap RawRecv) (head : Option Nat) : Call Unit := do
  let requests ← wellFormed (recvList heap head)
  run env (Verbs.postRecv .soft qp requests)

/-! ### Descriptors -/

/-- What a call on a descriptor returns: a value, or minus one and the error number. -/
def descriptorReturned : Except OsError Int32 → Int32 × Option Errno
  | .ok value => (value, none)
  | .error cause => (-1, cause.errno?)

end Rdma.Boundary
