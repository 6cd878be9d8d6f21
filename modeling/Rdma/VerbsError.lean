import Rdma.Handle
import Rdma.OsError

/-!
# Failures of handle-based verbs

Each way to fail is a cause of its own. `message` is the only place that puts causes into words, and
`status` the only place that reduces them to a number.
-/

namespace Rdma

/-- What is wrong with an argument, seen before any provider is asked. -/
inductive ArgumentError where
  | nullAddress
  | nullRegionAddress
  | zeroRegionLength
  | zeroQueueDepth
  | unsupportedTransport
  | negativeDeviceIndex
  | nullDeviceAttributes
  | nullPortAttributes
  | nullRegionInfo
  | nullSrqAttributes
  | nullQpAttributes
  | nullEndpoint
  | nullLocalEndpoint
  | nullRemoteEndpoint
  | badSgeList
  | unknownSendOpcode
  | listTooLong
deriving Repr, DecidableEq

def ArgumentError.message : ArgumentError → String
  | nullAddress => "null address"
  | nullRegionAddress => "null memory region address"
  | zeroRegionLength => "zero memory region length"
  | zeroQueueDepth => "zero completion queue depth"
  | unsupportedTransport => "unsupported queue pair type"
  | negativeDeviceIndex => "negative device index"
  | nullDeviceAttributes => "null device attributes"
  | nullPortAttributes => "null port attributes"
  | nullRegionInfo => "null memory region info"
  | nullSrqAttributes => "null SRQ attributes"
  | nullQpAttributes => "null QP attributes"
  | nullEndpoint => "null endpoint"
  | nullLocalEndpoint => "null local endpoint"
  | nullRemoteEndpoint => "null remote endpoint"
  | badSgeList => "bad scatter/gather list"
  | unknownSendOpcode => "unknown send opcode"
  | listTooLong => "work request list too long"

/-- Why a verb failed. -/
inductive VerbsError where
  /-- The provider could not list its devices. -/
  | enumeration (cause : OsError)
  | deviceIndex (index count : Nat)
  /-- The provider reported success with a null identity. -/
  | nullResource (kind : ResourceKind)
  /-- The handle was never issued, was revoked, or names another kind of resource. -/
  | invalidHandle (kind : ResourceKind) (handle : Handle)
  | invalidArgument (what : ArgumentError)
  /-- Live resources still depend on this one. -/
  | busy (kind : ResourceKind) (dependents : UInt64)
  | driver (cause : OsError)
  /-- A request of a posted list was rejected; those before it stay posted. -/
  | rejected (index : Nat) (cause : OsError)
deriving Repr, DecidableEq

namespace VerbsError

/-- The status of a precondition that failed before the provider was asked. -/
def preconditionStatus : Int32 := 1

def status : VerbsError → Int32
  | busy .. => Errno.busy
  | driver cause | rejected _ cause => cause.status
  | _ => preconditionStatus

/-- The kind of failure. -/
def label : VerbsError → String
  | enumeration _ => "Enumeration"
  | deviceIndex .. => "InvalidDeviceIndex"
  | nullResource _ => "NullResource"
  | invalidHandle .. => "InvalidHandle"
  | invalidArgument _ => "InvalidArgument"
  | busy .. => "Busy"
  | driver _ => "Driver"
  | rejected .. => "Post"

def message : VerbsError → String
  | enumeration cause => "cannot enumerate devices: " ++ cause.message
  | deviceIndex index count =>
    "device index " ++ toString index ++ " out of range (" ++ toString count ++ " devices)"
  | nullResource kind => "driver returned a null " ++ kind.name
  | invalidHandle kind handle => "invalid " ++ kind.name ++ " handle " ++ handle.describe
  | invalidArgument what => "invalid argument: " ++ what.message
  | busy kind dependents =>
    kind.name ++ " still has " ++ toString dependents ++ " dependent resource(s)"
  | driver cause => "driver error: " ++ cause.message
  | rejected index cause =>
    "work request #" ++ toString index ++ " rejected: " ++ cause.message

theorem status_ne_zero (e : VerbsError) : e.status ≠ 0 := by
  cases e <;> simp [status, Errno.busy, preconditionStatus, OsError.status_ne_zero]

end VerbsError

end Rdma
