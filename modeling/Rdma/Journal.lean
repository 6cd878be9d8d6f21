import Rdma.Completion
import Rdma.Config
import Rdma.QueuePair
import Rdma.VerbsError
import Rdma.WorkRequest

/-!
# The journal

Everything that happens is written down once, as an event. The log is one rendering of the journal:
`Event.logRecord?` tells which events have a log record, and which one.
-/

namespace Rdma

/-- A receive queue: a queue pair's own, or a shared one. -/
inductive RecvQueue where
  | ofQp (qp : NativeId)
  | shared (srq : NativeId)
deriving Repr, DecidableEq

/-- A completion event on its way through a channel. -/
structure CqEvent where
  cq : NativeId
  cookie : UInt64
deriving Repr, DecidableEq

/-- Something that happened. -/
inductive Event where
  /-- A send request entered the send queue of a queue pair. -/
  | sendAccepted (qp : NativeId) (request : SendRequest)
  /-- A send request left the send queue with a status. -/
  | sendRetired (qp : NativeId) (request : SendRequest) (status : CompletionStatus)
  | recvAccepted (queue : RecvQueue) (request : RecvRequest)
  /-- A queue pair took a receive request from a queue. -/
  | recvTaken (queue : RecvQueue) (qp : NativeId) (request : RecvRequest)
  /-- A receive request left a queue pair's own queue unused. -/
  | recvFlushed (qp : NativeId) (request : RecvRequest)
  /-- Both queues of a queue pair were emptied without completions. -/
  | queuesCleared (qp : NativeId)
  /-- A completion was handed to a completion queue, which stored it unless it was full. -/
  | completed (cq : NativeId) (completion : Completion) (solicited stored : Bool)
  /-- A completion was handed to a completion queue that there is not. -/
  | undelivered (cq : NativeId) (completion : Completion)
  | polled (cq : NativeId) (completions : List Completion)
  /-- A completion queue lost its first completion. -/
  | overflowed (cq : NativeId)
  | armed (cq : NativeId) (solicitedOnly : Bool)
  | eventRaised (channel : NativeId) (event : CqEvent)
  | eventFetched (channel : NativeId) (event : CqEvent)
  | signalFailed (cause : OsError)
  | drainFailed (cause : OsError)
  | enteredError (qpNumber : UInt32)
  | requestFailed (qpNumber : UInt32) (wrId : UInt64) (status : CompletionStatus)
  | illegalTransition (source target : QpState)
  | invalidMtu (device : String) (mtu : UInt32)
  | plugged (device : String)
  | unplugged (device : String)
  | opened (provider : String) (policy : DependencyPolicy)
  | created (handle : Handle) (native : NativeId)
  | destroyed (handle : Handle)
  /-- The registry refused to destroy a resource with live dependents. -/
  | refused (handle : Handle) (dependents : UInt64)
  /-- The provider refused to destroy a resource that is in use. -/
  | driverRefused (handle : Handle) (cause : OsError)
  | enumerationFailed (cause : OsError)
  | loadingConfig (path : String)
  | initFailed (cause : ConfigError)
  /-- The default configuration took the place of one that could not be used. -/
  | fellBack (cause : ConfigError)
  /-- A failure was reported to the caller. -/
  | failure (cause : VerbsError)
  /-- A failure was not reported, for the caller gave no record to write it to. -/
  | failureUnrecorded (cause : VerbsError)
deriving Repr, DecidableEq

/-- Severity of a log record. -/
inductive LogLevel where
  | error
  | warn
  | debug
deriving Repr, DecidableEq

def LogLevel.label : LogLevel → String
  | error => "ERROR"
  | warn => "WARN"
  | debug => "DEBUG"

/-- A line of the log. -/
structure LogRecord where
  level : LogLevel
  message : String
deriving Repr, DecidableEq

namespace Event

/-- Does the handle layer, or what stands above it, write the event down? -/
def ofHandleLayer : Event → Bool
  | opened .. | created .. | destroyed .. | refused .. | driverRefused .. | enumerationFailed _
  | loadingConfig _ | initFailed _ | fellBack _ | failure _ | failureUnrecorded _ => true
  | _ => false

/-- The log record of an event, if it has one. -/
def logRecord? : Event → Option LogRecord
  | overflowed cq =>
    some ⟨.warn, "soft: completion queue " ++ Text.hex cq ++ " overflowed"⟩
  | signalFailed cause =>
    some ⟨.warn, "soft: cannot signal completion channel: " ++ cause.message⟩
  | drainFailed cause =>
    some ⟨.warn, "soft: cannot drain completion channel: " ++ cause.message⟩
  | enteredError qpNumber =>
    some ⟨.debug, "soft: QP " ++ Text.hex qpNumber.toNat ++ " enters the error state"⟩
  | requestFailed qpNumber wrId status =>
    some ⟨.debug,
      "soft: QP " ++ Text.hex qpNumber.toNat ++ " request " ++ toString wrId ++ " failed: " ++
        status.message⟩
  | illegalTransition source target =>
    some ⟨.debug, "soft: illegal QP transition " ++ source.label ++ " -> " ++ target.label⟩
  | invalidMtu device mtu =>
    some ⟨.warn,
      "soft: device `" ++ device ++ "` has invalid MTU " ++ toString mtu ++ ", using 4096"⟩
  | plugged device => some ⟨.debug, "soft: plugging device `" ++ device ++ "`"⟩
  | unplugged device => some ⟨.debug, "soft: unplugging device `" ++ device ++ "`"⟩
  | opened provider policy =>
    some ⟨.debug,
      "verbs over the `" ++ provider ++ "` provider, " ++ policy.label ++ " dependency policy"⟩
  | created handle native =>
    some ⟨.debug, "created " ++ handle.describe ++ " (" ++ NativeId.describe native ++ ")"⟩
  | destroyed handle => some ⟨.debug, "destroyed " ++ handle.describe⟩
  | refused handle dependents =>
    some ⟨.warn,
      "refusing to destroy " ++ handle.describe ++ ": " ++ toString dependents ++
        " live dependent(s)"⟩
  | driverRefused handle cause =>
    some ⟨.warn, "driver refused to destroy " ++ handle.describe ++ ": " ++ cause.message⟩
  | enumerationFailed cause => some ⟨.debug, "cannot enumerate devices: " ++ cause.message⟩
  | loadingConfig path => some ⟨.debug, "loading configuration from " ++ Text.quoted path⟩
  | initFailed cause => some ⟨.error, "rdmabridge: " ++ cause.message⟩
  | fellBack cause =>
    some ⟨.error,
      "rdmabridge: " ++ cause.message ++ ", falling back to the software provider"⟩
  | failure cause => some ⟨.debug, "rdmabridge: " ++ cause.message⟩
  | failureUnrecorded cause =>
    some ⟨.debug, "rdmabridge: " ++ cause.message ++ " (no result record)"⟩
  | _ => none

end Event

/-- What happened so far, newest event first. -/
structure Journal where
  newestFirst : List Event := []
deriving Repr, DecidableEq

namespace Journal

def add (j : Journal) (e : Event) : Journal := ⟨e :: j.newestFirst⟩

/-- The events in the order they happened. -/
def toList (j : Journal) : List Event := j.newestFirst.reverse

/-- The log: the records of the events that have one, in order. -/
def log (j : Journal) : List LogRecord := j.toList.filterMap Event.logRecord?

@[simp] theorem toList_add (j : Journal) (e : Event) : (j.add e).toList = j.toList ++ [e] := by
  simp [toList, add]

end Journal

end Rdma
