import Rdma.Outcome
import Rdma.Verbs.Configured

/-!
# The process-wide library

The C boundary works on one handle layer for the whole process. It is created by an explicit
initialisation or by the first call that needs it, and never replaced.
-/

namespace Rdma

/-- The library of a process. -/
inductive Library where
  /-- Not initialised: only the host is there. -/
  | idle (host : Host)
  | live (verbs : Verbs)
deriving Repr, DecidableEq

namespace Library

def host : Library → Host
  | idle host => host
  | live verbs => verbs.host

def isLive : Library → Bool
  | idle _ => false
  | live _ => true

def mapHost (f : Host → Host) : Library → Library
  | idle host => idle (f host)
  | live verbs => live { verbs with host := f verbs.host }

def note (e : Event) : Library → Library := mapHost (·.note e)

/-- The handle layer for a configuration, or the reason there is none. -/
def build (config : Except ConfigError Config) (h : Host) : Except ConfigError Verbs :=
  config.bind fun c => Verbs.ofConfig c h

/-- The handle layer of the default configuration. -/
def fallback (h : Host) : Verbs :=
  let c : Config := {}
  .start .soft c.policy (h.withDevices c.devices)

/-- The handle layer of the process. The first use creates it from the environment, and from the
default configuration where the environment's cannot be had. -/
def instanceIn (env : Environment) : Library → Verbs
  | live verbs => verbs
  | idle h =>
    let (config, h) := env.config h
    match build config h with
    | .ok verbs => verbs
    | .error cause => fallback (h.note (.fellBack cause))

/-- What an explicit initialisation is told to read. -/
inductive Source where
  | environment
  | file (file : ConfigFile)
  /-- A path that is no text. -/
  | unreadablePath

/-- The status of an initialisation that found no usable configuration. -/
def initFailedStatus : Int32 := VerbsError.preconditionStatus

/-- Initialise a library that is not live yet. A failure leaves it as it was. -/
def initFrom (config : Except ConfigError Config) (h : Host) : Int32 × Library :=
  match build config h with
  | .ok verbs => (0, live verbs)
  | .error cause => (initFailedStatus, idle (h.note (.initFailed cause)))

/-- Initialise the library explicitly: 0 on success, once. -/
def init (env : Environment) (source : Source) : Library → Int32 × Library
  | live verbs => (Errno.alreadyInitialised, live verbs)
  | idle h =>
    match source with
    | .environment => let (config, h) := env.config h; initFrom config h
    | .file file => initFrom file.load h
    | .unreadablePath => (initFailedStatus, idle h)

end Library

end Rdma
