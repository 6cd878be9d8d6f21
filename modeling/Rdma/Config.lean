import Rdma.Device
import Rdma.OsError

/-!
# Configuration

Which provider backs the handles, who refuses a teardown out of order, and which software devices
are there at the start.
-/

namespace Rdma

/-- The provider behind the handles. -/
inductive ProviderKind where
  /-- The software fabric inside the process. -/
  | soft
  /-- The verbs library of the system. -/
  | ibverbs
deriving Repr, DecidableEq

namespace ProviderKind

def name : ProviderKind → String
  | soft => "soft"
  | ibverbs => "ibverbs"

def label : ProviderKind → String
  | soft => "Soft"
  | ibverbs => "Ibverbs"

end ProviderKind

/-- Who refuses to destroy a resource that others depend on. -/
inductive DependencyPolicy where
  /-- The registry counts dependents; the provider is not asked while there are any. -/
  | registry
  /-- The provider is always asked, and its own refusal reported. -/
  | driver
deriving Repr, DecidableEq

namespace DependencyPolicy

def name : DependencyPolicy → String
  | registry => "registry"
  | driver => "driver"

def label : DependencyPolicy → String
  | registry => "Registry"
  | driver => "Driver"

end DependencyPolicy

/-- The devices of a software fabric that nothing else is said about. -/
def defaultDevices : List DeviceConfig := [{ name := "softrdma_0" }, { name := "softrdma_1" }]

/-- A whole configuration. -/
structure Config where
  provider : ProviderKind := .soft
  policy : DependencyPolicy := .registry
  devices : List DeviceConfig := defaultDevices
deriving Repr, DecidableEq

/-- Why a configuration cannot be had or used. -/
inductive ConfigError where
  | unreadable (cause : OsError)
  /-- The document breaks the grammar, or a setting has the wrong type or range. -/
  | malformed
  | missingTable
  | unknownProvider (text : String)
  | providerUnavailable (provider : ProviderKind)
deriving Repr, DecidableEq

namespace ConfigError

/-- The kind of failure. -/
def label : ConfigError → String
  | unreadable _ => "Io"
  | malformed => "Parse"
  | missingTable => "MissingTable"
  | unknownProvider _ => "UnknownProvider"
  | providerUnavailable _ => "ProviderUnavailable"

def message : ConfigError → String
  | unreadable cause => "cannot read configuration file: " ++ cause.message
  | malformed => "malformed configuration"
  | missingTable => "`[rdmabridge]` table not found"
  | unknownProvider text => "unknown provider `" ++ text ++ "`"
  | providerUnavailable provider => "provider `" ++ provider.name ++ "` is not compiled in"

end ConfigError

end Rdma
