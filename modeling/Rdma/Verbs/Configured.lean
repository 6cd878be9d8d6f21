import Rdma.Config.Environment
import Rdma.Verbs.Queue

/-!
# Verbs by configuration
-/

namespace Rdma

/-- Start the provider that a configuration asks for on a host. Only the software provider is to be
had. -/
def Config.attach (config : Config) (h : Host) : Except ConfigError Host :=
  match config.provider with
  | .soft => .ok (h.withDevices config.devices)
  | .ibverbs => .error (.providerUnavailable .ibverbs)

/-- The handle layer that a configuration asks for. -/
def Verbs.ofConfig (config : Config) (h : Host) : Except ConfigError Verbs :=
  (config.attach h).map (Verbs.start .soft config.policy)

end Rdma
