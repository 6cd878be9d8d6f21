import Rdma.Config.Document
import Rdma.Host
import Rdma.Text.Space

/-!
# The environment

The environment may name a configuration file and a provider. The provider it names takes the place
of the one in the file.
-/

namespace Rdma

/-- The provider of a name, whatever its case and the white space around it. -/
def ProviderKind.ofText? (text : String) : Option ProviderKind :=
  match String.ofList ((Text.trim text.toList).map Char.toLower) with
  | "soft" => some .soft
  | "ibverbs" => some .ibverbs
  | _ => none

/-- A configuration file: where it is, and its bytes or the reason they cannot be had. -/
structure ConfigFile where
  path : String
  content : Except OsError (List UInt8)

/-- The configuration that a file holds. -/
def ConfigFile.load (file : ConfigFile) : Except ConfigError Config :=
  match file.content with
  | .error cause => .error (.unreadable cause)
  | .ok bytes =>
    match Text.ofUtf8? bytes with
    | none => .error (.unreadable (.custom "stream did not contain valid UTF-8"))
    | some text => Config.ofDocument text

structure Environment where
  configFile : Option ConfigFile := none
  provider : Option String := none

namespace Environment

/-- Let a named provider take the place of the configured one. -/
def overrideProvider (env : Environment) (c : Config) : Except ConfigError Config :=
  match env.provider with
  | none => .ok c
  | some name =>
    match ProviderKind.ofText? name with
    | none => .error (.unknownProvider name)
    | some provider => .ok { c with provider }

/-- The configuration that the environment asks for; the default one where it names no file. -/
def config (env : Environment) : Step Host ConfigError Config := fun h =>
  match env.configFile with
  | none => (env.overrideProvider {}, h)
  | some file => (file.load >>= env.overrideProvider, h.note (.loadingConfig file.path))

end Environment

end Rdma
