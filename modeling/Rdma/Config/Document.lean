import Rdma.Config
import Rdma.Toml.Document

/-!
# Configuration documents

A configuration stands in the table `rdmabridge` of a TOML document. Settings it does not know are
passed over, and missing ones have their defaults.
-/

namespace Rdma

open Setting (Blank)

def LinkLayer.ofSetting? (blank : Blank) : Setting → Option LinkLayer :=
  Setting.choice? blank [(infiniband.name, infiniband), (ethernet.name, ethernet)]

def ProviderKind.ofSetting? (blank : Blank) : Setting → Option ProviderKind :=
  Setting.choice? blank [(soft.name, soft), (ibverbs.name, ibverbs)]

def DependencyPolicy.ofSetting? (blank : Blank) : Setting → Option DependencyPolicy :=
  Setting.choice? blank [(registry.name, registry), (driver.name, driver)]

namespace DeviceConfig

/-- The names of the settings of a device, in the order a list gives them. -/
def settingNames : List String :=
  ["name", "ports", "mtu", "link_layer", "comp_vectors", "max_pd", "max_mr", "max_mr_size",
    "max_cq", "max_cqe", "max_qp", "max_qp_wr", "max_sge", "max_inline_data", "max_srq",
    "max_srq_wr"]

def ofSetting? (blank : Blank) (s : Setting) : Option DeviceConfig := do
  let d : DeviceConfig := {}
  let fields ← s.fields? settingNames
  pure
    { name := ← fields.field? "name" d.name Setting.text?
      ports := ← fields.field? "ports" d.ports Setting.uint8?
      mtu := ← fields.field? "mtu" d.mtu Setting.uint32?
      linkLayer := ← fields.field? "link_layer" d.linkLayer (LinkLayer.ofSetting? blank)
      completionVectors := ← fields.field? "comp_vectors" d.completionVectors Setting.uint32?
      maxPd := ← fields.field? "max_pd" d.maxPd Setting.uint32?
      maxMr := ← fields.field? "max_mr" d.maxMr Setting.uint32?
      maxMrSize := ← fields.field? "max_mr_size" d.maxMrSize Setting.uint64?
      maxCq := ← fields.field? "max_cq" d.maxCq Setting.uint32?
      maxCqe := ← fields.field? "max_cqe" d.maxCqe Setting.uint32?
      maxQp := ← fields.field? "max_qp" d.maxQp Setting.uint32?
      maxQpWr := ← fields.field? "max_qp_wr" d.maxQpWr Setting.uint32?
      maxSge := ← fields.field? "max_sge" d.maxSge Setting.uint32?
      maxInlineData := ← fields.field? "max_inline_data" d.maxInlineData Setting.uint32?
      maxSrq := ← fields.field? "max_srq" d.maxSrq Setting.uint32?
      maxSrqWr := ← fields.field? "max_srq_wr" d.maxSrqWr Setting.uint32? }

end DeviceConfig

namespace Config

/-- The devices of the software fabric. -/
def devicesOfSetting? (blank : Blank) (s : Setting) : Option (List DeviceConfig) := do
  let fields ← s.fields? ["devices"]
  fields.field? "devices" defaultDevices (·.list? (DeviceConfig.ofSetting? blank))

def ofSetting? (blank : Blank) (s : Setting) : Option Config := do
  let c : Config := {}
  let fields ← s.fields? ["provider", "dependency_policy", "soft"]
  pure
    { provider := ← fields.field? "provider" c.provider (ProviderKind.ofSetting? blank)
      policy := ← fields.field? "dependency_policy" c.policy (DependencyPolicy.ofSetting? blank)
      devices := ← fields.field? "soft" c.devices (devicesOfSetting? blank) }

/-- The name of the table that holds the configuration. -/
def tableName : String := "rdmabridge"

/-- Read a configuration document. -/
def ofDocument (text : String) : Except ConfigError Config :=
  match Toml.parse? text with
  | some (.table entries) =>
    match entries.lookup tableName with
    | none => .error .missingTable
    | some s =>
      match ofSetting? .empty s with
      | some c => .ok c
      | none => .error .malformed
  | _ => .error .malformed

end Config

end Rdma
