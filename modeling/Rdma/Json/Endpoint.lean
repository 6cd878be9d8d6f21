import Rdma.Json.Value
import Rdma.QueuePair

/-!
# Endpoints as JSON texts

Peers may exchange endpoints as JSON texts: a table of five fields, all of which must be there.
-/

namespace Rdma.Endpoint

/-- The names of the fields, in the order they are written and a list gives them. -/
def fieldNames : List String := ["qp_num", "lid", "port_num", "gid", "mtu"]

/-- A global port address as a list of sixteen bytes. -/
def gidOfSetting? (s : Setting) : Option Gid := do
  let bytes ← s.list? Setting.uint8?
  if h : bytes.length = 16 then pure ⟨bytes.toArray, by simpa using h⟩ else none

def ofSetting? (s : Setting) : Option Endpoint := do
  let fields ← s.fields? fieldNames
  pure
    { qpNumber := ← fields.required? "qp_num" Setting.uint32?
      lid := ← fields.required? "lid" Setting.uint16?
      port := ← fields.required? "port_num" Setting.uint8?
      gid := ← fields.required? "gid" gidOfSetting?
      mtu := ← fields.required? "mtu" Setting.uint32? }

/-- Read an endpoint. -/
def ofJson? (text : String) : Option Endpoint := (Json.parseRecord? text).bind ofSetting?

/-- Write an endpoint, without white space. -/
def toJson (e : Endpoint) : String :=
  let gid := "[" ++ ",".intercalate (e.gid.toList.map toString) ++ "]"
  let values := [toString e.qpNumber, toString e.lid, toString e.port, gid, toString e.mtu]
  let fields := (fieldNames.zip values).map fun f => "\"" ++ f.1 ++ "\":" ++ f.2
  "\x7b" ++ ",".intercalate fields ++ "\x7d"

end Rdma.Endpoint
