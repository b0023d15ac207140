import GatewaySync.Resource.Metadata
import GatewaySync.Text.Base64

/-!
# ConfigMaps
-/

namespace GatewaySync

abbrev Bytes := List UInt8

namespace Json

/-- Bytes stand in JSON as base64. -/
def ofBytes (bytes : Bytes) : Json := .str (String.ofList (Text.Base64.encode bytes))

/-- Bytes; null stands for none. -/
def decodeBytes : Json → Decoded Bytes
  | .null => .ok []
  | j => do
    let text : String ← decode j
    match Text.Base64.decode? text.toList with
    | some bytes => return bytes
    | none => throw (.unexpectedValue j "base64-encoded bytes")

def ofByteTexts (m : SortedMap String Bytes) : Json :=
  .obj (m.toList.map fun e => (e.1, ofBytes e.2))

end Json

structure ConfigMap where
  metadata : Metadata
  data : Option Texts := none
  binaryData : Option (SortedMap String Bytes) := none
deriving DecidableEq

namespace ConfigMap

def toJson (c : ConfigMap) : Json := .ofMembers [
  ("apiVersion", some (.str Kind.configMap.apiVersion)),
  ("kind", some (.str Kind.configMap.name)),
  ("binaryData", c.binaryData.map .ofByteTexts),
  ("data", c.data.map .ofTexts),
  ("metadata", some c.metadata.toJson)]

open Json

def ofJson (j : Json) : Decoded ConfigMap := do
  let members ← objectMembers Kind.configMap.name j
  fixedField members "apiVersion" Kind.configMap.apiVersion
  let binaryData ← optionalField members "binaryData" (decodeMapWith decodeBytes)
  let data ← optionalField members "data" decode
  fixedField members "kind" Kind.configMap.name
  let metadata ← optionalField members "metadata" decode
  return { metadata := metadata.getD {}, data, binaryData }

instance : Cached ConfigMap where
  kind := .configMap
  metadata := ConfigMap.metadata
  setMetadata c m := { c with metadata := m }
  ofJson := ofJson

end ConfigMap

end GatewaySync
