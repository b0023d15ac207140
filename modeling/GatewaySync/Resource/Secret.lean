import GatewaySync.Resource.ConfigMap

/-!
# Secrets
-/

namespace GatewaySync

structure Secret where
  metadata : Metadata
  type : Option String := none
  data : Option (SortedMap String Bytes) := none
  /-- Texts given beside the data.  Nothing reads them. -/
  stringData : Option Texts := none
deriving DecidableEq

namespace Secret

def toJson (s : Secret) : Json := .ofMembers [
  ("apiVersion", some (.str "v1")),
  ("kind", some (.str "Secret")),
  ("data", s.data.map .ofByteTexts),
  ("metadata", some s.metadata.toJson),
  ("stringData", s.stringData.map .ofTexts),
  ("type", s.type.map .str)]

open Json

def ofJson (j : Json) : Decoded Secret := do
  let members ← objectMembers "Secret" j
  fixedField members "apiVersion" "v1"
  let data ← optionalField members "data" (decodeMapWith decodeBytes)
  fixedField members "kind" "Secret"
  let metadata ← optionalField members "metadata" decode
  let stringData ← optionalField members "stringData" decode
  let type ← optionalField members "type" decode
  return { metadata := metadata.getD {}, type, data, stringData }

end Secret

end GatewaySync
