import GatewaySync.Remote.Json

/-!
# Remotes

A Remote with its metadata and its published status.
-/

namespace GatewaySync

structure Remote where
  metadata : Metadata
  spec : RemoteSpec
  status : Option RemoteStatus := none
deriving DecidableEq

namespace Remote

/-- Namespace and name around a dash: the Remote's entry in the gateway's document, and the user
in its URL. -/
def qualifiedName (r : Remote) : String :=
  r.metadata.nsOrEmpty ++ "-" ++ r.metadata.displayName

/-- Where the repository is reached behind an address of the gateway. -/
def url (r : Remote) (address : String) : String :=
  "ssh://" ++ r.qualifiedName ++ "@" ++ address ++ "/~/git/" ++ r.qualifiedName

def toJson (r : Remote) : Json := .ofMembers [
  ("apiVersion", some (.str Kind.remote.apiVersion)),
  ("kind", some (.str Kind.remote.name)),
  ("metadata", some r.metadata.toJson),
  ("spec", some r.spec.toJson),
  ("status", r.status.map RemoteStatus.toJson)]

open Json (Decoded RecordForm decode decodeOptionWith)
open Json.RecordForm (errorOf valueOr)

/-- The last field may be missing in an object but not in an array. -/
def form (fs : Json.Fields) : RecordForm :=
  ⟨"Remote", [("metadata", true), ("spec", true), ("status", fs matches .positional _)]⟩

def ofJson (j : Json) : Decoded Remote := do
  let fs ← (form (.positional [])).fieldsOf j
  let form := form fs
  let metadata : Decoded (Option Metadata) := form.read fs "metadata" decode
  let spec := form.read fs "spec" RemoteSpec.ofJson
  let status := form.read fs "status" (decodeOptionWith RemoteStatus.ofJson)
  form.finish fs
    [("metadata", errorOf metadata), ("spec", errorOf spec), ("status", errorOf status)]
    { metadata := valueOr {} metadata, spec := valueOr {} spec, status := valueOr none status }

instance : Cached Remote where
  kind := .remote
  metadata := Remote.metadata
  setMetadata r m := { r with metadata := m }
  ofJson := ofJson

end Remote

end GatewaySync
