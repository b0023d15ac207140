import GatewaySync.Remote.Spec
import GatewaySync.Resource.Metadata

/-!
# Remotes in JSON

Lists that are empty, and texts that are, are left out where the form allows it.  Reading accepts
every written form, records given as arrays, and members that nobody asked for.
-/

namespace GatewaySync

open Json (Decoded Fields RecordForm decode decodeOptionWith decodeListWith)
open Json.RecordForm (errorOf valueOr)

/-- The items, unless there are none. -/
def Json.ofNonEmpty {α : Type} (toJson : α → Json) : List α → Option Json
  | [] => none
  | items => some (.arr (items.map toJson))

/-- A text, unless it is empty. -/
def Json.ofNonEmptyText (s : String) : Option Json := if s.isEmpty then none else some (.str s)

namespace SecretKeyRef

def form : RecordForm := ⟨"SecretKeyRef", [("name", true), ("key", false)]⟩

def toJson (r : SecretKeyRef) : Json := .ofMembers [
  ("name", some (.str r.name)),
  ("key", r.key.map .str)]

def ofJson (j : Json) : Decoded SecretKeyRef := do
  let fs ← form.fieldsOf j
  let name : Decoded (Option String) := form.read fs "name" decode
  let key : Decoded (Option (Option String)) := form.read fs "key" decode
  form.finish fs [("name", errorOf name), ("key", errorOf key)]
    { name := valueOr "" name, key := valueOr none key }

end SecretKeyRef

namespace Credentials

def form : RecordForm := ⟨"CredentialsSpec", [("secretRef", false), ("secretKeyRef", false)]⟩

def toJson (c : Credentials) : Json := .ofMembers [
  ("secretRef", c.secretRef.map .str),
  ("secretKeyRef", c.secretKeyRef.map SecretKeyRef.toJson)]

def ofJson (j : Json) : Decoded Credentials := do
  let fs ← form.fieldsOf j
  let secretRef : Decoded (Option (Option String)) := form.read fs "secretRef" decode
  let secretKeyRef := form.read fs "secretKeyRef" (decodeOptionWith SecretKeyRef.ofJson)
  form.finish fs [("secretRef", errorOf secretRef), ("secretKeyRef", errorOf secretKeyRef)]
    { secretRef := valueOr none secretRef, secretKeyRef := valueOr none secretKeyRef }

end Credentials

namespace Registry

def form : RecordForm := ⟨"RegistrySpec", [("url", false), ("credentials", false)]⟩

def toJson (r : Registry) : Json := .ofMembers [
  ("url", some (.str r.url)),
  ("credentials", r.credentials.map Credentials.toJson)]

def ofJson (j : Json) : Decoded Registry := do
  let fs ← form.fieldsOf j
  let url : Decoded (Option String) := form.read fs "url" decode
  let credentials := form.read fs "credentials" (decodeOptionWith Credentials.ofJson)
  form.finish fs [("url", errorOf url), ("credentials", errorOf credentials)]
    { url := valueOr "" url, credentials := valueOr none credentials }

end Registry

namespace HelmValue

def form : RecordForm := ⟨"HelmValue", [("name", true), ("value", true)]⟩

def toJson (v : HelmValue) : Json := .obj [("name", .str v.name), ("value", .str v.value)]

def ofJson (j : Json) : Decoded HelmValue := do
  let fs ← form.fieldsOf j
  let name : Decoded (Option String) := form.read fs "name" decode
  let value : Decoded (Option String) := form.read fs "value" decode
  form.finish fs [("name", errorOf name), ("value", errorOf value)]
    { name := valueOr "" name, value := valueOr "" value }

end HelmValue

namespace HelmRelease

def form : RecordForm := ⟨"HelmSpec", [("release", false), ("values", false)]⟩

def toJson (h : HelmRelease) : Json := .ofMembers [
  ("release", some (.str h.release)),
  ("values", Json.ofNonEmpty HelmValue.toJson h.values)]

def ofJson (j : Json) : Decoded HelmRelease := do
  let fs ← form.fieldsOf j
  let release : Decoded (Option String) := form.read fs "release" decode
  let values := form.read fs "values" (decodeListWith HelmValue.ofJson)
  form.finish fs [("release", errorOf release), ("values", errorOf values)]
    { release := valueOr "" release, values := valueOr [] values }

end HelmRelease

namespace Manifests

def form : RecordForm := ⟨"ManifestsSpec", [("path", false), ("helm", false)]⟩

def toJson (m : Manifests) : Json := .ofMembers [
  ("path", Json.ofNonEmptyText m.path),
  ("helm", m.helm.map HelmRelease.toJson)]

def ofJson (j : Json) : Decoded Manifests := do
  let fs ← form.fieldsOf j
  let path : Decoded (Option String) := form.read fs "path" decode
  let helm := form.read fs "helm" (decodeOptionWith HelmRelease.ofJson)
  form.finish fs [("path", errorOf path), ("helm", errorOf helm)]
    { path := valueOr "" path, helm := valueOr none helm }

end Manifests

namespace BuildArg

def form : RecordForm := ⟨"BuildArg", [("name", true), ("value", true)]⟩

def toJson (a : BuildArg) : Json := .obj [("name", .str a.name), ("value", .str a.value)]

def ofJson (j : Json) : Decoded BuildArg := do
  let fs ← form.fieldsOf j
  let name : Decoded (Option String) := form.read fs "name" decode
  let value : Decoded (Option String) := form.read fs "value" decode
  form.finish fs [("name", errorOf name), ("value", errorOf value)]
    { name := valueOr "" name, value := valueOr "" value }

end BuildArg

namespace BuildContainer

def form : RecordForm :=
  ⟨"ContainerSpec", [("name", true), ("path", false), ("dockerfile", false), ("buildArgs", false)]⟩

def toJson (c : BuildContainer) : Json := .ofMembers [
  ("name", some (.str c.name)),
  ("path", some (.str c.path)),
  ("dockerfile", some (.str c.dockerfile)),
  ("buildArgs", Json.ofNonEmpty BuildArg.toJson c.buildArgs)]

def ofJson (j : Json) : Decoded BuildContainer := do
  let fs ← form.fieldsOf j
  let name : Decoded (Option String) := form.read fs "name" decode
  let path : Decoded (Option String) := form.read fs "path" decode
  let dockerfile : Decoded (Option String) := form.read fs "dockerfile" decode
  let buildArgs := form.read fs "buildArgs" (decodeListWith BuildArg.ofJson)
  form.finish fs
    [("name", errorOf name), ("path", errorOf path), ("dockerfile", errorOf dockerfile),
      ("buildArgs", errorOf buildArgs)]
    { name := valueOr "" name, path := valueOr "" path, dockerfile := valueOr "" dockerfile,
      buildArgs := valueOr [] buildArgs }

end BuildContainer

namespace BuildTarget

def form : RecordForm := ⟨"DeploymentSpec", [("name", true), ("containers", false)]⟩

def toJson (t : BuildTarget) : Json := .obj [
  ("name", .str t.name),
  ("containers", .arr (t.containers.map BuildContainer.toJson))]

def ofJson (j : Json) : Decoded BuildTarget := do
  let fs ← form.fieldsOf j
  let name : Decoded (Option String) := form.read fs "name" decode
  let containers := form.read fs "containers" (decodeListWith BuildContainer.ofJson)
  form.finish fs [("name", errorOf name), ("containers", errorOf containers)]
    { name := valueOr "" name, containers := valueOr [] containers }

end BuildTarget

namespace RemoteSpec

def form : RecordForm :=
  ⟨"RemoteSpec", [("authorizedKeys", false), ("registry", false), ("manifests", false),
    ("deployments", false)]⟩

def toJson (s : RemoteSpec) : Json := .ofMembers [
  ("authorizedKeys", some (.arr (s.authorizedKeys.map .str))),
  ("registry", s.registry.map Registry.toJson),
  ("manifests", s.manifests.map Manifests.toJson),
  ("deployments", some (.arr (s.targets.map BuildTarget.toJson)))]

def ofJson (j : Json) : Decoded RemoteSpec := do
  let fs ← form.fieldsOf j
  let authorizedKeys : Decoded (Option (List String)) := form.read fs "authorizedKeys" decode
  let registry := form.read fs "registry" (decodeOptionWith Registry.ofJson)
  let manifests := form.read fs "manifests" (decodeOptionWith Manifests.ofJson)
  let targets := form.read fs "deployments" (decodeListWith BuildTarget.ofJson)
  form.finish fs
    [("authorizedKeys", errorOf authorizedKeys), ("registry", errorOf registry),
      ("manifests", errorOf manifests), ("deployments", errorOf targets)]
    { authorizedKeys := valueOr [] authorizedKeys, registry := valueOr none registry,
      manifests := valueOr none manifests, targets := valueOr [] targets }

end RemoteSpec

namespace RemoteStatus

def form : RecordForm := ⟨"RemoteStatus", [("remoteUrl", false), ("remoteUrlDesc", false)]⟩

def toJson (s : RemoteStatus) : Json := .obj [
  ("remoteUrl", .str s.url),
  ("remoteUrlDesc", .str s.description)]

def ofJson (j : Json) : Decoded RemoteStatus := do
  let fs ← form.fieldsOf j
  let url : Decoded (Option String) := form.read fs "remoteUrl" decode
  let description : Decoded (Option String) := form.read fs "remoteUrlDesc" decode
  form.finish fs [("remoteUrl", errorOf url), ("remoteUrlDesc", errorOf description)]
    { url := valueOr "" url, description := valueOr "" description }

end RemoteStatus

end GatewaySync
