import GatewaySync.Resource.Metadata

/-!
# Deployments
-/

namespace GatewaySync

structure PodContainer where
  name : String
  image : Option String := none
deriving DecidableEq, Repr

structure PodSpec where
  containers : List PodContainer
deriving DecidableEq, Repr

/-- What the pods of a Deployment are made from. -/
structure PodTemplate where
  metadata : Option Metadata := none
  spec : Option PodSpec := none
deriving DecidableEq

structure LabelSelector where
  matchLabels : Option Texts := none
deriving DecidableEq

structure DeploymentSpec where
  replicas : Option Int := none
  selector : LabelSelector := {}
  template : PodTemplate := {}
deriving DecidableEq

structure DeploymentStatus where
  replicas : Option Int := none
  readyReplicas : Option Int := none
deriving DecidableEq, Repr

structure Deployment where
  metadata : Metadata
  spec : Option DeploymentSpec := none
  status : Option DeploymentStatus := none
deriving DecidableEq

namespace Deployment

def templateToJson (t : PodTemplate) : Json := .ofMembers [
  ("metadata", t.metadata.map Metadata.toJson),
  ("spec", t.spec.map fun s => .obj [("containers", .arr (s.containers.map fun c =>
    .ofMembers [("image", c.image.map .str), ("name", some (.str c.name))]))])]

def specToJson (s : DeploymentSpec) : Json := .ofMembers [
  ("replicas", s.replicas.map .int),
  ("selector", some (.ofMembers [("matchLabels", s.selector.matchLabels.map .ofTexts)])),
  ("template", some (templateToJson s.template))]

def statusToJson (s : DeploymentStatus) : Json := .ofMembers [
  ("readyReplicas", s.readyReplicas.map .int),
  ("replicas", s.replicas.map .int)]

def toJson (d : Deployment) : Json := .ofMembers [
  ("apiVersion", some (.str Kind.deployment.apiVersion)),
  ("kind", some (.str Kind.deployment.name)),
  ("metadata", some d.metadata.toJson),
  ("spec", d.spec.map specToJson),
  ("status", d.status.map statusToJson)]

open Json

def containerOfJson (j : Json) : Decoded PodContainer := do
  let members ← objectMembers "Container" j
  let image ← optionalField members "image" decode
  let name ← optionalField members "name" decode
  return { name := name.getD "", image }

def podSpecOfJson (j : Json) : Decoded PodSpec := do
  let members ← objectMembers "PodSpec" j
  let containers ← optionalField members "containers" (decodeListWith containerOfJson)
  return { containers := containers.getD [] }

def templateOfJson (j : Json) : Decoded PodTemplate := do
  let members ← objectMembers "PodTemplateSpec" j
  let metadata ← optionalField members "metadata" decode
  let spec ← optionalField members "spec" podSpecOfJson
  return { metadata, spec }

def selectorOfJson (j : Json) : Decoded LabelSelector := do
  let members ← objectMembers "LabelSelector" j
  let matchLabels ← optionalField members "matchLabels" decode
  return { matchLabels }

def specOfJson (j : Json) : Decoded DeploymentSpec := do
  let members ← objectMembers "DeploymentSpec" j
  let replicas ← optionalField members "replicas" decodeInt32
  let selector ← optionalField members "selector" selectorOfJson
  let template ← optionalField members "template" templateOfJson
  return { replicas, selector := selector.getD {}, template := template.getD {} }

def statusOfJson (j : Json) : Decoded DeploymentStatus := do
  let members ← objectMembers "DeploymentStatus" j
  let readyReplicas ← optionalField members "readyReplicas" decodeInt32
  let replicas ← optionalField members "replicas" decodeInt32
  return { replicas, readyReplicas }

def ofJson (j : Json) : Decoded Deployment := do
  let members ← objectMembers Kind.deployment.name j
  fixedField members "apiVersion" Kind.deployment.apiVersion
  fixedField members "kind" Kind.deployment.name
  let metadata ← optionalField members "metadata" decode
  let spec ← optionalField members "spec" specOfJson
  let status ← optionalField members "status" statusOfJson
  return { metadata := metadata.getD {}, spec, status }

instance : Cached Deployment where
  kind := .deployment
  metadata := Deployment.metadata
  setMetadata d m := { d with metadata := m }
  ofJson := ofJson

end Deployment

end GatewaySync
