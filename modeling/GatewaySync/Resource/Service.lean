import GatewaySync.Resource.Metadata

/-!
# Services

Of a Service only what decides its address is kept.
-/

namespace GatewaySync

/-- One entry under which a load balancer is reached. -/
structure Ingress where
  ip : Option String := none
  hostname : Option String := none
deriving DecidableEq, Repr

structure ServicePort where
  port : Int
  nodePort : Option Int := none
deriving DecidableEq, Repr

structure ServiceSpec where
  type : Option String := none
  externalName : Option String := none
  ports : Option (List ServicePort) := none
deriving DecidableEq, Repr

structure Service where
  metadata : Metadata
  spec : Option ServiceSpec := none
  /-- The entries of the load balancer; none where its status is not known. -/
  ingress : Option (List Ingress) := none
deriving DecidableEq

namespace Service

open Json

def ingressOfJson (j : Json) : Decoded Ingress := do
  let members ← objectMembers "LoadBalancerIngress" j
  let hostname ← optionalField members "hostname" decode
  let ip ← optionalField members "ip" decode
  return { ip, hostname }

def portOfJson (j : Json) : Decoded ServicePort := do
  let members ← objectMembers "ServicePort" j
  let nodePort ← optionalField members "nodePort" decodeInt32
  let port ← optionalField members "port" decodeInt32
  return { port := port.getD 0, nodePort }

def specOfJson (j : Json) : Decoded ServiceSpec := do
  let members ← objectMembers "ServiceSpec" j
  let externalName ← optionalField members "externalName" decode
  let ports ← optionalField members "ports" (decodeListWith portOfJson)
  let type ← optionalField members "type" decode
  return { type, externalName, ports }

def loadBalancerOfJson (j : Json) : Decoded (Option (List Ingress)) := do
  let members ← objectMembers "LoadBalancerStatus" j
  optionalField members "ingress" (decodeListWith ingressOfJson)

def statusOfJson (j : Json) : Decoded (Option (List Ingress)) := do
  let members ← objectMembers "ServiceStatus" j
  let loadBalancer ← optionalField members "loadBalancer" loadBalancerOfJson
  return loadBalancer.join

def ofJson (j : Json) : Decoded Service := do
  let members ← objectMembers Kind.service.name j
  fixedField members "apiVersion" Kind.service.apiVersion
  fixedField members "kind" Kind.service.name
  let metadata ← optionalField members "metadata" decode
  let spec ← optionalField members "spec" specOfJson
  let status ← optionalField members "status" statusOfJson
  return { metadata := metadata.getD {}, spec, ingress := status.join }

instance : Cached Service where
  kind := .service
  metadata := Service.metadata
  setMetadata s m := { s with metadata := m }
  ofJson := ofJson

end Service

end GatewaySync
