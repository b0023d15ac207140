import GatewaySync.Resource.Service

/-!
# How the gateway is reached

The type of the gateway's Service decides under which address users push.  Where there is none,
the reason is published word for word as the description of every Remote's status.
-/

namespace GatewaySync

/-- Why no address follows from a Service. -/
inductive Exposure.Problem where
  /-- The Service can only be reached inside the cluster. -/
  | unreachable
  /-- The load balancer has no entry yet. -/
  | notReady
  /-- The load balancer's first entry has neither an IP nor a host name. -/
  | unknownAddress
  /-- Any node answers on this port, so the user has to choose one. -/
  | manualConfigRequired (nodePort : Option Int)
  | unsupportedType (type : String)
deriving DecidableEq, Repr

namespace Exposure

def Problem.message : Problem → String
  | .unreachable =>
    "gitkube service type ClusterIP cannot be accessed from outside cluster. " ++
      "If this was intended, add remote manually"
  | .notReady => "gitkube service of type LoadBalancer has no available IP/hostnames"
  | .unknownAddress => "gitkube service of type LoadBalancer has unknown IP/hostname"
  | .manualConfigRequired nodePort =>
    "manually configure remote for gitkube service of type NodePort. " ++
      "E.g.: ssh://<namespace>-<remote-name>@<any-node-ip>:" ++
      ((nodePort.map toString).getD "<node-port>") ++ "/~/git/<namespace>-<remote-name>"
  | .unsupportedType type =>
    "unknown gitkubed service type " ++ type ++ ". Is gitkubed service exposed?"

/-- A text that says something. -/
def nonEmpty? (s : Option String) : Option String := s.filter fun s => !s.isEmpty

/-- The IP of an entry, else its host name. -/
def ingressAddress? (i : Ingress) : Option String := (nonEmpty? i.ip).or (nonEmpty? i.hostname)

/-- The address of a load balancer is that of its first entry. -/
def loadBalancerAddress (s : Service) : Except Problem String :=
  match s.ingress.getD [] with
  | [] => .error .notReady
  | first :: _ =>
    match ingressAddress? first with
    | some address => .ok address
    | none => .error .unknownAddress

/-- The node port of the first port. -/
def firstNodePort? (s : Service) : Option Int := do
  let spec ← s.spec
  let port ← (← spec.ports).head?
  port.nodePort

/-- The type of a Service; one that does not say is inside the cluster. -/
def typeOf (s : Service) : String := (s.spec.bind ServiceSpec.type).getD "ClusterIP"

end Exposure

/-- The address under which users push through a Service. -/
def Service.address (s : Service) : Except Exposure.Problem String :=
  let type := Exposure.typeOf s
  if type = "ClusterIP" then .error .unreachable
  else if type = "ExternalName" then .ok ((s.spec.bind ServiceSpec.externalName).getD "")
  else if type = "LoadBalancer" then Exposure.loadBalancerAddress s
  else if type = "NodePort" then .error (.manualConfigRequired (Exposure.firstNodePort? s))
  else .error (.unsupportedType type)

end GatewaySync
