import GatewaySync.Retry
import GatewaySync.Failure
import GatewaySync.NamespacedName

/-!
# Settings

Where the gateway's objects are, how long startup may take, and how failed keys are retried.
-/

namespace GatewaySync

structure Settings where
  /-- The namespace of the gateway's ConfigMap, Deployment and Service. -/
  ns : String := "kube-system"
  configMap : String := "gitkube-ci-conf"
  deployment : String := "gitkubed"
  service : String := "gitkubed"
  /-- How long startup may wait for the first listing of every cache. -/
  cacheSyncTimeout : Nanos := Nanos.ofSeconds 120
  retry : RetryPolicy := ⟨Nanos.ofMillis 5, Nanos.ofSeconds 1000⟩
deriving DecidableEq, Repr

namespace Settings

/-- The queue key of the gateway's ConfigMap.  The slash stands also where the namespace is
empty. -/
def configMapKey (s : Settings) : String := NamespacedName.path ⟨s.ns, s.configMap⟩

/-- The settings of a running program must retry soundly. -/
def checked (s : Settings) : Except Failure Settings :=
  if s.retry.IsSound then .ok s
  else .error (.configuration ("retry base delay " ++ s.retry.base.text ++
    " must be non-zero and at most " ++ s.retry.max.text))

end Settings

end GatewaySync
