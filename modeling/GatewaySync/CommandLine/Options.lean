import GatewaySync.Text.SocketAddress
import GatewaySync.Settings

/-!
# Options

The options of the `run` command.  Each can be given on the command line or in the environment, and
has a default.
-/

namespace GatewaySync.CommandLine

/-- What the values of an option look like. -/
inductive ValueForm where
  | text
  | natural
  | socketAddress
  /-- The option stands alone, and is either given or not. -/
  | flag
deriving DecidableEq, Repr

structure Opt where
  name : String
  form : ValueForm
  /-- The environment variable that stands in for the option. -/
  envName : String
  default : Option String
  help : String
deriving DecidableEq, Repr

namespace Opt

def upperChar (c : Char) : Char := if c = '-' then '_' else c.toUpper

/-- The placeholder for the option's value. -/
def placeholder (o : Opt) : String := String.ofList (o.name.toList.map upperChar)

/-- What stands behind the option's name, where it takes a value. -/
def displayedValue (o : Opt) : String :=
  if o.form = .flag then "" else " <" ++ o.placeholder ++ ">"

/-- How messages show the option. -/
def display (o : Opt) : String := "--" ++ o.name ++ o.displayedValue

def namespaceName : Opt where
  name := "namespace"
  form := .text
  envName := "GITKUBE_NAMESPACE"
  default := some "kube-system"
  help := "Namespace of the gateway ConfigMap, Deployment and Service"

def configMap : Opt where
  name := "config-map"
  form := .text
  envName := "GITKUBE_CONFIG_MAP"
  default := some "gitkube-ci-conf"
  help := "ConfigMap holding remotes.json"

def deployment : Opt where
  name := "deployment"
  form := .text
  envName := "GITKUBE_DEPLOYMENT"
  default := some "gitkubed"
  help := "Gateway Deployment restarted when remotes.json changes"

def service : Opt where
  name := "service"
  form := .text
  envName := "GITKUBE_SERVICE"
  default := some "gitkubed"
  help := "Gateway Service whose address is published on each Remote"

def cacheSyncTimeout : Opt where
  name := "cache-sync-timeout-secs"
  form := .natural
  envName := "CACHE_SYNC_TIMEOUT_SECS"
  default := some "120"
  help := "Seconds to wait for the initial cache sync"

def retryBaseDelay : Opt where
  name := "retry-base-delay-ms"
  form := .natural
  envName := "RETRY_BASE_DELAY_MS"
  default := some "5"
  help := "First retry delay in milliseconds; doubles per failure"

def retryMaxDelay : Opt where
  name := "retry-max-delay-secs"
  form := .natural
  envName := "RETRY_MAX_DELAY_SECS"
  default := some "1000"
  help := "Upper bound on the retry delay in seconds"

def restAddress : Opt where
  name := "rest-api-addr"
  form := .socketAddress
  envName := "REST_API_ADDR"
  default := some "0.0.0.0:8080"
  help := "Address of the health/metrics HTTP server"

def logJson : Opt where
  name := "log-json"
  form := .flag
  envName := "LOG_JSON"
  default := none
  help := "Emit logs as JSON"

/-- In the order in which they are read from the environment and shown. -/
def all : List Opt := [
  namespaceName, configMap, deployment, service, cacheSyncTimeout, retryBaseDelay, retryMaxDelay,
  restAddress, logJson]

def ofName? (options : List Opt) (name : String) : Option Opt :=
  options.find? fun o => o.name = name

end Opt

/-- Options with their values. -/
abbrev Values := List (Opt × String)

namespace Values

def text (v : Values) (o : Opt) : String := ((v.lookup o).or o.default).getD ""

def natural (v : Values) (o : Opt) : Nat :=
  (Text.Decimal.boundedOf Text.Decimal.uint64Max (v.text o).toList).toOption.getD 0

/-- Where the gateway is and how keys are retried, as the options say. -/
def settings (v : Values) : Settings where
  ns := v.text .namespaceName
  configMap := v.text .configMap
  deployment := v.text .deployment
  service := v.text .service
  cacheSyncTimeout := Nanos.ofSeconds (v.natural .cacheSyncTimeout)
  retry := ⟨Nanos.ofMillis (v.natural .retryBaseDelay), Nanos.ofSeconds (v.natural .retryMaxDelay)⟩

def wantsJsonLogs (v : Values) : Bool := v.text .logJson == "true"

end Values

end GatewaySync.CommandLine
