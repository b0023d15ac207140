import GatewaySync.Remote
import GatewaySync.Resource.Secret
import GatewaySync.Text.Utf8
import GatewaySync.Sha256

/-!
# The gateway's document

The gateway learns about all Remotes from one document, which stands as JSON in its ConfigMap.
The document is built anew from every cached Remote.  Its maps are kept in order, so the same
Remotes always make the same text.
-/

namespace GatewaySync

structure Document.Container where
  path : String
  dockerfile : String
  buildArgs : List BuildArg
deriving DecidableEq, Repr

/-- Where images are pushed, and the credentials that the registry's secret holds. -/
structure Document.Registry where
  imagePrefix : String
  dockercfg : Option String := none
  dockerconfigjson : Option String := none
deriving DecidableEq, Repr

structure Document.Entry where
  /-- One key a line. -/
  authorizedKeys : String
  manifests : Option Manifests
  registry : Option Document.Registry
  /-- By `namespace.deployment`, and then by the name of the container. -/
  deployments : SortedMap String (SortedMap String Document.Container)
deriving DecidableEq

/-- The entries of all Remotes, by qualified name. -/
abbrev Document := SortedMap String Document.Entry

namespace Document

/-- The text that a secret holds under a name. -/
def secretText? (s : Secret) (name : String) : Option String := do
  let bytes ← (← s.data).get? name
  return Text.Utf8.decodeLossy bytes

/-- The entry of a secret that its type stands for. -/
def registryOf (r : GatewaySync.Registry) (secret : Option Secret) : Registry :=
  match secret with
  | none => { imagePrefix := r.url }
  | some s =>
    if s.type = some "kubernetes.io/dockercfg" then
      { imagePrefix := r.url, dockercfg := secretText? s ".dockercfg" }
    else if s.type = some "kubernetes.io/dockerconfigjson" then
      { imagePrefix := r.url, dockerconfigjson := secretText? s ".dockerconfigjson" }
    else { imagePrefix := r.url }

/-- The registry that a Remote declares. -/
def declared? (r : Remote) : Option GatewaySync.Registry :=
  r.spec.registry.filter Registry.isDeclared

/-- The secret that a Remote's entry needs.  It is only ever looked up in the Remote's own
namespace. -/
def secretRef? (r : Remote) : Option NamespacedName := do
  let registry ← declared? r
  let name ← registry.secretName?
  return ⟨r.metadata.nsOrEmpty, name⟩

def containersOf (t : BuildTarget) : SortedMap String Container :=
  .ofList (t.containers.map fun c => (c.name, ⟨c.path, c.dockerfile, c.buildArgs⟩))

/-- The name under which a target of a namespace is built. -/
def targetTag (ns : String) (t : BuildTarget) : String := ns ++ "." ++ t.name

/-- The entry of a Remote, given the secret that it refers to. -/
def entryOf (r : Remote) (secret : Option Secret) : Entry where
  authorizedKeys := "\n".intercalate r.spec.authorizedKeys
  manifests := r.spec.manifests
  registry := (declared? r).map fun d => registryOf d secret
  deployments := .ofList
    (r.spec.targets.map fun t => (targetTag r.metadata.nsOrEmpty t, containersOf t))

/-- A Remote and the secret that its entry refers to, if it was found. -/
structure Source where
  remote : Remote
  secret : Option Secret := none

def Source.entry (s : Source) : Entry := entryOf s.remote s.secret

/-- Of two Remotes with one qualified name the later one stands. -/
def build (sources : List Source) : Document :=
  .ofList (sources.map fun s => (s.remote.qualifiedName, s.entry))

/-- Looks up the secret of one Remote. -/
def gatherOne {m : Type → Type} [Monad m] (readSecret : NamespacedName → m (Option Secret))
    (r : Remote) : m Source :=
  match secretRef? r with
  | none => return { remote := r }
  | some ref => return { remote := r, secret := ← readSecret ref }

/-- Looks up the secrets of all Remotes, one after the other. -/
def gather {m : Type → Type} [Monad m] (readSecret : NamespacedName → m (Option Secret))
    (remotes : List Remote) : m (List Source) :=
  remotes.mapM (gatherOne readSecret)

def containerToJson (c : Container) : Json := .obj [
  ("path", .str c.path),
  ("dockerfile", .str c.dockerfile),
  ("buildArgs", .arr (c.buildArgs.map BuildArg.toJson))]

def registryToJson (r : Registry) : Json := .ofMembers [
  ("prefix", some (.str r.imagePrefix)),
  ("dockercfg", r.dockercfg.map .str),
  ("dockerconfigjson", r.dockerconfigjson.map .str)]

def entryToJson (e : Entry) : Json := .obj [
  ("authorized-keys", .str e.authorizedKeys),
  ("manifests", (e.manifests.map Manifests.toJson).getD .null),
  ("registry", (e.registry.map registryToJson).getD .null),
  ("deployments", .obj (e.deployments.toList.map fun d =>
    (d.1, .obj (d.2.toList.map fun c => (c.1, containerToJson c.2)))))]

def toJson (d : Document) : Json := .obj (d.toList.map fun e => (e.1, entryToJson e.2))

/-- The text of the document. -/
def render (d : Document) : String := d.toJson.text

/-- The name of the document among the ConfigMap's data. -/
def dataKey : String := "remotes.json"

/-- Two texts are taken for the same document when they have the same hash. -/
def contentHash (text : String) : String := Sha256.hexDigest text

def stored? (c : ConfigMap) : Option String := c.data.bind (·.get? dataKey)

/-- Writing the text would change what the ConfigMap holds. -/
def differs (c : ConfigMap) (text : String) : Bool :=
  (stored? c).map contentHash != some (contentHash text)

/-- The ConfigMap with the document put into its data, beside whatever else is there. -/
def putInto (c : ConfigMap) (text : String) : ConfigMap :=
  { c with data := some ((c.data.getD .empty).insert dataKey text) }

end Document

end GatewaySync
