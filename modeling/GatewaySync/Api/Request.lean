import GatewaySync.Remote
import GatewaySync.Resource.ConfigMap
import GatewaySync.Resource.Deployment
import GatewaySync.Settings
import GatewaySync.Text.Target

/-!
# Requests to the API server

Objects are addressed by the collection that they are in and by their name.  A request that has no
valid target cannot be made.
-/

namespace GatewaySync.Api

inductive Method where
  | get
  | put
  | patch
deriving DecidableEq, Repr

def Method.text : Method → String
  | .get => "GET"
  | .put => "PUT"
  | .patch => "PATCH"

structure Request where
  method : Method
  /-- The path and the query. -/
  target : String
  contentType : Option String := none
  body : Option Json := none

/-- Where the API server keeps the objects of a kind. -/
structure Collection where
  /-- The path of the group and version. -/
  root : String
  plural : String

namespace Collection

def remotes : Collection := ⟨"/apis/gitkube.sh/v1alpha1", "remotes"⟩
def configMaps : Collection := ⟨"/api/v1", "configmaps"⟩
def deployments : Collection := ⟨"/apis/apps/v1", "deployments"⟩
def services : Collection := ⟨"/api/v1", "services"⟩
def secrets : Collection := ⟨"/api/v1", "secrets"⟩

/-- The path of the objects of all namespaces. -/
def everywhere (c : Collection) : String := c.root ++ "/" ++ c.plural

/-- The path of the objects of one namespace. -/
def within (c : Collection) (ns : String) : String :=
  c.root ++ "/namespaces/" ++ ns ++ "/" ++ c.plural

end Collection

/-- A target as it is sent: without a fragment, and of valid characters only. -/
def target? (text : String) : Option String :=
  if Text.Target.maxSize < text.utf8ByteSize then none
  else (Text.Target.pathAndQuery? text.toList).map fun p => String.ofList (p.1 ++ p.2)

/-- A character of a query's value: letters, digits and four marks stand for themselves, a blank
becomes a plus sign, and all else is written by its bytes. -/
def formChar (c : Char) : List Char :=
  if c.isAlphanum || c ∈ ['*', '-', '.', '_'] then [c]
  else if c = ' ' then ['+']
  else c.toString.toUTF8.toList.flatMap fun b =>
    let digit (n : Nat) : Char := (Nat.digitChar n).toUpper
    ['%', digit (b.toNat / 16), digit (b.toNat % 16)]

def formText (s : String) : String := String.ofList (s.toList.flatMap formChar)

/-- A target with a query.  Every pair, also the first, follows an ampersand. -/
def withQuery (path : String) (pairs : List (String × String)) : String :=
  path ++ "?" ++ String.join (pairs.map fun p => "&" ++ formText p.1 ++ "=" ++ formText p.2)

/-- The path of an object, which has to have a name. -/
def objectPath? (c : Collection) (ns name : String) : Option String :=
  if name.isEmpty then none else some (c.within ns ++ "/" ++ name)

/-- Replaces an object by one of the same name. -/
def replace? (c : Collection) (m : Metadata) (body : Json) : Option Request := do
  let path ← objectPath? c m.nsOrEmpty m.displayName
  let target ← target? (withQuery path [])
  return { method := .put, target, contentType := some "application/json", body := some body }

def replaceConfigMap? (c : ConfigMap) : Option Request := replace? .configMaps c.metadata c.toJson

def replaceDeployment? (d : Deployment) : Option Request :=
  replace? .deployments d.metadata d.toJson

/-- Under which name the program's changes are recorded. -/
def fieldManager : String := "gitkube-controller"

/-- Changes the status of a Remote, at the version that was read. -/
def statusPatch (r : Remote) (status : RemoteStatus) : Json := .obj [
  ("metadata", .obj [
    ("resourceVersion", (r.metadata.resourceVersion.map Json.str).getD .null)]),
  ("status", status.toJson)]

def patchStatus? (r : Remote) (status : RemoteStatus) : Option Request := do
  let path ← objectPath? .remotes r.metadata.nsOrEmpty r.metadata.displayName
  let target ← target? (withQuery (path ++ "/status") [("fieldManager", fieldManager)])
  return { method := .patch, target, contentType := some "application/merge-patch+json",
           body := some (statusPatch r status) }

def readSecret? (name : NamespacedName) : Option Request := do
  let target ← target? (← objectPath? .secrets name.ns name.name)
  return { method := .get, target }

/-! ## Lists and watches -/

/-- The objects that a cache follows: all, or those of one name in a namespace. -/
structure Selection where
  path : String
  name : Option String := none

namespace Selection

def fieldSelector (s : Selection) : List (String × String) :=
  match s.name with
  | none => []
  | some name => [("fieldSelector", "metadata.name=" ++ name)]

/-- The objects that the cache of a kind follows.  Remotes are followed in all namespaces, and of
each other kind only the gateway's own object. -/
def ofKind (s : Settings) : Kind → Selection
  | .remote => ⟨Collection.remotes.everywhere, none⟩
  | .configMap => ⟨Collection.configMaps.within s.ns, some s.configMap⟩
  | .deployment => ⟨Collection.deployments.within s.ns, some s.deployment⟩
  | .service => ⟨Collection.services.within s.ns, some s.service⟩

/-- How many objects one answer may hold. -/
def pageSize : String := "500"

def list? (s : Selection) : Option Request := do
  let target ← target? (withQuery s.path (s.fieldSelector ++ [("limit", pageSize)]))
  return { method := .get, target }

/-- How long the server keeps a watch open, in seconds. -/
def watchTime : String := "290"

/-- Follows what happens after a version. -/
def watch? (s : Selection) (version : String) : Option Request := do
  let target ← target? (withQuery s.path
    ([("watch", "true"), ("timeoutSeconds", watchTime)] ++ s.fieldSelector ++
      [("allowWatchBookmarks", "true"), ("resourceVersion", version)]))
  return { method := .get, target }

end Selection

end GatewaySync.Api
