import GatewaySync.Remote
import GatewaySync.Resource.Secret
import GatewaySync.Resource.Deployment
import GatewaySync.Resource.Service
import GatewaySync.Informer
import GatewaySync.Metrics

/-!
# The cluster

The server holds the objects, and the caches follow it through what the watches report, which may
lag behind.  A write carries the version that was read.  The server takes it only if that is still
the current one, gives the object a new version, and the watch reports it.

Failures can be put in front of calls, so that whatever a call may meet can be said of a cluster.
-/

namespace GatewaySync

/-- The objects of one kind, as the server holds them and as the cache shows them.  The server
addresses an object by the text of its path, so names with slashes in them can address the same
object. -/
structure Replica (α : Type) where
  server : SortedMap String α := .empty
  informer : Informer α := {}

/-- The report of one of the four watches. -/
inductive Report where
  | remote (event : WatchEvent Remote)
  | configMap (event : WatchEvent ConfigMap)
  | deployment (event : WatchEvent Deployment)
  | service (event : WatchEvent Service)

/-- A change of one of the four caches. -/
inductive Notice where
  | remote (change : Change Remote)
  | configMap (change : Change ConfigMap)
  | deployment (change : Change Deployment)
  | service (change : Change Service)

/-- A write that the server took, with the object as it is held from then on. -/
inductive Write where
  | configMap (object : ConfigMap)
  | deployment (object : Deployment)
  | status (object : Remote)
deriving DecidableEq

/-- The calls that a failure can be put in front of. -/
inductive Call where
  | replaceConfigMap
  | replaceDeployment
  | patchStatus
  | readSecret
deriving DecidableEq, Repr

/-- What a call meets instead of the server. -/
inductive Fault where
  | failure (f : Failure)
  /-- The pass breaks off without a result. -/
  | panic
deriving DecidableEq, Repr

/-- The objects of the four kinds that are watched. -/
structure Replicas where
  remotes : Replica Remote := {}
  configMaps : Replica ConfigMap := {}
  deployments : Replica Deployment := {}
  services : Replica Service := {}

structure Cluster extends Replicas where
  secrets : SortedMap NamespacedName Secret := .empty
  /-- The last version that the server gave out. -/
  version : Nat := 0
  /-- What the next calls of each kind meet, in order. -/
  faults : Call → List (Option Fault) := fun _ => []
  /-- Whether the reports of the program's own writes are held back, and those that are. -/
  holding : Bool := false
  held : List Report := []
  /-- Whether there are informers at all, and those that ended on their own. -/
  watching : Bool := true
  dropped : List Kind := []
  /-- The wall clock, in seconds. -/
  clock : Int := 0
  /-- The writes that the server took, the changes of the caches, and what was counted. -/
  writes : List Write := []
  notices : List Notice := []
  metrics : Metrics := {}

/-- A kind of objects that the cluster holds. -/
class Stored (α : Type) extends Cached α where
  replica : Replicas → Replica α
  setReplica : Replicas → Replica α → Replicas
  report : WatchEvent α → Report
  notice : Change α → Notice
  replica_setReplica : ∀ rs r, replica (setReplica rs r) = r := by intros; rfl
  setReplica_setReplica : ∀ rs r r', setReplica (setReplica rs r) r' = setReplica rs r' := by
    intros; rfl

instance : Stored Remote where
  replica := Replicas.remotes
  setReplica rs r := { rs with remotes := r }
  report := .remote
  notice := .remote

instance : Stored ConfigMap where
  replica := Replicas.configMaps
  setReplica rs r := { rs with configMaps := r }
  report := .configMap
  notice := .configMap

instance : Stored Deployment where
  replica := Replicas.deployments
  setReplica rs r := { rs with deployments := r }
  report := .deployment
  notice := .deployment

instance : Stored Service where
  replica := Replicas.services
  setReplica rs r := { rs with services := r }
  report := .service
  notice := .service

namespace Cluster

variable {α : Type} [Stored α]

/-- The objects of a kind. -/
def replica (α : Type) [Stored α] (c : Cluster) : Replica α := Stored.replica c.toReplicas

def setReplica (c : Cluster) (r : Replica α) : Cluster :=
  { c with toReplicas := Stored.setReplica c.toReplicas r }

/-- The cached object that a name stands for. -/
def cached? (α : Type) [Stored α] (c : Cluster) (name : NamespacedName) : Option α :=
  (c.replica α).informer.lookup name

/-- All cached objects of a kind.  A cache shows them in no particular order, and a new listing may
change it.  Here they are sorted, which makes a difference only to Remotes that share a qualified
name. -/
def allCached (α : Type) [Stored α] (c : Cluster) : List α := (c.replica α).informer.store.values

/-- Whether there is an informer that follows the objects of a kind. -/
def follows (c : Cluster) (kind : Kind) : Bool := c.watching && !c.dropped.contains kind

/-- The informer of a kind comes to its end. -/
def drop (c : Cluster) (kind : Kind) : Cluster := { c with dropped := kind :: c.dropped }

/-- Whether the cache of a kind was filled once. -/
def isListed (c : Cluster) : Kind → Bool
  | .remote => c.remotes.informer.synced
  | .configMap => c.configMaps.informer.synced
  | .deployment => c.deployments.informer.synced
  | .service => c.services.informer.synced

/-- What the wait for the first listing of a kind comes to, if anything yet: whether there was
one.  Without an informer there will be none. -/
def listing? (c : Cluster) (kind : Kind) : Option Bool :=
  if c.isListed kind then some true else if c.follows kind then none else some false

/-- What the waits for all four first listings come to, when none of them is left. -/
def listings? (c : Cluster) : Option (List Bool) := Kind.all.mapM c.listing?

def mapServer (c : Cluster)
    (f : SortedMap String α → SortedMap String α) : Cluster :=
  let r := c.replica α
  c.setReplica { r with server := f r.server }

/-- The object at the next version. -/
def stamp (c : Cluster) (a : α) : α × Cluster :=
  let version := c.version + 1
  (Cached.atVersion a (String.ofList (Text.Decimal.ofNat version)), { c with version })

/-- Hands a report to the cache and notes what changed. -/
def observe (c : Cluster) (e : WatchEvent α) : Cluster :=
  if c.follows (Cached.kind α) then
    let r := c.replica α
    let (informer, changes) := r.informer.step e
    { c.setReplica { r with informer } with
      notices := c.notices ++ changes.map Stored.notice }
  else c

def deliver (c : Cluster) : Report → Cluster
  | .remote e => c.observe e
  | .configMap e => c.observe e
  | .deployment e => c.observe e
  | .service e => c.observe e

/-- An object from outside: without a version it gets the next one, and the server holds it. -/
def arrive (c : Cluster) (a : α) : α × Cluster :=
  let (a, c) := if (Cached.version? a).isSome then (a, c) else c.stamp a
  (a, c.mapServer fun (objects : SortedMap String α) => objects.insert (Cached.key a).path a)

/-- A report from outside, which tells at the same time what the server holds. -/
def feed (c : Cluster) : WatchEvent α → Cluster
  | .apply a => let (a, c) := c.arrive a; c.observe (.apply a)
  | .listItem a => let (a, c) := c.arrive a; c.observe (.listItem a)
  | .delete a =>
    (c.mapServer fun (objects : SortedMap String α) =>
      objects.erase (Cached.key a).path).observe (.delete a)
  | .listStart => c.observe (.listStart : WatchEvent α)
  | .listEnd => c.observe (.listEnd : WatchEvent α)

/-- The cached object that a name stands for, as long as its kind is followed. -/
def followed? (α : Type) [Stored α] (c : Cluster) (name : NamespacedName) : Option α :=
  if c.follows (Cached.kind α) then c.cached? α name else none

/-- Deletes a cached object, from outside. -/
def delete? (α : Type) [Stored α] (c : Cluster) (name : NamespacedName) : Option Cluster :=
  (c.followed? α name).map fun a => c.feed (.delete a)

/-- A fresh listing of a kind: the cached objects that are kept, in the order of their names as
written with the slash, and then the added ones. -/
def relist (c : Cluster) (keep : α → Bool) (added : List α) : Cluster :=
  let kept := ((c.allCached α).filter keep).mergeSort fun a b =>
    (Cached.key a).path ≤ (Cached.key b).path
  let c := c.feed (.listStart : WatchEvent α)
  let c := (kept ++ added).foldl (fun c a => c.feed (.listItem a)) c
  c.feed (.listEnd : WatchEvent α)

/-- A fresh listing of all kinds that changes nothing. -/
def relistAll (c : Cluster) : Cluster :=
  let c := c.relist (fun _ : Remote => true) []
  let c := c.relist (fun _ : ConfigMap => true) []
  let c := c.relist (fun _ : Deployment => true) []
  c.relist (fun _ : Service => true) []

/-- Somebody else changes an object on the server, and no watch reports it. -/
def touch? (α : Type) [Stored α] (c : Cluster) (name : NamespacedName) : Option Cluster :=
  ((c.replica α).server.get? name.path).map fun a =>
    let (a, c) := c.stamp a
    c.mapServer fun (objects : SortedMap String α) => objects.insert name.path a

def hold (c : Cluster) : Cluster := { c with holding := true }

/-- Delivers the reports that were held back. -/
def release (c : Cluster) : Cluster :=
  c.held.foldl deliver { c with holding := false, held := [] }

/-- Why the server refuses to replace an object by one that was read at some version. -/
def refusal? (c : Cluster) (a : α) : Option Failure :=
  let key := Cached.key a
  match (c.replica α).server.get? key.path with
  | none =>
    some (.reported 404 "NotFound" ((Cached.kind α).name ++ " " ++ key.path ++ " not found"))
  | some current =>
    if Cached.version? current = Cached.version? a then none
    else some (.reported 409 "Conflict" ("the object " ++ key.name ++ " has been modified"))

/-- The server takes a write, and the watch reports it at once or when reports are released. -/
def accept (c : Cluster) (a : α) (write : α → Write) : Cluster :=
  let (a, c) := c.stamp a
  let c := c.mapServer fun (objects : SortedMap String α) =>
    objects.insert (Cached.key a).path a
  let c := { c with writes := c.writes ++ [write a] }
  if c.holding then { c with held := c.held ++ [Stored.report (.apply a)] }
  else c.observe (.apply a)

/-- What the next call of a kind meets. -/
def strike (c : Cluster) (call : Call) : Option Fault × Cluster :=
  match c.faults call with
  | [] => (none, c)
  | fault :: rest => (fault, { c with faults := fun k => if k = call then rest else c.faults k })

def setFaults (c : Cluster) (call : Call) (faults : List (Option Fault)) : Cluster :=
  { c with faults := fun k => if k = call then faults else c.faults k }

def count (c : Cluster) (s : Series) : Cluster := { c with metrics := c.metrics.increment s }

end Cluster

end GatewaySync
