import GatewaySync.Cluster
import GatewaySync.Document
import GatewaySync.Exposure
import GatewaySync.Rollout
import GatewaySync.Settings

/-!
# Passes

A pass brings one part of the cluster in line with the caches.  Three handlers run passes: for a
Remote, for the gateway's ConfigMap, and for the gateway itself.  The first two write the
document by the same steps, so whichever runs first leaves nothing to do for the other.

A pass reads from the caches only, and whatever it writes carries the version that it read.  It
may be run again for the same key at any time.

A pass is kept as the calls that it makes, so that it can be run to its end at once as well as
call by call, with other things happening in between.
-/

namespace GatewaySync

/-- Why a pass ended early. -/
inductive Abort where
  | failed (f : Failure)
  | panicked
deriving DecidableEq, Repr

/-- A pass is the calls that it makes, one after the other, and what it makes of each answer.
Between two calls anything may happen in the cluster. -/
inductive Pass (α : Type) where
  | done (value : α)
  | abort (reason : Abort)
  /-- Looks at the caches and at the clock. -/
  | looking (next : Cluster → Pass α)
  | reading (secret : NamespacedName) (next : Option Secret → Pass α)
  /-- Asks the server to hold an object in place of the one that was read. -/
  | writing (write : Write) (next : Pass α)
  | counting (series : Series) (next : Pass α)

inductive Handler where
  | remote
  | configMap
  | gateway
deriving DecidableEq, Repr

namespace Handler

def all : List Handler := [.remote, .configMap, .gateway]

/-- The name in metrics, which is also that of the handler's queue. -/
def name : Handler → String
  | .remote => "remote"
  | .configMap => "configmap"
  | .gateway => "gateway"

def ofName? (s : String) : Option Handler := all.find? fun h => h.name = s

end Handler

/-- The address of the gateway as a Remote publishes it: a URL, or why there is none. -/
def Remote.statusBehind (r : Remote) (gateway : Service) : RemoteStatus :=
  match gateway.address with
  | .ok address => .available (r.url address)
  | .error problem => .unavailable problem.message

namespace Pass

variable {α β : Type}

/-- Goes on with another pass. -/
def andThen : Pass α → (α → Pass β) → Pass β
  | .done a, f => f a
  | .abort reason, _ => .abort reason
  | .looking next, f => .looking fun c => (next c).andThen f
  | .reading secret next, f => .reading secret fun found => (next found).andThen f
  | .writing write next, f => .writing write (next.andThen f)
  | .counting series next, f => .counting series (next.andThen f)

instance : Monad Pass where
  pure := .done
  bind := andThen

theorem andThen_done (p : Pass α) : p.andThen .done = p := by
  induction p with
  | done | abort => rfl
  | looking _ ih | reading _ _ ih => simp only [andThen, ih]
  | writing _ _ ih | counting _ _ ih => simp only [andThen, ih]

theorem andThen_assoc {γ : Type} (p : Pass α) (f : α → Pass β) (g : β → Pass γ) :
    (p.andThen f).andThen g = p.andThen fun a => (f a).andThen g := by
  induction p with
  | done | abort => rfl
  | looking _ ih | reading _ _ ih => simp only [andThen, ih]
  | writing _ _ ih | counting _ _ ih => simp only [andThen, ih]

instance : LawfulMonad Pass :=
  LawfulMonad.mk' Pass andThen_done (fun _ _ => rfl) andThen_assoc

def fail (f : Failure) : Pass α := .abort (.failed f)
def look : Pass Cluster := .looking .done
def readSecret (name : NamespacedName) : Pass (Option Secret) := .reading name .done
def replaceConfigMap (c : ConfigMap) : Pass Unit := .writing (.configMap c) (.done ())
def replaceDeployment (d : Deployment) : Pass Unit := .writing (.deployment d) (.done ())
def count (s : Series) : Pass Unit := .counting s (.done ())

def patchStatus (r : Remote) (status : RemoteStatus) : Pass Unit :=
  .writing (.status { r with status := some status }) (.done ())

/-- One of the gateway's own objects, which have to be cached. -/
def gatewayObject (α : Type) [Stored α] (name : NamespacedName) : Pass α := do
  match (← look).cached? α name with
  | some a => return a
  | none => fail (.missingObject (Cached.kind α).name name.ns name.name)

def gatewayConfigMap (s : Settings) : Pass ConfigMap := gatewayObject _ ⟨s.ns, s.configMap⟩
def gatewayDeployment (s : Settings) : Pass Deployment := gatewayObject _ ⟨s.ns, s.deployment⟩
def gatewayService (s : Settings) : Pass Service := gatewayObject _ ⟨s.ns, s.service⟩

/-- Writes the document if it changes what the ConfigMap holds, and restarts the gateway after a
write.  A restart that did not follow an earlier write is made up for: it shows in the hash that
the Deployment records.  Tells whether the document was written. -/
def publish (configMap : ConfigMap) (deployment : Deployment) (text : String) : Pass Bool := do
  let hash := Document.contentHash text
  let changed := Document.differs configMap text
  if changed then
    replaceConfigMap (Document.putInto configMap text)
    count .documentWrites
  if changed || deployment.rolledFor?.any (· != hash) then
    replaceDeployment (deployment.restarted hash (← look).clock)
    count .gatewayRestarts
  return changed

/-- Builds the document from the cached Remotes and publishes it. -/
def syncDocument (s : Settings) : Pass Bool := do
  let configMap ← gatewayConfigMap s
  let deployment ← gatewayDeployment s
  let sources ← Document.gather readSecret ((← look).allCached Remote)
  publish configMap deployment (Document.build sources).render

def parseKey (key : String) : Pass NamespacedName :=
  match NamespacedName.ofString? key with
  | some name => pure name
  | none => fail (.invalidKey key)

/-- Writes the document, and publishes the Remote's address if its status shows another one.  A
Remote that is gone needs nothing: its deletion brings up the ConfigMap's key. -/
def syncRemote (s : Settings) (key : String) : Pass Unit := do
  let name ← parseKey key
  match (← look).cached? Remote name with
  | none => return ()
  | some remote =>
    let _ ← syncDocument s
    let status := remote.statusBehind (← gatewayService s)
    if remote.status ≠ some status then
      patchStatus remote status
      count (.statusUpdates name.ns name.name)

/-- Puts the document back when the ConfigMap has changed.  Other ConfigMaps are none of the
program's business. -/
def syncConfigMap (s : Settings) (key : String) : Pass Unit := do
  let name ← parseKey key
  if name = ⟨s.ns, s.configMap⟩ then
    let _ ← syncDocument s

/-- A changed gateway can change every Remote's address, so all of them need a pass. -/
def syncGateway (key : String) : Pass (List String) := do
  let _ ← parseKey key
  return ((← look).allCached Remote).map fun r => r.metadata.key.toString

/-- A handler's pass for a key, which may ask for passes of Remotes. -/
def sync (s : Settings) : Handler → String → Pass (List String)
  | .remote, key => do syncRemote s key; return []
  | .configMap, key => do syncConfigMap s key; return []
  | .gateway, key => syncGateway key

end Pass

/-- How a call ends that meets a fault. -/
def Fault.abort : Fault → Abort
  | .failure f => .failed f
  | .panic => .panicked

namespace Cluster

/-- A write of an object that carries the version that was read. -/
def attempt {α : Type} [Stored α] (c : Cluster) (call : Call) (a : α) (write : α → Write) :
    Except Abort Unit × Cluster :=
  match c.strike call with
  | (some fault, c) => (.error fault.abort, c)
  | (none, c) =>
    match c.refusal? a with
    | some f => (.error (.failed f), c)
    | none => (.ok (), c.accept a write)

/-- What comes of a write, which is in the form that the server would hold. -/
def submit (c : Cluster) : Write → Except Abort Unit × Cluster
  | .configMap a => c.attempt .replaceConfigMap a .configMap
  | .deployment a => c.attempt .replaceDeployment a .deployment
  | .status a => c.attempt .patchStatus a .status

/-- What comes of reading a secret. -/
def fetch (c : Cluster) (name : NamespacedName) : Except Abort (Option Secret) × Cluster :=
  match c.strike .readSecret with
  | (some fault, c) => (.error fault.abort, c)
  | (none, c) => (.ok (c.secrets.get? name), c)

end Cluster

/-- Makes the next call of a pass.  What is left of the pass goes on from the answer. -/
def Pass.step {α : Type} (c : Cluster) : Pass α → Pass α × Cluster
  | .done a => (.done a, c)
  | .abort reason => (.abort reason, c)
  | .looking next => (next c, c)
  | .reading secret next =>
    match c.fetch secret with
    | (.ok found, c) => (next found, c)
    | (.error reason, c) => (.abort reason, c)
  | .writing write next =>
    match c.submit write with
    | (.ok (), c) => (next, c)
    | (.error reason, c) => (.abort reason, c)
  | .counting series next => (next, c.count series)

/-- Runs a pass to its end while nothing else happens in the cluster. -/
def Cluster.perform {α : Type} (c : Cluster) : Pass α → Except Abort α × Cluster
  | .done a => (.ok a, c)
  | .abort reason => (.error reason, c)
  | .looking next => c.perform (next c)
  | .reading secret next =>
    match c.fetch secret with
    | (.ok found, c) => c.perform (next found)
    | (.error reason, c) => (.error reason, c)
  | .writing write next =>
    match c.submit write with
    | (.ok (), c) => c.perform next
    | (.error reason, c) => (.error reason, c)
  | .counting series next => (c.count series).perform next

end GatewaySync
