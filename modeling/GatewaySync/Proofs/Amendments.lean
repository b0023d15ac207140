import GatewaySync.Proofs.Outstanding

/-!
# What a write changes of an object

Every object that a pass writes is one that it has read, with a few fields
changed: the document in a ConfigMap, two annotations in a Deployment's pod
template, the status of a Remote.  The server takes it only in place of an
object of the same version, and changes nothing but the version itself.
-/

namespace GatewaySync

/-- The metadata differ in nothing but the version. -/
def Metadata.SameButVersion (old new : Metadata) : Prop :=
  new = { old with resourceVersion := new.resourceVersion }

/-- Only the document differs, and the version. -/
structure ConfigMap.SameButDocument (old new : ConfigMap) : Prop where
  metadata : old.metadata.SameButVersion new.metadata
  binaryData : new.binaryData = old.binaryData
  data : ∀ name, name ≠ Document.dataKey →
    (new.data.bind (·.get? name)) = old.data.bind (·.get? name)

/-- Only the two annotations of a restart differ in the pod template, and the
version.  What is missing around the annotations is there afterwards, empty but
for them. -/
structure Deployment.SameButRollout (old new : Deployment) : Prop where
  metadata : old.metadata.SameButVersion new.metadata
  status : new.status = old.status
  spec : ∃ annotations : Texts,
    (∀ name, name ≠ Rollout.stampKey → name ≠ Rollout.hashKey →
      annotations.get? name = old.templateAnnotations?.bind (·.get? name)) ∧
    let spec := old.spec.getD {}
    let metadata := spec.template.metadata.getD {}
    new.spec = some { spec with
      template := { spec.template with
        metadata := some { metadata with annotations := some annotations } } }

/-- Only the status differs, and the version. -/
structure Remote.SameButStatus (old new : Remote) : Prop where
  metadata : old.metadata.SameButVersion new.metadata
  spec : new.spec = old.spec

theorem Document.sameButDocument_putInto (configMap : ConfigMap) (text : String) :
    configMap.SameButDocument (putInto configMap text) where
  metadata := rfl
  binaryData := rfl
  data name hname := by
    cases hdata : configMap.data <;> simp [putInto, hdata, hname]

theorem Deployment.sameButRollout_restarted (d : Deployment) (hash : String) (now : Int) :
    d.SameButRollout (d.restarted hash now) where
  metadata := rfl
  status := rfl
  spec := by
    refine ⟨_, ?_, rfl⟩
    intro name hstamp hhash
    rw [SortedMap.get?_insert, if_neg hhash, SortedMap.get?_insert, if_neg hstamp,
      templateAnnotations?]
    cases d.spec with
    | none => rfl
    | some spec =>
        cases hmetadata : spec.template.metadata with
        | none => simp [hmetadata]
        | some metadata =>
            cases hannotations : metadata.annotations <;> simp [hmetadata, hannotations]

theorem Remote.sameButStatus_withStatus (r : Remote) (status : Option RemoteStatus) :
    r.SameButStatus { r with status } where
  metadata := rfl
  spec := rfl

namespace Write

def kind : Write → Kind
  | .configMap _ => .configMap
  | .deployment _ => .deployment
  | .status _ => .remote

/-- Where the server holds the object. -/
def place (w : Write) : Kind × String := (w.kind, w.metadata.key.path)

def version? (w : Write) : Option String := w.metadata.resourceVersion

/-- The calls of which the write is one. -/
def call : Write → Call
  | .configMap _ => .replaceConfigMap
  | .deployment _ => .replaceDeployment
  | .status _ => .patchStatus

/-- The object is another one of the same kind, with nothing changed that is not
the program's to change. -/
def Amends : Write → Write → Prop
  | .configMap new, .configMap old => old.SameButDocument new
  | .deployment new, .deployment old => old.SameButRollout new
  | .status new, .status old => old.SameButStatus new
  | _, _ => False

@[simp]
theorem version?_atVersion (w : Write) (version : String) :
    (w.atVersion version).version? = some version := by
  cases w <;> rfl

theorem Amends.sameButVersion {w base : Write} (hw : w.Amends base) :
    base.metadata.SameButVersion w.metadata := by
  cases w with
  | configMap new =>
      cases base with
      | configMap old => exact hw.metadata
      | deployment | status => exact hw.elim
  | deployment new =>
      cases base with
      | deployment old => exact hw.metadata
      | configMap | status => exact hw.elim
  | status new =>
      cases base with
      | status old => exact hw.metadata
      | configMap | deployment => exact hw.elim

/-- An object stays where it is. -/
theorem Amends.place_eq {w base : Write} (hw : w.Amends base) : w.place = base.place := by
  have hkey : w.metadata.key = base.metadata.key := by
    rw [hw.sameButVersion]
    rfl
  have hkind : w.kind = base.kind := by
    cases w <;> cases base <;> first | rfl | exact hw.elim
  rw [place, hkind, hkey, place]

/-- Giving the object another version is no other amendment. -/
theorem Amends.atVersion {w base : Write} (hw : w.Amends base) (version : String) :
    (w.atVersion version).Amends base := by
  have hmetadata : base.metadata.SameButVersion
      { w.metadata with resourceVersion := some version } := by
    rw [Metadata.SameButVersion, hw.sameButVersion]
  cases w with
  | configMap new =>
      cases base with
      | configMap old => exact { hw with metadata := hmetadata }
      | deployment | status => exact hw.elim
  | deployment new =>
      cases base with
      | deployment old => exact { hw with metadata := hmetadata }
      | configMap | status => exact hw.elim
  | status new =>
      cases base with
      | status old => exact { hw with metadata := hmetadata }
      | configMap | deployment => exact hw.elim

end Write

/-! ## What the server makes of a write -/

namespace Cluster

variable {c : Cluster}

/-- The object that the server holds somewhere, of the kinds that passes write. -/
def objectAt? (c : Cluster) : Kind × String → Option Write
  | (.configMap, path) => (c.configMaps.server.get? path).map .configMap
  | (.deployment, path) => (c.deployments.server.get? path).map .deployment
  | (.remote, path) => (c.remotes.server.get? path).map .status
  | (.service, _) => none

/-- The server holds an object in that place, and its version is the one that
was read. -/
def Accepts (c : Cluster) (w : Write) : Prop :=
  ∃ current, c.objectAt? w.place = some current ∧ current.version? = w.version?

theorem refusal?_eq_none_iff {α : Type} [Stored α] {a : α} :
    c.refusal? a = none ↔ ∃ current,
      (c.replica α).server.get? (Cached.key a).path = some current ∧
        Cached.version? current = Cached.version? a := by
  rw [refusal?]
  cases (c.replica α).server.get? (Cached.key a).path with
  | none => simp
  | some current => simp

theorem accepts_iff (w : Write) :
    c.Accepts w ↔
      match w with
      | .configMap a => c.refusal? a = none
      | .deployment a => c.refusal? a = none
      | .status a => c.refusal? a = none := by
  cases w with
  | configMap a | deployment a | status a =>
      dsimp only
      rw [refusal?_eq_none_iff]
      simp only [Accepts, objectAt?, Write.place, Write.kind, Option.map_eq_some_iff]
      constructor
      · rintro ⟨_, ⟨current, hcurrent, rfl⟩, hversion⟩
        exact ⟨current, hcurrent, hversion⟩
      · rintro ⟨current, hcurrent, hversion⟩
        exact ⟨_, ⟨current, hcurrent, rfl⟩, hversion⟩

/-- A write that is not taken meets a fault or is refused. -/
theorem attempt_cases_of_refusal {α : Type} [Stored α] (call : Call) (a : α)
    (write : α → Write) :
    (c.refusal? a = none ∧
      c.attempt call a write = (.ok (), (c.past call).accept a write)) ∨
    ∃ reason, c.attempt call a write = (.error reason, c.past call) ∧
      (reason.isRetriable ∨ ∃ fault, c.nextFault? call = some fault ∧ reason = fault.abort) := by
  rw [attempt_eq]
  cases c.nextFault? call with
  | some fault => exact .inr ⟨_, rfl, .inr ⟨fault, rfl, rfl⟩⟩
  | none =>
      cases hrefusal : c.refusal? a with
      | none => exact .inl ⟨rfl, rfl⟩
      | some f => exact .inr ⟨_, rfl, .inl (c.isRetriable_refusal hrefusal)⟩

/-- A write is taken if the server holds the version that was read, or it changes
nothing. -/
theorem submit_cases_of_accepts (w : Write) :
    (c.Accepts w ∧ c.submit w = (.ok (), (c.past w.call).take w)) ∨
    ∃ reason, c.submit w = (.error reason, c.past w.call) ∧
      (reason.isRetriable ∨ ∃ fault, c.nextFault? w.call = some fault ∧
        reason = fault.abort) := by
  rw [accepts_iff]
  cases w with
  | configMap a | deployment a | status a => exact attempt_cases_of_refusal _ a _

/-- The server holds a write that it has taken at the next version, and all else
as before. -/
theorem objectAt?_take (w : Write) (place : Kind × String) :
    (c.take w).objectAt? place =
      if place = w.place then some (w.atVersion (Cached.versionText (c.version + 1)))
      else c.objectAt? place := by
  have hinsert : ∀ {β : Type} {server : SortedMap String β} {b : β} {write : β → Write}
      (kind : Kind) (path path' : String),
      ((server.insert path' b).get? path).map write =
        if (kind, path) = (kind, path') then some (write b) else (server.get? path).map write := by
    intro β server b write kind path path'
    rw [SortedMap.get?_insert]
    by_cases hpath : path = path' <;> simp [hpath]
  obtain ⟨kind, path⟩ := place
  cases w with
  | configMap a =>
      obtain ⟨_, _, _, htaken, -⟩ := c.exists_accept_eq a .configMap
      rw [take, htaken]
      cases kind with
      | configMap => exact hinsert _ path _
      | remote | deployment | service => rfl
  | deployment a =>
      obtain ⟨_, _, _, htaken, -⟩ := c.exists_accept_eq a .deployment
      rw [take, htaken]
      cases kind with
      | deployment => exact hinsert _ path _
      | remote | configMap | service => rfl
  | status a =>
      obtain ⟨_, _, _, htaken, -⟩ := c.exists_accept_eq a .status
      rw [take, htaken]
      cases kind with
      | remote => exact hinsert _ path _
      | configMap | deployment | service => rfl

theorem services_take (w : Write) : (c.take w).services = c.services := by
  cases w with
  | configMap a =>
      obtain ⟨_, _, _, htaken, -⟩ := c.exists_accept_eq a .configMap
      rw [take, htaken]
      rfl
  | deployment a =>
      obtain ⟨_, _, _, htaken, -⟩ := c.exists_accept_eq a .deployment
      rw [take, htaken]
      rfl
  | status a =>
      obtain ⟨_, _, _, htaken, -⟩ := c.exists_accept_eq a .status
      rw [take, htaken]
      rfl

end Cluster

end GatewaySync
