import GatewaySync.Proofs.Publish
import GatewaySync.Proofs.Watch

/-!
# One secret that cannot be read

Every pass for a Remote builds the whole document, so it reads the secrets of
all cached Remotes.  The first one that cannot be read ends the pass, whichever
Remote the pass is for, and the next attempt meets the same secret.  Where all
of them can be read and no write fails, the pass leaves the document and the
status as they should be.
-/

namespace GatewaySync

namespace Cluster

variable {c : Cluster} {unreadable : NamespacedName → Option Fault}

/-- The secrets that a pass reads, in order. -/
def secretRefs (c : Cluster) : List NamespacedName :=
  (c.allCached Remote).filterMap Document.secretRef?

/-- The first failure that reading them comes upon. -/
def firstFailure? (c : Cluster) (unreadable : NamespacedName → Option Fault) : Option Fault :=
  c.secretRefs.findSome? unreadable

/-- The cluster whose next pass meets these failures of reading secrets. -/
def withUnreadable (c : Cluster) (unreadable : NamespacedName → Option Fault) : Cluster :=
  c.setFaults .readSecret (c.secretRefs.map unreadable)

/-- The cluster after some attempts at a pass that all meet the same failures of
reading secrets. -/
def afterAttempts {α : Type} (unreadable : NamespacedName → Option Fault) (p : Pass α)
    (c : Cluster) : Nat → Cluster
  | 0 => c
  | n + 1 => (((c.afterAttempts unreadable p n).withUnreadable unreadable).perform p).2

/-! ## Reading the secrets -/

theorem readFault?_withUnreadable :
    (c.withUnreadable unreadable).readFault? (c.allCached Remote) =
      c.firstFailure? unreadable := by
  have hfaults : (c.withUnreadable unreadable).faults .readSecret =
      c.secretRefs.map unreadable := by
    simp [withUnreadable, setFaults]
  rw [readFault?, hfaults, firstFailure?, ← List.map_take, ← secretRefs, List.take_length,
    List.findSome?_map]
  rfl

theorem firstFailure?_eq_none_iff :
    c.firstFailure? unreadable = none ↔
      ∀ a ∈ c.allCached Remote, ∀ ref, Document.secretRef? a = some ref →
        unreadable ref = none := by
  rw [firstFailure?, List.findSome?_eq_none_iff]
  simp only [secretRefs, List.mem_filterMap]
  constructor
  · intro hreadable a ha ref href
    exact hreadable ref ⟨a, ha, href⟩
  · rintro hreadable ref ⟨a, ha, href⟩
    exact hreadable a ha ref href

variable (unreadable) in
/-- The document comes to be published, or the first failure ends the pass. -/
theorem perform_syncDocument_of_unreadable {s : Settings} {configMap : ConfigMap}
    {d : Deployment}
    (hconfigMap : c.cached? ConfigMap ⟨s.ns, s.configMap⟩ = some configMap)
    (hdeployment : c.cached? Deployment ⟨s.ns, s.deployment⟩ = some d) :
    ∃ faults, (∀ call, call ≠ .readSecret → faults call = c.faults call) ∧
      (c.withUnreadable unreadable).perform (Pass.syncDocument s) =
        match c.firstFailure? unreadable with
        | none => (c.facing faults).perform (Pass.publish configMap d c.documentText)
        | some fault => (.error fault.abort, c.facing faults) := by
  obtain ⟨faults, -, hkeep, hgather⟩ :=
    (c.withUnreadable unreadable).perform_gather_eq (c.allCached Remote)
  have hfaults : ∀ call, call ≠ .readSecret → faults call = c.faults call :=
    fun call hcall => (hkeep call hcall).trans (if_neg hcall)
  refine ⟨faults, hfaults, ?_⟩
  rw [perform_syncDocument_of_cached (c.withUnreadable unreadable) hconfigMap hdeployment]
  rw [readFault?_withUnreadable] at hgather
  cases hfailure : c.firstFailure? unreadable with
  | none =>
      rw [hfailure] at hgather
      exact perform_bind_ok hgather
  | some fault =>
      rw [hfailure] at hgather
      exact perform_bind_error hgather

/-! ## Writes that do not fail -/

/-- After some writes of the gateway's ConfigMap and Deployment the ConfigMap
holds the text, and Remotes and Services are as before. -/
structure Updated (c : Cluster) (configMap : ConfigMap) (text : String) (ws : List Write)
    (c' : Cluster) : Prop where
  writes : c'.writes = c.writes ++ ws
  document : Document.differs configMap text = false ∨ ∃ m, .configMap m ∈ ws ∧
    m.metadata.key = configMap.metadata.key ∧ Document.stored? m = some text
  remotes : c'.remotes = c.remotes
  services : c'.services = c.services

/-- Whether a write is refused depends only on the objects of its kind. -/
theorem refusal?_congr {α : Type} [Stored α] {c c' : Cluster}
    (hreplica : c'.replica α = c.replica α) (a : α) : c'.refusal? a = c.refusal? a := by
  rw [refusal?, refusal?, hreplica]

/-- What a name stands for depends only on them, too. -/
theorem cached?_congr {α : Type} [Stored α] {c c' : Cluster}
    (hreplica : c'.replica α = c.replica α) (name : NamespacedName) :
    c'.cached? α name = c.cached? α name := by
  rw [cached?, cached?, hreplica]

theorem frame_accept_configMap (a : ConfigMap) :
    let c' := c.accept a .configMap
    c'.deployments = c.deployments ∧ c'.remotes = c.remotes ∧ c'.services = c.services ∧
      c'.faults = c.faults := by
  obtain ⟨_, _, _, htaken, -⟩ := c.exists_accept_eq a .configMap
  rw [htaken]
  exact ⟨rfl, rfl, rfl, rfl⟩

theorem frame_accept_deployment (a : Deployment) :
    let c' := c.accept a .deployment
    c'.remotes = c.remotes ∧ c'.services = c.services ∧ c'.faults = c.faults := by
  obtain ⟨_, _, _, htaken, -⟩ := c.exists_accept_eq a .deployment
  rw [htaken]
  exact ⟨rfl, rfl, rfl⟩

/-- The gateway is restarted. -/
theorem exists_restart {d : Deployment} (hash : String)
    (hspares : c.Spares .replaceDeployment) (hrefusal : c.refusal? d = none) :
    ∃ d' c', c.restart d hash = (.ok (), c') ∧ c'.writes = c.writes ++ [.deployment d'] ∧
      c'.remotes = c.remotes ∧ c'.services = c.services ∧
      ∀ call, c.Spares call → c'.Spares call := by
  have hrestarted : c.refusal? (d.restarted hash c.clock) = none := hrefusal
  obtain ⟨faults, hkeep, htaken⟩ :=
    attempt_of_spares hspares (d.restarted hash c.clock) .deployment
  rw [hrestarted] at htaken
  have hrestart : c.restart d hash = (.ok (), ((c.facing faults).accept
      (d.restarted hash c.clock) .deployment).count .gatewayRestarts) := by
    rw [restart, htaken]
  obtain ⟨hremotes, hservices, hfaults⟩ :=
    frame_accept_deployment (c := c.facing faults) (d.restarted hash c.clock)
  refine ⟨_, _, hrestart, writes_accept _ _ _, hremotes, hservices, fun call hcall => ?_⟩
  have hspares := hkeep call hcall
  rw [Spares, ← hfaults] at hspares
  exact hspares

/-- Publishing ends well if neither write is refused. -/
theorem exists_publish {configMap : ConfigMap} {d : Deployment} (text : String)
    (hspares : c.Spares .replaceConfigMap) (hspares' : c.Spares .replaceDeployment)
    (hconfigMap : c.refusal? configMap = none) (hdeployment : c.refusal? d = none) :
    ∃ written ws c', c.perform (Pass.publish configMap d text) = (.ok written, c') ∧
      c.Updated configMap text ws c' ∧ ∀ call, c.Spares call → c'.Spares call := by
  cases hdiffers : Document.differs configMap text with
  | false =>
      by_cases hbehind : d.IsBehind (Document.contentHash text)
      · obtain ⟨d', c', hrestart, hwrites, hremotes, hservices, hkeep⟩ :=
          exists_restart (Document.contentHash text) hspares' hdeployment
        refine ⟨false, _, c', ?_, ⟨hwrites, .inl hdiffers, hremotes, hservices⟩, hkeep⟩
        rw [perform_publish_behind c hdiffers hbehind, hrestart]
      · exact ⟨false, [], c, perform_publish_current c hdiffers hbehind,
          ⟨(List.append_nil _).symm, .inl hdiffers, rfl, rfl⟩, fun _ => id⟩
  | true =>
      have hcurrent : c.refusal? (Document.putInto configMap text) = none := hconfigMap
      obtain ⟨faults, hkeep, htaken⟩ :=
        attempt_of_spares hspares (Document.putInto configMap text) .configMap
      rw [hcurrent] at htaken
      obtain ⟨hdeployments, hremotes, hservices, hfaults⟩ :=
        frame_accept_configMap (c := c.facing faults) (Document.putInto configMap text)
      set m := ((c.facing faults).stamp (Document.putInto configMap text)).1
      set c₁ := (c.facing faults).accept (Document.putInto configMap text) .configMap with hc₁
      have hkeep₁ : ∀ call, c.Spares call → (c₁.count .documentWrites).Spares call := by
        intro call hcall
        have hspares := hkeep call hcall
        rw [Spares, ← hfaults] at hspares
        exact hspares
      have hreplica : (c₁.count .documentWrites).replica Deployment = c.replica Deployment :=
        hdeployments
      obtain ⟨d', c', hrestart, hwrites', hremotes', hservices', hkeep'⟩ :=
        exists_restart (c := c₁.count .documentWrites) (Document.contentHash text)
          (hkeep₁ _ hspares') ((refusal?_congr hreplica d).trans hdeployment)
      have hwrites : c'.writes = c.writes ++ [.configMap m, .deployment d'] := by
        rw [hwrites', count, hc₁, writes_accept, writes_facing, List.append_assoc]
        rfl
      have hdocument : Document.differs configMap text = false ∨
          ∃ m' : ConfigMap, Write.configMap m' ∈ [.configMap m, .deployment d'] ∧
            m'.metadata.key = configMap.metadata.key ∧ Document.stored? m' = some text :=
        .inr ⟨m, List.mem_cons_self, rfl, Document.stored?_putInto configMap text⟩
      refine ⟨true, _, c', ?_, ⟨hwrites, hdocument, hremotes'.trans hremotes,
        hservices'.trans hservices⟩, fun call hcall => hkeep' call (hkeep₁ call hcall)⟩
      rw [perform_publish_changed c hdiffers, htaken]
      dsimp only
      rw [hrestart]

/-! ## A pass for one Remote -/

/-- The writes of a pass have left the document of the cached Remotes in the
ConfigMap, with the Remote's own entry in it, and the Remote's address in its
status. -/
structure Serves (c : Cluster) (configMap : ConfigMap) (gateway : Service) (r : Remote)
    (ws : List Write) : Prop where
  document : Document.differs configMap c.documentText = false ∨ ∃ m, .configMap m ∈ ws ∧
    m.metadata.key = configMap.metadata.key ∧ Document.stored? m = some c.documentText
  entry : ((c.allCached Remote).map Remote.qualifiedName).Nodup →
    (Document.ofRemotes c.secrets.get? (c.allCached Remote)).get? r.qualifiedName =
      some (Document.entryOf r ((Document.secretRef? r).bind c.secrets.get?))
  status : r.status = some (r.statusBehind gateway) ∨ ∃ r', .status r' ∈ ws ∧
    r'.metadata.key = r.metadata.key ∧ r'.status = some (r.statusBehind gateway)

section Sync

variable {s : Settings} {key : String} {name : NamespacedName} {r : Remote}
  (hkey : NamespacedName.ofString? key = some name)
  (hcached : c.cached? Remote name = some r)
include hkey hcached

/-- A pass for a cached Remote starts with the document. -/
theorem perform_syncRemote_of_cached :
    c.perform (Pass.syncRemote s key) =
      c.perform (do
        let _ ← Pass.syncDocument s
        let status := r.statusBehind (← Pass.gatewayService s)
        if r.status ≠ some status then
          Pass.patchStatus r status
          Pass.count (.statusUpdates name.ns name.name)) := by
  have hparse := c.perform_parseKey key
  rw [hkey] at hparse
  rw [Pass.syncRemote, perform_bind_ok hparse, perform_bind_ok (perform_look c), hcached]

/-- Once the document was published, the status follows. -/
theorem exists_syncRemote {configMap : ConfigMap} {gateway : Service} {ws : List Write}
    {c' : Cluster} {written : Bool}
    (hgateway : c.cached? Service ⟨s.ns, s.service⟩ = some gateway)
    (hdocument : c.perform (Pass.syncDocument s) = (.ok written, c'))
    (hupdated : c.Updated configMap c.documentText ws c')
    (hspares : c'.Spares .patchStatus) (hrefusal : c.refusal? r = none) :
    ∃ ws' after, c.perform (Pass.syncRemote s key) = (.ok (), after) ∧
      after.writes = c.writes ++ ws' ∧ c.Serves configMap gateway r ws' := by
  have hentry : ((c.allCached Remote).map Remote.qualifiedName).Nodup →
      (Document.ofRemotes c.secrets.get? (c.allCached Remote)).get? r.qualifiedName =
        some (Document.entryOf r ((Document.secretRef? r).bind c.secrets.get?)) :=
    fun hnames => Document.get?_ofRemotes _ hnames (Store.mem_values_of_find? hcached)
  have hservices : c'.replica Service = c.replica Service := hupdated.services
  have hservice := c'.perform_gatewayObject Service ⟨s.ns, s.service⟩
  rw [cached?_congr hservices, hgateway] at hservice
  rw [perform_syncRemote_of_cached hkey hcached, perform_bind_ok hdocument,
    Pass.gatewayService, perform_bind_ok hservice]
  by_cases hright : r.status = some (r.statusBehind gateway)
  · exact ⟨ws, c', by simp [hright], hupdated.writes, hupdated.document, hentry, .inl hright⟩
  · set r' : Remote := { r with status := some (r.statusBehind gateway) } with hr'
    have hreplica : c'.replica Remote = c.replica Remote := hupdated.remotes
    have hcurrent : c'.refusal? r' = none := (refusal?_congr hreplica _).trans hrefusal
    obtain ⟨faults, -, htaken⟩ := attempt_of_spares hspares r' .status
    rw [hcurrent, hr', ← perform_patchStatus] at htaken
    have hwrites : ((c'.facing faults).accept r' .status).writes =
        c.writes ++ (ws ++ [.status ((c'.facing faults).stamp r').1]) := by
      rw [writes_accept, writes_facing, hupdated.writes, List.append_assoc]
    refine ⟨_, ((c'.facing faults).accept r' .status).count (.statusUpdates name.ns name.name),
      ?_, hwrites, ?_, hentry, .inr ⟨_, List.mem_append_right _ (List.mem_singleton_self _),
      rfl, rfl⟩⟩
    · dsimp only
      rw [if_pos hright, perform_bind_ok htaken, perform_count]
    · exact hupdated.document.imp id fun ⟨m, hm, hmap⟩ => ⟨m, List.mem_append_left _ hm, hmap⟩

variable {configMap : ConfigMap} {d : Deployment}
  (hconfigMap : c.cached? ConfigMap ⟨s.ns, s.configMap⟩ = some configMap)
  (hdeployment : c.cached? Deployment ⟨s.ns, s.deployment⟩ = some d)
include hconfigMap hdeployment

/-- The first failure ends the pass, and nothing but the faults is used up. -/
theorem perform_syncRemote_of_failure {fault : Fault}
    (hfailure : c.firstFailure? unreadable = some fault) :
    ∃ faults, (c.withUnreadable unreadable).perform (Pass.syncRemote s key) =
      (.error fault.abort, c.facing faults) := by
  have hcached' : (c.withUnreadable unreadable).cached? Remote name = some r := hcached
  obtain ⟨faults, -, hdocument⟩ :=
    perform_syncDocument_of_unreadable unreadable hconfigMap hdeployment
  rw [hfailure] at hdocument
  refine ⟨faults, ?_⟩
  rw [perform_syncRemote_of_cached hkey hcached', perform_bind_error hdocument]

/-- However often the pass is tried, it comes upon the same failure. -/
theorem exists_afterAttempts_eq {fault : Fault}
    (hfailure : c.firstFailure? unreadable = some fault) (n : Nat) :
    ∃ faults, c.afterAttempts unreadable (Pass.syncRemote s key) n = c.facing faults := by
  induction n with
  | zero => exact ⟨c.faults, rfl⟩
  | succ n ih =>
      obtain ⟨faults, hbefore⟩ := ih
      obtain ⟨faults', hattempt⟩ := perform_syncRemote_of_failure (c := c.facing faults)
        hkey hcached hconfigMap hdeployment hfailure
      exact ⟨faults', by rw [afterAttempts, hbefore, hattempt]; rfl⟩

end Sync

end Cluster

namespace Pass

open Cluster

/-- Whether a pass for a cached Remote ends well depends on the secrets of all
cached Remotes, if no write fails.  When all of them can be read, it leaves the
document and the Remote's status as they should be.  One that cannot be read
fails every attempt and lets nothing be written, whichever Remote it belongs
to. -/
theorem syncRemote_serves_iff_secrets_readable (s : Settings) (c : Cluster)
    (unreadable : NamespacedName → Option Fault) (key : String) (name : NamespacedName)
    (r : Remote) (configMap : ConfigMap) (d : Deployment) (gateway : Service)
    (hkey : NamespacedName.ofString? key = some name)
    (hcached : c.cached? Remote name = some r)
    (hconfigMap : c.cached? ConfigMap ⟨s.ns, s.configMap⟩ = some configMap)
    (hdeployment : c.cached? Deployment ⟨s.ns, s.deployment⟩ = some d)
    (hgateway : c.cached? Service ⟨s.ns, s.service⟩ = some gateway)
    (hspares : ∀ call, call ≠ .readSecret → c.Spares call)
    (hcurrent : c.refusal? configMap = none ∧ c.refusal? d = none ∧ c.refusal? r = none) :
    ((∀ a ∈ c.allCached Remote, ∀ ref, Document.secretRef? a = some ref →
        unreadable ref = none) →
      ∃ ws after, (c.withUnreadable unreadable).perform (syncRemote s key) = (.ok (), after) ∧
        after.writes = c.writes ++ ws ∧ c.Serves configMap gateway r ws) ∧
    ∀ a ∈ c.allCached Remote, ∀ ref, Document.secretRef? a = some ref → unreadable ref ≠ none →
      ∃ fault, c.firstFailure? unreadable = some fault ∧
        ∀ n, ∃ faults,
          c.afterAttempts unreadable (syncRemote s key) n = c.facing faults ∧
          (((c.facing faults).withUnreadable unreadable).perform (syncRemote s key)).1 =
            .error fault.abort := by
  constructor
  · intro hreadable
    obtain ⟨faults, hkeep, hdocument⟩ :=
      perform_syncDocument_of_unreadable unreadable hconfigMap hdeployment
    have hkeep' : ∀ call, call ≠ .readSecret → (c.facing faults).Spares call := by
      intro call hcall
      rw [Spares, faults_facing, hkeep call hcall]
      exact hspares call hcall
    obtain ⟨written, ws, c', hpublish, hupdated, hspares'⟩ := exists_publish
      (c := c.facing faults) c.documentText (hkeep' .replaceConfigMap nofun)
      (hkeep' .replaceDeployment nofun) hcurrent.1 hcurrent.2.1
    rw [firstFailure?_eq_none_iff.2 hreadable] at hdocument
    obtain ⟨ws', after, hsync, hwrites, hserves⟩ := exists_syncRemote
      (c := c.withUnreadable unreadable) hkey hcached hgateway (hdocument.trans hpublish)
      ⟨hupdated.writes, hupdated.document, hupdated.remotes, hupdated.services⟩
      (hspares' _ (hkeep' .patchStatus nofun)) hcurrent.2.2
    exact ⟨ws', after, hsync, hwrites, hserves.document, hserves.entry, hserves.status⟩
  · intro a ha ref href hfault
    cases hfailure : c.firstFailure? unreadable with
    | none => exact absurd (firstFailure?_eq_none_iff.1 hfailure a ha ref href) hfault
    | some fault =>
        refine ⟨fault, rfl, fun n => ?_⟩
        obtain ⟨faults, hafter⟩ :=
          exists_afterAttempts_eq hkey hcached hconfigMap hdeployment hfailure n
        obtain ⟨faults', hattempt⟩ := perform_syncRemote_of_failure (c := c.facing faults)
          hkey hcached hconfigMap hdeployment hfailure
        exact ⟨faults, hafter, by rw [hattempt]⟩

/-- The Remote `default/a` with a registry secret. -/
def credentialed : Remote where
  metadata := { name := some "a", ns := some "default" }
  spec :=
    { registry := some { url := "registry/", credentials := some { secretRef := some "login" } } }

/-- The Remote `default/b` without a registry. -/
def plain : Remote where
  metadata := { name := some "b", ns := some "default" }
  spec := {}

/-- An object of the gateway's own namespace. -/
def ownMetadata (name : String) : Metadata :=
  { name := some name, ns := some "kube-system" }

/-- The gateway's objects and both Remotes. -/
def neighbours : Cluster :=
  ((((Cluster.feed {} (.apply ({ metadata := ownMetadata "gitkube-ci-conf" } : ConfigMap))).feed
    (.apply ({ metadata := ownMetadata "gitkubed" } : Deployment))).feed
    (.apply ({ metadata := ownMetadata "gitkubed" } : Service))).feed
    (.apply credentialed)).feed (.apply plain)

/-- The secret of `default/a` cannot be read. -/
def loginUnreadable (ref : NamespacedName) : Option Fault :=
  if ref = ⟨"default", "login"⟩ then
    some (.failure (.reported 500 "InternalError" "injected failure"))
  else none

theorem syncRemote_serves_iff_secrets_readable_neighbours :
    (∃ ws after r, (neighbours.withUnreadable fun _ => none).perform
        (syncRemote {} "default/b") = (.ok (), after) ∧
      after.writes = ws ∧ .status r ∈ ws ∧ r.metadata.key = ⟨"default", "b"⟩) ∧
    ∀ n, ∃ faults,
      neighbours.afterAttempts loginUnreadable (syncRemote {} "default/b") n =
        neighbours.facing faults ∧
      (((neighbours.facing faults).withUnreadable loginUnreadable).perform
        (syncRemote {} "default/b")).1 =
        .error (.failed (.reported 500 "InternalError" "injected failure")) := by
  have hspares : ∀ call, call ≠ .readSecret → neighbours.Spares call := by
    intro call _
    cases call <;> decide +kernel
  have hserves := fun unreadable => syncRemote_serves_iff_secrets_readable {} neighbours
    unreadable "default/b" ⟨"default", "b"⟩ (Cached.atVersion plain "5")
    (Cached.atVersion { metadata := ownMetadata "gitkube-ci-conf" } "1")
    (Cached.atVersion { metadata := ownMetadata "gitkubed" } "2")
    (Cached.atVersion { metadata := ownMetadata "gitkubed" } "3")
    (by decide +kernel) (by decide +kernel) (by decide +kernel) (by decide +kernel)
    (by decide +kernel) hspares
    ⟨by decide +kernel, by decide +kernel, by decide +kernel⟩
  constructor
  · obtain ⟨ws, after, hsync, hwrites, -, -, hstatus⟩ := (hserves fun _ => none).1
      fun _ _ _ _ => rfl
    obtain hright | ⟨r, hr, hkey, -⟩ := hstatus
    · cases hright
    · have hnothing : neighbours.writes = [] := by decide +kernel
      rw [hnothing, List.nil_append] at hwrites
      exact ⟨ws, after, r, hsync, hwrites, hr, hkey⟩
  · obtain ⟨fault, hfirst, hblocked⟩ := (hserves loginUnreadable).2
      (Cached.atVersion credentialed "4") (by decide +kernel) ⟨"default", "login"⟩
      (by decide +kernel) (by decide +kernel)
    have hfailure : neighbours.firstFailure? loginUnreadable =
        some (.failure (.reported 500 "InternalError" "injected failure")) := by
      decide +kernel
    obtain rfl := Option.some.inj (hfirst.symm.trans hfailure)
    exact hblocked

/-- The secret of another Remote keeps the pass for `default/b` from writing
anything, although that Remote needs no secret and no write fails. -/
theorem syncRemote_blocked_by_neighbour :
    let attempt := (neighbours.withUnreadable loginUnreadable).perform (syncRemote {} "default/b")
    neighbours.cached? Remote ⟨"default", "b"⟩ = some (Cached.atVersion plain "5") ∧
      Document.secretRef? plain = none ∧
      (∀ call, call ≠ .readSecret → (neighbours.withUnreadable loginUnreadable).Spares call) ∧
      attempt.1 = .error (.failed (.reported 500 "InternalError" "injected failure")) ∧
      attempt.2.writes = [] := by
  refine ⟨by decide +kernel, by decide +kernel, ?_, by decide +kernel, by decide +kernel⟩
  intro call hcall
  cases call with
  | readSecret => exact absurd rfl hcall
  | replaceConfigMap | replaceDeployment | patchStatus => decide +kernel

end Pass

end GatewaySync
