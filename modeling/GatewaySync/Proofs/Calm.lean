import GatewaySync.Proofs.Publish
import GatewaySync.Proofs.Watch

/-!
# Clusters that nobody else touches

When the caches show what the server holds and every write is reported at once,
no write is refused and the caches go on showing what the server holds.  The
lemmas here say so for a write of each kind, and what the caches show after it.
-/

namespace GatewaySync

namespace Replica

variable {α : Type} [Cached α]

/-- No listing is open, and what is cached is what the server holds. -/
structure IsLevel (r : Replica α) : Prop where
  unlisted : r.informer.seen = none
  agrees : ∀ ref a, r.informer.store.get? ref = some a →
    r.server.get? (Cached.key a).path = some a

/-- The server has taken an object and the watch has reported it. -/
def take (r : Replica α) (a : α) : Replica α where
  server := r.server.insert (Cached.key a).path a
  informer := (r.informer.step (.apply a)).1

variable {r : Replica α} {version : Nat}

theorem isLevel_of_values (hunlisted : r.informer.seen = none)
    (hagrees : ∀ a ∈ r.informer.store.values, r.server.get? (Cached.key a).path = some a) :
    r.IsLevel where
  unlisted := hunlisted
  agrees ref a hget := hagrees a (SortedMap.mem_values_iff.2 ⟨ref, hget⟩)

/-- No two objects of a sound cache are held under one path, so only the object
itself is replaced at the server. -/
theorem IsLevel.take (hr : r.IsLevel) (hsound : r.informer.Sound version) {a : α}
    (ha : (Cached.metadata a).IsLegible) : (r.take a).IsLevel where
  unlisted := hr.unlisted
  agrees ref b hget := by
    change (r.informer.store.insert (Cached.ref a) a).get? ref = some b at hget
    change (r.server.insert (Cached.key a).path a).get? (Cached.key b).path = some b
    rw [SortedMap.get?_insert] at hget ⊢
    by_cases href : ref = Cached.ref a
    · rw [if_pos href] at hget
      obtain rfl := Option.some.inj hget
      exact if_pos rfl
    · rw [if_neg href] at hget
      obtain ⟨hfiled, hfit⟩ := hsound.filed ref b hget
      have hpath : ¬(Cached.key b).path = (Cached.key a).path := by
        intro hpath
        apply href
        have hkey : Cached.key b = Cached.key a := hfit.legible.path_inj ha hpath
        rw [← hfiled, Cached.ref, Cached.ref, hfit.legible.ref_eq, ha.ref_eq]
        exact congrArg (fun key : NamespacedName => ObjectRef.mk (some key.ns) key.name) hkey
      rw [if_neg hpath]
      exact hr.agrees ref b hget

/-- An object at a version that was just given out can be reported. -/
theorem sound_take (hr : r.IsLevel) (hsound : r.informer.Sound version) {a : α}
    (ha : (Cached.metadata a).IsLegible) :
    (r.take (Cached.atVersion a (Cached.versionText (version + 1)))).informer.Sound
      (version + 1) := by
  refine (hsound.mono (Nat.le_succ version)).step
    ⟨hr.unlisted, Cached.isFit_atVersion ha (version + 1), ?_⟩
  intro old hget _ hversion
  exact absurd hversion ((hsound.filed _ old hget).2.version_ne a)

/-- What a name stands for once the object was reported. -/
theorem find?_take (hr : r.IsLevel) (hsound : r.informer.Sound version) {a : α}
    (ha : (Cached.metadata a).IsLegible) (name : NamespacedName) :
    let taken := Cached.atVersion a (Cached.versionText (version + 1))
    (r.take taken).informer.lookup name =
      if name = Cached.key a then some taken else r.informer.lookup name := by
  intro taken
  rw [Informer.lookup, Informer.lookup, (sound_take hr hsound ha).find?_eq, hsound.find?_eq]
  change (r.informer.store.insert (Cached.ref taken) taken).get? _ = _
  rw [SortedMap.get?_insert, Cached.ref_atVersion]
  refine if_congr ?_ rfl rfl
  rw [eq_comm, Cached.ref, ha.ref_eq_iff, eq_comm]
  rfl

end Replica

/-- The metadata of the object that is written. -/
def Write.metadata : Write → Metadata
  | .configMap a => a.metadata
  | .deployment a => a.metadata
  | .status a => a.metadata

namespace Cluster

/-- No listing is open, the caches show what the server holds, no report is still
to come, the gateway's objects are cached, and no call meets a fault. -/
structure IsLevel (s : Settings) (c : Cluster) : Prop where
  remotes : c.remotes.IsLevel
  configMaps : c.configMaps.IsLevel
  deployments : c.deployments.IsLevel
  services : c.services.IsLevel
  configMap : (c.cached? ConfigMap ⟨s.ns, s.configMap⟩).isSome
  deployment : (c.cached? Deployment ⟨s.ns, s.deployment⟩).isSome
  service : (c.cached? Service ⟨s.ns, s.service⟩).isSome
  held : c.held = []
  spares : ∀ call, c.Spares call

/-- Besides, the caches are sound and writes are reported at once. -/
structure IsCalm (s : Settings) (c : Cluster) : Prop extends c.IsLevel s where
  soundRemotes : c.remotes.informer.Sound c.version
  soundConfigMaps : c.configMaps.informer.Sound c.version
  soundDeployments : c.deployments.informer.Sound c.version
  echoing : c.holding = false
  watching : ∀ kind, c.follows kind = true

/-- The write replaces a cached object, and nothing of its metadata. -/
def Replaces (c : Cluster) : Write → Prop
  | .configMap a => ∃ old, c.configMaps.informer.store.get? (Cached.ref a) = some old ∧
      a.metadata = old.metadata
  | .deployment a => ∃ old, c.deployments.informer.store.get? (Cached.ref a) = some old ∧
      a.metadata = old.metadata
  | .status a => ∃ old, c.remotes.informer.store.get? (Cached.ref a) = some old ∧
      a.metadata = old.metadata

/-- The server takes a write. -/
def take (c : Cluster) : Write → Cluster
  | .configMap a => c.accept a .configMap
  | .deployment a => c.accept a .deployment
  | .status a => c.accept a .status

variable {s : Settings} {c : Cluster}

/-- A write that is reported at once shows at the server and in the cache. -/
theorem accept_of_echoing {α : Type} [Stored α] (hechoing : c.holding = false)
    (hwatching : ∀ kind, c.follows kind = true) (a : α) (write : α → Write) :
    c.accept a write =
      { c.setReplica ((c.replica α).take (c.stamp a).1) with
        version := c.version + 1
        writes := c.writes ++ [write (c.stamp a).1]
        notices := c.notices ++
          ((c.replica α).informer.step (.apply (c.stamp a).1)).2.map Stored.notice } := by
  rw [accept]
  dsimp only [stamp, mapServer, observe]
  rw [if_neg (by simp [setReplica, hechoing]), if_pos (by exact hwatching _)]
  simp [setReplica, replica, Stored.replica_setReplica, Stored.setReplica_setReplica,
    Replica.take]

/-- No cache has been touched, and the calls to come still meet no fault. -/
theorem IsCalm.of_replicas (hc : c.IsCalm s) {c' : Cluster}
    (hreplicas : c'.toReplicas = c.toReplicas) (hversion : c'.version = c.version)
    (hholding : c'.holding = c.holding) (hheld : c'.held = c.held)
    (hfollows : c'.follows = c.follows)
    (hspares : ∀ call, c'.Spares call) : c'.IsCalm s := by
  obtain ⟨⟩ := c'
  obtain ⟨⟩ := c
  obtain rfl := hreplicas
  obtain rfl := hversion
  obtain rfl := hholding
  obtain rfl := hheld
  exact { hc with
    spares := hspares
    watching := fun kind => (congrFun hfollows kind).trans (hc.watching kind) }

/-- No call meets a fault, so a write is taken unless it is refused. -/
theorem submit_cases_of_calm (hc : c.IsCalm s) (w : Write) :
    ∃ faults, (∀ call, c.Spares call → (c.facing faults).Spares call) ∧
      (c.submit w = (.ok (), (c.facing faults).take w) ∨
        ∃ reason, ¬c.Replaces w ∧ c.submit w = (.error reason, c.facing faults)) := by
  have hattempt : ∀ {α : Type} [Stored α] {call : Call} {a : α} {write : α → Write},
      (c.replica α).IsLevel → ∃ faults,
        (∀ call, c.Spares call → (c.facing faults).Spares call) ∧
        (c.attempt call a write = (.ok (), (c.facing faults).accept a write) ∨
          ∃ reason, (¬∃ old, (c.replica α).informer.store.get? (Cached.ref a) = some old ∧
            Cached.metadata a = Cached.metadata old) ∧
            c.attempt call a write = (.error reason, c.facing faults)) := by
    intro α _ call a write hlevel
    obtain ⟨faults, hkeep, htaken⟩ := attempt_of_spares (hc.spares call) a write
    refine ⟨faults, hkeep, ?_⟩
    cases hrefusal : c.refusal? a with
    | none =>
        rw [hrefusal] at htaken
        exact .inl htaken
    | some f =>
        rw [hrefusal] at htaken
        refine .inr ⟨_, ?_, htaken⟩
        rintro ⟨old, hget, hmetadata⟩
        have hkey : Cached.key a = Cached.key old := congrArg Metadata.key hmetadata
        have hversion : Cached.version? old = Cached.version? a :=
          congrArg Metadata.resourceVersion hmetadata.symm
        rw [refusal?, hkey, hlevel.agrees _ old hget] at hrefusal
        dsimp only at hrefusal
        rw [if_pos hversion] at hrefusal
        cases hrefusal
  cases w with
  | configMap a => exact hattempt hc.configMaps
  | deployment a => exact hattempt hc.deployments
  | status a => exact hattempt hc.remotes

/-- A write that replaces what is cached is taken. -/
theorem submit_of_calm (hc : c.IsCalm s) {w : Write} (hw : c.Replaces w) :
    ∃ faults, (∀ call, c.Spares call → (c.facing faults).Spares call) ∧
      c.submit w = (.ok (), (c.facing faults).take w) := by
  obtain ⟨faults, hkeep, hok | ⟨_, hreplaces, -⟩⟩ := submit_cases_of_calm hc w
  · exact ⟨faults, hkeep, hok⟩
  · exact absurd hw hreplaces

section Taken

variable (hc : c.IsCalm s)
include hc

theorem legible_of_replaces {w : Write} (hw : c.Replaces w) : w.metadata.IsLegible := by
  cases w with
  | configMap a =>
      obtain ⟨old, hget, hmetadata⟩ := hw
      rw [Write.metadata, hmetadata]
      exact (hc.soundConfigMaps.filed _ old hget).2.legible
  | deployment a =>
      obtain ⟨old, hget, hmetadata⟩ := hw
      rw [Write.metadata, hmetadata]
      exact (hc.soundDeployments.filed _ old hget).2.legible
  | status a =>
      obtain ⟨old, hget, hmetadata⟩ := hw
      rw [Write.metadata, hmetadata]
      exact (hc.soundRemotes.filed _ old hget).2.legible

theorem cached?_take_configMap {a : ConfigMap} (ha : a.metadata.IsLegible)
    (name : NamespacedName) :
    (c.take (.configMap a)).cached? ConfigMap name =
      if name = a.metadata.key then
        some (Cached.atVersion a (Cached.versionText (c.version + 1)))
      else c.cached? ConfigMap name := by
  rw [take, accept_of_echoing hc.echoing hc.watching]
  exact Replica.find?_take hc.configMaps hc.soundConfigMaps ha name

theorem cached?_take_deployment {a : Deployment} (ha : a.metadata.IsLegible)
    (name : NamespacedName) :
    (c.take (.deployment a)).cached? Deployment name =
      if name = a.metadata.key then
        some (Cached.atVersion a (Cached.versionText (c.version + 1)))
      else c.cached? Deployment name := by
  rw [take, accept_of_echoing hc.echoing hc.watching]
  exact Replica.find?_take hc.deployments hc.soundDeployments ha name

theorem cached?_take_status {a : Remote} (ha : a.metadata.IsLegible)
    (name : NamespacedName) :
    (c.take (.status a)).cached? Remote name =
      if name = a.metadata.key then
        some (Cached.atVersion a (Cached.versionText (c.version + 1)))
      else c.cached? Remote name := by
  rw [take, accept_of_echoing hc.echoing hc.watching]
  exact Replica.find?_take hc.remotes hc.soundRemotes ha name

/-- The cluster is as calm after a write as before. -/
theorem IsCalm.take {w : Write} (hw : w.metadata.IsLegible) : (c.take w).IsCalm s := by
  have hremotes := hc.soundRemotes.mono (Nat.le_succ c.version)
  have hconfigMaps := hc.soundConfigMaps.mono (Nat.le_succ c.version)
  have hdeployments := hc.soundDeployments.mono (Nat.le_succ c.version)
  cases w with
  | configMap a =>
      have ha : a.metadata.IsLegible := hw
      have hcached := cached?_take_configMap hc ha ⟨s.ns, s.configMap⟩
      rw [Cluster.take, accept_of_echoing hc.echoing hc.watching] at hcached ⊢
      exact { hc with
        configMaps := hc.configMaps.take hc.soundConfigMaps
          (Cached.isFit_atVersion ha _).legible
        configMap := by
          rw [hcached]
          split
          · rfl
          · exact hc.configMap
        soundRemotes := hremotes
        soundConfigMaps := Replica.sound_take hc.configMaps hc.soundConfigMaps ha
        soundDeployments := hdeployments }
  | deployment a =>
      have ha : a.metadata.IsLegible := hw
      have hcached := cached?_take_deployment hc ha ⟨s.ns, s.deployment⟩
      rw [Cluster.take, accept_of_echoing hc.echoing hc.watching] at hcached ⊢
      exact { hc with
        deployments := hc.deployments.take hc.soundDeployments
          (Cached.isFit_atVersion ha _).legible
        deployment := by
          rw [hcached]
          split
          · rfl
          · exact hc.deployment
        soundRemotes := hremotes
        soundConfigMaps := hconfigMaps
        soundDeployments := Replica.sound_take hc.deployments hc.soundDeployments ha }
  | status a =>
      have ha : a.metadata.IsLegible := hw
      rw [Cluster.take, accept_of_echoing hc.echoing hc.watching]
      exact { hc with
        remotes := hc.remotes.take hc.soundRemotes (Cached.isFit_atVersion ha _).legible
        soundRemotes := Replica.sound_take hc.remotes hc.soundRemotes ha
        soundConfigMaps := hconfigMaps
        soundDeployments := hdeployments }

end Taken

end Cluster

end GatewaySync
