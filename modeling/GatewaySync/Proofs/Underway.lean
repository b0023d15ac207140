import GatewaySync.Proofs.Calm
import GatewaySync.Proofs.Run
import GatewaySync.Proofs.Writes

/-!
# Passes that were under way

A pass that others have overtaken may go by what the caches showed long ago.
What it still writes may be out of date, but it is an object that was cached
once, so its name can be read.  That is enough for a calm cluster to stay calm,
whichever passes are under way in it.
-/

namespace GatewaySync

/-- The names of the objects that passes write can be read. -/
structure Cluster.IsLegible (c : Cluster) : Prop where
  remotes : ∀ name r, c.cached? Remote name = some r → r.metadata.IsLegible
  configMaps : ∀ name configMap, c.cached? ConfigMap name = some configMap →
    configMap.metadata.IsLegible
  deployments : ∀ name d, c.cached? Deployment name = some d → d.metadata.IsLegible

namespace Pass

variable {α : Type}

/-- However the calls are answered, only objects are written whose names can be
read. -/
def WritesLegibly (good : α → Prop) : Pass α → Prop
  | .done a => good a
  | .abort _ => True
  | .looking next => ∀ c, c.IsLegible → WritesLegibly good (next c)
  | .reading _ next => ∀ found, WritesLegibly good (next found)
  | .writing write next => write.metadata.IsLegible ∧ WritesLegibly good next
  | .counting _ next => WritesLegibly good next

theorem writesLegibly_iff {p : Pass α} {good : α → Prop} :
    p.WritesLegibly good ↔ p.Writes Cluster.IsLegible (·.metadata.IsLegible) good := by
  induction p with
  | done a | abort reason => rfl
  | looking next ih => exact forall₂_congr fun c _ => ih c
  | reading name next ih => exact forall_congr' ih
  | writing write next ih => exact and_congr_right' ih
  | counting series next ih => exact ih

/-- Passes keep the metadata of what they replace. -/
theorem allows_legible : Allows Cluster.IsLegible (·.metadata.IsLegible) where
  document _ name m hc hcached _ := hc.configMaps name m hcached
  restart _ name d hc hcached _ _ := hc.deployments name d hcached
  status _ name r hc hcached _ := hc.remotes name r hcached

theorem writesLegibly_sync (s : Settings) (h : Handler) (key : String) :
    (sync s h key).WritesLegibly fun _ => True :=
  writesLegibly_iff.2 (writes_sync allows_legible s h key)

end Pass

namespace Cluster

variable {α : Type} {c : Cluster} {p : Pass α} {good : α → Prop}

theorem isLegible_of_sound (hremotes : c.remotes.informer.Sound c.version)
    (hconfigMaps : c.configMaps.informer.Sound c.version)
    (hdeployments : c.deployments.informer.Sound c.version) : c.IsLegible := by
  have hlegible : ∀ {β : Type} [Cached β] {i : Informer β} {name : NamespacedName} {b : β},
      i.Sound c.version → i.lookup name = some b → (Cached.metadata b).IsLegible :=
    fun hi hfound => (hi.filed _ _ (hi.get?_of_lookup hfound).1).2.legible
  exact ⟨fun _ _ => hlegible hremotes, fun _ _ => hlegible hconfigMaps,
    fun _ _ => hlegible hdeployments⟩

theorem Sound.isLegible (hc : c.Sound) : c.IsLegible :=
  isLegible_of_sound hc.remotes hc.configMaps hc.deployments

theorem IsCalm.isLegible {s : Settings} (hc : c.IsCalm s) : c.IsLegible :=
  isLegible_of_sound hc.soundRemotes hc.soundConfigMaps hc.soundDeployments

theorem writesLegibly_step (hc : c.IsLegible) (hp : p.WritesLegibly good) :
    (p.step c).1.WritesLegibly good :=
  Pass.writesLegibly_iff.2 ((Pass.writesLegibly_iff.1 hp).step hc)

/-- Whatever is left of a pass, the cluster is as calm after it as before. -/
theorem IsCalm.perform {s : Settings} (hc : c.IsCalm s) (hp : p.WritesLegibly good) :
    (c.perform p).2.IsCalm s := by
  have hfacing : ∀ {c : Cluster} {faults}, c.IsCalm s →
      (∀ call, c.Spares call → (c.facing faults).Spares call) →
      (c.facing faults).IsCalm s := fun hc hkeep =>
    hc.of_replicas rfl rfl rfl rfl rfl fun call => hkeep call (hc.spares call)
  induction p generalizing c with
  | done | abort => exact hc
  | looking next ih => exact ih c hc (hp c hc.isLegible)
  | reading name next ih =>
      obtain ⟨faults, hfetch, hkeep⟩ := fetch_of_spares (hc.spares .readSecret) name
      rw [Cluster.perform, hfetch]
      exact ih _ (hfacing hc hkeep) (hp _)
  | writing w next ih =>
      obtain ⟨faults, hkeep, hok | ⟨reason, -, herror⟩⟩ := submit_cases_of_calm hc w
      · rw [Cluster.perform, hok]
        exact ih ((hfacing hc hkeep).take hp.1) hp.2
      · rw [Cluster.perform, herror]
        exact hfacing hc hkeep
  | counting series next ih =>
      exact ih (hc.of_replicas rfl rfl rfl rfl rfl hc.spares) hp

end Cluster

namespace Controller

variable {s : Settings} {secrets : SortedMap NamespacedName Secret} {c c' : Controller}

theorem leased_of_lease {h h' : Handler} {key : String} {rest : Pass (List String)}
    (hleased : ((c.lease h').lane h).worker = .leased key rest) :
    (c.lane h).worker = .leased key rest ∨ rest = Pass.sync c.settings h key := by
  rw [Controller.lease] at hleased
  split at hleased
  · rw [lane_setLane] at hleased
    split at hleased
    · rename_i heq
      obtain ⟨rfl, rfl⟩ := WorkerState.leased.inj hleased
      exact .inr (heq ▸ rfl)
    · exact .inl hleased
  · exact .inl hleased

theorem leased_of_stepPass {h h' : Handler} {key key' : String}
    {before rest : Pass (List String)} (hworker : (c.lane h').worker = .leased key' before)
    (hleased : ((c.stepPass h' key' before).lane h).worker = .leased key rest) :
    (c.lane h).worker = .leased key rest ∨
      ∃ before, (c.lane h).worker = .leased key before ∧
        rest = (before.step c.cluster).1 := by
  have hend : ∀ result, ((c.endPass h' key' result).lane h).worker = .leased key rest →
      (c.lane h).worker = .leased key rest := by
    intro result hleased
    rw [worker_endPass] at hleased
    split at hleased
    · cases hleased
    · exact hleased
  obtain ⟨_, -, hstep⟩ | ⟨_, -, hstep⟩ | hstep := c.stepPass_cases h' key' before
  · exact .inl (hend _ (hstep ▸ hleased))
  · exact .inl (hend _ (hstep ▸ hleased))
  · rw [hstep, lane_setWorker] at hleased
    split at hleased
    · rename_i heq
      obtain ⟨rfl, rfl⟩ := WorkerState.leased.inj hleased
      exact .inr ⟨before, heq ▸ hworker, rfl⟩
    · rw [worker_hear, lane_setCluster] at hleased
      exact .inl hleased

/-- A leased worker was leased before the step, has just taken its key, or has
made a call. -/
theorem leased_of_step (hstep : Step c c') (hup : c'.isUp) {h : Handler} {key : String}
    {rest : Pass (List String)} (hleased : (c'.lane h).worker = .leased key rest) :
    (c.lane h).worker = .leased key rest ∨ rest = Pass.sync c.settings h key ∨
      ∃ before, (c.lane h).worker = .leased key before ∧
        rest = (before.step c.cluster).1 := by
  have hrephased : c.Rephased c' → (c.lane h).worker = .leased key rest := by
    rintro ⟨-, phase, rfl⟩
    cases h <;> exact hleased
  cases hstep with
  | report | echo =>
      rw [onCluster, worker_hear, lane_setCluster] at hleased
      exact .inl hleased
  | elsewhere =>
      rw [lane_setCluster] at hleased
      exact .inl hleased
  | lease => exact (leased_of_lease hleased).imp id .inl
  | call hworker => exact (leased_of_stepPass hworker hleased).imp id .inr
  | @settle h' key' result hworker =>
      obtain ⟨metrics, hsettle⟩ := c.settle_eq h' key' result
      rw [hsettle, lane_setLane] at hleased
      split at hleased
      · cases hleased
      · rw [lane_setCluster] at hleased
        exact .inl hleased
  | advance =>
      rw [lane_advanceTo] at hleased
      exact .inl hleased
  | move m => exact .inl (hrephased ((proceeds_move _ m).rephased hup))

/-- Passes write only objects whose names can be read. -/
def WritesLegibly (c : Controller) : Prop :=
  ∀ h key rest, (c.lane h).worker = .leased key rest → rest.WritesLegibly fun _ => True

theorem WritesLegibly.step (hc : c.Sound s secrets) (hwrites : c.WritesLegibly)
    (hstep : Step c c') (hup : c'.isUp) : c'.WritesLegibly := by
  intro h key rest hleased
  obtain hbefore | rfl | ⟨before, hbefore, rfl⟩ := leased_of_step hstep hup hleased
  · exact hwrites h key rest hbefore
  · exact Pass.writesLegibly_sync _ h key
  · exact Cluster.writesLegibly_step hc.cluster.isLegible (hwrites h key before hbefore)

/-! ## Changing secrets -/

/-- What can happen next when the secrets may change as well, which no watch
reports. -/
inductive FreeStep : Controller → Controller → Prop where
  | step {c c' : Controller} (hstep : Step c c') : FreeStep c c'
  | secrets {c : Controller} (secrets : SortedMap NamespacedName Secret) :
      FreeStep c { c with cluster := { c.cluster with secrets } }

/-- Any number of such steps. -/
abbrev FreeRun : Controller → Controller → Prop := Relation.ReflTransGen FreeStep

theorem freeRun_of_run (hrun : Run c c') : FreeRun c c' :=
  Relation.ReflTransGen.mono (fun _ _ => FreeStep.step) _ _ hrun

/-- Before the stop signal everything is sound, whatever the secrets are by
then. -/
theorem FreeRun.sound {cluster : Cluster} (hfresh : cluster.IsFresh)
    (hrun : FreeRun (create s cluster) c) (hup : c.isUp) :
    (∃ secrets, c.Sound s secrets) ∧ c.WritesLegibly := by
  induction hrun with
  | refl =>
      refine ⟨⟨_, sound_create s hfresh⟩, fun h key rest hleased => ?_⟩
      cases h <;> cases hleased
  | tail _ hlast ih =>
      cases hlast with
      | step hstep =>
          obtain ⟨⟨secrets, hc⟩, hwrites⟩ := ih (isUp_of_step hstep hup)
          exact ⟨⟨secrets, hc.step hstep hup⟩, hwrites.step hc hstep hup⟩
      | secrets secrets =>
          obtain ⟨⟨_, hc⟩, hwrites⟩ := ih hup
          refine ⟨⟨secrets, hc.setCluster _, hc.settings, rfl, ?_⟩, ?_⟩
          · exact ⟨hc.cluster.remotes, hc.cluster.configMaps, hc.cluster.deployments,
              hc.cluster.services, hc.cluster.notices, ⟨hc.cluster.live.holding,
              hc.cluster.live.watching, hc.cluster.live.transient⟩⟩
          · intro h key rest hleased
            rw [lane_setCluster] at hleased
            exact hwrites h key rest hleased

end Controller

end GatewaySync
