import GatewaySync.Proofs.Phases
import GatewaySync.Proofs.Promise
import Mathlib.Logic.Relation

/-!
# Runs of the controller

A run starts with empty caches and takes steps in any order: a watch reports
something, a worker leases a key, makes the next call of its pass or settles it,
time passes, and others change what the server holds.  The reports of own writes
are delivered by steps of their own, so they may come late and in any order.
Every step keeps the lanes and the caches sound.
-/

namespace GatewaySync

/-! ## The cluster -/

/-- What the four caches show. -/
structure Caches where
  remotes : Store Remote
  configMaps : Store ConfigMap
  deployments : Store Deployment
  services : Store Service

namespace Cluster

def caches (c : Cluster) : Caches where
  remotes := c.remotes.informer.store
  configMaps := c.configMaps.informer.store
  deployments := c.deployments.informer.store
  services := c.services.informer.store

/-- The reports that the watches can bring next. -/
def Admits (c : Cluster) : Report → Prop
  | .remote e => c.remotes.informer.Admits c.version e
  | .configMap e => c.configMaps.informer.Admits c.version e
  | .deployment e => c.deployments.informer.Admits c.version e
  | .service e => c.services.informer.Admits c.version e

/-- No watch has reported anything yet. -/
structure IsFresh (c : Cluster) : Prop where
  remotes : c.remotes.informer = {}
  configMaps : c.configMaps.informer = {}
  deployments : c.deployments.informer = {}
  services : c.services.informer = {}
  held : c.held = []
  notices : c.notices = []
  live : c.IsLive

/-- The caches are sound, and every change has been heard of. -/
structure Sound (c : Cluster) : Prop where
  remotes : c.remotes.informer.Sound c.version
  configMaps : c.configMaps.informer.Sound c.version
  deployments : c.deployments.informer.Sound c.version
  services : c.services.informer.Sound c.version
  notices : c.notices = []
  live : c.IsLive

theorem IsFresh.sound {c : Cluster} (hc : c.IsFresh) : c.Sound where
  remotes := hc.remotes ▸ Informer.sound_empty _
  configMaps := hc.configMaps ▸ Informer.sound_empty _
  deployments := hc.deployments ▸ Informer.sound_empty _
  services := hc.services ▸ Informer.sound_empty _
  notices := hc.notices
  live := hc.live

variable {c c' : Cluster}

theorem Keeps.caches_eq (hkeeps : c.Keeps c') : c'.caches = c.caches := by
  rw [caches, hkeeps.remotes, hkeeps.configMaps, hkeeps.deployments, hkeeps.services]
  rfl

theorem Sound.of_keeps (hc : c.Sound) (hkeeps : c.Keeps c') : c'.Sound where
  remotes := hkeeps.remotes ▸ hc.remotes.mono hkeeps.version_le
  configMaps := hkeeps.configMaps ▸ hc.configMaps.mono hkeeps.version_le
  deployments := hkeeps.deployments ▸ hc.deployments.mono hkeeps.version_le
  services := hkeeps.services ▸ hc.services.mono hkeeps.version_le
  notices := hkeeps.notices.trans hc.notices
  live := hkeeps.live hc.live

theorem Sound.setHeld (hc : c.Sound) (held : List Report) :
    Sound { c with held } where
  remotes := hc.remotes
  configMaps := hc.configMaps
  deployments := hc.deployments
  services := hc.services
  notices := hc.notices
  live := ⟨hc.live.holding, hc.live.watching, hc.live.transient⟩

theorem admits_setHeld {held : List Report} {report : Report} :
    Admits { c with held } report ↔ c.Admits report := by
  cases report <;> exact Iff.rfl

/-- The cluster with another cache for the objects of a kind. -/
def setInformer {α : Type} [Stored α] (c : Cluster) (informer : Informer α) : Cluster :=
  c.setReplica { c.replica α with informer }

@[simp]
theorem informer_setInformer {α : Type} [Stored α] (c : Cluster) (informer : Informer α) :
    ((c.setInformer informer).replica α).informer = informer :=
  congrArg Replica.informer (Stored.replica_setReplica _ _)

@[simp]
theorem setInformer_setInformer {α : Type} [Stored α] (c : Cluster)
    (informer informer' : Informer α) :
    (c.setInformer informer).setInformer informer' = c.setInformer informer' := by
  simp [setInformer, setReplica, replica, Stored.replica_setReplica,
    Stored.setReplica_setReplica]

theorem observe_of_live {α : Type} [Stored α] (hlive : c.IsLive) (e : WatchEvent α) :
    c.observe e =
      { c.setInformer ((c.replica α).informer.step e).1 with
        notices := c.notices ++ ((c.replica α).informer.step e).2.map Stored.notice } := by
  rw [observe, if_pos (hlive.watching _)]
  rfl

/-- A report that the watches can bring leaves the caches sound once its changes
have been heard of. -/
theorem Sound.deliver (hc : c.Sound) {report : Report} (hadmits : c.Admits report) :
    Sound { c.deliver report with notices := [] } := by
  cases report with
  | remote e =>
      rw [Cluster.deliver, observe_of_live hc.live]
      exact ⟨hc.remotes.step hadmits, hc.configMaps, hc.deployments, hc.services, rfl,
        ⟨hc.live.holding, hc.live.watching, hc.live.transient⟩⟩
  | configMap e =>
      rw [Cluster.deliver, observe_of_live hc.live]
      exact ⟨hc.remotes, hc.configMaps.step hadmits, hc.deployments, hc.services, rfl,
        ⟨hc.live.holding, hc.live.watching, hc.live.transient⟩⟩
  | deployment e =>
      rw [Cluster.deliver, observe_of_live hc.live]
      exact ⟨hc.remotes, hc.configMaps, hc.deployments.step hadmits, hc.services, rfl,
        ⟨hc.live.holding, hc.live.watching, hc.live.transient⟩⟩
  | service e =>
      rw [Cluster.deliver, observe_of_live hc.live]
      exact ⟨hc.remotes, hc.configMaps, hc.deployments, hc.services.step hadmits, rfl,
        ⟨hc.live.holding, hc.live.watching, hc.live.transient⟩⟩

/-- A report changes the caches, and nothing else of the cluster. -/
theorem frame_deliver (report : Report) :
    (c.deliver report).secrets = c.secrets ∧ (c.deliver report).held = c.held := by
  cases report with
  | remote | configMap | deployment | service =>
      rw [Cluster.deliver, observe]
      split <;> exact ⟨rfl, rfl⟩

end Cluster

/-! ## The steps -/

namespace Controller

/-- A watch reports something. -/
def tell (c : Controller) (report : Report) : Controller :=
  c.onCluster fun cluster => cluster.deliver report

/-- What a worker does next, whatever it has in hand. -/
def work (c : Controller) (h : Handler) : Controller :=
  match (c.lane h).worker with
  | .idle => c.lease h
  | .leased key rest => c.stepPass h key rest
  | .settling key result => c.settle h key result

/-- What can happen next. -/
inductive Step : Controller → Controller → Prop where
  /-- A watch reports something. -/
  | report {c : Controller} (report : Report) (hadmits : c.cluster.Admits report) :
      Step c (c.onCluster fun cluster => cluster.deliver report)
  /-- A watch reports a write that was taken. -/
  | echo {c : Controller} {before after : List Report} {report : Report}
      (hheld : c.cluster.held = before ++ report :: after)
      (hadmits : c.cluster.Admits report) :
      Step c (c.onCluster fun cluster =>
        Cluster.deliver { cluster with held := before ++ after } report)
  /-- Others change what the server holds, or what the next calls meet. -/
  | elsewhere {c : Controller} {cluster : Cluster} (hkeeps : c.cluster.Keeps cluster)
      (hheld : cluster.held = c.cluster.held) : Step c { c with cluster }
  | lease {c : Controller} {h : Handler} (hworkers : c.hasWorkers)
      (hidle : (c.lane h).worker = .idle) : Step c (c.lease h)
  | call {c : Controller} {h : Handler} {key : String} {rest : Pass (List String)}
      (hworker : (c.lane h).worker = .leased key rest) : Step c (c.stepPass h key rest)
  | settle {c : Controller} {h : Handler} {key : String} {result : Except Abort Unit}
      (hworker : (c.lane h).worker = .settling key result) :
      Step c (c.settle h key result)
  | advance {c : Controller} {instant : Nanos} (hlater : c.now ≤ instant) :
      Step c (c.advanceTo instant)
  | move {c : Controller} (m : Move) : Step c (c.move m)

/-- Any number of steps. -/
abbrev Run : Controller → Controller → Prop := Relation.ReflTransGen Step

/-- Each report is one that the watches can bring when it comes. -/
def AdmitsAll (c : Controller) : List Report → Prop
  | [] => True
  | report :: reports => c.cluster.Admits report ∧ (c.tell report).AdmitsAll reports

theorem run_foldl_tell {c : Controller} {reports : List Report} (hadmits : c.AdmitsAll reports) :
    Run c (reports.foldl tell c) := by
  induction reports generalizing c with
  | nil => exact .refl
  | cons report reports ih => exact .head (.report report hadmits.1) (ih hadmits.2)

theorem step_work {c : Controller} (hworkers : c.hasWorkers) (h : Handler) :
    Step c (c.work h) := by
  rw [work]
  cases hworker : (c.lane h).worker with
  | idle => exact .lease hworkers hworker
  | leased key rest => exact .call hworker
  | settling key result => exact .settle hworker

theorem phase_work (c : Controller) (h : Handler) : (c.work h).phase = c.phase := by
  rw [work]
  split
  · exact phase_lease c h
  · exact phase_stepPass c h _ _
  · exact phase_settle c h _ _

theorem run_foldl_work {c : Controller} (hworkers : c.hasWorkers) (turns : List Handler) :
    Run c (turns.foldl work c) := by
  induction turns generalizing c with
  | nil => exact .refl
  | cons h turns ih =>
      have hstill : (c.work h).hasWorkers := by rw [hasWorkers, phase_work, ← hasWorkers, hworkers]
      exact .head (step_work hworkers h) (ih hstill)

/-- No key is pending, leased or delayed, and no report is held back. -/
structure IsQuiet (c : Controller) : Prop where
  lanes : ∀ h, (c.lane h).queue.IsQuiet
  held : c.cluster.held = []

/-- The stop signal has not come, and the caches have been waited for or still
are. -/
def isUp (c : Controller) : Bool := c.phase matches .created | .filling _ | .running

theorem isUp_eq_not_isOver (c : Controller) : c.isUp = !c.isOver := by
  rw [isUp, isOver]
  cases c.phase <;> rfl

theorem hasWorkers_of_isReady {c : Controller} (hready : c.isReady) : c.hasWorkers := by
  rw [isReady] at hready
  rw [hasWorkers]
  split at hready
  · rename_i hphase
    rw [hphase]
  · cases hready

theorem isUp_of_isReady {c : Controller} (hready : c.isReady) : c.isUp := by
  rw [isReady] at hready
  rw [isUp]
  split at hready
  · rename_i hphase
    rw [hphase]
  · cases hready

/-- The lanes are in order, the caches are sound, and neither the settings nor
the secrets have changed. -/
structure Sound (s : Settings) (secrets : SortedMap NamespacedName Secret)
    (c : Controller) : Prop extends c.IsOrderly where
  settings : c.settings = s
  secrets : c.cluster.secrets = secrets
  cluster : c.cluster.Sound

variable {s : Settings} {secrets : SortedMap NamespacedName Secret} {c c' : Controller}

namespace Sound

/-- What a watch reports is heard of in full. -/
theorem onDeliver (hc : c.Sound s secrets) {report : Report} {held : List Report}
    (hadmits : c.cluster.Admits report) :
    (c.onCluster fun cluster =>
      Cluster.deliver { cluster with held } report).Sound s secrets := by
  have hcluster := (hc.cluster.setHeld held).deliver (Cluster.admits_setHeld.2 hadmits)
  have hsecrets := (Cluster.frame_deliver (c := { c.cluster with held }) report).1
  refine ⟨(hc.setCluster _).hear, ?_, ?_, ?_⟩
  · rw [onCluster, settings_hear]
    exact hc.settings
  · rw [onCluster, cluster_hear]
    exact hsecrets.trans hc.secrets
  · rw [onCluster, cluster_hear]
    exact hcluster

theorem lease (hc : c.Sound s secrets) {h : Handler}
    (hidle : (c.lane h).worker = .idle) : (c.lease h).Sound s secrets where
  toIsOrderly := hc.toIsOrderly.lease hidle
  settings := (settings_lease c h).trans hc.settings
  secrets := by
    rw [cluster_lease]
    exact hc.secrets
  cluster := by
    rw [cluster_lease]
    exact hc.cluster

theorem endPass (hc : c.Sound s secrets) {h : Handler} {key : String}
    {rest : Pass (List String)} (hworker : (c.lane h).worker = .leased key rest)
    (result : Except Abort (List String)) : (c.endPass h key result).Sound s secrets where
  toIsOrderly := hc.toIsOrderly.endPass hworker result
  settings := by
    rw [settings_endPass]
    exact hc.settings
  secrets := by
    rw [cluster_endPass]
    exact hc.secrets
  cluster := by
    rw [cluster_endPass]
    exact hc.cluster

theorem stepPass (hc : c.Sound s secrets) {h : Handler} {key : String}
    {rest : Pass (List String)} (hworker : (c.lane h).worker = .leased key rest) :
    (c.stepPass h key rest).Sound s secrets := by
  obtain ⟨requeued, -, hend⟩ | ⟨reason, -, hend⟩ | hcall := c.stepPass_cases h key rest
  · rw [hend]
    exact hc.endPass hworker (.ok requeued)
  · rw [hend]
    exact hc.endPass hworker (.error reason)
  · obtain ⟨hkeeps, -⟩ := Cluster.keeps_step hc.cluster.live rest
    have hcluster := hc.cluster.of_keeps hkeeps
    rw [hcall]
    refine ⟨(hc.setCluster _).hear.setWorker ?_, ?_, ?_, ?_⟩
    · have hleased : (({ c with cluster := (rest.step c.cluster).2 } : Controller).hear.lane
          h).worker = .leased key rest := by
        rw [worker_hear, lane_setCluster, hworker]
      rw [Lane.key?, Lane.key?, hleased]
    · rw [setWorker, settings_setLane, settings_hear]
      exact hc.settings
    · rw [setWorker, cluster_setLane, cluster_hear]
      exact hkeeps.secrets.trans hc.secrets
    · rw [setWorker, cluster_setLane, cluster_hear]
      exact ⟨hcluster.remotes, hcluster.configMaps, hcluster.deployments,
        hcluster.services, rfl, ⟨hcluster.live.holding, hcluster.live.watching,
        hcluster.live.transient⟩⟩

theorem settle (hc : c.Sound s secrets) {h : Handler} {key : String}
    {result : Except Abort Unit} (hworker : (c.lane h).worker = .settling key result) :
    (c.settle h key result).Sound s secrets := by
  obtain ⟨metrics, hsettle⟩ := c.settle_eq h key result
  refine ⟨hc.toIsOrderly.settle hworker, ?_, ?_, ?_⟩
  · rw [hsettle, settings_setLane]
    exact hc.settings
  · rw [hsettle, cluster_setLane]
    exact hc.secrets
  · rw [hsettle, cluster_setLane]
    exact hc.cluster.of_keeps ⟨rfl, rfl, rfl, rfl, rfl, rfl, le_rfl, fun hlive =>
      ⟨hlive.holding, hlive.watching, hlive.transient⟩⟩

theorem advanceTo (hc : c.Sound s secrets) (instant : Nanos) :
    (c.advanceTo instant).Sound s secrets where
  toIsOrderly := hc.toIsOrderly.advanceTo instant
  settings := hc.settings
  secrets := hc.secrets
  cluster := hc.cluster

end Sound

/-! ## Starting and stopping -/

/-- Only the phase differs, and neither is after the stop signal. -/
def Rephased (c c' : Controller) : Prop := c.isUp ∧ ∃ phase, c' = { c with phase }

theorem Rephased.refl (hup : c.isUp) : c.Rephased c := ⟨hup, c.phase, rfl⟩

/-- A phase that is not after the stop signal was reached from such a one, without
closing the queues. -/
theorem Proceeds.rephased (hproceeds : c.Proceeds c') (hup : c'.isUp) : c.Rephased c' := by
  cases hproceeds with
  | stays => exact .refl hup
  | fills hphase | opens hphase => exact ⟨by rw [isUp, hphase], _, rfl⟩
  | fails | stops | ends => cases hup
  | closes hover =>
      rw [mapQueue, isUp, phase_setLane, ← isUp, isUp_eq_not_isOver, hover] at hup
      cases hup

theorem Sound.rephased (hc : c.Sound s secrets) (hsame : c.Rephased c') :
    c'.Sound s secrets := by
  obtain ⟨-, phase, rfl⟩ := hsame
  refine ⟨hc.toIsOrderly.of_lanes fun h => ?_, hc.settings, hc.secrets, hc.cluster⟩
  cases h <;> rfl

/-! ## Every step -/

/-- A call of a pass leaves the caches alone. -/
theorem caches_stepPass {h : Handler} {key : String} {rest : Pass (List String)}
    (hlive : c.cluster.IsLive) : (c.stepPass h key rest).cluster.caches = c.cluster.caches := by
  obtain ⟨_, -, hend⟩ | ⟨_, -, hend⟩ | hcall := c.stepPass_cases h key rest
  · rw [hend, cluster_endPass]
  · rw [hend, cluster_endPass]
  · rw [hcall, setWorker, cluster_setLane, cluster_hear]
    exact (Cluster.keeps_step hlive rest).1.caches_eq

/-- Nothing goes up again after the stop signal. -/
theorem isUp_of_step (hstep : Step c c') (hup : c'.isUp) : c.isUp := by
  cases hstep with
  | report | echo =>
      rw [isUp, onCluster, phase_hear] at hup
      exact hup
  | elsewhere | advance => exact hup
  | lease =>
      rw [isUp, phase_lease] at hup
      exact hup
  | call =>
      rw [isUp, phase_stepPass] at hup
      exact hup
  | settle =>
      rw [isUp, phase_settle] at hup
      exact hup
  | move m => exact ((proceeds_move _ m).rephased hup).1

theorem Sound.step (hc : c.Sound s secrets) (hstep : Step c c') (hup : c'.isUp) :
    c'.Sound s secrets := by
  cases hstep with
  | report report hadmits => exact hc.onDeliver hadmits
  | echo hheld hadmits => exact hc.onDeliver hadmits
  | elsewhere hkeeps hheld =>
      exact ⟨hc.setCluster _, hc.settings, hkeeps.secrets.trans hc.secrets,
        hc.cluster.of_keeps hkeeps⟩
  | lease hworkers hidle => exact hc.lease hidle
  | call hworker => exact hc.stepPass hworker
  | settle hworker => exact hc.settle hworker
  | advance hlater => exact hc.advanceTo _
  | move m => exact hc.rephased ((proceeds_move _ m).rephased hup)

/-! ## Passes that nothing interrupts -/

/-- A pass that has made a call comes to the same as before. -/
theorem runPass_stepPass (hlive : c.cluster.IsLive) (hsilent : c.cluster.notices = [])
    {h : Handler} {key : String} {rest : Pass (List String)}
    (hcall : c.stepPass h key rest =
      (hear { c with cluster := (rest.step c.cluster).2 }).setWorker h
        (.leased key (rest.step c.cluster).1)) :
    (c.stepPass h key rest).runPass h key (rest.step c.cluster).1 =
      c.runPass h key rest := by
  obtain ⟨hkeeps, -⟩ := Cluster.keeps_step hlive rest
  rw [hear_of_silent (hkeeps.notices.trans hsilent)] at hcall
  rw [hcall, runPass, runPass, setWorker, cluster_setLane, Cluster.perform_step]
  cases c.cluster.perform rest with
  | mk result cluster =>
      dsimp only
      rw [← endPass_setWorker (c := hear { c with cluster }), ← hear_setWorker]
      cases h <;> rfl

/-- A pass that has ended need not be run. -/
theorem runPass_of_ended (hsilent : c.cluster.notices = []) {h : Handler} {key : String}
    {rest : Pass (List String)} {result : Except Abort (List String)}
    (hperform : c.cluster.perform rest = (result, c.cluster)) :
    c.runPass h key rest = c.endPass h key result := by
  rw [runPass, hperform]
  exact congrArg (endPass · h key result) (hear_of_silent hsilent)

theorem run_runPass_abort (hc : c.Sound s secrets) {h : Handler} {key : String}
    {reason : Abort} (hworker : (c.lane h).worker = .leased key (.abort reason)) :
    Run c (c.runPass h key (.abort reason)) := by
  rw [runPass_of_ended hc.cluster.notices rfl]
  exact .single (.call hworker)

/-- After a call the rest can be run at once. -/
theorem run_runPass_of_call (hc : c.Sound s secrets) {h : Handler} {key : String}
    {rest : Pass (List String)} (hworker : (c.lane h).worker = .leased key rest)
    (hstep : c.stepPass h key rest =
      (hear { c with cluster := (rest.step c.cluster).2 }).setWorker h
        (.leased key (rest.step c.cluster).1))
    (hrest : ∀ {c' : Controller}, c'.Sound s secrets →
      (c'.lane h).worker = .leased key (rest.step c.cluster).1 →
      Run c' (c'.runPass h key (rest.step c.cluster).1)) :
    Run c (c.runPass h key rest) := by
  rw [← runPass_stepPass hc.cluster.live hc.cluster.notices hstep]
  refine .head (.call hworker) (hrest (hc.stepPass hworker) ?_)
  rw [hstep, lane_setWorker, if_pos rfl]

/-- Running a pass at once is one of the ways to run it call by call. -/
theorem run_runPass (hc : c.Sound s secrets) {h : Handler} {key : String}
    {rest : Pass (List String)} (hworker : (c.lane h).worker = .leased key rest) :
    Run c (c.runPass h key rest) := by
  induction rest generalizing c with
  | done requeued =>
      rw [runPass_of_ended hc.cluster.notices rfl]
      exact .single (.call hworker)
  | abort reason => exact run_runPass_abort hc hworker
  | looking next ih =>
      exact run_runPass_of_call hc hworker rfl fun hc' hworker' => ih _ hc' hworker'
  | counting series next ih =>
      exact run_runPass_of_call hc hworker rfl fun hc' hworker' => ih hc' hworker'
  | reading secret next ih =>
      refine run_runPass_of_call hc hworker rfl fun {c'} hc' hworker' => ?_
      rw [Pass.step] at hworker' ⊢
      cases hfetch : c.cluster.fetch secret with
      | mk result cluster =>
          rw [hfetch] at hworker'
          cases result with
          | ok found => exact ih found hc' hworker'
          | error reason => exact run_runPass_abort hc' hworker'
  | writing write next ih =>
      refine run_runPass_of_call hc hworker rfl fun {c'} hc' hworker' => ?_
      rw [Pass.step] at hworker' ⊢
      cases hsubmit : c.cluster.submit write with
      | mk result cluster =>
          rw [hsubmit] at hworker'
          cases result with
          | ok _ => exact ih hc' hworker'
          | error reason => exact run_runPass_abort hc' hworker'

/-- With empty queues, idle workers and empty caches everything is sound. -/
theorem sound_create (s : Settings) {cluster : Cluster} (hfresh : cluster.IsFresh) :
    (create s cluster).Sound s cluster.secrets where
  settings := rfl
  secrets := rfl
  cluster := hfresh.sound
  lanes h := by
    cases h with
    | remote | configMap | gateway =>
        refine ⟨⟨List.nodup_nil, ?_, ?_, ?_⟩, fun k => ?_⟩
        · intro k hmem
          cases hmem
        · intro k hmem
          cases hmem
        · intro k hmem
          cases hmem
        · constructor
          · intro hmem
            cases hmem
          · intro hkey
            cases hkey
  isOpen h := by cases h <;> rfl

/-- An invariant of the steps before the stop signal holds in every state that a
run reaches before it. -/
theorem Run.induction {motive : Controller → Prop} {cluster : Cluster}
    (hfresh : cluster.IsFresh) (hfirst : motive (create s cluster))
    (hstep : ∀ c c', c.Sound s cluster.secrets → Step c c' → c'.isUp → motive c →
      motive c')
    (hrun : Run (create s cluster) c) (hup : c.isUp) :
    c.Sound s cluster.secrets ∧ motive c := by
  induction hrun with
  | refl => exact ⟨sound_create s hfresh, hfirst⟩
  | tail _ hlast ih =>
      obtain ⟨hsound, hmotive⟩ := ih (isUp_of_step hlast hup)
      exact ⟨hsound.step hlast hup, hstep _ _ hsound hlast hup hmotive⟩

/-- What a run reaches before the stop signal is sound. -/
theorem Run.sound {cluster : Cluster} (hfresh : cluster.IsFresh)
    (hrun : Run (create s cluster) c) (hup : c.isUp) : c.Sound s cluster.secrets :=
  (Run.induction (motive := fun _ => True) hfresh trivial (fun _ _ _ _ _ _ => trivial)
    hrun hup).1

end Controller

end GatewaySync
