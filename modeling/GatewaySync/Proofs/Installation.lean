import GatewaySync.Proofs.Calm
import GatewaySync.Proofs.Run

/-!
# Runs that begin with listings

A run begins alike wherever the controller is started: every watch lists what
there is, and then the workers start.  A pass that finds nothing to do leaves
its lane with one key less, and when that was the last one, quiet.
-/

namespace GatewaySync

theorem Lane.addAll_of_dirty {l : Lane} {keys : List String}
    (hdirty : ∀ k ∈ keys, k ∈ l.queue.dirty) : l.addAll keys = l := by
  rw [Lane.addAll]
  induction keys with
  | nil => rfl
  | cons key rest ih =>
      have hkey : l.queue.add key = l.queue := if_pos (.inr (hdirty key List.mem_cons_self))
      rw [List.foldl_cons, hkey]
      exact ih fun k hk => hdirty k (List.mem_cons_of_mem _ hk)

namespace Cluster

/-- The gateway and all Remotes are as they should be. -/
structure IsCurrent (s : Settings) (c : Cluster) : Prop where
  document : ∃ configMap d, c.cached? ConfigMap ⟨s.ns, s.configMap⟩ = some configMap ∧
    c.cached? Deployment ⟨s.ns, s.deployment⟩ = some d ∧
    Document.differs configMap c.documentText = false ∧
    ¬d.IsBehind (Document.contentHash c.documentText)
  status : ∃ gateway, c.cached? Service ⟨s.ns, s.service⟩ = some gateway ∧
    ∀ r ∈ c.allCached Remote, r.status = some (r.statusBehind gateway)
  spares : ∀ call, c.Spares call

variable {s : Settings} {c : Cluster}

theorem IsCurrent.facing (hc : c.IsCurrent s) {faults : Call → List (Option Fault)}
    (hkeep : ∀ call, c.Spares call → (c.facing faults).Spares call) :
    (c.facing faults).IsCurrent s :=
  ⟨hc.document, hc.status, fun call => hkeep call (hc.spares call)⟩

theorem perform_syncDocument_of_current (hc : c.IsCurrent s) :
    ∃ faults, (c.facing faults).IsCurrent s ∧
      c.perform (Pass.syncDocument s) = (.ok false, c.facing faults) := by
  obtain ⟨configMap, d, hconfigMap, hdeployment, hdiffers, hbehind⟩ := hc.document
  obtain ⟨faults, hkeep, hperform⟩ :=
    perform_syncDocument_of_spares hconfigMap hdeployment (hc.spares _)
  refine ⟨faults, hc.facing hkeep, hperform.trans ?_⟩
  exact perform_publish_current _ hdiffers hbehind

/-- Where everything is as it should be, a pass writes nothing.  Only a pass for
the gateway asks for other passes. -/
theorem perform_sync_of_current (hc : c.IsCurrent s) (h : Handler) {key : String}
    {name : NamespacedName} (hkey : NamespacedName.ofString? key = some name) :
    ∃ requeued faults, (c.facing faults).IsCurrent s ∧
      c.perform (Pass.sync s h key) = (.ok requeued, c.facing faults) ∧
      ∀ k ∈ requeued, h = .gateway ∧
        ∃ r ∈ c.allCached Remote, r.metadata.key.toString = k := by
  have hparse := c.perform_parseKey key
  obtain ⟨faults, hcurrent, hdocument⟩ := perform_syncDocument_of_current hc
  rw [hkey] at hparse
  cases h with
  | gateway =>
      refine ⟨_, c.faults, hc, perform_bind_ok hparse, fun k hk => ⟨rfl, ?_⟩⟩
      exact List.mem_map.1 hk
  | configMap =>
      refine ⟨[], ?_⟩
      by_cases hname : name = ⟨s.ns, s.configMap⟩
      · refine ⟨faults, hcurrent, perform_bind_ok (a := ()) ?_, nofun⟩
        rw [Pass.syncConfigMap, perform_bind_ok hparse, if_pos hname, perform_bind_ok hdocument]
        rfl
      · refine ⟨c.faults, hc, perform_bind_ok (a := ()) ?_, nofun⟩
        rw [Pass.syncConfigMap, perform_bind_ok hparse, if_neg hname]
        rfl
  | remote =>
      refine ⟨[], ?_⟩
      cases hcached : c.cached? Remote name with
      | none =>
          refine ⟨c.faults, hc, perform_bind_ok (a := ()) ?_, nofun⟩
          rw [Pass.syncRemote, perform_bind_ok hparse, perform_bind_ok (perform_look c)]
          simp only [hcached]
          rfl
      | some r =>
          obtain ⟨gateway, hgateway, hstatus⟩ := hcurrent.status
          have hservice := (c.facing faults).perform_gatewayObject Service ⟨s.ns, s.service⟩
          have hright := hstatus r (Store.mem_values_of_find? hcached)
          rw [hgateway] at hservice
          refine ⟨faults, hcurrent, perform_bind_ok (a := ()) ?_, nofun⟩
          rw [Pass.syncRemote, perform_bind_ok hparse, perform_bind_ok (perform_look c)]
          simp only [hcached]
          rw [perform_bind_ok hdocument, Pass.gatewayService, perform_bind_ok hservice,
            if_neg (not_not.2 hright)]
          rfl

end Cluster

namespace Controller

variable {s : Settings} {secrets : SortedMap NamespacedName Secret} {c : Controller}

/-! ## Listing -/

section

variable {α : Type} [Stored α]

/-- A report that is observed brings up the keys of what has changed. -/
theorem onCluster_observe (hlive : c.cluster.IsLive) (hsilent : c.cluster.notices = [])
    (e : WatchEvent α) :
    let change := (c.cluster.replica α).informer.step e
    let notices := change.2.map Stored.notice
    c.onCluster (·.observe e) =
      addAll { c with
        cluster := c.cluster.setInformer change.1
        heard := c.heard ++ notices }
        (notices.flatMap (keysFor c.settings)) := by
  intro change notices
  rw [onCluster, Cluster.observe_of_live hlive, hear_eq]
  dsimp only
  rw [hsilent, List.nil_append]
  apply congrArg (fun cluster => addAll { c with cluster, heard := c.heard ++ notices } _)
  exact congrArg (fun notices => { c.cluster.setInformer change.1 with notices }) hsilent.symm

section

variable
  (hdeliver : ∀ (cluster : Cluster) (e : WatchEvent α),
    cluster.deliver (Stored.report e) = cluster.observe e)
  (hadmits : ∀ (cluster : Cluster) (e : WatchEvent α),
    (cluster.replica α).informer.Admits cluster.version e → cluster.Admits (Stored.report e))
include hdeliver hadmits

/-- A report that the watch can bring is a step. -/
theorem step_of_admits (hlive : c.cluster.IsLive) (hsilent : c.cluster.notices = [])
    {e : WatchEvent α}
    (hadmitted : (c.cluster.replica α).informer.Admits c.cluster.version e) :
    Step c (addAll { c with
      cluster := c.cluster.setInformer ((c.cluster.replica α).informer.step e).1
      heard := c.heard ++ ((c.cluster.replica α).informer.step e).2.map Stored.notice }
      ((((c.cluster.replica α).informer.step e).2.map Stored.notice).flatMap
        (keysFor c.settings))) := by
  have hstep := Step.report (Stored.report e) (hadmits c.cluster e hadmitted)
  simp only [hdeliver] at hstep
  rw [onCluster_observe hlive hsilent] at hstep
  exact hstep

/-- Where nothing was cached, a listing of one object brings up its keys. -/
theorem exists_run_of_listing (hc : c.Sound s secrets)
    (hempty : (c.cluster.replica α).informer = {}) {a : α}
    (ha : Cached.IsFit c.cluster.version a) :
    ∃ c', Run c c' ∧ c'.phase = c.phase ∧
      c'.cluster = c.cluster.setInformer
        { store := SortedMap.empty.insert (Cached.ref a) a, synced := true } ∧
      ∀ h, c'.lane h = (c.lane h).addAll
        (((keysFor s (Stored.notice (.added a))).filter fun key => key.1 = h).map
          Prod.snd) := by
  have hlive : ∀ i : Informer α, (c.cluster.setInformer i).IsLive := fun _ =>
    ⟨hc.cluster.live.holding, hc.cluster.live.watching, hc.cluster.live.transient⟩
  let i₁ : Informer α := { seen := some [] }
  let i₂ : Informer α := {
    listing := SortedMap.empty.insert (Cached.ref a) a
    seen := some [Cached.ref a]
    held := [.added a] }
  let after (i : Informer α) (heard : List Notice) : Controller :=
    { c with cluster := c.cluster.setInformer i, heard }
  have hafter : ∀ i heard, ((after i heard).cluster.replica α).informer = i := fun i _ =>
    Cluster.informer_setInformer c.cluster i
  have hstart : Step c (after i₁ (c.heard ++ [])) := by
    have hstep := step_of_admits hdeliver hadmits (e := .listStart) hc.cluster.live
      hc.cluster.notices trivial
    rw [hempty] at hstep
    exact hstep
  have hitem : Step (after i₁ (c.heard ++ [])) (after i₂ (c.heard ++ [] ++ [])) := by
    have hstep := step_of_admits hdeliver hadmits (c := after i₁ (c.heard ++ []))
      (e := .listItem a) (hlive i₁) hc.cluster.notices (by
        rw [hafter]
        exact ⟨nofun, ha, nofun⟩)
    rw [hafter, show (after i₁ _).cluster = c.cluster.setInformer i₁ from rfl,
      Cluster.setInformer_setInformer] at hstep
    exact hstep
  have hend := step_of_admits hdeliver hadmits (c := after i₂ (c.heard ++ [] ++ []))
    (e := .listEnd) (hlive i₂) hc.cluster.notices (by
      rw [hafter]
      exact nofun)
  rw [hafter, show (after i₂ _).cluster = c.cluster.setInformer i₂ from rfl,
    Cluster.setInformer_setInformer] at hend
  have hkeys : (((i₂.step .listEnd).2.map Stored.notice).flatMap (keysFor c.settings)) =
      keysFor s (Stored.notice (.added a)) := by
    rw [← hc.settings]
    exact List.append_nil _
  refine ⟨_, ((Relation.ReflTransGen.single hstart).tail hitem).tail hend, ?_, ?_, ?_⟩
  · exact phase_addAll _
  · rw [cluster_addAll]
    rfl
  · intro h
    rw [lane_addAll, ← hkeys]
    cases h <;> rfl

end

end

/-- With filled caches the workers start at once. -/
theorem start_endListings_of_listed (hphase : c.phase = .created)
    (hlisted : ∀ kind, c.cluster.isListed kind = true) :
    c.start.endListings = { c with phase := .running } := by
  have hstart : c.start =
      { c with phase := .filling (c.now + c.settings.cacheSyncTimeout) } := by
    rw [start, hphase]
  rw [hstart]
  exact endListings_of_listed rfl hlisted

/-- A pass that asks for keys that are marked already changes nothing but its own
worker. -/
theorem lane_endPass_of_dirty {h : Handler} (h' : Handler) (key : String)
    {requeued : List String}
    (hknown : ∀ k ∈ requeued, h ≠ .remote ∧ k ∈ (c.lane .remote).queue.dirty) :
    (c.endPass h key (.ok requeued)).lane h' =
      if h' = h then { c.lane h with worker := .settling key (.ok ()) } else c.lane h' := by
  have hsame : ∀ h', (c.addAll (requeued.map fun k => (.remote, k))).lane h' = c.lane h' := by
    intro h'
    rw [lane_addAll]
    apply Lane.addAll_of_dirty
    intro k hk
    obtain ⟨⟨h'', k'⟩, hmem, rfl⟩ := List.mem_map.1 hk
    obtain ⟨hmem, hlane⟩ := List.mem_filter.1 hmem
    obtain ⟨k'', hrequeued, heq⟩ := List.mem_map.1 hmem
    obtain ⟨rfl, rfl⟩ := Prod.mk.inj heq
    obtain rfl : Handler.remote = h' := of_decide_eq_true hlane
    exact (hknown k'' hrequeued).2
  rw [endPass_eq, lane_setWorker]
  split
  · rw [show ((Except.ok requeued : Except Abort _).toOption.getD []) = requeued from rfl,
      hsame]
    rfl
  · exact hsame h'

/-- A key that is not marked again leaves nothing in a queue that had no other. -/
theorem isQuiet_afterPass {l : Lane} {key : String} (rest : Pass (List String))
    (hleased : l.queue.leased = []) (hdelayed : l.queue.delayed = []) :
    (((l.taking key [] rest).queue.afterPass key (.ok ())).release key).IsQuiet := by
  have hclean : ¬key ∈ (l.taking key [] rest).queue.dirty := fun hmem =>
    (WorkQueue.mem_without.1 hmem).2 rfl
  rw [WorkQueue.afterPass, WorkQueue.release, if_neg fun h => hclean h.2]
  refine ⟨rfl, ?_, hdelayed⟩
  simp [WorkQueue.forget, WorkQueue.without, Lane.taking, hleased]

/-- A pass for the only key of a lane that finds nothing to do leaves the lane
quiet. -/
theorem exists_run_of_idle_pass (hc : c.Sound s secrets) (hready : c.isReady) {h : Handler}
    {key : String} (hidle : (c.lane h).worker = .idle)
    (hpending : (c.lane h).queue.pending = [key])
    (hdelayed : (c.lane h).queue.delayed = []) {requeued : List String}
    {faults : Call → List (Option Fault)}
    (hperform : c.cluster.perform (Pass.sync s h key) =
      (.ok requeued, c.cluster.facing faults))
    (hknown : ∀ k ∈ requeued, h ≠ .remote ∧ k ∈ (c.lane .remote).queue.dirty) :
    ∃ c', Run c c' ∧ c'.isReady ∧
      (∃ metrics, c'.cluster = { c.cluster.facing faults with metrics }) ∧
      (c'.lane h).queue.IsQuiet ∧ ∀ h', h' ≠ h → c'.lane h' = c.lane h' := by
  set taken := (c.lane h).taking key [] (Pass.sync s h key) with htaken
  set c₁ := c.setLane h taken with hc₁
  set c₂ := ({ c₁ with cluster := c.cluster.facing faults } : Controller).endPass h key
    (.ok requeued) with hc₂
  have hlease : c.lease h = c₁ := by
    rw [lease_of_pending (hc.isOpen h) hpending, hc.settings]
  have hrun : c₁.runPass h key (Pass.sync s h key) = c₂ := by
    rw [runPass, hc₁, cluster_setLane, hperform]
    exact congrArg (endPass · h key (.ok requeued)) (hear_of_silent hc.cluster.notices)
  have hlane : ∀ h', c₂.lane h' =
      if h' = h then { taken with worker := .settling key (.ok ()) } else c.lane h' := by
    intro h'
    rw [hc₂, lane_endPass_of_dirty]
    · simp only [lane_setCluster, hc₁, lane_setLane, if_true]
      split <;> rfl
    · intro k hk
      obtain ⟨hne, hdirty⟩ := hknown k hk
      refine ⟨hne, ?_⟩
      rw [lane_setCluster, hc₁, lane_setLane, if_neg hne.symm]
      exact hdirty
  have hworker : (c₂.lane h).worker = .settling key (.ok ()) := by
    rw [hlane, if_pos rfl]
  obtain ⟨metrics, hsettle⟩ := c₂.settle_eq h key (.ok ())
  refine ⟨c₂.settle h key (.ok ()), ?_, ?_, ⟨metrics, ?_⟩, ?_, fun h' hne => ?_⟩
  · have hleased : Run c c₁ := .single (hlease ▸ .lease (hasWorkers_of_isReady hready) hidle)
    have hpassed : Run c₁ c₂ := by
      rw [← hrun]
      apply run_runPass (hlease ▸ hc.lease hidle)
      rw [hc₁, lane_setLane, if_pos rfl]
      rfl
    exact (hleased.trans hpassed).tail (.settle hworker)
  · rw [isReady, phase_settle, hc₂, phase_endPass, hc₁, phase_setLane]
    exact hready
  · rw [hsettle, cluster_setLane, hc₂, cluster_endPass]
  · rw [hsettle, lane_setLane, if_pos rfl, hlane, if_pos rfl]
    exact isQuiet_afterPass (Pass.sync s h key) ((hc.lanes h).leased_of_idle hidle) hdelayed
  · rw [hsettle, lane_setLane, if_neg hne, lane_setCluster, hlane, if_neg hne]

/-- Where everything is as it should be, the pass for the only key of a lane
leaves the lane quiet and changes nothing else. -/
theorem exists_run_of_current (hc : c.Sound s secrets) (hready : c.isReady)
    (hcurrent : c.cluster.IsCurrent s) {h : Handler} {key : String} {name : NamespacedName}
    (hkey : NamespacedName.ofString? key = some name)
    (hidle : (c.lane h).worker = .idle) (hpending : (c.lane h).queue.pending = [key])
    (hdelayed : (c.lane h).queue.delayed = [])
    (hknown : h = .gateway → ∀ r ∈ c.cluster.allCached Remote,
      r.metadata.key.toString ∈ (c.lane .remote).queue.dirty) :
    ∃ c', Run c c' ∧ c'.isReady ∧ c'.cluster.IsCurrent s ∧
      c'.cluster.caches = c.cluster.caches ∧ c'.cluster.held = c.cluster.held ∧
      (c'.lane h).queue.IsQuiet ∧ ∀ h', h' ≠ h → c'.lane h' = c.lane h' := by
  obtain ⟨requeued, faults, hcurrent', hperform, hasked⟩ :=
    Cluster.perform_sync_of_current hcurrent h hkey
  obtain ⟨c', hrun, hready', ⟨metrics, hcluster⟩, hquiet, hother⟩ :=
    exists_run_of_idle_pass hc hready hidle hpending hdelayed hperform fun k hk => by
      obtain ⟨rfl, r, hr, rfl⟩ := hasked k hk
      exact ⟨by decide, hknown rfl r hr⟩
  refine ⟨c', hrun, hready', ?_, ?_, ?_, hquiet, hother⟩
  · rw [hcluster]
    exact ⟨hcurrent'.document, hcurrent'.status, hcurrent'.spares⟩
  · rw [hcluster]
    rfl
  · rw [hcluster]
    rfl

end Controller

/-! ## One Remote -/

namespace Installation

/-- An object of a namespace and a name, at the first version. -/
def metadata (ns name : String) : Metadata :=
  { ns := some ns, name := some name, resourceVersion := some (Cached.versionText 1) }

theorem isFit_of_metadata {α : Type} [Cached α] {a : α} {ns name : String}
    (hmetadata : Cached.metadata a = metadata ns name) (hns : NamespacedName.IsPlain ns)
    (hname : NamespacedName.IsPlain name) : Cached.IsFit 1 a where
  legible := ⟨ns, name, by rw [hmetadata]; rfl, by rw [hmetadata]; rfl, hns, hname⟩
  issued n hn := by
    rw [Cached.version?, hmetadata] at hn
    exact (Cached.versionText_inj (Option.some.inj hn)).ge

def configMap (text : String) : ConfigMap :=
  Document.putInto { metadata := metadata "kube-system" "gitkube-ci-conf" } text

def deployment : Deployment := { metadata := metadata "kube-system" "gitkubed" }

def service : Service := { metadata := metadata "kube-system" "gitkubed" }

def remote (status : Option RemoteStatus) : Remote :=
  { metadata := metadata "default" "app", spec := {}, status }

def replicaOf {α : Type} [Cached α] (a : α) : Replica α where
  server := SortedMap.empty.insert (Cached.key a).path a

def informerOf {α : Type} [Cached α] (a : α) : Informer α where
  store := SortedMap.empty.insert (Cached.ref a) a
  synced := true

/-- The server holds the gateway's objects and a Remote, and no watch has
reported anything. -/
def cluster (r : Remote) (m : ConfigMap) : Cluster where
  remotes := replicaOf r
  configMaps := replicaOf m
  deployments := replicaOf deployment
  services := replicaOf service
  version := 1
  holding := true

/-- The caches show what the server holds. -/
def listed (r : Remote) (m : ConfigMap) : Cluster :=
  ((((cluster r m).setInformer (informerOf r)).setInformer (informerOf m)).setInformer
    (informerOf deployment)).setInformer (informerOf service)

theorem find?_listed {α : Type} [Cached α] (a : α) :
    Store.find? (informerOf a).store (Cached.ref a) = some a := by
  rw [Store.find?, informerOf, SortedMap.get?_insert, if_pos rfl]
  rfl

theorem cached?_listed (r : Remote) (text : String) :
    let c := listed r (configMap text)
    c.cached? ConfigMap ⟨"kube-system", "gitkube-ci-conf"⟩ = some (configMap text) ∧
      c.cached? Deployment ⟨"kube-system", "gitkubed"⟩ = some deployment ∧
      c.cached? Service ⟨"kube-system", "gitkubed"⟩ = some service :=
  ⟨find?_listed (configMap text), find?_listed deployment, find?_listed service⟩

/-- A cache that was filled by a listing shows what the server holds. -/
theorem isLevel_listed {α : Type} [Cached α] (a : α) :
    Replica.IsLevel { replicaOf a with informer := informerOf a } where
  unlisted := rfl
  agrees ref b hget := by
    change (SortedMap.empty.insert (Cached.ref a) a).get? ref = some b at hget
    change (SortedMap.empty.insert (Cached.key a).path a).get? (Cached.key b).path = some b
    rw [SortedMap.get?_insert] at hget ⊢
    split at hget
    · obtain rfl := Option.some.inj hget
      exact if_pos rfl
    · cases hget

theorem isLevel_cluster (r : Remote) (text : String) :
    (listed r (configMap text)).IsLevel {} where
  remotes := isLevel_listed r
  configMaps := isLevel_listed (configMap text)
  deployments := isLevel_listed deployment
  services := isLevel_listed service
  configMap := by rw [(cached?_listed r text).1]; rfl
  deployment := by rw [(cached?_listed r text).2.1]; rfl
  service := by rw [(cached?_listed r text).2.2]; rfl
  held := rfl
  spares := nofun

/-- The keys that the listings bring up. -/
def key : Handler → String
  | .remote => "default/app"
  | .configMap => "kube-system/gitkube-ci-conf"
  | .gateway => "kube-system/gitkubed"

theorem isFresh_cluster (r : Remote) (m : ConfigMap) : (cluster r m).IsFresh where
  remotes := rfl
  configMaps := rfl
  deployments := rfl
  services := rfl
  held := rfl
  notices := rfl
  live := ⟨rfl, fun _ => rfl, nofun⟩

open Controller in
/-- The workers start with one key in every lane. -/
theorem exists_run_listed (status : Option RemoteStatus) (text : String) :
    ∃ c, Run (create {} (cluster (remote status) (configMap text))) c ∧ c.isReady ∧
      c.cluster = listed (remote status) (configMap text) ∧
      ∀ h, (c.lane h).queue.pending = [key h] ∧ (c.lane h).queue.dirty = [key h] ∧
        (c.lane h).queue.delayed = [] ∧ (c.lane h).worker = .idle := by
  have hfresh := isFresh_cluster (remote status) (configMap text)
  have hsound : ∀ {c}, Run (create {} (cluster (remote status) (configMap text))) c →
      c.phase = .created → c.Sound {} .empty := fun hrun hphase =>
    Run.sound hfresh hrun (by rw [isUp, hphase])
  obtain ⟨c₁, hrun₁, hphase₁, hcluster₁, hlane₁⟩ := exists_run_of_listing
    (fun _ _ => rfl) (fun _ _ => id) (a := remote status) (hsound .refl rfl) rfl
    (isFit_of_metadata rfl (by decide) (by decide))
  obtain ⟨c₂, hrun₂, hphase₂, hcluster₂, hlane₂⟩ := exists_run_of_listing
    (fun _ _ => rfl) (fun _ _ => id) (a := configMap text) (hsound hrun₁ hphase₁)
    (by rw [hcluster₁]; rfl)
    (by rw [hcluster₁]; exact isFit_of_metadata rfl (by decide) (by decide))
  have hrun₂ := hrun₁.trans hrun₂
  have hphase₂ := hphase₂.trans hphase₁
  rw [hcluster₁] at hcluster₂
  obtain ⟨c₃, hrun₃, hphase₃, hcluster₃, hlane₃⟩ := exists_run_of_listing
    (fun _ _ => rfl) (fun _ _ => id) (a := deployment) (hsound hrun₂ hphase₂)
    (by rw [hcluster₂]; rfl)
    (by rw [hcluster₂]; exact isFit_of_metadata rfl (by decide) (by decide))
  have hrun₃ := hrun₂.trans hrun₃
  have hphase₃ := hphase₃.trans hphase₂
  rw [hcluster₂] at hcluster₃
  obtain ⟨c₄, hrun₄, hphase₄, hcluster₄, hlane₄⟩ := exists_run_of_listing
    (fun _ _ => rfl) (fun _ _ => id) (a := service) (hsound hrun₃ hphase₃)
    (by rw [hcluster₃]; rfl)
    (by rw [hcluster₃]; exact isFit_of_metadata rfl (by decide) (by decide))
  have hrun₄ := hrun₃.trans hrun₄
  have hphase₄ := hphase₄.trans hphase₃
  rw [hcluster₃] at hcluster₄
  have hstarted := start_endListings_of_listed hphase₄ fun kind => by
    rw [hcluster₄]
    cases kind <;> rfl
  refine ⟨c₄.start.endListings, (hrun₄.tail (.move .start)).tail (.move .endListings), ?_, ?_,
    fun h => ?_⟩
  · rw [hstarted]
    rfl
  · rw [hstarted]
    exact hcluster₄
  · have hlane : ({ c₄ with phase := .running } : Controller).lane h = c₄.lane h := by
      cases h <;> rfl
    rw [hstarted, hlane, hlane₄, hlane₃, hlane₂, hlane₁]
    cases h with
    | remote => exact ⟨rfl, rfl, rfl, rfl⟩
    | configMap => exact ⟨rfl, rfl, rfl, rfl⟩
    | gateway => exact ⟨rfl, rfl, rfl, rfl⟩

/-- The Remote with the right status. -/
def published : Remote := remote (some ((remote none).statusBehind service))

def text : String := (Document.ofRemotes (fun _ => none) [published]).render

open Controller in
/-- Where everything is as it should be, a run comes to rest with the caches as
they were listed. -/
theorem exists_run_quiet :
    ∃ c, Run (create {} (cluster published (configMap text))) c ∧ c.isReady ∧ c.IsQuiet ∧
      c.cluster.caches = (listed published (configMap text)).caches := by
  have hfresh := isFresh_cluster published (configMap text)
  obtain ⟨c₀, hrun₀, hready₀, hcluster₀, hlane₀⟩ :=
    exists_run_listed published.status text
  have hsound : ∀ {c}, Run (create {} (cluster published (configMap text))) c → c.isReady →
      c.Sound {} .empty := fun hrun hready =>
    Run.sound hfresh hrun (isUp_of_isReady hready)
  have hcurrent₀ : c₀.cluster.IsCurrent {} := by
    rw [hcluster₀]
    obtain ⟨hconfigMap, hdeployment, hservice⟩ := cached?_listed published text
    refine ⟨⟨_, _, hconfigMap, hdeployment, ?_, ?_⟩, ⟨_, hservice, ?_⟩, nofun⟩
    · exact Document.differs_eq_false_iff.2
        ⟨_, Document.stored?_putInto _ _, rfl⟩
    · rintro ⟨recorded, hrecorded, -⟩
      cases hrecorded
    · intro r' hr'
      obtain rfl := List.mem_singleton.1 hr'
      rfl
  -- the gateway's pass asks for the Remote's, whose key is pending already
  obtain ⟨c₁, hrun₁, hready₁, hcurrent₁, hcaches₁, hheld₁, hquiet₁, hother₁⟩ :=
    exists_run_of_current (h := .gateway) (hsound hrun₀ hready₀) hready₀ hcurrent₀
      (show NamespacedName.ofString? (key .gateway) = _ from rfl)
      (hlane₀ .gateway).2.2.2 (hlane₀ .gateway).1 (hlane₀ .gateway).2.2.1 (by
        intro _ r' hr'
        rw [hcluster₀] at hr'
        obtain rfl := List.mem_singleton.1 hr'
        rw [(hlane₀ .remote).2.1]
        exact List.mem_singleton_self _)
  have hrun₁ := hrun₀.trans hrun₁
  obtain ⟨c₂, hrun₂, hready₂, hcurrent₂, hcaches₂, hheld₂, hquiet₂, hother₂⟩ :=
    exists_run_of_current (h := .configMap) (hsound hrun₁ hready₁) hready₁ hcurrent₁
      (show NamespacedName.ofString? (key .configMap) = _ from rfl)
      (by rw [hother₁ _ (by decide)]; exact (hlane₀ .configMap).2.2.2)
      (by rw [hother₁ _ (by decide)]; exact (hlane₀ .configMap).1)
      (by rw [hother₁ _ (by decide)]; exact (hlane₀ .configMap).2.2.1) nofun
  have hrun₂ := hrun₁.trans hrun₂
  obtain ⟨c₃, hrun₃, hready₃, hcurrent₃, hcaches₃, hheld₃, hquiet₃, hother₃⟩ :=
    exists_run_of_current (h := .remote) (hsound hrun₂ hready₂) hready₂ hcurrent₂
      (show NamespacedName.ofString? (key .remote) = _ from rfl)
      (by rw [hother₂ _ (by decide), hother₁ _ (by decide)]; exact (hlane₀ .remote).2.2.2)
      (by rw [hother₂ _ (by decide), hother₁ _ (by decide)]; exact (hlane₀ .remote).1)
      (by rw [hother₂ _ (by decide), hother₁ _ (by decide)]; exact (hlane₀ .remote).2.2.1)
      nofun
  have hrun₃ := hrun₂.trans hrun₃
  have hcaches : c₃.cluster.caches = (listed published (configMap text)).caches := by
    rw [hcaches₃, hcaches₂, hcaches₁, hcluster₀]
    rfl
  have hquiet : c₃.IsQuiet := by
    refine ⟨fun h => ?_, ?_⟩
    · cases h with
      | remote => exact hquiet₃
      | configMap =>
          rw [hother₃ _ (by decide)]
          exact hquiet₂
      | gateway =>
          rw [hother₃ _ (by decide), hother₂ _ (by decide)]
          exact hquiet₁
    · rw [hheld₃, hheld₂, hheld₁, hcluster₀]
      rfl
  exact ⟨c₃, hrun₃, hready₃, hquiet, hcaches⟩

end Installation

end GatewaySync
