import GatewaySync.Proofs.Duties
import GatewaySync.Proofs.Mirroring

/-!
# Passes in any order

Where the caches agree with the server and nothing fails, a run of passes leaves
the same behind in whatever order they come, with as many writes of each kind,
and running any of them again writes nothing.  For each pass does its duties and
nothing else, whatever the clock shows, and duties may be done in any order.
-/

namespace GatewaySync

namespace Cluster

variable {s : Settings} {c c' : Cluster}

/-- What the cluster gives passes to read. -/
def backdrop (s : Settings) (c : Cluster) : Backdrop where
  text := c.documentText
  remote? name := (c.cached? Remote name).map Cached.ref
  status? ref :=
    if (c.cached? ConfigMap ⟨s.ns, s.configMap⟩).isSome ∧
        (c.cached? Deployment ⟨s.ns, s.deployment⟩).isSome then
      (c.cached? Service ⟨s.ns, s.service⟩).bind fun gateway =>
        (c.remotes.informer.store.get? ref).map fun r => r.statusBehind gateway
    else none

def summary (s : Settings) (c : Cluster) : Summary where
  configMap? := (c.cached? ConfigMap ⟨s.ns, s.configMap⟩).map fun a => { a with metadata := {} }
  rolledFor? := (c.cached? Deployment ⟨s.ns, s.deployment⟩).map Deployment.rolledFor?
  statuses ref := (c.remotes.informer.store.get? ref).map Remote.status
  written kind := (c.writes.map Write.kind).count kind

/-- The cluster has come to what a summary says, by writes that were echoed. -/
structure Reaches (s : Settings) (c : Cluster) (m : Summary) (c' : Cluster) : Prop where
  mirrored : c'.IsMirrored
  backdrop : c'.backdrop s = c.backdrop s
  summary : c'.summary s = m
  services : c'.services = c.services
  writes : c.writes <+: c'.writes

theorem Reaches.trans {m m' : Summary} {c'' : Cluster} (hfirst : c.Reaches s m c')
    (hthen : c'.Reaches s m' c'') : c.Reaches s m' c'' where
  mirrored := hthen.mirrored
  backdrop := hthen.backdrop.trans hfirst.backdrop
  summary := hthen.summary
  services := hthen.services.trans hfirst.services
  writes := hfirst.writes.trans hthen.writes

theorem reaches_setClock (hc : c.IsMirrored) (clock : Int) :
    c.Reaches s (c.summary s) { c with clock } where
  mirrored := { hc with }
  backdrop := rfl
  summary := rfl
  services := rfl
  writes := List.prefix_refl _

theorem Reaches.refl (hc : c.IsMirrored) : c.Reaches s (c.summary s) c :=
  reaches_setClock hc c.clock

theorem Reaches.of_facing {m : Summary} {faults : Call → List (Option Fault)}
    (hreaches : (c.facing faults).Reaches s m c') : c.Reaches s m c' := { hreaches with }

theorem Reaches.count {m : Summary} (hreaches : c.Reaches s m c') (series : Series) :
    c.Reaches s m (c'.count series) :=
  { hreaches with mirrored := { hreaches.mirrored with } }

/-! ## The writes of a pass -/

/-- What passes read depends on the Remotes, the Services and the secrets, and on
whether the gateway's other objects are there. -/
theorem backdrop_congr (hremotes : c'.replica Remote = c.replica Remote)
    (hservices : c'.replica Service = c.replica Service) (hsecrets : c'.secrets = c.secrets)
    (hconfigMap : (c'.cached? ConfigMap ⟨s.ns, s.configMap⟩).isSome =
      (c.cached? ConfigMap ⟨s.ns, s.configMap⟩).isSome)
    (hdeployment : (c'.cached? Deployment ⟨s.ns, s.deployment⟩).isSome =
      (c.cached? Deployment ⟨s.ns, s.deployment⟩).isSome) :
    c'.backdrop s = c.backdrop s := by
  have hstore : c'.remotes.informer.store = c.remotes.informer.store :=
    congrArg (fun r => r.informer.store) hremotes
  simp only [backdrop, documentText, allCached, cached?_congr hremotes, cached?_congr hservices,
    hremotes, hstore, hsecrets, hconfigMap, hdeployment]

theorem count_kind_append (ws : List Write) (w : Write) :
    (fun kind => ((ws ++ [w]).map Write.kind).count kind) =
      fun kind => (ws.map Write.kind).count kind + if kind = w.kind then 1 else 0 := by
  funext kind
  rw [List.map_append, List.count_append, List.map_singleton, List.count_singleton]
  simp only [beq_iff_eq, eq_comm (a := kind)]

section Writes

variable (hc : c.IsMirrored)
include hc

/-- The ConfigMap is written with another text in it. -/
theorem reaches_putInto {a : ConfigMap}
    (hcached : c.cached? ConfigMap ⟨s.ns, s.configMap⟩ = some a) (text : String) :
    let c' := c.accept (Document.putInto a text) .configMap
    c'.remotes = c.remotes ∧ c'.deployments = c.deployments ∧ c.Reaches s
      { c.summary s with
        configMap? := some (Document.putInto { a with metadata := {} } text)
        written kind := (c.summary s).written kind + if kind = .configMap then 1 else 0 } c' := by
  obtain ⟨hmirrored, htaken⟩ := cached?_accept hc hc.configMaps hcached
    (a := Document.putInto a text) rfl .configMap
  rw [accept_of_echoing hc.echoing hc.watching] at hmirrored htaken ⊢
  refine ⟨rfl, rfl, { hc with configMaps := hmirrored }, ?_, ?_, rfl, List.prefix_append _ _⟩
  · refine backdrop_congr rfl rfl rfl ?_ rfl
    rw [htaken, hcached]
    rfl
  · exact Summary.ext (congrArg (Option.map _) htaken) rfl rfl (count_kind_append _ _)

/-- The gateway is restarted for another document. -/
theorem reaches_restarted {d : Deployment}
    (hcached : c.cached? Deployment ⟨s.ns, s.deployment⟩ = some d) (hash : String) (now : Int) :
    let c' := c.accept (d.restarted hash now) .deployment
    c'.remotes = c.remotes ∧ c.Reaches s
      { c.summary s with
        rolledFor? := some (some hash)
        written kind := (c.summary s).written kind + if kind = .deployment then 1 else 0 } c' := by
  obtain ⟨hmirrored, htaken⟩ := cached?_accept hc hc.deployments hcached
    (a := d.restarted hash now) rfl .deployment
  have hrolled : (c.stamp (d.restarted hash now)).1.rolledFor? = some hash :=
    d.rolledFor?_restarted hash now
  rw [accept_of_echoing hc.echoing hc.watching] at hmirrored htaken ⊢
  refine ⟨rfl, { hc with deployments := hmirrored }, ?_, ?_, rfl, List.prefix_append _ _⟩
  · refine backdrop_congr rfl rfl rfl rfl ?_
    rw [htaken, hcached]
    rfl
  · refine Summary.ext rfl ?_ rfl (count_kind_append _ _)
    rw [← hrolled]
    exact congrArg (Option.map _) htaken

/-- The document does not depend on the status or the version of a Remote, nor
does the status that it ought to show. -/
theorem reaches_withStatus {r : Remote} {name : NamespacedName}
    (hcached : c.cached? Remote name = some r) {status : RemoteStatus}
    (hwrong : r.status ≠ some status) :
    c.Reaches s ((c.summary s).setStatus (Cached.ref r) status)
      (c.accept { r with status := some status } .status) := by
  obtain ⟨hmirrored, -⟩ := cached?_accept hc hc.remotes hcached
    (a := { r with status := some status }) rfl .status
  have hold : c.remotes.informer.store.get? (Cached.ref r) = some r :=
    get?_of_cached? hc.remotes hcached
  rw [accept_of_echoing hc.echoing hc.watching] at hmirrored ⊢
  set r' := (c.stamp { r with status := some status }).1 with hr'
  have href : Cached.ref r' = Cached.ref r := rfl
  refine ⟨{ hc with remotes := hmirrored }, ?_, ?_, rfl, List.prefix_append _ _⟩
  · refine Backdrop.ext ?_ ?_ ?_
    · exact congrArg Document.render
        (Document.ofRemotes_values_insert c.secrets.get? hold rfl rfl)
    · funext name'
      exact Store.map_find?_insert Cached.ref hold href _
    · funext ref
      refine if_congr Iff.rfl (congrArg (Option.bind _) (funext fun gateway => ?_)) rfl
      have hbehind : r'.statusBehind gateway = r.statusBehind gateway := rfl
      exact SortedMap.map_get?_insert (fun r : Remote => r.statusBehind gateway) hold hbehind ref
  · refine Summary.ext rfl rfl ?_ ?_
    · funext ref
      change ((c.remotes.informer.store.insert (Cached.ref r) r').get? ref).map Remote.status =
        Function.update (c.summary s).statuses (Cached.ref r) _ ref
      rw [SortedMap.get?_insert, Function.update_apply]
      split
      case isTrue =>
        simp only [summary, hold, Option.map_some]
        rfl
      case isFalse => rfl
    · have hdue : ((c.summary s).statuses (Cached.ref r)).any (· != some status) = true := by
        simpa [summary, hold] using hwrong
      refine (count_kind_append _ _).trans ?_
      simp only [Summary.setStatus, hdue, true_and]
      rfl

/-- A restart meets no obstacle. -/
theorem exists_restart_reaches {d : Deployment}
    (hcached : c.cached? Deployment ⟨s.ns, s.deployment⟩ = some d) (hash : String) :
    ∃ c', c.restart d hash = (.ok (), c') ∧ c'.remotes = c.remotes ∧ c.Reaches s
      { c.summary s with
        rolledFor? := some (some hash)
        written kind := (c.summary s).written kind + if kind = .deployment then 1 else 0 } c' := by
  obtain ⟨faults, hfacing, htaken⟩ := attempt_of_isMirrored hc hc.deployments hcached
    (a := d.restarted hash c.clock) rfl .replaceDeployment .deployment
  obtain ⟨hremotes, hreaches⟩ :=
    reaches_restarted (s := s) (c := c.facing faults) hfacing hcached hash c.clock
  have hrestart : c.restart d hash = (.ok (), ((c.facing faults).accept
      (d.restarted hash c.clock) .deployment).count .gatewayRestarts) := by
    rw [restart, htaken]
  exact ⟨_, hrestart, hremotes, (Reaches.of_facing hreaches).count _⟩

end Writes

/-! ## Passes do their duties -/

theorem duties_remote {key : String} {name : NamespacedName} {r : Remote}
    (hkey : NamespacedName.ofString? key = some name) (hcached : c.cached? Remote name = some r) :
    (c.backdrop s).duties s (.remote, key) = [.document, .status (Cached.ref r)] := by
  simp [Backdrop.duties, hkey, backdrop, hcached]

/-- Where the gateway's other objects are there, its Service decides the status of
a cached Remote. -/
theorem status?_backdrop {r : Remote}
    (hcached : c.remotes.informer.store.get? (Cached.ref r) = some r)
    (hobjects : (c.cached? ConfigMap ⟨s.ns, s.configMap⟩).isSome ∧
      (c.cached? Deployment ⟨s.ns, s.deployment⟩).isSome) :
    (c.backdrop s).status? (Cached.ref r) =
      (c.cached? Service ⟨s.ns, s.service⟩).map r.statusBehind := by
  refine (if_pos hobjects).trans ?_
  rw [hcached]
  cases c.cached? Service ⟨s.ns, s.service⟩ <;> rfl

section Passes

variable {a : ConfigMap} {d : Deployment} (hc : c.IsMirrored)
include hc

theorem exists_publish_reaches
    (hconfigMap : c.cached? ConfigMap ⟨s.ns, s.configMap⟩ = some a)
    (hdeployment : c.cached? Deployment ⟨s.ns, s.deployment⟩ = some d) (text : String) :
    ∃ changed c', c.perform (Pass.publish a d text) = (.ok changed, c') ∧
      c'.remotes = c.remotes ∧ c.Reaches s ((c.summary s).publish text) c' := by
  have hbare : Document.differs { a with metadata := {} } text = Document.differs a text := rfl
  cases hdiffers : Document.differs a text with
  | false =>
      by_cases hbehind : d.IsBehind (Document.contentHash text)
      · obtain ⟨c', hrestart, hremotes, hreaches⟩ :=
          exists_restart_reaches hc hdeployment (Document.contentHash text)
        refine ⟨false, c', ?_, hremotes, ?_⟩
        · rw [perform_publish_behind c hdiffers hbehind, hrestart]
        · have hany := Deployment.isBehind_iff.1 hbehind
          simpa [Summary.publish, summary, hconfigMap, hdeployment, hbare, hdiffers, hany]
            using hreaches
      · refine ⟨false, c, perform_publish_current c hdiffers hbehind, rfl, ?_⟩
        have hany : d.rolledFor?.any (· != Document.contentHash text) = false := by
          rw [Deployment.isBehind_iff] at hbehind
          exact Bool.eq_false_iff.2 hbehind
        have hsame := Reaches.refl (s := s) hc
        simpa [Summary.publish, summary, hconfigMap, hdeployment, hbare, hdiffers, hany]
          using hsame
  | true =>
      obtain ⟨faults, hfacing, htaken⟩ := attempt_of_isMirrored hc hc.configMaps hconfigMap
        (a := Document.putInto a text) rfl .replaceConfigMap .configMap
      obtain ⟨hremotes, hdeployments, hput⟩ :=
        reaches_putInto (s := s) (c := c.facing faults) hfacing hconfigMap text
      set c₁ := ((c.facing faults).accept (Document.putInto a text) .configMap).count
        .documentWrites with hc₁
      have hsummary : (c.facing faults).summary s = c.summary s := rfl
      rw [hsummary] at hput
      have hfirst := (Reaches.of_facing hput).count .documentWrites
      have hreplica : c₁.replica Deployment = c.replica Deployment := hdeployments
      have hdeployment₁ : c₁.cached? Deployment ⟨s.ns, s.deployment⟩ = some d :=
        (cached?_congr hreplica _).trans hdeployment
      obtain ⟨c', hrestart, hremotes', hthen⟩ :=
        exists_restart_reaches hfirst.mirrored hdeployment₁ (Document.contentHash text)
      refine ⟨true, c', ?_, hremotes'.trans hremotes, ?_⟩
      · rw [perform_publish_changed c hdiffers, htaken]
        dsimp only
        rw [hrestart]
      · have hboth := hfirst.trans hthen
        rw [hfirst.summary] at hboth
        simpa [Summary.publish, summary, hconfigMap, hdeployment, hbare, hdiffers] using hboth

/-- A pass for the document publishes it, or fails where the gateway's objects are
not there. -/
theorem reaches_syncDocument :
    ∃ result c', c.perform (Pass.syncDocument s) = (result, c') ∧ c'.remotes = c.remotes ∧
      c.Reaches s ((c.summary s).publish c.documentText) c' ∧
      ((∃ changed, result = .ok changed) ↔
        (c.cached? ConfigMap ⟨s.ns, s.configMap⟩).isSome ∧
          (c.cached? Deployment ⟨s.ns, s.deployment⟩).isSome) := by
  have hconfigMap := c.perform_gatewayObject ConfigMap ⟨s.ns, s.configMap⟩
  have hdeployment := c.perform_gatewayObject Deployment ⟨s.ns, s.deployment⟩
  have hsame := Reaches.refl (s := s) hc
  cases hfirst : c.cached? ConfigMap ⟨s.ns, s.configMap⟩ with
  | none =>
      rw [hfirst] at hconfigMap
      refine ⟨_, c, perform_bind_error hconfigMap, rfl, ?_, by simp⟩
      simpa [Summary.publish, summary, hfirst] using hsame
  | some a =>
      cases hsecond : c.cached? Deployment ⟨s.ns, s.deployment⟩ with
      | none =>
          rw [hfirst] at hconfigMap
          rw [hsecond] at hdeployment
          refine ⟨_, c, (perform_bind_ok hconfigMap).trans (perform_bind_error hdeployment), rfl,
            ?_, by simp⟩
          simpa [Summary.publish, summary, hfirst, hsecond] using hsame
      | some d =>
          obtain ⟨faults, hkeep, hsync⟩ :=
            perform_syncDocument_of_spares hfirst hsecond (hc.spares _)
          obtain ⟨changed, c', hpublish, hremotes, hreaches⟩ := exists_publish_reaches
            (c := c.facing faults) (hc.facing hkeep) hfirst hsecond c.documentText
          exact ⟨_, c', hsync.trans hpublish, hremotes, hreaches.of_facing,
            by simp⟩

/-- The status is published where it can be told, if the Remote shows another one. -/
theorem reaches_status {r : Remote} {name : NamespacedName}
    (hcached : c.cached? Remote name = some r)
    (hstatus : (c.backdrop s).status? (Cached.ref r) =
      (c.cached? Service ⟨s.ns, s.service⟩).map r.statusBehind) :
    ∃ result c', c.perform (do
        let status := r.statusBehind (← Pass.gatewayService s)
        if r.status ≠ some status then
          Pass.patchStatus r status
          Pass.count (.statusUpdates name.ns name.name)) = (result, c') ∧
      c.Reaches s ((c.summary s).fulfil (c.backdrop s) (.status (Cached.ref r))) c' := by
  have hsame := Reaches.refl (s := s) hc
  have hservice := c.perform_gatewayObject Service ⟨s.ns, s.service⟩
  cases hgateway : c.cached? Service ⟨s.ns, s.service⟩ with
  | none =>
      rw [hgateway] at hservice hstatus
      refine ⟨_, c, perform_bind_error hservice, ?_⟩
      simpa only [Summary.fulfil, hstatus, Option.map_none] using hsame
  | some gateway =>
      rw [hgateway] at hservice hstatus
      rw [Pass.gatewayService, perform_bind_ok hservice]
      simp only [Summary.fulfil, hstatus, Option.map_some]
      by_cases hright : r.status = some (r.statusBehind gateway)
      · have hshown : (c.summary s).statuses (Cached.ref r) =
            some (some (r.statusBehind gateway)) := by
          rw [← hright]
          exact congrArg (Option.map Remote.status) (get?_of_cached? hc.remotes hcached)
        refine ⟨.ok (), c, by simp [hright], ?_⟩
        rw [Summary.setStatus_of_eq hshown]
        exact hsame
      · obtain ⟨faults, hfacing, htaken⟩ := attempt_of_isMirrored hc hc.remotes hcached
          (a := { r with status := some (r.statusBehind gateway) }) rfl .patchStatus .status
        rw [← perform_patchStatus] at htaken
        have hwritten := reaches_withStatus (s := s) (c := c.facing faults) hfacing hcached hright
        refine ⟨.ok (), _, ?_,
          (Reaches.of_facing hwritten).count (.statusUpdates name.ns name.name)⟩
        rw [if_pos hright, perform_bind_ok htaken, perform_count]

/-- A pass for a cached Remote publishes the document and the Remote's status, as
far as it gets. -/
theorem reaches_syncRemote_of_cached {key : String} {name : NamespacedName} {r : Remote}
    (hkey : NamespacedName.ofString? key = some name) (hcached : c.cached? Remote name = some r) :
    ∃ result c', c.perform (Pass.syncRemote s key) = (result, c') ∧ c.Reaches s
      (((c.summary s).publish c.documentText).fulfil (c.backdrop s) (.status (Cached.ref r)))
      c' := by
  obtain ⟨result, c', hdocument, hremotes, hpublished, hpresent⟩ :=
    reaches_syncDocument (s := s) hc
  rw [perform_syncRemote_of_cached hkey hcached]
  by_cases hobjects : (c.cached? ConfigMap ⟨s.ns, s.configMap⟩).isSome ∧
      (c.cached? Deployment ⟨s.ns, s.deployment⟩).isSome
  · obtain ⟨_, rfl⟩ := hpresent.2 hobjects
    have hreplica : c'.replica Remote = c.replica Remote := hremotes
    have hservices : c'.replica Service = c.replica Service := hpublished.services
    have hstatus : (c'.backdrop s).status? (Cached.ref r) =
        (c'.cached? Service ⟨s.ns, s.service⟩).map r.statusBehind := by
      rw [hpublished.backdrop, cached?_congr hservices]
      exact status?_backdrop (get?_of_cached? hc.remotes hcached) hobjects
    obtain ⟨result, c'', hrest, hshown⟩ := reaches_status hpublished.mirrored
      ((cached?_congr hreplica name).trans hcached) hstatus
    refine ⟨result, c'', (perform_bind_ok hdocument).trans hrest, ?_⟩
    rw [hpublished.backdrop, hpublished.summary] at hshown
    exact hpublished.trans hshown
  · cases result with
    | ok changed => exact absurd (hpresent.1 ⟨changed, rfl⟩) hobjects
    | error reason =>
        have hnone : (c.backdrop s).status? (Cached.ref r) = none := if_neg hobjects
        refine ⟨_, c', perform_bind_error hdocument, ?_⟩
        simpa only [Summary.fulfil, hnone] using hpublished

theorem reaches_syncRemote (key : String) :
    ∃ result c', c.perform (Pass.syncRemote s key) = (result, c') ∧ c.Reaches s
      (((c.backdrop s).duties s (.remote, key)).foldl (Summary.fulfil (c.backdrop s))
        (c.summary s)) c' := by
  have hparse := c.perform_parseKey key
  have hsame := Reaches.refl (s := s) hc
  cases hkey : NamespacedName.ofString? key with
  | none =>
      rw [hkey] at hparse
      refine ⟨_, c, perform_bind_error hparse, ?_⟩
      simpa [Backdrop.duties, hkey] using hsame
  | some name =>
      cases hcached : c.cached? Remote name with
      | none =>
          rw [hkey] at hparse
          have hnothing : c.perform (Pass.syncRemote s key) = (.ok (), c) := by
            rw [Pass.syncRemote, perform_bind_ok hparse, perform_bind_ok (perform_look c), hcached]
            rfl
          refine ⟨_, c, hnothing, ?_⟩
          simpa [Backdrop.duties, hkey, backdrop, hcached] using hsame
      | some r =>
          rw [duties_remote hkey hcached]
          exact reaches_syncRemote_of_cached hc hkey hcached

/-- A pass for a ConfigMap publishes the document if it is the gateway's. -/
theorem reaches_syncConfigMap (key : String) :
    ∃ result c', c.perform (Pass.syncConfigMap s key) = (result, c') ∧ c.Reaches s
      (((c.backdrop s).duties s (.configMap, key)).foldl (Summary.fulfil (c.backdrop s))
        (c.summary s)) c' := by
  have hparse := c.perform_parseKey key
  have hsame := Reaches.refl (s := s) hc
  cases hkey : NamespacedName.ofString? key with
  | none =>
      rw [hkey] at hparse
      refine ⟨_, c, perform_bind_error hparse, ?_⟩
      simpa [Backdrop.duties, hkey] using hsame
  | some name =>
      rw [hkey] at hparse
      rw [Pass.syncConfigMap, perform_bind_ok hparse]
      by_cases hname : name = ⟨s.ns, s.configMap⟩
      · obtain ⟨result, c', hdocument, -, hpublished, -⟩ := reaches_syncDocument (s := s) hc
        have hduties : (c.backdrop s).duties s (.configMap, key) = [.document] := by
          simp [Backdrop.duties, hkey, hname]
        rw [hduties, if_pos hname, perform_bind, hdocument]
        cases result with
        | ok _ => exact ⟨_, c', rfl, hpublished⟩
        | error reason => exact ⟨_, c', rfl, hpublished⟩
      · refine ⟨.ok (), c, by simp [hname], ?_⟩
        simpa [Backdrop.duties, hkey, hname] using hsame

theorem reaches_sync (h : Handler) (key : String) :
    c.Reaches s
      (((c.backdrop s).duties s (h, key)).foldl (Summary.fulfil (c.backdrop s)) (c.summary s))
      (c.perform (Pass.sync s h key)).2 := by
  cases h with
  | remote =>
      obtain ⟨result, c', hsync, hreaches⟩ := reaches_syncRemote (s := s) hc key
      rw [Pass.sync, perform_bind, hsync]
      cases result <;> exact hreaches
  | configMap =>
      obtain ⟨result, c', hsync, hreaches⟩ := reaches_syncConfigMap (s := s) hc key
      rw [Pass.sync, perform_bind, hsync]
      cases result <;> exact hreaches
  | gateway =>
      have hsame := Reaches.refl (s := s) hc
      have hparse := c.perform_parseKey key
      rw [Pass.sync, Pass.syncGateway, perform_bind, hparse]
      cases NamespacedName.ofString? key <;> exact hsame

end Passes

end Cluster

/-! ## Runs of passes -/

/-- A pass of a handler for a key, and what the clock shows while it runs. -/
structure Turn where
  pass : Handler × String
  clock : Int

namespace Cluster

variable {s : Settings} {c : Cluster}

/-- A pass is run to its end, whether or not it fails. -/
def runTurn (s : Settings) (c : Cluster) (turn : Turn) : Cluster :=
  ({ c with clock := turn.clock }.perform (Pass.sync s turn.pass.1 turn.pass.2)).2

def runTurns (s : Settings) (c : Cluster) (turns : List Turn) : Cluster :=
  turns.foldl (runTurn s) c

theorem IsMirrored.reaches_runTurns (hc : c.IsMirrored) (turns : List Turn) :
    c.Reaches s
      (((turns.map Turn.pass).flatMap ((c.backdrop s).duties s)).foldl
        (Summary.fulfil (c.backdrop s)) (c.summary s))
      (c.runTurns s turns) := by
  -- The backdrop stays that of the first cluster, so the duties of a pass do not
  -- depend on how many passes came before.
  induction turns generalizing c with
  | nil => exact Reaches.refl hc
  | cons turn rest ih =>
      have hfirst : c.Reaches s (((c.backdrop s).duties s turn.pass).foldl
          (Summary.fulfil (c.backdrop s)) (c.summary s)) (c.runTurn s turn) := by
        have hset := reaches_setClock (s := s) hc turn.clock
        exact hset.trans (reaches_sync hset.mirrored turn.pass.1 turn.pass.2)
      have hrest := ih hfirst.mirrored
      rw [hfirst.backdrop, hfirst.summary] at hrest
      rw [List.map_cons, List.flatMap_cons, List.foldl_append]
      exact hfirst.trans hrest

/-- The duties of any of the passes are done after the run. -/
theorem IsMirrored.fulfil_runTurns (hc : c.IsMirrored) {turns : List Turn} {pass : Handler × String}
    (hpass : pass ∈ turns.map Turn.pass) {duty : Duty}
    (hduty : duty ∈ ((c.runTurns s turns).backdrop s).duties s pass) :
    ((c.runTurns s turns).summary s).fulfil ((c.runTurns s turns).backdrop s) duty =
      (c.runTurns s turns).summary s := by
  have hrun := hc.reaches_runTurns (s := s) turns
  rw [hrun.backdrop] at hduty ⊢
  rw [hrun.summary]
  exact Summary.fulfil_foldl_of_mem (List.mem_flatMap.2 ⟨pass, hpass, hduty⟩) _ _

/-- The passes of a run write nothing when they are run again after it. -/
theorem IsMirrored.writes_runTurns_again (hc : c.IsMirrored) {turns again : List Turn}
    (hagain : again.map Turn.pass ⊆ turns.map Turn.pass) :
    ((c.runTurns s turns).runTurns s again).writes = (c.runTurns s turns).writes := by
  have hrun := hc.reaches_runTurns (s := s) turns
  have hmore := hrun.mirrored.reaches_runTurns (s := s) again
  have hduties : (again.map Turn.pass).flatMap ((c.backdrop s).duties s) ⊆
      (turns.map Turn.pass).flatMap ((c.backdrop s).duties s) := by
    intro duty hduty
    obtain ⟨pass, hpass, hmem⟩ := List.mem_flatMap.1 hduty
    exact List.mem_flatMap.2 ⟨pass, hagain hpass, hmem⟩
  have hsame := hmore.summary
  rw [hrun.backdrop, hrun.summary, Summary.foldl_fulfil_of_subset hduties, ← hrun.summary] at hsame
  obtain ⟨ws, hws⟩ := hmore.writes
  have hnone : ∀ kind, (ws.map Write.kind).count kind = 0 := by
    intro kind
    have hcount := congrFun (congrArg Summary.written hsame) kind
    simpa only [summary, ← hws, List.map_append, List.count_append, Nat.add_eq_left] using hcount
  have hnil : ws = [] := by
    refine List.eq_nil_iff_forall_not_mem.2 fun w hw => ?_
    exact List.count_eq_zero.1 (hnone w.kind) (List.mem_map_of_mem hw)
  rw [← hws, hnil, List.append_nil]

/-- A pass has nothing left to do, as far as the objects are there. -/
def IsServed (s : Settings) (c : Cluster) (pass : Handler × String) : Prop :=
  (c.cached? ConfigMap ⟨s.ns, s.configMap⟩).isSome →
    (c.cached? Deployment ⟨s.ns, s.deployment⟩).isSome →
    match pass with
    | (.remote, key) => ∀ name, NamespacedName.ofString? key = some name →
      (c.cached? Remote name).isSome → ¬c.IsStale s ∧ ¬c.IsBehind s ∧ ¬c.IsMisled s name
    | (.configMap, key) => NamespacedName.ofString? key = some ⟨s.ns, s.configMap⟩ →
      ¬c.IsStale s ∧ ¬c.IsBehind s
    | (.gateway, _) => True

/-- Where publishing would change nothing, the document is published. -/
theorem not_isStale_of_publish_eq
    (hdone : (c.summary s).publish c.documentText = c.summary s)
    (hconfigMap : (c.cached? ConfigMap ⟨s.ns, s.configMap⟩).isSome)
    (hdeployment : (c.cached? Deployment ⟨s.ns, s.deployment⟩).isSome) :
    ¬c.IsStale s ∧ ¬c.IsBehind s := by
  obtain ⟨a, ha⟩ := Option.isSome_iff_exists.1 hconfigMap
  obtain ⟨d, hd⟩ := Option.isSome_iff_exists.1 hdeployment
  obtain ⟨hdiffers, hany⟩ := Summary.differs_eq_false_of_publish_eq hdone
    (congrArg (Option.map _) ha) (congrArg (Option.map Deployment.rolledFor?) hd)
  constructor
  · rintro ⟨a', ha', hstale⟩
    obtain rfl := Option.some.inj (ha.symm.trans ha')
    exact Bool.false_ne_true (hdiffers.symm.trans hstale)
  · rintro ⟨d', hd', hbehind⟩
    obtain rfl := Option.some.inj (hd.symm.trans hd')
    exact Bool.false_ne_true (hany.symm.trans (Deployment.isBehind_iff.1 hbehind))

/-- Where publishing its status would change nothing, a Remote shows its address. -/
theorem IsMirrored.not_isMisled (hc : c.IsMirrored) {name : NamespacedName} {r : Remote}
    (hcached : c.cached? Remote name = some r)
    (hdone : (c.summary s).fulfil (c.backdrop s) (.status (Cached.ref r)) = c.summary s)
    (hobjects : (c.cached? ConfigMap ⟨s.ns, s.configMap⟩).isSome ∧
      (c.cached? Deployment ⟨s.ns, s.deployment⟩).isSome) : ¬c.IsMisled s name := by
  rintro ⟨r', gateway, hcached', hgateway, hwrong⟩
  obtain rfl := Option.some.inj (hcached.symm.trans hcached')
  have hold : c.remotes.informer.store.get? (Cached.ref r) = some r :=
    get?_of_cached? hc.remotes hcached
  simp only [Summary.fulfil, status?_backdrop hold hobjects, hgateway, Option.map_some] at hdone
  exact hwrong (Summary.status_eq_of_setStatus_eq hdone (congrArg (Option.map Remote.status) hold))

/-- Where doing a pass's duties would change nothing, it has nothing left to do. -/
theorem IsMirrored.isServed (hc : c.IsMirrored) {pass : Handler × String}
    (hdone : ∀ duty ∈ (c.backdrop s).duties s pass,
      (c.summary s).fulfil (c.backdrop s) duty = c.summary s) : c.IsServed s pass := by
  intro hconfigMap hdeployment
  obtain ⟨h, key⟩ := pass
  cases h with
  | remote =>
      intro name hkey hcached
      obtain ⟨r, hr⟩ := Option.isSome_iff_exists.1 hcached
      rw [duties_remote hkey hr] at hdone
      obtain ⟨hstale, hbehind⟩ :=
        not_isStale_of_publish_eq (hdone .document (by simp)) hconfigMap hdeployment
      exact ⟨hstale, hbehind,
        hc.not_isMisled hr (hdone (.status (Cached.ref r)) (by simp)) ⟨hconfigMap, hdeployment⟩⟩
  | configMap =>
      intro hkey
      have hduties : (c.backdrop s).duties s (.configMap, key) = [.document] := if_pos hkey
      rw [hduties] at hdone
      exact not_isStale_of_publish_eq (hdone .document (by simp)) hconfigMap hdeployment
  | gateway => trivial

theorem data_summary (s : Settings) (c : Cluster) :
    (c.summary s).configMap?.map ConfigMap.data =
      (c.cached? ConfigMap ⟨s.ns, s.configMap⟩).map ConfigMap.data := by
  rw [summary, Option.map_map]
  rfl

theorem statuses_summary (s : Settings) (c : Cluster) (name : NamespacedName) :
    (c.cached? Remote name).map Remote.status =
      ((c.summary s).statuses ⟨some name.ns, name.name⟩).or
        ((c.summary s).statuses ⟨none, name.name⟩) :=
  Option.map_or

/-- Runs of the same passes leave the same behind in any order: the ConfigMap's
data, the hash that the Deployment records, the status of every Remote, and the
number of writes of each kind.  No pass has anything left to do, so running any
of them again writes nothing. -/
theorem runs_agree_in_any_order (s : Settings) (c : Cluster) (turns turns' : List Turn)
    (hc : c.IsMirrored) (hperm : (turns.map Turn.pass).Perm (turns'.map Turn.pass)) :
    let after := c.runTurns s turns
    let after' := c.runTurns s turns'
    after.IsMirrored ∧ after'.IsMirrored ∧
      (after.cached? ConfigMap ⟨s.ns, s.configMap⟩).map ConfigMap.data =
        (after'.cached? ConfigMap ⟨s.ns, s.configMap⟩).map ConfigMap.data ∧
      (after.cached? Deployment ⟨s.ns, s.deployment⟩).map Deployment.rolledFor? =
        (after'.cached? Deployment ⟨s.ns, s.deployment⟩).map Deployment.rolledFor? ∧
      (∀ name, (after.cached? Remote name).map Remote.status =
        (after'.cached? Remote name).map Remote.status) ∧
      (∀ kind, (after.writes.map Write.kind).count kind =
        (after'.writes.map Write.kind).count kind) ∧
      (∀ pass ∈ turns.map Turn.pass, after.IsServed s pass) ∧
      ∀ again : List Turn, again.map Turn.pass ⊆ turns.map Turn.pass →
        (after.runTurns s again).writes = after.writes := by
  intro after after'
  have hrun := hc.reaches_runTurns (s := s) turns
  have hrun' := hc.reaches_runTurns (s := s) turns'
  have hsame : after.summary s = after'.summary s := by
    rw [hrun.summary, hrun'.summary]
    exact Summary.foldl_fulfil_of_perm (hperm.flatMap_right _) _ _
  refine ⟨hrun.mirrored, hrun'.mirrored, ?_, congrArg Summary.rolledFor? hsame, ?_, ?_, ?_, ?_⟩
  · rw [← data_summary s, ← data_summary s, hsame]
  · intro name
    rw [statuses_summary s, statuses_summary s, hsame]
  · intro kind
    exact congrFun (congrArg Summary.written hsame) kind
  · intro pass hpass
    exact hrun.mirrored.isServed fun duty hduty => hc.fulfil_runTurns hpass hduty
  · intro again hagain
    exact hc.writes_runTurns_again hagain

/-- Both Remotes, the gateway's ConfigMap, a Remote that is gone, and no name. -/
def neighbourTurns : List Turn :=
  [⟨(.remote, "default/a"), 10⟩, ⟨(.configMap, "kube-system/gitkube-ci-conf"), 10⟩,
    ⟨(.remote, "default/gone"), 11⟩, ⟨(.remote, "default/b"), 12⟩, ⟨(.remote, "a/b/c"), 13⟩]

/-- The same passes in another order and at other times. -/
def neighbourTurnsReversed : List Turn :=
  [⟨(.remote, "a/b/c"), 25⟩, ⟨(.remote, "default/b"), 26⟩, ⟨(.remote, "default/gone"), 27⟩,
    ⟨(.configMap, "kube-system/gitkube-ci-conf"), 28⟩, ⟨(.remote, "default/a"), 29⟩]

theorem runs_agree_in_any_order_neighbours :
    let after := Pass.neighbours.runTurns {} neighbourTurns
    let after' := Pass.neighbours.runTurns {} neighbourTurnsReversed
    Pass.neighbours.IsMirrored ∧
      (neighbourTurns.map Turn.pass).Perm (neighbourTurnsReversed.map Turn.pass) ∧
      ((after.cached? ConfigMap ⟨"kube-system", "gitkube-ci-conf"⟩).map ConfigMap.data =
        (after'.cached? ConfigMap ⟨"kube-system", "gitkube-ci-conf"⟩).map ConfigMap.data) ∧
      ((after.cached? Remote ⟨"default", "b"⟩).map Remote.status =
        (after'.cached? Remote ⟨"default", "b"⟩).map Remote.status) ∧
      (after.writes.map Write.kind).count .deployment =
        (after'.writes.map Write.kind).count .deployment ∧
      after.IsServed {} (.remote, "default/a") ∧
      (after.runTurns {} [⟨(.remote, "default/b"), 40⟩]).writes = after.writes := by
  have hmirrored : Pass.neighbours.IsMirrored :=
    ⟨by decide +kernel, by decide +kernel, by decide +kernel, rfl, fun _ => rfl,
      fun call => by cases call <;> decide +kernel⟩
  have hperm : (neighbourTurns.map Turn.pass).Perm (neighbourTurnsReversed.map Turn.pass) := by
    decide +kernel
  obtain ⟨-, -, hdata, -, hstatuses, hcount, hserved, hagain⟩ := runs_agree_in_any_order {}
    Pass.neighbours neighbourTurns neighbourTurnsReversed hmirrored hperm
  exact ⟨hmirrored, hperm, hdata, hstatuses _, hcount _, hserved _ (by decide),
    hagain _ (by decide)⟩

end Cluster

end GatewaySync
