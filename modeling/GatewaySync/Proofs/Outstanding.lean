import GatewaySync.Proofs.Calm
import Mathlib.Data.Set.Card

/-!
# What is outstanding

The caches say which objects passes have to write.  In a calm cluster a pass
writes nothing else, each object at most once, and what it has written is not
outstanding any more.  Nothing becomes outstanding by a pass, so what several
passes write adds up.
-/

namespace GatewaySync

namespace Write

/-- The object that is written. -/
def target : Write → Kind × NamespacedName
  | .configMap a => (.configMap, a.metadata.key)
  | .deployment a => (.deployment, a.metadata.key)
  | .status a => (.remote, a.metadata.key)

/-- The write as it is recorded, at the version that the server gives out. -/
def atVersion (version : String) : Write → Write
  | .configMap a => .configMap (Cached.atVersion a version)
  | .deployment a => .deployment (Cached.atVersion a version)
  | .status a => .status (Cached.atVersion a version)

@[simp]
theorem target_atVersion (w : Write) (version : String) :
    (w.atVersion version).target = w.target := by
  cases w <;> rfl

end Write

namespace Cluster

/-- The gateway's ConfigMap holds another document than that of the cached
Remotes. -/
def IsStale (s : Settings) (c : Cluster) : Prop :=
  ∃ configMap, c.cached? ConfigMap ⟨s.ns, s.configMap⟩ = some configMap ∧
    Document.differs configMap c.documentText = true

/-- The gateway's pods were last rolled for another document. -/
def IsBehind (s : Settings) (c : Cluster) : Prop :=
  ∃ d, c.cached? Deployment ⟨s.ns, s.deployment⟩ = some d ∧
    d.IsBehind (Document.contentHash c.documentText)

/-- The status of a Remote shows anything but the address of the gateway. -/
def IsMisled (s : Settings) (c : Cluster) (name : NamespacedName) : Prop :=
  ∃ r gateway, c.cached? Remote name = some r ∧
    c.cached? Service ⟨s.ns, s.service⟩ = some gateway ∧
    r.status ≠ some (r.statusBehind gateway)

/-- A pass has to write the object. -/
def IsOutstanding (s : Settings) (c : Cluster) : Kind × NamespacedName → Prop
  | (.configMap, name) => name = ⟨s.ns, s.configMap⟩ ∧ c.IsStale s
  | (.deployment, name) => name = ⟨s.ns, s.deployment⟩ ∧ (c.IsStale s ∨ c.IsBehind s)
  | (.remote, name) => c.IsMisled s name
  | (.service, _) => False

variable {s : Settings} {c c' c'' : Cluster} {ws ws' : List Write}

theorem IsOutstanding.mono (hstale : c'.IsStale s → c.IsStale s)
    (hbehind : c'.IsBehind s → c.IsStale s ∨ c.IsBehind s)
    (hmisled : ∀ name, c'.IsMisled s name → c.IsMisled s name)
    {target : Kind × NamespacedName} (houtstanding : c'.IsOutstanding s target) :
    c.IsOutstanding s target := by
  obtain ⟨kind, name⟩ := target
  cases kind with
  | configMap => exact ⟨houtstanding.1, hstale houtstanding.2⟩
  | deployment =>
      refine ⟨houtstanding.1, houtstanding.2.elim (fun h => .inl (hstale h)) hbehind⟩
  | remote => exact hmisled name houtstanding
  | service => exact houtstanding

/-- Only the gateway's ConfigMap and Deployment and the cached Remotes are ever
outstanding. -/
theorem finite_outstanding (hc : c.IsCalm s) :
    {target | c.IsOutstanding s target}.Finite := by
  let targets : List (Kind × NamespacedName) :=
    (.configMap, ⟨s.ns, s.configMap⟩) :: (.deployment, ⟨s.ns, s.deployment⟩) ::
      (c.allCached Remote).map fun r => (.remote, r.metadata.key)
  apply (List.finite_toSet targets).subset
  rintro ⟨kind, name⟩ houtstanding
  cases kind with
  | configMap =>
      obtain ⟨rfl, -⟩ := houtstanding
      exact List.mem_cons_self
  | deployment =>
      obtain ⟨rfl, -⟩ := houtstanding
      exact List.mem_cons_of_mem _ List.mem_cons_self
  | remote =>
      obtain ⟨r, -, hcached, -⟩ := houtstanding
      obtain ⟨-, rfl⟩ := hc.soundRemotes.get?_of_lookup hcached
      refine List.mem_cons_of_mem _ (List.mem_cons_of_mem _ (List.mem_map.2 ⟨r, ?_, rfl⟩))
      exact Store.mem_values_of_find? hcached
  | service => exact houtstanding.elim

/-- The writes lead from one calm cluster to another, and with them a part of
what was outstanding is done. -/
structure Progress (s : Settings) (c : Cluster) (ws : List Write) (c' : Cluster) :
    Prop where
  calm : c'.IsCalm s
  writes : c'.writes = c.writes ++ ws
  nodup : (ws.map Write.target).Nodup
  due : ∀ w ∈ ws, c.IsOutstanding s w.target
  done : ∀ w ∈ ws, ¬c'.IsOutstanding s w.target
  shrinks : ∀ target, c'.IsOutstanding s target → c.IsOutstanding s target
  silent : ws = [] → c'.notices = c.notices

theorem Progress.refl (hc : c.IsCalm s) : c.Progress s [] c where
  calm := hc
  writes := (List.append_nil _).symm
  nodup := List.nodup_nil
  due w hw := by cases hw
  done w hw := by cases hw
  shrinks _ h := h
  silent _ := rfl

/-- What was done stays done, so later writes are of other objects. -/
theorem Progress.trans (hfirst : c.Progress s ws c') (hthen : c'.Progress s ws' c'') :
    c.Progress s (ws ++ ws') c'' where
  calm := hthen.calm
  writes := by
    calc c''.writes = c'.writes ++ ws' := hthen.writes
      _ = c.writes ++ ws ++ ws' := by rw [hfirst.writes]
      _ = c.writes ++ (ws ++ ws') := List.append_assoc _ _ _
  nodup := by
    rw [List.map_append]
    apply List.Nodup.append hfirst.nodup hthen.nodup
    intro target hmem hmem'
    obtain ⟨w, hw, rfl⟩ := List.mem_map.1 hmem
    obtain ⟨w', hw', htarget⟩ := List.mem_map.1 hmem'
    exact hfirst.done w hw (htarget ▸ hthen.due w' hw')
  due w hw := by
    rcases List.mem_append.1 hw with hw | hw
    · exact hfirst.due w hw
    · exact hfirst.shrinks _ (hthen.due w hw)
  done w hw := by
    rcases List.mem_append.1 hw with hw | hw
    · exact fun houtstanding => hfirst.done w hw (hthen.shrinks _ houtstanding)
    · exact hthen.done w hw
  shrinks target houtstanding := hfirst.shrinks _ (hthen.shrinks _ houtstanding)
  silent hnone := by
    obtain ⟨rfl, rfl⟩ := List.append_eq_nil_iff.1 hnone
    rw [hthen.silent rfl, hfirst.silent rfl]

/-- Faults that were met make no difference, and neither does what is counted or
has been heard of. -/
theorem Progress.of_facing {faults : Call → List (Option Fault)}
    (hprogress : (c.facing faults).Progress s ws c') : c.Progress s ws c' :=
  ⟨hprogress.calm, hprogress.writes, hprogress.nodup, hprogress.due, hprogress.done,
    hprogress.shrinks, hprogress.silent⟩

theorem Progress.setMetrics (hprogress : c.Progress s ws c') (metrics : Metrics) :
    c.Progress s ws { c' with metrics } :=
  ⟨hprogress.calm.of_replicas rfl rfl rfl rfl rfl hprogress.calm.spares, hprogress.writes,
    hprogress.nodup, hprogress.due, hprogress.done, hprogress.shrinks, hprogress.silent⟩

theorem Progress.hear (hprogress : c.Progress s ws c') (hheard : c.notices = []) :
    c.Progress s ws { c' with notices := [] } :=
  ⟨hprogress.calm.of_replicas rfl rfl rfl rfl rfl hprogress.calm.spares, hprogress.writes,
    hprogress.nodup, hprogress.due, hprogress.done, hprogress.shrinks,
    fun _ => hheard.symm⟩

theorem Progress.ncard_le (hprogress : c.Progress s ws c') (hc : c.IsCalm s) :
    {target | c'.IsOutstanding s target}.ncard ≤ {target | c.IsOutstanding s target}.ncard :=
  Set.ncard_le_ncard hprogress.shrinks (finite_outstanding hc)

/-- Every write leaves less outstanding. -/
theorem Progress.ncard_lt (hprogress : c.Progress s ws c') (hc : c.IsCalm s)
    (hne : ws ≠ []) :
    {target | c'.IsOutstanding s target}.ncard < {target | c.IsOutstanding s target}.ncard := by
  obtain ⟨w, hw⟩ := List.exists_mem_of_ne_nil ws hne
  refine Set.ncard_lt_ncard ⟨hprogress.shrinks, fun hsubset => ?_⟩ (finite_outstanding hc)
  exact hprogress.done w hw (hsubset (hprogress.due w hw))

/-! ## Writes of each kind -/

theorem writes_take (w : Write) :
    (c.take w).writes = c.writes ++ [w.atVersion (Cached.versionText (c.version + 1))] := by
  cases w <;> exact writes_accept c _ _

section

variable (hc : c.IsCalm s)
include hc

theorem isCalm_facing {faults : Call → List (Option Fault)}
    (hkeep : ∀ call, c.Spares call → (c.facing faults).Spares call) :
    (c.facing faults).IsCalm s :=
  hc.of_replicas rfl rfl rfl rfl rfl fun call => hkeep call (hc.spares call)

theorem take_configMap (a : ConfigMap) :
    c.take (.configMap a) = { c with
      configMaps := c.configMaps.take (c.stamp a).1
      version := c.version + 1
      writes := c.writes ++ [.configMap (c.stamp a).1]
      notices := (c.take (.configMap a)).notices } := by
  rw [take, accept_of_echoing hc.echoing hc.watching]
  rfl

theorem take_deployment (a : Deployment) :
    c.take (.deployment a) = { c with
      deployments := c.deployments.take (c.stamp a).1
      version := c.version + 1
      writes := c.writes ++ [.deployment (c.stamp a).1]
      notices := (c.take (.deployment a)).notices } := by
  rw [take, accept_of_echoing hc.echoing hc.watching]
  rfl

theorem take_status (a : Remote) :
    c.take (.status a) = { c with
      remotes := c.remotes.take (c.stamp a).1
      version := c.version + 1
      writes := c.writes ++ [.status (c.stamp a).1]
      notices := (c.take (.status a)).notices } := by
  rw [take, accept_of_echoing hc.echoing hc.watching]
  rfl

section Document

variable {configMap : ConfigMap}
  (hcached : c.cached? ConfigMap ⟨s.ns, s.configMap⟩ = some configMap)
include hcached

theorem replaces_putInto (text : String) :
    c.Replaces (.configMap (Document.putInto configMap text)) ∧
      (Document.putInto configMap text).metadata.key = ⟨s.ns, s.configMap⟩ := by
  obtain ⟨hget, hkey⟩ := hc.soundConfigMaps.get?_of_lookup hcached
  exact ⟨⟨configMap, hget, rfl⟩, hkey⟩

/-- Once the document was written, the ConfigMap holds it. -/
theorem not_isStale_take :
    ¬(c.take (.configMap (Document.putInto configMap c.documentText))).IsStale s := by
  obtain ⟨hreplaces, hkey⟩ := replaces_putInto hc hcached c.documentText
  have hlegible := legible_of_replaces hc hreplaces
  have htaken := cached?_take_configMap hc hlegible ⟨s.ns, s.configMap⟩
  have htext : (c.take (.configMap (Document.putInto configMap c.documentText))).documentText =
      c.documentText := by
    rw [take_configMap hc]
    rfl
  rw [if_pos hkey.symm] at htaken
  rintro ⟨written, hwritten, hdiffers⟩
  rw [htaken] at hwritten
  obtain rfl := Option.some.inj hwritten
  rw [htext, Document.differs_eq_false_iff.2 ⟨c.documentText, by simp, rfl⟩] at hdiffers
  cases hdiffers

end Document

section Restart

variable {d : Deployment}
  (hcached : c.cached? Deployment ⟨s.ns, s.deployment⟩ = some d)
include hcached

theorem replaces_restarted (hash : String) (now : Int) :
    c.Replaces (.deployment (d.restarted hash now)) ∧
      (d.restarted hash now).metadata.key = ⟨s.ns, s.deployment⟩ := by
  obtain ⟨hget, hkey⟩ := hc.soundDeployments.get?_of_lookup hcached
  exact ⟨⟨d, hget, rfl⟩, hkey⟩

/-- Once the pods were rolled for the document, they are not behind. -/
theorem not_isBehind_take (now : Int) :
    ¬(c.take (.deployment
      (d.restarted (Document.contentHash c.documentText) now))).IsBehind s := by
  obtain ⟨hreplaces, hkey⟩ :=
    replaces_restarted hc hcached (Document.contentHash c.documentText) now
  have hlegible := legible_of_replaces hc hreplaces
  have htaken := cached?_take_deployment hc hlegible ⟨s.ns, s.deployment⟩
  have htext : (c.take (.deployment
      (d.restarted (Document.contentHash c.documentText) now))).documentText =
      c.documentText := by
    rw [take_deployment hc]
    rfl
  rw [if_pos hkey.symm] at htaken
  rintro ⟨written, hwritten, recorded, hrecorded, hne⟩
  rw [htaken] at hwritten
  obtain rfl := Option.some.inj hwritten
  rw [Deployment.rolledFor?_atVersion, Deployment.rolledFor?_restarted] at hrecorded
  rw [htext] at hne
  exact hne (Option.some.inj hrecorded).symm

/-- Rolling the pods meets no obstacle. -/
theorem restart_of_calm (hash : String) :
    ∃ faults, (∀ call, c.Spares call → (c.facing faults).Spares call) ∧
      c.restart d hash = (.ok (), ((c.facing faults).take
        (.deployment (d.restarted hash c.clock))).count .gatewayRestarts) := by
  obtain ⟨hreplaces, -⟩ := replaces_restarted hc hcached hash c.clock
  obtain ⟨faults, hkeep, hsubmit⟩ := submit_of_calm hc hreplaces
  refine ⟨faults, hkeep, ?_⟩
  rw [restart, show c.attempt .replaceDeployment _ .deployment = _ from hsubmit]

end Restart

section Status

variable {r : Remote} {name : NamespacedName} (hcached : c.cached? Remote name = some r)
include hcached

theorem replaces_withStatus (status : RemoteStatus) :
    c.Replaces (.status { r with status := some status }) ∧ r.metadata.key = name := by
  obtain ⟨hget, hkey⟩ := hc.soundRemotes.get?_of_lookup hcached
  exact ⟨⟨r, hget, rfl⟩, hkey⟩

/-- The document does not depend on the status or the version of a Remote. -/
theorem documentText_take_status (status : RemoteStatus) :
    (c.take (.status { r with status := some status })).documentText = c.documentText := by
  obtain ⟨hget, -⟩ := hc.soundRemotes.get?_of_lookup hcached
  rw [take_status hc]
  exact congrArg Document.render (Document.ofRemotes_values_insert c.secrets.get? hget rfl rfl)

/-- Once the status was published, it is right, and that of no other Remote has
changed. -/
theorem isMisled_take_status {gateway : Service}
    (hgateway : c.cached? Service ⟨s.ns, s.service⟩ = some gateway) {name' : NamespacedName}
    (hmisled : (c.take (.status { r with
      status := some (r.statusBehind gateway) })).IsMisled s name') :
    name' ≠ name ∧ c.IsMisled s name' := by
  obtain ⟨hreplaces, hkey⟩ := replaces_withStatus hc hcached (r.statusBehind gateway)
  have htaken := cached?_take_status hc (legible_of_replaces hc hreplaces) name'
  obtain ⟨r', gateway', hr', hgateway', hne⟩ := hmisled
  have hservice : c.cached? Service ⟨s.ns, s.service⟩ = some gateway' := by
    rw [take_status hc] at hgateway'
    exact hgateway'
  rw [htaken] at hr'
  by_cases hname : name' = name
  · rw [if_pos (hname.trans hkey.symm)] at hr'
    obtain rfl := Option.some.inj hr'
    obtain rfl := Option.some.inj (hgateway.symm.trans hservice)
    exact absurd rfl hne
  · rw [if_neg fun heq => hname (heq.trans hkey)] at hr'
    exact ⟨hname, r', gateway', hr', hservice, hne⟩

end Status

end

/-! ## Passes -/

theorem isMisled_congr (hremotes : c'.remotes = c.remotes)
    (hservices : c'.services = c.services) {name : NamespacedName} :
    c'.IsMisled s name ↔ c.IsMisled s name := by
  rw [IsMisled, IsMisled, cached?, cached?, cached?, cached?]
  change (∃ r gateway, c'.remotes.informer.lookup name = some r ∧
    c'.services.informer.lookup _ = some gateway ∧ _) ↔ _
  rw [hremotes, hservices]
  rfl

/-- The document and the pods are as they should be, after some writes of the
gateway's ConfigMap and Deployment. -/
structure Published (s : Settings) (c : Cluster) (ws : List Write) (c' : Cluster) :
    Prop where
  calm : c'.IsCalm s
  writes : c'.writes = c.writes ++ ws
  current : ¬c'.IsStale s
  rolled : ¬c'.IsBehind s
  remotes : c'.remotes = c.remotes
  services : c'.services = c.services

/-- If what was written had been outstanding, that is progress. -/
theorem Published.progress (hpublished : c.Published s ws c') (hne : ws ≠ [])
    (hnodup : (ws.map Write.target).Nodup)
    (hdue : ∀ w ∈ ws, c.IsOutstanding s w.target ∧ w.target.1 ≠ .remote) :
    c.Progress s ws c' where
  calm := hpublished.calm
  writes := hpublished.writes
  nodup := hnodup
  due w hw := (hdue w hw).1
  done w hw := by
    have hkind := (hdue w hw).2
    cases w with
    | configMap a => exact fun houtstanding => hpublished.current houtstanding.2
    | deployment a =>
        exact fun houtstanding =>
          houtstanding.2.elim hpublished.current hpublished.rolled
    | status a => exact absurd rfl hkind
  shrinks target houtstanding :=
    houtstanding.mono (fun h => absurd h hpublished.current)
      (fun h => absurd h hpublished.rolled)
      (fun _ => (isMisled_congr hpublished.remotes hpublished.services).1)
  silent hnone := absurd hnone hne

/-- The pods are rolled for the document that the ConfigMap holds. -/
theorem published_restart (hc : c.IsCalm s) {d : Deployment}
    (hcached : c.cached? Deployment ⟨s.ns, s.deployment⟩ = some d)
    (hcurrent : ¬c.IsStale s) :
    ∃ a c', c.restart d (Document.contentHash c.documentText) = (.ok (), c') ∧
      a.metadata.key = ⟨s.ns, s.deployment⟩ ∧ c.Published s [.deployment a] c' := by
  obtain ⟨faults, hkeep, hrestart⟩ :=
    restart_of_calm hc hcached (Document.contentHash c.documentText)
  have hfacing := isCalm_facing hc hkeep
  obtain ⟨hreplaces, hkey⟩ := replaces_restarted hfacing hcached
    (Document.contentHash c.documentText) c.clock
  have hcalm := hfacing.take (legible_of_replaces hfacing hreplaces)
  refine ⟨_, _, hrestart, ?_, ?_, writes_take (c := c.facing faults) _, ?_,
    not_isBehind_take hfacing hcached c.clock, ?_, ?_⟩
  · exact hkey
  · exact hcalm.of_replicas rfl rfl rfl rfl rfl hcalm.spares
  · intro hstale
    rw [take_deployment hfacing] at hstale
    exact hcurrent hstale
  · rw [take_deployment hfacing]
    rfl
  · rw [take_deployment hfacing]
    rfl

/-- The document is written, and then the pods are rolled for it. -/
theorem published_publish (hc : c.IsCalm s) {configMap : ConfigMap} {d : Deployment}
    (hconfigMap : c.cached? ConfigMap ⟨s.ns, s.configMap⟩ = some configMap)
    (hdeployment : c.cached? Deployment ⟨s.ns, s.deployment⟩ = some d)
    (hdiffers : Document.differs configMap c.documentText = true) :
    ∃ a a' c', c.perform (Pass.publish configMap d c.documentText) = (.ok true, c') ∧
      a.metadata.key = ⟨s.ns, s.configMap⟩ ∧ a'.metadata.key = ⟨s.ns, s.deployment⟩ ∧
      c.Published s [.configMap a, .deployment a'] c' := by
  set a := Document.putInto configMap c.documentText with ha
  obtain ⟨hreplaces, hkey⟩ := replaces_putInto hc hconfigMap c.documentText
  obtain ⟨faults, hkeep, hsubmit⟩ := submit_of_calm hc hreplaces
  have hfacing := isCalm_facing hc hkeep
  have hreplaces' : (c.facing faults).Replaces (.configMap a) := hreplaces
  have hwritten := hfacing.take (legible_of_replaces hfacing hreplaces')
  -- the Deployment is replaced in the cluster that the first write leaves
  set c₁ := ((c.facing faults).take (.configMap a)).count .documentWrites with hc₁
  have hcalm : c₁.IsCalm s := hwritten.of_replicas rfl rfl rfl rfl rfl hwritten.spares
  have hwrites : c₁.writes = c.writes ++
      [(Write.configMap a).atVersion (Cached.versionText (c.version + 1))] :=
    writes_take (c := c.facing faults) (.configMap a)
  have hframe : c₁.documentText = c.documentText ∧
      c₁.cached? Deployment ⟨s.ns, s.deployment⟩ = some d ∧
      c₁.remotes = c.remotes ∧ c₁.services = c.services := by
    rw [hc₁, take_configMap hfacing]
    exact ⟨rfl, hdeployment, rfl, rfl⟩
  obtain ⟨htext, hdeployment₁, hremotes, hservices⟩ := hframe
  obtain ⟨a', c', hrestart, hkey', hpublished⟩ :=
    published_restart hcalm hdeployment₁ (not_isStale_take hfacing hconfigMap)
  refine ⟨Cached.atVersion a (Cached.versionText (c.version + 1)), a', c', ?_, hkey, hkey',
    hpublished.calm, ?_, hpublished.current, hpublished.rolled,
    hpublished.remotes.trans hremotes, hpublished.services.trans hservices⟩
  · rw [perform_publish_changed c hdiffers,
      show c.attempt .replaceConfigMap _ .configMap = _ from hsubmit]
    dsimp only
    rw [← hc₁, ← htext, hrestart]
  · rw [hpublished.writes, hwrites, List.append_assoc]
    rfl

/-- Running the pass to its end is progress, and it ends well unless it fails for
good. -/
def Advances {α : Type} (s : Settings) (c : Cluster) (p : Pass α)
    (good : α → Cluster → Prop) : Prop :=
  ∃ result ws c', c.perform p = (result, c') ∧ c.Progress s ws c' ∧
    match result with
    | .ok a => good a c'
    | .error reason => reason.isRetriable = false

section

variable {α β : Type}

theorem Advances.of_pure (hc : c.IsCalm s) {a : α} {good : α → Cluster → Prop}
    (hgood : good a c) : c.Advances s (pure a) good :=
  ⟨.ok a, [], c, rfl, .refl hc, hgood⟩

theorem Advances.of_look (hc : c.IsCalm s) :
    c.Advances s Pass.look fun c' c'' => c' = c ∧ c'' = c :=
  ⟨.ok c, [], c, rfl, .refl hc, rfl, rfl⟩

theorem Advances.of_count (hc : c.IsCalm s) (series : Series) :
    c.Advances s (Pass.count series) fun _ _ => True :=
  ⟨.ok (), [], _, rfl, (Progress.refl hc).setMetrics _, trivial⟩

theorem Advances.bind {p : Pass α} {f : α → Pass β} {good : α → Cluster → Prop}
    {good' : β → Cluster → Prop} (hp : c.Advances s p good)
    (hf : ∀ a c', c'.IsCalm s → good a c' → c'.Advances s (f a) good') :
    c.Advances s (p >>= f) good' := by
  obtain ⟨result, ws, c', hperform, hprogress, hgood⟩ := hp
  cases result with
  | error reason => exact ⟨.error reason, ws, c', perform_bind_error hperform, hprogress, hgood⟩
  | ok a =>
      obtain ⟨result, ws', c'', hperform', hprogress', hgood'⟩ :=
        hf a c' hprogress.calm hgood
      exact ⟨result, ws ++ ws', c'', (perform_bind_ok hperform).trans hperform',
        hprogress.trans hprogress', hgood'⟩

theorem advances_gatewayObject (hc : c.IsCalm s) {α : Type} [Stored α]
    {name : NamespacedName} {a : α} (hcached : c.cached? α name = some a) :
    c.Advances s (Pass.gatewayObject α name) fun found c' => found = a ∧ c' = c := by
  have hperform := c.perform_gatewayObject α name
  rw [hcached] at hperform
  exact ⟨.ok a, [], c, hperform, .refl hc, rfl, rfl⟩

/-- A key that cannot be read is given up. -/
theorem advances_parseKey (hc : c.IsCalm s) (key : String) :
    c.Advances s (Pass.parseKey key) fun _ c' => c' = c := by
  have hperform := perform_parseKey c key
  cases hname : NamespacedName.ofString? key with
  | some name =>
      rw [hname] at hperform
      exact ⟨.ok name, [], c, hperform, .refl hc, rfl⟩
  | none =>
      rw [hname] at hperform
      exact ⟨.error (.failed (.invalidKey key)), [], c, hperform, .refl hc, rfl⟩

end

/-- Publishing the document writes what is outstanding of it. -/
theorem advances_publish (hc : c.IsCalm s) {configMap : ConfigMap} {d : Deployment}
    (hconfigMap : c.cached? ConfigMap ⟨s.ns, s.configMap⟩ = some configMap)
    (hdeployment : c.cached? Deployment ⟨s.ns, s.deployment⟩ = some d) :
    c.Advances s (Pass.publish configMap d c.documentText) fun _ c' =>
      c'.remotes = c.remotes ∧ c'.services = c.services := by
  cases hdiffers : Document.differs configMap c.documentText with
  | false =>
      have hcurrent : ¬c.IsStale s := by
        rintro ⟨configMap', hconfigMap', hstale⟩
        rw [hconfigMap] at hconfigMap'
        obtain rfl := Option.some.inj hconfigMap'
        rw [hdiffers] at hstale
        cases hstale
      by_cases hbehind : d.IsBehind (Document.contentHash c.documentText)
      · obtain ⟨a, c', hrestart, hkey, hpublished⟩ :=
          published_restart hc hdeployment hcurrent
        refine ⟨.ok false, _, c', ?_, hpublished.progress (by simp) (List.nodup_singleton _) ?_,
          hpublished.remotes, hpublished.services⟩
        · rw [perform_publish_behind c hdiffers hbehind, hrestart]
        · intro w hw
          obtain rfl := List.mem_singleton.1 hw
          exact ⟨⟨hkey, .inr ⟨d, hdeployment, hbehind⟩⟩, nofun⟩
      · exact ⟨.ok false, [], c, perform_publish_current c hdiffers hbehind, .refl hc,
          rfl, rfl⟩
  | true =>
      have hstale : c.IsStale s := ⟨configMap, hconfigMap, hdiffers⟩
      obtain ⟨a, a', c', hperform, hkey, hkey', hpublished⟩ :=
        published_publish hc hconfigMap hdeployment hdiffers
      refine ⟨.ok true, _, c', hperform, hpublished.progress (by simp) ?_ ?_,
        hpublished.remotes, hpublished.services⟩
      · simp [Write.target]
      · intro w hw
        rcases List.mem_cons.1 hw with rfl | hw
        · exact ⟨⟨hkey, hstale⟩, nofun⟩
        · obtain rfl := List.mem_singleton.1 hw
          exact ⟨⟨hkey', .inl hstale⟩, nofun⟩

theorem advances_syncDocument (hc : c.IsCalm s) :
    c.Advances s (Pass.syncDocument s) fun _ c' =>
      c'.remotes = c.remotes ∧ c'.services = c.services := by
  obtain ⟨configMap, hconfigMap⟩ := Option.isSome_iff_exists.1 hc.configMap
  obtain ⟨d, hdeployment⟩ := Option.isSome_iff_exists.1 hc.deployment
  obtain ⟨faults, hkeep, hperform⟩ :=
    perform_syncDocument_of_spares hconfigMap hdeployment (hc.spares .readSecret)
  obtain ⟨result, ws, c', hpublish, hprogress, hgood⟩ :=
    advances_publish (isCalm_facing hc hkeep) hconfigMap hdeployment
  exact ⟨result, ws, c', hperform.trans hpublish, hprogress.of_facing, hgood⟩

/-- A status that is published is progress. -/
theorem advances_patchStatus (hc : c.IsCalm s) {r : Remote} {gateway : Service}
    {name : NamespacedName} (hcached : c.cached? Remote name = some r)
    (hgateway : c.cached? Service ⟨s.ns, s.service⟩ = some gateway)
    (hwrong : r.status ≠ some (r.statusBehind gateway)) :
    c.Advances s (Pass.patchStatus r (r.statusBehind gateway)) fun _ _ => True := by
  obtain ⟨hreplaces, hkey⟩ := replaces_withStatus hc hcached (r.statusBehind gateway)
  obtain ⟨faults, hkeep, hsubmit⟩ := submit_of_calm hc hreplaces
  have hfacing := isCalm_facing hc hkeep
  have hreplaces' : (c.facing faults).Replaces
      (.status { r with status := some (r.statusBehind gateway) }) := hreplaces
  have hcalm := hfacing.take (legible_of_replaces hfacing hreplaces')
  refine ⟨.ok (), [(Write.status _).atVersion (Cached.versionText (c.version + 1))], _,
    (perform_patchStatus c r _).trans hsubmit, Progress.of_facing
      ⟨hcalm, writes_take _, List.nodup_singleton _, ?_, ?_, ?_, nofun⟩, trivial⟩
  · intro w hw
    obtain rfl := List.mem_singleton.1 hw
    rw [Write.target_atVersion]
    have hname : name = r.metadata.key := hkey.symm
    exact ⟨r, gateway, hname ▸ hcached, hgateway, hwrong⟩
  · intro w hw
    obtain rfl := List.mem_singleton.1 hw
    rw [Write.target_atVersion]
    exact fun hmisled => (isMisled_take_status hfacing hcached hgateway hmisled).1 hkey
  · intro target houtstanding
    have htext := documentText_take_status hfacing hcached (r.statusBehind gateway)
    refine houtstanding.mono ?_ (fun hbehind => .inr ?_) fun name' hmisled =>
      (isMisled_take_status hfacing hcached hgateway hmisled).2
    · rw [IsStale, IsStale, htext, take_status hfacing]
      exact id
    · rw [IsBehind, htext, take_status hfacing] at hbehind
      exact hbehind

/-- A pass for a Remote publishes its status if that is outstanding. -/
theorem advances_syncRemote (hc : c.IsCalm s) (key : String) :
    c.Advances s (Pass.syncRemote s key) fun _ _ => True := by
  apply (advances_parseKey hc key).bind
  intro name c hc _
  apply (Advances.of_look hc).bind
  rintro _ c - ⟨rfl, rfl⟩
  dsimp only
  cases hcached : c.cached? Remote name with
  | none => exact .of_pure hc trivial
  | some r =>
      apply (advances_syncDocument hc).bind
      intro _ c' hc' hframe
      have hcached' : c'.cached? Remote name = some r := by
        calc c'.cached? Remote name = c.cached? Remote name :=
              congrArg (·.informer.lookup name) hframe.1
          _ = some r := hcached
      obtain ⟨gateway, hgateway⟩ := Option.isSome_iff_exists.1 hc'.service
      apply (advances_gatewayObject hc' hgateway).bind
      rintro gateway _ - ⟨rfl, rfl⟩
      by_cases hwrong : r.status ≠ some (r.statusBehind gateway)
      · rw [if_pos hwrong]
        apply (advances_patchStatus hc' hcached' hgateway hwrong).bind
        intro _ c'' hc'' _
        exact .of_count hc'' _
      · rw [if_neg hwrong]
        exact .of_pure hc' trivial

/-- In a calm cluster every pass makes progress.  Only passes for the gateway ask
for passes of Remotes. -/
theorem advances_sync (hc : c.IsCalm s) (h : Handler) (key : String) :
    c.Advances s (Pass.sync s h key) fun requeued _ => h ≠ .gateway → requeued = [] := by
  cases h with
  | remote =>
      apply (advances_syncRemote hc key).bind
      intro _ c' hc' _
      exact .of_pure hc' fun _ => rfl
  | configMap =>
      have hconfigMap : c.Advances s (Pass.syncConfigMap s key) fun _ _ => True := by
        apply (advances_parseKey hc key).bind
        intro name c' hc' _
        by_cases hname : name = ⟨s.ns, s.configMap⟩
        · rw [if_pos hname]
          apply (advances_syncDocument hc').bind
          intro _ c'' hc'' _
          exact .of_pure hc'' trivial
        · rw [if_neg hname]
          exact .of_pure hc' trivial
      apply hconfigMap.bind
      intro _ c' hc' _
      exact .of_pure hc' fun _ => rfl
  | gateway =>
      apply (advances_parseKey hc key).bind
      intro _ c' hc' _
      apply (Advances.of_look hc').bind
      intro _ c'' hc'' _
      exact .of_pure hc'' fun hne => absurd rfl hne

end Cluster

end GatewaySync
