import GatewaySync.Proofs.Concern
import GatewaySync.Proofs.Installation

/-!
# A quiet controller has converged

There are two kinds of concerns: that the gateway's ConfigMap holds the document
of the cached Remotes, and, for each Remote, that its status shows the address
of the gateway.  Neither is ever forgotten, so in a quiet state both are settled.
-/

namespace GatewaySync

namespace Cluster

variable {s : Settings} {c : Cluster}

/-- What a change brings up is among what its report brings up. -/
theorem mem_raised {α : Type} [Stored α] (hlive : c.IsLive) {e : WatchEvent α}
    {change : Change α} (hchange : change ∈ ((c.replica α).informer.step e).2)
    {key : Handler × String}
    (hkey : key ∈ Controller.keysFor s (Stored.notice change)) :
    key ∈ (c.observe e).raised s := by
  rw [observe_of_live hlive, raised]
  refine List.mem_flatMap.2 ⟨Stored.notice change, ?_, hkey⟩
  exact List.mem_append_right _ (List.mem_map_of_mem hchange)

theorem caches_observe_remote (hlive : c.IsLive) (e : WatchEvent Remote) :
    (c.observe e).caches = { c.caches with remotes := (c.remotes.informer.step e).1.store } := by
  rw [observe_of_live hlive]
  rfl

theorem caches_observe_configMap (hlive : c.IsLive) (e : WatchEvent ConfigMap) :
    (c.observe e).caches =
      { c.caches with configMaps := (c.configMaps.informer.step e).1.store } := by
  rw [observe_of_live hlive]
  rfl

theorem caches_observe_deployment (hlive : c.IsLive) (e : WatchEvent Deployment) :
    (c.observe e).caches =
      { c.caches with deployments := (c.deployments.informer.step e).1.store } := by
  rw [observe_of_live hlive]
  rfl

theorem caches_observe_service (hlive : c.IsLive) (e : WatchEvent Service) :
    (c.observe e).caches =
      { c.caches with services := (c.services.informer.step e).1.store } := by
  rw [observe_of_live hlive]
  rfl

/-- A told change of a Remote brings up its key, and the ConfigMap's if it is
gone. -/
theorem raised_of_tells_remote (hlive : c.IsLive) {e : WatchEvent Remote}
    {ref : ObjectRef} {gone : Bool}
    (htells : Informer.Tells (c.remotes.informer.step e).2 ref gone) :
    ∃ name key, NamespacedName.ofString? key = some name ∧
      ref = ⟨some name.ns, name.name⟩ ∧
      (.remote, key) ∈ (c.observe e).raised s ∧
      (gone → (.configMap, s.configMapKey) ∈ (c.observe e).raised s) := by
  obtain ⟨change, hmem, href, hlegible, hgone⟩ := htells
  refine ⟨change.object.metadata.key, _, hlegible.ofString?_key, ?_, ?_, fun h => ?_⟩
  · rw [← href]
    exact hlegible.ref_eq
  · exact mem_raised hlive hmem List.mem_cons_self
  · refine mem_raised hlive hmem (List.mem_cons_of_mem _ ?_)
    rw [if_pos (hgone h)]
    exact List.mem_singleton_self _

theorem isGatewayObject_of_ref {m : Metadata} {name : String} (hm : m.IsLegible)
    (href : m.ref = ⟨some s.ns, name⟩) :
    Controller.isGatewayObject s m name = true ∧ m.key = ⟨s.ns, name⟩ := by
  have hkey : m.key = ⟨s.ns, name⟩ := hm.ref_eq_iff.1 href
  have hns : m.ns = some s.ns := congrArg ObjectRef.ns href
  have hname : m.displayName = name := congrArg NamespacedName.name hkey
  refine ⟨?_, hkey⟩
  rw [Controller.isGatewayObject, hns, hname]
  simp

theorem raised_of_tells_configMap (hlive : c.IsLive) {e : WatchEvent ConfigMap}
    {gone : Bool} (htells : Informer.Tells (c.configMaps.informer.step e).2
      ⟨some s.ns, s.configMap⟩ gone) :
    ∃ key, NamespacedName.ofString? key = some ⟨s.ns, s.configMap⟩ ∧
      (.configMap, key) ∈ (c.observe e).raised s := by
  obtain ⟨change, hmem, href, hlegible, -⟩ := htells
  obtain ⟨hgateway, hkey⟩ := isGatewayObject_of_ref hlegible href
  have hkeys : Controller.keysFor s (.configMap change) =
      [(.configMap, (Cached.metadata change.object).key.toString)] := if_pos hgateway
  refine ⟨_, hlegible.ofString?_key.trans (congrArg some hkey), ?_⟩
  exact mem_raised hlive hmem (hkeys ▸ List.mem_singleton_self _)

theorem raised_of_tells_service (hlive : c.IsLive) {e : WatchEvent Service}
    {gone : Bool} (htells : Informer.Tells (c.services.informer.step e).2
      ⟨some s.ns, s.service⟩ gone) :
    ∃ key, (NamespacedName.ofString? key).isSome ∧
      (.gateway, key) ∈ (c.observe e).raised s := by
  obtain ⟨change, hmem, href, hlegible, -⟩ := htells
  obtain ⟨hgateway, -⟩ := isGatewayObject_of_ref hlegible href
  have hkeys : Controller.keysFor s (.service change) =
      [(.gateway, (Cached.metadata change.object).key.toString)] := if_pos hgateway
  refine ⟨_, by rw [hlegible.ofString?_key]; rfl, ?_⟩
  exact mem_raised hlive hmem (hkeys ▸ List.mem_singleton_self _)

end Cluster

variable (s : Settings) (secrets : SortedMap NamespacedName Secret)

/-! ## The document -/

namespace Document

/-- The cached Remotes, and the gateway's ConfigMap. -/
structure View where
  remotes : Store Remote
  configMap : Option ConfigMap

namespace View

def ofCaches (caches : Caches) : View where
  remotes := caches.remotes
  configMap := Store.find? caches.configMaps ⟨some s.ns, s.configMap⟩

/-- The ConfigMap holds another document than that of the Remotes. -/
def IsDue (v : View) : Prop :=
  ∃ configMap, v.configMap = some configMap ∧
    differs configMap (ofRemotes secrets.get? v.remotes.values).render = true

/-- The passes for the ConfigMap and for any cached Remote write the document. -/
def Helps (v : View) (h : Handler) (key : String) : Prop :=
  ∃ name, NamespacedName.ofString? key = some name ∧
    match h with
    | .remote => Store.find? v.remotes ⟨some name.ns, name.name⟩ ≠ none
    | .configMap => name = ⟨s.ns, s.configMap⟩
    | .gateway => False

def Answers (v : View) (w : Write) : Prop :=
  ∃ a configMap, w = .configMap a ∧ v.configMap = some configMap ∧
    a.metadata = configMap.metadata

/-- The ConfigMap is reported at a version that is not the cached one. -/
def Echoes (v : View) (report : Report) : Prop :=
  ∃ a, report = .configMap (.apply a) ∧ a.metadata.IsLegible ∧
    a.metadata.ref = ⟨some s.ns, s.configMap⟩ ∧
    ∀ configMap, v.configMap = some configMap →
      Cached.version? configMap ≠ Cached.version? a

variable {s secrets} {v : View}

theorem ensures_syncDocument :
    (Pass.syncDocument s).Ensures secrets.get? (fun c => ofCaches s c.caches = v)
      v.Answers fun _ => ¬v.IsDue secrets := by
  apply Pass.ensures_syncDocument
  intro c₁ c₂ configMap d hc₁ hc₂ hcached
  have hconfigMap : v.configMap = some configMap := hc₁ ▸ hcached
  have hremotes : v.remotes.values = c₂.allCached Remote := hc₂ ▸ rfl
  apply Pass.ensures_publish (fun _ => .inl ⟨_, configMap, rfl, hconfigMap, rfl⟩)
  intro hcurrent _
  rintro ⟨configMap', hconfigMap', hdiffers⟩
  rw [hconfigMap] at hconfigMap'
  cases hconfigMap'
  rw [hremotes, hcurrent] at hdiffers
  cases hdiffers

/-- A pass that helps writes the document if it is due. -/
theorem ensures_sync {h : Handler} {key : String} (hhelps : v.Helps s h key) :
    (Pass.sync s h key).Ensures secrets.get? (fun c => ofCaches s c.caches = v)
      v.Answers fun requeued => v.IsDue secrets →
        ∃ key ∈ requeued, v.Helps s .remote key := by
  obtain ⟨name, hkey, hhelps⟩ := hhelps
  cases h with
  | gateway => cases hhelps
  | configMap =>
      subst hhelps
      refine Pass.Ensures.bind ((Pass.ensures_parseKey hkey ?_).bind)
      rw [if_pos rfl]
      refine Pass.Ensures.bind (ensures_syncDocument.mono ?_)
      exact fun _ hcurrent hdue => absurd hdue hcurrent
  | remote =>
      have hremote : (Pass.syncRemote s key).Ensures secrets.get?
          (fun c => ofCaches s c.caches = v) v.Answers fun _ => ¬v.IsDue secrets := by
        refine Pass.ensures_syncRemote hkey (fun c hc hgone => ?_) fun c r hc hcached => ?_
        · exact absurd (hc ▸ hgone) hhelps
        · apply ensures_syncDocument.mono
          exact fun _ hcurrent _ _ _ _ => ⟨fun _ => .inr hcurrent, fun _ => hcurrent⟩
      exact (hremote.mono fun _ hcurrent hdue => absurd hdue hcurrent).bind

/-- The ConfigMap of a sound cluster is filed under the gateway's name. -/
theorem configMap_filed {c : Cluster} (hc : c.Sound) {configMap : ConfigMap}
    (hcached : (ofCaches s c.caches).configMap = some configMap) :
    configMap.metadata.ref = ⟨some s.ns, s.configMap⟩ ∧
      Cached.IsFit c.version configMap := by
  have hfind : Store.find? c.configMaps.informer.store ⟨some s.ns, s.configMap⟩ =
      some configMap := hcached
  rw [hc.configMaps.find?_eq] at hfind
  exact hc.configMaps.filed _ _ hfind

theorem echoes_of_answers {c : Cluster} {w : Write} (hc : c.Sound)
    (hanswers : (ofCaches s c.caches).Answers w) :
    (ofCaches s c.caches).Echoes s (w.echo (c.version + 1)) := by
  obtain ⟨a, configMap, rfl, hcached, hmetadata⟩ := hanswers
  obtain ⟨href, hfit⟩ := configMap_filed hc hcached
  have hlegible : configMap.metadata.IsLegible := hfit.legible
  rw [← hmetadata] at href hlegible
  refine ⟨_, rfl, hlegible, href, fun configMap' hcached' => ?_⟩
  exact (configMap_filed hc hcached').2.version_ne _

/-- The ConfigMap's key is brought up by the deletion of a Remote, as long as
there is a ConfigMap of that name. -/
theorem helps_configMapKey {c : Cluster} (hc : c.Sound)
    (hdue : (ofCaches s c.caches).IsDue secrets) :
    (ofCaches s c.caches).Helps s .configMap s.configMapKey := by
  obtain ⟨configMap, hcached, -⟩ := hdue
  obtain ⟨href, hfit⟩ := configMap_filed hc hcached
  obtain ⟨ns, name, hns, hname, hplain, hplain'⟩ := hfit.legible
  have hns' : s.ns = ns := Option.some.inj
    ((congrArg ObjectRef.ns href).symm.trans hns)
  have hname' : s.configMap = name := by
    have hdisplayed : configMap.metadata.name.getD "" = s.configMap :=
      congrArg ObjectRef.name href
    rw [← hdisplayed, show configMap.metadata.name = some name from hname]
    rfl
  refine ⟨⟨s.ns, s.configMap⟩, NamespacedName.ofString?_path ?_ ?_, rfl⟩
  · exact hns' ▸ hplain.2
  · exact hname' ▸ hplain'

theorem view_deliver {c : Cluster} {report : Report} (hc : c.Sound)
    (hadmits : c.Admits report)
    (hdue : (ofCaches s (c.deliver report).caches).IsDue secrets) :
    ofCaches s (c.deliver report).caches = ofCaches s c.caches ∨
      ∃ key ∈ (c.deliver report).raised s,
        (ofCaches s (c.deliver report).caches).Helps s key.1 key.2 := by
  have hafter := hc.deliver hadmits
  cases report with
  | deployment e =>
      rw [Cluster.deliver, Cluster.caches_observe_deployment hc.live]
      exact .inl rfl
  | service e =>
      rw [Cluster.deliver, Cluster.caches_observe_service hc.live]
      exact .inl rfl
  | configMap e =>
      have hcaches := Cluster.caches_observe_configMap hc.live e
      rcases hc.configMaps.step_tells hadmits ⟨some s.ns, s.configMap⟩ with hsame | htells
      · left
        rw [← (hc.configMaps.step hadmits).find?_eq, ← hc.configMaps.find?_eq] at hsame
        rw [Cluster.deliver, hcaches]
        exact congrArg (View.mk _) hsame
      · obtain ⟨key, hkey, hmem⟩ := Cluster.raised_of_tells_configMap hc.live htells
        exact .inr ⟨(.configMap, key), hmem, _, hkey, rfl⟩
  | remote e =>
      have hcaches := Cluster.caches_observe_remote hc.live e
      by_cases hsame : (c.remotes.informer.step e).1.store = c.remotes.informer.store
      · left
        rw [Cluster.deliver, hcaches, hsame]
        rfl
      · right
        obtain ⟨ref, hne⟩ := not_forall.1 fun h => hsame (SortedMap.ext_get? h)
        obtain ⟨name, key, hkey, rfl, hmem, hgone⟩ := Cluster.raised_of_tells_remote
          (s := s) hc.live ((hc.remotes.step_tells hadmits ref).resolve_left hne)
        cases hget : (c.remotes.informer.step e).1.store.get? ⟨some name.ns, name.name⟩ with
        | none =>
            rw [hget] at hgone
            exact ⟨_, hgone rfl, helps_configMapKey
              (c := { c.deliver (.remote e) with notices := [] }) hafter hdue⟩
        | some r =>
            refine ⟨_, hmem, name, hkey, ?_⟩
            rw [Cluster.deliver, hcaches]
            change Store.find? (c.remotes.informer.step e).1.store _ ≠ none
            rw [(hc.remotes.step hadmits).find?_eq, hget]
            exact Option.some_ne_none r

theorem helps_of_echoes {c : Cluster} {report : Report} (hc : c.Sound)
    (hechoes : (ofCaches s c.caches).Echoes s report) :
    ∃ key ∈ (c.deliver report).raised s,
      (ofCaches s (c.deliver report).caches).Helps s key.1 key.2 := by
  obtain ⟨a, rfl, hlegible, href, hversion⟩ := hechoes
  have htells := hc.configMaps.tells_of_version_ne hlegible fun old hget => by
    apply hversion old
    rw [Cached.ref, show (Cached.metadata a).ref = _ from href,
      ← hc.configMaps.find?_eq] at hget
    exact hget
  rw [Cached.ref, show (Cached.metadata a).ref = _ from href] at htells
  obtain ⟨key, hkey, hmem⟩ := Cluster.raised_of_tells_configMap hc.live htells
  exact ⟨(.configMap, key), hmem, _, hkey, rfl⟩

end View

/-- The gateway's ConfigMap is to hold the document of the cached Remotes. -/
def concern : Concern s secrets where
  View := View
  view := View.ofCaches s
  Due := View.IsDue secrets
  Helps := View.Helps s
  Answers := View.Answers
  Echoes := View.Echoes s
  ensures_sync := View.ensures_sync
  echoes_of_answers := View.echoes_of_answers
  view_deliver := View.view_deliver
  helps_of_echoes hc _ := View.helps_of_echoes hc

end Document

/-! ## The status of a Remote -/

namespace RemoteStatus

/-- A Remote as it is cached, and the gateway's Service. -/
structure View where
  remote : Option Remote
  service : Option Service

namespace View

def ofCaches (s : Settings) (name : NamespacedName) (caches : Caches) : View where
  remote := Store.find? caches.remotes ⟨some name.ns, name.name⟩
  service := Store.find? caches.services ⟨some s.ns, s.service⟩

/-- The status shows anything but the address of the gateway. -/
def IsDue (name : NamespacedName) (v : View) : Prop :=
  ∃ r, v.remote = some r ∧ r.metadata.IsLegible ∧ r.metadata.key = name ∧
    ∀ gateway, v.service = some gateway → r.status ≠ some (r.statusBehind gateway)

/-- The passes for the Remote publish its address, and those for the gateway ask
for a pass for every Remote. -/
def Helps (name : NamespacedName) (h : Handler) (key : String) : Prop :=
  match h with
  | .remote => NamespacedName.ofString? key = some name
  | .configMap => False
  | .gateway => (NamespacedName.ofString? key).isSome

def Answers (v : View) (w : Write) : Prop :=
  ∃ a r, w = .status a ∧ v.remote = some r ∧ a.metadata = r.metadata

/-- The Remote is reported at a version that is not the cached one. -/
def Echoes (name : NamespacedName) (v : View) (report : Report) : Prop :=
  ∃ a, report = .remote (.apply a) ∧ a.metadata.IsLegible ∧
    a.metadata.ref = ⟨some name.ns, name.name⟩ ∧
    ∀ r, v.remote = some r → Cached.version? r ≠ Cached.version? a

variable {s : Settings} {secrets : SortedMap NamespacedName Secret}
  {name : NamespacedName} {v : View}

/-- A pass that helps publishes the address if it is due. -/
theorem ensures_sync {h : Handler} {key : String} (hhelps : Helps name h key) :
    (Pass.sync s h key).Ensures secrets.get? (fun c => ofCaches s name c.caches = v)
      v.Answers fun requeued => v.IsDue name →
        ∃ key ∈ requeued, Helps name .remote key := by
  cases h with
  | configMap => cases hhelps
  | gateway =>
      obtain ⟨name', hkey⟩ := Option.isSome_iff_exists.1 hhelps
      refine (Pass.ensures_parseKey hkey ?_).bind
      rintro c hc ⟨r, hcached, hlegible, rfl, -⟩
      have hfind : Store.find? c.remotes.informer.store _ = some r := hc ▸ hcached
      refine ⟨_, List.mem_map.2 ⟨r, Store.mem_values_of_find? hfind, rfl⟩, ?_⟩
      exact hlegible.ofString?_key
  | remote =>
      have hremote : (Pass.syncRemote s key).Ensures secrets.get?
          (fun c => ofCaches s name c.caches = v) v.Answers fun _ => ¬v.IsDue name := by
        refine Pass.ensures_syncRemote hhelps ?_ ?_
        · rintro c hc hgone ⟨r, hcached, -⟩
          have hnone : v.remote = none := hc ▸ hgone
          rw [hnone] at hcached
          cases hcached
        · intro c r hc hcached
          have hremote : v.remote = some r := hc ▸ hcached
          apply Pass.ensures_syncDocument
          intro _ _ _ _ _ _ _
          have hstatus : ∀ (c' : Cluster) gateway, ofCaches s name c'.caches = v →
              c'.cached? Service ⟨s.ns, s.service⟩ = some gateway →
              (r.status ≠ some (r.statusBehind gateway) →
                v.Answers (.status { r with status := some (r.statusBehind gateway) }) ∨
                  ¬v.IsDue name) ∧
              (r.status = some (r.statusBehind gateway) → ¬v.IsDue name) := by
            intro c' gateway hc' hgateway
            have hservice : v.service = some gateway := hc' ▸ hgateway
            refine ⟨fun _ => .inl ⟨_, r, rfl, hremote, rfl⟩, ?_⟩
            rintro hright ⟨r', hremote', -, -, hwrong⟩
            rw [hremote] at hremote'
            cases hremote'
            exact hwrong gateway hservice hright
          exact Pass.ensures_publish (fun _ => .inr fun _ => hstatus) fun _ _ => hstatus
      exact (hremote.mono fun _ hcurrent hdue => absurd hdue hcurrent).bind

/-- The Remote of a sound cluster is filed under its name. -/
theorem remote_filed {c : Cluster} (hc : c.Sound) {r : Remote}
    (hcached : (ofCaches s name c.caches).remote = some r) :
    r.metadata.ref = ⟨some name.ns, name.name⟩ ∧ Cached.IsFit c.version r := by
  have hfind : Store.find? c.remotes.informer.store ⟨some name.ns, name.name⟩ =
      some r := hcached
  rw [hc.remotes.find?_eq] at hfind
  exact hc.remotes.filed _ _ hfind

theorem echoes_of_answers {c : Cluster} {w : Write} (hc : c.Sound)
    (hanswers : (ofCaches s name c.caches).Answers w) :
    (ofCaches s name c.caches).Echoes name (w.echo (c.version + 1)) := by
  obtain ⟨a, r, rfl, hcached, hmetadata⟩ := hanswers
  obtain ⟨href, hfit⟩ := remote_filed hc hcached
  have hlegible : r.metadata.IsLegible := hfit.legible
  rw [← hmetadata] at href hlegible
  refine ⟨_, rfl, hlegible, href, fun r' hcached' => ?_⟩
  exact (remote_filed hc hcached').2.version_ne _

theorem view_deliver {c : Cluster} {report : Report} (hc : c.Sound)
    (hadmits : c.Admits report) :
    ofCaches s name (c.deliver report).caches = ofCaches s name c.caches ∨
      ∃ key ∈ (c.deliver report).raised s, Helps name key.1 key.2 := by
  cases report with
  | configMap e =>
      rw [Cluster.deliver, Cluster.caches_observe_configMap hc.live]
      exact .inl rfl
  | deployment e =>
      rw [Cluster.deliver, Cluster.caches_observe_deployment hc.live]
      exact .inl rfl
  | service e =>
      have hcaches := Cluster.caches_observe_service hc.live e
      rcases hc.services.step_tells hadmits ⟨some s.ns, s.service⟩ with hsame | htells
      · left
        rw [← (hc.services.step hadmits).find?_eq, ← hc.services.find?_eq] at hsame
        rw [Cluster.deliver, hcaches]
        exact congrArg (View.mk _) hsame
      · obtain ⟨key, hkey, hmem⟩ := Cluster.raised_of_tells_service hc.live htells
        exact .inr ⟨(.gateway, key), hmem, hkey⟩
  | remote e =>
      have hcaches := Cluster.caches_observe_remote hc.live e
      rcases hc.remotes.step_tells hadmits ⟨some name.ns, name.name⟩ with hsame | htells
      · left
        rw [← (hc.remotes.step hadmits).find?_eq, ← hc.remotes.find?_eq] at hsame
        rw [Cluster.deliver, hcaches]
        exact congrArg (fun remote => View.mk remote _) hsame
      · obtain ⟨name', key, hkey, href, hmem, -⟩ :=
          Cluster.raised_of_tells_remote (s := s) hc.live htells
        obtain rfl := NamespacedName.eq_of_ref_eq href
        exact .inr ⟨(.remote, key), hmem, hkey⟩

theorem helps_of_echoes {c : Cluster} {report : Report} (hc : c.Sound)
    (hechoes : (ofCaches s name c.caches).Echoes name report) :
    ∃ key ∈ (c.deliver report).raised s, Helps name key.1 key.2 := by
  obtain ⟨a, rfl, hlegible, href, hversion⟩ := hechoes
  have htells := hc.remotes.tells_of_version_ne hlegible fun old hget => by
    apply hversion old
    rw [Cached.ref, show (Cached.metadata a).ref = _ from href,
      ← hc.remotes.find?_eq] at hget
    exact hget
  obtain ⟨name', key, hkey, href', hmem, -⟩ :=
    Cluster.raised_of_tells_remote (s := s) hc.live htells
  obtain rfl := NamespacedName.eq_of_ref_eq (href.symm.trans href')
  exact ⟨(.remote, key), hmem, hkey⟩

end View

/-- The status of the Remote of a name is to show the gateway's address. -/
def concern (name : NamespacedName) : Concern s secrets where
  View := View
  view := View.ofCaches s name
  Due := View.IsDue name
  Helps _ := View.Helps name
  Answers := View.Answers
  Echoes := View.Echoes name
  ensures_sync := View.ensures_sync
  echoes_of_answers := View.echoes_of_answers
  view_deliver hc hadmits _ := View.view_deliver hc hadmits
  helps_of_echoes hc _ := View.helps_of_echoes hc

end RemoteStatus

/-! ## Quiet states -/

/-- Two texts that are taken for each other because they have the same hash. -/
def Document.Collides (text other : String) : Prop :=
  text ≠ other ∧ contentHash text = contentHash other

namespace Controller

variable {s : Settings} {cluster : Cluster} {c : Controller}

theorem caches_of_isFresh (hfresh : cluster.IsFresh) :
    cluster.caches = ⟨.empty, .empty, .empty, .empty⟩ := by
  rw [Cluster.caches, hfresh.remotes, hfresh.configMaps, hfresh.deployments,
    hfresh.services]

/-- In a quiet state the gateway's ConfigMap holds the document. -/
theorem stored?_of_isQuiet (hfresh : cluster.IsFresh) (hrun : Run (create s cluster) c)
    (hready : c.isReady) (hquiet : c.IsQuiet) {configMap : ConfigMap}
    (hcached : c.cluster.cached? ConfigMap ⟨s.ns, s.configMap⟩ = some configMap) :
    ∃ text, Document.stored? configMap = some text ∧
      (text = c.cluster.documentText ∨
        Document.Collides text c.cluster.documentText) := by
  have hup := isUp_of_isReady hready
  have hc := Run.sound hfresh hrun hup
  have hcurrent : ¬(Document.View.ofCaches s c.cluster.caches).IsDue cluster.secrets := by
    refine Concern.not_due_of_quiet (Document.concern s cluster.secrets) hfresh ?_
      hrun hup hquiet
    rw [caches_of_isFresh hfresh]
    rintro ⟨configMap, hnone, -⟩
    cases hnone
  have htext : (Document.ofRemotes cluster.secrets.get?
      c.cluster.caches.remotes.values).render = c.cluster.documentText := by
    rw [Cluster.documentText, hc.secrets]
    rfl
  have hdiffers : Document.differs configMap c.cluster.documentText = false := by
    rw [← htext, Bool.eq_false_iff]
    exact fun hdiffers => hcurrent ⟨configMap, hcached, hdiffers⟩
  obtain ⟨text, hstored, hhash⟩ := Document.differs_eq_false_iff.1 hdiffers
  refine ⟨text, hstored, ?_⟩
  by_cases hsame : text = c.cluster.documentText
  · exact .inl hsame
  · exact .inr ⟨hsame, hhash⟩

/-- In a quiet state every cached Remote shows the gateway's address. -/
theorem status_of_isQuiet (hfresh : cluster.IsFresh) (hrun : Run (create s cluster) c)
    (hready : c.isReady) (hquiet : c.IsQuiet) {r : Remote}
    (hr : r ∈ c.cluster.allCached Remote) :
    ∃ gateway, c.cluster.cached? Service ⟨s.ns, s.service⟩ = some gateway ∧
      r.status = some (r.statusBehind gateway) := by
  have hup := isUp_of_isReady hready
  have hc := Run.sound hfresh hrun hup
  obtain ⟨ref, hget⟩ := SortedMap.mem_values_iff.1 hr
  obtain ⟨href, hfit⟩ := hc.cluster.remotes.filed ref r hget
  have hlegible : r.metadata.IsLegible := hfit.legible
  have hcached : Store.find? c.cluster.remotes.informer.store
      ⟨some r.metadata.key.ns, r.metadata.key.name⟩ = some r := by
    rw [hc.cluster.remotes.find?_eq, ← hlegible.ref_eq,
      show r.metadata.ref = ref from href]
    exact hget
  have hcurrent : ¬(RemoteStatus.View.ofCaches s r.metadata.key
      c.cluster.caches).IsDue r.metadata.key := by
    refine Concern.not_due_of_quiet
      (RemoteStatus.concern s cluster.secrets r.metadata.key) hfresh ?_ hrun hup hquiet
    rw [caches_of_isFresh hfresh]
    rintro ⟨r, hnone, -⟩
    cases hnone
  by_contra hwrong
  refine hcurrent ⟨r, hcached, hlegible, rfl, fun gateway hgateway hstatus => ?_⟩
  exact hwrong ⟨gateway, hgateway, hstatus⟩

/-- When a run reaches a state in which no key is pending, leased or delayed and
no report is held back, the cached ConfigMap of the gateway holds the document
of the cached Remotes, and each of these shows the address of the gateway's
cached Service in its status.  If Remotes share a qualified name, which of them the
document describes depends on the order in which the cache shows them: here it is
that of their references, and a listing that brings nothing new does not change it. -/
theorem converged_of_isQuiet (s : Settings) {cluster : Cluster} {c : Controller}
    (hfresh : cluster.IsFresh) (hrun : Run (create s cluster) c) (hready : c.isReady)
    (hquiet : c.IsQuiet) :
    (∀ configMap, c.cluster.cached? ConfigMap ⟨s.ns, s.configMap⟩ = some configMap →
      ∃ text, Document.stored? configMap = some text ∧
        (text = c.cluster.documentText ∨
          Document.Collides text c.cluster.documentText)) ∧
    ∀ r ∈ c.cluster.allCached Remote, ∃ gateway,
      c.cluster.cached? Service ⟨s.ns, s.service⟩ = some gateway ∧
      r.status = some (r.statusBehind gateway) :=
  ⟨fun _ hcached => stored?_of_isQuiet hfresh hrun hready hquiet hcached,
    fun _ hr => status_of_isQuiet hfresh hrun hready hquiet hr⟩

/-- An installation in which everything is as it should be comes to rest. -/
theorem converged_of_isQuiet_installation :
    let r := Installation.published
    let m := Installation.configMap Installation.text
    ∃ c, (Installation.cluster r m).IsFresh ∧ Run (create {} (Installation.cluster r m)) c ∧
      c.isReady ∧ c.IsQuiet ∧
      c.cluster.cached? ConfigMap ⟨"kube-system", "gitkube-ci-conf"⟩ = some m ∧
      c.cluster.allCached Remote = [r] ∧
      (∃ text, Document.stored? m = some text ∧
        (text = c.cluster.documentText ∨ Document.Collides text c.cluster.documentText)) ∧
      ∃ gateway, c.cluster.cached? Service ⟨"kube-system", "gitkubed"⟩ = some gateway ∧
        r.status = some (r.statusBehind gateway) := by
  intro r m
  have hfresh := Installation.isFresh_cluster r m
  obtain ⟨c, hrun, hready, hquiet, hcaches⟩ := Installation.exists_run_quiet
  have hremotes : c.cluster.allCached Remote = [r] :=
    congrArg (fun caches : Caches => caches.remotes.values) hcaches
  have hconfigMap : c.cluster.cached? ConfigMap ⟨"kube-system", "gitkube-ci-conf"⟩ = some m :=
    (congrArg (fun caches : Caches => Store.find? caches.configMaps
      ⟨some "kube-system", "gitkube-ci-conf"⟩) hcaches).trans
      (Installation.cached?_listed r Installation.text).1
  obtain ⟨hdocument, hstatus⟩ := converged_of_isQuiet {} hfresh hrun hready hquiet
  exact ⟨c, hfresh, hrun, hready, hquiet, hconfigMap, hremotes, hdocument m hconfigMap,
    hstatus r (hremotes ▸ List.mem_singleton_self r)⟩

end Controller

end GatewaySync
