import GatewaySync.Proofs.Course

/-!
# The calls of the passes for Remotes and for the document

A pass for a Remote starts with the document, and goes on with the Remote's status.
The document is published once both objects have been found and all secrets read, and
publishing it ends with the restart, if there is one.  Each part is told by the calls
that it can make, up to the one that fails.
-/

namespace GatewaySync.Pass

variable {α : Type} {s : Settings} {c : Cluster}

/-! ## Rolling the pods and publishing -/

/-- The calls of a restart, in a pass that goes on with a value. -/
inductive Restarts (d : Deployment) (hash : String) (a : α) :
    List Exchange → Except Abort α → Prop
  | rolled (c : Cluster) : Restarts d hash a
      [.looked c, .wrote (.deployment (d.restarted hash c.clock)) (.ok ()),
        .counted .gatewayRestarts] (.ok a)
  | failed (c : Cluster) (reason : Abort) : Restarts d hash a
      [.looked c, .wrote (.deployment (d.restarted hash c.clock)) (.error reason)]
      (.error reason)

theorem course_restart {d : Deployment} {hash : String} {a : α} {exchanges : List Exchange}
    {result : Except Abort α}
    (hcourse : (do
      replaceDeployment (d.restarted hash (← look).clock)
      count .gatewayRestarts
      pure a : Pass α).Course exchanges result) :
    Restarts d hash a exchanges result := by
  cases hcourse with
  | looking c hwrite =>
      cases hwrite with
      | unwritten reason => exact .failed c reason
      | writing hcount =>
          cases hcount with
          | counting hdone =>
              cases hdone
              exact .rolled c

/-- The calls of publishing a document. -/
inductive Publishes (m : ConfigMap) (d : Deployment) (text : String) :
    List Exchange → Except Abort Bool → Prop
  | current (hdiffers : Document.differs m text = false)
      (hcurrent : ¬d.IsBehind (Document.contentHash text)) : Publishes m d text [] (.ok false)
  | behind {exchanges : List Exchange} {result : Except Abort Bool}
      (hdiffers : Document.differs m text = false)
      (hbehind : d.IsBehind (Document.contentHash text))
      (hrestart : Restarts d (Document.contentHash text) false exchanges result) :
      Publishes m d text exchanges result
  | refused (reason : Abort) : Publishes m d text
      [.wrote (.configMap (Document.putInto m text)) (.error reason)] (.error reason)
  | written {exchanges : List Exchange} {result : Except Abort Bool}
      (hrestart : Restarts d (Document.contentHash text) true exchanges result) :
      Publishes m d text
        (.wrote (.configMap (Document.putInto m text)) (.ok ()) ::
          .counted .documentWrites :: exchanges) result

theorem course_publish {m : ConfigMap} {d : Deployment} {text : String}
    {exchanges : List Exchange} {result : Except Abort Bool}
    (hcourse : (publish m d text).Course exchanges result) :
    Publishes m d text exchanges result := by
  cases hdiffers : Document.differs m text with
  | true =>
      simp only [publish, hdiffers, Bool.true_or, if_true] at hcourse
      cases hcourse with
      | unwritten reason => exact .refused reason
      | writing hcount =>
          cases hcount with
          | counting hrestart => exact .written (course_restart hrestart)
  | false =>
      by_cases hbehind : d.IsBehind (Document.contentHash text)
      · simp only [publish, hdiffers, Deployment.isBehind_iff.1 hbehind, Bool.or_true,
          Bool.false_eq_true, if_false, if_true] at hcourse
        exact .behind hdiffers hbehind (course_restart hcourse)
      · have hany : d.rolledFor?.any (· != Document.contentHash text) = false := by
          rw [Deployment.isBehind_iff] at hbehind
          exact Bool.eq_false_iff.2 hbehind
        simp only [publish, hdiffers, hany, Bool.or_self, Bool.false_eq_true, if_false] at hcourse
        obtain ⟨rfl, rfl⟩ := course_pure_iff.1 hcourse
        exact .current hdiffers hbehind

/-! ## A pass for the document -/

/-- The calls of a pass for the document, whose caches are first seen as in a cluster. -/
inductive SyncsDocument (s : Settings) (c : Cluster) :
    List Exchange → Except Abort Bool → Prop
  | missing (looks : List Cluster) (reason : Abort) :
      SyncsDocument s c (looks.map .looked) (.error reason)
  | unreadable (looks : List Cluster) (sources : List Document.Source)
      (ref : NamespacedName) (reason : Abort) :
      SyncsDocument s c (looks.map .looked ++
        (sources.filterMap Document.Source.lookUp? ++ [.read ref (.error reason)]))
        (.error reason)
  | published (looks : List Cluster) {sources : List Document.Source} {m : ConfigMap}
      {d : Deployment} {later : List Exchange} {result : Except Abort Bool}
      (hconfigMap : c.cached? ConfigMap ⟨s.ns, s.configMap⟩ = some m)
      (hdeployment : c.cached? Deployment ⟨s.ns, s.deployment⟩ = some d)
      (hgathers : Gathers (c.allCached Remote)
        (sources.filterMap Document.Source.lookUp?) sources)
      (hpublishes : Publishes m d (Document.build sources).render later result) :
      SyncsDocument s c (looks.map .looked ++
        (sources.filterMap Document.Source.lookUp? ++ later)) result

section Caches

variable {c' : Cluster} (hcaches : c'.caches = c.caches) {name : NamespacedName}
include hcaches

theorem cached?_remote_of_caches_eq : c'.cached? Remote name = c.cached? Remote name :=
  congrArg (fun caches : Caches => Store.find? caches.remotes ⟨some name.ns, name.name⟩) hcaches

theorem cached?_configMap_of_caches_eq : c'.cached? ConfigMap name = c.cached? ConfigMap name :=
  congrArg (fun caches : Caches => Store.find? caches.configMaps ⟨some name.ns, name.name⟩)
    hcaches

theorem cached?_deployment_of_caches_eq :
    c'.cached? Deployment name = c.cached? Deployment name :=
  congrArg (fun caches : Caches => Store.find? caches.deployments ⟨some name.ns, name.name⟩)
    hcaches

theorem allCached_remote_of_caches_eq : c'.allCached Remote = c.allCached Remote :=
  congrArg (fun caches : Caches => caches.remotes.values) hcaches

end Caches

theorem course_syncDocument {exchanges : List Exchange} {result : Except Abort Bool}
    (hcourse : (syncDocument s).Course exchanges result)
    (hsees : FirstSees c.caches exchanges) : SyncsDocument s c exchanges result := by
  rw [syncDocument, gatewayConfigMap, course_gatewayObject_bind_iff] at hcourse
  obtain ⟨c₁, _, rfl, ⟨m, hconfigMap, hcourse⟩ | ⟨-, rfl, rfl⟩⟩ := hcourse
  case inr => exact .missing [c₁] _
  rw [gatewayDeployment, course_gatewayObject_bind_iff] at hcourse
  obtain ⟨c₂, _, rfl, ⟨d, hdeployment, hcourse⟩ | ⟨-, rfl, rfl⟩⟩ := hcourse
  case inr => exact .missing [c₁, c₂] _
  rw [course_look_bind_iff] at hcourse
  obtain ⟨c₃, _, rfl, hcourse⟩ := hcourse
  obtain ⟨hfirst, hsecond, hthird, -⟩ := hsees
  rw [cached?_configMap_of_caches_eq hfirst] at hconfigMap
  rw [cached?_deployment_of_caches_eq hsecond] at hdeployment
  rw [allCached_remote_of_caches_eq hthird, course_bind_iff] at hcourse
  obtain ⟨reason, rfl, hgather⟩ | ⟨sources, _, later, rfl, hgather, hpublish⟩ := hcourse
  · obtain ⟨sources, ref, rfl⟩ := course_gather_error hgather
    exact .unreadable [c₁, c₂, c₃] sources ref reason
  · have hgathers := course_gather_ok_iff.1 hgather
    obtain rfl := hgathers.lookUps
    exact .published [c₁, c₂, c₃] hconfigMap hdeployment hgathers (course_publish hpublish)

/-! ## A pass for a Remote -/

/-- The calls that publish the address of a Remote, behind the document. -/
inductive Addresses (r : Remote) : List Exchange → Except Abort Unit → Prop
  | missing (c : Cluster) (reason : Abort) : Addresses r [.looked c] (.error reason)
  | current (c : Cluster) : Addresses r [.looked c] (.ok ())
  | patched (c : Cluster) (gateway : Service) (series : Series) : Addresses r
      [.looked c, .wrote (.status { r with status := some (r.statusBehind gateway) }) (.ok ()),
        .counted series] (.ok ())
  | unpatched (c : Cluster) (gateway : Service) (reason : Abort) : Addresses r
      [.looked c, .wrote (.status { r with status := some (r.statusBehind gateway) })
        (.error reason)] (.error reason)

theorem course_addresses {r : Remote} {name : NamespacedName} {exchanges : List Exchange}
    {result : Except Abort Unit}
    (hcourse : (do
      let status := r.statusBehind (← gatewayService s)
      if r.status ≠ some status then
        patchStatus r status
        count (.statusUpdates name.ns name.name) : Pass Unit).Course exchanges result) :
    Addresses r exchanges result := by
  rw [gatewayService, course_gatewayObject_bind_iff] at hcourse
  obtain ⟨c, later, rfl, ⟨gateway, -, hcourse⟩ | ⟨-, rfl, rfl⟩⟩ := hcourse
  case inr => exact .missing c _
  dsimp only at hcourse
  split_ifs at hcourse
  · cases hcourse with
    | unwritten reason => exact .unpatched c gateway reason
    | writing hcount =>
        cases hcount with
        | counting hdone =>
            cases hdone
            exact .patched c gateway _
  · obtain ⟨rfl, rfl⟩ := course_pure_iff.1 hcourse
    exact .current c

/-- The calls of a pass for a Remote, whose caches are first seen as in a cluster. -/
inductive SyncsRemote (s : Settings) (c : Cluster) (key : String) :
    List Exchange → Except Abort Unit → Prop
  | invalid (reason : Abort) : SyncsRemote s c key [] (.error reason)
  | gone (c₁ : Cluster) {name : NamespacedName}
      (hkey : NamespacedName.ofString? key = some name)
      (hgone : c.cached? Remote name = none) : SyncsRemote s c key [.looked c₁] (.ok ())
  | stopped (c₁ : Cluster) {exchanges : List Exchange} {reason : Abort}
      (hsyncs : SyncsDocument s c exchanges (.error reason)) :
      SyncsRemote s c key (.looked c₁ :: exchanges) (.error reason)
  | synced (c₁ : Cluster) {name : NamespacedName} {r : Remote} {written : Bool}
      {exchanges later : List Exchange} {result : Except Abort Unit}
      (hcached : c.cached? Remote name = some r)
      (hsyncs : SyncsDocument s c exchanges (.ok written))
      (haddresses : Addresses r later result) :
      SyncsRemote s c key (.looked c₁ :: (exchanges ++ later)) result

theorem course_syncRemote {key : String} {exchanges : List Exchange}
    {result : Except Abort Unit} (hcourse : (syncRemote s key).Course exchanges result)
    (hsees : FirstSees c.caches exchanges) : SyncsRemote s c key exchanges result := by
  rw [syncRemote, parseKey] at hcourse
  cases hkey : NamespacedName.ofString? key with
  | none =>
      rw [hkey] at hcourse
      obtain ⟨_, rfl, hfail⟩ | ⟨_, _, _, -, hfail, -⟩ := course_bind_iff.1 hcourse
      · obtain ⟨rfl, -⟩ := course_fail_iff.1 hfail
        exact .invalid _
      · cases (course_fail_iff.1 hfail).2
  | some name =>
      rw [hkey, pure_bind, course_look_bind_iff] at hcourse
      obtain ⟨c₁, _, rfl, hcourse⟩ := hcourse
      obtain ⟨hfirst, hsees⟩ := hsees
      rw [cached?_remote_of_caches_eq hfirst] at hcourse
      cases hcached : c.cached? Remote name with
      | none =>
          rw [hcached] at hcourse
          obtain ⟨rfl, rfl⟩ := course_pure_iff.1 hcourse
          exact .gone c₁ hkey hcached
      | some r =>
          rw [hcached] at hcourse
          obtain ⟨reason, rfl, hdocument⟩ | ⟨_, _, later, rfl, hdocument, haddress⟩ :=
            course_bind_iff.1 hcourse
          · exact .stopped c₁ (course_syncDocument hdocument hsees)
          · exact .synced c₁ hcached (course_syncDocument hdocument hsees.of_append)
              (course_addresses haddress)

end GatewaySync.Pass
