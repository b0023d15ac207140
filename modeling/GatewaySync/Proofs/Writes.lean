import GatewaySync.Proofs.Perform

/-!
# What a pass may still write

However the calls of a pass are answered, it writes objects that it has read in
the caches: a ConfigMap with another document, a Deployment that is restarted,
and a Remote with another status.  So what holds of all such objects holds of
whatever is left of a pass, at any time.
-/

namespace GatewaySync

namespace Pass

variable {α β : Type}

section

variable (view : Cluster → Prop) (allowed : Write → Prop)

/-- However the calls are answered, only allowed objects are written and the
result is good, as long as the caches are as in the view whenever the pass looks
at them. -/
def Writes (good : α → Prop) : Pass α → Prop
  | .done a => good a
  | .abort _ => True
  | .looking next => ∀ c, view c → Writes good (next c)
  | .reading _ next => ∀ found, Writes good (next found)
  | .writing write next => allowed write ∧ Writes good next
  | .counting _ next => Writes good next

/-- Cached ConfigMaps may be written with any document, and Deployments restarted. -/
structure AllowsDocument : Prop where
  document : ∀ c name configMap, view c → c.cached? ConfigMap name = some configMap →
    ∀ text, allowed (.configMap (Document.putInto configMap text))
  restart : ∀ c name d, view c → c.cached? Deployment name = some d →
    ∀ hash now, allowed (.deployment (d.restarted hash now))

/-- Whatever passes make of cached objects may be written. -/
structure Allows : Prop extends AllowsDocument view allowed where
  status : ∀ c name r, view c → c.cached? Remote name = some r →
    ∀ status, allowed (.status { r with status })

end

variable {view : Cluster → Prop} {allowed : Write → Prop} {good : α → Prop}

theorem Writes.bind {p : Pass α} {f : α → Pass β} {good' : β → Prop}
    (hp : p.Writes view allowed good) (hf : ∀ a, good a → (f a).Writes view allowed good') :
    (p >>= f).Writes view allowed good' := by
  change (p.andThen f).Writes view allowed good'
  induction p with
  | done a => exact hf a hp
  | abort reason => exact trivial
  | looking next ih => exact fun c hc => ih c (hp c hc)
  | reading name next ih => exact fun found => ih found (hp found)
  | writing write next ih => exact ⟨hp.1, ih hp.2⟩
  | counting series next ih => exact ih hp

/-- A call takes nothing back of what can be said of the pass. -/
theorem Writes.step {p : Pass α} {c : Cluster} (hp : p.Writes view allowed good)
    (hc : view c) : (p.step c).1.Writes view allowed good := by
  cases p with
  | done | abort | counting => exact hp
  | looking next => exact hp c hc
  | reading name next =>
      rw [Pass.step]
      cases c.fetch name with
      | mk result c' =>
          cases result with
          | ok found => exact hp found
          | error reason => exact trivial
  | writing w next =>
      rw [Pass.step]
      cases c.submit w with
      | mk result c' =>
          cases result with
          | ok _ => exact hp.2
          | error reason => exact trivial

theorem writes_gatewayObject (α : Type) [Stored α] {good : α → Prop} {name : NamespacedName}
    (hgood : ∀ c a, view c → Cluster.cached? α c name = some a → good a) :
    (gatewayObject α name).Writes view allowed good := by
  intro c hc
  dsimp only [andThen]
  cases hcached : c.cached? α name with
  | some a => exact hgood c a hc hcached
  | none => exact trivial

theorem writes_gather (remotes : List Remote) :
    (Document.gather readSecret remotes).Writes view allowed fun _ => True := by
  rw [Document.gather]
  induction remotes with
  | nil => exact trivial
  | cons r rest ih =>
      have hfirst : (Document.gatherOne readSecret r).Writes view allowed fun _ => True := by
        rw [Document.gatherOne]
        cases Document.secretRef? r with
        | none => exact trivial
        | some ref => exact fun _ => trivial
      rw [List.mapM_cons]
      exact hfirst.bind fun _ _ => ih.bind fun _ _ => trivial

theorem writes_publish {configMap : ConfigMap} {d : Deployment} (text : String)
    (hdocument : allowed (.configMap (Document.putInto configMap text)))
    (hrestart : ∀ hash now, allowed (.deployment (d.restarted hash now))) :
    (publish configMap d text).Writes view allowed fun _ => True := by
  have hrestarts : ∀ restart written : Bool, ((do
      if restart then
        replaceDeployment (d.restarted (Document.contentHash text) (← look).clock)
        count .gatewayRestarts
      return written) : Pass Bool).Writes view allowed fun _ => True := by
    intro restart written
    cases restart with
    | false => exact trivial
    | true => exact fun _ _ => ⟨hrestart _ _, trivial⟩
  cases hdiffers : Document.differs configMap text with
  | false =>
      simp only [publish, hdiffers, Bool.false_or, Bool.false_eq_true, if_false]
      exact hrestarts _ false
  | true =>
      simp only [publish, hdiffers, Bool.true_or, if_true]
      exact ⟨hdocument, hrestarts true true⟩

theorem writes_syncDocument (hallows : AllowsDocument view allowed) (s : Settings) :
    (syncDocument s).Writes view allowed fun _ => True := by
  apply (writes_gatewayObject ConfigMap fun c m hc => hallows.document c _ m hc).bind
  intro configMap hdocument
  apply (writes_gatewayObject Deployment fun c d hc => hallows.restart c _ d hc).bind
  intro d hrestart _ _
  exact (writes_gather _).bind fun _ _ => writes_publish _ (hdocument _) hrestart

theorem writes_parseKey (key : String) :
    (parseKey key).Writes view allowed fun _ => True := by
  rw [parseKey]
  cases NamespacedName.ofString? key <;> exact trivial

theorem writes_syncRemote (hallows : Allows view allowed) (s : Settings) (key : String) :
    (syncRemote s key).Writes view allowed fun _ => True := by
  apply (writes_parseKey key).bind
  intro name _ c hc
  cases hcached : c.cached? Remote name with
  | none =>
      simp only [andThen, hcached]
      exact trivial
  | some r =>
      simp only [andThen, hcached]
      apply (writes_syncDocument hallows.toAllowsDocument s).bind
      intro _ _
      apply (writes_gatewayObject Service fun _ _ _ _ => trivial).bind
      intro gateway _
      by_cases hwrong : r.status ≠ some (r.statusBehind gateway)
      · rw [if_pos hwrong]
        exact ⟨hallows.status c name r hc hcached _, trivial⟩
      · rw [if_neg hwrong]
        exact trivial

theorem writes_syncConfigMap (hallows : Allows view allowed) (s : Settings) (key : String) :
    (syncConfigMap s key).Writes view allowed fun _ => True := by
  apply (writes_parseKey key).bind
  intro name _
  by_cases hname : name = ⟨s.ns, s.configMap⟩
  · rw [if_pos hname]
    exact (writes_syncDocument hallows.toAllowsDocument s).bind fun _ _ => trivial
  · rw [if_neg hname]
    exact trivial

theorem writes_sync (hallows : Allows view allowed) (s : Settings) (h : Handler)
    (key : String) : (sync s h key).Writes view allowed fun _ => True := by
  cases h with
  | remote => exact (writes_syncRemote hallows s key).bind fun _ _ => trivial
  | configMap => exact (writes_syncConfigMap hallows s key).bind fun _ _ => trivial
  | gateway => exact (writes_parseKey key).bind fun _ _ => fun _ _ => trivial

end Pass

end GatewaySync
