import GatewaySync.Proofs.Perform
import GatewaySync.Proofs.RestartStamp

/-!
# What publishing the document writes

Publishing has three outcomes.  A ConfigMap that holds another text is written
and the gateway restarted; a ConfigMap that holds the text already is left
alone, and the gateway is restarted only if its Deployment records another
hash; and if neither is so, nothing is written at all.
-/

namespace GatewaySync

namespace Document

/-- The ConfigMap holds the text, as far as hashes can tell. -/
theorem differs_eq_false_iff {configMap : ConfigMap} {text : String} :
    differs configMap text = false ↔
      ∃ held, stored? configMap = some held ∧ contentHash held = contentHash text := by
  rw [differs]
  cases stored? configMap with
  | none => simp
  | some held => simp

@[simp]
theorem stored?_putInto (configMap : ConfigMap) (text : String) :
    stored? (putInto configMap text) = some text := by
  simp [stored?, putInto]

@[simp]
theorem stored?_atVersion (configMap : ConfigMap) (version : String) :
    stored? (Cached.atVersion configMap version) = stored? configMap := rfl

end Document

namespace Deployment

/-- The pods were last rolled for a document of another hash. -/
def IsBehind (d : Deployment) (hash : String) : Prop :=
  ∃ recorded, d.rolledFor? = some recorded ∧ recorded ≠ hash

theorem isBehind_iff {d : Deployment} {hash : String} :
    d.IsBehind hash ↔ d.rolledFor?.any (· != hash) = true := by
  rw [IsBehind]
  cases d.rolledFor? with
  | none => simp
  | some recorded => simp

instance (d : Deployment) (hash : String) : Decidable (d.IsBehind hash) :=
  decidable_of_iff _ isBehind_iff.symm

@[simp]
theorem rolledFor?_atVersion (d : Deployment) (version : String) :
    (Cached.atVersion d version).rolledFor? = d.rolledFor? := rfl

end Deployment

namespace Cluster

variable (c : Cluster)

/-- The text of the document as the caches have it. -/
def documentText : String :=
  (Document.ofRemotes c.secrets.get? (c.allCached Remote)).render

/-- The gateway's pods are rolled: the Deployment is replaced and the restart
counted. -/
def restart (d : Deployment) (hash : String) : Except Abort Unit × Cluster :=
  match c.attempt .replaceDeployment (d.restarted hash c.clock) .deployment with
  | (.ok (), c) => (.ok (), c.count .gatewayRestarts)
  | (.error reason, c) => (.error reason, c)

theorem perform_restart {α : Type} (d : Deployment) (hash : String) (rest : Pass α) :
    c.perform (do
      Pass.replaceDeployment (d.restarted hash (← Pass.look).clock)
      Pass.count .gatewayRestarts
      rest) =
      match c.restart d hash with
      | (.ok (), c) => c.perform rest
      | (.error reason, c) => (.error reason, c) := by
  rw [perform_bind_ok (perform_look c), perform_bind, perform_replaceDeployment,
    restart]
  cases c.attempt .replaceDeployment (d.restarted hash c.clock) .deployment with
  | mk result c' =>
      cases result with
      | ok _ => exact perform_bind_ok (perform_count c' .gatewayRestarts)
      | error reason => rfl

theorem perform_parseKey (key : String) :
    c.perform (Pass.parseKey key) =
      match NamespacedName.ofString? key with
      | some name => (.ok name, c)
      | none => (.error (.failed (.invalidKey key)), c) := by
  rw [Pass.parseKey]
  cases NamespacedName.ofString? key <;> rfl

variable {configMap : ConfigMap} {d : Deployment} {text : String}

/-- The document is current and so are the pods: nothing is written. -/
theorem perform_publish_current (hdiffers : Document.differs configMap text = false)
    (hbehind : ¬d.IsBehind (Document.contentHash text)) :
    c.perform (Pass.publish configMap d text) = (.ok false, c) := by
  have hany : d.rolledFor?.any (· != Document.contentHash text) = false := by
    rw [Deployment.isBehind_iff] at hbehind
    exact Bool.eq_false_iff.2 hbehind
  simp only [Pass.publish, hdiffers, hany, Bool.or_self, Bool.false_eq_true, if_false]
  rfl

/-- The document is current and the pods are not: the gateway is restarted. -/
theorem perform_publish_behind (hdiffers : Document.differs configMap text = false)
    (hbehind : d.IsBehind (Document.contentHash text)) :
    c.perform (Pass.publish configMap d text) =
      match c.restart d (Document.contentHash text) with
      | (.ok (), c) => (.ok false, c)
      | (.error reason, c) => (.error reason, c) := by
  simp only [Pass.publish, hdiffers, Deployment.isBehind_iff.1 hbehind, Bool.or_true,
    Bool.false_eq_true, if_false, if_true]
  exact c.perform_restart d _ (pure false)

/-- The document has changed: it is written and the gateway restarted. -/
theorem perform_publish_changed (hdiffers : Document.differs configMap text = true) :
    c.perform (Pass.publish configMap d text) =
      match c.attempt .replaceConfigMap (Document.putInto configMap text) .configMap with
      | (.error reason, c) => (.error reason, c)
      | (.ok (), c) =>
        match (c.count .documentWrites).restart d (Document.contentHash text) with
        | (.ok (), c) => (.ok true, c)
        | (.error reason, c) => (.error reason, c) := by
  simp only [Pass.publish, hdiffers, Bool.true_or, if_true]
  rw [perform_bind, perform_replaceConfigMap]
  cases c.attempt .replaceConfigMap (Document.putInto configMap text) .configMap with
  | mk result c' =>
      cases result with
      | error reason => rfl
      | ok _ =>
          dsimp only
          rw [perform_bind_ok (perform_count c' .documentWrites)]
          exact (c'.count .documentWrites).perform_restart d _ (pure true)

/-- Where the gateway's objects are cached, a pass for the document looks up the
secrets and publishes. -/
theorem perform_syncDocument_of_cached {s : Settings}
    (hconfigMap : c.cached? ConfigMap ⟨s.ns, s.configMap⟩ = some configMap)
    (hdeployment : c.cached? Deployment ⟨s.ns, s.deployment⟩ = some d) :
    c.perform (Pass.syncDocument s) =
      c.perform (do
        let sources ← Document.gather Pass.readSecret (c.allCached Remote)
        Pass.publish configMap d (Document.build sources).render) := by
  have hfirst := c.perform_gatewayObject ConfigMap ⟨s.ns, s.configMap⟩
  have hsecond := c.perform_gatewayObject Deployment ⟨s.ns, s.deployment⟩
  rw [hconfigMap] at hfirst
  rw [hdeployment] at hsecond
  rw [Pass.syncDocument, Pass.gatewayConfigMap, Pass.gatewayDeployment,
    perform_bind_ok hfirst, perform_bind_ok hsecond, perform_bind_ok (perform_look c)]

/-- A pass for the document fails before it writes anything, or it comes to
publishing the document of the cached Remotes. -/
theorem perform_syncDocument_cases (s : Settings) :
    ∃ faults,
      (∃ reason, c.perform (Pass.syncDocument s) = (.error reason, c.facing faults)) ∨
      ∃ configMap d,
        c.cached? ConfigMap ⟨s.ns, s.configMap⟩ = some configMap ∧
        c.cached? Deployment ⟨s.ns, s.deployment⟩ = some d ∧
        c.perform (Pass.syncDocument s) =
          (c.facing faults).perform (Pass.publish configMap d c.documentText) := by
  have hfirst := c.perform_gatewayObject ConfigMap ⟨s.ns, s.configMap⟩
  have hsecond := c.perform_gatewayObject Deployment ⟨s.ns, s.deployment⟩
  cases hconfigMap : c.cached? ConfigMap ⟨s.ns, s.configMap⟩ with
  | none =>
      rw [hconfigMap] at hfirst
      exact ⟨c.faults, .inl ⟨_, perform_bind_error hfirst⟩⟩
  | some configMap =>
      cases hdeployment : c.cached? Deployment ⟨s.ns, s.deployment⟩ with
      | none =>
          rw [hconfigMap] at hfirst
          rw [hdeployment] at hsecond
          exact ⟨c.faults, .inl ⟨_, (perform_bind_ok hfirst).trans (perform_bind_error hsecond)⟩⟩
      | some d =>
          rw [perform_syncDocument_of_cached c hconfigMap hdeployment]
          obtain ⟨faults, hgather | ⟨reason, hgather⟩⟩ :=
            c.perform_gather_cases (c.allCached Remote)
          · exact ⟨faults, .inr ⟨configMap, d, rfl, rfl, perform_bind_ok hgather⟩⟩
          · exact ⟨faults, .inl ⟨reason, perform_bind_error hgather⟩⟩

variable {c}

theorem perform_syncDocument_of_spares {s : Settings}
    (hconfigMap : c.cached? ConfigMap ⟨s.ns, s.configMap⟩ = some configMap)
    (hdeployment : c.cached? Deployment ⟨s.ns, s.deployment⟩ = some d)
    (hreads : c.Spares .readSecret) :
    ∃ faults, (∀ call, c.Spares call → (c.facing faults).Spares call) ∧
      c.perform (Pass.syncDocument s) =
        (c.facing faults).perform (Pass.publish configMap d c.documentText) := by
  obtain ⟨faults, hgather, hkeep⟩ := perform_gather (c.allCached Remote) hreads
  refine ⟨faults, hkeep, ?_⟩
  rw [perform_syncDocument_of_cached c hconfigMap hdeployment, perform_bind_ok hgather]
  rfl

/-- A write that meets no fault is taken unless it is refused. -/
theorem attempt_of_spares {α : Type} [Stored α] {call : Call} (hspares : c.Spares call)
    (a : α) (write : α → Write) :
    ∃ faults, (∀ k, c.Spares k → (c.facing faults).Spares k) ∧
      c.attempt call a write =
        match c.refusal? a with
        | none => (.ok (), (c.facing faults).accept a write)
        | some f => (.error (.failed f), c.facing faults) := by
  refine ⟨(c.past call).faults, fun k hk => hk.past _, ?_⟩
  rw [attempt_eq, hspares.nextFault]
  cases c.refusal? a <;> rfl

end Cluster

end GatewaySync
