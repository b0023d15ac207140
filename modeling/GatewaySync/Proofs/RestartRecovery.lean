import GatewaySync.Proofs.Publish

/-!
# Making up for a restart that failed

The document may be written and the restart after it fail.  What the next pass
then knows of the missing restart is the hash that the Deployment records, so
it makes up for the restart exactly when there is such a hash and it is not
that of the document.
-/

namespace GatewaySync

theorem Sha256.length_hexDigest (text : String) : (hexDigest text).length = 64 := by
  simp [hexDigest, hexWord]

namespace Cluster

variable {c : Cluster}

/-- A restart is taken by the server, or it changes nothing. -/
theorem restart_cases (d : Deployment) (hash : String) :
    ∃ faults,
      (c.restart d hash = (.ok (), ((c.facing faults).accept
        (d.restarted hash c.clock) .deployment).count .gatewayRestarts)) ∨
      ∃ reason, c.restart d hash = (.error reason, c.facing faults) := by
  rw [restart]
  obtain ⟨faults, -, ⟨-, hok⟩ | ⟨reason, -, herror⟩⟩ :=
    c.attempt_cases .replaceDeployment (d.restarted hash c.clock) .deployment
  · exact ⟨faults, .inl (by rw [hok])⟩
  · exact ⟨faults, .inr ⟨reason, by rw [herror]⟩⟩

theorem restart_of_spares {d : Deployment} (hash : String)
    (hspares : c.Spares .replaceDeployment) (hrefusal : c.refusal? d = none) :
    ∃ faults, c.restart d hash = (.ok (), ((c.facing faults).accept
      (d.restarted hash c.clock) .deployment).count .gatewayRestarts) := by
  have hrestarted : c.refusal? (d.restarted hash c.clock) = none := hrefusal
  obtain ⟨faults, -, hok⟩ :=
    attempt_of_spares hspares (d.restarted hash c.clock) .deployment
  rw [hrestarted] at hok
  exact ⟨faults, by rw [restart, hok]⟩

/-- If publishing breaks off with the ConfigMap written and nothing else, the
ConfigMap holds the text. -/
theorem stored?_of_interrupted {configMap written : ConfigMap} {d : Deployment}
    {text : String} {reason : Abort} {after : Cluster}
    (hpublish : c.perform (Pass.publish configMap d text) = (.error reason, after))
    (hwritten : after.writes = c.writes ++ [.configMap written]) :
    Document.stored? written = some text := by
  have hnothing : after.writes ≠ c.writes := by
    rw [hwritten]
    simp
  cases hdiffers : Document.differs configMap text with
  | true =>
      rw [perform_publish_changed c hdiffers] at hpublish
      obtain ⟨faults, -, ⟨-, htaken⟩ | ⟨_, -, htaken⟩⟩ :=
        c.attempt_cases .replaceConfigMap (Document.putInto configMap text) .configMap
      · rw [htaken] at hpublish
        dsimp only at hpublish
        set c' := ((c.facing faults).accept
          (Document.putInto configMap text) .configMap).count .documentWrites with hc'
        obtain ⟨faults', hrestart | ⟨_, hrestart⟩⟩ :=
          restart_cases (c := c') d (Document.contentHash text)
        · rw [hrestart] at hpublish
          cases hpublish
        · rw [hrestart] at hpublish
          obtain ⟨-, rfl⟩ := Prod.mk.inj hpublish
          have htext : c'.writes = c.writes ++ [.configMap written] := hwritten
          rw [hc', count, writes_accept] at htext
          obtain ⟨rfl⟩ := Write.configMap.inj
            (List.cons.inj (List.append_cancel_left htext)).1
          exact Document.stored?_putInto configMap text
      · rw [htaken] at hpublish
        obtain ⟨-, rfl⟩ := Prod.mk.inj hpublish
        exact absurd rfl hnothing
  | false =>
      by_cases hbehind : d.IsBehind (Document.contentHash text)
      · rw [perform_publish_behind c hdiffers hbehind] at hpublish
        obtain ⟨faults, hrestart | ⟨_, hrestart⟩⟩ :=
          restart_cases (c := c) d (Document.contentHash text)
        · rw [hrestart] at hpublish
          cases hpublish
        · rw [hrestart] at hpublish
          obtain ⟨-, rfl⟩ := Prod.mk.inj hpublish
          exact absurd rfl hnothing
      · rw [perform_publish_current c hdiffers hbehind] at hpublish
        cases hpublish

end Cluster

namespace Pass

/-- After a pass that wrote the document and failed to restart the gateway, the
next pass restarts it exactly when its Deployment records the hash of another
document.  The caches show the written ConfigMap by then and the same Remotes,
secrets and Deployment, and no call fails. -/
theorem restarts_after_failure_iff_isBehind (s : Settings) (c failed c' : Cluster)
    (reason : Abort) (written : ConfigMap) (d : Deployment)
    (hfailed : c.perform (syncDocument s) = (.error reason, failed))
    (hwritten : failed.writes = c.writes ++ [.configMap written])
    (hconfigMap : c'.cached? ConfigMap ⟨s.ns, s.configMap⟩ = some written)
    (hdeployment : c'.cached? Deployment ⟨s.ns, s.deployment⟩ = some d)
    (hremotes : c'.allCached Remote = c.allCached Remote)
    (hsecrets : c'.secrets = c.secrets)
    (hreads : c'.Spares .readSecret) (hwrites : c'.Spares .replaceDeployment)
    (hrefusal : c'.refusal? d = none)
    (hclock : Text.Decimal.int64Min ≤ c'.clock ∧ c'.clock ≤ Text.Decimal.int64Max) :
    ∃ text after,
      Document.stored? written = some text ∧
      c'.perform (syncDocument s) = (.ok false, after) ∧
      (d.IsBehind (Document.contentHash text) → ∃ d',
        after.writes = c'.writes ++ [.deployment d'] ∧
        d'.rolledFor? = some (Document.contentHash text) ∧
        d'.stampText? ≠ d.stampText?) ∧
      (¬d.IsBehind (Document.contentHash text) → after.writes = c'.writes) := by
  have hstored : Document.stored? written = some c.documentText := by
    obtain ⟨faults, ⟨_, hsync⟩ | ⟨configMap, _, -, -, hsync⟩⟩ :=
      c.perform_syncDocument_cases s
    · rw [hsync] at hfailed
      obtain ⟨-, rfl⟩ := Prod.mk.inj hfailed
      exact absurd hwritten (by simp)
    · rw [hsync] at hfailed
      exact Cluster.stored?_of_interrupted hfailed hwritten
  have htext : c'.documentText = c.documentText := by
    rw [Cluster.documentText, hremotes, hsecrets, Cluster.documentText]
  have hdiffers : Document.differs written c'.documentText = false :=
    Document.differs_eq_false_iff.2 ⟨_, hstored, by rw [htext]⟩
  obtain ⟨faults, hkeep, hsync⟩ :=
    Cluster.perform_syncDocument_of_spares hconfigMap hdeployment hreads
  rw [← htext] at hstored
  by_cases hbehind : d.IsBehind (Document.contentHash c'.documentText)
  · obtain ⟨faults', hrestart⟩ := Cluster.restart_of_spares
      (c := c'.facing faults) (Document.contentHash c'.documentText)
      (hkeep _ hwrites) hrefusal
    rw [Cluster.perform_publish_behind _ hdiffers hbehind, hrestart] at hsync
    refine ⟨_, _, hstored, hsync, ?_, fun hcurrent => absurd hbehind hcurrent⟩
    intro _
    refine ⟨_, Cluster.writes_accept _ _ _, ?_, ?_⟩
    · exact (Deployment.rolledFor?_atVersion _ _).trans
        (Deployment.rolledFor?_restarted d _ _)
    · exact Deployment.stampText?_restarted_ne d _ hclock
  · have hpass : c'.perform (syncDocument s) = (.ok false, c'.facing faults) := by
      rw [hsync, Cluster.perform_publish_current _ hdiffers hbehind]
    exact ⟨_, _, hstored, hpass, fun h => absurd h hbehind, fun _ => rfl⟩

/-- An empty ConfigMap for the document. -/
def emptyConfigMap : ConfigMap :=
  { metadata := { name := some "gitkube-ci-conf", ns := some "kube-system" } }

/-- A Deployment with annotations on its pod template. -/
def annotated (annotations : Texts) : Deployment where
  metadata := { name := some "gitkubed", ns := some "kube-system" }
  spec := some { template := { metadata := some { annotations := some annotations } } }

/-- The gateway's own objects and no Remote.  The first restart fails. -/
def installed (annotations : Texts) : Cluster :=
  ((Cluster.feed {} (.apply emptyConfigMap)).feed (.apply (annotated annotations))).setFaults
    .replaceDeployment [some (.failure (.reported 500 "InternalError" "injected failure"))]

/-- What the failed restart leaves. -/
def interrupted (annotations : Texts) : Cluster :=
  ((installed annotations).perform (syncDocument {})).2

/-- The ConfigMap as the failed restart leaves it. -/
def publishedEmpty : ConfigMap :=
  Cached.atVersion (Document.putInto emptyConfigMap "{}") "3"

/-- The annotations after a restart for some other document. -/
def rolledBefore : Texts :=
  .ofList [(Rollout.stampKey, "7"), (Rollout.hashKey, "before")]

theorem restarts_after_failure_rolledBefore :
    (interrupted rolledBefore).writes = [.configMap publishedEmpty] ∧
      ∃ after d',
        (interrupted rolledBefore).perform (syncDocument {}) = (.ok false, after) ∧
        after.writes = [.configMap publishedEmpty, .deployment d'] ∧
        d'.rolledFor? = some (Document.contentHash "{}") ∧ d'.stampText? ≠ some "7" := by
  have hwritten : (interrupted rolledBefore).writes = [.configMap publishedEmpty] := by
    decide +kernel
  have hbehind : (Cached.atVersion (annotated rolledBefore) "2").IsBehind
      (Document.contentHash "{}") := by
    refine ⟨"before", by decide +kernel, ?_⟩
    intro heq
    have hlength := congrArg String.length heq
    rw [Document.contentHash, Sha256.length_hexDigest] at hlength
    exact absurd hlength (by decide)
  obtain ⟨text, after, htext, hpass, hrestart, -⟩ := restarts_after_failure_iff_isBehind
    {} (installed rolledBefore) (interrupted rolledBefore) (interrupted rolledBefore)
    (.failed (.reported 500 "InternalError" "injected failure")) publishedEmpty
    (Cached.atVersion (annotated rolledBefore) "2")
    (Prod.ext (by decide +kernel) rfl) (by rw [hwritten]; decide +kernel)
    (by decide +kernel) (by decide +kernel) (by decide +kernel) (by decide +kernel)
    (by decide +kernel) (by decide +kernel) (by decide +kernel) (by decide +kernel)
  obtain rfl : "{}" = text := by
    rw [publishedEmpty, Document.stored?_atVersion, Document.stored?_putInto] at htext
    exact Option.some.inj htext
  obtain ⟨d', hwrites, hhash, hstamp⟩ := hrestart hbehind
  rw [hwritten] at hwrites
  have hstampText : (Cached.atVersion (annotated rolledBefore) "2").stampText? =
      some "7" := by decide +kernel
  rw [hstampText] at hstamp
  exact ⟨hwritten, after, d', hpass, hwrites, hhash, hstamp⟩

/-- On a Deployment that was never restarted the failed restart is not made up
for, although no call fails any more. -/
theorem restart_lost_on_first_installation :
    ((installed .empty).perform (syncDocument {})).1 =
        .error (.failed (.reported 500 "InternalError" "injected failure")) ∧
      (interrupted .empty).writes = [.configMap publishedEmpty] ∧
      (interrupted .empty).cached? ConfigMap ⟨"kube-system", "gitkube-ci-conf"⟩ =
        some publishedEmpty ∧
      (interrupted .empty).cached? Deployment ⟨"kube-system", "gitkubed"⟩ =
        (installed .empty).cached? Deployment ⟨"kube-system", "gitkubed"⟩ ∧
      (∀ call, (interrupted .empty).Spares call) ∧
      ((interrupted .empty).perform (syncDocument {})).1 = .ok false ∧
      ((interrupted .empty).perform (syncDocument {})).2.writes =
        [.configMap publishedEmpty] := by
  have hwritten : (interrupted .empty).writes = [.configMap publishedEmpty] := by
    decide +kernel
  have hconfigMap : (interrupted .empty).cached? ConfigMap
      ⟨"kube-system", "gitkube-ci-conf"⟩ = some publishedEmpty := by
    decide +kernel
  have hdeployment : (interrupted .empty).cached? Deployment ⟨"kube-system", "gitkubed"⟩ =
      some (Cached.atVersion (annotated .empty) "2") := by
    decide +kernel
  have htext : (interrupted .empty).documentText = "{}" := by
    decide +kernel
  have hdiffers :
      Document.differs publishedEmpty (interrupted .empty).documentText = false :=
    Document.differs_eq_false_iff.2 ⟨"{}", by decide +kernel, by rw [htext]⟩
  have hcurrent : ¬(Cached.atVersion (annotated .empty) "2").IsBehind
      (Document.contentHash (interrupted .empty).documentText) := by
    rintro ⟨recorded, hrecorded, -⟩
    exact absurd hrecorded (by decide +revert +kernel)
  obtain ⟨faults, -, hpass⟩ := Cluster.perform_syncDocument_of_spares (s := {})
    hconfigMap hdeployment (by decide +kernel)
  rw [Cluster.perform_publish_current _ hdiffers hcurrent] at hpass
  refine ⟨by decide +kernel, hwritten, hconfigMap, ?_, ?_, ?_, ?_⟩
  · rw [hdeployment]
    decide +kernel
  · intro call
    cases call <;> decide +kernel
  · rw [hpass]
  · rw [hpass]
    exact hwritten

end Pass

end GatewaySync
