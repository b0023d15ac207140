import GatewaySync.Proofs.Phases
import GatewaySync.Proofs.StaleWrites
import GatewaySync.Proofs.WindingDown

/-!
# What is sure in each phase

A cache counts as filled when a listing of its kind has ended, and stays filled.
The workers are started with filled caches only; before that, and after a wait that
was given up, nobody holds a key and nothing has been written.  Each way in which a
run moves on leads to a phase in which what is sure there holds.
-/

namespace GatewaySync

/-! ## What the caches have been told -/

/-- The kind of objects that a report is about. -/
def Report.kind : Report → Kind
  | .remote _ => .remote
  | .configMap _ => .configMap
  | .deployment _ => .deployment
  | .service _ => .service

/-- The report ends a listing. -/
def Report.EndsListing : Report → Prop
  | .remote e => e = .listEnd
  | .configMap e => e = .listEnd
  | .deployment e => e = .listEnd
  | .service e => e = .listEnd

theorem Informer.synced_step {α : Type} [Cached α] {i : Informer α} {e : WatchEvent α}
    (hsynced : (i.step e).1.synced = true) : i.synced = true ∨ e = .listEnd := by
  cases e with
  | listEnd => exact .inr rfl
  | apply | delete | listStart | listItem => exact .inl hsynced

theorem Informer.synced_step_of_synced {α : Type} [Cached α] {i : Informer α}
    (hsynced : i.synced = true) (e : WatchEvent α) : (i.step e).1.synced = true := by
  cases e with
  | listEnd => rfl
  | apply | delete | listStart | listItem => exact hsynced

namespace Cluster

variable {c c' : Cluster} {kind : Kind}

theorem isListed_of_sameCaches (hsame : c.SameCaches c') : c'.isListed kind = c.isListed kind := by
  cases kind with
  | remote => rw [isListed, hsame.remotes, isListed]
  | configMap => rw [isListed, hsame.configMaps, isListed]
  | deployment => rw [isListed, hsame.deployments, isListed]
  | service => rw [isListed, hsame.services, isListed]

/-- A cache is filled by a report that ends a listing of its kind, and by nothing else. -/
theorem isListed_deliver {report : Report} (hlisted : (c.deliver report).isListed kind = true) :
    c.isListed kind = true ∨ report.kind = kind ∧ report.EndsListing := by
  cases report with
  | remote e | configMap e | deployment e | service e =>
      rw [deliver, observe] at hlisted
      split at hlisted
      · cases kind with
        | remote | configMap | deployment | service =>
            first
              | exact (Informer.synced_step hlisted).imp id fun hend => ⟨rfl, hend⟩
              | exact .inl hlisted
      · exact .inl hlisted

theorem isListed_deliver_of_isListed (hlisted : c.isListed kind = true) (report : Report) :
    (c.deliver report).isListed kind = true := by
  cases report with
  | remote e | configMap e | deployment e | service e =>
      rw [Cluster.deliver, observe]
      split
      · cases kind with
        | remote | configMap | deployment | service =>
            first
              | exact Informer.synced_step_of_synced hlisted e
              | exact hlisted
      · exact hlisted

/-- A call of a pass fills no cache, and empties none. -/
theorem isListed_step (c : Cluster) (p : Pass (List String)) :
    (p.step c).2.isListed kind = c.isListed kind := by
  obtain hsame | ⟨w, next, -, htaken⟩ := Scene.step_cases c p
  · exact isListed_of_sameCaches hsame
  · have hsynced : ∀ {α : Type} [Cached α] {i i' : Informer α} {a : α},
        i' = i ∨ i' = (i.step (.apply a)).1 → i'.synced = i.synced := by
      rintro α _ i i' a (rfl | rfl) <;> rfl
    rw [htaken]
    cases w with
    | configMap a =>
        obtain ⟨informer, _, _, haccept, hinformer, -⟩ :=
          (c.past .replaceConfigMap).exists_accept_eq a .configMap
        rw [take, Write.call, haccept]
        cases kind with
        | configMap => exact hsynced hinformer
        | remote | deployment | service => rfl
    | deployment a =>
        obtain ⟨informer, _, _, haccept, hinformer, -⟩ :=
          (c.past .replaceDeployment).exists_accept_eq a .deployment
        rw [take, Write.call, haccept]
        cases kind with
        | deployment => exact hsynced hinformer
        | remote | configMap | service => rfl
    | status a =>
        obtain ⟨informer, _, _, haccept, hinformer, -⟩ :=
          (c.past .patchStatus).exists_accept_eq a .status
        rw [take, Write.call, haccept]
        cases kind with
        | remote => exact hsynced hinformer
        | configMap | deployment | service => rfl

theorem writes_deliver (report : Report) : (c.deliver report).writes = c.writes := by
  cases report with
  | remote e | configMap e | deployment e | service e => exact writes_observe c e

end Cluster

/-! ## Phases -/

namespace Controller

variable {c : Controller} {h : Handler}

/-- No worker holds a key. -/
def IsIdle (c : Controller) : Prop := ∀ h, (c.lane h).worker = .idle

/-- The run ends without the workers ever having been started. -/
def HasFailed (c : Controller) : Prop :=
  ∃ reason, c.phase = .ended (.error (.cachesNotSynced reason))

/-- The stop signal was taken after the workers had been started. -/
def IsStopping (c : Controller) : Prop := c.phase = .draining ∨ c.phase = .ended (.ok ())

theorem isDrained_iff : c.isDrained = true ↔ ∀ h, (c.lane h).queue.leased = [] := by
  simp only [isDrained, WorkQueue.isDrained, Bool.and_eq_true, List.isEmpty_iff]
  constructor
  · rintro ⟨⟨hremote, hconfigMap⟩, hgateway⟩ h
    cases h with
    | remote => exact hremote
    | configMap => exact hconfigMap
    | gateway => exact hgateway
  · exact fun hleased => ⟨⟨hleased .remote, hleased .configMap⟩, hleased .gateway⟩

section Proceeds

variable {c' : Controller} (hproceeds : c.Proceeds c')
include hproceeds

theorem Proceeds.follows (h : Handler) : (c.lane h).Follows (c'.lane h) := by
  obtain hsame | ⟨-, hclose⟩ := hproceeds.lane_eq h
  · rw [hsame]
    exact .refl _
  · rw [hclose]
    exact Lane.follows_close _

theorem Proceeds.phase_cases :
    c'.phase = c.phase ∨
    (c.phase = .created ∧ ∃ deadline, c'.phase = .filling deadline) ∨
    (∃ deadline, c.phase = .filling deadline ∧ (c'.phase = .running ∨ c'.HasFailed)) ∨
    (c.phase = .running ∧ c'.phase = .draining) ∨
    (c.phase = .draining ∧ c'.phase = .ended (.ok ())) := by
  cases hproceeds with
  | stays => exact .inl rfl
  | fills hphase => exact .inr (.inl ⟨hphase, _, rfl⟩)
  | opens hphase => exact .inr (.inr (.inl ⟨_, hphase, .inl rfl⟩))
  | fails hphase => exact .inr (.inr (.inl ⟨_, hphase, .inr ⟨_, rfl⟩⟩))
  | stops hphase => exact .inr (.inr (.inr (.inl ⟨hphase, rfl⟩)))
  | closes => exact .inl (phase_setLane _)
  | ends hphase => exact .inr (.inr (.inr (.inr ⟨hphase, rfl⟩)))

end Proceeds

theorem isListed_stepPass (h : Handler) (key : String) (rest : Pass (List String)) (kind : Kind) :
    (c.stepPass h key rest).cluster.isListed kind = c.cluster.isListed kind := by
  obtain ⟨_, -, hend⟩ | ⟨_, -, hend⟩ | hcall := c.stepPass_cases h key rest
  · rw [hend, cluster_endPass]
  · rw [hend, cluster_endPass]
  · rw [hcall, setWorker, cluster_setLane, cluster_hear, ← c.cluster.isListed_step rest]
    cases kind <;> rfl

/-- No worker has run a pass, and nothing has been written. -/
structure IsBarred (writes : List Write) (c : Controller) : Prop where
  idle : c.IsIdle
  writes : c.cluster.writes = writes

/-- What is sure in each phase. -/
def IsInOrder (writes : List Write) (c : Controller) : Prop :=
  match c.phase with
  | .created => c.IsBarred writes
  | .filling _ => c.IsBarred writes
  | .running => ∀ kind, c.cluster.isListed kind = true
  | .draining => ∀ kind, c.cluster.isListed kind = true
  | .ended (.ok ()) =>
    (∀ kind, c.cluster.isListed kind = true) ∧ c.isClosed = true ∧
      ∀ h, (c.lane h).queue.leased = []
  | .ended (.error f) => (∃ reason, f = .cachesNotSynced reason) ∧ c.IsBarred writes

section InOrder

variable {c' : Controller} {writes : List Write}

theorem isClosed_of_follows (hfollows : ∀ h, (c.lane h).Follows (c'.lane h))
    (hclosed : c.isClosed = true) : c'.isClosed = true :=
  isClosed_iff.2 fun h => ((hfollows h).windsDown (isClosed_iff.1 hclosed h)).queue.closed

/-- In the same phase everything stays in order, as long as nobody works before
the workers have been started. -/
theorem IsInOrder.of_phase_eq (hc : c.IsInOrder writes) (hphase : c'.phase = c.phase)
    (hfollows : ∀ h, (c.lane h).Follows (c'.lane h))
    (hlisted : ∀ kind, c.cluster.isListed kind = true → c'.cluster.isListed kind = true)
    (hbarred : c.hasWorkers = false → c.IsBarred writes → c'.IsBarred writes) :
    c'.IsInOrder writes := by
  rw [IsInOrder] at hc ⊢
  rw [hphase]
  cases hbefore : c.phase with
  | created | filling =>
      rw [hbefore] at hc
      exact hbarred (by rw [hasWorkers, hbefore]) hc
  | running | draining =>
      rw [hbefore] at hc
      exact fun kind => hlisted kind (hc kind)
  | ended result =>
      rw [hbefore] at hc
      cases result with
      | ok _ =>
          have hclosed := hc.2.1
          refine ⟨fun kind => hlisted kind (hc.1 kind), isClosed_of_follows hfollows hclosed,
            fun h => ?_⟩
          have hleased := ((hfollows h).windsDown (isClosed_iff.1 hclosed h)).queue.leased
          rw [hc.2.2 h] at hleased
          exact List.subset_nil.1 hleased
      | error f => exact ⟨hc.1, hbarred (by rw [hasWorkers, hbefore]) hc.2⟩

theorem IsBarred.of_worker_eq (hc : c.IsBarred writes)
    (hworker : ∀ h, (c'.lane h).worker = (c.lane h).worker)
    (hwrites : c'.cluster.writes = c.cluster.writes) : c'.IsBarred writes :=
  ⟨fun h => (hworker h).trans (hc.idle h), hwrites.trans hc.writes⟩

theorem Proceeds.isBarred (hproceeds : c.Proceeds c') (hc : c.IsBarred writes) :
    c'.IsBarred writes := by
  refine hc.of_worker_eq (fun h => ?_) (by rw [hproceeds.cluster_eq])
  obtain hsame | ⟨-, hclose⟩ := hproceeds.lane_eq h
  · rw [hsame]
  · rw [hclose]

/-- The phase moves on only when what is sure in the next one is there. -/
theorem Proceeds.isInOrder (hproceeds : c.Proceeds c') (hc : c.IsInOrder writes) :
    c'.IsInOrder writes := by
  have horder := hc
  have hproceeded := hproceeds
  rw [IsInOrder] at hc
  cases hproceeds with
  | stays => exact horder
  | fills hphase =>
      rw [hphase] at hc
      exact hproceeded.isBarred hc
  | opens hphase hlisted => exact hlisted
  | fails hphase reason =>
      rw [hphase] at hc
      exact ⟨⟨reason, rfl⟩, hproceeded.isBarred hc⟩
  | stops hphase =>
      rw [hphase] at hc
      exact hc
  | closes =>
      refine horder.of_phase_eq (phase_setLane _) hproceeded.follows (fun kind => ?_)
        fun _ => hproceeded.isBarred
      rw [hproceeded.cluster_eq]
      exact id
  | ends hphase hclosed hdrained =>
      rw [hphase] at hc
      refine ⟨hc, isClosed_of_follows hproceeded.follows hclosed, fun h => ?_⟩
      rw [lane_setPhase]
      exact isDrained_iff.1 hdrained h

end InOrder

end Controller

end GatewaySync
