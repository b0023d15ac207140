import GatewaySync.Proofs.PhaseOrder

/-!
# From the first listing to the last lease

The workers start when all four caches have been filled, and not before; if the
wait is given up they never start.  After the stop signal the queues are closed one
after the other.  From then on the passes under way come to their end, and nothing
that they ask for is taken any more.  The run returns only when no key is leased.
-/

namespace GatewaySync

/-! ## Lives -/

/-- A controller, and what has been reported to its caches. -/
structure Life where
  controller : Controller
  reported : List Report := []

namespace Life

open Controller (HasFailed IsStopping Move)

/-- What can happen next. -/
inductive Step : Life → Life → Prop where
  /-- A watch reports something, whatever it is. -/
  | report {c : Controller} {reported : List Report} (report : Report)
      (hfollowed : c.cluster.follows report.kind = true) :
      Step ⟨c, reported⟩ ⟨c.onCluster fun cluster => cluster.deliver report, reported ++ [report]⟩
  /-- A watch reports a write that was taken. -/
  | echo {c : Controller} {reported before after : List Report} {report : Report}
      (hheld : c.cluster.held = before ++ report :: after)
      (hfollowed : c.cluster.follows report.kind = true) :
      Step ⟨c, reported⟩
        ⟨c.onCluster fun cluster =>
          Cluster.deliver { cluster with held := before ++ after } report, reported ++ [report]⟩
  /-- An informer is dropped. -/
  | drop {c : Controller} {reported : List Report} (kind : Kind) :
      Step ⟨c, reported⟩ ⟨{ c with cluster := c.cluster.drop kind }, reported⟩
  /-- All informers are dropped. -/
  | dropAll {c : Controller} {reported : List Report} :
      Step ⟨c, reported⟩ ⟨{ c with cluster := { c.cluster with watching := false } }, reported⟩
  /-- Others change what the server holds, or what the next calls meet. -/
  | elsewhere {c : Controller} {reported : List Report} {cluster : Cluster}
      (hsame : c.cluster.SameCaches cluster) (hfollows : cluster.follows = c.cluster.follows)
      (hwrites : cluster.writes = c.cluster.writes) :
      Step ⟨c, reported⟩ ⟨{ c with cluster }, reported⟩
  | advance {c : Controller} {reported : List Report} {instant : Nanos}
      (hlater : c.now ≤ instant) : Step ⟨c, reported⟩ ⟨c.advanceTo instant, reported⟩
  | move {c : Controller} {reported : List Report} (m : Move) :
      Step ⟨c, reported⟩ ⟨c.move m, reported⟩
  | lease {c : Controller} {reported : List Report} {h : Handler}
      (hworkers : c.hasWorkers = true) (hidle : (c.lane h).worker = .idle) :
      Step ⟨c, reported⟩ ⟨c.lease h, reported⟩
  | call {c : Controller} {reported : List Report} {h : Handler} {key : String}
      {rest : Pass (List String)} (hworker : (c.lane h).worker = .leased key rest) :
      Step ⟨c, reported⟩ ⟨c.stepPass h key rest, reported⟩
  | settle {c : Controller} {reported : List Report} {h : Handler} {key : String}
      {result : Except Abort Unit} (hworker : (c.lane h).worker = .settling key result) :
      Step ⟨c, reported⟩ ⟨c.settle h key result, reported⟩

/-- Any number of steps. -/
abbrev Run : Life → Life → Prop := Relation.ReflTransGen Step

/-- A controller that has just been created; no cache has been filled. -/
structure IsNew (s : Settings) (cluster : Cluster) (life : Life) : Prop where
  controller : life.controller = Controller.create s cluster
  unlisted : ∀ kind, cluster.isListed kind = false
  reported : life.reported = []

variable {life life' : Life} {h : Handler}

/-- Whatever happens, a lane goes on from where it was. -/
theorem Step.follows (hstep : Step life life') (h : Handler) :
    (life.controller.lane h).Follows (life'.controller.lane h) := by
  cases hstep with
  | report | echo => exact Controller.follows_hear _
  | drop | dropAll | elsewhere =>
      rw [Controller.lane_setCluster]
      exact .refl _
  | @advance c _ instant =>
      rw [Controller.lane_advanceTo]
      exact Lane.follows_advanceTo _ instant
  | move m => exact (Controller.proceeds_move _ m).follows h
  | lease hworkers hidle => exact Controller.follows_lease hidle
  | call hworker => exact Controller.follows_stepPass hworker
  | settle hworker => exact Controller.follows_settle hworker

/-- A cache is filled by a report, and stays filled. -/
theorem Step.isListed (hstep : Step life life') (kind : Kind) :
    (life.controller.cluster.isListed kind = true →
      life'.controller.cluster.isListed kind = true) ∧
      (life'.controller.cluster.isListed kind = true →
        life.controller.cluster.isListed kind = true ∨
          ∃ report ∈ life'.reported, report.kind = kind ∧ report.EndsListing) := by
  have hsame : ∀ {c c' : Cluster} {reported : List Report},
      c'.isListed kind = c.isListed kind →
      (c.isListed kind = true → c'.isListed kind = true) ∧
        (c'.isListed kind = true → c.isListed kind = true ∨
          ∃ report ∈ reported, report.kind = kind ∧ report.EndsListing) :=
    fun heq => ⟨heq.trans, fun hlisted => .inl (heq.symm.trans hlisted)⟩
  have hreport : ∀ (c : Controller) (cluster : Cluster) (report : Report)
      (reported : List Report),
      cluster.isListed kind = c.cluster.isListed kind →
      (c.cluster.isListed kind = true →
          (c.onCluster fun _ => cluster.deliver report).cluster.isListed kind = true) ∧
        ((c.onCluster fun _ => cluster.deliver report).cluster.isListed kind = true →
          c.cluster.isListed kind = true ∨
            ∃ other ∈ reported ++ [report], other.kind = kind ∧ other.EndsListing) := by
    intro c cluster report reported heq
    rw [Controller.onCluster, Controller.cluster_hear]
    have hunheard : Cluster.isListed { cluster.deliver report with notices := [] } kind =
        (cluster.deliver report).isListed kind := by cases kind <;> rfl
    rw [hunheard, ← heq]
    exact ⟨fun hlisted => Cluster.isListed_deliver_of_isListed hlisted report, fun hlisted =>
      (Cluster.isListed_deliver hlisted).imp id fun hend =>
        ⟨report, List.mem_append_right _ List.mem_cons_self, hend⟩⟩
  cases hstep with
  | @report c reported report => exact hreport c c.cluster report reported rfl
  | @echo c reported before after report =>
      exact hreport c { c.cluster with held := before ++ after } report reported
        (by cases kind <;> rfl)
  | drop | dropAll => exact hsame (by cases kind <;> rfl)
  | advance => exact hsame rfl
  | elsewhere hunchanged => exact hsame (Cluster.isListed_of_sameCaches hunchanged)
  | move m => exact hsame (by rw [(Controller.proceeds_move _ m).cluster_eq])
  | lease =>
      rw [Controller.cluster_lease]
      exact hsame rfl
  | @call c _ h key rest => exact hsame (Controller.isListed_stepPass h key rest kind)
  | @settle c _ h key result =>
      obtain ⟨metrics, hsettle⟩ := c.settle_eq h key result
      rw [hsettle, Controller.cluster_setLane]
      exact hsame (by cases kind <;> rfl)

/-- In every phase what is sure stays so. -/
theorem Step.isInOrder {writes : List Write} (hstep : Step life life')
    (hlife : life.controller.IsInOrder writes) : life'.controller.IsInOrder writes := by
  have hfollows := hstep.follows
  have hlisted := fun kind => (hstep.isListed kind).1
  have hsilent : ∀ {c : Controller} (f : Cluster → Cluster),
      (f c.cluster).writes = c.cluster.writes →
      c.IsBarred writes → (c.onCluster f).IsBarred writes := by
    intro c f hwrites hbarred
    refine hbarred.of_worker_eq (fun h => ?_) ?_
    · rw [Controller.onCluster, Controller.worker_hear, Controller.lane_setCluster]
    · rw [Controller.onCluster, Controller.cluster_hear]
      exact hwrites
  have hsetCluster : ∀ {c : Controller} {cluster : Cluster},
      cluster.writes = c.cluster.writes → c.IsBarred writes →
      Controller.IsBarred writes { c with cluster } := fun hwrites hbarred =>
    hbarred.of_worker_eq (fun h => by rw [Controller.lane_setCluster]) hwrites
  cases hstep with
  | @report c _ report =>
      refine hlife.of_phase_eq (Controller.phase_hear _) hfollows hlisted fun _ hbarred => ?_
      exact hsilent (fun cluster => cluster.deliver report) (Cluster.writes_deliver report) hbarred
  | @echo c _ before after report =>
      refine hlife.of_phase_eq (Controller.phase_hear _) hfollows hlisted fun _ hbarred => ?_
      exact hsilent (fun cluster => Cluster.deliver { cluster with held := before ++ after } report)
        (Cluster.writes_deliver report) hbarred
  | drop | dropAll =>
      exact hlife.of_phase_eq rfl hfollows hlisted fun _ => hsetCluster rfl
  | elsewhere hsame hunchanged hwrites =>
      exact hlife.of_phase_eq rfl hfollows hlisted fun _ => hsetCluster hwrites
  | @advance c _ instant =>
      refine hlife.of_phase_eq rfl hfollows hlisted fun _ hbarred => ?_
      exact hbarred.of_worker_eq (fun h => by rw [Controller.lane_advanceTo]) rfl
  | move m => exact (Controller.proceeds_move _ m).isInOrder hlife
  | @lease c _ h hworkers =>
      refine hlife.of_phase_eq (Controller.phase_lease c h) hfollows hlisted fun hnone _ => ?_
      rw [hworkers] at hnone
      cases hnone
  | @call c _ h key rest hworker =>
      refine hlife.of_phase_eq (Controller.phase_stepPass c h key rest) hfollows hlisted
        fun _ hbarred => ?_
      rw [hbarred.idle h] at hworker
      cases hworker
  | @settle c _ h key result hworker =>
      refine hlife.of_phase_eq (Controller.phase_settle c h key result) hfollows hlisted
        fun _ hbarred => ?_
      rw [hbarred.idle h] at hworker
      cases hworker

/-- What is sure of every life: each leased key is held by a worker, the caches that
count as filled were filled by reports, and what is sure in each phase. -/
structure IsGuarded (writes : List Write) (life : Life) : Prop where
  agrees : ∀ h, (life.controller.lane h).Agrees
  listed : ∀ kind, life.controller.cluster.isListed kind = true →
    ∃ report ∈ life.reported, report.kind = kind ∧ report.EndsListing
  inOrder : life.controller.IsInOrder writes

theorem IsNew.isGuarded {s : Settings} {cluster : Cluster} (hnew : life.IsNew s cluster) :
    life.IsGuarded cluster.writes where
  agrees h k := by
    rw [hnew.controller]
    cases h <;> exact ⟨nofun, nofun⟩
  listed kind hlisted := by
    rw [hnew.controller] at hlisted
    exact absurd ((hnew.unlisted kind).symm.trans hlisted) Bool.false_ne_true
  inOrder := by
    rw [hnew.controller]
    exact ⟨fun h => by cases h <;> rfl, rfl⟩

theorem Step.reported_subset (hstep : Step life life') : life.reported ⊆ life'.reported := by
  cases hstep with
  | report | echo => exact List.subset_append_left _ _
  | drop | dropAll | elsewhere | advance | move | lease | call | settle =>
      exact List.Subset.refl _

theorem IsGuarded.step {writes : List Write} (hlife : life.IsGuarded writes)
    (hstep : Step life life') : life'.IsGuarded writes where
  agrees h := (hstep.follows h).agrees (hlife.agrees h)
  listed kind hlisted := by
    obtain hbefore | hreported := (hstep.isListed kind).2 hlisted
    · obtain ⟨report, hmem, hend⟩ := hlife.listed kind hbefore
      exact ⟨report, hstep.reported_subset hmem, hend⟩
    · exact hreported
  inOrder := hstep.isInOrder hlife.inOrder

theorem IsGuarded.run {writes : List Write} (hlife : life.IsGuarded writes)
    (hrun : Run life life') : life'.IsGuarded writes := by
  induction hrun with
  | refl => exact hlife
  | tail _ hstep ih => exact ih.step hstep

/-- The ways in which a step leads from one phase to the next. -/
theorem Step.phase_cases (hstep : Step life life') :
    life'.controller.phase = life.controller.phase ∨
    (life.controller.phase = .created ∧
      ∃ deadline, life'.controller.phase = .filling deadline) ∨
    (∃ deadline, life.controller.phase = .filling deadline ∧
      (life'.controller.phase = .running ∨ life'.controller.HasFailed)) ∨
    (life.controller.phase = .running ∧ life'.controller.phase = .draining) ∨
    (life.controller.phase = .draining ∧ life'.controller.phase = .ended (.ok ())) := by
  cases hstep with
  | report | echo => exact .inl (Controller.phase_hear _)
  | drop | dropAll | elsewhere | advance => exact .inl rfl
  | move m => exact (Controller.proceeds_move _ m).phase_cases
  | @lease c _ h => exact .inl (Controller.phase_lease c h)
  | @call c _ h key rest => exact .inl (Controller.phase_stepPass c h key rest)
  | @settle c _ h key result => exact .inl (Controller.phase_settle c h key result)

/-- What a run comes to is final. -/
theorem Run.phase_eq_of_ended {result : Except Failure Unit} (hrun : Run life life')
    (hended : life.controller.phase = .ended result) : life'.controller.phase = .ended result := by
  induction hrun with
  | refl => exact hended
  | tail _ hstep ih =>
      obtain hsame | ⟨hphase, -⟩ | ⟨_, hphase, -⟩ | ⟨hphase, -⟩ | ⟨hphase, -⟩ :=
        hstep.phase_cases
      · exact hsame.trans ih
      all_goals rw [ih] at hphase; cases hphase

/-- Nothing is taken up again after the stop signal. -/
theorem Run.isStopping (hrun : Run life life') (hstopping : life.controller.IsStopping) :
    life'.controller.IsStopping := by
  induction hrun with
  | refl => exact hstopping
  | tail _ hstep ih =>
      obtain hsame | ⟨hphase, -⟩ | ⟨_, hphase, -⟩ | ⟨hphase, -⟩ | ⟨-, hended⟩ :=
        hstep.phase_cases
      case inl =>
        rw [IsStopping, hsame]
        exact ih
      case inr.inr.inr.inr => exact .inr hended
      all_goals
        rw [IsStopping, hphase] at ih
        obtain hbefore | hbefore := ih <;> cases hbefore

/-- Whatever happens, a closed lane winds down for good. -/
theorem Run.windsDown (hrun : Run life life')
    (hclosed : (life.controller.lane h).queue.closed = true) :
    (life.controller.lane h).WindsDown (life'.controller.lane h) := by
  induction hrun with
  | refl => exact .refl hclosed
  | tail _ hstep ih => exact ih.trans ((hstep.follows h).windsDown ih.queue.closed)

/-- A run that has returned is over. -/
theorem Run.returned?_eq {result : Except Failure Unit} (hrun : Run life life')
    (hreturned : life.controller.returned? = some result) :
    life'.controller.returned? = some result := by
  rw [Controller.returned?_eq_some_iff, Controller.isClosed_iff] at hreturned ⊢
  exact ⟨hrun.phase_eq_of_ended hreturned.1, fun h => (hrun.windsDown (hreturned.2 h)).queue.closed⟩

/-- The workers start only when all four caches have been filled. -/
theorem Step.phase_of_filling {deadline : Nanos} {writes : List Write} (hstep : Step life life')
    (hlife : life.IsGuarded writes) (hphase : life.controller.phase = .filling deadline) :
    life'.controller.phase = .filling deadline ∨
      (life'.controller.phase = .running ∧
        ∀ kind, life'.controller.cluster.isListed kind = true) ∨
      life'.controller.HasFailed := by
  obtain hsame | ⟨hother, -⟩ | ⟨_, -, hrunning | hfailed⟩ | ⟨hother, -⟩ | ⟨hother, -⟩ :=
    hstep.phase_cases
  case inl => exact .inl (hsame.trans hphase)
  case inr.inr.inl.inl =>
    have horder := (hlife.step hstep).inOrder
    rw [Controller.IsInOrder, hrunning] at horder
    exact .inr (.inl ⟨hrunning, horder⟩)
  case inr.inr.inl.inr => exact .inr (.inr hfailed)
  all_goals
    rw [hphase] at hother
    cases hother

/-- A step that is known by its name. -/
inductive Input where
  | told (report : Report)
  | dropped (kind : Kind)
  | moved (m : Move)
  | worked (h : Handler)

/-- What a step makes of a life. -/
def after (life : Life) : Input → Life
  | .told report => ⟨life.controller.tell report, life.reported ++ [report]⟩
  | .dropped kind =>
    let c := life.controller
    { life with controller := { c with cluster := c.cluster.drop kind } }
  | .moved m => { life with controller := life.controller.move m }
  | .worked h => { life with controller := life.controller.work h }

/-- Whether a step can be taken. -/
def allows (life : Life) : Input → Bool
  | .told report => life.controller.cluster.follows report.kind
  | .worked _ => life.controller.hasWorkers
  | .dropped _ | .moved _ => true

def allowsAll (life : Life) : List Input → Bool
  | [] => true
  | input :: inputs => life.allows input && (life.after input).allowsAll inputs

theorem step_after {input : Input} (hallows : life.allows input = true) :
    Step life (life.after input) := by
  cases input with
  | told report => exact .report report hallows
  | dropped kind => exact .drop kind
  | moved m => exact .move m
  | worked h =>
      rw [after, Controller.work]
      cases hworker : (life.controller.lane h).worker with
      | idle => exact .lease hallows hworker
      | leased key rest => exact .call hworker
      | settling key result => exact .settle hworker

theorem run_foldl_after {inputs : List Input} (hallows : life.allowsAll inputs = true) :
    Run life (inputs.foldl after life) := by
  induction inputs generalizing life with
  | nil => exact .refl
  | cons input inputs ih =>
      obtain ⟨hfirst, hrest⟩ := Bool.and_eq_true_iff.1 hallows
      exact .head (step_after hfirst) (ih hrest)

/-- A controller of an empty cluster. -/
def newborn : Life where
  controller := .create {} {}

theorem isNew_newborn : IsNew {} {} newborn where
  controller := rfl
  unlisted kind := by cases kind <;> rfl
  reported := rfl

/-- A Remote without repositories. -/
def idleRemote (name : String) : Remote where
  metadata := { name := some name, ns := some "default" }
  spec := {}

/-- All listings but that of the Remotes come while they are waited for. -/
def partlyListed : List Input :=
  [.moved .start, .told (.configMap .listEnd), .told (.deployment .listEnd),
    .told (.service .listEnd)]

/-- The informer of the Remotes is dropped instead. -/
def deafened : List Input := partlyListed ++ [.dropped .remote]

/-- All caches are filled, and the passes for a Remote and for the gateway's Service have
begun when the stop signal comes.  Another Remote is reported before the queues are closed. -/
def interrupted : List Input :=
  partlyListed ++ [.told (.remote .listEnd), .moved .endListings,
    .told (.remote (.apply (idleRemote "app"))),
    .told (.service (.apply { metadata := { name := some "gitkubed", ns := some "kube-system" } })),
    .worked .remote, .worked .gateway, .moved .stop,
    .told (.remote (.apply (idleRemote "early"))),
    .moved .closeNext, .moved .closeNext, .moved .closeNext]

/-- A third Remote is reported, and the two passes come to their end.  That of the Remote
fails for want of a ConfigMap, and that of the gateway asks for passes of all Remotes. -/
def windingDown : List Input :=
  .told (.remote (.apply (idleRemote "late"))) :: List.replicate 8 (.worked .remote) ++
    List.replicate 8 (.worked .gateway) ++ [.moved .endDrain]

end Life

end GatewaySync
