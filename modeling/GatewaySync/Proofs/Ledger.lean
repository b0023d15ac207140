import GatewaySync.Controller.Schedule
import GatewaySync.Proofs.Counting
import GatewaySync.Proofs.Lifetime

/-!
# The counts of a run

A ledger keeps what a run of the controller shows of its passes: every write that
the server took, and how every pass ended.  Whatever happens besides, and in
whichever order the workers take their steps, the counts have grown by what
stands in the ledger, except for what a worker is just about to count.
-/

namespace GatewaySync

/-- What is seen of a pass from outside. -/
inductive Event where
  /-- The server took a write of a pass for a key. -/
  | wrote (h : Handler) (key : String) (w : Write)
  | ended (h : Handler) (result : Except Abort Unit)

namespace Event

def write? : Event → Option Write
  | .wrote _ _ w => some w
  | .ended .. => none

/-- What is to be counted of it. -/
def series : Event → List Series
  | .wrote _ key w => w.series key
  | .ended h result => Series.ofPass h.name h.name result

end Event

/-! ## What workers owe -/

/-- What the lane's worker counts next, before it makes any other call. -/
def Lane.due (h : Handler) (l : Lane) : List Series :=
  match l.worker with
  | .idle => []
  | .leased _ rest => rest.due
  | .settling _ result => Series.ofPass h.name h.name result

namespace Controller

variable {c c' : Controller} {h : Handler}

/-- What the workers are just about to count. -/
def due (c : Controller) : List Series := Handler.all.flatMap fun h => (c.lane h).due h

theorem due_of_isIdle (hidle : c.IsIdle) : c.due = [] := by
  rw [due, List.flatMap_eq_nil_iff]
  intro h _
  rw [Lane.due, hidle h]

/-- When one worker goes on, what the others are about to count stays the same. -/
theorem count_due (hothers : ∀ h', h' ≠ h → (c'.lane h').worker = (c.lane h').worker)
    (s : Series) :
    c'.due.count s + ((c.lane h).due h).count s = c.due.count s + ((c'.lane h).due h).count s := by
  have hdue : ∀ h', h' ≠ h → (c'.lane h').due h' = (c.lane h').due h' := by
    intro h' hother
    rw [Lane.due, Lane.due, hothers h' hother]
  simp only [due, Handler.all, List.flatMap_cons, List.flatMap_nil, List.count_append,
    List.count_nil]
  cases h with
  | remote => rw [hdue .configMap (by decide), hdue .gateway (by decide)]; omega
  | configMap => rw [hdue .remote (by decide), hdue .gateway (by decide)]; omega
  | gateway => rw [hdue .remote (by decide), hdue .configMap (by decide)]; omega

/-! ## The steps of a worker -/

/-- The worker of a handler has gone on, with what was seen of it, and no other
has. -/
structure Works (h : Handler) (c c' : Controller) (events : List Event) : Prop where
  others : ∀ h', h' ≠ h → (c'.lane h').worker = (c.lane h').worker
  name : ∀ h', (c'.lane h').queue.name = (c.lane h').queue.name
  files : c'.cluster.FilesRemotes
  pass : ∀ key rest, (c'.lane h).worker = .leased key rest → rest.Counts key rest.due
  writes : c'.cluster.writes = c.cluster.writes ++ events.filterMap Event.write?
  isOf : ∀ h' key w, .wrote h' key w ∈ events → w.IsOf key
  count_eq : ∀ s, s.isBucket = false →
    c'.cluster.metrics.count s + ((c'.lane h).due h).count s =
      c.cluster.metrics.count s + ((c.lane h).due h).count s +
        (events.flatMap Event.series).count s

theorem Works.trans {c'' : Controller} {events later : List Event}
    (hfirst : c.Works h c' events) (hthen : c'.Works h c'' later) :
    c.Works h c'' (events ++ later) where
  others h' hother := (hthen.others h' hother).trans (hfirst.others h' hother)
  name h' := (hthen.name h').trans (hfirst.name h')
  files := hthen.files
  pass := hthen.pass
  writes := by rw [hthen.writes, hfirst.writes, List.filterMap_append, List.append_assoc]
  isOf h' key w hw := (List.mem_append.1 hw).elim (hfirst.isOf h' key w) (hthen.isOf h' key w)
  count_eq s hs := by
    rw [hthen.count_eq s hs, hfirst.count_eq s hs, List.flatMap_append, List.count_append,
      Nat.add_assoc]

/-- Where the workers stay and nothing is written or counted, nothing is seen. -/
theorem works_of_same (hworker : ∀ h', (c'.lane h').worker = (c.lane h').worker)
    (hname : ∀ h', (c'.lane h').queue.name = (c.lane h').queue.name)
    (hfiles : c'.cluster.FilesRemotes)
    (hpass : ∀ key rest, (c.lane h).worker = .leased key rest → rest.Counts key rest.due)
    (hwrites : c'.cluster.writes = c.cluster.writes)
    (hmetrics : c'.cluster.metrics = c.cluster.metrics) : c.Works h c' [] where
  others h' _ := hworker h'
  name := hname
  files := hfiles
  pass := by
    rw [hworker h]
    exact hpass
  writes := by rw [hwrites, List.filterMap_nil, List.append_nil]
  isOf h' key w hw := by cases hw
  count_eq s _ := by
    rw [hmetrics, Lane.due, Lane.due, hworker h]
    rfl

/-- A step that changes one lane shows nothing if what it counts was owed. -/
theorem works_of_lane {l : Lane}
    (hlane : ∀ h', c'.lane h' = if h' = h then l else c.lane h')
    (hname : l.queue.name = (c.lane h).queue.name) (hfiles : c'.cluster.FilesRemotes)
    (hpass : ∀ key rest, l.worker = .leased key rest → rest.Counts key rest.due)
    (hwrites : c'.cluster.writes = c.cluster.writes)
    (hcount : ∀ s, s.isBucket = false → c'.cluster.metrics.count s + (l.due h).count s =
      c.cluster.metrics.count s + ((c.lane h).due h).count s) : c.Works h c' [] where
  others h' hother := by rw [hlane, if_neg hother]
  name h' := by
    rw [hlane]
    split
    case isTrue hown => rw [hown, hname]
    case isFalse => rfl
  files := hfiles
  pass key rest hworker := by
    rw [hlane, if_pos rfl] at hworker
    exact hpass key rest hworker
  writes := by rw [hwrites, List.filterMap_nil, List.append_nil]
  isOf h' key w hw := by cases hw
  count_eq s hs := by
    rw [hlane, if_pos rfl]
    exact hcount s hs

/-- A worker without a key owes nothing, and neither does one that has just taken
a key. -/
theorem works_lease (hidle : (c.lane h).worker = .idle) (hfiles : c.cluster.FilesRemotes) :
    c.Works h (c.lease h) [] := by
  obtain ⟨poll, hnext, hnone⟩ | ⟨key, others, hopen, hpending, -⟩ :=
    (c.lane h).queue.next_cases
  · have hsame : c.lease h = c := by
      rw [lease, hnext]
      cases poll with
      | item key => exact absurd rfl (hnone key)
      | closed | pending => rfl
    rw [hsame]
    refine works_of_same (fun _ => rfl) (fun _ => rfl) hfiles ?_ rfl rfl
    intro key rest hworker
    rw [hidle] at hworker
    cases hworker
  · have hcounts := Pass.counts_sync c.settings h key
    let l := (c.lane h).taking key others (Pass.sync c.settings h key)
    have hlane : ∀ h', (c.lease h).lane h' = if h' = h then l else c.lane h' := by
      intro h'
      rw [lease_of_pending hopen hpending, lane_setLane]
    have hdue : l.due h = (c.lane h).due h := by
      rw [Lane.due, Lane.due, hidle]
      exact hcounts.due_eq
    refine works_of_lane hlane rfl ?files ?pass ?writes ?count
    case files =>
      rw [cluster_lease]
      exact hfiles
    case pass =>
      intro key' rest hworker
      obtain ⟨rfl, rfl⟩ := WorkerState.leased.inj hworker
      rw [hcounts.due_eq]
      exact hcounts
    case writes => rw [cluster_lease]
    case count =>
      intro s _
      rw [cluster_lease, hdue]

/-- A worker has gone on with its pass, and the changes of the caches are heard. -/
def withRest (c : Controller) (cluster : Cluster) (h : Handler) (key : String)
    (rest : Pass (List String)) : Controller :=
  (hear { c with cluster }).setWorker h (.leased key rest)

variable {key : String} {rest rest' : Pass (List String)} {cluster : Cluster}

theorem cluster_withRest :
    (c.withRest cluster h key rest).cluster = { cluster with notices := [] } := by
  rw [withRest, setWorker, cluster_setLane, cluster_hear]

theorem worker_withRest (h' : Handler) :
    ((c.withRest cluster h key rest).lane h').worker =
      if h' = h then .leased key rest else (c.lane h').worker := by
  rw [withRest, lane_setWorker]
  split
  · rfl
  · rw [worker_hear, lane_setCluster]

/-- What a worker writes is seen, and counted or owed. -/
theorem works_withRest {taken : List Write} (hworker : (c.lane h).worker = .leased key rest)
    (haccounts : Pass.Accounts key rest c.cluster rest' cluster taken) :
    c.Works h (c.withRest cluster h key rest') (taken.map (.wrote h key)) where
  others h' hother := by rw [worker_withRest, if_neg hother]
  name h' := by
    rw [withRest, lane_setWorker]
    split
    case isTrue hown => rw [hown, name_hear, lane_setCluster]
    case isFalse => rw [name_hear, lane_setCluster]
  files := by
    rw [cluster_withRest]
    exact haccounts.files
  pass key' rest hrest := by
    rw [worker_withRest, if_pos rfl] at hrest
    obtain ⟨rfl, rfl⟩ := WorkerState.leased.inj hrest
    exact haccounts.rest
  writes := by
    rw [cluster_withRest, List.filterMap_map]
    change cluster.writes = c.cluster.writes ++ taken.filterMap some
    rw [List.filterMap_some]
    exact haccounts.writes
  isOf h' key' w hw := by
    obtain ⟨w', hw', heq⟩ := List.mem_map.1 hw
    obtain ⟨rfl, rfl, rfl⟩ := Event.wrote.inj heq
    exact haccounts.isOf w' hw'
  count_eq s _ := by
    rw [cluster_withRest, Lane.due, Lane.due, worker_withRest, if_pos rfl, hworker,
      List.flatMap_map]
    exact haccounts.count_eq s

/-- A pass that has counted its writes ends, and its end is seen. -/
theorem works_endPass (hworker : (c.lane h).worker = .leased key rest) (hdue : rest.due = [])
    (hfiles : c.cluster.FilesRemotes) (result : Except Abort (List String)) :
    c.Works h (c.endPass h key result) [.ended h (result.map fun _ => ())] where
  others h' hother := by rw [worker_endPass, if_neg hother]
  name h' := by
    rw [endPass_eq, lane_setWorker]
    split
    case isTrue hown => rw [hown, lane_addAll, Lane.name_addAll]
    case isFalse => rw [lane_addAll, Lane.name_addAll]
  files := by
    rw [cluster_endPass]
    exact hfiles
  pass key' rest hrest := by
    rw [worker_endPass, if_pos rfl] at hrest
    cases hrest
  writes := by
    rw [cluster_endPass]
    exact (List.append_nil _).symm
  isOf h' key' w hw := by
    cases List.mem_singleton.1 hw
  count_eq s _ := by
    rw [cluster_endPass, Lane.due, Lane.due, worker_endPass, if_pos rfl, hworker]
    dsimp only
    rw [hdue, List.flatMap_singleton]
    rfl

/-- When a pass is settled, its end is counted. -/
theorem works_settle {result : Except Abort Unit}
    (hworker : (c.lane h).worker = .settling key result)
    (hname : (c.lane h).queue.name = h.name) (hfiles : c.cluster.FilesRemotes) :
    c.Works h (c.settle h key result) [] := by
  have hlane : ∀ h', (c.settle h key result).lane h' =
      if h' = h then { queue := ((c.lane h).queue.afterPass key result).release key }
      else c.lane h' := by
    intro h'
    rw [settle_eq_afterPass, lane_setLane]
    split
    · rfl
    · exact lane_setCluster _
  have hcluster : (c.settle h key result).cluster =
      { c.cluster with
        metrics := c.cluster.metrics.afterPass h.name (c.lane h).queue.name result } := by
    rw [settle_eq_afterPass, cluster_setLane]
  refine works_of_lane hlane ?name ?files ?pass ?writes ?count
  case name => exact WorkQueue.name_release.trans (WorkQueue.name_afterPass result)
  case files =>
    rw [hcluster]
    exact hfiles
  case pass =>
    intro key' rest hrest
    cases hrest
  case writes => rw [hcluster]
  case count =>
    intro s hs
    rw [hcluster, Metrics.count_afterPass hs, hname, Lane.due, Lane.due, hworker]
    rfl

/-- What a step of the worker shows: the writes that were taken meanwhile, and
the end of the pass if it has come. -/
def shown (c c' : Controller) (h : Handler) (key : String) : List Event :=
  (c'.cluster.writes.drop c.cluster.writes.length).map (.wrote h key) ++
    match (c'.lane h).worker with
    | .settling _ result => [.ended h result]
    | _ => []

theorem shown_withRest {taken : List Write}
    (hwrites : cluster.writes = c.cluster.writes ++ taken) :
    c.shown (c.withRest cluster h key rest) h key = taken.map (.wrote h key) := by
  rw [shown, cluster_withRest, hwrites, List.drop_left, worker_withRest, if_pos rfl,
    List.append_nil]

theorem shown_endPass {taken : List Write} (hwrites : c'.cluster.writes = c.cluster.writes ++ taken)
    (result : Except Abort (List String)) :
    c.shown (c'.endPass h key result) h key =
      taken.map (.wrote h key) ++ [.ended h (result.map fun _ => ())] := by
  rw [shown, cluster_endPass, hwrites, List.drop_left, worker_endPass, if_pos rfl]

section

variable (hworker : (c.lane h).worker = .leased key rest) (hpass : rest.Counts key rest.due)
  (hfiles : c.cluster.FilesRemotes)
include hworker hpass hfiles

theorem works_stepPass :
    c.Works h (c.stepPass h key rest) (c.shown (c.stepPass h key rest) h key) := by
  have hnothing : c.cluster.writes = c.cluster.writes ++ [] := (List.append_nil _).symm
  obtain ⟨requeued, rfl, hend⟩ | ⟨reason, rfl, hend⟩ | hcall := c.stepPass_cases h key rest
  · rw [hend, shown_endPass hnothing]
    exact works_endPass hworker rfl hfiles _
  · rw [hend, shown_endPass hnothing]
    exact works_endPass hworker rfl hfiles _
  · obtain ⟨taken, haccounts⟩ := hpass.step hfiles
    have hrest : c.stepPass h key rest =
        c.withRest (rest.step c.cluster).2 h key (rest.step c.cluster).1 := hcall
    rw [hrest, shown_withRest haccounts.writes]
    exact works_withRest hworker haccounts

theorem works_runPass :
    c.Works h (c.runPass h key rest) (c.shown (c.runPass h key rest) h key) := by
  obtain ⟨taken, haccounts⟩ := hpass.countsAll hfiles
  let last := Pass.ended (c.cluster.perform rest).1
  have hdue : last.due = [] := by
    cases hresult : (c.cluster.perform rest).1 <;> simp only [last, hresult] <;> rfl
  have hlast : ((c.withRest (c.cluster.perform rest).2 h key last).lane h).worker =
      .leased key last := by
    rw [worker_withRest, if_pos rfl]
  have hrun : c.runPass h key rest =
      (c.withRest (c.cluster.perform rest).2 h key last).endPass h key
        (c.cluster.perform rest).1 := by
    rw [withRest, endPass_setWorker, runPass]
  have hwrites : (c.withRest (c.cluster.perform rest).2 h key last).cluster.writes =
      c.cluster.writes ++ taken := by
    rw [cluster_withRest]
    exact haccounts.writes
  have hworks := works_withRest hworker haccounts
  rw [hrun, shown_endPass hwrites]
  exact hworks.trans (works_endPass hlast hdue hworks.files _)

end

end Controller

/-! ## Ledgers -/

/-- A controller, and what its passes have shown so far. -/
structure Ledger where
  controller : Controller
  events : List Event := []

namespace Ledger

/-- The next step of a worker. -/
def work (l : Ledger) (h : Handler) : Ledger :=
  let c := l.controller
  match (c.lane h).worker with
  | .idle => { l with controller := c.lease h }
  | .leased key rest =>
    let c' := c.stepPass h key rest
    ⟨c', l.events ++ c.shown c' h key⟩
  | .settling key result => { l with controller := c.settle h key result }

/-- What can happen next. -/
inductive Step : Ledger → Ledger → Prop where
  | work {l : Ledger} (h : Handler) : Step l (l.work h)
  /-- The rest of a pass is run with nothing in between. -/
  | runPass {c : Controller} {events : List Event} {h : Handler} {key : String}
      {rest : Pass (List String)} (hworker : (c.lane h).worker = .leased key rest) :
      Step ⟨c, events⟩
        ⟨c.runPass h key rest, events ++ c.shown (c.runPass h key rest) h key⟩
  /-- A watch reports something, whatever it is. -/
  | report {c : Controller} {events : List Event} (report : Report) :
      Step ⟨c, events⟩ ⟨c.onCluster fun cluster => cluster.deliver report, events⟩
  /-- A watch reports a write that was taken. -/
  | echo {c : Controller} {events : List Event} {before after : List Report} {report : Report}
      (hheld : c.cluster.held = before ++ report :: after) :
      Step ⟨c, events⟩
        ⟨c.onCluster fun cluster =>
          Cluster.deliver { cluster with held := before ++ after } report, events⟩
  /-- Others change what the server holds, or what the next calls meet. -/
  | elsewhere {c : Controller} {events : List Event} {cluster : Cluster}
      (hsame : c.cluster.SameCaches cluster) (hwrites : cluster.writes = c.cluster.writes)
      (hmetrics : cluster.metrics = c.cluster.metrics) :
      Step ⟨c, events⟩ ⟨{ c with cluster }, events⟩
  /-- A key is added, whatever it is. -/
  | add {c : Controller} {events : List Event} (h : Handler) (key : String) :
      Step ⟨c, events⟩ ⟨c.add h key, events⟩
  | advance {c : Controller} {events : List Event} (instant : Nanos) :
      Step ⟨c, events⟩ ⟨c.advanceTo instant, events⟩
  /-- The run starts, its wait or its drain ends, or the stop signal comes. -/
  | proceed {c c' : Controller} {events : List Event} (hproceeds : c.Proceeds c') :
      Step ⟨c, events⟩ ⟨c', events⟩

/-- Any number of steps. -/
abbrev Run : Ledger → Ledger → Prop := Relation.ReflTransGen Step

/-- What was written and counted since some time is what stands in the ledger,
but for what the workers are just about to count. -/
structure IsAccounted (before : Cluster) (l : Ledger) : Prop where
  name : ∀ h, (l.controller.lane h).queue.name = h.name
  files : l.controller.cluster.FilesRemotes
  pass : ∀ h key rest, (l.controller.lane h).worker = .leased key rest →
    rest.Counts key rest.due
  writes : l.controller.cluster.writes = before.writes ++ l.events.filterMap Event.write?
  isOf : ∀ h key w, .wrote h key w ∈ l.events → w.IsOf key
  count_eq : ∀ s, s.isBucket = false →
    l.controller.cluster.metrics.count s + l.controller.due.count s =
      before.metrics.count s + (l.events.flatMap Event.series).count s

variable {before : Cluster} {l l' : Ledger}

theorem IsAccounted.works (hl : l.IsAccounted before) {h : Handler} {c' : Controller}
    {more : List Event} (hworks : l.controller.Works h c' more) :
    IsAccounted before ⟨c', l.events ++ more⟩ where
  name h' := (hworks.name h').trans (hl.name h')
  files := hworks.files
  pass h' key rest hworker := by
    by_cases hown : h' = h
    · subst hown
      exact hworks.pass key rest hworker
    · exact hl.pass h' key rest ((hworks.others h' hown).symm.trans hworker)
  writes := by
    rw [hworks.writes, hl.writes, List.filterMap_append, List.append_assoc]
  isOf h' key w hw := (List.mem_append.1 hw).elim (hl.isOf h' key w) (hworks.isOf h' key w)
  count_eq s hs := by
    have hbefore := hl.count_eq s hs
    have hstep := hworks.count_eq s hs
    have hdue := Controller.count_due hworks.others s
    rw [List.flatMap_append, List.count_append]
    dsimp only
    omega

/-- Where the workers stay and nothing is written or counted, the ledger is as
good as before. -/
theorem IsAccounted.of_same {c c' : Controller} {events : List Event}
    (hl : IsAccounted before ⟨c, events⟩)
    (hworker : ∀ h, (c'.lane h).worker = (c.lane h).worker)
    (hname : ∀ h, (c'.lane h).queue.name = (c.lane h).queue.name)
    (hfiles : c'.cluster.FilesRemotes) (hwrites : c'.cluster.writes = c.cluster.writes)
    (hmetrics : c'.cluster.metrics = c.cluster.metrics) : IsAccounted before ⟨c', events⟩ := by
  have hworks : c.Works .remote c' [] :=
    Controller.works_of_same hworker hname hfiles (hl.pass .remote) hwrites hmetrics
  have haccounted := hl.works hworks
  rwa [List.append_nil] at haccounted

theorem IsAccounted.onCluster {c : Controller} {events : List Event} {cluster : Cluster}
    (hl : IsAccounted before ⟨c, events⟩) (hfiles : cluster.FilesRemotes)
    (hwrites : cluster.writes = c.cluster.writes)
    (hmetrics : cluster.metrics = c.cluster.metrics) :
    IsAccounted before ⟨c.onCluster fun _ => cluster, events⟩ := by
  have hcluster : (c.onCluster fun _ => cluster).cluster = { cluster with notices := [] } := by
    rw [Controller.onCluster, Controller.cluster_hear]
  refine hl.of_same (fun h => ?_) (fun h => ?_) ?_ ?_ ?_
  · rw [Controller.onCluster, Controller.worker_hear, Controller.lane_setCluster]
  · rw [Controller.onCluster, Controller.name_hear, Controller.lane_setCluster]
  · rw [hcluster]
    exact hfiles
  · rw [hcluster]
    exact hwrites
  · rw [hcluster]
    exact hmetrics

theorem IsAccounted.proceed {c c' : Controller} {events : List Event}
    (hl : IsAccounted before ⟨c, events⟩) (hproceeds : c.Proceeds c') :
    IsAccounted before ⟨c', events⟩ := by
  have hlane : ∀ h, (c'.lane h).worker = (c.lane h).worker ∧
      (c'.lane h).queue.name = (c.lane h).queue.name := by
    intro h
    obtain hsame | ⟨-, hclose⟩ := hproceeds.lane_eq h
    · rw [hsame]
      exact ⟨rfl, rfl⟩
    · rw [hclose]
      exact ⟨rfl, rfl⟩
  refine hl.of_same (fun h => (hlane h).1) (fun h => (hlane h).2) ?_ ?_ ?_
  · rw [hproceeds.cluster_eq]
    exact hl.files
  · rw [hproceeds.cluster_eq]
  · rw [hproceeds.cluster_eq]

theorem IsAccounted.work (hl : l.IsAccounted before) (h : Handler) :
    (l.work h).IsAccounted before := by
  have hunseen : ∀ {c'}, l.controller.Works h c' [] →
      IsAccounted before { l with controller := c' } := by
    intro c' hworks
    have haccounted := hl.works hworks
    rwa [List.append_nil] at haccounted
  rw [Ledger.work]
  cases hworker : (l.controller.lane h).worker with
  | idle => exact hunseen (Controller.works_lease hworker hl.files)
  | leased key rest =>
      exact hl.works (Controller.works_stepPass hworker (hl.pass h key rest hworker) hl.files)
  | settling key result =>
      exact hunseen (Controller.works_settle hworker (hl.name h) hl.files)

theorem IsAccounted.step (hl : l.IsAccounted before) (hstep : Step l l') :
    l'.IsAccounted before := by
  cases hstep with
  | work h => exact hl.work h
  | runPass hworker =>
      exact hl.works (Controller.works_runPass hworker (hl.pass _ _ _ hworker) hl.files)
  | @report c events report =>
      exact hl.onCluster (hl.files.deliver report) (Cluster.writes_deliver report)
        (Cluster.metrics_deliver report)
  | @echo c events before after report hheld =>
      have hfiles : Cluster.FilesRemotes { c.cluster with held := before ++ after } := hl.files
      exact hl.onCluster (hfiles.deliver report) (Cluster.writes_deliver report)
        (Cluster.metrics_deliver report)
  | @elsewhere c events cluster hsame hwrites hmetrics =>
      refine hl.of_same (fun h => ?_) (fun h => ?_) ?_ hwrites hmetrics
      · rw [Controller.lane_setCluster]
      · rw [Controller.lane_setCluster]
      · rw [Cluster.FilesRemotes, hsame.remotes]
        exact hl.files
  | @add c events h key =>
      change IsAccounted before ⟨c.addAll [(h, key)], events⟩
      refine hl.of_same (fun h' => ?_) (fun h' => ?_) ?_ ?_ ?_
      · rw [Controller.lane_addAll, Lane.worker_addAll]
      · rw [Controller.lane_addAll, Lane.name_addAll]
      · rw [Controller.cluster_addAll]
        exact hl.files
      · rw [Controller.cluster_addAll]
      · rw [Controller.cluster_addAll]
  | @advance c events instant =>
      refine hl.of_same (fun h => ?_) (fun h => ?_) hl.files rfl rfl
      · rw [Controller.lane_advanceTo]
      · rw [Controller.lane_advanceTo]
        exact WorkQueue.name_advanceTo instant
  | proceed hproceeds => exact hl.proceed hproceeds

/-- No pass is under way, each queue has its handler's name, and every cached
Remote is filed under its own reference. -/
structure IsSetUp (c : Controller) : Prop where
  idle : c.IsIdle
  name : ∀ h, (c.lane h).queue.name = h.name
  files : c.cluster.FilesRemotes

theorem IsSetUp.isAccounted {c : Controller} (hc : IsSetUp c) :
    IsAccounted c.cluster ⟨c, []⟩ where
  name := hc.name
  files := hc.files
  pass h key rest hworker := by
    rw [hc.idle h] at hworker
    cases hworker
  writes := (List.append_nil _).symm
  isOf h key w hw := by cases hw
  count_eq s _ := by
    rw [Controller.due_of_isIdle hc.idle]
    rfl

theorem isSetUp_create (s : Settings) {cluster : Cluster} (hfiles : cluster.FilesRemotes) :
    IsSetUp (.create s cluster) where
  idle h := by cases h <;> rfl
  name h := by cases h <;> rfl
  files := hfiles

theorem IsAccounted.of_run (hl : l.IsAccounted before) (hrun : Run l l') :
    l'.IsAccounted before := by
  induction hrun with
  | refl => exact hl
  | tail _ hstep ih => exact ih.step hstep

end Ledger

/-! ## The order of the turns -/

namespace Controller

variable {c c' c'' : Controller}

/-- Some run leads from one controller to the other, whatever its passes show. -/
def RunsTo (c c' : Controller) : Prop :=
  ∀ events, ∃ more, Ledger.Run ⟨c, events⟩ ⟨c', events ++ more⟩

theorem RunsTo.refl (c : Controller) : c.RunsTo c := by
  intro events
  refine ⟨[], ?_⟩
  rw [List.append_nil]

theorem RunsTo.trans (hfirst : c.RunsTo c') (hthen : c'.RunsTo c'') : c.RunsTo c'' := by
  intro events
  obtain ⟨more, hrun⟩ := hfirst events
  obtain ⟨later, hlater⟩ := hthen (events ++ more)
  rw [List.append_assoc] at hlater
  exact ⟨_, hrun.trans hlater⟩

theorem RunsTo.of_unseen (hstep : ∀ events, Ledger.Step ⟨c, events⟩ ⟨c', events⟩) :
    c.RunsTo c' := by
  intro events
  refine ⟨[], ?_⟩
  rw [List.append_nil]
  exact .single (hstep events)

theorem runsTo_lease {h : Handler} (hidle : (c.lane h).worker = .idle) :
    c.RunsTo (c.lease h) := by
  refine .of_unseen fun events => ?_
  have hwork : Ledger.work ⟨c, events⟩ h = ⟨c.lease h, events⟩ := by
    simp only [Ledger.work, hidle]
  exact hwork ▸ .work h

theorem runsTo_settle {h : Handler} {key : String} {result : Except Abort Unit}
    (hworker : (c.lane h).worker = .settling key result) :
    c.RunsTo (c.settle h key result) := by
  refine .of_unseen fun events => ?_
  have hwork : Ledger.work ⟨c, events⟩ h = ⟨c.settle h key result, events⟩ := by
    simp only [Ledger.work, hworker]
  exact hwork ▸ .work h

theorem runsTo_turn (c : Controller) (h : Handler) : c.RunsTo (c.turn h) := by
  rw [turn]
  cases hworker : (c.lane h).worker with
  | idle => exact runsTo_lease hworker
  | leased key rest => exact fun events => ⟨_, .single (.runPass hworker)⟩
  | settling key result =>
      refine (runsTo_settle hworker).trans (runsTo_lease ?_)
      rw [settle_eq_afterPass, lane_setLane, if_pos rfl]

theorem runsTo_takeTurns (steps : Nat) (waiting : List Handler) (c : Controller) :
    c.RunsTo (takeTurns steps waiting c) := by
  induction steps generalizing waiting c with
  | zero => exact .refl c
  | succ steps ih =>
      cases waiting with
      | nil => exact .refl c
      | cons h waiting =>
          refine (c.runsTo_turn h).trans (.trans ?_ (ih _ _))
          exact .of_unseen fun _ => .proceed (proceeds_endDrain _)

theorem runsTo_settleDown (steps : Nat) (c : Controller) : c.RunsTo (c.settleDown steps) := by
  have hmove : ∀ (c : Controller) (m : Move), c.RunsTo (c.move m) :=
    fun c m => .of_unseen fun _ => .proceed (proceeds_move c m)
  have hwaited : c.RunsTo c.endWait := (hmove c .endListings).trans (hmove _ .timeOut)
  have hclosed : c.endWait.RunsTo c.endWait.closeQueues :=
    (hmove _ .closeNext).trans ((hmove _ .closeNext).trans (hmove _ .closeNext))
  have hdrained : c.endWait.closeQueues.RunsTo c.endWait.closeQueues.endDrain :=
    hmove _ .endDrain
  exact hwaited.trans (hclosed.trans (hdrained.trans (runsTo_takeTurns _ _ _)))

theorem runsTo_elapse (steps : Nat) (c : Controller) (now target : Nanos) :
    c.RunsTo (c.elapse steps now target) := by
  have hadvance : ∀ (c : Controller) (instant : Nanos), c.RunsTo (c.advanceTo instant) :=
    fun c instant => .of_unseen fun _ => .advance instant
  fun_induction elapse steps c now target with
  | case1 c => exact hadvance c _
  | case2 c now due _ _ ih => exact ((hadvance c due).trans (runsTo_settleDown steps _)).trans ih
  | case3 c => exact hadvance c _

/-- However long the controller is left to itself, it takes its turns in one of
the orders of a run. -/
theorem runsTo_advance (steps : Nat) (c : Controller) (time : Nanos) :
    c.RunsTo (c.advance steps time) :=
  (runsTo_elapse steps c _ _).trans (runsTo_settleDown steps _)

end Controller

end GatewaySync
