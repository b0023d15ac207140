import GatewaySync.Proofs.Ledger

/-!
# What the counts say

Each series is counted once for some of the events in a ledger, and never for any
other.  So at every moment at which nothing is left to be counted, its count has
grown by the number of those events.
-/

namespace GatewaySync

/-- It counts writes of one kind, not passes. -/
def Series.isWrite : Series → Bool
  | .documentWrites | .gatewayRestarts | .statusUpdates .. => true
  | _ => false

theorem Write.isWrite_of_mem_series {w : Write} {key : String} {s : Series}
    (hs : s ∈ w.series key) : s.isWrite = true := by
  cases w with
  | configMap | deployment =>
      obtain rfl := List.mem_singleton.1 hs
      rfl
  | status r =>
      rw [series, Option.mem_toList, Option.map_eq_some_iff] at hs
      obtain ⟨name, -, rfl⟩ := hs
      rfl

theorem Series.isWrite_of_mem_ofPass {controller queue : String} {result : Except Abort Unit}
    {s : Series} (hs : s ∈ ofPass controller queue result) : s.isWrite = false := by
  cases result with
  | ok _ =>
      obtain rfl := List.mem_singleton.1 hs
      rfl
  | error reason =>
      cases reason with
      | panicked =>
          obtain rfl | rfl := by simpa [ofPass] using hs
          all_goals rfl
      | failed f =>
          rw [ofPass] at hs
          split at hs
          · obtain rfl | rfl | rfl := by simpa using hs
            all_goals rfl
          · obtain rfl | rfl := by simpa using hs
            all_goals rfl

/-- The classes under which failures are counted. -/
def Failure.labels : List String :=
  ["kube", "serialization", "invalid_key", "missing_resource", "cache_sync", "config"]

@[simp]
theorem Handler.name_inj {h h' : Handler} : h.name = h'.name ↔ h = h' := by
  cases h <;> cases h' <;> decide

namespace Event

/-- An object of the kind was written. -/
def isWriteOf (kind : Kind) : Event → Bool
  | .wrote _ _ w => w.kind = kind
  | .ended .. => false

/-- The status of a Remote was written in a pass for its name. -/
def isStatusFor (name : NamespacedName) : Event → Bool
  | .wrote _ key (.status _) => NamespacedName.ofString? key = some name
  | _ => false

/-- The status of the Remote of that name was written. -/
def isStatusOf (name : NamespacedName) : Event → Bool
  | .wrote _ _ (.status r) => r.metadata.key = name
  | _ => false

def isEndOf (h : Handler) : Event → Bool
  | .ended h' _ => h' = h
  | .wrote .. => false

/-- A pass ended in a failure. -/
def isFailureOf (h : Handler) : Event → Bool
  | .ended h' (.error (.failed _)) => h' = h
  | _ => false

/-- A pass ended so that it is going to be run again. -/
def isRetryOf (h : Handler) : Event → Bool
  | .ended h' (.error reason) => h' = h && reason.isRetriable
  | _ => false

variable {s : Series} {events : List Event}

theorem count_wrote {h : Handler} {key : String} {w : Write} (hs : s.isWrite = false) :
    (Event.wrote h key w).series.count s = 0 := by
  rw [List.count_eq_zero]
  intro hmem
  rw [Write.isWrite_of_mem_series hmem] at hs
  cases hs

theorem count_ended {h : Handler} {result : Except Abort Unit} (hs : s.isWrite = true) :
    (Event.ended h result).series.count s = 0 := by
  rw [List.count_eq_zero]
  intro hmem
  rw [Series.isWrite_of_mem_ofPass hmem] at hs
  cases hs

/-- A series that is counted once for some events, and not for others, is counted
as often as there are such events. -/
theorem count_flatMap_series {p : Event → Bool}
    (hone : ∀ e : Event, e.series.count s = if p e then 1 else 0) :
    (events.flatMap series).count s = events.countP p := by
  induction events with
  | nil => rfl
  | cons e rest ih =>
      rw [List.flatMap_cons, List.count_append, List.countP_cons, hone e, ih, Nat.add_comm]

theorem count_documentWrites (e : Event) :
    e.series.count .documentWrites = if e.isWriteOf .configMap then 1 else 0 := by
  cases e with
  | ended h result => exact count_ended rfl
  | wrote h key w =>
      cases w with
      | configMap | deployment => rfl
      | status r =>
          rw [series, Write.series]
          cases NamespacedName.ofString? key <;> rfl

theorem count_gatewayRestarts (e : Event) :
    e.series.count .gatewayRestarts = if e.isWriteOf .deployment then 1 else 0 := by
  cases e with
  | ended h result => exact count_ended rfl
  | wrote h key w =>
      cases w with
      | configMap | deployment => rfl
      | status r =>
          rw [series, Write.series]
          cases NamespacedName.ofString? key <;> rfl

theorem count_statusUpdates (name : NamespacedName) (e : Event) :
    e.series.count (.statusUpdates name.ns name.name) = if e.isStatusFor name then 1 else 0 := by
  cases e with
  | ended h result => exact count_ended rfl
  | wrote h key w =>
      cases w with
      | configMap | deployment => rfl
      | status r =>
          rw [series, Write.series, isStatusFor]
          cases hkey : NamespacedName.ofString? key with
          | none => rfl
          | some other =>
              obtain ⟨ns, name⟩ := name
              obtain ⟨ns', name'⟩ := other
              simp [List.count_singleton]

theorem count_durationCount (h : Handler) (e : Event) :
    e.series.count (.durationCount h.name) = if e.isEndOf h then 1 else 0 := by
  cases e with
  | wrote h' key w => exact count_wrote rfl
  | ended h' result =>
      rw [series, isEndOf]
      cases result with
      | ok _ => simp [Series.ofPass, List.count_singleton]
      | error reason =>
          cases reason with
          | panicked => simp [Series.ofPass, List.count_cons]
          | failed f =>
              cases hretriable : f.isRetriable <;>
                simp [Series.ofPass, hretriable, List.count_cons]

theorem count_queueRetries (h : Handler) (e : Event) :
    e.series.count (.queueRetries h.name) = if e.isRetryOf h then 1 else 0 := by
  cases e with
  | wrote h' key w => exact count_wrote rfl
  | ended h' result =>
      rw [series]
      cases result with
      | ok _ => rfl
      | error reason =>
          cases reason with
          | panicked => simp [Series.ofPass, isRetryOf, List.count_cons, Abort.isRetriable]
          | failed f =>
              cases hretriable : f.isRetriable <;>
                simp [Series.ofPass, isRetryOf, hretriable, List.count_cons, Abort.isRetriable]

/-- A failure is counted under one class. -/
theorem sum_count_passErrors (h : Handler) (e : Event) :
    (Failure.labels.map fun label => e.series.count (.passErrors h.name label)).sum =
      if e.isFailureOf h then 1 else 0 := by
  cases e with
  | wrote h' key w =>
      have hnone : ∀ label, (wrote h' key w).series.count (.passErrors h.name label) = 0 :=
        fun _ => count_wrote rfl
      simp [hnone, isFailureOf]
  | ended h' result =>
      rw [series]
      cases result with
      | ok _ => rfl
      | error reason =>
          cases reason with
          | panicked => rfl
          | failed f =>
              have hlabel : ∀ label, (Series.ofPass h'.name h'.name (.error (.failed f))).count
                  (.passErrors h.name label) = if h' = h ∧ f.label = label then 1 else 0 := by
                intro label
                cases hretriable : f.isRetriable <;>
                  simp [Series.ofPass, hretriable, List.count_cons]
              simp only [hlabel, isFailureOf]
              by_cases hown : h' = h
              · cases f <;> simp [Failure.labels, Failure.label, hown]
              · simp [hown]

theorem sum_count_flatMap_passErrors (h : Handler) (events : List Event) :
    (Failure.labels.map fun label =>
      (events.flatMap series).count (.passErrors h.name label)).sum =
        events.countP (isFailureOf h) := by
  induction events with
  | nil => rfl
  | cons e rest ih =>
      simp only [List.flatMap_cons, List.count_append]
      rw [List.sum_map_add, ih, sum_count_passErrors, List.countP_cons, Nat.add_comm]

/-- A Remote in a namespace is written in passes for its own name only. -/
theorem isStatusFor_eq_isStatusOf {e : Event} (name : NamespacedName)
    (hisOf : ∀ h key w, e = .wrote h key w → w.IsOf key)
    (hns : ∀ r, e.write? = some (.status r) → r.metadata.ns ≠ none) :
    e.isStatusFor name = e.isStatusOf name := by
  cases e with
  | ended h result => rfl
  | wrote h key w =>
      cases w with
      | configMap | deployment => rfl
      | status r =>
          obtain ⟨other, hkey, hr⟩ := hisOf h key _ rfl
          have hown := hr.key_eq (NamespacedName.name_ne_of_ofString? hkey) (hns r rfl)
          rw [isStatusFor, isStatusOf, hkey, hown]
          simp

end Event

/-- The counts have grown by what happened.  Failures are counted under classes,
which are summed up here. -/
structure Metrics.Account (before after : Metrics) (events : List Event) : Prop where
  documentWrites : after.count .documentWrites =
    before.count .documentWrites + events.countP (Event.isWriteOf .configMap)
  gatewayRestarts : after.count .gatewayRestarts =
    before.count .gatewayRestarts + events.countP (Event.isWriteOf .deployment)
  statusUpdates : ∀ name : NamespacedName, after.count (.statusUpdates name.ns name.name) =
    before.count (.statusUpdates name.ns name.name) + events.countP (Event.isStatusFor name)
  passes : ∀ h : Handler, after.count (.durationCount h.name) =
    before.count (.durationCount h.name) + events.countP (Event.isEndOf h)
  failures : ∀ h : Handler,
    (Failure.labels.map fun label => after.count (.passErrors h.name label)).sum =
      (Failure.labels.map fun label => before.count (.passErrors h.name label)).sum +
        events.countP (Event.isFailureOf h)
  retries : ∀ h : Handler, after.count (.queueRetries h.name) =
    before.count (.queueRetries h.name) + events.countP (Event.isRetryOf h)

namespace Ledger

variable {before : Cluster} {l : Ledger}

/-- Where no worker is about to count anything, everything has been counted. -/
theorem IsAccounted.account (hl : l.IsAccounted before) (hdue : l.controller.due = []) :
    Metrics.Account before.metrics l.controller.cluster.metrics l.events := by
  have hcount : ∀ s, s.isBucket = false → l.controller.cluster.metrics.count s =
      before.metrics.count s + (l.events.flatMap Event.series).count s := by
    intro s hs
    have hall := hl.count_eq s hs
    rw [hdue] at hall
    exact hall
  refine { documentWrites := ?documents, gatewayRestarts := ?restarts, statusUpdates := ?statuses,
           passes := ?passes, failures := ?failures, retries := ?retries }
  case documents =>
    rw [hcount _ rfl, Event.count_flatMap_series Event.count_documentWrites]
  case restarts =>
    rw [hcount _ rfl, Event.count_flatMap_series Event.count_gatewayRestarts]
  case statuses =>
    intro name
    rw [hcount _ rfl, Event.count_flatMap_series (Event.count_statusUpdates name)]
  case passes =>
    intro h
    rw [hcount _ rfl, Event.count_flatMap_series (Event.count_durationCount h)]
  case failures =>
    intro h
    have hlabel : ∀ label, l.controller.cluster.metrics.count (.passErrors h.name label) =
        before.metrics.count (.passErrors h.name label) +
          (l.events.flatMap Event.series).count (.passErrors h.name label) :=
      fun _ => hcount _ rfl
    simp only [hlabel]
    rw [List.sum_map_add, Event.sum_count_flatMap_passErrors]
  case retries =>
    intro h
    rw [hcount _ rfl, Event.count_flatMap_series (Event.count_queueRetries h)]

/-- Whatever a run does, and in whichever order, at every moment at which no
worker stands between a write and its count, or at the end of a pass, the counts
have grown by what happened: by the ConfigMaps, the Deployments and the statuses
that the server took, by the passes that ended, by those that failed, and by those
that are run again.  A status is counted under the name of the Remote that was
written. -/
theorem metrics_account_for_run {c : Controller} {l : Ledger} (hstart : IsSetUp c)
    (hrun : Run ⟨c, []⟩ l) (hdue : l.controller.due = []) :
    l.controller.cluster.writes = c.cluster.writes ++ l.events.filterMap Event.write? ∧
      Metrics.Account c.cluster.metrics l.controller.cluster.metrics l.events ∧
      (∀ h key r, .wrote h key (.status r) ∈ l.events →
        ∃ name, NamespacedName.ofString? key = some name ∧ r.IsNamed name) ∧
      ((∀ h key r, .wrote h key (.status r) ∈ l.events → r.metadata.ns ≠ none) →
        ∀ name : NamespacedName,
          l.controller.cluster.metrics.count (.statusUpdates name.ns name.name) =
            c.cluster.metrics.count (.statusUpdates name.ns name.name) +
              l.events.countP (Event.isStatusOf name)) := by
  have hl : l.IsAccounted c.cluster := hstart.isAccounted.of_run hrun
  have haccount := hl.account hdue
  refine ⟨hl.writes, haccount, fun h key r hr => hl.isOf h key _ hr, ?_⟩
  intro hns name
  rw [haccount.statusUpdates]
  congr 1
  refine List.countP_congr fun e he => ?_
  rw [Event.isStatusFor_eq_isStatusOf name]
  · rintro h key w rfl
    exact hl.isOf h key w he
  · intro r hwrite
    cases e with
    | ended => cases hwrite
    | wrote h key w =>
        obtain rfl := Option.some.inj hwrite
        exact hns h key r he

/-! ### Three passes -/

/-- A Remote whose status has never been written. -/
def unserved : Remote where
  metadata := { name := some "app", ns := some "default", resourceVersion := some "1" }
  spec := {}

def gatewayService : Service where
  metadata := { name := some "gitkubed", ns := some "kube-system", resourceVersion := some "1" }

/-- The caches show all objects, and the reports of the program's own writes are
held back. -/
def lagging : Cluster :=
  let shown := (Scene.shown.deliver (.remote (.apply unserved))).deliver
    (.service (.apply gatewayService))
  { shown with
    remotes := { shown.remotes with server := SortedMap.empty.insert "default/app" unserved }
    version := 1
    holding := true
    notices := [] }

def atRest : Controller := .create {} lagging

theorem isSetUp_atRest : IsSetUp atRest :=
  isSetUp_create {} (Cluster.FilesRemotes.deliver (c := Scene.shown) Informer.keeps_empty
    (.remote (.apply unserved)))

/-- A key for each handler, and the passes of the three one after the other. -/
def threePasses : Ledger :=
  let c := ((atRest.add .remote "default/app").add .configMap "kube-system/gitkube-ci-conf").add
    .gateway "a/b/c"
  (List.replicate 15 Handler.remote ++ List.replicate 7 Handler.configMap ++
    List.replicate 3 Handler.gateway).foldl work ⟨c, []⟩

theorem run_foldl_work (l : Ledger) (workers : List Handler) : Run l (workers.foldl work l) := by
  induction workers generalizing l with
  | nil => exact .refl
  | cons h rest ih => exact .head (.work h) (ih (l.work h))

theorem run_threePasses : Run ⟨atRest, []⟩ threePasses :=
  .head (.add .remote "default/app") <|
    .head (.add .configMap "kube-system/gitkube-ci-conf") <|
      .head (.add .gateway "a/b/c") (run_foldl_work _ _)

/-- The Remote's pass writes everything.  The ConfigMap's pass comes upon a
conflict and is going to be run again, and a key that cannot be read is
dropped. -/
theorem metrics_account_for_run_of_threePasses :
    let m := threePasses.controller.cluster.metrics
    m.count .documentWrites = 1 ∧ m.count .gatewayRestarts = 1 ∧
      m.count (.statusUpdates "default" "app") = 1 ∧
      Handler.all.map (fun h => m.count (.durationCount h.name)) = [1, 1, 1] ∧
      Handler.all.map (fun h =>
        (Failure.labels.map fun label => m.count (.passErrors h.name label)).sum) = [0, 1, 1] ∧
      Handler.all.map (fun h => m.count (.queueRetries h.name)) = [0, 1, 0] := by
  obtain ⟨-, haccount, -, hstatuses⟩ :=
    metrics_account_for_run isSetUp_atRest run_threePasses rfl
  have hns : ∀ h key r, .wrote h key (.status r) ∈ threePasses.events →
      r.metadata.ns ≠ none := by
    have hall : threePasses.events.all (fun e =>
        match e with
        | .wrote _ _ (.status r) => r.metadata.ns.isSome
        | _ => true) = true := by rfl
    intro h key r hr
    have hsome := List.all_eq_true.1 hall _ hr
    exact Option.isSome_iff_ne_none.1 hsome
  refine ⟨?_, ?_, ?_, ?_, ?_, ?_⟩
  · rw [haccount.documentWrites]
    rfl
  · rw [haccount.gatewayRestarts]
    rfl
  · rw [hstatuses hns ⟨"default", "app"⟩]
    rfl
  · simp only [haccount.passes]
    rfl
  · simp only [haccount.failures]
    rfl
  · simp only [haccount.retries]
    rfl

end Ledger

end GatewaySync
