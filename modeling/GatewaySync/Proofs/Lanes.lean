import GatewaySync.Controller
import GatewaySync.Proofs.Perform
import GatewaySync.Proofs.WorkQueue

/-!
# The lanes of the controller

Every step of the controller works on one lane, or adds keys to several of
them.  The lemmas here say what a step leaves of each lane: the worker, whether
the queue is sound, and which keys it owes.
-/

namespace GatewaySync

namespace Lane

/-- The key that the worker holds. -/
def key? (l : Lane) : Option String :=
  match l.worker with
  | .idle => none
  | .leased key _ => some key
  | .settling key _ => some key

/-- The leased key is the one that the worker holds. -/
def Agrees (l : Lane) : Prop := ∀ k, k ∈ l.queue.leased ↔ l.key? = some k

/-- The queue is sound, and the leased key is the one that the worker holds. -/
structure Sound (l : Lane) : Prop where
  queue : l.queue.Sound
  leased_iff : l.Agrees

/-- The key is going to be handed out, or its pass has failed and is going to be
run again. -/
def Owes (l : Lane) (k : String) : Prop :=
  l.queue.Owes k ∨ ∃ reason, l.worker = .settling k (.error reason) ∧ reason.isRetriable

namespace Agrees

variable {l l' : Lane}

theorem idle_of_leased (hl : l.Agrees) (hleased : l.queue.leased = []) :
    l.worker = .idle := by
  have hkey : l.key? = none := by
    rw [Option.eq_none_iff_forall_ne_some]
    intro k hk
    have hmem := (hl k).2 hk
    rw [hleased] at hmem
    cases hmem
  rw [key?] at hkey
  cases hworker : l.worker with
  | idle => rfl
  | leased key rest => simp [hworker] at hkey
  | settling key result => simp [hworker] at hkey

theorem leased_of_idle (hl : l.Agrees) (hidle : l.worker = .idle) : l.queue.leased = [] := by
  rw [List.eq_nil_iff_forall_not_mem]
  intro k hleased
  have hkey := (hl k).1 hleased
  rw [key?, hidle] at hkey
  cases hkey

theorem of_same (hl : l.Agrees) (hleased : l'.queue.leased = l.queue.leased)
    (hkey : l'.key? = l.key?) : l'.Agrees := by
  intro k
  rw [hleased, hkey]
  exact hl k

end Agrees

theorem Sound.idle_of_quiet {l : Lane} (hl : l.Sound) (hquiet : l.queue.IsQuiet) :
    l.worker = .idle :=
  hl.leased_iff.idle_of_leased hquiet.leased

theorem Sound.leased_of_idle {l : Lane} (hl : l.Sound) (hidle : l.worker = .idle) :
    l.queue.leased = [] :=
  hl.leased_iff.leased_of_idle hidle

theorem Sound.not_owes {l : Lane} (hl : l.Sound) (hquiet : l.queue.IsQuiet)
    (k : String) : ¬l.Owes k := by
  rintro (howes | ⟨reason, hworker, -⟩)
  · exact hl.queue.not_owes hquiet k howes
  · rw [hl.idle_of_quiet hquiet] at hworker
    cases hworker

/-- The lane after its worker has taken a key and left the others. -/
def taking (l : Lane) (key : String) (others : List String) (rest : Pass (List String)) :
    Lane where
  queue := { l.queue with
    pending := others
    dirty := WorkQueue.without l.queue.dirty key
    leased := key :: WorkQueue.without l.queue.leased key }
  worker := .leased key rest

/-- Adds keys one after the other. -/
def addAll (l : Lane) (keys : List String) : Lane :=
  keys.foldl (fun l k => { l with queue := l.queue.add k }) l

variable {l : Lane}

@[simp]
theorem worker_addAll (keys : List String) : (l.addAll keys).worker = l.worker := by
  rw [addAll]
  induction keys generalizing l with
  | nil => rfl
  | cons key rest ih => exact ih

@[simp]
theorem closed_addAll (keys : List String) :
    (l.addAll keys).queue.closed = l.queue.closed := by
  rw [addAll]
  induction keys generalizing l with
  | nil => rfl
  | cons key rest ih => exact ih.trans WorkQueue.closed_add

@[simp]
theorem leased_addAll (keys : List String) :
    (l.addAll keys).queue.leased = l.queue.leased := by
  rw [addAll]
  induction keys generalizing l with
  | nil => rfl
  | cons key rest ih => exact ih.trans WorkQueue.leased_add

@[simp]
theorem name_addAll (keys : List String) : (l.addAll keys).queue.name = l.queue.name := by
  rw [addAll]
  induction keys generalizing l with
  | nil => rfl
  | cons key rest ih => exact ih.trans WorkQueue.name_add

@[simp]
theorem key?_addAll (keys : List String) : (l.addAll keys).key? = l.key? := by
  rw [key?, key?, worker_addAll]

theorem Agrees.addAll (hl : l.Agrees) (keys : List String) : (l.addAll keys).Agrees :=
  hl.of_same (leased_addAll keys) (key?_addAll keys)

/-- A worker without a key takes one. -/
theorem Agrees.taking (hl : l.Agrees) (hidle : l.worker = .idle) (key : String)
    (others : List String) (rest : Pass (List String)) : (l.taking key others rest).Agrees := by
  intro k
  simp only [Lane.taking, key?, hl.leased_of_idle hidle, WorkQueue.without, List.filter_nil,
    List.mem_singleton, Option.some.injEq]
  exact eq_comm

theorem Sound.addAll (hl : l.Sound) (keys : List String) : (l.addAll keys).Sound := by
  rw [Lane.addAll]
  induction keys generalizing l with
  | nil => exact hl
  | cons key rest ih =>
      exact ih ⟨hl.queue.add key, hl.leased_iff.of_same WorkQueue.leased_add rfl⟩

theorem owes_addAll_iff (hopen : l.queue.closed = false) {keys : List String}
    {k : String} : (l.addAll keys).Owes k ↔ k ∈ keys ∨ l.Owes k := by
  rw [addAll]
  induction keys generalizing l with
  | nil => simp
  | cons key rest ih =>
      rw [List.foldl_cons, ih (WorkQueue.closed_add.trans hopen), List.mem_cons, Owes,
        WorkQueue.owes_add_iff hopen, Owes]
      simp only [or_assoc, or_left_comm]

end Lane

/-- The queue after a pass for a key has ended. -/
def WorkQueue.afterPass (q : WorkQueue String) (key : String) :
    Except Abort Unit → WorkQueue String
  | .ok () => q.forget key
  | .error reason => if reason.isRetriable then q.addRateLimited key else q.forget key

/-- The counts after a pass has ended. -/
def Metrics.afterPass (m : Metrics) (controller queue : String) : Except Abort Unit → Metrics
  | .ok () => m.observePass controller 0
  | .error (.failed f) =>
    let m := (m.observePass controller 0).countFailure controller f
    if f.isRetriable then m.countRetry queue else m
  | .error .panicked => (m.observePass controller 0).countRetry queue

namespace WorkQueue

variable {q : WorkQueue String} {key : String}

theorem Sound.afterPass (hq : q.Sound) (key : String) (result : Except Abort Unit) :
    (q.afterPass key result).Sound := by
  cases result with
  | ok _ => exact hq.of_same rfl rfl rfl
  | error reason =>
      rw [WorkQueue.afterPass]
      split
      · exact hq.addRateLimited key
      · exact hq.of_same rfl rfl rfl

@[simp]
theorem closed_afterPass (result : Except Abort Unit) :
    (q.afterPass key result).closed = q.closed := by
  cases result with
  | ok _ => rfl
  | error reason =>
      rw [afterPass]
      split
      · exact closed_addRateLimited
      · rfl

@[simp]
theorem leased_afterPass (result : Except Abort Unit) :
    (q.afterPass key result).leased = q.leased := by
  cases result with
  | ok _ => rfl
  | error reason =>
      rw [afterPass]
      split
      · exact leased_addRateLimited
      · rfl

@[simp]
theorem name_afterPass (result : Except Abort Unit) :
    (q.afterPass key result).name = q.name := by
  cases result with
  | ok _ => rfl
  | error reason =>
      rw [afterPass]
      split
      · exact name_addRateLimited
      · rfl

/-- After a pass the queue owes what it owed before, and the key again if the
pass is to be repeated. -/
theorem owes_afterPass_iff (hopen : q.closed = false) {result : Except Abort Unit}
    {k : String} :
    (q.afterPass key result).Owes k ↔
      (k = key ∧ ∃ reason, result = .error reason ∧ reason.isRetriable) ∨ q.Owes k := by
  cases result with
  | ok _ =>
      change q.Owes k ↔ _
      simp
  | error reason =>
      rw [afterPass]
      by_cases hretriable : reason.isRetriable = true
      · rw [if_pos hretriable, owes_addRateLimited_iff hopen]
        simp [hretriable]
      · rw [if_neg hretriable]
        change q.Owes k ↔ _
        simp [hretriable]

end WorkQueue

/-- A worker that settles the pass for its key is left without one. -/
theorem Lane.Agrees.released {l : Lane} (hl : l.Agrees) {key : String}
    (hkey : l.key? = some key) (result : Except Abort Unit) :
    Lane.Agrees { queue := (l.queue.afterPass key result).release key } := by
  intro k
  rw [WorkQueue.leased_release, WorkQueue.leased_afterPass, WorkQueue.mem_without, hl k, hkey]
  simp [Lane.key?, eq_comm]

namespace Controller

variable {c : Controller} {h h' : Handler}

@[simp]
theorem lane_setLane (l : Lane) :
    (c.setLane h l).lane h' = if h' = h then l else c.lane h' := by
  cases h <;> cases h' <;> rfl

@[simp]
theorem cluster_setLane (l : Lane) : (c.setLane h l).cluster = c.cluster := by
  cases h <;> rfl

@[simp]
theorem phase_setLane (l : Lane) : (c.setLane h l).phase = c.phase := by
  cases h <;> rfl

@[simp]
theorem settings_setLane (l : Lane) : (c.setLane h l).settings = c.settings := by
  cases h <;> rfl

@[simp]
theorem lane_setCluster (cluster : Cluster) :
    ({ c with cluster } : Controller).lane h = c.lane h := by
  cases h <;> rfl

@[simp]
theorem lane_setWorker (w : WorkerState) :
    (c.setWorker h w).lane h' =
      if h' = h then { c.lane h with worker := w } else c.lane h' :=
  lane_setLane _

@[simp]
theorem lane_mapQueue (f : WorkQueue String → WorkQueue String) :
    (c.mapQueue h f).lane h' =
      if h' = h then { c.lane h with queue := f (c.lane h).queue } else c.lane h' :=
  lane_setLane _

/-- A worker that goes on with its pass takes no debt away. -/
theorem owes_setWorker {key k : String} {rest : Pass (List String)} {w : WorkerState}
    (hworker : (c.lane h).worker = .leased key rest) (howes : (c.lane h').Owes k) :
    ((c.setWorker h w).lane h').Owes k := by
  rw [lane_setWorker]
  by_cases hlane : h' = h
  · subst hlane
    rw [if_pos rfl]
    rcases howes with howes | ⟨_, hsettling, -⟩
    · exact .inl howes
    · rw [hworker] at hsettling
      cases hsettling
  · rw [if_neg hlane]
    exact howes

/-! ## Adding keys -/

/-- Adds keys one after the other. -/
def addAll (c : Controller) (keys : List (Handler × String)) : Controller :=
  keys.foldl (fun c key => c.add key.1 key.2) c

theorem addAll_induction {motive : Controller → Prop} {keys : List (Handler × String)}
    (hadd : ∀ c h k, motive c → motive (c.add h k)) (hc : motive c) :
    motive (c.addAll keys) := by
  rw [addAll]
  induction keys generalizing c with
  | nil => exact hc
  | cons key rest ih => exact ih (hadd c key.1 key.2 hc)

@[simp]
theorem cluster_addAll (keys : List (Handler × String)) :
    (c.addAll keys).cluster = c.cluster :=
  addAll_induction (motive := fun c' => c'.cluster = c.cluster)
    (fun _ _ _ hc => (cluster_setLane _).trans hc) rfl

@[simp]
theorem phase_addAll (keys : List (Handler × String)) :
    (c.addAll keys).phase = c.phase :=
  addAll_induction (motive := fun c' => c'.phase = c.phase)
    (fun _ _ _ hc => (phase_setLane _).trans hc) rfl

@[simp]
theorem settings_addAll (keys : List (Handler × String)) :
    (c.addAll keys).settings = c.settings :=
  addAll_induction (motive := fun c' => c'.settings = c.settings)
    (fun _ _ _ hc => (settings_setLane _).trans hc) rfl

/-- A lane takes the keys that are added for its handler. -/
theorem lane_addAll (keys : List (Handler × String)) (h : Handler) :
    (c.addAll keys).lane h =
      (c.lane h).addAll ((keys.filter fun key => key.1 = h).map Prod.snd) := by
  rw [addAll]
  induction keys generalizing c with
  | nil => rfl
  | cons key rest ih =>
      rw [List.foldl_cons, ih, add, lane_mapQueue]
      by_cases hkey : key.1 = h
      · subst hkey
        rw [if_pos rfl, List.filter_cons_of_pos (by simp)]
        rfl
      · rw [if_neg (Ne.symm hkey), List.filter_cons_of_neg (by simpa using hkey)]

/-- Hearing of changes adds the keys that they bring up. -/
theorem hear_eq (c : Controller) :
    c.hear =
      addAll { c with
        cluster := { c.cluster with notices := [] }
        heard := c.heard ++ c.cluster.notices }
        (c.cluster.notices.flatMap (keysFor c.settings)) := rfl

/-- A worker takes the first of the pending keys. -/
theorem lease_of_pending {key : String} {others : List String}
    (hopen : (c.lane h).queue.closed = false)
    (hpending : (c.lane h).queue.pending = key :: others) :
    c.lease h =
      c.setLane h ((c.lane h).taking key others (Pass.sync c.settings h key)) := by
  rw [lease, WorkQueue.next, if_neg (by simp [hopen]), hpending]
  rfl

/-- Whatever a worker has in hand, its lane takes the same keys. -/
theorem addAll_setWorker (keys : List (Handler × String)) (w : WorkerState) :
    (c.setWorker h w).addAll keys = (c.addAll keys).setWorker h w := by
  rw [addAll, addAll]
  induction keys generalizing c with
  | nil => rfl
  | cons key rest ih =>
      rw [List.foldl_cons, List.foldl_cons, ← ih]
      obtain ⟨h', k⟩ := key
      cases h <;> cases h' <;> rfl

/-- The end of a pass adds the keys that it asks for. -/
theorem endPass_eq (c : Controller) (h : Handler) (key : String)
    (result : Except Abort (List String)) :
    c.endPass h key result =
      (c.addAll ((result.toOption.getD []).map fun k => (.remote, k))).setWorker h
        (.settling key (result.map fun _ => ())) := by
  rw [endPass, addAll, List.foldl_map]

/-- A pass has ended, or its next call is made. -/
theorem stepPass_cases (c : Controller) (h : Handler) (key : String)
    (rest : Pass (List String)) :
    (∃ requeued, rest = .done requeued ∧
      c.stepPass h key rest = c.endPass h key (.ok requeued)) ∨
    (∃ reason, rest = .abort reason ∧
      c.stepPass h key rest = c.endPass h key (.error reason)) ∨
    c.stepPass h key rest =
      (hear { c with cluster := (rest.step c.cluster).2 }).setWorker h
        (.leased key (rest.step c.cluster).1) := by
  cases rest with
  | done requeued => exact .inl ⟨requeued, rfl, rfl⟩
  | abort reason => exact .inr (.inl ⟨reason, rfl, rfl⟩)
  | looking | reading | writing | counting => exact .inr (.inr rfl)

/-! ## Settling a pass -/

/-- Settling a pass counts it, sees to its key and leaves the worker idle. -/
theorem settle_eq_afterPass (c : Controller) (h : Handler) (key : String)
    (result : Except Abort Unit) :
    c.settle h key result =
      { c with cluster := { c.cluster with
          metrics := c.cluster.metrics.afterPass h.name (c.lane h).queue.name result } }.setLane h
        { queue := ((c.lane h).queue.afterPass key result).release key } := by
  cases result with
  | ok _ => cases h <;> rfl
  | error reason =>
      cases reason with
      | panicked => cases h <;> rfl
      | failed f =>
          rw [settle, follow, Metrics.afterPass, WorkQueue.afterPass]
          dsimp only
          by_cases hretriable : f.isRetriable = true
          · rw [if_pos hretriable, if_pos hretriable,
              if_pos (show Abort.isRetriable (.failed f) = true from hretriable)]
            cases h <;> rfl
          · rw [if_neg hretriable, if_neg hretriable,
              if_neg (show ¬Abort.isRetriable (.failed f) = true from hretriable)]
            cases h <;> rfl

theorem settle_eq (c : Controller) (h : Handler) (key : String)
    (result : Except Abort Unit) :
    ∃ metrics, c.settle h key result =
      { c with cluster := { c.cluster with metrics } }.setLane h
        { queue := ((c.lane h).queue.afterPass key result).release key } :=
  ⟨_, c.settle_eq_afterPass h key result⟩

/-! ## Time -/

theorem lane_advanceTo (instant : Nanos) (h : Handler) :
    (c.advanceTo instant).lane h =
      { c.lane h with queue := (c.lane h).queue.advanceTo instant } := by
  cases h <;> rfl

/-! ## What a step leaves alone -/

@[simp]
theorem cluster_lease (c : Controller) (h : Handler) : (c.lease h).cluster = c.cluster := by
  rw [lease]
  split
  · exact cluster_setLane _
  · rfl

@[simp]
theorem settings_lease (c : Controller) (h : Handler) :
    (c.lease h).settings = c.settings := by
  rw [lease]
  split
  · exact settings_setLane _
  · rfl

@[simp]
theorem phase_lease (c : Controller) (h : Handler) : (c.lease h).phase = c.phase := by
  rw [lease]
  split
  · exact phase_setLane _
  · rfl

@[simp]
theorem phase_hear (c : Controller) : c.hear.phase = c.phase := by
  rw [hear_eq, phase_addAll]

@[simp]
theorem settings_hear (c : Controller) : c.hear.settings = c.settings := by
  rw [hear_eq, settings_addAll]

@[simp]
theorem cluster_hear (c : Controller) :
    c.hear.cluster = { c.cluster with notices := [] } := by
  rw [hear_eq, cluster_addAll]

/-- Where nothing has changed, no key is brought up. -/
theorem hear_of_silent (hsilent : c.cluster.notices = []) : c.hear = c := by
  rw [hear_eq, hsilent, List.flatMap_nil, List.append_nil]
  obtain ⟨settings, cluster⟩ := c
  obtain ⟨⟩ := cluster
  obtain rfl : _ = [] := hsilent
  rfl

/-- Whatever a worker has in hand, its lane hears the same. -/
theorem hear_setWorker (w : WorkerState) (cluster : Cluster) :
    hear { c.setWorker h w with cluster } = (hear { c with cluster }).setWorker h w := by
  rw [hear_eq, hear_eq, ← addAll_setWorker]
  cases h <;> rfl

/-- The end of a pass does not depend on how far its worker was. -/
theorem endPass_setWorker (w : WorkerState) (key : String)
    (result : Except Abort (List String)) :
    (c.setWorker h w).endPass h key result = c.endPass h key result := by
  rw [endPass_eq, endPass_eq, addAll_setWorker]
  cases h <;> rfl

/-- Hearing of changes gives the workers nothing to do but more keys. -/
@[simp]
theorem worker_hear (c : Controller) (h : Handler) :
    (c.hear.lane h).worker = (c.lane h).worker := by
  rw [hear_eq, lane_addAll, Lane.worker_addAll]
  cases h <;> rfl

@[simp]
theorem name_hear (c : Controller) (h : Handler) :
    (c.hear.lane h).queue.name = (c.lane h).queue.name := by
  rw [hear_eq, lane_addAll, Lane.name_addAll]
  cases h <;> rfl

@[simp]
theorem settings_endPass (c : Controller) (h : Handler) (key : String)
    (result : Except Abort (List String)) :
    (c.endPass h key result).settings = c.settings := by
  rw [endPass_eq, setWorker, settings_setLane, settings_addAll]

@[simp]
theorem cluster_endPass (c : Controller) (h : Handler) (key : String)
    (result : Except Abort (List String)) :
    (c.endPass h key result).cluster = c.cluster := by
  rw [endPass_eq, setWorker, cluster_setLane, cluster_addAll]

/-- A pass that asks for nothing, or only for passes of Remotes, leaves the keys
of a lane as they are. -/
theorem lane_endPass_of_none (key : String) {result : Except Abort (List String)}
    (hnone : h' ≠ .remote ∨ result.toOption.getD [] = []) :
    (c.endPass h key result).lane h' =
      if h' = h then { c.lane h with worker := .settling key (result.map fun _ => ()) }
      else c.lane h' := by
  have hsame : ∀ h, h ≠ .remote ∨ result.toOption.getD [] = [] →
      (c.addAll ((result.toOption.getD []).map fun k => (.remote, k))).lane h =
        c.lane h := by
    intro h hnone
    rw [lane_addAll, List.filter_map, List.map_map]
    rcases hnone with hother | hnothing
    · rw [List.filter_eq_nil_iff.2 (by simp [hother.symm])]
      rfl
    · rw [hnothing]
      rfl
  rw [endPass_eq, lane_setWorker]
  split
  · rename_i heq
    rw [hsame h (heq ▸ hnone)]
  · exact hsame h' hnone

/-- At the end of a pass only the worker of its own lane goes on. -/
theorem worker_endPass (c : Controller) (h h' : Handler) (key : String)
    (result : Except Abort (List String)) :
    ((c.endPass h key result).lane h').worker =
      if h' = h then .settling key (result.map fun _ => ()) else (c.lane h').worker := by
  rw [endPass_eq, lane_setWorker]
  split
  · rfl
  · rw [lane_addAll, Lane.worker_addAll]

@[simp]
theorem phase_endPass (c : Controller) (h : Handler) (key : String)
    (result : Except Abort (List String)) : (c.endPass h key result).phase = c.phase := by
  rw [endPass_eq, setWorker, phase_setLane, phase_addAll]

@[simp]
theorem phase_stepPass (c : Controller) (h : Handler) (key : String)
    (rest : Pass (List String)) : (c.stepPass h key rest).phase = c.phase := by
  obtain ⟨_, -, hend⟩ | ⟨_, -, hend⟩ | hcall := c.stepPass_cases h key rest
  · rw [hend, phase_endPass]
  · rw [hend, phase_endPass]
  · rw [hcall, setWorker, phase_setLane, phase_hear]

@[simp]
theorem phase_settle (c : Controller) (h : Handler) (key : String)
    (result : Except Abort Unit) : (c.settle h key result).phase = c.phase := by
  obtain ⟨metrics, hsettle⟩ := c.settle_eq h key result
  rw [hsettle, phase_setLane]

/-! ## Order in the lanes -/

/-- The lanes are sound, and their queues take keys. -/
structure IsOrderly (c : Controller) : Prop where
  lanes : ∀ h, (c.lane h).Sound
  isOpen : ∀ h, (c.lane h).queue.closed = false

namespace IsOrderly

variable {c' : Controller} {key : String}

theorem of_lanes (hc : c.IsOrderly) (hlanes : ∀ h, c'.lane h = c.lane h) :
    c'.IsOrderly where
  lanes h := hlanes h ▸ hc.lanes h
  isOpen h := hlanes h ▸ hc.isOpen h

theorem setCluster (hc : c.IsOrderly) (cluster : Cluster) :
    IsOrderly { c with cluster } :=
  hc.of_lanes fun _ => lane_setCluster cluster

theorem addAll (hc : c.IsOrderly) (keys : List (Handler × String)) :
    (c.addAll keys).IsOrderly where
  lanes h := by
    rw [lane_addAll]
    exact (hc.lanes h).addAll _
  isOpen h := by
    rw [lane_addAll, Lane.closed_addAll]
    exact hc.isOpen h

theorem hear (hc : c.IsOrderly) : c.hear.IsOrderly := by
  rw [hear_eq]
  refine (hc.of_lanes fun h => ?_).addAll _
  cases h <;> rfl

theorem setLane (hc : c.IsOrderly) {l : Lane} (hl : l.Sound)
    (hopen : l.queue.closed = false) : (c.setLane h l).IsOrderly where
  lanes h' := by
    rw [lane_setLane]
    split
    · exact hl
    · exact hc.lanes h'
  isOpen h' := by
    rw [lane_setLane]
    split
    · exact hopen
    · exact hc.isOpen h'

/-- A worker that goes on with the key that it holds leaves its lane sound. -/
theorem setWorker (hc : c.IsOrderly) {w : WorkerState}
    (hkey : Lane.key? { c.lane h with worker := w } = (c.lane h).key?) :
    (c.setWorker h w).IsOrderly := by
  exact hc.setLane ⟨(hc.lanes h).queue, (hc.lanes h).leased_iff.of_same rfl hkey⟩ (hc.isOpen h)

theorem lease (hc : c.IsOrderly) (hidle : (c.lane h).worker = .idle) :
    (c.lease h).IsOrderly := by
  rw [Controller.lease]
  obtain ⟨poll, hnext, hnone⟩ | ⟨k, rest, hopen, hpending, hnext⟩ :=
    (c.lane h).queue.next_cases
  · rw [hnext]
    cases poll with
    | item k => exact absurd rfl (hnone k)
    | closed | pending => exact hc
  · have hqueue := (hc.lanes h).queue.next
    rw [hnext] at hqueue
    rw [hnext]
    exact hc.setLane ⟨hqueue, (hc.lanes h).leased_iff.taking hidle k rest _⟩ hopen

theorem endPass (hc : c.IsOrderly) {rest : Pass (List String)}
    (hworker : (c.lane h).worker = .leased key rest)
    (result : Except Abort (List String)) : (c.endPass h key result).IsOrderly := by
  rw [endPass_eq]
  apply (hc.addAll _).setWorker
  rw [Lane.key?, Lane.key?, lane_addAll, Lane.worker_addAll, hworker]

theorem settle (hc : c.IsOrderly) {result : Except Abort Unit}
    (hworker : (c.lane h).worker = .settling key result) :
    (c.settle h key result).IsOrderly := by
  have hkey : (c.lane h).key? = some key := by
    rw [Lane.key?, hworker]
  have hleased : key ∈ (c.lane h).queue.leased := ((hc.lanes h).leased_iff key).2 hkey
  have hqueue := (hc.lanes h).queue.afterPass key result
  obtain ⟨metrics, hsettle⟩ := c.settle_eq h key result
  rw [hsettle]
  refine (hc.setCluster _).setLane ⟨?_, (hc.lanes h).leased_iff.released hkey result⟩ ?_
  · exact hqueue.release ((WorkQueue.closed_afterPass _).trans (hc.isOpen h))
      (by rw [WorkQueue.leased_afterPass]; exact hleased)
  · rw [WorkQueue.closed_release, WorkQueue.closed_afterPass]
    exact hc.isOpen h

theorem advanceTo (hc : c.IsOrderly) (instant : Nanos) : (c.advanceTo instant).IsOrderly where
  lanes h := by
    rw [lane_advanceTo]
    exact ⟨(hc.lanes h).queue.advanceTo instant,
      (hc.lanes h).leased_iff.of_same (WorkQueue.leased_advanceTo instant) rfl⟩
  isOpen h := by
    rw [lane_advanceTo]
    exact (WorkQueue.closed_advanceTo instant).trans (hc.isOpen h)

end IsOrderly

end Controller

end GatewaySync
