import GatewaySync.Proofs.Lanes
import GatewaySync.Proofs.RetrySchedule

/-!
# From a lease to its release

A key is leased while a pass for it goes on, and others go on asking things of
the queue.  When the pass ends its failure is counted or the count starts anew,
and then the key is released, possibly after more was asked.  Whatever comes in
between, the key is pending once if it was added meanwhile, its retry waits for
its time, and the other keys do not notice.
-/

namespace GatewaySync.WorkQueue

/-! ## The end of a pass -/

/-- Only who holds the lease of the key asks for this. -/
def Request.IsHolders {κ : Type u} (key : κ) : Request κ → Prop
  | .addRateLimited other | .forget other | .release other => other = key
  | .add _ | .addAfter _ _ | .advance _ | .next | .close => False

/-- The pass has failed, and another one may succeed. -/
def isRepeated : Except Abort Unit → Bool
  | .ok () => false
  | .error reason => reason.isRetriable

variable {q : WorkQueue String} {key : String} {result : Except Abort Unit}

/-- What the end of a pass asks of the queue before the release. -/
def Request.settling (key : String) (result : Except Abort Unit) : Request String :=
  if isRepeated result then .addRateLimited key else .forget key

theorem afterPass_eq_serve : q.afterPass key result = q.serve (.settling key result) := by
  cases result with
  | ok _ => rfl
  | error reason =>
      rw [afterPass, Request.settling, isRepeated]
      split <;> rfl

theorem retries_afterPass :
    (q.afterPass key result).retries key =
      if isRepeated result then min (q.retries key + 1) maxFailures else 0 := by
  rw [afterPass_eq_serve, Request.settling]
  split
  · exact retries_serve_addRateLimited
  · exact retries_serve_forget

/-- A pass for a leased key, from some moment on to the release of the lease. -/
structure Lease (key : String) (result : Except Abort Unit) where
  start : WorkQueue String
  history : QueueHistory String
  run : Run start history
  leased : history.IsLeased key
  /-- What others ask while the pass goes on. -/
  during : List (Request String)
  /-- What others ask between the end of the pass and the release. -/
  between : List (Request String)
  others : ∀ request ∈ during ++ between, ¬request.IsHolders key
  holders : start.HoldersRelease history (during ++ .settling key result :: between)

namespace Lease

variable (lease : Lease key result)

/-- The queue when the pass ends. -/
def worked : WorkQueue String := lease.start.serveAll lease.during

/-- The queue when the failure is counted, or the count starts anew. -/
def counted : WorkQueue String := lease.worked.afterPass key result

/-- The queue when the lease has ended. -/
def released : WorkQueue String := (lease.counted.serveAll lease.between).release key

/-- All that is asked before the release. -/
def requests : List (Request String) :=
  lease.during ++ .settling key result :: lease.between

/-- The delay for the failures before the pass. -/
def delay : Nanos := lease.start.backoff key

theorem serveAll_settling (later : List (Request String)) :
    lease.start.serveAll (lease.during ++ .settling key result :: later) =
      lease.counted.serveAll later := by
  rw [serveAll_append, counted, afterPass_eq_serve]
  rfl

theorem notMem_of_isHolders (request : Request String) (hholders : request.IsHolders key) :
    request ∉ lease.during ∧ request ∉ lease.between :=
  ⟨fun hmem => lease.others request (List.mem_append_left _ hmem) hholders,
    fun hmem => lease.others request (List.mem_append_right _ hmem) hholders⟩

theorem retries_worked : lease.worked.retries key = lease.start.retries key :=
  retries_serveAll_of_notMem (lease.notMem_of_isHolders (.forget key) rfl).1
    (lease.notMem_of_isHolders (.addRateLimited key) rfl).1

theorem backoff_worked : lease.worked.backoff key = lease.delay := by
  rw [backoff, retries_worked, worked, retry_serveAll, delay, backoff]

theorem mem_leased_start : key ∈ lease.start.leased := lease.run.mem_leased_iff.2 lease.leased

theorem mem_leased_worked : key ∈ lease.worked.leased :=
  mem_leased_serveAll lease.mem_leased_start
    (lease.notMem_of_isHolders (.release key) rfl).1

theorem notMem_requests : .release key ∉ lease.requests := by
  have hothers := lease.notMem_of_isHolders (.release key) rfl
  simp only [requests, List.mem_append, List.mem_cons, not_or]
  refine ⟨hothers.1, ?_, hothers.2⟩
  rw [Request.settling]
  split <;> simp

theorem serveAll_requests :
    lease.start.serveAll lease.requests = lease.counted.serveAll lease.between :=
  lease.serveAll_settling lease.between

theorem retries_released :
    lease.released.retries key =
      if isRepeated result then min (lease.start.retries key + 1) maxFailures else 0 := by
  rw [released, ← lease.retries_worked, ← retries_afterPass]
  exact retries_release.trans
    (retries_serveAll_of_notMem (lease.notMem_of_isHolders (.forget key) rfl).2
      (lease.notMem_of_isHolders (.addRateLimited key) rfl).2)

/-- The key comes back once if it was added since it was handed out. -/
theorem count_pending_released :
    lease.released.pending.count key =
      if lease.released.closed = false ∧
        (.added key ∈ lease.start.eventsAll lease.requests ∨ lease.history.IsAwaited key)
      then 1 else 0 := by
  have hholders : lease.start.HoldersRelease lease.history lease.requests := lease.holders
  have hrun := lease.run.serveAll hholders
  have hleased := mem_leased_serveAll lease.mem_leased_start lease.notMem_requests
  have hkept := lease.run.notMem_eventsAll_of_leased lease.mem_leased_start hholders
    lease.notMem_requests
  have hawaited : QueueHistory.IsAwaited key
        ((lease.start.eventsAll lease.requests).reverse ++ lease.history) ↔
      .added key ∈ lease.start.eventsAll lease.requests ∨ lease.history.IsAwaited key := by
    rw [QueueHistory.isAwaited_append_iff (mt List.mem_reverse.1 hkept), List.mem_reverse]
  rw [released, closed_release, ← serveAll_requests, hrun.count_pending_release hleased]
  exact if_congr (and_congr_right fun _ => hawaited) rfl rfl

theorem events_settling :
    lease.worked.events (.settling key result) =
      if isRepeated result ∧ lease.delay = 0 then [.added key] else [] := by
  rw [Request.settling]
  by_cases hrepeated : isRepeated result = true
  · simp only [hrepeated, if_true, true_and]
    rw [events, ← lease.backoff_worked, backoff]
  · simp [hrepeated, events]

theorem delayed_counted (hopen : lease.worked.closed = false) :
    lease.counted.delayed =
      if isRepeated result ∧ 0 < lease.delay then
        insertTimer ⟨lease.worked.now + lease.delay, key⟩ lease.worked.delayed
      else lease.worked.delayed := by
  rw [counted, afterPass_eq_serve, Request.settling]
  by_cases hrepeated : isRepeated result = true
  · simp only [hrepeated, if_true, true_and]
    rw [← backoff_worked, serve]
    by_cases hdelay : 0 < lease.worked.backoff key
    · rw [addRateLimited_of_open hopen hdelay, if_pos hdelay]
    · have hzero := Nat.eq_zero_of_not_pos hdelay
      rw [if_neg hdelay, addRateLimited_of_backoff_eq_zero hopen hzero, delayed_add]
      rfl
  · rw [if_neg hrepeated, if_neg fun hboth => hrepeated hboth.1]
    rfl

theorem now_counted : lease.counted.now = lease.worked.now := by
  rw [counted, afterPass_eq_serve, (lease.worked.serves_serve _).now, Request.settling]
  split <;> rfl

/-- A retry without delay is queued at once. -/
theorem isQueued_counted (hopen : lease.worked.closed = false)
    (hrepeated : isRepeated result = true) (hdelay : lease.delay = 0) :
    lease.counted.IsQueued key := by
  rw [counted, afterPass_eq_serve, Request.settling, if_pos hrepeated, serve,
    addRateLimited_of_backoff_eq_zero hopen (lease.backoff_worked.trans hdelay)]
  refine .inr ⟨?_, (mem_dirty_add (by exact hopen)).2 (.inl rfl)⟩
  rw [leased_add]
  exact lease.mem_leased_worked

/-- Whatever is asked until then, a retry with a delay is queued when the delay has
passed. -/
theorem isQueued_advance (hrepeated : isRepeated result = true) {later : List (Request String)}
    (hholders : lease.start.HoldersRelease lease.history
      (lease.during ++ .settling key result :: later))
    (hopen : (lease.counted.serveAll later).closed = false) {time : Nanos}
    (hwaits : (lease.counted.serveAll later).now < lease.worked.now + lease.delay)
    (hdue : lease.worked.now + lease.delay ≤ (lease.counted.serveAll later).now + time) :
    ((lease.counted.serveAll later).advance time).IsQueued key := by
  have hrun := lease.run.serveAll hholders
  rw [serveAll_settling] at hrun
  have hworked : lease.worked.closed = false := by
    have hcounted := open_of_serveAll hopen
    rwa [counted, closed_afterPass] at hcounted
  have hdelay : 0 < lease.delay := by
    refine Nat.pos_of_ne_zero fun hzero => ?_
    rw [hzero, ← lease.now_counted] at hwaits
    exact absurd hwaits (Nat.not_lt.2 (lease.counted.now_le_serveAll later))
  have htimer : ⟨lease.worked.now + lease.delay, key⟩ ∈ lease.counted.delayed := by
    rw [delayed_counted _ hworked, if_pos ⟨hrepeated, hdelay⟩]
    exact mem_insertTimer.2 (.inl rfl)
  exact hrun.isQueued_of_due hopen (mem_delayed_serveAll htimer hwaits) hdue

/-- The pass and all that comes meanwhile change a key only by what concerns it. -/
theorem spares_released {keep : String → Bool}
    (hkeep : ∀ other, keep other = true → ¬lease.start.Concerns lease.requests other) :
    Spares keep lease.start lease.released := by
  have hkey : keep key = false := by
    rw [Bool.eq_false_iff]
    refine fun hkept => hkeep key hkept (.inl ⟨.settling key result, ?_, ?_⟩)
    · exact List.mem_append_right _ List.mem_cons_self
    · rw [Request.settling]
      split <;> rfl
  rw [released, ← serveAll_requests]
  exact (spares_serveAll hkeep).trans (spares_release hkey)

/-- A pass ends without its lease.  Its failures are counted or start anew, the
key is pending once if it was added since it was handed out and else not at all,
and it is delayed exactly if the pass is repeated.  Whatever is asked until the
delay has passed, the key is queued at that moment unless the queue was closed.
The other keys change only by what concerns them.  Without anything in between
this is how the controller settles a pass. -/
theorem loses_and_duplicates_nothing (lease : Lease key result) :
    key ∉ lease.released.leased ∧
    lease.released.retries key =
      (if isRepeated result then min (lease.start.retries key + 1) 0xffffffff else 0) ∧
    lease.released.pending.count key =
      (if lease.released.closed = false ∧
        (.added key ∈ lease.start.eventsAll lease.requests ∨ lease.history.IsAwaited key)
      then 1 else 0) ∧
    lease.worked.events (.settling key result) =
      (if isRepeated result ∧ lease.delay = 0 then [.added key] else []) ∧
    (lease.worked.closed = false →
      lease.counted.delayed =
        (if isRepeated result ∧ 0 < lease.delay then
          insertTimer ⟨lease.worked.now + lease.delay, key⟩ lease.worked.delayed
        else lease.worked.delayed) ∧
      (isRepeated result → lease.delay = 0 → lease.counted.IsQueued key)) ∧
    (isRepeated result → ∀ later time,
      lease.start.HoldersRelease lease.history (lease.during ++ .settling key result :: later) →
      (lease.counted.serveAll later).closed = false →
      (lease.counted.serveAll later).now < lease.worked.now + lease.delay →
      lease.worked.now + lease.delay ≤ (lease.counted.serveAll later).now + time →
      ((lease.counted.serveAll later).advance time).IsQueued key) ∧
    (∀ keep : String → Bool,
      (∀ other, keep other = true → ¬lease.start.Concerns lease.requests other) →
      Spares keep lease.start lease.released) ∧
    ∀ (c : Controller) (h : Handler), (c.lane h).queue = lease.worked → lease.between = [] →
      ((c.settle h key result).lane h).queue = lease.released := by
  refine ⟨?unleased, lease.retries_released, lease.count_pending_released, lease.events_settling,
    fun hopen => ⟨lease.delayed_counted hopen, lease.isQueued_counted hopen⟩,
    fun hrepeated later time hholders hopen => lease.isQueued_advance hrepeated hholders hopen,
    fun keep => lease.spares_released, ?settle⟩
  case unleased =>
    rw [released, leased_release, mem_without]
    exact fun hmem => hmem.2 rfl
  case settle =>
    intro c h hqueue hbetween
    rw [c.settle_eq_afterPass, Controller.lane_setLane, if_pos rfl, hqueue, released, counted,
      hbetween]
    rfl

/-- The pass for `demo/app` panics while `demo/db` is pending.  Meanwhile `demo/web`
is added, and the delay passes before the release. -/
def panicked : Lease "demo/app" (.error .panicked) where
  start := _
  history := _
  run := Run.fresh "remote" ⟨Nanos.ofMillis 5, Nanos.ofMillis 1000⟩
    |>.serve (.add "demo/app") nofun
    |>.serve (.add "demo/db") nofun
    |>.serve .next nofun
  leased := by decide
  during := [.add "demo/web"]
  between := [.advance (Nanos.ofMillis 5)]
  others := by simp [Request.IsHolders]
  holders := ⟨nofun, nofun, nofun, trivial⟩

theorem loses_and_duplicates_nothing_panicked :
    "demo/app" ∉ panicked.released.leased ∧ panicked.released.retries "demo/app" = 1 ∧
    panicked.released.pending.count "demo/app" = 1 ∧
    Spares (fun other => other = "demo/db") panicked.start panicked.released := by
  obtain ⟨hleased, hretries, hcount, -, -, -, hspares, -⟩ := panicked.loses_and_duplicates_nothing
  refine ⟨hleased, hretries, ?_, hspares _ ?_⟩
  · rw [hcount, if_pos ⟨by decide, by decide⟩]
  · intro other hkept
    obtain rfl := of_decide_eq_true hkept
    rw [Concerns]
    decide

end Lease

end GatewaySync.WorkQueue
