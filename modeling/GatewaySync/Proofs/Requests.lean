import GatewaySync.Proofs.QueueRefinement

/-!
# Requests one after the other

What a single request changes of a queue is said once for each operation; what a
row of requests changes follows by induction.  A count of failures, a timer and
the clock change only by what is asked for them, and what is seen meanwhile goes
on from the history that a run has already.  So a lease lasts until its release, a
delayed key comes when it is due, and a key that nothing concerns stays as it is.
-/

namespace GatewaySync

/-- Until the key is handed out again its additions count. -/
theorem QueueHistory.isAwaited_append_iff {κ : Type u} [DecidableEq κ] {key : κ}
    {since past : QueueHistory κ} (hkept : .handedOut key ∉ since) :
    IsAwaited key (since ++ past) ↔ .added key ∈ since ∨ IsAwaited key past := by
  induction since with
  | nil => simp
  | cons event since ih =>
      obtain ⟨hfirst, hrest⟩ := not_or.1 (mt List.mem_cons.2 hkept)
      cases event with
      | added other => simp [IsAwaited, ih hrest, or_assoc, eq_comm]
      | handedOut other =>
          have hother : other ≠ key := by
            rintro rfl
            exact hfirst rfl
          simp [IsAwaited, ih hrest, hother]
      | released | closed => simp [IsAwaited, ih hrest]

/-- The key that an event is about. -/
def QueueEvent.key? {κ : Type u} : QueueEvent κ → Option κ
  | .added key | .handedOut key | .released key => some key
  | .closed => none

namespace WorkQueue

variable {κ : Type u} [DecidableEq κ] {q : WorkQueue κ} {key : κ}

deriving instance DecidableEq for Request

/-! ## What an operation changes -/

theorem exists_add_eq (q : WorkQueue κ) (key : κ) :
    ∃ pending dirty, q.add key = { q with pending, dirty } := by
  rw [add]
  split
  · exact ⟨_, _, rfl⟩
  · split <;> exact ⟨_, _, rfl⟩

theorem exists_addAfter_eq (q : WorkQueue κ) (key : κ) (delay : Nanos) :
    ∃ pending dirty delayed, q.addAfter key delay = { q with pending, dirty, delayed } ∧
      ∀ timer ∈ q.delayed, timer ∈ delayed := by
  rw [addAfter]
  split
  · exact ⟨_, _, _, rfl, fun _ => id⟩
  · split
    · obtain ⟨pending, dirty, hadd⟩ := q.exists_add_eq key
      exact ⟨pending, dirty, _, hadd, fun _ => id⟩
    · exact ⟨_, _, _, rfl, fun _ hmem => mem_insertTimer.2 (.inr hmem)⟩

theorem exists_next_eq (q : WorkQueue κ) :
    ∃ pending dirty leased, q.next.2 = { q with pending, dirty, leased } := by
  obtain ⟨poll, hnext, -⟩ | ⟨k, rest, -, -, hnext⟩ := q.next_cases
  · exact ⟨_, _, _, by rw [hnext]⟩
  · exact ⟨_, _, _, by rw [hnext]⟩

theorem exists_release_eq (q : WorkQueue κ) (key : κ) :
    ∃ pending, q.release key = { q with pending, leased := without q.leased key } := by
  rw [release]
  dsimp only
  split <;> exact ⟨_, rfl⟩

theorem exists_advanceTo_eq (q : WorkQueue κ) (instant : Nanos) :
    ∃ pending dirty, q.advanceTo instant = { q with
      pending, dirty, now := instant
      delayed := q.delayed.filter fun timer => ¬timer.due ≤ instant } := by
  rw [advanceTo]
  refine foldl_add_induction (motive := fun q' => ∃ pending dirty, q' = { q with
    pending, dirty, now := instant
    delayed := q.delayed.filter fun timer => ¬timer.due ≤ instant }) ?_ ⟨_, _, rfl⟩
  rintro q' k ⟨pending, dirty, rfl⟩
  exact exists_add_eq _ k

/-! ## Rows of requests -/

/-- Serves requests one after the other. -/
def serveAll (q : WorkQueue κ) (requests : List (Request κ)) : WorkQueue κ :=
  requests.foldl serve q

/-- What is seen of the queue meanwhile, in order of time. -/
def eventsAll : WorkQueue κ → List (Request κ) → List (QueueEvent κ)
  | _, [] => []
  | q, request :: rest => q.events request ++ (q.serve request).eventsAll rest

/-- After this history every release among the requests comes from who holds the
lease. -/
def HoldersRelease : WorkQueue κ → QueueHistory κ → List (Request κ) → Prop
  | _, _, [] => True
  | q, history, request :: rest =>
    (∀ key, request = .release key → history.IsLeased key) ∧
      (q.serve request).HoldersRelease ((q.events request).reverse ++ history) rest

variable {request : Request κ} {requests first second : List (Request κ)}
  {history : QueueHistory κ}

theorem serveAll_append : q.serveAll (first ++ second) = (q.serveAll first).serveAll second :=
  List.foldl_append ..

theorem Run.serveAll (hrun : Run q history) (hholders : q.HoldersRelease history requests) :
    Run (q.serveAll requests) ((q.eventsAll requests).reverse ++ history) := by
  induction requests generalizing q history with
  | nil => exact hrun
  | cons request rest ih =>
      rw [eventsAll, List.reverse_append, List.append_assoc]
      exact ih (hrun.serve request hholders.1) hholders.2

/-! ## Counts, timers and the clock -/

namespace Request

/-- The time that passes. -/
def time : Request κ → Nanos
  | .advance time => time
  | _ => 0

/-- What becomes of the counts of failures. -/
def recount (failures : Tally κ) : Request κ → Tally κ
  | .addRateLimited key => failures.set key (min (failures.count key + 1) maxFailures)
  | .forget key => failures.clear key
  | _ => failures

end Request

/-- What a request makes of a queue, apart from its keys. -/
structure Serves (q : WorkQueue κ) (request : Request κ) (q' : WorkQueue κ) : Prop where
  retry : q'.retry = q.retry
  failures : q'.failures = request.recount q.failures
  now : q'.now = q.now + request.time
  /-- A timer waits until it is due. -/
  delayed : ∀ timer ∈ q.delayed, q'.now < timer.due → timer ∈ q'.delayed
  closed : q.closed = true → q'.closed = true

theorem serves_serve (q : WorkQueue κ) (request : Request κ) :
    q.Serves request (q.serve request) := by
  cases request with
  | add key =>
      obtain ⟨_, _, hadd⟩ := q.exists_add_eq key
      rw [serve, hadd]
      exact ⟨rfl, rfl, rfl, fun _ hmem _ => hmem, id⟩
  | addAfter key delay =>
      obtain ⟨_, _, _, hadd, hdelayed⟩ := q.exists_addAfter_eq key delay
      rw [serve, hadd]
      exact ⟨rfl, rfl, rfl, fun timer hmem _ => hdelayed timer hmem, id⟩
  | addRateLimited key =>
      obtain ⟨_, _, _, hadd, hdelayed⟩ :=
        (q.withFailure key).exists_addAfter_eq key (q.retry.delay (q.retries key))
      rw [serve, addRateLimited_eq, hadd]
      exact ⟨rfl, rfl, rfl, fun timer hmem _ => hdelayed timer hmem, id⟩
  | advance time =>
      obtain ⟨_, _, hadvance⟩ := q.exists_advanceTo_eq (q.now + time)
      rw [serve, advance, hadvance]
      refine ⟨rfl, rfl, rfl, fun timer hmem hlater => List.mem_filter.2 ⟨hmem, ?_⟩, id⟩
      simpa using hlater
  | forget key => exact ⟨rfl, rfl, rfl, fun _ hmem _ => hmem, id⟩
  | next =>
      obtain ⟨_, _, _, hnext⟩ := q.exists_next_eq
      rw [serve, hnext]
      exact ⟨rfl, rfl, rfl, fun _ hmem _ => hmem, id⟩
  | release key =>
      obtain ⟨_, hrelease⟩ := q.exists_release_eq key
      rw [serve, hrelease]
      exact ⟨rfl, rfl, rfl, fun _ hmem _ => hmem, id⟩
  | close => exact ⟨rfl, rfl, rfl, fun _ hmem _ => hmem, fun _ => rfl⟩

theorem retry_serveAll (q : WorkQueue κ) (requests : List (Request κ)) :
    (q.serveAll requests).retry = q.retry := by
  induction requests generalizing q with
  | nil => rfl
  | cons request rest ih => exact (ih _).trans (q.serves_serve request).retry

theorem now_le_serveAll (q : WorkQueue κ) (requests : List (Request κ)) :
    q.now ≤ (q.serveAll requests).now := by
  induction requests generalizing q with
  | nil => exact Nat.le_refl _
  | cons request rest ih =>
      have hnow := (q.serves_serve request).now
      exact Nat.le_trans (hnow ▸ Nat.le_add_right _ _) (ih _)

/-- A timer waits as long as it is not due. -/
theorem mem_delayed_serveAll {timer : Timer κ} (hmem : timer ∈ q.delayed)
    (hwaits : (q.serveAll requests).now < timer.due) :
    timer ∈ (q.serveAll requests).delayed := by
  induction requests generalizing q with
  | nil => exact hmem
  | cons request rest ih =>
      have hnow := (q.serve request).now_le_serveAll rest
      exact ih ((q.serves_serve request).delayed timer hmem (Nat.lt_of_le_of_lt hnow hwaits)) hwaits

theorem open_of_serveAll (hopen : (q.serveAll requests).closed = false) : q.closed = false := by
  induction requests generalizing q with
  | nil => exact hopen
  | cons request rest ih =>
      have hnext := ih hopen
      rw [Bool.eq_false_iff] at hnext ⊢
      exact fun hclosed => hnext ((q.serves_serve request).closed hclosed)

/-! ## What a run tells of a key -/

theorem Run.mem_leased_iff (hrun : Run q history) : key ∈ q.leased ↔ history.IsLeased key := by
  obtain ⟨r, hafter, hq⟩ := hrun.exists_refines
  rw [hq.leased, (Roster.reflects_of_after? hafter).leased]

theorem Run.mem_dirty_iff (hrun : Run q history) (hopen : q.closed = false) :
    key ∈ q.dirty ↔ history.IsAwaited key := by
  obtain ⟨r, hafter, hq⟩ := hrun.exists_refines
  rw [hq.dirty hopen, (Roster.reflects_of_after? hafter).awaited (hq.closed ▸ hopen)]

theorem Run.notMem_pending (hrun : Run q history) (hleased : key ∈ q.leased) :
    key ∉ q.pending := by
  obtain ⟨r, -, hq⟩ := hrun.exists_refines
  rw [hq.leased] at hleased
  rw [hq.pending]
  exact fun hready => r.notMem_leased key hready hleased

/-- The key is pending, or leased and marked, so that its release makes it pending. -/
def IsQueued (q : WorkQueue κ) (key : κ) : Prop :=
  key ∈ q.pending ∨ key ∈ q.leased ∧ key ∈ q.dirty

theorem Run.isQueued_iff (hrun : Run q history) (hopen : q.closed = false) :
    q.IsQueued key ↔ history.IsAwaited key := by
  obtain ⟨r, hafter, hq⟩ := hrun.exists_refines
  rw [IsQueued, hq.pending, hq.rerun,
    (Roster.reflects_of_after? hafter).awaited (hq.closed ▸ hopen)]

/-- A lease lasts until the key is released. -/
theorem mem_leased_serve (hleased : key ∈ q.leased) (hkeeps : .release key ≠ request) :
    key ∈ (q.serve request).leased := by
  cases request with
  | add other => rwa [serve, leased_add]
  | addAfter other delay => rwa [serve, leased_addAfter]
  | addRateLimited other => rwa [serve, leased_addRateLimited]
  | advance time => rwa [serve, advance, leased_advanceTo]
  | forget | close => exact hleased
  | next =>
      rw [serve]
      obtain ⟨poll, hnext, -⟩ | ⟨first, rest, -, -, hnext⟩ := q.next_cases
      · rwa [hnext]
      · rw [hnext]
        by_cases hfirst : key = first
        · exact List.mem_cons.2 (.inl hfirst)
        · exact List.mem_cons_of_mem _ (mem_without.2 ⟨hleased, hfirst⟩)
  | release other =>
      rw [serve, leased_release, mem_without]
      refine ⟨hleased, ?_⟩
      rintro rfl
      exact hkeeps rfl

theorem mem_leased_serveAll (hleased : key ∈ q.leased) (hkeeps : .release key ∉ requests) :
    key ∈ (q.serveAll requests).leased := by
  induction requests generalizing q with
  | nil => exact hleased
  | cons request rest ih =>
      obtain ⟨hfirst, hrest⟩ := not_or.1 (mt List.mem_cons.2 hkeeps)
      exact ih (mem_leased_serve hleased hfirst) hrest

/-- A leased key is not handed out. -/
theorem Run.notMem_events_of_leased (hrun : Run q history) (hleased : key ∈ q.leased) :
    .handedOut key ∉ q.events request := by
  cases request with
  | next =>
      rw [events]
      obtain ⟨poll, hnext, hnone⟩ | ⟨first, rest, -, hpending, hnext⟩ := q.next_cases
      · rw [hnext]
        cases poll with
        | item other => exact absurd rfl (hnone other)
        | closed | pending => exact List.not_mem_nil
      · rw [hnext]
        have hother : key ≠ first := by
          rintro rfl
          exact hrun.notMem_pending hleased (by simp [hpending])
        simpa using hother
  | addAfter | addRateLimited =>
      rw [events]
      split <;> simp
  | add | advance | forget | release | close => simp [events]

theorem Run.notMem_eventsAll_of_leased (hrun : Run q history) (hleased : key ∈ q.leased)
    (hholders : q.HoldersRelease history requests) (hkeeps : .release key ∉ requests) :
    .handedOut key ∉ q.eventsAll requests := by
  induction requests generalizing q history with
  | nil => exact List.not_mem_nil
  | cons request rest ih =>
      obtain ⟨hfirst, hrest⟩ := not_or.1 (mt List.mem_cons.2 hkeeps)
      rw [eventsAll, List.mem_append]
      exact not_or.2 ⟨hrun.notMem_events_of_leased hleased,
        ih (hrun.serve request hholders.1) (mem_leased_serve hleased hfirst) hholders.2 hrest⟩

/-- As soon as its time has come, a delayed key is queued. -/
theorem Run.isQueued_of_due (hrun : Run q history) (hopen : q.closed = false)
    {timer : Timer κ} (hmem : timer ∈ q.delayed) {time : Nanos}
    (hdue : timer.due ≤ q.now + time) : (q.advance time).IsQueued timer.key := by
  have hlater := hrun.serve (.advance time) nofun
  have hopen' : (q.advance time).closed = false := by rwa [advance, closed_advanceTo]
  refine (hlater.isQueued_iff hopen').2 ((QueueHistory.isAwaited_append_iff ?kept).2 (.inl ?added))
  case kept => simp [events]
  case added =>
    rw [List.mem_reverse]
    exact List.mem_map.2 ⟨timer, List.mem_filter.2 ⟨hmem, decide_eq_true hdue⟩, rfl⟩

theorem pending_release :
    (q.release key).pending =
      q.pending ++ if q.closed = false ∧ key ∈ q.dirty then [key] else [] := by
  rw [release]
  dsimp only
  simp only [Bool.not_eq_true]
  split
  · rfl
  · exact (List.append_nil _).symm

theorem retries_release {other : κ} : (q.release key).retries other = q.retries other := by
  obtain ⟨_, hrelease⟩ := q.exists_release_eq key
  rw [hrelease, retries, retries]

/-- A released key is pending once if it was added since it was handed out, and
else not at all. -/
theorem Run.count_pending_release (hrun : Run q history) (hleased : key ∈ q.leased) :
    (q.release key).pending.count key =
      if q.closed = false ∧ history.IsAwaited key then 1 else 0 := by
  have hiff : (q.closed = false ∧ key ∈ q.dirty) ↔ q.closed = false ∧ history.IsAwaited key :=
    and_congr_right fun hopen => hrun.mem_dirty_iff hopen
  rw [pending_release, List.count_append, List.count_eq_zero.2 (hrun.notMem_pending hleased),
    Nat.zero_add]
  simp only [hiff]
  split <;> simp

/-! ## The other keys -/

/-- The key that a request names. -/
def Request.key? : Request κ → Option κ
  | .add key | .addAfter key _ | .addRateLimited key | .forget key | .release key => some key
  | .advance _ | .next | .close => none

section Others

variable {q' q'' : WorkQueue κ} {keep : κ → Bool}

/-- Some request names the key, or its time comes, or it is handed out. -/
def Concerns (q : WorkQueue κ) (requests : List (Request κ)) (key : κ) : Prop :=
  (∃ request ∈ requests, request.key? = some key) ∨
    ∃ event ∈ q.eventsAll requests, event.key? = some key

theorem concerns_cons :
    q.Concerns (request :: requests) key ↔
      (request.key? = some key ∨ ∃ event ∈ q.events request, event.key? = some key) ∨
        (q.serve request).Concerns requests key := by
  simp only [Concerns, eventsAll, List.mem_cons, List.mem_append, or_and_right, exists_or,
    exists_eq_left]
  exact or_or_or_comm

/-- The kept keys have the same places, leases, marks and counts. -/
structure Spares (keep : κ → Bool) (q q' : WorkQueue κ) : Prop where
  pending : q'.pending.filter keep = q.pending.filter keep
  leased : ∀ key, keep key = true → (key ∈ q'.leased ↔ key ∈ q.leased)
  dirty : ∀ key, keep key = true → (key ∈ q'.dirty ↔ key ∈ q.dirty)
  retries : ∀ key, keep key = true → q'.retries key = q.retries key

theorem Spares.refl (q : WorkQueue κ) : Spares keep q q :=
  ⟨rfl, fun _ _ => Iff.rfl, fun _ _ => Iff.rfl, fun _ _ => rfl⟩

theorem Spares.trans (hfirst : Spares keep q q') (hsecond : Spares keep q' q'') :
    Spares keep q q'' where
  pending := hsecond.pending.trans hfirst.pending
  leased key hkey := (hsecond.leased key hkey).trans (hfirst.leased key hkey)
  dirty key hkey := (hsecond.dirty key hkey).trans (hfirst.dirty key hkey)
  retries key hkey := (hsecond.retries key hkey).trans (hfirst.retries key hkey)

omit [DecidableEq κ] in
theorem ne_of_kept {other : κ} (hkey : keep key = false) (hkept : keep other = true) :
    other ≠ key := by
  rintro rfl
  rw [hkey] at hkept
  cases hkept

theorem spares_add (hkey : keep key = false) : Spares keep q (q.add key) := by
  have hdirty : ∀ other, keep other = true → (other ∈ key :: q.dirty ↔ other ∈ q.dirty) :=
    fun other hkept => List.mem_cons.trans (or_iff_right (ne_of_kept hkey hkept))
  rw [add]
  split
  · exact .refl q
  · split
    · exact ⟨rfl, fun _ _ => Iff.rfl, hdirty, fun _ _ => rfl⟩
    · refine ⟨?_, fun _ _ => Iff.rfl, hdirty, fun _ _ => rfl⟩
      simp [hkey]

theorem spares_addAfter (hkey : keep key = false) (delay : Nanos) :
    Spares keep q (q.addAfter key delay) := by
  rw [addAfter]
  split
  · exact .refl q
  · split
    · exact spares_add hkey
    · exact ⟨rfl, fun _ _ => Iff.rfl, fun _ _ => Iff.rfl, fun _ _ => rfl⟩

theorem spares_foldl_add {timers : List (Timer κ)}
    (htimers : ∀ timer ∈ timers, keep timer.key = false) :
    Spares keep q (timers.foldl (fun q timer => q.add timer.key) q) := by
  induction timers generalizing q with
  | nil => exact .refl q
  | cons timer rest ih =>
      obtain ⟨hfirst, hrest⟩ := List.forall_mem_cons.1 htimers
      exact (spares_add hfirst).trans (ih hrest)

theorem spares_next (hkey : ∀ key, q.next.1 = .item key → keep key = false) :
    Spares keep q q.next.2 := by
  obtain ⟨poll, hnext, -⟩ | ⟨key, rest, -, hpending, hnext⟩ := q.next_cases
  · rw [hnext]
    exact .refl q
  · have hkey := hkey key (by rw [hnext])
    rw [hnext]
    refine ⟨by simp [hpending, hkey], ?_, ?_, fun _ _ => rfl⟩
    · intro other hkept
      simp [ne_of_kept hkey hkept]
    · intro other hkept
      simp [ne_of_kept hkey hkept]

theorem spares_release (hkey : keep key = false) : Spares keep q (q.release key) := by
  refine ⟨?_, ?_, ?_, ?_⟩
  · rw [pending_release, List.filter_append]
    split <;> simp [hkey]
  · intro other hkept
    simp [ne_of_kept hkey hkept]
  · intro other _
    obtain ⟨_, hrelease⟩ := q.exists_release_eq key
    rw [hrelease]
  · exact fun other _ => retries_release

/-- A request leaves every key alone that it neither names nor happens to. -/
theorem spares_serve
    (hkeep : ∀ key, keep key = true → ¬(request.key? = some key ∨
      ∃ event ∈ q.events request, event.key? = some key)) :
    Spares keep q (q.serve request) := by
  have hnamed : ∀ key, request.key? = some key → keep key = false := fun key hkey =>
    Bool.eq_false_iff.2 fun hkept => hkeep key hkept (.inl hkey)
  have hseen : ∀ event ∈ q.events request, ∀ key, event.key? = some key → keep key = false :=
    fun event hmem key hkey =>
      Bool.eq_false_iff.2 fun hkept => hkeep key hkept (.inr ⟨event, hmem, hkey⟩)
  cases request with
  | add key => exact spares_add (hnamed key rfl)
  | addAfter key delay => exact spares_addAfter (hnamed key rfl) delay
  | addRateLimited key =>
      have hkey := hnamed key rfl
      have hcounted : Spares keep q (q.withFailure key) := by
        refine ⟨rfl, fun _ _ => Iff.rfl, fun _ _ => Iff.rfl, fun other hkept => ?_⟩
        rw [retries, withFailure, Tally.count_set, if_neg (ne_of_kept hkey hkept), retries]
      exact hcounted.trans (spares_addAfter hkey _)
  | advance time =>
      let later := { q with
        now := q.now + time
        delayed := q.delayed.filter fun timer => ¬timer.due ≤ q.now + time }
      have hlater : Spares keep q later :=
        ⟨rfl, fun _ _ => Iff.rfl, fun _ _ => Iff.rfl, fun _ _ => rfl⟩
      refine hlater.trans (spares_foldl_add fun timer hmem => ?_)
      exact hseen _ (List.mem_map.2 ⟨timer, hmem, rfl⟩) _ rfl
  | forget key =>
      have hkey := hnamed key rfl
      refine ⟨rfl, fun _ _ => Iff.rfl, fun _ _ => Iff.rfl, fun other hkept => ?_⟩
      rw [serve, forget, retries, Tally.count_clear, if_neg (ne_of_kept hkey hkept), retries]
  | next =>
      refine spares_next fun key hitem => hseen (.handedOut key) ?_ key rfl
      simp [events, hitem]
  | release key => exact spares_release (hnamed key rfl)
  | close => exact ⟨rfl, fun _ _ => Iff.rfl, fun _ _ => Iff.rfl, fun _ _ => rfl⟩

theorem spares_serveAll (hkeep : ∀ key, keep key = true → ¬q.Concerns requests key) :
    Spares keep q (q.serveAll requests) := by
  induction requests generalizing q with
  | nil => exact .refl q
  | cons request rest ih =>
      have hfirst := fun key hkey => (not_or.1 (mt concerns_cons.2 (hkeep key hkey))).1
      have hrest := fun key hkey => (not_or.1 (mt concerns_cons.2 (hkeep key hkey))).2
      exact (spares_serve hfirst).trans (ih hrest)

end Others

end WorkQueue

end GatewaySync
