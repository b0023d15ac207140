import GatewaySync.Proofs.Requests
import GatewaySync.Proofs.RetryDelay

/-!
# When failed keys come back

A queue counts the failures of each key by itself: nothing but a failure of the
key adds to its count, and nothing but starting it anew takes anything away.  So
the delays with which a key comes back begin at the base, only grow until the
count is started anew, and never leave the range that the settings allow.
-/

namespace GatewaySync.WorkQueue

variable {κ : Type u} [DecidableEq κ] {q : WorkQueue κ} {key : κ}
  {request : Request κ} {requests : List (Request κ)}

namespace Request

/-- How often the key has failed since its count was last started anew. -/
def failuresIn (key : κ) (requests : List (Request κ)) : Nat :=
  (requests.reverse.takeWhile fun request => request ≠ .forget key).count (.addRateLimited key)

theorem failuresIn_append_forget : failuresIn key (requests ++ [.forget key]) = 0 := by
  simp [failuresIn]

theorem failuresIn_append_addRateLimited :
    failuresIn key (requests ++ [.addRateLimited key]) = failuresIn key requests + 1 := by
  simp [failuresIn]

theorem failuresIn_append_of_ne (hforget : request ≠ .forget key)
    (hfails : request ≠ .addRateLimited key) :
    failuresIn key (requests ++ [request]) = failuresIn key requests := by
  simp [failuresIn, hforget, hfails]

/-- Whatever else is asked leaves the count of a key alone. -/
theorem count_recount_of_ne (failures : Tally κ) (hforget : request ≠ .forget key)
    (hfails : request ≠ .addRateLimited key) :
    (request.recount failures).count key = failures.count key := by
  cases request with
  | addRateLimited other =>
      have hother : key ≠ other := by
        rintro rfl
        exact hfails rfl
      rw [recount, Tally.count_set, if_neg hother]
  | forget other =>
      have hother : key ≠ other := by
        rintro rfl
        exact hforget rfl
      rw [recount, Tally.count_clear, if_neg hother]
  | add | addAfter | advance | next | release | close => rfl

end Request

theorem retries_serve_forget : (q.serve (.forget key)).retries key = 0 := by
  rw [retries, (q.serves_serve _).failures, Request.recount, Tally.count_clear, if_pos rfl]

theorem retries_serve_addRateLimited :
    (q.serve (.addRateLimited key)).retries key = min (q.retries key + 1) maxFailures := by
  rw [retries, (q.serves_serve _).failures, Request.recount, Tally.count_set, if_pos rfl, retries]

theorem retries_serve_of_ne (hforget : request ≠ .forget key)
    (hfails : request ≠ .addRateLimited key) : (q.serve request).retries key = q.retries key := by
  rw [retries, (q.serves_serve _).failures, Request.count_recount_of_ne _ hforget hfails, retries]

theorem retries_serveAll_of_notMem (hforget : .forget key ∉ requests)
    (hfails : .addRateLimited key ∉ requests) :
    (q.serveAll requests).retries key = q.retries key := by
  induction requests generalizing q with
  | nil => rfl
  | cons request rest ih =>
      obtain ⟨hforget, hforgets⟩ := not_or.1 (mt List.mem_cons.2 hforget)
      obtain ⟨hfails, hfailures⟩ := not_or.1 (mt List.mem_cons.2 hfails)
      exact (ih hforgets hfailures).trans (retries_serve_of_ne (Ne.symm hforget) (Ne.symm hfails))

/-- The count of a key is that of its failures, up to the greatest count. -/
theorem retries_serveAll (hnone : q.retries key = 0) (requests : List (Request κ)) :
    (q.serveAll requests).retries key = min (Request.failuresIn key requests) maxFailures := by
  induction requests using List.reverseRecOn with
  | nil => exact hnone
  | append_singleton requests request ih =>
      rw [serveAll_append]
      change ((q.serveAll requests).serve request).retries key = _
      by_cases hforget : request = .forget key
      · rw [hforget, retries_serve_forget, Request.failuresIn_append_forget, Nat.zero_min]
      · by_cases hfails : request = .addRateLimited key
        · rw [hfails, retries_serve_addRateLimited, ih, Request.failuresIn_append_addRateLimited]
          omega
        · rw [retries_serve_of_ne hforget hfails, ih,
            Request.failuresIn_append_of_ne hforget hfails]

/-- As long as the count of a key is not started anew it only grows. -/
theorem retries_le_serveAll (hcounted : q.retries key ≤ maxFailures)
    (hforget : .forget key ∉ requests) : q.retries key ≤ (q.serveAll requests).retries key := by
  induction requests generalizing q with
  | nil => exact Nat.le_refl _
  | cons request rest ih =>
      obtain ⟨hfirst, hrest⟩ := not_or.1 (mt List.mem_cons.2 hforget)
      have hnext : q.retries key ≤ (q.serve request).retries key ∧
          (q.serve request).retries key ≤ maxFailures := by
        by_cases hfails : request = .addRateLimited key
        · rw [hfails, retries_serve_addRateLimited]
          omega
        · rw [retries_serve_of_ne (Ne.symm hfirst) hfails]
          exact ⟨Nat.le_refl _, hcounted⟩
      exact Nat.le_trans hnext.1 (ih hnext.2 hrest)

/-- The delay with which the key comes back if it fails now. -/
def backoff (q : WorkQueue κ) (key : κ) : Nanos := q.retry.delay (q.retries key)

/-- In an open queue a failed key waits for its delay, and nothing else happens to
the keys. -/
theorem addRateLimited_of_open (hopen : q.closed = false) (hdelay : 0 < q.backoff key) :
    q.addRateLimited key = { q.withFailure key with
      delayed := insertTimer ⟨q.now + q.backoff key, key⟩ q.delayed } := by
  rw [addRateLimited_eq, addAfter, if_neg (by simp [withFailure, hopen])]
  exact if_neg (Nat.ne_of_gt hdelay)

theorem addRateLimited_of_backoff_eq_zero (hopen : q.closed = false) (hdelay : q.backoff key = 0) :
    q.addRateLimited key = (q.withFailure key).add key := by
  rw [addRateLimited_eq, addAfter, if_neg (by simp [withFailure, hopen])]
  exact if_pos hdelay

/-- The count of a key is the number of its failures since it was started anew,
whatever else happens.  With the settings of a running program the first delay is
the base, delays do not get shorter until the count is started anew, and a failed
key always comes back by a timer that lies between base and bound. -/
theorem retries_keep_to_schedule {options : CommandLine.Values} {settings : Settings}
    (haccepted : options.settings.checked = .ok settings) (name : String) (key : κ)
    {requests : List (Request κ)} {q : WorkQueue κ}
    (hq : q = serveAll { name, retry := settings.retry } requests) :
    q.retries key = min (Request.failuresIn key requests) 0xffffffff ∧
    (Request.failuresIn key requests = 0 → q.backoff key = settings.retry.base) ∧
    (∀ later, .forget key ∉ later → q.backoff key ≤ (q.serveAll later).backoff key) ∧
    0 < settings.retry.base ∧ settings.retry.base ≤ q.backoff key ∧
    q.backoff key ≤ settings.retry.max ∧
    (q.closed = false → ∃ failures, q.addRateLimited key = { q with
      failures, delayed := insertTimer ⟨q.now + q.backoff key, key⟩ q.delayed }) := by
  have hsound := Settings.isSound_of_accepted haccepted
  have hretry : ∀ later, (q.serveAll later).retry = settings.retry := by
    intro later
    rw [retry_serveAll, hq, retry_serveAll]
  have hcount : q.retries key = min (Request.failuresIn key requests) maxFailures := by
    rw [hq]
    exact retries_serveAll rfl requests
  have hdelay : ∀ later, (q.serveAll later).backoff key =
      settings.retry.doubled (min ((q.serveAll later).retries key) RetryPolicy.doublings) := by
    intro later
    rw [backoff, hretry later, Settings.delay_of_accepted haccepted]
  have hnow : q.backoff key =
      settings.retry.doubled (min (q.retries key) RetryPolicy.doublings) := hdelay []
  have hbase : settings.retry.base ≤ q.backoff key := by
    rw [hnow]
    exact RetryPolicy.base_le_doubled hsound _
  refine ⟨hcount, ?first, ?grows, hsound.1, hbase, ?bound, ?timer⟩
  case first =>
    intro hnone
    rw [hnow, hcount, hnone]
    exact RetryPolicy.doubled_zero hsound
  case grows =>
    intro later hforget
    have hgrows := retries_le_serveAll (hcount ▸ Nat.min_le_right _ _) hforget
    rw [hnow, hdelay later]
    exact RetryPolicy.doubled_mono _ (by omega)
  case bound =>
    rw [hnow]
    exact RetryPolicy.doubled_le_max _ _
  case timer =>
    intro hopen
    exact ⟨_, addRateLimited_of_open hopen (Nat.lt_of_lt_of_le hsound.1 hbase)⟩

/-- With the defaults one key fails twice, and another fails once and is forgotten. -/
theorem retries_keep_to_schedule_default :
    ∃ (settings : Settings) (q : WorkQueue String),
      CommandLine.Values.settings [] = settings ∧ settings.checked = .ok settings ∧
      q = serveAll { name := "remote", retry := settings.retry }
        [.addRateLimited "demo/app", .addRateLimited "demo/web", .addRateLimited "demo/app",
          .forget "demo/web", .advance (Nanos.ofMillis 7)] ∧
      q.retries "demo/app" = 2 ∧ q.retries "demo/web" = 0 ∧
      q.backoff "demo/web" = settings.retry.base ∧
      q.backoff "demo/app" ≤ (q.serveAll [.addRateLimited "demo/app"]).backoff "demo/app" := by
  have haccepted :
      (CommandLine.Values.settings []).checked = .ok (CommandLine.Values.settings []) := by
    rw [Settings.checked, if_pos (by decide +kernel)]
  refine ⟨_, _, rfl, haccepted, rfl, ?_⟩
  obtain ⟨hfailed, -, hgrows, -⟩ := retries_keep_to_schedule haccepted "remote" "demo/app" rfl
  obtain ⟨hforgotten, hfirst, -⟩ := retries_keep_to_schedule haccepted "remote" "demo/web" rfl
  exact ⟨hfailed, hforgotten, hfirst (by decide), hgrows _ (by decide)⟩

end GatewaySync.WorkQueue
