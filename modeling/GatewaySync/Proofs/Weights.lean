import GatewaySync.Proofs.Lanes
import Mathlib.Data.List.Basic

/-!
# The work left in a lane

A key that is waited for counts for less than one that is still delayed, and a
failed pass that has to be delayed for more than either.  Then taking a key,
settling its pass and waiting for a delayed key each leave less work in a lane,
and adding a key leaves at most three more.
-/

namespace GatewaySync

namespace WorkQueue

variable {κ : Type u} [DecidableEq κ] {q : WorkQueue κ} {k : κ}

/-- The work left in a queue.  A delayed key still has to be added, so it counts
for more than one that was. -/
def weight (q : WorkQueue κ) : Nat := 3 * q.dirty.length + 4 * q.delayed.length

theorem weight_add_le : (q.add k).weight ≤ q.weight + 3 := by
  rw [weight, weight, delayed_add, add]
  split
  · omega
  · split <;> simp only [List.length_cons] <;> omega

omit [DecidableEq κ] in
theorem length_insertTimer (timer : Timer κ) (timers : List (Timer κ)) :
    (insertTimer timer timers).length = timers.length + 1 := by
  have hsplit := congrArg List.length (List.takeWhile_append_dropWhile
    (p := fun other : Timer κ => decide (other.due ≤ timer.due)) (l := timers))
  rw [List.length_append] at hsplit
  rw [insertTimer, List.length_append, List.length_cons]
  omega

theorem weight_addRateLimited_le : (q.addRateLimited k).weight ≤ q.weight + 4 := by
  rw [addRateLimited, addAfter]
  split
  · exact Nat.le_add_right _ _
  · split
    · apply weight_add_le.trans
      exact Nat.add_le_add_left (by omega) _
    · simp only [weight, length_insertTimer]
      omega

theorem weight_release : (q.release k).weight = q.weight := by
  rw [release]
  dsimp only
  split <;> rfl

/-- Taking a key takes its mark away. -/
theorem length_without_lt {keys : List κ} (hmem : k ∈ keys) :
    (without keys k).length < keys.length := by
  rw [without]
  exact List.length_filter_lt_length_iff_exists.2 ⟨k, hmem, by simp⟩

theorem weight_foldl_add_le (timers : List (Timer κ)) :
    (timers.foldl (fun q timer => q.add timer.key) q).weight ≤
      q.weight + 3 * timers.length := by
  induction timers generalizing q with
  | nil => exact le_rfl
  | cons timer rest ih =>
      calc ((timer :: rest).foldl (fun q timer => q.add timer.key) q).weight
        _ ≤ (q.add timer.key).weight + 3 * rest.length := ih
        _ ≤ q.weight + 3 + 3 * rest.length := Nat.add_le_add_right weight_add_le _
        _ = q.weight + 3 * (timer :: rest).length := by
            rw [List.length_cons]
            omega

/-- A key that is due counts for less from then on. -/
theorem weight_advanceTo_add_le (instant : Nanos) :
    (q.advanceTo instant).weight +
      (q.delayed.filter fun timer => timer.due ≤ instant).length ≤ q.weight := by
  set due := q.delayed.filter fun timer => timer.due ≤ instant with hdue
  set later := q.delayed.filter fun timer => ¬timer.due ≤ instant with hlater
  have hsplit : q.delayed.length = due.length + later.length := by
    rw [hdue, hlater, List.length_eq_length_filter_add (l := q.delayed)
      fun timer => decide (timer.due ≤ instant)]
    simp only [decide_not]
  have hfired : (q.advanceTo instant).weight ≤
      3 * q.dirty.length + 4 * later.length + 3 * due.length :=
    weight_foldl_add_le due
  calc (q.advanceTo instant).weight + due.length
    _ ≤ 3 * q.dirty.length + 4 * later.length + 3 * due.length + due.length :=
        Nat.add_le_add_right hfired _
    _ = q.weight := by
        rw [weight, hsplit]
        omega

end WorkQueue

/-- The work left with a worker.  A failed pass still has to be delayed. -/
def WorkerState.weight : WorkerState → Nat
  | .idle => 0
  | .leased _ _ => 2
  | .settling _ (.ok _) => 1
  | .settling _ (.error reason) => if reason.isRetriable then 5 else 1

theorem WorkerState.weight_settling {key : String} {result : Except Abort (List String)}
    (hfinal : ∀ reason, result = .error reason → reason.isRetriable = false) :
    WorkerState.weight (.settling key (result.map fun _ => ())) = 1 := by
  cases result with
  | ok requeued => rfl
  | error reason => exact if_neg (by simp [hfinal reason rfl])

namespace Lane

variable {l : Lane}

def weight (l : Lane) : Nat := l.queue.weight + l.worker.weight

/-- A worker that takes a key takes its mark away. -/
theorem weight_taking_lt {key : String} (others : List String) (rest : Pass (List String))
    (hidle : l.worker = .idle) (hmem : key ∈ l.queue.dirty) :
    (l.taking key others rest).weight < l.weight := by
  have hless := WorkQueue.length_without_lt hmem
  simp only [weight, taking, hidle, WorkQueue.weight, WorkerState.weight]
  omega

/-- Settling a pass takes the work off that was left with it. -/
theorem weight_afterPass_lt {key : String} {result : Except Abort Unit}
    (hworker : l.worker = .settling key result) :
    Lane.weight { queue := (l.queue.afterPass key result).release key } < l.weight := by
  rw [weight, weight, hworker, WorkQueue.weight_release]
  cases result with
  | ok _ => exact Nat.lt_succ_self _
  | error reason =>
      rw [WorkQueue.afterPass, WorkerState.weight, WorkerState.weight]
      by_cases hretriable : reason.isRetriable = true
      · have hdelayed := WorkQueue.weight_addRateLimited_le (q := l.queue) (k := key)
        rw [if_pos hretriable, if_pos hretriable]
        omega
      · rw [if_neg hretriable, if_neg hretriable]
        exact Nat.lt_succ_self _

end Lane

end GatewaySync
