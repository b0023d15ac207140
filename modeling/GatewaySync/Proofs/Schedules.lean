import GatewaySync.Proofs.WorkQueue

/-!
# Timers by due time

The timers of a queue stand by due time.  An instant cuts them in two, what is due by
then and what is due later, and a new timer goes in behind all that are due no later.
So those that are due at one time stand in the order in which they were asked for.
-/

namespace GatewaySync.WorkQueue

variable {κ : Type u}

/-- The timers that are due by an instant. -/
def dueBy (timers : List (Timer κ)) (instant : Nanos) : List (Timer κ) :=
  timers.filter fun timer => timer.due ≤ instant

/-- The timers that are due later. -/
def dueAfter (timers : List (Timer κ)) (instant : Nanos) : List (Timer κ) :=
  timers.filter fun timer => ¬timer.due ≤ instant

/-- The timers that are due at that very instant. -/
def dueAt (timers : List (Timer κ)) (instant : Nanos) : List (Timer κ) :=
  timers.filter fun timer => timer.due = instant

/-- No timer stands behind one that is due later. -/
def IsByDue (timers : List (Timer κ)) : Prop :=
  timers.Pairwise fun timer later => timer.due ≤ later.due

variable {timers schedule early late : List (Timer κ)} {timer : Timer κ}
  {instant first second : Nanos}

@[simp]
theorem mem_dueBy : timer ∈ dueBy timers instant ↔ timer ∈ timers ∧ timer.due ≤ instant := by
  simp [dueBy]

@[simp]
theorem mem_dueAfter : timer ∈ dueAfter timers instant ↔ timer ∈ timers ∧ instant < timer.due := by
  simp [dueAfter]

/-! ## Cuts -/

theorem dueBy_eq_self (hdue : ∀ timer ∈ timers, timer.due ≤ instant) :
    dueBy timers instant = timers := by
  apply List.filter_eq_self.2
  simpa using hdue

theorem dueBy_eq_nil (hlater : ∀ timer ∈ timers, instant < timer.due) :
    dueBy timers instant = [] := by
  apply List.filter_eq_nil_iff.2
  simpa using hlater

theorem dueAfter_eq_self (hlater : ∀ timer ∈ timers, instant < timer.due) :
    dueAfter timers instant = timers := by
  apply List.filter_eq_self.2
  simpa using hlater

theorem dueAt_eq_nil (hnone : ∀ timer ∈ timers, timer.due ≠ instant) :
    dueAt timers instant = [] := by
  apply List.filter_eq_nil_iff.2
  simpa using hnone

theorem dueAt_append : dueAt (early ++ late) instant = dueAt early instant ++ dueAt late instant :=
  List.filter_append ..

theorem IsByDue.dueAfter (htimers : IsByDue timers) (instant : Nanos) :
    IsByDue (dueAfter timers instant) :=
  List.Pairwise.filter _ htimers

/-- Those that are due by an instant stand before the others. -/
theorem IsByDue.due_eq (htimers : IsByDue timers) (instant : Nanos) :
    dueBy timers instant = timers.takeWhile (fun timer => timer.due ≤ instant) ∧
      WorkQueue.dueAfter timers instant = timers.dropWhile fun timer => timer.due ≤ instant := by
  induction timers with
  | nil => exact ⟨rfl, rfl⟩
  | cons first rest ih =>
      obtain ⟨hfirst, hrest⟩ := List.pairwise_cons.1 htimers
      by_cases hdue : first.due ≤ instant
      · obtain ⟨hby, hafter⟩ := ih hrest
        constructor
        · rw [List.takeWhile_cons_of_pos (by simpa using hdue), ← hby]
          exact List.filter_cons_of_pos (by simpa using hdue)
        · rw [List.dropWhile_cons_of_pos (by simpa using hdue), ← hafter]
          exact List.filter_cons_of_neg (by simpa using hdue)
      · have hlater : ∀ timer ∈ first :: rest, instant < timer.due := by
          intro timer hmem
          obtain rfl | hmem := List.mem_cons.1 hmem
          · exact Nat.lt_of_not_le hdue
          · exact Nat.lt_of_lt_of_le (Nat.lt_of_not_le hdue) (hfirst timer hmem)
        constructor
        · rw [List.takeWhile_cons_of_neg (by simpa using hdue), dueBy_eq_nil hlater]
        · rw [List.dropWhile_cons_of_neg (by simpa using hdue), dueAfter_eq_self hlater]

theorem IsByDue.dueBy_append_dueAfter (htimers : IsByDue timers) (instant : Nanos) :
    dueBy timers instant ++ WorkQueue.dueAfter timers instant = timers := by
  obtain ⟨hby, hafter⟩ := htimers.due_eq instant
  rw [hby, hafter, List.takeWhile_append_dropWhile]

/-- What is due by the second of two instants is what is due by the first, followed by what
has become due since. -/
theorem IsByDue.dueBy_append_dueBy (htimers : IsByDue timers) (hle : first ≤ second) :
    dueBy timers first ++ dueBy (WorkQueue.dueAfter timers first) second =
      dueBy timers second := by
  have hfirst : dueBy (dueBy timers first) second = dueBy timers first :=
    dueBy_eq_self fun timer hmem => Nat.le_trans (mem_dueBy.1 hmem).2 hle
  calc dueBy timers first ++ dueBy (WorkQueue.dueAfter timers first) second
      = dueBy (dueBy timers first) second ++ dueBy (WorkQueue.dueAfter timers first) second := by
        rw [hfirst]
    _ = dueBy (dueBy timers first ++ WorkQueue.dueAfter timers first) second :=
        (List.filter_append ..).symm
    _ = dueBy timers second := by rw [htimers.dueBy_append_dueAfter]

theorem dueAfter_dueAfter (hle : first ≤ second) :
    dueAfter (dueAfter timers first) second = dueAfter timers second := by
  rw [dueAfter, dueAfter, List.filter_filter]
  apply List.filter_congr
  intro timer _
  by_cases hdue : timer.due ≤ second
  · simp [hdue]
  · have hlater : ¬timer.due ≤ first := fun hfirst => hdue (Nat.le_trans hfirst hle)
    simp [hdue, hlater]

/-! ## New timers -/

theorem IsByDue.insertTimer_eq (htimers : IsByDue timers) (timer : Timer κ) :
    insertTimer timer timers =
      dueBy timers timer.due ++ timer :: WorkQueue.dueAfter timers timer.due := by
  obtain ⟨hby, hafter⟩ := htimers.due_eq timer.due
  rw [insertTimer, hby, hafter]

/-- Before the timers that are due no later one inserts nothing. -/
theorem insertTimer_append (hearly : ∀ other ∈ early, other.due ≤ timer.due) :
    insertTimer timer (early ++ late) = early ++ insertTimer timer late := by
  have hall : ∀ other ∈ early, decide (other.due ≤ timer.due) = true := by simpa using hearly
  rw [insertTimer, List.takeWhile_append_of_pos hall, List.dropWhile_append_of_pos hall,
    List.append_assoc, insertTimer]

theorem insertTimer_of_later (hlate : ∀ other ∈ late, timer.due < other.due) :
    insertTimer timer late = timer :: late := by
  cases late with
  | nil => rfl
  | cons first rest =>
      have hfirst : ¬first.due ≤ timer.due := Nat.not_le_of_lt (hlate first List.mem_cons_self)
      simp [insertTimer, hfirst]

theorem IsByDue.insertTimer (htimers : IsByDue timers) (timer : Timer κ) :
    IsByDue (insertTimer timer timers) := by
  rw [htimers.insertTimer_eq]
  apply List.pairwise_append.2
  refine ⟨List.Pairwise.filter _ htimers, List.pairwise_cons.2 ⟨?_, htimers.dueAfter _⟩, ?_⟩
  · exact fun other hmem => Nat.le_of_lt (mem_dueAfter.1 hmem).2
  · intro other hmem later hlate
    have hdue := (mem_dueBy.1 hmem).2
    obtain rfl | hlate := List.mem_cons.1 hlate
    · exact hdue
    · exact Nat.le_trans hdue (Nat.le_of_lt (mem_dueAfter.1 hlate).2)

/-- A new timer comes last of those that are due at its time. -/
theorem IsByDue.dueAt_insertTimer (htimers : IsByDue timers) (timer : Timer κ)
    (instant : Nanos) :
    dueAt (WorkQueue.insertTimer timer timers) instant = dueAt (timers ++ [timer]) instant := by
  rw [htimers.insertTimer_eq, ← List.singleton_append, dueAt_append, dueAt_append, dueAt_append]
  conv_rhs => rw [← htimers.dueBy_append_dueAfter timer.due, dueAt_append]
  by_cases hinstant : timer.due = instant
  · have hnone : dueAt (WorkQueue.dueAfter timers timer.due) instant = [] := by
      apply dueAt_eq_nil
      intro other hmem
      exact hinstant ▸ Nat.ne_of_gt (mem_dueAfter.1 hmem).2
    rw [hnone, List.append_nil, List.append_nil]
  · have hnone : dueAt [timer] instant = [] := by
      apply dueAt_eq_nil
      simpa using hinstant
    rw [hnone, List.nil_append, List.append_nil]

/-! ## Schedules -/

/-- The same timers by due time, and for one time in the same order. -/
structure IsScheduleOf (schedule timers : List (Timer κ)) : Prop where
  isByDue : IsByDue schedule
  dueAt_eq : ∀ instant, dueAt schedule instant = dueAt timers instant

theorem IsScheduleOf.insertTimer (hschedule : IsScheduleOf schedule timers) (timer : Timer κ) :
    IsScheduleOf (insertTimer timer schedule) (timers ++ [timer]) := by
  constructor
  case isByDue => exact hschedule.isByDue.insertTimer timer
  case dueAt_eq =>
    intro instant
    rw [hschedule.isByDue.dueAt_insertTimer, dueAt_append, dueAt_append, hschedule.dueAt_eq]

/-- Every timer is in the schedule as often as it was asked for. -/
theorem IsScheduleOf.perm [DecidableEq κ] (hschedule : IsScheduleOf schedule timers) :
    schedule.Perm timers := by
  rw [List.perm_iff_count]
  intro timer
  calc schedule.count timer
      = (dueAt schedule timer.due).count timer := (List.count_filter (by simp)).symm
    _ = (dueAt timers timer.due).count timer := by rw [hschedule.dueAt_eq]
    _ = timers.count timer := List.count_filter (by simp)

end GatewaySync.WorkQueue
