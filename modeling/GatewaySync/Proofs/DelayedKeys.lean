import GatewaySync.Proofs.RetrySchedule
import GatewaySync.Proofs.Schedules
import Mathlib.Logic.Function.Iterate

/-!
# Delayed keys come on time

A key that is to be added after a delay is a timer for the moment at which the delay
is over.  What has elapsed in a run, followed by what still waits, is the schedule of
all timers that were ever asked for.  The clock stands between the two, so every key
comes when its time has come, once, and a stretch of time may be cut wherever one likes.
-/

namespace GatewaySync.WorkQueue

variable {κ : Type u} {timers past : List (Timer κ)}

/-! ## The passing of time -/

section Time

variable [DecidableEq κ] {q : WorkQueue κ}

/-- Adds the keys of timers, one after the other. -/
def addTimers (q : WorkQueue κ) (timers : List (Timer κ)) : WorkQueue κ :=
  timers.foldl (fun q timer => q.add timer.key) q

theorem addTimers_append (q : WorkQueue κ) (early late : List (Timer κ)) :
    q.addTimers (early ++ late) = (q.addTimers early).addTimers late :=
  List.foldl_append ..

/-- Adding a key neither looks at the timers and the clock nor changes them. -/
theorem add_withTime (q : WorkQueue κ) (key : κ) (delayed : List (Timer κ)) (now : Nanos) :
    add { q with delayed, now } key = { q.add key with delayed, now } := by
  simp only [add]
  split
  · rfl
  · split <;> rfl

theorem addTimers_withTime (q : WorkQueue κ) (timers delayed : List (Timer κ)) (now : Nanos) :
    addTimers { q with delayed, now } timers = { q.addTimers timers with delayed, now } := by
  induction timers generalizing q with
  | nil => rfl
  | cons timer rest ih =>
      rw [addTimers, List.foldl_cons, add_withTime]
      exact ih (q.add timer.key)

theorem advanceTo_eq (q : WorkQueue κ) (instant : Nanos) :
    q.advanceTo instant = { q.addTimers (dueBy q.delayed instant) with
      delayed := dueAfter q.delayed instant, now := instant } :=
  q.addTimers_withTime _ _ instant

/-- Nothing that waits is due, and what is due first comes first. -/
structure IsTimely (q : WorkQueue κ) : Prop where
  isByDue : IsByDue q.delayed
  later : ∀ timer ∈ q.delayed, q.now < timer.due

/-- A stretch of time may be cut anywhere. -/
theorem IsTimely.advance_advance (hq : q.IsTimely) (first second : Nanos) :
    (q.advance first).advance second = q.advance (first + second) := by
  have hle : q.now + first ≤ q.now + first + second := Nat.le_add_right _ _
  rw [advance, advance, advance, advanceTo_eq q, ← Nat.add_assoc, advanceTo_eq, advanceTo_eq,
    addTimers_withTime, ← addTimers_append, hq.isByDue.dueBy_append_dueBy hle,
    dueAfter_dueAfter hle]

theorem IsTimely.advance_zero (hq : q.IsTimely) : q.advance 0 = q := by
  rw [advance, Nat.add_zero, advanceTo_eq, dueBy_eq_nil hq.later, dueAfter_eq_self hq.later]
  rfl

theorem IsTimely.advance (hq : q.IsTimely) (time : Nanos) : (q.advance time).IsTimely := by
  rw [WorkQueue.advance, advanceTo_eq]
  constructor
  case isByDue => exact hq.isByDue.dueAfter _
  case later => exact fun timer hmem => (mem_dueAfter.1 hmem).2

/-- Time passes one nanosecond after the other. -/
theorem IsTimely.advance_eq_iterate (hq : q.IsTimely) (time : Nanos) :
    q.advance time = (fun q => q.advance 1)^[time] q := by
  induction time generalizing q with
  | zero => exact hq.advance_zero
  | succ time ih =>
      rw [Function.iterate_succ_apply, ← ih (hq.advance 1), hq.advance_advance, Nat.add_comm]

end Time

/-! ## What is asked for and what is over -/

section Runs

variable [DecidableEq κ] {q q' : WorkQueue κ} {key : κ} {request : Request κ}
  {requests : List (Request κ)}

/-- The timers that a request asks for: the key is to be added when its delay is over. -/
def asked (q : WorkQueue κ) : Request κ → List (Timer κ)
  | .addAfter key delay => if q.closed then [] else [⟨q.now + delay, key⟩]
  | .addRateLimited key => if q.closed then [] else [⟨q.now + q.backoff key, key⟩]
  | .add _ | .advance _ | .forget _ | .next | .release _ | .close => []

/-- The timers that are over with a request, in this order.  A delay of zero is over at once. -/
def elapsed (q : WorkQueue κ) : Request κ → List (Timer κ)
  | .advance time => dueBy q.delayed (q.now + time)
  | .addAfter key delay => dueBy (q.asked (.addAfter key delay)) q.now
  | .addRateLimited key => dueBy (q.asked (.addRateLimited key)) q.now
  | .add _ | .forget _ | .next | .release _ | .close => []

/-- The timers that were asked for, in order of request. -/
def askedAll : WorkQueue κ → List (Request κ) → List (Timer κ)
  | _, [] => []
  | q, request :: rest => q.asked request ++ (q.serve request).askedAll rest

/-- The timers that are over, in order of time. -/
def elapsedAll : WorkQueue κ → List (Request κ) → List (Timer κ)
  | _, [] => []
  | q, request :: rest => q.elapsed request ++ (q.serve request).elapsedAll rest

/-- What is over and what waits make up the schedule, and the clock stands between them. -/
structure IsOnTime (q : WorkQueue κ) (past timers : List (Timer κ)) : Prop where
  schedule : IsScheduleOf (past ++ q.delayed) timers
  expired : ∀ timer ∈ past, timer.due ≤ q.now
  waiting : ∀ timer ∈ q.delayed, q.now < timer.due

omit [DecidableEq κ] in
theorem isOnTime_fresh (name : String) (retry : RetryPolicy) :
    IsOnTime ({ name, retry } : WorkQueue κ) [] [] := by
  constructor
  case schedule => exact ⟨List.Pairwise.nil, fun _ => rfl⟩
  case expired => exact fun _ hmem => nomatch hmem
  case waiting => exact fun _ hmem => nomatch hmem

omit [DecidableEq κ] in
theorem IsOnTime.isTimely (hq : q.IsOnTime past timers) : q.IsTimely :=
  ⟨(List.pairwise_append.1 hq.schedule.isByDue).2.1, hq.waiting⟩

omit [DecidableEq κ] in
theorem IsOnTime.of_same (hq : q.IsOnTime past timers) (hdelayed : q'.delayed = q.delayed)
    (hnow : q'.now = q.now) : q'.IsOnTime past timers := by
  constructor
  case schedule => exact hdelayed ▸ hq.schedule
  case expired => exact hnow ▸ hq.expired
  case waiting =>
    rw [hdelayed, hnow]
    exact hq.waiting

omit [DecidableEq κ] in
/-- A timer with no delay left is over at once. -/
theorem IsOnTime.expire (hq : q.IsOnTime past timers) (key : κ) :
    q.IsOnTime (past ++ [⟨q.now, key⟩]) (timers ++ [⟨q.now, key⟩]) := by
  have hplace : WorkQueue.insertTimer ⟨q.now, key⟩ (past ++ q.delayed) =
      past ++ [⟨q.now, key⟩] ++ q.delayed := by
    rw [insertTimer_append hq.expired, insertTimer_of_later hq.waiting, List.append_assoc]
    rfl
  constructor
  case schedule => exact hplace ▸ hq.schedule.insertTimer _
  case expired =>
    intro timer hmem
    obtain hmem | hmem := List.mem_append.1 hmem
    · exact hq.expired timer hmem
    · rw [List.mem_singleton.1 hmem]
  case waiting => exact hq.waiting

omit [DecidableEq κ] in
/-- Any other timer waits in its place. -/
theorem IsOnTime.insertTimer (hq : q.IsOnTime past timers) (key : κ) {delay : Nanos}
    (hdelay : 0 < delay) :
    IsOnTime { q with delayed := insertTimer ⟨q.now + delay, key⟩ q.delayed } past
      (timers ++ [⟨q.now + delay, key⟩]) := by
  have hexpired : ∀ timer ∈ past, timer.due ≤ q.now + delay := fun timer hmem =>
    Nat.le_trans (hq.expired timer hmem) (Nat.le_add_right _ _)
  have hplace : WorkQueue.insertTimer ⟨q.now + delay, key⟩ (past ++ q.delayed) =
      past ++ WorkQueue.insertTimer ⟨q.now + delay, key⟩ q.delayed := insertTimer_append hexpired
  constructor
  case schedule => exact hplace ▸ hq.schedule.insertTimer _
  case expired => exact hq.expired
  case waiting =>
    intro timer hmem
    obtain rfl | hmem := mem_insertTimer.1 hmem
    · exact Nat.lt_add_of_pos_right hdelay
    · exact hq.waiting timer hmem

theorem now_add (q : WorkQueue κ) (key : κ) : (q.add key).now = q.now := by
  obtain ⟨_, _, hadd⟩ := q.exists_add_eq key
  rw [hadd]

/-- A timer that was just asked for is over if there is no delay, and else it waits. -/
theorem elapsed_addAfter (hopen : q.closed = false) (key : κ) (delay : Nanos) :
    q.elapsed (.addAfter key delay) = if delay = 0 then [⟨q.now, key⟩] else [] := by
  rw [elapsed, asked, if_neg (by simp [hopen])]
  split
  · rename_i hzero
    rw [hzero]
    exact dueBy_eq_self (by simp)
  · rename_i hdelay
    exact dueBy_eq_nil (by simpa using Nat.pos_of_ne_zero hdelay)

theorem IsOnTime.addAfter (hq : q.IsOnTime past timers) (key : κ) (delay : Nanos) :
    (q.addAfter key delay).IsOnTime (past ++ q.elapsed (.addAfter key delay))
      (timers ++ q.asked (.addAfter key delay)) := by
  by_cases hclosed : q.closed = true
  · rw [addAfter_of_closed hclosed, elapsed, asked, if_pos hclosed, dueBy, List.filter_nil,
      List.append_nil, List.append_nil]
    exact hq
  · rw [WorkQueue.addAfter, if_neg hclosed, elapsed_addAfter (Bool.eq_false_iff.2 hclosed), asked,
      if_neg hclosed]
    split
    · rename_i hzero
      rw [hzero]
      exact (hq.expire key).of_same delayed_add (now_add q key)
    · rename_i hdelay
      rw [List.append_nil]
      exact hq.insertTimer key (Nat.pos_of_ne_zero hdelay)

theorem IsOnTime.advance (hq : q.IsOnTime past timers) (time : Nanos) :
    (q.advance time).IsOnTime (past ++ q.elapsed (.advance time)) timers := by
  rw [WorkQueue.advance, advanceTo_eq]
  constructor
  case schedule =>
    rw [List.append_assoc, elapsed, hq.isTimely.isByDue.dueBy_append_dueAfter]
    exact hq.schedule
  case expired =>
    intro timer hmem
    obtain hmem | hmem := List.mem_append.1 hmem
    · exact Nat.le_trans (hq.expired timer hmem) (Nat.le_add_right _ _)
    · exact (mem_dueBy.1 hmem).2
  case waiting => exact fun timer hmem => (mem_dueAfter.1 hmem).2

theorem IsOnTime.serve (hq : q.IsOnTime past timers) (request : Request κ) :
    (q.serve request).IsOnTime (past ++ q.elapsed request) (timers ++ q.asked request) := by
  have hsame : ∀ {q' : WorkQueue κ}, q'.delayed = q.delayed → q'.now = q.now →
      q'.IsOnTime (past ++ []) (timers ++ []) := by
    intro q' hdelayed hnow
    rw [List.append_nil, List.append_nil]
    exact hq.of_same hdelayed hnow
  cases request with
  | add key => exact hsame delayed_add (now_add q key)
  | addAfter key delay => exact hq.addAfter key delay
  | addRateLimited key =>
      have hcounted : (q.withFailure key).IsOnTime past timers := hq.of_same rfl rfl
      exact hcounted.addAfter key (q.backoff key)
  | advance time =>
      rw [asked, List.append_nil]
      exact hq.advance time
  | forget key => exact hsame rfl rfl
  | next =>
      obtain ⟨_, _, _, hnext⟩ := q.exists_next_eq
      apply hsame <;> rw [WorkQueue.serve, hnext]
  | release key =>
      obtain ⟨_, hrelease⟩ := q.exists_release_eq key
      apply hsame <;> rw [WorkQueue.serve, hrelease]
  | close => exact hsame rfl rfl

theorem IsOnTime.serveAll (hq : q.IsOnTime past timers) (requests : List (Request κ)) :
    (q.serveAll requests).IsOnTime (past ++ q.elapsedAll requests)
      (timers ++ q.askedAll requests) := by
  induction requests generalizing q past timers with
  | nil => simpa [elapsedAll, askedAll, WorkQueue.serveAll] using hq
  | cons request rest ih =>
      rw [elapsedAll, askedAll, ← List.append_assoc, ← List.append_assoc]
      exact ih (hq.serve request)

/-! ## What becomes of the keys -/

/-- The request has to do with delays. -/
def Request.IsTimed : Request κ → Prop
  | .addAfter _ _ | .addRateLimited _ | .advance _ => True
  | .add _ | .forget _ | .next | .release _ | .close => False

/-- The same keys are pending, marked and leased. -/
structure SameKeys (q q' : WorkQueue κ) : Prop where
  pending : q.pending = q'.pending
  dirty : q.dirty = q'.dirty
  leased : q.leased = q'.leased

/-- What is counted makes no difference to adding a key. -/
theorem sameKeys_add (q : WorkQueue κ) (failures : Tally κ) (key : κ) :
    SameKeys (add { q with failures } key) (q.add key) := by
  simp only [add]
  split
  · exact ⟨rfl, rfl, rfl⟩
  · split <;> exact ⟨rfl, rfl, rfl⟩

theorem sameKeys_addAfter (q : WorkQueue κ) (failures : Tally κ) (key : κ) (delay : Nanos) :
    SameKeys (addAfter { q with failures } key delay)
      (q.addTimers (q.elapsed (.addAfter key delay))) := by
  by_cases hclosed : q.closed = true
  · rw [addAfter, if_pos hclosed, elapsed, asked, if_pos hclosed]
    exact ⟨rfl, rfl, rfl⟩
  · rw [addAfter, if_neg hclosed, elapsed_addAfter (Bool.eq_false_iff.2 hclosed)]
    split
    · exact q.sameKeys_add failures key
    · exact ⟨rfl, rfl, rfl⟩

/-- All that delays do to the keys is that those are added whose timers are over. -/
theorem sameKeys_serve (htimed : request.IsTimed) :
    SameKeys (q.serve request) (q.addTimers (q.elapsed request)) := by
  cases request with
  | addAfter key delay => exact q.sameKeys_addAfter q.failures key delay
  | addRateLimited key =>
      exact q.sameKeys_addAfter (q.withFailure key).failures key (q.backoff key)
  | advance time =>
      rw [serve, advance, advanceTo_eq]
      exact ⟨rfl, rfl, rfl⟩
  | add | forget | next | release | close => exact htimed.elim

omit [DecidableEq κ] in
theorem IsCovered.isQueued (hq : q.IsCovered) (hdirty : key ∈ q.dirty) : q.IsQueued key :=
  (hq key hdirty).imp id fun hleased => ⟨hleased, hdirty⟩

theorem IsCovered.serve (hq : q.IsCovered) (hopen : q.closed = false) (request : Request κ) :
    (q.serve request).IsCovered := by
  cases request with
  | add key => exact hq.add key
  | addAfter key delay => exact hq.addAfter key delay
  | addRateLimited key =>
      have hcounted : (q.withFailure key).IsCovered := hq
      exact hcounted.addAfter key _
  | advance time => exact foldl_add_induction (fun _ key hq => hq.add key) hq
  | next => exact hq.next
  | release key => exact hq.release hopen key
  | forget | close => exact hq

theorem IsCovered.serveAll (hq : q.IsCovered) (hopen : (q.serveAll requests).closed = false) :
    (q.serveAll requests).IsCovered := by
  induction requests generalizing q with
  | nil => exact hq
  | cons request rest ih =>
      have hlast : (q.serveAll (request :: rest)).closed = false := hopen
      exact ih (hq.serve (open_of_serveAll hlast) request) hopen

theorem mem_dirty_addTimers {timers : List (Timer κ)} (hopen : q.closed = false) :
    key ∈ (q.addTimers timers).dirty ↔ key ∈ timers.map Timer.key ∨ key ∈ q.dirty := by
  induction timers generalizing q with
  | nil => simp [addTimers]
  | cons timer rest ih =>
      have hrest := ih (q := q.add timer.key) (closed_add.trans hopen)
      rw [mem_dirty_add hopen] at hrest
      rw [List.map_cons, List.mem_cons, or_assoc, or_left_comm]
      exact hrest

/-- In an open queue the key of a timer that is over is pending, or leased and marked to
run again. -/
theorem isQueued_of_mem_elapsed (hcovered : q.IsCovered) (hopen : q.closed = false)
    {timer : Timer κ} (helapsed : timer ∈ q.elapsed request) :
    (q.serve request).IsQueued timer.key := by
  have htimed : request.IsTimed := by
    cases request with
    | addAfter | addRateLimited | advance => exact trivial
    | add | forget | next | release | close => cases helapsed
  apply (hcovered.serve hopen request).isQueued
  rw [(sameKeys_serve htimed).dirty, mem_dirty_addTimers hopen]
  exact .inl (List.mem_map_of_mem helapsed)

/-- The timers that are over in the next nanosecond are those that were asked for then. -/
theorem IsOnTime.elapsed_tick (hq : q.IsOnTime past timers) :
    q.elapsed (.advance 1) = dueAt timers (q.now + 1) := by
  have hpast : dueAt past (q.now + 1) = [] :=
    dueAt_eq_nil fun timer hmem => Nat.ne_of_lt (Nat.lt_succ_of_le (hq.expired timer hmem))
  have htick : dueBy q.delayed (q.now + 1) = dueAt q.delayed (q.now + 1) := by
    apply List.filter_congr
    intro timer hmem
    have hwaits : q.now + 1 ≤ timer.due := hq.waiting timer hmem
    rw [decide_eq_decide]
    exact ⟨fun hle => Nat.le_antisymm hle hwaits, Nat.le_of_eq⟩
  calc q.elapsed (.advance 1)
      = dueAt q.delayed (q.now + 1) := htick
    _ = dueAt (past ++ q.delayed) (q.now + 1) := by rw [dueAt_append, hpast, List.nil_append]
    _ = dueAt timers (q.now + 1) := hq.schedule.dueAt_eq _

/-- In every run the timers that are over and those that wait are those that were asked
for, each as often, by due time and for one time in the order of request; and the clock
stands between the two.  All that delays do to the keys of a queue, at any moment, is that
those are added whose timers are over, and in an open queue such a key is then pending, or
leased and marked to run again.  In each nanosecond exactly the timers are over that were
asked for then, time passes one nanosecond after the other, and it makes no difference
where a stretch of time is cut. -/
theorem delayed_keys_come_on_time (name : String) (retry : RetryPolicy)
    {requests : List (Request κ)} {q : WorkQueue κ} {past timers : List (Timer κ)}
    (hq : q = serveAll { name, retry } requests)
    (hpast : past = elapsedAll { name, retry } requests)
    (htimers : timers = askedAll { name, retry } requests) :
    IsScheduleOf (past ++ q.delayed) timers ∧ (past ++ q.delayed).Perm timers ∧
    (∀ timer ∈ past, timer.due ≤ q.now) ∧ (∀ timer ∈ q.delayed, q.now < timer.due) ∧
    (∀ request : Request κ,
      (request.IsTimed → SameKeys (q.serve request) (q.addTimers (q.elapsed request))) ∧
      (q.closed = false → ∀ timer ∈ q.elapsed request, (q.serve request).IsQueued timer.key)) ∧
    q.elapsed (.advance 1) = dueAt timers (q.now + 1) ∧
    (∀ time, q.advance time = (fun q => q.advance 1)^[time] q) ∧
    ∀ first second, (q.advance first).advance second = q.advance (first + second) := by
  have hrun : q.IsOnTime past timers := by
    rw [hq, hpast, htimers]
    exact (isOnTime_fresh name retry).serveAll requests
  refine ⟨hrun.schedule, hrun.schedule.perm, hrun.expired, hrun.waiting, ?keys,
    hrun.elapsed_tick, hrun.isTimely.advance_eq_iterate, hrun.isTimely.advance_advance⟩
  case keys =>
    intro request
    refine ⟨sameKeys_serve, fun hopen timer helapsed => ?_⟩
    have hfresh : IsCovered ({ name, retry } : WorkQueue κ) := fun _ hmem => nomatch hmem
    have hcovered : q.IsCovered := hq ▸ hfresh.serveAll (hq ▸ hopen)
    exact isQueued_of_mem_elapsed hcovered hopen helapsed

/-- Three timers of different length end in the same nanosecond, and their keys are added
in the order in which they were asked for. -/
theorem delayed_keys_come_on_time_tied :
    ∃ q : WorkQueue Nat,
      q = serveAll { name := "remote", retry := ⟨2, 8⟩ }
        [.addAfter 1 5, .addAfter 2 3, .addAfter 3 0, .advance 3, .addRateLimited 4,
          .addAfter 5 2] ∧
      q.delayed = [⟨5, 1⟩, ⟨5, 4⟩, ⟨5, 5⟩] ∧ q.elapsed (.advance 1) = [] ∧
      (q.advance 1).elapsed (.advance 1) = [⟨5, 1⟩, ⟨5, 4⟩, ⟨5, 5⟩] ∧
      (q.advance 1).advance 1 = q.advance 2 ∧ (q.advance 2).pending = [3, 2, 1, 4, 5] := by
  obtain ⟨-, -, -, -, -, htick, -, hcut⟩ :=
    delayed_keys_come_on_time (κ := Nat) "remote" ⟨2, 8⟩ rfl rfl rfl
  exact ⟨_, rfl, by decide, htick.trans (by decide), by decide, hcut 1 1, by decide⟩

end Runs

end GatewaySync.WorkQueue
