import GatewaySync.Proofs.Roster
import GatewaySync.Proofs.WorkQueue

/-!
# Work queues refine rosters

A work queue keeps three overlapping collections of keys and a list of timers.
Whatever is asked of it, seen from outside it is a roster: the pending keys are
the ready ones, and the marked keys are the pending ones together with the
leased ones that are to run again.  So the history of every run is that of a
roster, and what the queue holds can be read off it.
-/

namespace GatewaySync.WorkQueue

/-- What can be asked of a queue. -/
inductive Request (κ : Type u) where
  | add (key : κ)
  | addAfter (key : κ) (delay : Nanos)
  | addRateLimited (key : κ)
  | advance (time : Nanos)
  | forget (key : κ)
  | next
  | release (key : κ)
  | close

variable {κ : Type u} [DecidableEq κ]

def serve (q : WorkQueue κ) : Request κ → WorkQueue κ
  | .add key => q.add key
  | .addAfter key delay => q.addAfter key delay
  | .addRateLimited key => q.addRateLimited key
  | .advance time => q.advance time
  | .forget key => q.forget key
  | .next => q.next.2
  | .release key => q.release key
  | .close => q.close

/-- What is seen of the queue while it serves a request, in order of time.  A
delayed key is added when its time has come. -/
def events (q : WorkQueue κ) : Request κ → List (QueueEvent κ)
  | .add key => [.added key]
  | .addAfter key delay => if delay = 0 then [.added key] else []
  | .addRateLimited key => if q.retry.delay (q.retries key) = 0 then [.added key] else []
  | .advance time =>
    (q.delayed.filter fun timer => timer.due ≤ q.now + time).map fun timer => .added timer.key
  | .forget _ => []
  | .next =>
    match q.next.1 with
    | .item key => [.handedOut key]
    | .closed | .pending => []
  | .release key => [.released key]
  | .close => [.closed]

/-- The runs of a queue with their histories.  Only who holds a lease releases
it. -/
inductive Run : WorkQueue κ → QueueHistory κ → Prop where
  | fresh (name : String) (retry : RetryPolicy) : Run { name, retry } []
  | serve {q : WorkQueue κ} {history : QueueHistory κ} (hrun : Run q history)
      (request : Request κ) (hholder : ∀ key, request = .release key → history.IsLeased key) :
      Run (q.serve request) ((q.events request).reverse ++ history)

/-- The queue holds what the roster holds. -/
structure Refines (q : WorkQueue κ) (r : Roster κ) : Prop where
  pending : q.pending = r.ready
  leased : ∀ key, key ∈ q.leased ↔ key ∈ r.leased
  rerun : ∀ key, key ∈ q.leased ∧ key ∈ q.dirty ↔ key ∈ r.rerun
  dirty : q.closed = false → ∀ key, key ∈ q.dirty ↔ key ∈ r.ready ∨ key ∈ r.rerun
  closed : q.closed = r.closed

variable {q : WorkQueue κ} {r : Roster κ} {key : κ} {history : QueueHistory κ}

omit [DecidableEq κ] in
/-- Whatever is counted or waits for its time, the queue holds the same. -/
theorem Refines.of_same {q' : WorkQueue κ} (hq : q.Refines r)
    (hpending : q'.pending = q.pending) (hdirty : q'.dirty = q.dirty)
    (hleased : q'.leased = q.leased) (hclosed : q'.closed = q.closed) : q'.Refines r := by
  constructor
  · rw [hpending, hq.pending]
  · simpa only [hleased] using hq.leased
  · simpa only [hleased, hdirty] using hq.rerun
  · simpa only [hclosed, hdirty] using hq.dirty
  · rw [hclosed, hq.closed]

theorem Refines.add (hq : q.Refines r) (key : κ) : (q.add key).Refines (r.add key) := by
  cases hclosed : q.closed with
  | true =>
      have hroster : r.closed = true := hq.closed ▸ hclosed
      simpa [WorkQueue.add, Roster.add, hclosed, hroster] using hq
  | false =>
      have hroster : r.closed = false := hq.closed ▸ hclosed
      by_cases hdirty : key ∈ q.dirty
      · rw [Roster.add_of_mem ((hq.dirty hclosed key).1 hdirty), WorkQueue.add,
          if_pos (.inr hdirty)]
        exact hq
      · have hnew : key ∉ r.ready ∧ key ∉ r.rerun := by
          simpa [hq.dirty hclosed] using hdirty
        have hskip : ¬(q.closed = true ∨ key ∈ q.dirty) := by simp [hclosed, hdirty]
        have hopen : ¬r.closed = true := by simp [hroster]
        by_cases hleased : key ∈ r.leased
        · rw [WorkQueue.add, if_neg hskip, if_pos ((hq.leased key).2 hleased), Roster.add,
            if_neg hopen, dif_pos hleased]
          refine ⟨hq.pending, hq.leased, ?_, ?_, hq.closed⟩
          · intro other
            have hother := hq.rerun other
            by_cases heq : other = key
            · simp [heq, hq.leased, hleased]
            · simpa [heq] using hother
          · intro _ other
            simp [hq.dirty hclosed, or_left_comm]
        · have hleased' : key ∉ q.leased := by rwa [hq.leased]
          rw [WorkQueue.add, if_neg hskip, if_neg hleased', Roster.add, if_neg hopen,
            dif_neg hleased, dif_neg hnew.1]
          refine ⟨by simp [hq.pending], hq.leased, ?_, ?_, hq.closed⟩
          · intro other
            have hother := hq.rerun other
            by_cases heq : other = key
            · simp [heq, hq.leased, hleased, hnew.2]
            · simpa [heq] using hother
          · intro _ other
            simp [hq.dirty hclosed, or_left_comm, or_comm]

/-- A queue and a roster give the same answer, and go on alike. -/
theorem Refines.next (hq : q.Refines r) :
    q.next.1 = r.next.1 ∧ q.next.2.Refines r.next.2 := by
  rw [Roster.next]
  split
  · rename_i hclosed
    rw [WorkQueue.next, if_pos (by rwa [hq.closed])]
    exact ⟨rfl, hq⟩
  · rename_i hopen
    have hclosed : q.closed = false := by simpa [hq.closed] using hopen
    split
    · rename_i hready
      rw [WorkQueue.next, if_neg (by simp [hclosed]), hq.pending.trans hready]
      exact ⟨rfl, hq⟩
    · rename_i key rest hready
      have hunleased : key ∉ r.leased := r.notMem_leased key (by simp [hready])
      have hnodup := r.nodup
      rw [hready, List.nodup_cons] at hnodup
      rw [WorkQueue.next, if_neg (by simp [hclosed]), hq.pending.trans hready]
      refine ⟨rfl, rfl, ?_, ?_, ?_, hq.closed⟩
      · intro other
        by_cases hother : other = key <;> simp [hother, hq.leased]
      · intro other
        by_cases hother : other = key
        · have hunmarked : key ∉ r.rerun := fun hmem => hunleased (r.rerun_subset hmem)
          simp [hother, hunmarked]
        · simp [hother, ← hq.rerun]
      · intro _ other
        by_cases hother : other = key
        · have hunmarked : key ∉ r.rerun := fun hmem => hunleased (r.rerun_subset hmem)
          simp [hother, hunmarked, hnodup.1]
        · simp [hother, hq.dirty hclosed, hready]

theorem Refines.release (hq : q.Refines r) (hleased : key ∈ r.leased) :
    (q.release key).Refines (r.release key) := by
  have hunready : key ∉ r.ready := fun hmem => r.notMem_leased key hmem hleased
  have hmarked : key ∈ q.dirty ↔ key ∈ r.rerun := by
    simp [← hq.rerun, hq.leased, hleased]
  have hrerun : ∀ other, other ∈ without q.leased key ∧ other ∈ q.dirty ↔
      other ∈ r.rerun.erase key := by
    intro other
    rw [Finset.mem_erase, ← hq.rerun, mem_without, and_right_comm, and_comm]
  have hagain : (¬q.closed = true ∧ key ∈ q.dirty) ↔ (¬r.closed = true ∧ key ∈ r.rerun) := by
    rw [hq.closed, hmarked]
  rw [WorkQueue.release, Roster.release]
  dsimp only
  split
  · rename_i hboth
    rw [dif_pos (hagain.1 hboth)]
    refine ⟨by simp [hq.pending], by simp [hq.leased, and_comm], hrerun, ?_, hq.closed⟩
    intro hopen other
    by_cases hother : other = key
    · simp [hother, hboth.2]
    · simp [hother, hq.dirty hopen]
  · rename_i hneither
    rw [dif_neg fun hboth => hneither (hagain.2 hboth)]
    refine ⟨hq.pending, by simp [hq.leased, and_comm], hrerun, ?_, hq.closed⟩
    intro hopen other
    by_cases hother : other = key
    · have hclean : key ∉ q.dirty := fun hmem => hneither ⟨by simpa using hopen, hmem⟩
      simp [hother, hclean, hunready]
    · simp [hother, hq.dirty hopen]

omit [DecidableEq κ] in
theorem Refines.close (hq : q.Refines r) : q.close.Refines r.close where
  pending := hq.pending
  leased := hq.leased
  rerun := hq.rerun
  dirty hopen := by cases hopen
  closed := rfl

/-! ## Runs -/

/-- Keys that are added one after the other. -/
theorem after?_added (keys : List κ) (hafter : Roster.after? history = some r) :
    Roster.after? ((keys.map QueueEvent.added).reverse ++ history) =
      some (keys.foldl Roster.add r) := by
  induction keys generalizing r history with
  | nil => simpa using hafter
  | cons key rest ih =>
      have hfirst : Roster.after? (.added key :: history) = some (r.add key) := by
        rw [Roster.after?, hafter]
        rfl
      simpa using ih hfirst

theorem Refines.foldl_add (hq : q.Refines r) (timers : List (Timer κ)) :
    (timers.foldl (fun q timer => q.add timer.key) q).Refines
      ((timers.map Timer.key).foldl Roster.add r) := by
  induction timers generalizing q r with
  | nil => exact hq
  | cons timer rest ih => exact ih (hq.add timer.key)

/-- Whatever is asked, the roster goes on with what is seen of the queue. -/
theorem Refines.serve (hq : q.Refines r) (hafter : Roster.after? history = some r)
    (request : Request κ) (hholder : ∀ key, request = .release key → history.IsLeased key) :
    ∃ r', Roster.after? ((q.events request).reverse ++ history) = some r' ∧
      (q.serve request).Refines r' := by
  have hadd : ∀ {q : WorkQueue κ} (key : κ), q.Refines r →
      ∃ r', Roster.after? ([QueueEvent.added key].reverse ++ history) = some r' ∧
        (q.add key).Refines r' :=
    fun key hq => ⟨_, after?_added [key] hafter, hq.add key⟩
  have haddAfter : ∀ {q : WorkQueue κ} (key : κ) (delay : Nanos), q.Refines r →
      ∃ r', Roster.after? ((if delay = 0 then [QueueEvent.added key] else []).reverse ++
          history) = some r' ∧ (q.addAfter key delay).Refines r' := by
    intro q key delay hq
    by_cases hzero : delay = 0
    · rw [if_pos hzero, WorkQueue.addAfter]
      split
      · rename_i hclosed
        have hsame := hq.add key
        rw [WorkQueue.add, if_pos (.inl hclosed)] at hsame
        exact ⟨_, after?_added [key] hafter, hsame⟩
      · exact hadd key hq
    · rw [if_neg hzero, WorkQueue.addAfter, if_neg hzero]
      refine ⟨r, hafter, ?_⟩
      split
      · exact hq
      · exact hq.of_same rfl rfl rfl rfl
  cases request with
  | add key => exact hadd key hq
  | addAfter key delay => exact haddAfter key delay hq
  | addRateLimited key =>
      exact haddAfter key _ (hq.of_same rfl rfl rfl rfl)
  | advance time =>
      let due := q.delayed.filter fun timer => timer.due ≤ q.now + time
      let later := { q with
        now := q.now + time
        delayed := q.delayed.filter fun timer => ¬timer.due ≤ q.now + time }
      have hlater : later.Refines r := hq.of_same rfl rfl rfl rfl
      have hkeys := after?_added (due.map Timer.key) hafter
      rw [List.map_map] at hkeys
      exact ⟨_, hkeys, hlater.foldl_add due⟩
  | forget key => exact ⟨r, hafter, hq.of_same rfl rfl rfl rfl⟩
  | next =>
      obtain ⟨hpoll, hnext⟩ := hq.next
      obtain ⟨hsame, hnone⟩ | ⟨key, -, hkey, -⟩ := r.next_cases
      · refine ⟨r, ?_, hsame ▸ hnext⟩
        rw [events, hpoll]
        split
        · rename_i key hkey
          exact absurd hkey (hnone key)
        · exact hafter
        · exact hafter
      · refine ⟨r.next.2, ?_, hnext⟩
        simp [events, hpoll, hkey, Roster.after?, hafter, Roster.follow?]
  | release key =>
      have hleased : key ∈ r.leased :=
        ((Roster.reflects_of_after? hafter).leased key).2 (hholder key rfl)
      refine ⟨r.release key, ?_, hq.release hleased⟩
      simp [events, Roster.after?, hafter, Roster.follow?, hleased]
  | close =>
      refine ⟨r.close, ?_, hq.close⟩
      simp [events, Roster.after?, hafter, Roster.follow?]

/-- Every run of a queue is a run of a roster. -/
theorem Run.exists_refines (hrun : Run q history) :
    ∃ r, Roster.after? history = some r ∧ q.Refines r := by
  induction hrun with
  | fresh name retry => exact ⟨{}, rfl, by constructor <;> simp⟩
  | serve hrun request hholder ih =>
      obtain ⟨r, hafter, hq⟩ := ih
      exact hq.serve hafter request hholder

/-- In every run the queue is a roster with the same history.  The pending keys
are distinct and not leased, so no leased key is handed out.  Keys are handed out
in the order in which they became ready.  In an open queue a key is pending, or
leased and marked, exactly if it was added since it was last handed out. -/
theorem refines_roster_of_run (hrun : Run q history) :
    ∃ r, Roster.after? history = some r ∧ q.Refines r ∧ q.next.1 = r.next.1 ∧
      q.pending.Nodup ∧ (∀ key ∈ q.pending, key ∉ q.leased) ∧
      (∀ key, q.next.1 = .item key → key ∉ q.leased) ∧
      history.handedOut ++ q.pending = history.becameReady ∧
      (q.closed = false → ∀ key, key ∈ q.pending ∨ (key ∈ q.leased ∧ key ∈ q.dirty) ↔
        ∃ since past, history = since ++ .added key :: past ∧ .handedOut key ∉ since) := by
  obtain ⟨r, hafter, hq⟩ := hrun.exists_refines
  have hreflects := Roster.reflects_of_after? hafter
  have hnodup : q.pending.Nodup := hq.pending ▸ r.nodup
  have hunleased : ∀ key ∈ q.pending, key ∉ q.leased := by
    simpa only [hq.pending, hq.leased] using r.notMem_leased
  have horder : history.handedOut ++ q.pending = history.becameReady :=
    hq.pending ▸ hreflects.order
  refine ⟨r, hafter, hq, hq.next.1, hnodup, hunleased, ?_, horder, ?_⟩
  · intro key hitem
    obtain ⟨poll, hnext, hnone⟩ | ⟨first, rest, -, hpending, hnext⟩ := q.next_cases
    · rw [hnext] at hitem
      exact absurd hitem (hnone key)
    · rw [hnext] at hitem
      obtain rfl := Poll.item.inj hitem
      exact hunleased first (by simp [hpending])
  · intro hopen key
    rw [← QueueHistory.isAwaited_iff_exists, ← hreflects.awaited (hq.closed ▸ hopen),
      hq.pending, hq.rerun]

/-- A key that is added twice while it is leased becomes ready once, behind a
delayed key that came due before the release. -/
theorem refines_roster_of_run_readded :
    ∃ (q : WorkQueue Nat) (history : QueueHistory Nat), Run q history ∧
      history = [.released 1, .added 3, .added 1, .added 2, .added 1, .handedOut 1, .added 1] ∧
      q.pending = [2, 3, 1] ∧ history.handedOut ++ q.pending = history.becameReady := by
  have hrun := Run.fresh (κ := Nat) "remote" ⟨1000, 8000⟩
    |>.serve (.add 1) (by simp)
    |>.serve .next (by simp)
    |>.serve (.add 1) (by simp)
    |>.serve (.add 2) (by simp)
    |>.serve (.addAfter 3 5) (by simp)
    |>.serve (.add 1) (by simp)
    |>.serve (.advance 5) (by simp)
    |>.serve (.release 1) (by rintro key ⟨⟩; decide)
  obtain ⟨-, -, -, -, -, -, -, horder, -⟩ := refines_roster_of_run hrun
  exact ⟨_, _, hrun, rfl, rfl, horder⟩

end GatewaySync.WorkQueue
