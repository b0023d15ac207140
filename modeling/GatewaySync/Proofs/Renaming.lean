import GatewaySync.Proofs.Requests

/-!
# Queues over renamed keys

All that a work queue does with keys is to tell them apart.  So when keys are
renamed and no two become one, a queue over the new names goes through the same
states and has the same history as the queue over the old ones, each key under its
new name.
-/

namespace GatewaySync

universe u v

variable {κ : Type u} {ι : Type v}

/-! ## What is renamed -/

def Tally.rename (f : κ → ι) (t : Tally κ) : Tally ι := ⟨t.entries.map fun e => (f e.1, e.2)⟩

def Timer.rename (f : κ → ι) (t : Timer κ) : Timer ι := ⟨t.due, f t.key⟩

def Poll.rename (f : κ → ι) : Poll κ → Poll ι
  | .item key => .item (f key)
  | .closed => .closed
  | .pending => .pending

def QueueEvent.rename (f : κ → ι) : QueueEvent κ → QueueEvent ι
  | .added key => .added (f key)
  | .handedOut key => .handedOut (f key)
  | .released key => .released (f key)
  | .closed => .closed

def WorkQueue.Request.rename (f : κ → ι) : WorkQueue.Request κ → WorkQueue.Request ι
  | .add key => .add (f key)
  | .addAfter key delay => .addAfter (f key) delay
  | .addRateLimited key => .addRateLimited (f key)
  | .advance time => .advance time
  | .forget key => .forget (f key)
  | .next => .next
  | .release key => .release (f key)
  | .close => .close

/-- The queue with every key under its new name. -/
def WorkQueue.rename (f : κ → ι) (q : WorkQueue κ) : WorkQueue ι where
  name := q.name
  retry := q.retry
  pending := q.pending.map f
  dirty := q.dirty.map f
  leased := q.leased.map f
  failures := q.failures.rename f
  delayed := q.delayed.map (Timer.rename f)
  now := q.now
  closed := q.closed

variable [DecidableEq κ] [DecidableEq ι] {f : κ → ι}

/-! ## Counts -/

namespace Tally

theorem count_rename (hf : f.Injective) (t : Tally κ) (key : κ) :
    (t.rename f).count (f key) = t.count key := by
  have hfind : (t.rename f).entries.find? (fun e => e.1 = f key) =
      (t.entries.find? fun e => e.1 = key).map fun e => (f e.1, e.2) := by
    rw [rename, List.find?_map]
    simp only [Function.comp_def, hf.eq_iff]
  rw [count, countIn, hfind, Option.map_map]
  rfl

theorem rename_clear (hf : f.Injective) (t : Tally κ) (key : κ) :
    (t.clear key).rename f = (t.rename f).clear (f key) := by
  simp only [rename, clear, List.filter_map, Function.comp_def, ne_eq, hf.eq_iff]

theorem rename_set (hf : f.Injective) (t : Tally κ) (key : κ) (n : Nat) :
    (t.set key n).rename f = (t.rename f).set (f key) n := by
  rw [set, set, ← rename_clear hf]
  rfl

end Tally

namespace WorkQueue

variable {q : WorkQueue κ}

/-! ## Operations -/

theorem map_without (hf : f.Injective) (keys : List κ) (key : κ) :
    (without keys key).map f = without (keys.map f) (f key) := by
  simp only [without, List.filter_map, Function.comp_def, ne_eq, hf.eq_iff]

omit [DecidableEq κ] [DecidableEq ι] in
theorem map_insertTimer (timer : Timer κ) (timers : List (Timer κ)) :
    (insertTimer timer timers).map (Timer.rename f) =
      insertTimer (timer.rename f) (timers.map (Timer.rename f)) := by
  rw [insertTimer, insertTimer, List.takeWhile_map, List.dropWhile_map, List.map_append]
  rfl

theorem rename_add (hf : f.Injective) (key : κ) :
    (q.add key).rename f = (q.rename f).add (f key) := by
  have hdirty : f key ∈ (q.rename f).dirty ↔ key ∈ q.dirty := List.mem_map_of_injective hf
  have hleased : f key ∈ (q.rename f).leased ↔ key ∈ q.leased := List.mem_map_of_injective hf
  have hclosed : (q.rename f).closed = q.closed := rfl
  simp only [add, hdirty, hleased, hclosed]
  split
  · rfl
  · split
    · rfl
    · simp only [rename, List.map_append, List.map_cons, List.map_nil]

theorem rename_addAfter (hf : f.Injective) (key : κ) (delay : Nanos) :
    (q.addAfter key delay).rename f = (q.rename f).addAfter (f key) delay := by
  have hclosed : (q.rename f).closed = q.closed := rfl
  rw [addAfter, addAfter, hclosed]
  split
  · rfl
  · split
    · exact rename_add hf key
    · simp only [rename, map_insertTimer, Timer.rename]

theorem retries_rename (hf : f.Injective) (q : WorkQueue κ) (key : κ) :
    (q.rename f).retries (f key) = q.retries key :=
  q.failures.count_rename hf key

theorem rename_withFailure (hf : f.Injective) (key : κ) :
    (q.withFailure key).rename f = (q.rename f).withFailure (f key) := by
  simp only [withFailure, retries_rename hf]
  simp only [rename, Tally.rename_set hf]

theorem rename_addRateLimited (hf : f.Injective) (key : κ) :
    (q.addRateLimited key).rename f = (q.rename f).addRateLimited (f key) := by
  rw [addRateLimited_eq, rename_addAfter hf, addRateLimited_eq, retries_rename hf,
    rename_withFailure hf]
  rfl

theorem rename_next (hf : f.Injective) (q : WorkQueue κ) :
    (q.rename f).next = (q.next.1.rename f, q.next.2.rename f) := by
  have hclosed : (q.rename f).closed = q.closed := rfl
  have hpending : (q.rename f).pending = q.pending.map f := rfl
  rw [next, next, hclosed, hpending]
  split
  · rfl
  · cases q.pending with
    | nil => rfl
    | cons first rest =>
        simp only [List.map_cons, rename, Poll.rename, map_without hf]

theorem rename_release (hf : f.Injective) (key : κ) :
    (q.release key).rename f = (q.rename f).release (f key) := by
  have hdirty : f key ∈ q.dirty.map f ↔ key ∈ q.dirty := List.mem_map_of_injective hf
  simp only [release, rename, ← map_without hf, hdirty]
  split
  · simp only [List.map_append, List.map_cons, List.map_nil]
  · rfl

theorem rename_advance (hf : f.Injective) (time : Nanos) :
    (q.advance time).rename f = (q.rename f).advance time := by
  have hfold : ∀ (timers : List (Timer κ)) (q : WorkQueue κ),
      (timers.foldl (fun q timer => q.add timer.key) q).rename f =
        (timers.map (Timer.rename f)).foldl (fun q timer => q.add timer.key) (q.rename f) := by
    intro timers
    induction timers with
    | nil => exact fun _ => rfl
    | cons timer rest ih =>
        intro q
        rw [List.foldl_cons, ih, rename_add hf, List.map_cons, List.foldl_cons]
        rfl
  rw [advance, advanceTo, hfold, advance, advanceTo]
  simp only [rename, List.filter_map]
  rfl

/-! ## Runs -/

theorem rename_serve (hf : f.Injective) (q : WorkQueue κ) (request : Request κ) :
    (q.serve request).rename f = (q.rename f).serve (request.rename f) := by
  cases request with
  | add key => exact rename_add hf key
  | addAfter key delay => exact rename_addAfter hf key delay
  | addRateLimited key => exact rename_addRateLimited hf key
  | advance time => exact rename_advance hf time
  | forget key => simp only [serve, forget, rename, Request.rename, Tally.rename_clear hf]
  | next => exact (congrArg Prod.snd (rename_next hf q)).symm
  | release key => exact rename_release hf key
  | close => rfl

theorem map_events (hf : f.Injective) (q : WorkQueue κ) (request : Request κ) :
    (q.events request).map (QueueEvent.rename f) = (q.rename f).events (request.rename f) := by
  cases request with
  | add | forget | release | close => rfl
  | addAfter key delay =>
      simp only [events, Request.rename]
      split <;> rfl
  | addRateLimited key =>
      have hretry : (q.rename f).retry = q.retry := rfl
      simp only [events, Request.rename, retries_rename hf, hretry]
      split <;> rfl
  | advance time =>
      simp only [events, Request.rename, rename, List.filter_map, List.map_map]
      rfl
  | next =>
      simp only [events, Request.rename, rename_next hf]
      cases q.next.1 <;> rfl

theorem rename_serveAll (hf : f.Injective) (q : WorkQueue κ) (requests : List (Request κ)) :
    (q.serveAll requests).rename f = (q.rename f).serveAll (requests.map (Request.rename f)) := by
  induction requests generalizing q with
  | nil => rfl
  | cons request rest ih =>
      rw [List.map_cons]
      change ((q.serve request).serveAll rest).rename f =
        ((q.rename f).serve (request.rename f)).serveAll (rest.map (Request.rename f))
      rw [ih, rename_serve hf]

theorem map_eventsAll (hf : f.Injective) (q : WorkQueue κ) (requests : List (Request κ)) :
    (q.eventsAll requests).map (QueueEvent.rename f) =
      (q.rename f).eventsAll (requests.map (Request.rename f)) := by
  induction requests generalizing q with
  | nil => rfl
  | cons request rest ih =>
      rw [eventsAll, List.map_append, map_events hf, ih, rename_serve hf]
      rfl

end WorkQueue

end GatewaySync
