import GatewaySync.Retry
import GatewaySync.Tally

/-!
# Work queues

A queue hands out keys, each at most once however often it is added.  A key that is handed out is
leased until it is released.  Adding a leased key marks it, and the release puts it back, so one
key is never worked on twice at a time and no change is lost.  A key that failed comes back after
a delay that grows with its failures.

Time is part of the queue's state and moves only by `advance`.
-/

namespace GatewaySync

/-- A key that is added when its time has come. -/
structure Timer (κ : Type u) where
  due : Nanos
  key : κ
deriving DecidableEq, Repr

structure WorkQueue (κ : Type u) where
  name : String
  retry : RetryPolicy
  /-- The keys to hand out, in this order. -/
  pending : List κ := []
  /-- The keys that need work: the pending ones, and the leased ones to be put back. -/
  dirty : List κ := []
  /-- The keys handed out and not released. -/
  leased : List κ := []
  /-- How often in a row a key has failed. -/
  failures : Tally κ := {}
  /-- By time, and for one time in the order of request. -/
  delayed : List (Timer κ) := []
  now : Nanos := 0
  closed : Bool := false
deriving DecidableEq, Repr

/-- What a worker that asks for a key is told. -/
inductive Poll (κ : Type u) where
  | item (key : κ)
  | closed
  /-- There is nothing to do yet. -/
  | pending
deriving DecidableEq, Repr

namespace WorkQueue

variable {κ : Type u} [DecidableEq κ]

/-- A key is counted as failed at most this often. -/
def maxFailures : Nat := 0xffffffff

/-- The list without any occurrence of a key. -/
def without (keys : List κ) (k : κ) : List κ := keys.filter fun k' => k' ≠ k

/-- Marks a key as needing work, and makes it pending unless it is leased.  A key that already
needs work stays where it is, and a closed queue takes none. -/
def add (q : WorkQueue κ) (k : κ) : WorkQueue κ :=
  if q.closed ∨ k ∈ q.dirty then q
  else if k ∈ q.leased then { q with dirty := k :: q.dirty }
  else { q with dirty := k :: q.dirty, pending := q.pending ++ [k] }

/-- Puts a timer behind all that are due no later. -/
def insertTimer (t : Timer κ) (timers : List (Timer κ)) : List (Timer κ) :=
  timers.takeWhile (fun t' => t'.due ≤ t.due) ++ t :: timers.dropWhile (fun t' => t'.due ≤ t.due)

/-- Adds a key when a time has passed; at once when the time is zero. -/
def addAfter (q : WorkQueue κ) (k : κ) (delay : Nanos) : WorkQueue κ :=
  if q.closed then q
  else if delay = 0 then q.add k
  else { q with delayed := insertTimer ⟨q.now + delay, k⟩ q.delayed }

/-- How often in a row the key has failed. -/
def retries (q : WorkQueue κ) (k : κ) : Nat := q.failures.count k

/-- Counts a failure of the key and adds it again after the delay of its earlier failures. -/
def addRateLimited (q : WorkQueue κ) (k : κ) : WorkQueue κ :=
  let failures := q.retries k
  let counted := { q with failures := q.failures.set k (min (failures + 1) maxFailures) }
  counted.addAfter k (q.retry.delay failures)

/-- Starts the count of the key's failures anew. -/
def forget (q : WorkQueue κ) (k : κ) : WorkQueue κ :=
  { q with failures := q.failures.clear k }

/-- Leases the first pending key. -/
def next (q : WorkQueue κ) : Poll κ × WorkQueue κ :=
  if q.closed then (.closed, q)
  else
    match q.pending with
    | [] => (.pending, q)
    | k :: rest =>
      (.item k, { q with
        pending := rest, dirty := without q.dirty k, leased := k :: without q.leased k })

/-- Releases a key.  If it was added meanwhile it becomes pending again. -/
def release (q : WorkQueue κ) (k : κ) : WorkQueue κ :=
  let q := { q with leased := without q.leased k }
  if ¬q.closed ∧ k ∈ q.dirty then { q with pending := q.pending ++ [k] } else q

/-- From here on no key is taken or handed out. -/
def close (q : WorkQueue κ) : WorkQueue κ := { q with closed := true }

/-- A drain is over when no key is leased. -/
def isDrained (q : WorkQueue κ) : Bool := q.leased.isEmpty

/-- Moves time to an instant and adds the keys that are due by then, in order. -/
def advanceTo (q : WorkQueue κ) (instant : Nanos) : WorkQueue κ :=
  let due := q.delayed.filter fun t => t.due ≤ instant
  let q := { q with now := instant, delayed := q.delayed.filter fun t => ¬t.due ≤ instant }
  due.foldl (fun q t => q.add t.key) q

def advance (q : WorkQueue κ) (time : Nanos) : WorkQueue κ := q.advanceTo (q.now + time)

end WorkQueue

end GatewaySync
