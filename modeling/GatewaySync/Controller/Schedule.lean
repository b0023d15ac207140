import GatewaySync.Controller

/-!
# In which order the controller works

Workers and passes take turns, first come first served: a worker that has taken a key steps back
until its pass has run, and the others that are ready go in between.  When the run is to end, its
queues are closed before anybody's turn.  Time passes only when nobody has anything to do, and then
it moves to the next instant at which something is due.
-/

namespace GatewaySync.Controller

/-- Whether a worker has something to do. -/
def isRunnable (c : Controller) (h : Handler) : Bool :=
  match (c.lane h).worker with
  | .idle => c.isReady && !(c.lane h).queue.pending.isEmpty
  | _ => true

/-- A worker's turn.  Having settled a pass it looks for the next key at once. -/
def turn (c : Controller) (h : Handler) : Controller :=
  match (c.lane h).worker with
  | .idle => c.lease h
  | .leased key rest => c.runPass h key rest
  | .settling key result => (c.settle h key result).lease h

/-- The waiting line after a turn of the worker at its head: those who became ready meanwhile come
before the worker itself. -/
def line (c : Controller) (h : Handler) (waiting : List Handler) : List Handler :=
  let woken := Handler.all.filter fun k => k ≠ h ∧ k ∉ waiting ∧ c.isRunnable k
  waiting ++ woken ++ (if c.isRunnable h then [h] else [])

/-- Lets the workers take turns until nobody is ready, or the steps are used up. -/
def takeTurns : Nat → List Handler → Controller → Controller
  | 0, _, c => c
  | _ + 1, [], c => c
  | steps + 1, h :: waiting, c =>
    let c := (c.turn h).endDrain
    takeTurns steps (c.line h waiting) c

/-- Lets everybody work who is ready. -/
def settleDown (steps : Nat) (c : Controller) : Controller :=
  let c := c.endWait.closeQueues.endDrain
  takeTurns steps (Handler.all.filter fun h => c.isRunnable h) c

/-- Lets time pass until an instant. -/
def elapse (steps : Nat) (c : Controller) (now target : Nanos) : Controller :=
  match c.nextDue? with
  | none => c.advanceTo target
  | some due =>
    if _ : now < due ∧ due ≤ target then
      elapse steps ((c.advanceTo due).settleDown steps) due target
    else c.advanceTo target
termination_by target - now
decreasing_by
  rename_i h
  exact Nat.sub_lt_sub_left (Nat.lt_of_lt_of_le h.1 h.2) h.1

/-- Lets some time pass. -/
def advance (steps : Nat) (c : Controller) (time : Nanos) : Controller :=
  (c.elapse steps c.now (c.now + time)).settleDown steps

end GatewaySync.Controller
