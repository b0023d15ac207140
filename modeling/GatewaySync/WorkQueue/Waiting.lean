import GatewaySync.WorkQueue

/-!
# Workers and drains that wait for a queue

A worker that finds nothing to do waits.  A drain closes the queue and waits until every lease is
released.  Both are served in the order in which they came.
-/

namespace GatewaySync

/-- A queue with those who wait for it, oldest first. -/
structure WaitingRoom (κ : Type u) where
  queue : WorkQueue κ
  workers : List String := []
  drains : List String := []

/-- Who stopped waiting: a worker with the key it got, or none from a closed queue. -/
structure Served (κ : Type u) where
  workers : List (String × Option κ)
  drains : List String

namespace WaitingRoom

variable {κ : Type u} [DecidableEq κ]

/-- Lets the workers ask once each. -/
def serveWorkers (q : WorkQueue κ) :
    List String → List (String × Option κ) × List String × WorkQueue κ
  | [] => ([], [], q)
  | id :: rest =>
    match q.next with
    | (.item k, q) =>
      let (served, waiting, q) := serveWorkers q rest
      ((id, some k) :: served, waiting, q)
    | (.closed, q) =>
      let (served, waiting, q) := serveWorkers q rest
      ((id, none) :: served, waiting, q)
    | (.pending, q) =>
      let (served, waiting, q) := serveWorkers q rest
      (served, id :: waiting, q)

/-- Serves the workers first.  The drains come after them, so the workers notice only the next
time that a drain has closed the queue. -/
def serve (r : WaitingRoom κ) : Served κ × WaitingRoom κ :=
  let (workers, waiting, queue) := serveWorkers r.queue r.workers
  let queue := if r.drains.isEmpty then queue else queue.close
  if queue.isDrained then (⟨workers, r.drains⟩, { queue, workers := waiting })
  else (⟨workers, []⟩, { queue, workers := waiting, drains := r.drains })

def arriveWorker (r : WaitingRoom κ) (id : String) : WaitingRoom κ :=
  { r with workers := r.workers ++ [id] }

def arriveDrain (r : WaitingRoom κ) (id : String) : WaitingRoom κ :=
  { r with drains := r.drains ++ [id] }

end WaitingRoom

end GatewaySync
