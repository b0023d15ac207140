import GatewaySync.Pass
import GatewaySync.WorkQueue

/-!
# The controller

Every handler has a queue of keys and one worker.  Changes of the caches add keys; the worker takes
a key, runs the pass, and settles it: a pass that may succeed later is run again after a delay,
any other ends the matter.

The workers start when every cache has been filled once.  If that takes too long, cannot happen any
more, or the stop signal comes first, they never start.  When the run is to end its queues are
closed one after the other, while the workers go on, and it returns when nothing is leased any more.

This module says what each single step does.  In which order steps are taken is not decided here.
-/

namespace GatewaySync

/-- How far a worker is. -/
inductive WorkerState where
  | idle
  /-- The key is leased, and this is left of its pass. -/
  | leased (key : String) (rest : Pass (List String))
  /-- The pass has run and what follows from it has not been done. -/
  | settling (key : String) (result : Except Abort Unit)

/-- A handler's queue and its worker. -/
structure Lane where
  queue : WorkQueue String
  worker : WorkerState := .idle

inductive Phase where
  | created
  /-- Waiting for the caches until an instant. -/
  | filling (deadline : Nanos)
  | running
  /-- The stop signal has come, and the workers are waited for. -/
  | draining
  /-- What the run returns, once its queues are closed. -/
  | ended (result : Except Failure Unit)

structure Controller where
  settings : Settings
  cluster : Cluster := {}
  remote : Lane
  configMap : Lane
  gateway : Lane
  phase : Phase := .created
  now : Nanos := 0
  /-- The changes that keys have been added for. -/
  heard : List Notice := []

namespace Controller

def create (s : Settings) (cluster : Cluster) : Controller :=
  let lane (h : Handler) : Lane := { queue := { name := h.name, retry := s.retry } }
  { settings := s, cluster, remote := lane .remote, configMap := lane .configMap,
    gateway := lane .gateway }

def lane (c : Controller) : Handler → Lane
  | .remote => c.remote
  | .configMap => c.configMap
  | .gateway => c.gateway

def setLane (c : Controller) (h : Handler) (l : Lane) : Controller :=
  match h with
  | .remote => { c with remote := l }
  | .configMap => { c with configMap := l }
  | .gateway => { c with gateway := l }

def mapQueue (c : Controller) (h : Handler) (f : WorkQueue String → WorkQueue String) :
    Controller :=
  c.setLane h { c.lane h with queue := f (c.lane h).queue }

def setWorker (c : Controller) (h : Handler) (w : WorkerState) : Controller :=
  c.setLane h { c.lane h with worker := w }

def mapQueues (c : Controller) (f : WorkQueue String → WorkQueue String) : Controller :=
  ((c.mapQueue .remote f).mapQueue .configMap f).mapQueue .gateway f

def add (c : Controller) (h : Handler) (key : String) : Controller := c.mapQueue h (·.add key)

/-- Whether the program reports that it is ready. -/
def isReady (c : Controller) : Bool := c.phase matches .running

/-- Whether the workers have been started and are not known to have ended. -/
def hasWorkers (c : Controller) : Bool := c.phase matches .running | .draining

/-! ## Which keys a change brings up -/

/-- Whether an object is the one of a name in the gateway's namespace. -/
def isGatewayObject (s : Settings) (m : Metadata) (name : String) : Bool :=
  m.ns == some s.ns && m.displayName == name

/-- Whether a Deployment was more than rolled out: its generation changed, or is not known. -/
def changesSpec : Change Deployment → Bool
  | .updated old new =>
    old.metadata.generation.isNone || old.metadata.generation != new.metadata.generation
  | _ => true

/-- The keys that a change brings up.  A deleted Remote leaves the document, so it brings up the
ConfigMap's key as well. -/
def keysFor (s : Settings) : Notice → List (Handler × String)
  | .remote c =>
    (.remote, c.object.metadata.key.toString) ::
      (if c.isDelete then [(.configMap, s.configMapKey)] else [])
  | .configMap c =>
    let m := c.object.metadata
    if isGatewayObject s m s.configMap then [(.configMap, m.key.toString)] else []
  | .deployment c =>
    let m := c.object.metadata
    if isGatewayObject s m s.deployment && changesSpec c then [(.gateway, m.key.toString)] else []
  | .service c =>
    let m := c.object.metadata
    if isGatewayObject s m s.service then [(.gateway, m.key.toString)] else []

/-- Adds the keys that the changes of the caches bring up. -/
def hear (c : Controller) : Controller :=
  let notices := c.cluster.notices
  let keys := notices.flatMap (keysFor c.settings)
  let c := { c with cluster := { c.cluster with notices := [] }, heard := c.heard ++ notices }
  keys.foldl (fun c k => c.add k.1 k.2) c

/-- Something happens in the cluster. -/
def onCluster (c : Controller) (f : Cluster → Cluster) : Controller :=
  { c with cluster := f c.cluster }.hear

/-! ## The steps of a worker -/

/-- Takes the next key, if there is one, with its whole pass left to run. -/
def lease (c : Controller) (h : Handler) : Controller :=
  match (c.lane h).queue.next with
  | (.item key, queue) =>
    c.setLane h { queue, worker := .leased key (Pass.sync c.settings h key) }
  | _ => c

/-- Ends the pass for a key, and adds the keys that it asks for. -/
def endPass (c : Controller) (h : Handler) (key : String) (result : Except Abort (List String)) :
    Controller :=
  let requeued := result.toOption.getD []
  let c := requeued.foldl (fun c k => c.add .remote k) c
  c.setWorker h (.settling key (result.map fun _ => ()))

/-- Makes the next call of the pass for a key, and adds the keys that the call brings up. -/
def stepPass (c : Controller) (h : Handler) (key : String) : Pass (List String) → Controller
  | .done requeued => c.endPass h key (.ok requeued)
  | .abort reason => c.endPass h key (.error reason)
  | rest =>
    match rest.step c.cluster with
    | (rest, cluster) => { c with cluster }.hear.setWorker h (.leased key rest)

/-- Runs what is left of the pass for a key, with nothing in between, and adds the keys that it
brings up. -/
def runPass (c : Controller) (h : Handler) (key : String) (rest : Pass (List String)) :
    Controller :=
  match c.cluster.perform rest with
  | (result, cluster) => { c with cluster }.hear.endPass h key result

def count (c : Controller) (f : Metrics → Metrics) : Controller :=
  { c with cluster := { c.cluster with metrics := f c.cluster.metrics } }

/-- Counts a retry and adds the key again after its delay. -/
def retry (c : Controller) (h : Handler) (key : String) : Controller :=
  (c.count (·.countRetry (c.lane h).queue.name)).mapQueue h (·.addRateLimited key)

/-- What follows from the result of a pass. -/
def follow (c : Controller) (h : Handler) (key : String) : Except Abort Unit → Controller
  | .ok () => c.mapQueue h (·.forget key)
  | .error (.failed f) =>
    let c := c.count (·.countFailure h.name f)
    if f.isRetriable then c.retry h key else c.mapQueue h (·.forget key)
  | .error .panicked => c.retry h key

/-- Settles a pass and releases the key. -/
def settle (c : Controller) (h : Handler) (key : String) (result : Except Abort Unit) :
    Controller :=
  let c := c.count (·.observePass h.name 0)
  let c := (c.follow h key result).mapQueue h (·.release key)
  c.setWorker h .idle

/-! ## Starting and stopping -/

def start (c : Controller) : Controller :=
  match c.phase with
  | .created => { c with phase := .filling (c.now + c.settings.cacheSyncTimeout) }
  | _ => c

/-- Ends the run without ever having started the workers. -/
def giveUp (c : Controller) (reason : String) : Controller :=
  { c with phase := .ended (.error (.cachesNotSynced reason)) }

/-- Ends the wait for the caches when none of the four listings is waited for any more. -/
def endListings (c : Controller) : Controller :=
  match c.phase, c.cluster.listings? with
  | .filling _, some results =>
    if results.all id then { c with phase := .running }
    else c.giveUp "an informer stopped before its initial listing"
  | _, _ => c

/-- Ends the wait for the caches when it is too late. -/
def timeOut (c : Controller) : Controller :=
  match c.phase with
  | .filling deadline =>
    if deadline ≤ c.now then
      c.giveUp ("caches not synced after " ++
        toString (c.settings.cacheSyncTimeout / 1000000000) ++ "s")
    else c
  | _ => c

/-- Ends the wait for the caches if it can be ended, by the listings first. -/
def endWait (c : Controller) : Controller := c.endListings.timeOut

/-- The stop signal. -/
def stop (c : Controller) : Controller :=
  match c.phase with
  | .filling _ => c.giveUp "stop signal received"
  | .running => { c with phase := .draining }
  | _ => c

/-- Whether the run is to end, so that its queues are to be closed. -/
def isOver (c : Controller) : Bool := c.phase matches .draining | .ended _

/-- Whether all queues are closed. -/
def isClosed (c : Controller) : Bool := Handler.all.all fun h => (c.lane h).queue.closed

/-- Closes the first queue that is still open, if the run is to end.  Between two of these steps
the workers may take keys from the queues that are open. -/
def closeNext (c : Controller) : Controller :=
  match Handler.all.find? fun h => !(c.lane h).queue.closed with
  | some h => if c.isOver then c.mapQueue h WorkQueue.close else c
  | none => c

/-- Closes the three queues with nothing in between. -/
def closeQueues (c : Controller) : Controller := c.closeNext.closeNext.closeNext

/-- Whether no queue has a leased key. -/
def isDrained (c : Controller) : Bool :=
  c.remote.queue.isDrained && c.configMap.queue.isDrained && c.gateway.queue.isDrained

/-- Ends the run when the queues are closed and the last lease is released. -/
def endDrain (c : Controller) : Controller :=
  match c.phase with
  | .draining => if c.isClosed && c.isDrained then { c with phase := .ended (.ok ()) } else c
  | _ => c

/-- What the run has returned. -/
def returned? (c : Controller) : Option (Except Failure Unit) :=
  match c.phase with
  | .ended result => if c.isClosed then some result else none
  | _ => none

/-! ## Time -/

/-- The earliest instant at which something is due in a queue. -/
def firstDue? (q : WorkQueue String) : Option Nanos := q.delayed.head?.map Timer.due

/-- The earliest instant at which something is due. -/
def nextDue? (c : Controller) : Option Nanos :=
  let deadline :=
    match c.phase with
    | .filling deadline => some deadline
    | _ => none
  [deadline, firstDue? c.remote.queue, firstDue? c.configMap.queue,
    firstDue? c.gateway.queue].reduceOption.min?

/-- Moves time to an instant, and adds the keys that are due by then. -/
def advanceTo (c : Controller) (instant : Nanos) : Controller :=
  { c.mapQueues (·.advanceTo instant) with now := instant }

end Controller

end GatewaySync
