import GatewaySync.Failure
import GatewaySync.Text.Duration
import GatewaySync.NamespacedName
import GatewaySync.SortedMap
import GatewaySync.Tally

/-!
# Metrics

Counters of what the program did, as they are shown to a scraper.  A counter's samples carry the
suffix `_total` beside whatever its name already ends in.
-/

namespace GatewaySync

/-- A line of the exposition that carries a number. -/
inductive Series where
  /-- Passes of at most `2 ^ exponent` milliseconds. -/
  | durationBucket (exponent : Nat) (controller : String)
  | durationBucketAll (controller : String)
  | durationCount (controller : String)
  | passErrors (controller failure : String)
  | queueRetries (queue : String)
  | documentWrites
  | gatewayRestarts
  | statusUpdates (ns name : String)
deriving DecidableEq, Repr

/-- A name and what it counts. -/
structure MetricFamily where
  name : String
  help : String
  type : String
deriving DecidableEq, Repr

namespace MetricFamily

def duration : MetricFamily :=
  ⟨"gitkube_reconcile_duration_seconds", "Duration of sync handler runs in seconds", "histogram"⟩
def errors : MetricFamily :=
  ⟨"gitkube_reconcile_errors_total", "Total number of failed syncs", "counter"⟩
def retries : MetricFamily :=
  ⟨"gitkube_queue_retries_total", "Total number of keys re-queued with backoff", "counter"⟩
def writes : MetricFamily :=
  ⟨"gitkube_artifact_writes_total", "Total number of remotes.json rewrites", "counter"⟩
def restarts : MetricFamily :=
  ⟨"gitkube_gateway_restarts_total", "Total number of gateway rollouts triggered", "counter"⟩
def statuses : MetricFamily :=
  ⟨"gitkube_remote_status_updates_total", "Total number of Remote status writes", "counter"⟩

/-- In the order of the exposition. -/
def all : List MetricFamily := [duration, errors, retries, writes, restarts, statuses]

/-- What stands above the samples of a family. -/
def header (f : MetricFamily) : List String :=
  ["# HELP " ++ f.name ++ " " ++ f.help ++ ".", "# TYPE " ++ f.name ++ " " ++ f.type]

end MetricFamily

namespace Series

/-- Labels in declared order. -/
def labels (pairs : List (String × String)) : String :=
  "\x7b" ++ ",".intercalate (pairs.map fun p => p.1 ++ "=\"" ++ p.2 ++ "\"") ++ "\x7d"

/-- The upper bound of a bucket, in seconds. -/
def boundText (exponent : Nat) : String :=
  String.ofList (Nanos.inUnit (Nanos.ofMillis (1 <<< exponent)) 1000000000 9)

/-- The line without its number. -/
def text : Series → String
  | .durationBucket e c =>
    MetricFamily.duration.name ++ "_bucket" ++ labels [("le", boundText e), ("controller", c)]
  | .durationBucketAll c =>
    MetricFamily.duration.name ++ "_bucket" ++ labels [("le", "+Inf"), ("controller", c)]
  | .durationCount c => MetricFamily.duration.name ++ "_count" ++ labels [("controller", c)]
  | .passErrors c f =>
    MetricFamily.errors.name ++ "_total" ++ labels [("controller", c), ("kind", f)]
  | .queueRetries q => MetricFamily.retries.name ++ "_total" ++ labels [("queue", q)]
  | .documentWrites => MetricFamily.writes.name ++ "_total"
  | .gatewayRestarts => MetricFamily.restarts.name ++ "_total"
  | .statusUpdates ns name =>
    MetricFamily.statuses.name ++ "_total" ++ labels [("namespace", ns), ("name", name)]

/-- What stands in front of the number.  A line break in a label starts a new line. -/
def lineText (s : Series) : String :=
  String.ofList (s.text.toList.reverse.takeWhile (· != '\n')).reverse

def family : Series → MetricFamily
  | .durationBucket .. | .durationBucketAll _ | .durationCount _ => .duration
  | .passErrors .. => .errors
  | .queueRetries _ => .retries
  | .documentWrites => .writes
  | .gatewayRestarts => .restarts
  | .statusUpdates .. => .statuses

def isBucket : Series → Bool
  | .durationBucket .. => true
  | .durationBucketAll _ => true
  | _ => false

def isDuration : Series → Bool
  | .durationCount _ => true
  | s => s.isBucket

end Series

/-- How far every series has grown. -/
abbrev Metrics := Tally Series

namespace Metrics

/-- The histogram has this many bounded buckets. -/
def buckets : Nat := 16

/-- The upper bound of a bucket. -/
def bound (exponent : Nat) : Float := Float.ofScientific 1 true 3 * Float.ofNat (1 <<< exponent)

/-- Counts a pass, and its duration in every bucket that is wide enough. -/
def observePass (m : Metrics) (controller : String) (seconds : Float) : Metrics :=
  let fitting := (List.range buckets).filter fun e => seconds ≤ bound e
  let m := fitting.foldl (fun m e => m.increment (.durationBucket e controller)) m
  (m.increment (.durationBucketAll controller)).increment (.durationCount controller)

def countFailure (m : Metrics) (controller : String) (f : Failure) : Metrics :=
  m.increment (.passErrors controller f.label)

def countRetry (m : Metrics) (queue : String) : Metrics := m.increment (.queueRetries queue)

def countStatusUpdate (m : Metrics) (key : NamespacedName) : Metrics :=
  m.increment (.statusUpdates key.ns key.name)

/-- What was counted, in the order of a text that stands for each series. -/
def inOrderOf (m : Metrics) (text : Series → String) : List (String × Nat) :=
  (SortedMap.ofList (m.entries.map fun c => (text c.1, c.2))).toList

/-- The lines that grew, with their growth, in the order of their text. -/
def growth (m : Metrics) : List (String × Nat) := m.inOrderOf Series.lineText

/-- The samples of a family that grew. -/
def samples (m : Metrics) (f : MetricFamily) : List String :=
  (inOrderOf (m.filter fun s => s.family = f) Series.text).map fun g => g.1 ++ " " ++ toString g.2

/-- The text that a scraper reads: every family under its header. -/
def exposition (m : Metrics) : List String :=
  MetricFamily.all.flatMap (fun f => f.header ++ samples m f) ++ ["# EOF"]

end Metrics

end GatewaySync
