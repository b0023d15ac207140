import GatewaySync.Controller
import GatewaySync.Json

/-!
# Endpoints

What the program answers over HTTP: whether it is alive, whether it is ready, and its metrics.
-/

namespace GatewaySync

inductive Endpoint where
  | health
  | ready
  | metrics
deriving DecidableEq, Repr

inductive Body where
  | empty
  | json (value : Json)
  | lines (lines : List String)

structure Response where
  status : Nat
  contentType : Option String := none
  body : Body := .empty

namespace Endpoint

/-- Endpoints are found by the exact path. -/
def ofPath? : String → Option Endpoint
  | "/health" => some .health
  | "/ready" => some .ready
  | "/metrics" => some .metrics
  | _ => none

def version : String := "0.1.0"

def healthBody : Json := .obj [("status", .str "healthy"), ("version", .str version)]

/-- Whether the workers run, and how many Remotes are cached. -/
def readyBody (c : Controller) : Json :=
  .obj [("ready", .bool c.isReady), ("remotes", .int (c.cluster.allCached Remote).length)]

def get (c : Controller) : Endpoint → Response
  | .health => ⟨200, some "application/json", .json healthBody⟩
  | .ready => ⟨if c.isReady then 200 else 503, some "application/json", .json (readyBody c)⟩
  | .metrics => ⟨200, some "text/plain; charset=utf-8", .lines c.cluster.metrics.exposition⟩

end Endpoint

/-- Answers a request.  A request for the head only gets the same answer without its body. -/
def Controller.respond (c : Controller) (method path : String) : Response :=
  match Endpoint.ofPath? path with
  | none => { status := 404 }
  | some e =>
    if method = "GET" then e.get c
    else if method = "HEAD" then { e.get c with body := .empty }
    else { status := 405 }

end GatewaySync
