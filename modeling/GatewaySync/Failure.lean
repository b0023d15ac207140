import GatewaySync.Text.Quoted

/-!
# Failures

What can go wrong in a pass or at startup, as causes.  The wording, the class under which failures
are counted, and whether a second attempt may succeed are functions of the cause.
-/

namespace GatewaySync

/-- The API server's own report of an error. -/
structure ApiStatus where
  status : String
  message : String
  reason : String
  code : Nat
deriving DecidableEq, Repr

namespace ApiStatus

/-- A report of the plain kind, whose status is always the same word. -/
def failure (code : Nat) (reason message : String) : ApiStatus :=
  ⟨"Failure", message, reason, code⟩

def text (s : ApiStatus) : String :=
  "ApiError: " ++ s.message ++ ": " ++ s.reason ++ " (ErrorResponse \x7b status: " ++
    Text.quoted s.status ++ ", message: " ++ Text.quoted s.message ++ ", reason: " ++
    Text.quoted s.reason ++ ", code: " ++ toString s.code ++ " \x7d)"

end ApiStatus

/-- Why a call to the API server brought no result. -/
inductive ClientFault where
  | reported (status : ApiStatus)
  /-- The answer is not the object that was asked for. -/
  | unreadableAnswer
  /-- No request can be made of the object's name. -/
  | unbuildableRequest
deriving DecidableEq, Repr

inductive Failure where
  | client (fault : ClientFault)
  | serialization (problem : String)
  | invalidKey (key : String)
  /-- One of the gateway's objects is not cached. -/
  | missingObject (kind ns name : String)
  /-- The caches were not filled before work could start. -/
  | cachesNotSynced (reason : String)
  | configuration (problem : String)
deriving DecidableEq, Repr

namespace Failure

def reported (code : Nat) (reason message : String) : Failure :=
  .client (.reported (.failure code reason message))

/-- The problem of a text that ends before a JSON value starts. -/
def endOfText : Failure := .serialization "EOF while parsing a value at line 1 column 0"

def message : Failure → String
  | .client (.reported s) => "Kubernetes API error: " ++ s.text
  | .client .unreadableAnswer => "Kubernetes API error: unreadable answer"
  | .client .unbuildableRequest => "Kubernetes API error: no request for this name"
  | .serialization problem => "Serialization error: " ++ problem
  | .invalidKey key => "Invalid resource key: " ++ key
  | .missingObject kind ns name =>
    kind ++ " " ++ ns ++ "/" ++ name ++ " not found, is gitkube installed?"
  | .cachesNotSynced reason => "Timed out waiting for caches to sync: " ++ reason
  | .configuration problem => "Configuration error: " ++ problem

/-- A malformed key or configuration stays so; anything else may pass. -/
def isRetriable : Failure → Bool
  | .invalidKey _ => false
  | .configuration _ => false
  | _ => true

/-- The class under which the failure is counted. -/
def label : Failure → String
  | .client _ => "kube"
  | .serialization _ => "serialization"
  | .invalidKey _ => "invalid_key"
  | .missingObject .. => "missing_resource"
  | .cachesNotSynced _ => "cache_sync"
  | .configuration _ => "config"

end Failure

end GatewaySync
