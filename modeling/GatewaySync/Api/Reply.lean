import GatewaySync.Json.Reader
import GatewaySync.Json.Decode
import GatewaySync.Failure

/-!
# Answers of the API server

A status from 400 to 599 is an error.  The server tells what went wrong in the body; where it does
not, the status and the body's text take its place.  Any other answer has to be the object that
was asked for.
-/

namespace GatewaySync.Api

structure Reply where
  status : Nat
  body : String

/-- What a status means, by the standard. -/
def phrases : List (Nat × String) := [
  (400, "Bad Request"), (401, "Unauthorized"), (402, "Payment Required"), (403, "Forbidden"),
  (404, "Not Found"), (405, "Method Not Allowed"), (406, "Not Acceptable"),
  (407, "Proxy Authentication Required"), (408, "Request Timeout"), (409, "Conflict"),
  (410, "Gone"), (411, "Length Required"), (412, "Precondition Failed"),
  (413, "Payload Too Large"), (414, "URI Too Long"), (415, "Unsupported Media Type"),
  (416, "Range Not Satisfiable"), (417, "Expectation Failed"), (418, "I'm a teapot"),
  (421, "Misdirected Request"), (422, "Unprocessable Entity"), (423, "Locked"),
  (424, "Failed Dependency"), (425, "Too Early"), (426, "Upgrade Required"),
  (428, "Precondition Required"), (429, "Too Many Requests"),
  (431, "Request Header Fields Too Large"), (451, "Unavailable For Legal Reasons"),
  (500, "Internal Server Error"), (501, "Not Implemented"), (502, "Bad Gateway"),
  (503, "Service Unavailable"), (504, "Gateway Timeout"), (505, "HTTP Version Not Supported"),
  (506, "Variant Also Negotiates"), (507, "Insufficient Storage"), (508, "Loop Detected"),
  (510, "Not Extended"), (511, "Network Authentication Required")]

def statusText (status : Nat) : String :=
  toString status ++ " " ++ (phrases.lookup status).getD "<unknown status code>"

open Json (Decoded RecordForm decode)
open Json.RecordForm (errorOf valueOr)

def errorForm : RecordForm :=
  ⟨"ErrorResponse", [("status", true), ("message", false), ("reason", false), ("code", true)]⟩

def decodeCode (j : Json) : Decoded Nat := do
  return (← Json.decodeIntIn 0 0xffff "u16" j).toNat

/-- The server's report of an error. -/
def reportOfJson (j : Json) : Decoded ApiStatus := do
  let fs ← errorForm.fieldsOf j
  let status : Decoded (Option String) := errorForm.read fs "status" decode
  let message : Decoded (Option String) := errorForm.read fs "message" decode
  let reason : Decoded (Option String) := errorForm.read fs "reason" decode
  let code := errorForm.read fs "code" decodeCode
  errorForm.finish fs
    [("status", errorOf status), ("message", errorOf message), ("reason", errorOf reason),
      ("code", errorOf code)]
    { status := valueOr "" status, message := valueOr "" message, reason := valueOr "" reason,
      code := valueOr 0 code }

namespace Reply

def isError (r : Reply) : Bool := 400 ≤ r.status && r.status < 600

/-- The error that an answer reports. -/
def report (r : Reply) : ApiStatus :=
  match (Json.outline? r.body).map reportOfJson with
  | some (.ok s) => s
  | _ => ⟨statusText r.status, Text.quoted r.body, "Failed to parse error data", r.status⟩

/-- The object that was asked for. -/
def object {α : Type} (decodeObject : Json → Decoded α) (r : Reply) : Except ClientFault α :=
  if r.isError then .error (.reported r.report)
  else
    match (Json.outline? r.body).map decodeObject with
    | some (.ok a) => .ok a
    | _ => .error .unreadableAnswer

/-- The object that was asked for, or none if the server knows none of that name. -/
def object? {α : Type} (decodeObject : Json → Decoded α) (r : Reply) :
    Except ClientFault (Option α) :=
  match r.object decodeObject with
  | .ok a => .ok (some a)
  | .error (.reported s) => if s.reason = "NotFound" then .ok none else .error (.reported s)
  | .error f => .error f

end Reply

end GatewaySync.Api
