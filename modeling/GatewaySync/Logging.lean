import GatewaySync.Json
import GatewaySync.Logging.Directive

/-!
# Log records

Which records are written is said by directives.  Of those that fit a record the most specific one
decides: the one with the longest target, of these the one that asks for the most fields, and of
equal ones the last.  Without any directive, everything from the level of information on is
written.

As text, a record shows the characters that could steer a terminal by number.
-/

namespace GatewaySync

/-- A record outside all spans.  Its message is its only field. -/
structure LogRecord where
  level : LogLevel
  target : String
  message : String
deriving DecidableEq, Repr

namespace LogRecord

def fieldNames : List String := ["message"]

/-- The ASCII characters that are shown by number: the bell, the backspace, the form feed, the
escape and the delete character. -/
def steeringChars : List Char := ['\x07', '\x08', '\x0c', '\x1b', '\x7f']

/-- A character of a message as it is shown. -/
def shownChar (c : Char) : List Char :=
  if c ∈ steeringChars then
    ['\\', 'x', Nat.digitChar (c.toNat / 16), Nat.digitChar (c.toNat % 16)]
  else if 0x80 ≤ c.toNat ∧ c.toNat ≤ 0x9F then
    "\\u\x7b".toList ++ Nat.toDigits 16 c.toNat ++ ['\x7d']
  else [c]

def shownMessage (r : LogRecord) : String := String.ofList (r.message.toList.flatMap shownChar)

def text (r : LogRecord) : String := r.level.name ++ " " ++ r.target ++ ": " ++ r.shownMessage

def toJson (r : LogRecord) : Json := .obj [
  ("level", .str r.level.name), ("target", .str r.target), ("message", .str r.message)]

end LogRecord

/-- Whether a directive says something about a record. -/
def LogDirective.fits (d : LogDirective) (r : LogRecord) : Bool :=
  d.holdsOutsideSpans && d.target.toList.isPrefixOf r.target.toList &&
    d.fields.all fun f => f.name ∈ LogRecord.fieldNames

/-- The directives of a text, and its parts that are none. -/
structure LogFilter where
  directives : List LogDirective
  refused : List (String × LogDirective.Fault)

namespace LogFilter

def default : LogDirective := { level := .info }

/-- Reads the directives between commas. -/
def ofText (s : String) : LogFilter :=
  let parts := (s.splitOn ",").filter fun part => !part.isEmpty
  let read := parts.map fun part => (part, LogDirective.ofText part)
  let directives := read.filterMap fun r => r.2.toOption
  { directives := if directives.isEmpty then [default] else directives
    refused := read.filterMap fun r =>
      match r.2 with
      | .ok _ => none
      | .error fault => some (r.1, fault) }

/-- How specific a directive is: the length of its target, and how many fields it asks for. -/
def specificity (d : LogDirective) : Nat × Nat := (d.target.utf8ByteSize, d.fields.length)

/-- Of two directives the more specific one, and of equal ones the later. -/
def moreSpecific (a : Option LogDirective) (b : LogDirective) : Option LogDirective :=
  match a with
  | none => some b
  | some a =>
    let (aTarget, aFields) := specificity a
    let (bTarget, bFields) := specificity b
    if bTarget < aTarget ∨ (bTarget = aTarget ∧ bFields < aFields) then some a else some b

def writes (f : LogFilter) (r : LogRecord) : Bool :=
  match (f.directives.filter fun d => d.fits r).foldl moreSpecific none with
  | none => false
  | some d => r.level.rank ≤ d.level.rank

end LogFilter

end GatewaySync
