import GatewaySync.Text.Alphanumeric
import GatewaySync.Text.Blank
import GatewaySync.Text.Decimal
import GatewaySync.Text.Pattern

/-!
# Log directives

A directive is a level alone, or the start of a target, a span in brackets with fields in braces,
and a level after an equals sign, of which each part may be missing.  It is read character by
character.

Blanks around a directive are passed over by the reading, but its parts are cut out of the text
that has them still, at the places counted without them.  So a blank in front moves every part.
-/

namespace GatewaySync

inductive LogLevel where
  | off
  | error
  | warn
  | info
  | debug
  | trace
deriving DecidableEq, Repr

namespace LogLevel

def all : List LogLevel := [.off, .error, .warn, .info, .debug, .trace]

def name : LogLevel → String
  | .off => "OFF"
  | .error => "ERROR"
  | .warn => "WARN"
  | .info => "INFO"
  | .debug => "DEBUG"
  | .trace => "TRACE"

/-- How much is written: a record of a level is written at that level and all above it. -/
def rank : LogLevel → Nat
  | .off => 0
  | .error => 1
  | .warn => 2
  | .info => 3
  | .debug => 4
  | .trace => 5

/-- A level by its number, after at most one plus sign. -/
def ofNumber? (cs : List Char) : Option LogLevel :=
  match Text.Decimal.boundedOf Text.Decimal.uint64Max cs with
  | .ok n => all.find? fun l => l.rank = n
  | .error _ => none

/-- A level by its number, or by its name in letters of any case. -/
def ofChars? (cs : List Char) : Option LogLevel :=
  (ofNumber? cs).or (all.find? fun l => cs.map Char.toUpper == l.name.toList)

end LogLevel

/-- A field that a directive asks for, perhaps with a value. -/
structure FieldFilter where
  name : String
  value : Option String := none
deriving DecidableEq, Repr

structure LogDirective where
  /-- What targets start with. -/
  target : String := ""
  /-- The span inside which the directive holds. -/
  span : Option String := none
  fields : List FieldFilter := []
  level : LogLevel := .trace
deriving DecidableEq, Repr

namespace LogDirective

/-- Why a text is no directive. -/
inductive Fault where
  | malformed
  | unknownLevel
  /-- The value of a field is no pattern. -/
  | value (fault : Text.Pattern.Fault)
deriving DecidableEq, Repr

def Fault.message : Fault → String
  | .malformed => "invalid filter directive"
  | .unknownLevel =>
    "error parsing level filter: expected one of \"off\", \"error\", \"warn\", \"info\", " ++
      "\"debug\", \"trace\", or a number 0-5"
  | .value .malformed => "invalid field filter: error building NFA"
  | .value .wordBoundary =>
    "invalid field filter: unsupported regex feature for DFAs: cannot build DFAs for regexes " ++
      "with Unicode word boundaries; switch to ASCII word boundaries, or heuristically enable " ++
      "Unicode word boundaries or use a different regex engine"

/-- The part of a text from one place to another, in bytes. -/
def cut (start stop : Nat) (place : Nat) : List Char → List Char
  | [] => []
  | c :: rest =>
    let later := cut start stop (place + c.utf8Size) rest
    if start ≤ place ∧ place < stop then c :: later else later

/-- A number, perhaps with a sign, a point and an exponent, or one of the names of those that no
digits write. -/
def isNumber (cs : List Char) : Bool :=
  let cs := if cs.head? = some '+' ∨ cs.head? = some '-' then cs.drop 1 else cs
  let whole := cs.takeWhile Char.isDigit
  let rest := cs.drop whole.length
  let fraction := if rest.head? = some '.' then (rest.drop 1).takeWhile Char.isDigit else []
  let rest := if rest.head? = some '.' then rest.drop (fraction.length + 1) else rest
  let exponent := rest.drop 1
  let digits :=
    if exponent.head? = some '+' ∨ exponent.head? = some '-' then exponent.drop 1 else exponent
  String.ofList (cs.map Char.toLower) ∈ ["inf", "infinity", "nan"] ||
    (!(whole.isEmpty && fraction.isEmpty) &&
      (rest.isEmpty ||
        ((rest.head? = some 'e' || rest.head? = some 'E') && (Text.Decimal.natOf? digits).isSome)))

/-- What a field has to be: a number or else a pattern. -/
def readValue (cs : List Char) : Except Fault String :=
  match Text.Pattern.fault? cs with
  | some fault => if isNumber cs then .ok (String.ofList cs) else .error (.value fault)
  | none => .ok (String.ofList cs)

/-- A field's name, and the value after an equals sign. -/
def readField (cs : List Char) : Except Fault FieldFilter :=
  if cs.isEmpty then .error .malformed
  else
    let name := String.ofList (cs.takeWhile (· != '='))
    match cs.dropWhile (· != '=') with
    | [] => .ok { name }
    | _ :: rest => do return { name, value := some (← readValue (rest.takeWhile (· != '='))) }

/-- The level after an equals sign; where there is none, everything is written. -/
def readLevel (cs : List Char) : Except Fault LogLevel :=
  if cs.isEmpty then .ok .trace
  else
    match LogLevel.ofChars? cs with
    | some level => .ok level
    | none => .error .unknownLevel

/-- What the reading of a directive has come to, and where that started. -/
inductive Stage where
  | start
  /-- In a level or in a target. -/
  | word
  | span (start : Nat)
  | field (start : Nat)
  /-- Behind the braces around a field. -/
  | fieldEnd
  /-- Behind the brackets around a span. -/
  | spanEnd
  | level (start : Nat)
deriving DecidableEq, Repr

def isFirstChar (c : Char) : Bool := Text.isAlphanumeric c || c ∈ ['-', ':', '_']

/-- Takes in one character.  `part` cuts the text between two places. -/
def step (part : Nat → Nat → List Char) (place : Nat) (c : Char) :
    LogDirective × Stage → Except Fault (LogDirective × Stage)
  | (d, .start) =>
    if c = '[' then .ok (d, .span (place + 1))
    else if isFirstChar c then .ok (d, .word) else .error .malformed
  | (d, .word) =>
    if c = '=' then .ok ({ d with target := String.ofList (part 0 place) }, .level (place + 1))
    else if c = '[' then .ok ({ d with target := String.ofList (part 0 place) }, .span (place + 1))
    else .ok (d, .word)
  | (d, .span start) =>
    if c = ']' then .ok ({ d with span := some (String.ofList (part start place)) }, .spanEnd)
    else if c = '\x7b' then
      let name := part start place
      let span := if name.isEmpty then none else some (String.ofList name)
      .ok ({ d with span }, .field (place + 1))
    else .ok (d, .span start)
  | (d, .field start) =>
    if c = '\x7d' then do
      let field ← readField (part start place)
      .ok ({ d with fields := d.fields ++ [field] }, .fieldEnd)
    else .ok (d, .field start)
  | (d, .fieldEnd) => if c = ']' then .ok (d, .spanEnd) else .error .malformed
  | (d, .spanEnd) => if c = '=' then .ok (d, .level (place + 1)) else .error .malformed
  | (d, .level start) => .ok (d, .level start)

/-- Takes in characters from a place on. -/
def steps (part : Nat → Nat → List Char) :
    Nat → List Char → LogDirective × Stage → Except Fault (LogDirective × Stage)
  | _, [], state => .ok state
  | place, c :: rest, state => do
    steps part (place + c.utf8Size) rest (← step part place c state)

/-- The directive at the end of the text. -/
def finish (text : List Char) (part : Nat → List Char) :
    LogDirective × Stage → Except Fault LogDirective
  | (d, .word) =>
    match LogLevel.ofChars? text with
    | some level => .ok { d with level }
    | none => .ok { d with target := String.ofList text }
  | (d, .level start) => do .ok { d with level := ← readLevel (part start) }
  | (d, .spanEnd) => .ok d
  | _ => .error .malformed

def ofText (s : String) : Except Fault LogDirective := do
  let text := s.toList
  let part (start stop : Nat) : List Char := cut start stop 0 text
  let state ← steps part 0 (Text.trim text) ({}, .start)
  finish text (fun start => part start s.utf8ByteSize) state

/-- Whether the directive can hold outside all spans: no value of a field is known there. -/
def holdsOutsideSpans (d : LogDirective) : Bool :=
  d.span.isNone && d.fields.all fun f => f.value.isNone

end LogDirective

end GatewaySync
