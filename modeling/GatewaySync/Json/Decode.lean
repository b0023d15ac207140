import GatewaySync.Json.Text
import GatewaySync.Text.Quoted

/-!
# Reading typed values out of JSON

A decoder either returns a value or says what stands in its way.  A record is given as an object,
or as an array that holds its fields in declared order.  A member that is no field is not read.  The
others are read in the order of their names, and none may be given twice; only when all that are
present have been read is a missing one reported, in declared order.
-/

namespace GatewaySync.Json

inductive DecodeError where
  /-- A value of another form than the expected one. -/
  | unexpectedType (found : Json) (expected : String)
  /-- A value of the right form that the expected type does not have. -/
  | unexpectedValue (found : Json) (expected : String)
  | missingField (name : String)
  | duplicateField (name : String)
  | wrongLength (found : Nat) (expected : String)

/-- How a message names the value that was found. -/
def describe : Json → String
  | .null => "null"
  | .bool b => "boolean \x60" ++ toString b ++ "\x60"
  | .int n => "integer \x60" ++ String.ofList (Text.Decimal.ofInt n) ++ "\x60"
  | .float f => "floating point \x60" ++ String.ofList (floatChars f) ++ "\x60"
  | .str s => "string " ++ Text.quoted s
  | .arr _ => "sequence"
  | .obj _ => "map"
  | .unreadable => "unreadable value"

def DecodeError.message : DecodeError → String
  | .unexpectedType found expected =>
    "invalid type: " ++ describe found ++ ", expected " ++ expected
  | .unexpectedValue found expected =>
    "invalid value: " ++ describe found ++ ", expected " ++ expected
  | .missingField name => "missing field \x60" ++ name ++ "\x60"
  | .duplicateField name => "duplicate field \x60" ++ name ++ "\x60"
  | .wrongLength found expected =>
    "invalid length " ++ toString found ++ ", expected " ++ expected

abbrev Decoded (α : Type) := Except DecodeError α

/-- A type that has a form in JSON. -/
class Decode (α : Type) where
  decode : Json → Decoded α

export Decode (decode)

instance : Decode String where
  decode
    | .str s => .ok s
    | j => .error (.unexpectedType j "a string")

/-- Integers of a range that messages call by its name. -/
def decodeIntIn (min max : Int) (range : String) : Json → Decoded Int
  | .int n => if min ≤ n ∧ n ≤ max then .ok n else .error (.unexpectedValue (.int n) range)
  | j => .error (.unexpectedType j range)

def decodeInt64 (j : Json) : Decoded Int64 :=
  (decodeIntIn Text.Decimal.int64Min Text.Decimal.int64Max "i64" j).map Int64.ofInt

def decodeInt32 : Json → Decoded Int := decodeIntIn (-0x80000000) 0x7fffffff "i32"

def decodeListWith {α : Type} (decodeItem : Json → Decoded α) : Json → Decoded (List α)
  | .arr items => items.mapM decodeItem
  | j => .error (.unexpectedType j "a sequence")

instance {α : Type} [Decode α] : Decode (List α) := ⟨decodeListWith decode⟩

/-- A map whose keys are texts.  Of the entries of a key, which all are read, the last one
stands. -/
def decodeMapWith {α : Type} (decodeItem : Json → Decoded α) :
    Json → Decoded (SortedMap String α)
  | .obj members => do
    let entries ← members.mapM fun m => do return (m.1, ← decodeItem m.2)
    return .ofList entries
  | j => .error (.unexpectedType j "a map")

instance {α : Type} [Decode α] : Decode (SortedMap String α) := ⟨decodeMapWith decode⟩

def decodeOptionWith {α : Type} (decodeItem : Json → Decoded α) : Json → Decoded (Option α)
  | .null => .ok none
  | j => (decodeItem j).map some

instance {α : Type} [Decode α] : Decode (Option α) := ⟨decodeOptionWith decode⟩

/-- The fields of a record, before any of them is read. -/
inductive Fields where
  | named (members : List (String × Json))
  | positional (items : List Json)

/-- The description of a record's form. -/
structure RecordForm where
  /-- The record's name in messages. -/
  name : String
  /-- Its fields in declared order, with those that must be present marked. -/
  fields : List (String × Bool)

namespace RecordForm

/-- The place of a field in the array form. -/
def indexOf (form : RecordForm) (field : String) : Nat :=
  form.fields.findIdx fun f => f.1 == field

/-- What is given for a field. -/
def given (form : RecordForm) (fs : Fields) (field : String) : List Json :=
  match fs with
  | .named members => (members.filter fun m => m.1 == field).map Prod.snd
  | .positional items => items[form.indexOf field]?.toList

/-- Reads a field that may be absent. -/
def read {α : Type} (form : RecordForm) (fs : Fields) (field : String)
    (decodeField : Json → Decoded α) : Decoded (Option α) :=
  match form.given fs field with
  | [] => .ok none
  | [j] => (decodeField j).map some
  | _ => .error (.duplicateField field)

def expectedLength (form : RecordForm) : String :=
  "struct " ++ form.name ++ " with " ++ toString form.fields.length ++
    (if form.fields.length = 1 then " element" else " elements")

/-- The error of a result, if it is one. -/
def errorOf {α : Type} : Decoded α → Option DecodeError
  | .ok _ => none
  | .error e => some e

/-- The first problem of the fields, each given with the error of reading it. -/
def problem? (form : RecordForm) (fs : Fields) (errors : List (String × Option DecodeError)) :
    Option DecodeError :=
  match fs with
  | .named _ =>
    let byName := (SortedMap.ofList errors).toList
    match byName.findSome? Prod.snd with
    | some e => some e
    | none =>
      (form.fields.find? fun f => f.2 && (form.given fs f.1).isEmpty).map fun f => .missingField f.1
  | .positional items =>
    let inOrder := form.fields.findSome? fun f =>
      match form.given fs f.1 with
      | [] => if f.2 then some (.wrongLength items.length form.expectedLength) else none
      | _ => (errors.lookup f.1).join
    match inOrder with
    | some e => some e
    | none =>
      if form.fields.length < items.length then
        some (.wrongLength items.length "fewer elements in array")
      else none

/-- The fields of a record that is given as an object or as an array. -/
def fieldsOf (form : RecordForm) : Json → Decoded Fields
  | .obj members => .ok (.named members)
  | .arr items => .ok (.positional items)
  | j => .error (.unexpectedType j ("struct " ++ form.name))

/-- Ends with the first problem of the fields, or with the record. -/
def finish {α : Type} (form : RecordForm) (fs : Fields)
    (errors : List (String × Option DecodeError)) (record : α) : Decoded α :=
  match form.problem? fs errors with
  | some e => .error e
  | none => .ok record

/-- The value of a field that was read, or its default. -/
def valueOr {α : Type} (default : α) : Decoded (Option α) → α
  | .ok (some a) => a
  | _ => default

end RecordForm

end GatewaySync.Json
