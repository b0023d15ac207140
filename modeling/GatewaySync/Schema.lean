import GatewaySync.Json

/-!
# Schemas of JSON values

A schema says which JSON values a field may hold.  It is published with the definition of a
resource, so that the API server refuses objects that the program could not read.
-/

namespace GatewaySync

/-- What a schema says beside the form of the values. -/
structure Schema.Notes where
  title : Option String := none
  description : Option String := none
  /-- Whether null is allowed too. -/
  nullable : Bool := false
  default : Option Json := none

/-- The form of the values: texts, lists of one kind of items, or objects.  A property of an
object is marked when it has to be there. -/
inductive Schema where
  | text (notes : Schema.Notes)
  | list (notes : Schema.Notes) (item : Schema)
  | object (notes : Schema.Notes) (properties : List (String × Bool × Schema))

namespace Schema

def notes : Schema → Notes
  | .text n => n
  | .list n _ => n
  | .object n _ => n

/-- The word for the form of the values. -/
def form : Schema → String
  | .text _ => "string"
  | .list .. => "array"
  | .object .. => "object"

/-- The properties that have to be there, in the order of the schema. -/
def required (properties : List (String × Bool × Schema)) : List String :=
  properties.filterMap fun p => if p.2.1 then some p.1 else none

def requiredToJson (properties : List (String × Bool × Schema)) : Option Json :=
  match required properties with
  | [] => none
  | names => some (.arr (names.map .str))

/-- The members of a schema's JSON in the order of their names, around what is special to its
form. -/
def members (s : Schema) (items properties required : Option Json) : Json :=
  let n := s.notes
  .ofMembers [
    ("default", n.default),
    ("description", n.description.map .str),
    ("items", items),
    ("nullable", if n.nullable then some (.bool true) else none),
    ("properties", properties),
    ("required", required),
    ("title", n.title.map .str),
    ("type", some (.str s.form))]

mutual

def toJson : Schema → Json
  | .text n => members (.text n) none none none
  | .list n item => members (.list n item) (some (toJson item)) none none
  | .object n ps =>
    members (.object n ps) none (some (.obj (propertiesToJson ps))) (requiredToJson ps)

def propertiesToJson : List (String × Bool × Schema) → List (String × Json)
  | [] => []
  | (name, _, s) :: rest => (name, toJson s) :: propertiesToJson rest

end

end Schema

end GatewaySync
