import GatewaySync.SortedMap

/-!
# JSON values

A value keeps the members of an object in the order in which they are written, so the writer
decides that order.  In a sorted value (`Json.sort`) the members stand in the order of their names,
and a later member of a name has replaced all earlier ones.
-/

namespace GatewaySync

inductive Json where
  | null
  | bool (value : Bool)
  | int (value : Int)
  /-- A number that was written with a fraction or an exponent, or that no 64-bit integer is. -/
  | float (value : Float)
  | str (value : String)
  | arr (items : List Json)
  | obj (members : List (String × Json))
  /-- What has the form of a value but stands for none: half of a surrogate pair in a string or in
  a member's name, or a number beyond all others. -/
  | unreadable

instance : Inhabited Json := ⟨.null⟩

namespace Json

/-- The last member of a name, in an object. -/
def member? (j : Json) (name : String) : Option Json :=
  match j with
  | .obj members => members.reverse.lookup name
  | _ => none

def str? : Json → Option String
  | .str s => some s
  | _ => none

def int? : Json → Option Int
  | .int n => some n
  | _ => none

def nat? : Json → Option Nat
  | .int (.ofNat n) => some n
  | _ => none

def bool? : Json → Option Bool
  | .bool b => some b
  | _ => none

def items? : Json → Option (List Json)
  | .arr items => some items
  | _ => none

/-- An object with the members that are present. -/
def ofMembers (members : List (String × Option Json)) : Json :=
  .obj (members.filterMap fun m => m.2.map (m.1, ·))

/-- An object of texts, in the order of its keys. -/
def ofTexts (m : SortedMap String String) : Json :=
  .obj (m.toList.map fun e => (e.1, .str e.2))

mutual

/-- The same value with the members of every object in the order of their names. -/
def sort : Json → Json
  | .arr items => .arr (sortItems items)
  | .obj members => .obj (SortedMap.ofList (sortMembers members)).toList
  | j => j

def sortItems : List Json → List Json
  | [] => []
  | j :: rest => sort j :: sortItems rest

def sortMembers : List (String × Json) → List (String × Json)
  | [] => []
  | (name, j) :: rest => (name, sort j) :: sortMembers rest

end

mutual

/-- Whether every part stands for a value. -/
def isReadable : Json → Bool
  | .arr items => itemsReadable items
  | .obj members => membersReadable members
  | .unreadable => false
  | _ => true

def itemsReadable : List Json → Bool
  | [] => true
  | j :: rest => isReadable j && itemsReadable rest

def membersReadable : List (String × Json) → Bool
  | [] => true
  | (_, j) :: rest => isReadable j && membersReadable rest

end

end Json

end GatewaySync
