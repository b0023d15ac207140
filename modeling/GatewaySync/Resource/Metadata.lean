import GatewaySync.Json.Decode
import GatewaySync.NamespacedName

/-!
# Metadata of cluster objects

Every field is optional, and one that is null counts as absent.  A field may be given more than
once: each time it has to be readable, and the last time counts.
-/

namespace GatewaySync

abbrev Texts := SortedMap String String

structure Metadata where
  name : Option String := none
  generateName : Option String := none
  ns : Option String := none
  resourceVersion : Option String := none
  generation : Option Int64 := none
  uid : Option String := none
  labels : Option Texts := none
  annotations : Option Texts := none
deriving DecidableEq

instance : Inhabited Metadata := ⟨{}⟩

/-- Where a cache files an object.  An absent namespace is not an empty one. -/
structure ObjectRef where
  ns : Option String
  name : String
deriving DecidableEq, Repr

namespace ObjectRef

instance : Ord ObjectRef := ⟨compareLex (compareOn ns) (compareOn name)⟩

instance : Std.TransOrd ObjectRef :=
  inferInstanceAs (Std.TransCmp (compareLex (compareOn ns) (compareOn name)))

instance : Std.LawfulEqOrd ObjectRef where
  compare_self := Std.ReflCmp.compare_self
  eq_of_compare {a b} h := by
    have h : (compareOn ns a b).then (compareOn name a b) = .eq := h
    rw [Ordering.then_eq_eq] at h
    have hn : a.ns = b.ns := Std.LawfulEqCmp.eq_of_compare h.1
    have hm : a.name = b.name := Std.LawfulEqCmp.eq_of_compare h.2
    cases a; cases b; cases hn; cases hm; rfl

end ObjectRef

namespace Metadata

/-- The name under which an object is known: its own, else the one its name is generated from. -/
def displayName (m : Metadata) : String := (m.name.or m.generateName).getD ""

def nsOrEmpty (m : Metadata) : String := m.ns.getD ""

/-- The queue key of the object. -/
def key (m : Metadata) : NamespacedName := ⟨m.nsOrEmpty, m.displayName⟩

def ref (m : Metadata) : ObjectRef := ⟨m.ns, m.name.getD ""⟩

def toJson (m : Metadata) : Json := .ofMembers [
  ("annotations", m.annotations.map .ofTexts),
  ("generateName", m.generateName.map .str),
  ("generation", m.generation.map fun g => .int g.toInt),
  ("labels", m.labels.map .ofTexts),
  ("name", m.name.map .str),
  ("namespace", m.ns.map .str),
  ("resourceVersion", m.resourceVersion.map .str),
  ("uid", m.uid.map .str)]

end Metadata

namespace Json

/-- Reads every member of a name, in the order in which they are given. -/
def membersNamed {α : Type} (members : List (String × Json)) (name : String)
    (decodeMember : Json → Decoded α) : Decoded (List α) :=
  (members.filter fun m => m.1 == name).mapM fun m => decodeMember m.2

/-- A field that may be absent or null.  The last member of its name stands. -/
def optionalField {α : Type} (members : List (String × Json)) (name : String)
    (decodeField : Json → Decoded α) : Decoded (Option α) := do
  return (← membersNamed members name (decodeOptionWith decodeField)).getLast?.join

/-- The members of an object that messages call by its name. -/
def objectMembers (name : String) : Json → Decoded (List (String × Json))
  | .obj members => .ok members
  | j => .error (.unexpectedType j name)

/-- A text that, when present, has to be the given one. -/
def fixedText (expected : String) (j : Json) : Decoded Unit := do
  let found : String ← decode j
  if found = expected then return () else throw (.unexpectedValue j expected)

def fixedField (members : List (String × Json)) (name expected : String) : Decoded Unit := do
  let _ ← membersNamed members name (fixedText expected)

end Json

open Json

def Metadata.ofJson (j : Json) : Decoded Metadata := do
  let members ← objectMembers "ObjectMeta" j
  let annotations ← optionalField members "annotations" decode
  let generateName ← optionalField members "generateName" decode
  let generation ← optionalField members "generation" decodeInt64
  let labels ← optionalField members "labels" decode
  let name ← optionalField members "name" decode
  let ns ← optionalField members "namespace" decode
  let resourceVersion ← optionalField members "resourceVersion" decode
  let uid ← optionalField members "uid" decode
  return { name, generateName, ns, resourceVersion, generation, uid, labels, annotations }

instance : Json.Decode Metadata := ⟨Metadata.ofJson⟩

/-- The kinds of object that the program keeps in caches. -/
inductive Kind where
  | remote
  | configMap
  | deployment
  | service
deriving DecidableEq, Repr

namespace Kind

def all : List Kind := [.remote, .configMap, .deployment, .service]

def name : Kind → String
  | .remote => "Remote"
  | .configMap => "ConfigMap"
  | .deployment => "Deployment"
  | .service => "Service"

def apiVersion : Kind → String
  | .remote => "gitkube.sh/v1alpha1"
  | .configMap => "v1"
  | .deployment => "apps/v1"
  | .service => "v1"

def ofName? (s : String) : Option Kind := all.find? fun k => k.name = s

end Kind

/-- A type of cluster objects that are cached. -/
class Cached (α : Type) where
  kind (α) : Kind
  metadata : α → Metadata
  setMetadata : α → Metadata → α
  ofJson : Json → Json.Decoded α
  metadata_setMetadata : ∀ a m, metadata (setMetadata a m) = m := by intros; rfl

namespace Cached

variable {α : Type} [Cached α]

def ref (a : α) : ObjectRef := (metadata a).ref
def key (a : α) : NamespacedName := (metadata a).key
def version? (a : α) : Option String := (metadata a).resourceVersion

/-- The object at another version. -/
def atVersion (a : α) (version : String) : α :=
  setMetadata a { metadata a with resourceVersion := some version }

end Cached

end GatewaySync
