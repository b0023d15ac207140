import GatewaySync.Resource.Metadata

/-!
# Caches fed by watches

An informer keeps the objects of one kind and tells what changed.  A listing is collected beside
the cache and takes its place as a whole when it ends; changes found while listing are held back
until then.  So whoever is told of a change finds it in the cache.

An object that arrives at the version already cached is no change.  One that a listing does not
bring any more is a deletion.
-/

namespace GatewaySync

/-- The cached objects by namespace and name. -/
abbrev Store (α : Type) := SortedMap ObjectRef α

/-- The object of a name in a namespace, else the one of that name that belongs to no
namespace. -/
def Store.find? {α : Type} (s : Store α) (ref : ObjectRef) : Option α :=
  (s.get? ref).or (s.get? ⟨none, ref.name⟩)

/-- What a watch reports. -/
inductive WatchEvent (α : Type) where
  /-- An object was created or changed. -/
  | apply (object : α)
  | delete (object : α)
  /-- A listing starts. -/
  | listStart
  /-- An object of the listing. -/
  | listItem (object : α)
  /-- The listing is complete. -/
  | listEnd
deriving Repr

/-- A change of the cache. -/
inductive Change (α : Type) where
  | added (object : α)
  | updated (old new : α)
  | deleted (object : α)
deriving DecidableEq, Repr

namespace Change

variable {α : Type}

/-- The object as of the change. -/
def object : Change α → α
  | .added a => a
  | .updated _ new => new
  | .deleted a => a

def old? : Change α → Option α
  | .updated old _ => some old
  | _ => none

def isDelete : Change α → Bool
  | .deleted _ => true
  | _ => false

def label : Change α → String
  | .added _ => "added"
  | .updated .. => "updated"
  | .deleted _ => "deleted"

end Change

structure Informer (α : Type) where
  store : Store α := .empty
  /-- The objects of the listing so far. -/
  listing : Store α := .empty
  /-- Which objects the listing has brought, once one has started. -/
  seen : Option (List ObjectRef) := none
  /-- The changes that the listing has brought. -/
  held : List (Change α) := []
  /-- Whether a listing was ever completed. -/
  synced : Bool := false

namespace Informer

variable {α : Type} [Cached α]

instance : Inhabited (Informer α) := ⟨{}⟩

/-- The cached object that a written name stands for. -/
def lookup (i : Informer α) (name : NamespacedName) : Option α :=
  Store.find? i.store ⟨some name.ns, name.name⟩

/-- How an object that arrived changes the cache. -/
def compare (store : Store α) (a : α) : Option (Change α) :=
  match Store.find? store (Cached.ref a) with
  | none => some (.added a)
  | some old =>
    if (Cached.version? old).isSome ∧ Cached.version? old = Cached.version? a then none
    else some (.updated old a)

/-- The cached objects that a listing did not bring. -/
def vanished (store : Store α) (seen : List ObjectRef) : List (Change α) :=
  (store.toList.filter fun e => e.1 ∉ seen).map fun e => .deleted e.2

/-- Takes in what the watch reports, and tells what changed. -/
def step (i : Informer α) : WatchEvent α → Informer α × List (Change α)
  | .apply a =>
    ({ i with store := i.store.insert (Cached.ref a) a }, (compare i.store a).toList)
  | .delete a =>
    ({ i with store := i.store.erase (Cached.ref a) }, [.deleted a])
  | .listStart => ({ i with listing := .empty, seen := some [], held := [] }, [])
  | .listItem a =>
    ({ i with
      listing := i.listing.insert (Cached.ref a) a
      seen := i.seen.map fun refs => Cached.ref a :: refs
      held := i.held ++ (compare i.store a).toList }, [])
  | .listEnd =>
    ({ store := i.listing, synced := true },
      i.held ++ ((i.seen.map fun refs => vanished i.store refs).getD []))

/-- The changes of a whole run of events, in order, and the informer after it. -/
def run (i : Informer α) (events : List (WatchEvent α)) : Informer α × List (Change α) :=
  events.foldl (fun (i, changes) e => let (i, more) := i.step e; (i, changes ++ more)) (i, [])

end Informer

end GatewaySync
