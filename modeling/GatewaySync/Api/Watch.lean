import GatewaySync.Api.Reply
import GatewaySync.Api.Request
import GatewaySync.Informer

/-!
# Lists and watches

A cache is filled by a list and then follows a watch from the list's version on.  A list that fails
is asked for again.  A list becomes a complete listing, so nothing of an earlier one survives it,
and a line of the watch becomes at most one event.

A watch is lost when the server has forgotten the version that it started from, or reports an
object without a version.  Nothing more of it is used then, and the cache starts over with a list.
Lines that cannot be read, and other errors, are passed over.
-/

namespace GatewaySync.Api

/-- A line of a watch. -/
inductive WatchLine (α : Type) where
  | added (object : α)
  | modified (object : α)
  | deleted (object : α)
  /-- The watch has come to a version, and nothing has changed. -/
  | bookmark
  | failed (report : ApiStatus)
  | unreadable
deriving Repr

namespace WatchLine

variable {α : Type}

/-- A line that holds a readable object. -/
def holding {β : Type} (line : β → WatchLine α) (object : Json.Decoded β) : WatchLine α :=
  match object with
  | .ok b => line b
  | .error _ => .unreadable

/-- The type of a line and what it holds: two members, or the two items of an array. -/
def parts? : Json → Option (String × Json)
  | .arr [.str type, held] => some (type, held)
  | j => do return (← (← j.member? "type").str?, ← j.member? "object")

def ofJson (decodeObject : Json → Json.Decoded α) (j : Json) : WatchLine α :=
  match parts? j with
  | some ("ADDED", o) => holding .added (decodeObject o)
  | some ("MODIFIED", o) => holding .modified (decodeObject o)
  | some ("DELETED", o) => holding .deleted (decodeObject o)
  | some ("BOOKMARK", _) => .bookmark
  | some ("ERROR", o) => holding .failed (reportOfJson o)
  | _ => .unreadable

/-- The object of a line. -/
def object? : WatchLine α → Option α
  | added a | modified a | deleted a => some a
  | _ => none

def event? : WatchLine α → Option (WatchEvent α)
  | added a | modified a => some (.apply a)
  | deleted a => some (.delete a)
  | _ => none

/-- The code of the error that a version is not known any more. -/
def goneCode : Nat := 410

/-- Whether the watch is lost with this line. -/
def isLast [Cached α] : WatchLine α → Bool
  | failed report => report.code = goneCode
  | line => line.object?.any fun a => ((Cached.version? a).getD "").isEmpty

end WatchLine

/-- What the server answers about one kind. -/
structure Feed (α : Type) where
  /-- How many lists fail before one is answered. -/
  failures : Nat := 0
  /-- The objects of the list. -/
  items : List α := []
  /-- The version of the list. -/
  version : String := "1"
  /-- The lines of the first watch.  Any later one stays silent. -/
  lines : List (WatchLine α) := []

namespace Feed

variable {α : Type} [Cached α]

def listing (f : Feed α) : List (WatchEvent α) :=
  .listStart :: f.items.map .listItem ++ [.listEnd]

/-- Whether the first watch is lost. -/
def isLost (f : Feed α) : Bool := f.lines.any WatchLine.isLast

/-- What the first watch reports until it is lost. -/
def followed (f : Feed α) : List (WatchEvent α) :=
  (f.lines.takeWhile fun line => !line.isLast).filterMap WatchLine.event?

/-- What the cache sees. -/
def events (f : Feed α) : List (WatchEvent α) :=
  f.listing ++ f.followed ++ (if f.isLost then f.listing else [])

/-- The requests that the cache makes, and how often.  Without a valid target it makes none. -/
def requests (f : Feed α) (s : Selection) : List (Request × Nat) :=
  match s.list?, s.watch? f.version with
  | some list, some watch =>
    let restarts := if f.isLost then 1 else 0
    [(list, f.failures + 1 + restarts), (watch, 1 + restarts)]
  | some list, none => [(list, f.failures + 1)]
  | none, _ => []

/-- What the cache sees of a selection: nothing where it cannot be asked for. -/
def eventsOf (f : Feed α) (s : Selection) : List (WatchEvent α) :=
  match s.list?, s.watch? f.version with
  | some _, some _ => f.events
  | some _, none => f.listing
  | none, _ => []

end Feed

end GatewaySync.Api
