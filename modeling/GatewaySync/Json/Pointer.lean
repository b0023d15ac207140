import GatewaySync.Json
import GatewaySync.Text.Decimal

/-!
# JSON pointers

A pointer names a place inside a value: a slash and a member's name or an item's number for every
level.  In a name `~1` stands for a slash and `~0` for a tilde.
-/

namespace GatewaySync.Json

/-- The parts between slashes, of which there is always at least one. -/
def splitSlashes : List Char → List (List Char)
  | [] => [[]]
  | c :: rest =>
    match splitSlashes rest with
    | [] => [[]]
    | part :: parts => if c = '/' then [] :: part :: parts else (c :: part) :: parts

/-- A name without its escapes. -/
def unescapeToken : List Char → List Char
  | '~' :: '1' :: rest => '/' :: unescapeToken rest
  | '~' :: '0' :: rest => '~' :: unescapeToken rest
  | c :: rest => c :: unescapeToken rest
  | [] => []

/-- The number of an item: digits without a leading zero. -/
def itemNumber? : List Char → Option Nat
  | '0' :: _ :: _ => none
  | cs => Text.Decimal.natOf? cs

/-- One level down. -/
def child? (token : List Char) : Json → Option Json
  | .obj members => (Json.obj members).member? (String.ofList token)
  | .arr items => (itemNumber? token).bind (items[·]?)
  | _ => none

/-- The value at the place that a pointer names. -/
def pointer? (j : Json) (pointer : String) : Option Json :=
  match pointer.toList with
  | [] => some j
  | '/' :: rest =>
    (splitSlashes rest).foldlM (fun j token => child? (unescapeToken token) j) j
  | _ => none

end GatewaySync.Json
