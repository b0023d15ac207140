import GatewaySync.Text.Decimal

/-!
# Socket addresses as text

An IP address and a port.  Version 4 is four decimal numbers with points between them.  Version 6
stands in brackets: eight hexadecimal numbers with colons between them, of which one run of zeros
may be left out and the last two may be written like version 4.

Every reader takes what it can from the front and returns the rest.
-/

namespace GatewaySync.Text

inductive IpAddress where
  | v4 (octets : List Nat)
  /-- Eight groups of 16 bits, and the zone in which the address holds. -/
  | v6 (groups : List Nat) (zone : Nat)
deriving DecidableEq, Repr

structure SocketAddress where
  ip : IpAddress
  port : Nat
deriving DecidableEq, Repr

namespace SocketAddress

abbrev Reader (α : Type) := StateT (List Char) Option α

/-- The value of a digit in a base of at most 16. -/
def digitValue? (base : Nat) (c : Char) : Option Nat :=
  let c := c.toLower
  let value :=
    if c.isDigit then some (c.toNat - '0'.toNat)
    else if 'a' ≤ c ∧ c ≤ 'f' then some (c.toNat - 'a'.toNat + 10)
    else none
  value.filter (· < base)

/-- A number of a base, up to a greatest value.  All digits that follow belong to it. -/
def number (base maxValue : Nat) (maxDigits : Option Nat) (leadingZeros : Bool) : Reader Nat := do
  let cs ← get
  let digits := cs.takeWhile fun c => (digitValue? base c).isSome
  let value := digits.foldl (fun n c => n * base + (digitValue? base c).getD 0) 0
  guard (digits ≠ [] ∧ value ≤ maxValue ∧ digits.length ≤ maxDigits.getD digits.length)
  guard (leadingZeros ∨ digits.length = 1 ∨ digits.head? ≠ some '0')
  set (cs.drop digits.length)
  return value

def char (c : Char) : Reader Unit := do
  match ← get with
  | d :: rest => guard (c = d); set rest
  | [] => failure

def octet : Reader Nat := number 10 255 (some 3) false
def group : Reader Nat := number 16 65535 (some 4) true

/-- An item of a sequence: all but the first follow a separator. -/
def nth {α : Type} (separator : Char) (index : Nat) (item : Reader α) : Reader α := do
  if index ≠ 0 then char separator
  item

def octets : Reader (List Nat) := do
  let a ← octet
  let b ← nth '.' 1 octet
  let c ← nth '.' 2 octet
  return [a, b, c, ← nth '.' 3 octet]

/-- Two groups that are written like version 4. -/
def embedded : Reader (List Nat) := do
  match ← octets with
  | [a, b, c, d] => return [a * 256 + b, c * 256 + d]
  | _ => failure

/-- What a reader takes, or nothing. -/
def option? {α : Type} (r : Reader α) : Reader (Option α) := fun cs =>
  match r cs with
  | some (a, rest) => some (some a, rest)
  | none => some (none, cs)

/-- Up to `room` groups, of which `index` precede, and whether the last two were written like
version 4. -/
def groups (index : Nat) : Nat → Reader (List Nat × Bool)
  | 0 => return ([], false)
  | room + 1 => do
    match ← option? (if room = 0 then failure else nth ':' index embedded) with
    | some last => return (last, true)
    | none =>
      match ← option? (nth ':' index group) with
      | none => return ([], false)
      | some g =>
        let (rest, atEnd) ← groups (index + 1) room
        return (g :: rest, atEnd)

/-- Eight groups, or fewer with two colons in place of the zeros. -/
def groups8 : Reader (List Nat) := do
  let (front, atEnd) ← groups 0 8
  if front.length = 8 then return front
  guard (¬atEnd)
  char ':'
  char ':'
  let (back, _) ← groups 0 (7 - front.length)
  return front ++ List.replicate (8 - front.length - back.length) 0 ++ back

def portPart : Reader Nat := do
  char ':'
  number 10 65535 none true

def zone : Reader Nat := do
  char '%'
  number 10 0xffffffff none true

def addressV4 : Reader SocketAddress := do
  let octets ← octets
  return ⟨.v4 octets, ← portPart⟩

def addressV6 : Reader SocketAddress := do
  char '['
  let groups ← groups8
  let zone ← option? zone
  char ']'
  return ⟨.v6 groups (zone.getD 0), ← portPart⟩

/-- Reads a whole text. -/
def ofString? (s : String) : Option SocketAddress := do
  let (address, rest) ← (addressV4 <|> addressV6) s.toList
  guard rest.isEmpty
  return address

end SocketAddress

end GatewaySync.Text
