import GatewaySync.Json.Number

/-!
# Reading JSON text

The reader works on the characters that are left and returns what follows the value.  It recurses
on the depth that it still allows.

A text is read in one of two ways.  Either every part of it has to stand for a value and nothing
may be nested more deeply than `maxDepth` (`Json.ofText?`), or parts that nobody asks for need to
have the form of values only (`Json.outline?`).
-/

namespace GatewaySync.Json.Reader

/-- Arrays and objects may be nested this deep. -/
def maxDepth : Nat := 127

def isBlank (c : Char) : Bool := c == ' ' || c == '\n' || c == '\r' || c == '\t'

def skipBlanks (cs : List Char) : List Char := cs.dropWhile isBlank

/-- The value of a hexadecimal digit of either case. -/
def hexValue? (c : Char) : Option Nat :=
  if c.isDigit then some (c.toNat - '0'.toNat)
  else if 'a' ≤ c ∧ c ≤ 'f' then some (c.toNat - 'a'.toNat + 10)
  else if 'A' ≤ c ∧ c ≤ 'F' then some (c.toNat - 'A'.toNat + 10)
  else none

/-- The 16-bit unit that four hexadecimal digits number. -/
def unitOf? (a b c d : Char) : Option Nat := do
  let a ← hexValue? a
  let b ← hexValue? b
  let c ← hexValue? c
  let d ← hexValue? d
  return ((a * 16 + b) * 16 + c) * 16 + d

/-- The character that a pair of surrogate units stands for. -/
def pairChar? (high low : Nat) : Option Char :=
  if 0xD800 ≤ high ∧ high < 0xDC00 ∧ 0xDC00 ≤ low ∧ low < 0xE000 then
    some (Char.ofNat (0x10000 + (high - 0xD800) * 0x400 + (low - 0xDC00)))
  else none

/-- The character of a unit that is no surrogate. -/
def unitChar? (unit : Nat) : Option Char :=
  if 0xD800 ≤ unit ∧ unit < 0xE000 then none else some (Char.ofNat unit)

def simpleEscape? : Char → Option Char
  | '"' => some '"'
  | '\\' => some '\\'
  | '/' => some '/'
  | 'b' => some '\x08'
  | 'f' => some '\x0c'
  | 'n' => some '\n'
  | 'r' => some '\r'
  | 't' => some '\t'
  | _ => none

/-- A piece of a string: a character, or a 16-bit unit that is written by its number. -/
inductive Piece where
  | char (c : Char)
  | unit (n : Nat)
deriving DecidableEq, Repr

abbrev Body := List Piece

/-- The pieces of a string up to its closing quote. -/
def stringBody : List Char → Option (Body × List Char)
  | [] => none
  | '"' :: rest => some ([], rest)
  | '\\' :: 'u' :: a :: b :: c :: d :: rest =>
    match unitOf? a b c d with
    | some unit => (stringBody rest).map fun r => (.unit unit :: r.1, r.2)
    | none => none
  | '\\' :: c :: rest =>
    match simpleEscape? c with
    | some ch => (stringBody rest).map fun r => (.char ch :: r.1, r.2)
    | none => none
  | c :: rest =>
    if c.toNat < 0x20 then none else (stringBody rest).map fun r => (.char c :: r.1, r.2)

/-- The characters of a string, unless half of a surrogate pair is among its pieces. -/
def charsOf? : Body → Option (List Char)
  | [] => some []
  | .char c :: rest => (charsOf? rest).map (c :: ·)
  | .unit unit :: rest =>
    match unitChar? unit with
    | some c => (charsOf? rest).map (c :: ·)
    | none =>
      match rest with
      | .unit low :: rest =>
        match pairChar? unit low with
        | some c => (charsOf? rest).map (c :: ·)
        | none => none
      | _ => none

def textOf? (body : Body) : Option String := (charsOf? body).map String.ofList

/-- The value that a string is. -/
def ofBody (body : Body) : Json :=
  match textOf? body with
  | some s => .str s
  | none => .unreadable

/-- The object of some members, unless one of their names is unreadable. -/
def ofMembers (members : List (Body × Json)) : Json :=
  match members.mapM fun m => (textOf? m.1).map (·, m.2) with
  | some members => .obj members
  | none => .unreadable

/-- Items after the first: each after a comma, until the bracket.  `fuel` bounds their number. -/
def itemsAfter (value : List Char → Option (Json × List Char)) :
    Nat → List Char → Option (List Json × List Char)
  | 0, _ => none
  | fuel + 1, cs =>
    match skipBlanks cs with
    | ']' :: rest => some ([], rest)
    | ',' :: rest => do
      let (j, rest) ← value (skipBlanks rest)
      let (js, rest) ← itemsAfter value fuel rest
      return (j :: js, rest)
    | _ => none

/-- A member: its name, a colon and its value. -/
def member (value : List Char → Option (Json × List Char)) (cs : List Char) :
    Option ((Body × Json) × List Char) :=
  match skipBlanks cs with
  | '"' :: rest => do
    let (name, rest) ← stringBody rest
    match skipBlanks rest with
    | ':' :: rest =>
      let (j, rest) ← value (skipBlanks rest)
      return ((name, j), rest)
    | _ => none
  | _ => none

/-- Members after the first: each after a comma, until the brace.  `fuel` bounds their number. -/
def membersAfter (value : List Char → Option (Json × List Char)) :
    Nat → List Char → Option (List (Body × Json) × List Char)
  | 0, _ => none
  | fuel + 1, cs =>
    match skipBlanks cs with
    | '\x7d' :: rest => some ([], rest)
    | ',' :: rest => do
      let (m, rest) ← member value rest
      let (ms, rest) ← membersAfter value fuel rest
      return (m :: ms, rest)
    | _ => none

/-- A value that starts at the first character; `depth` bounds the arrays and objects around one
another. -/
def value : Nat → List Char → Option (Json × List Char)
  | depth, cs =>
    match cs with
    | 'n' :: 'u' :: 'l' :: 'l' :: rest => some (.null, rest)
    | 't' :: 'r' :: 'u' :: 'e' :: rest => some (.bool true, rest)
    | 'f' :: 'a' :: 'l' :: 's' :: 'e' :: rest => some (.bool false, rest)
    | '"' :: rest => (stringBody rest).map fun r => (ofBody r.1, r.2)
    | '[' :: rest =>
      match depth with
      | 0 => none
      | depth + 1 =>
        match skipBlanks rest with
        | ']' :: rest => some (.arr [], rest)
        | rest => do
          let (j, rest) ← value depth rest
          let (js, rest) ← itemsAfter (value depth) (rest.length + 1) rest
          return (.arr (j :: js), rest)
    | '\x7b' :: rest =>
      match depth with
      | 0 => none
      | depth + 1 =>
        match skipBlanks rest with
        | '\x7d' :: rest => some (.obj [], rest)
        | rest => do
          let (m, rest) ← member (value depth) rest
          let (ms, rest) ← membersAfter (value depth) (rest.length + 1) rest
          return (ofMembers (m :: ms), rest)
    | cs => Number.read? cs

/-- The value that a whole text is, blanks around it aside. -/
def whole? (depth : Nat) (s : String) : Option Json :=
  match value depth (skipBlanks s.toList) with
  | some (j, rest) => if (skipBlanks rest).isEmpty then some j else none
  | none => none

end GatewaySync.Json.Reader

namespace GatewaySync.Json

/-- The sorted value of a text in which every part stands for a value. -/
def ofText? (s : String) : Option Json :=
  match Reader.whole? Reader.maxDepth s with
  | some j => if j.isReadable then some j.sort else none
  | none => none

/-- The value of a text as it is written, in which parts may be unreadable and nested as deeply as
they are. -/
def outline? (s : String) : Option Json := Reader.whole? s.length s

end GatewaySync.Json
