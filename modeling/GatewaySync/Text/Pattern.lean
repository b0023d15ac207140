import GatewaySync.Text.Alphanumeric

/-!
# Patterns

Whether a text is a regular expression: groups in parentheses, classes in brackets, alternatives,
repetitions, anchors and escapes, and other characters that stand for themselves.  Nothing is kept
of the expression itself.

No closing brace stands in these texts, so no count of repetitions and no number or property in
braces ever ends.
-/

namespace GatewaySync.Text.Pattern

/-- Why a text is no pattern that can be searched for. -/
inductive Fault where
  | malformed
  /-- The ends of words are asked for, which depend on too many characters. -/
  | wordBoundary
deriving DecidableEq, Repr

/-! ## Escapes -/

/-- What stands behind a backslash. -/
inductive Escape where
  | char (c : Char)
  /-- One of many characters. -/
  | set
  | anchor
  | wordBoundary
deriving DecidableEq, Repr

def hexDigits : List Char := "0123456789abcdef".toList

/-- A character by so many hexadecimal digits. -/
def numbered? (digits : Nat) (cs : List Char) : Option (Escape × List Char) := do
  let values ← (cs.take digits).mapM fun c => hexDigits.idxOf? c.toLower
  let n := values.foldl (fun n d => 16 * n + d) 0
  if values.length = digits ∧ n.isValidChar then some (.char (Char.ofNat n), cs.drop digits)
  else none

/-- The letters that name a general category. -/
def categories : List Char := ['c', 'l', 'm', 'n', 'p', 's', 'z']

/-- Reads what stands behind a backslash.  A mark stands for itself; of the letters some have a
meaning, and digits have none. -/
def escape? : List Char → Option (Escape × List Char)
  | [] => none
  | c :: rest =>
    if c = 'x' then numbered? 2 rest
    else if c = 'u' then numbered? 4 rest
    else if c = 'U' then numbered? 8 rest
    else if c ∈ ['p', 'P'] then
      match rest with
      | category :: rest => if category.toLower ∈ categories then some (.set, rest) else none
      | [] => none
    else if c ∈ ['d', 'D', 's', 'S', 'w', 'W'] then some (.set, rest)
    else if c ∈ ['b', 'B', '<', '>'] then some (.wordBoundary, rest)
    else if c ∈ ['A', 'z'] then some (.anchor, rest)
    else
      match "aftnrv".toList.idxOf? c with
      | some i => (['\x07', '\x0c', '\t', '\n', '\r', '\x0b'][i]?).map fun c => (.char c, rest)
      | none => if c.toNat < 0x80 ∧ ¬c.isAlphanum then some (.char c, rest) else none

/-! ## Classes -/

def classNames : List String := [
  "alnum", "alpha", "ascii", "blank", "cntrl", "digit", "graph", "lower", "print", "punct",
  "space", "upper", "word", "xdigit"]

/-- What follows the name of a class, when one stands behind a bracket. -/
def afterClassName? : List Char → Option (List Char)
  | ':' :: rest =>
    let rest := if rest.head? = some '^' then rest.drop 1 else rest
    match rest.dropWhile (· != ':') with
    | ':' :: ']' :: after =>
      if String.ofList (rest.takeWhile (· != ':')) ∈ classNames then some after else none
    | _ => none
  | _ => none

/-- Passes over what has another meaning at the start of a class than later: its negation, dashes,
and, where there is no dash, a closing bracket that stands for itself. -/
def classStart (cs : List Char) : List Char :=
  let cs := if cs.head? = some '^' then cs.drop 1 else cs
  match cs with
  | '-' :: _ => cs.dropWhile (· = '-')
  | ']' :: rest => rest
  | _ => cs

/-- A member of a class. -/
def member? : List Char → Option (Escape × List Char)
  | '\\' :: rest => escape? rest
  | c :: rest => some (.char c, rest)
  | [] => none

/-- The members of a class, alone or the ends of a range that does not run backwards. -/
def range? (cs : List Char) : Option (List Char) := do
  let (first, rest) ← member? cs
  match rest with
  | '-' :: c :: more =>
    if c = ']' ∨ c = '-' then
      if first = .anchor ∨ first = .wordBoundary then none else some rest
    else
      let (last, rest) ← member? (c :: more)
      match first, last with
      | .char a, .char b => if a ≤ b then some rest else none
      | _, _ => none
  | _ => if first = .anchor ∨ first = .wordBoundary then none else some rest

/-- What follows a class, of which `depth` others are around the rest.  `fuel` bounds the number of
its members. -/
def afterClass? : Nat → Nat → List Char → Option (List Char)
  | 0, _, _ => none
  | fuel + 1, depth, cs =>
    match cs with
    | ']' :: rest =>
      match depth with
      | 0 => some rest
      | depth + 1 => afterClass? fuel depth rest
    | '[' :: rest =>
      match afterClassName? rest with
      | some rest => afterClass? fuel depth rest
      | none => afterClass? fuel (depth + 1) (classStart rest)
    | '&' :: '&' :: rest => afterClass? fuel depth rest
    | '-' :: '-' :: rest => afterClass? fuel depth rest
    | '~' :: '~' :: rest => afterClass? fuel depth rest
    | cs => do afterClass? fuel depth (← range? cs)

/-! ## Groups -/

/-- What is known of a pattern from its characters so far. -/
structure Scan where
  /-- How many groups are open. -/
  groups : Nat := 0
  /-- Whether something stands in front that can be repeated. -/
  repeatable : Bool := false
  /-- The names of groups. -/
  names : List (List Char) := []
  /-- Whether the ends of words are asked for. -/
  asksForWords : Bool := false

def isGroupName (name : List Char) : Bool :=
  match name with
  | [] => false
  | c :: rest =>
    (c = '_' || (isAlphanumeric c && !c.isDigit)) &&
      rest.all fun c => c ∈ ['_', '.', '[', ']'] || isAlphanumeric c

/-- Opens a group of a name. -/
def Scan.openNamed (s : Scan) (cs : List Char) : Option (Scan × List Char) :=
  let name := cs.takeWhile (· != '>')
  match cs.dropWhile (· != '>') with
  | _ :: rest =>
    if isGroupName name ∧ name ∉ s.names then
      some ({ s with groups := s.groups + 1, repeatable := false, names := name :: s.names }, rest)
    else none
  | [] => none

/-- The flags that a pattern can set, and the sign behind which they are taken back. -/
def flags : List Char := ['i', 'm', 's', 'U', 'u', 'R', 'x', '-']

/-- Sets flags, for a group or for what follows. -/
def Scan.setFlags (s : Scan) (cs : List Char) : Option (Scan × List Char) :=
  let set := cs.takeWhile fun c => c != ':' && c != ')'
  if set.all (· ∈ flags) && decide set.Nodup && set.getLast? != some '-' then
    match cs.drop set.length with
    | ':' :: rest => some ({ s with groups := s.groups + 1, repeatable := false }, rest)
    | _ :: rest => if set.isEmpty then none else some ({ s with repeatable := false }, rest)
    | [] => none
  else none

def Scan.openGroup (s : Scan) : List Char → Option (Scan × List Char)
  | '?' :: 'P' :: '<' :: rest => s.openNamed rest
  | '?' :: '<' :: rest => s.openNamed rest
  | '?' :: rest => s.setFlags rest
  | cs => some ({ s with groups := s.groups + 1, repeatable := false }, cs)

/-! ## Whole patterns -/

/-- Takes in a character, with what belongs to it. -/
def Scan.step (s : Scan) (c : Char) (rest : List Char) : Option (Scan × List Char) :=
  let read := { s with repeatable := true }
  if c = '(' then s.openGroup rest
  else if c = ')' then
    if s.groups = 0 then none else some ({ read with groups := s.groups - 1 }, rest)
  else if c = '|' then some ({ s with repeatable := false }, rest)
  else if c = '[' then
    (afterClass? (rest.length + 1) 0 (classStart rest)).map fun rest => (read, rest)
  else if c ∈ ['?', '*', '+'] then if s.repeatable then some (s, rest) else none
  else if c = '\x7b' then none
  else if c = '\\' then
    (escape? rest).map fun e =>
      (if e.1 = .wordBoundary then { read with asksForWords := true } else read, e.2)
  else some (read, rest)

/-- Takes in all characters.  `fuel` bounds their number. -/
def Scan.run : Nat → Scan → List Char → Option Scan
  | _, s, [] => if s.groups = 0 then some s else none
  | 0, _, _ => none
  | fuel + 1, s, c :: rest => do
    let (s, rest) ← s.step c rest
    run fuel s rest

/-- What stands in the way of searching for a pattern. -/
def fault? (cs : List Char) : Option Fault :=
  match Scan.run cs.length {} cs with
  | none => some .malformed
  | some s => if s.asksForWords then some .wordBoundary else none

end GatewaySync.Text.Pattern
