/-!
# Request targets

What a request addresses: a path with a query, alone or behind a scheme and a server; a server
alone; or an asterisk.  A fragment is no part of a target and is not looked at.
-/

namespace GatewaySync.Text.Target

/-- The longest target, in bytes. -/
def maxSize : Nat := 0xfffe

/-- Whether a character may stand in a path. -/
def isPathChar (c : Char) : Bool := (0x20 < c.toNat) && c ∉ ['<', '>', '\x60', '\x7f']

/-- Whether a character may stand in a query. -/
def isQueryChar (c : Char) : Bool := (0x20 < c.toNat) && c ∉ ['"', '<', '>', '\x7f']

/-- A path, and a query that starts with a question mark if there is one. -/
def pathAndQuery? (cs : List Char) : Option (List Char × List Char) :=
  let cs := cs.takeWhile (· != '#')
  let path := cs.takeWhile (· != '?')
  let query := cs.dropWhile (· != '?')
  if path.all isPathChar && query.all isQueryChar then some (path, query) else none

/-! ## Servers -/

/-- Whether a character may stand in the address of a server as itself. -/
def isServerChar (c : Char) : Bool :=
  c.isAlphanum || c ∈ "!$&'()*+,-.:;=@[]_~".toList

/-- How many colons may follow one another in groups of digits. -/
def maxColons : Nat := 8

/-- What is known of a server's address from its characters so far. -/
structure Scan where
  /-- The colons since the last sign or bracket that made them part of something else. -/
  colons : Nat := 0
  opened : Bool := false
  closed : Bool := false
  percent : Bool := false
  /-- The last character divides a user from a host. -/
  endsInUser : Bool := false

def Scan.step (s : Scan) (c : Char) : Option Scan :=
  let s := { s with endsInUser := c = '@' }
  if c = ':' then if s.colons < maxColons then some { s with colons := s.colons + 1 } else none
  else if c = '[' then if s.percent || s.opened then none else some { s with opened := true }
  else if c = ']' then
    if s.opened && !s.closed then some { s with closed := true, colons := 0, percent := false }
    else none
  else if c = '@' then some { s with colons := 0, percent := false }
  else if c = '%' then some { s with percent := true }
  else if isServerChar c then some s else none

/-- Whether a text is the address of a server: at most one port, brackets in a pair, a host behind
a user, and percent signs only in a user or in brackets. -/
def isServer (cs : List Char) : Bool :=
  match cs.foldlM Scan.step {} with
  | some s => s.opened == s.closed && s.colons ≤ 1 && !s.endsInUser && !s.percent
  | none => false

/-- A server's address ends where a path, a query or a fragment starts. -/
def endsServer (c : Char) : Bool := c = '/' || c = '?' || c = '#'

/-! ## Schemes -/

def isSchemeChar (c : Char) : Bool := c.isAlphanum || c ∈ ['+', '-', '.']

def maxSchemeLength : Nat := 64

/-- What follows a scheme, when a text starts with one. -/
def afterScheme? (cs : List Char) : Option (List Char) :=
  match cs.dropWhile isSchemeChar with
  | ':' :: '/' :: '/' :: rest => some rest
  | _ => none

/-! ## Paths -/

/-- The path that a target addresses: nothing for a server alone, and the root where a server is
followed by no path. -/
def path? (s : String) : Option String :=
  let cs := s.toList
  if maxSize < s.utf8ByteSize then none
  else
    match cs with
    | ['*'] => some "*"
    | '/' :: _ => (pathAndQuery? cs).map fun p => String.ofList p.1
    | _ =>
      match afterScheme? cs with
      | none => if !cs.isEmpty && isServer cs && !cs.any endsServer then some "" else none
      | some rest =>
        let server := rest.takeWhile fun c => !endsServer c
        if maxSchemeLength < (cs.takeWhile isSchemeChar).length then none
        else if server.isEmpty || !isServer server then none
        else
          (pathAndQuery? (rest.dropWhile fun c => !endsServer c)).map fun p =>
            if p.1.isEmpty then "/" else String.ofList p.1

end GatewaySync.Text.Target
