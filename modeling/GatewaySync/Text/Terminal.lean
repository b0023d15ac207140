/-!
# Text for a terminal

Escape sequences steer a terminal and are not shown.  Where no terminal reads a text they are taken
out of it, together with all other control characters but those that leave a gap.
-/

namespace GatewaySync.Text.Terminal

/-- In which kind of escape sequence a text is. -/
inductive Mode where
  /-- In none. -/
  | ground
  /-- Behind the character that starts all of them. -/
  | escape
  /-- In one of a few characters, of which the next that is no mark ends it. -/
  | intermediate
  /-- In one with numbers, which a letter ends. -/
  | control
  /-- In a command to the system, which a bell ends. -/
  | command
  /-- In a string that nobody reads; only another sequence ends it. -/
  | string
deriving DecidableEq, Repr

/-- Controls that leave a gap. -/
def isGap (c : Char) : Bool := c ∈ ['\t', '\n', '\x0c', '\r']

/-- How the sequence that a character starts goes on. -/
def modeAfter (c : Char) : Mode :=
  if c = '[' then .control
  else if c = ']' then .command
  else if c ∈ ['P', 'X', '^', '_'] then .string
  else if 0x20 ≤ c.toNat ∧ c.toNat < 0x30 then .intermediate
  else .ground

/-- The mode behind a character, and whether the character is shown. -/
def step (mode : Mode) (c : Char) : Mode × Bool :=
  let n := c.toNat
  if n = 0x1B then (.escape, false)
  else if n = 0x18 ∨ n = 0x1A then (.ground, false)
  else
    match mode with
    | .ground => (.ground, isGap c || (0x20 ≤ n && n ≠ 0x7F))
    | .escape =>
      if n < 0x20 then (.escape, isGap c)
      else if n < 0x7F then (modeAfter c, false) else (.escape, false)
    | .intermediate =>
      if n < 0x20 then (.intermediate, isGap c)
      else if 0x30 ≤ n ∧ n < 0x7F then (.ground, false) else (.intermediate, false)
    | .control =>
      if n < 0x20 then (.control, isGap c)
      else if 0x40 ≤ n ∧ n < 0x7F then (.ground, false) else (.control, false)
    | .command => if c = '\x07' then (.ground, false) else (.command, false)
    | .string => (.string, false)

/-- The characters that are shown. -/
def shown (mode : Mode) : List Char → List Char
  | [] => []
  | c :: rest =>
    let (next, isShown) := step mode c
    if isShown then c :: shown next rest else shown next rest

/-- What is left of a text without a terminal. -/
def plain (s : String) : String := String.ofList (shown .ground s.toList)

/-- A text in bold letters. -/
def bold (s : String) : String := "\x1b[1m" ++ s ++ "\x1b[0m"

end GatewaySync.Text.Terminal
