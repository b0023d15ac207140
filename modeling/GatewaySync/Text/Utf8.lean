/-!
# Text out of bytes

Bytes that are not UTF-8 still make a text: every longest part that starts like a character but is
none becomes one replacement character.
-/

namespace GatewaySync.Text.Utf8

/-- What the reader holds between two bytes. -/
inductive State where
  /-- Between two characters. -/
  | between
  /-- Inside a character: `owed` more bytes, the next one from `low` to `high`, after bytes whose
  bits make `bits`. -/
  | inside (owed low high bits : Nat)
deriving DecidableEq, Repr

def replacement : Char := '\ufffd'

/-- The first byte of a character: the text it makes at once, and what it leaves to read. -/
def start (b : Nat) : List Char × State :=
  if b < 0x80 then ([Char.ofNat b], .between)
  else if 0xC2 ≤ b ∧ b ≤ 0xDF then ([], .inside 1 0x80 0xBF (b - 0xC0))
  else if b = 0xE0 then ([], .inside 2 0xA0 0xBF (b - 0xE0))
  else if b = 0xED then ([], .inside 2 0x80 0x9F (b - 0xE0))
  else if 0xE1 ≤ b ∧ b ≤ 0xEF then ([], .inside 2 0x80 0xBF (b - 0xE0))
  else if b = 0xF0 then ([], .inside 3 0x90 0xBF (b - 0xF0))
  else if 0xF1 ≤ b ∧ b ≤ 0xF3 then ([], .inside 3 0x80 0xBF (b - 0xF0))
  else if b = 0xF4 then ([], .inside 3 0x80 0x8F (b - 0xF0))
  else ([replacement], .between)

/-- One more byte.  A byte that cannot continue the character ends it and starts anew. -/
def step (s : State) (b : Nat) : List Char × State :=
  match s with
  | .between => start b
  | .inside owed low high bits =>
    if low ≤ b ∧ b ≤ high then
      let bits := bits * 64 + (b - 0x80)
      if owed ≤ 1 then ([Char.ofNat bits], .between)
      else ([], .inside (owed - 1) 0x80 0xBF bits)
    else
      let next := start b
      (replacement :: next.1, next.2)

def decodeFrom (s : State) : List UInt8 → List Char
  | [] =>
    match s with
    | .between => []
    | .inside .. => [replacement]
  | b :: rest =>
    let next := step s b.toNat
    next.1 ++ decodeFrom next.2 rest

/-- The text of the bytes, with replacement characters for what is not UTF-8. -/
def decodeLossy (bytes : List UInt8) : String :=
  String.ofList (decodeFrom .between bytes)

def encode (s : String) : List UInt8 := s.toUTF8.toList

end GatewaySync.Text.Utf8
