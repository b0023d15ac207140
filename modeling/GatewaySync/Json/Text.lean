import GatewaySync.Json
import GatewaySync.Text.Decimal
import GatewaySync.Text.Shortest

/-!
# Compact JSON text

No blanks between tokens, members in the order of the value.  In a string only the quote, the
backslash and the characters below the space are escaped.
-/

namespace GatewaySync.Json

/-- A digit of the four that number a character. -/
def hexDigit (n : Nat) : Char := Nat.digitChar n

/-- One character as it stands inside a string. -/
def escapedChar (c : Char) : List Char :=
  match c with
  | '"' => ['\\', '"']
  | '\\' => ['\\', '\\']
  | '\n' => ['\\', 'n']
  | '\r' => ['\\', 'r']
  | '\t' => ['\\', 't']
  | '\x08' => ['\\', 'b']
  | '\x0c' => ['\\', 'f']
  | c =>
    if c.toNat < 0x20 then ['\\', 'u', '0', '0', hexDigit (c.toNat / 16), hexDigit (c.toNat % 16)]
    else [c]

def stringChars (s : String) : List Char :=
  '"' :: s.toList.flatMap escapedChar ++ ['"']

/-- The orders of magnitude that are written without an exponent. -/
def leastPlainOrder : Int := -5
def greatestPlainOrder : Int := 15

/-- A decimal: with at least one place after the point, or else with an exponent and its sign. -/
def decimalChars (d : Text.Shortest.Decimal) : List Char :=
  let digits := Text.Decimal.ofNat d.digits
  let order := d.exponent + digits.length - 1
  if leastPlainOrder ≤ order ∧ order ≤ greatestPlainOrder then
    let digits := List.replicate (-order).toNat '0' ++ digits
    let whole := digits.take (order.toNat + 1)
    let places := digits.drop (order.toNat + 1)
    whole ++ List.replicate d.exponent.toNat '0' ++
      '.' :: (if places.isEmpty then ['0'] else places)
  else
    let places := digits.drop 1
    let sign := if order < 0 then [] else ['+']
    digits.take 1 ++ (if places.isEmpty then [] else '.' :: places) ++
      'e' :: sign ++ Text.Decimal.ofInt order

/-- The shortest decimal that reads back as the number.  The sign is also that of a zero. -/
def floatChars (f : Float) : List Char :=
  let sign := if f.toBits.toNat < 1 <<< 63 then [] else ['-']
  sign ++ decimalChars (Text.Shortest.Binary.ofBits f.toBits).shortest

mutual

/-- The compact text of a value. -/
def chars : Json → List Char
  | .null => ['n', 'u', 'l', 'l']
  | .bool true => ['t', 'r', 'u', 'e']
  | .bool false => ['f', 'a', 'l', 's', 'e']
  | .int n => Text.Decimal.ofInt n
  | .float f => floatChars f
  | .str s => stringChars s
  | .arr [] => ['[', ']']
  | .arr (j :: rest) => '[' :: (chars j ++ itemsChars rest)
  | .obj [] => ['\x7b', '\x7d']
  | .obj ((name, j) :: rest) =>
    '\x7b' :: (stringChars name ++ ':' :: (chars j ++ membersChars rest))
  | .unreadable => ['n', 'u', 'l', 'l']

/-- The items after the first, each after a comma, and the closing bracket. -/
def itemsChars : List Json → List Char
  | [] => [']']
  | j :: rest => ',' :: (chars j ++ itemsChars rest)

/-- The members after the first, each after a comma, and the closing brace. -/
def membersChars : List (String × Json) → List Char
  | [] => ['\x7d']
  | (name, j) :: rest => ',' :: (stringChars name ++ ':' :: (chars j ++ membersChars rest))

end

def text (j : Json) : String := String.ofList j.chars

end GatewaySync.Json
