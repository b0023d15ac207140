import GatewaySync.Json
import GatewaySync.Text.Decimal

/-!
# Numbers in JSON text

A number without fraction and exponent is an integer where 64 bits hold it.  Any other is a
floating-point number.  Its digits are added up as long as 64 bits hold the sum, and the sum is
then scaled by a power of ten, each step rounding once.
-/

namespace GatewaySync.Json.Number

/-- The integer part of a number: a zero stands alone. -/
def wholePart? (cs : List Char) : Option (List Char × List Char) :=
  match cs with
  | '0' :: rest => some (['0'], rest)
  | cs =>
    let digits := cs.takeWhile Char.isDigit
    if digits.isEmpty then none else some (digits, cs.dropWhile Char.isDigit)

/-- The digits after a point, when a point follows. -/
def fractionPart? (cs : List Char) : Option (List Char × List Char) :=
  match cs with
  | '.' :: rest =>
    let digits := rest.takeWhile Char.isDigit
    if digits.isEmpty then none else some (digits, rest.dropWhile Char.isDigit)
  | cs => some ([], cs)

/-- The exponent, when one follows. -/
def exponentPart? (cs : List Char) : Option (Option Int × List Char) :=
  match cs with
  | c :: rest =>
    if c == 'e' || c == 'E' then
      let (negative, rest) :=
        match rest with
        | '-' :: r => (true, r)
        | '+' :: r => (false, r)
        | r => (false, r)
      let digits := rest.takeWhile Char.isDigit
      if digits.isEmpty then none
      else
        let n : Int := Nat.ofDigitChars 10 digits 0
        some (some (if negative then -n else n), rest.dropWhile Char.isDigit)
    else some (none, cs)
  | [] => some (none, [])

/-- The range of integers that keep their exact value. -/
def isExactInteger (n : Int) : Bool :=
  Text.Decimal.int64Min ≤ n ∧ n ≤ (Text.Decimal.uint64Max : Int)

/-- Adds digits to a sum while 64 bits hold it.  Tells the sum and the digits that are left. -/
def accumulate (sum : Nat) : List Char → Nat × List Char
  | [] => (sum, [])
  | c :: rest =>
    let next := 10 * sum + (c.toNat - '0'.toNat)
    if next ≤ Text.Decimal.uint64Max then accumulate next rest else (sum, c :: rest)

/-- The greatest power of ten that a number is scaled by at once. -/
def greatestScale : Nat := 308

def powerOfTen (n : Nat) : Float := Float.ofScientific 1 false n

/-- A number times a power of ten, unless it is beyond all others. -/
def scale? (f : Float) (exponent : Int) : Option Float :=
  if exponent.natAbs ≤ greatestScale then
    if 0 ≤ exponent then
      let scaled := f * powerOfTen exponent.natAbs
      if scaled.isInf then none else some scaled
    else some (f / powerOfTen exponent.natAbs)
  else if f == 0 then some f
  else if _h : exponent + greatestScale < 0 then
    scale? (f / powerOfTen greatestScale) (exponent + greatestScale)
  else none
termination_by exponent.natAbs
decreasing_by
  have hpos : 0 < greatestScale := by decide
  omega

/-- The number with the given digits before and after its point. -/
def float? (whole fraction : List Char) (exponent : Int) : Option Float :=
  let (sum, wholeLeft) := accumulate 0 whole
  let (sum, fractionLeft) := accumulate sum fraction
  let places : Int := fraction.length - fractionLeft.length
  scale? (Float.ofNat sum) (exponent + wholeLeft.length - places)

/-- The number at the start of a text, and what follows it. -/
def read? (cs : List Char) : Option (Json × List Char) := do
  let (negative, cs) :=
    match cs with
    | '-' :: rest => (true, rest)
    | cs => (false, cs)
  let (whole, cs) ← wholePart? cs
  let (fraction, cs) ← fractionPart? cs
  let (exponent, cs) ← exponentPart? cs
  let magnitude : Int := Nat.ofDigitChars 10 whole 0
  let integer := if negative then -magnitude else magnitude
  if fraction.isEmpty ∧ exponent.isNone ∧ isExactInteger integer ∧ ¬(negative ∧ magnitude = 0) then
    return (.int integer, cs)
  else
    match float? whole fraction (exponent.getD 0) with
    | some f => return (.float (if negative then -f else f), cs)
    | none => return (.unreadable, cs)

end GatewaySync.Json.Number
