/-!
# Decimal integers as text

Writing uses no leading zeros and no plus sign.  Reading is more liberal: one sign may stand in
front, and leading zeros are allowed.
-/

namespace GatewaySync.Text.Decimal

/-- The digits of a natural number, without leading zeros. -/
def ofNat (n : Nat) : List Char := Nat.toDigits 10 n

/-- A minus sign for negative numbers, then the digits. -/
def ofInt : Int → List Char
  | .ofNat n => ofNat n
  | .negSucc n => '-' :: ofNat (n + 1)

/-- A non-empty run of ASCII digits. -/
def natOf? (cs : List Char) : Option Nat :=
  if cs ≠ [] ∧ cs.all Char.isDigit then some (Nat.ofDigitChars 10 cs 0) else none

/-- ASCII digits after at most one sign. -/
def intOf? : List Char → Option Int
  | '+' :: cs => (natOf? cs).map Int.ofNat
  | '-' :: cs => (natOf? cs).map fun n => -Int.ofNat n
  | cs => (natOf? cs).map Int.ofNat

/-- The least and the greatest value of a signed 64-bit integer. -/
def int64Min : Int := -0x8000000000000000
def int64Max : Int := 0x7fffffffffffffff

/-- The greatest value of an unsigned 64-bit integer. -/
def uint64Max : Nat := 0xffffffffffffffff

/-- A decimal that fits a signed 64-bit integer. -/
def int64Of? (s : String) : Option Int :=
  (intOf? s.toList).filter fun n => int64Min ≤ n ∧ n ≤ int64Max

/-- Why a text is not an unsigned integer of a given range. -/
inductive Fault where
  | empty
  | invalidDigit
  | tooLarge
deriving DecidableEq, Repr

def Fault.message : Fault → String
  | .empty => "cannot parse integer from empty string"
  | .invalidDigit => "invalid digit found in string"
  | .tooLarge => "number too large to fit in target type"

/-- One more digit of a number that must not exceed `max`.  A character that is no digit is
reported before the number is found too large at the same place. -/
def pushDigit (max : Nat) (n : Nat) (c : Char) : Except Fault Nat :=
  if !c.isDigit then .error .invalidDigit
  else
    let n := 10 * n + (c.toNat - '0'.toNat)
    if n ≤ max then .ok n else .error .tooLarge

/-- Reads a natural number up to `max`, after at most one plus sign. -/
def boundedOf (max : Nat) : List Char → Except Fault Nat
  | [] => .error .empty
  | ['+'] => .error .invalidDigit
  | '+' :: cs => cs.foldlM (pushDigit max) 0
  | cs => cs.foldlM (pushDigit max) 0

theorem natOf?_ofNat (n : Nat) : natOf? (ofNat n) = some n := by
  have hdigits : (Nat.toDigits 10 n).all Char.isDigit = true :=
    List.all_eq_true.2 fun c hc => Nat.isDigit_of_mem_toDigits (by decide) (by decide) hc
  simp [natOf?, ofNat, hdigits, Nat.toDigits_ne_nil, Nat.ofDigitChars_ten_toDigits]

end GatewaySync.Text.Decimal
