/-!
# The fewest digits that read back

A binary floating-point number stands for all reals that round to it.  It is written by the decimal
among them that has the fewest digits.  The comparisons are exact: they multiply natural numbers
and divide none.
-/

namespace GatewaySync.Text.Shortest

/-- A finite number without its sign: `mantissa · 2 ^ exponent`. -/
structure Binary where
  mantissa : Nat
  exponent : Int
  /-- The next number below is half as far away as the next one above. -/
  narrowBelow : Bool := false
deriving DecidableEq, Repr

/-- The number that 64 bits stand for.  The sign bit is left aside. -/
def Binary.ofBits (bits : UInt64) : Binary :=
  let scale := bits.toNat >>> 52 % 0x800
  let fraction := bits.toNat % (1 <<< 52)
  if scale = 0 then { mantissa := fraction, exponent := -1074 }
  else { mantissa := (1 <<< 52) + fraction, exponent := Int.ofNat scale - 1075,
         narrowBelow := fraction = 0 ∧ 1 < scale }

/-- `digits · 10 ^ exponent`. -/
structure Decimal where
  digits : Nat
  exponent : Int
deriving DecidableEq, Repr

namespace Binary

/-- The reals that round to a number, in units of a power of ten: the least and the greatest of
them, and the number itself, all over one denominator. -/
structure Interval where
  low : Nat
  middle : Nat
  high : Nat
  denominator : Nat
  /-- Whether the ends round to the number: a half goes to the even mantissa. -/
  closed : Bool

def interval (x : Binary) (unit : Int) : Interval :=
  let scale := Nat.pow 10 (-unit).toNat <<< (x.exponent - 2).toNat
  { low := (4 * x.mantissa - if x.narrowBelow then 1 else 2) * scale
    middle := 4 * x.mantissa * scale
    high := (4 * x.mantissa + 2) * scale
    denominator := Nat.pow 10 unit.toNat <<< (2 - x.exponent).toNat
    closed := x.mantissa % 2 = 0 }

namespace Interval

def contains (i : Interval) (digits : Nat) : Bool :=
  let n := digits * i.denominator
  if i.closed then i.low ≤ n && n ≤ i.high else i.low < n && n < i.high

/-- The multiple of the unit inside the interval that is nearest to the number.  Of two that are
equally near the even one is taken. -/
def nearest? (i : Interval) : Option Nat :=
  let below := i.middle / i.denominator
  match i.contains below, i.contains (below + 1) with
  | true, true =>
    match compare (2 * i.middle) ((2 * below + 1) * i.denominator) with
    | .lt => some below
    | .gt => some (below + 1)
    | .eq => some (if below % 2 = 0 then below else below + 1)
  | true, false => some below
  | false, true => some (below + 1)
  | false, false => none

end Interval

/-- The coarsest power of ten that is tried, and how many are. -/
def coarsest : Int := 309
def units : Nat := 634

/-- All digits of the number. -/
def exact (x : Binary) : Decimal :=
  match x.exponent with
  | .ofNat e => ⟨x.mantissa <<< e, 0⟩
  | .negSucc e => ⟨x.mantissa * Nat.pow 5 (e + 1), .negSucc e⟩

/-- The decimal with the fewest digits that rounds to the number: a multiple of the coarsest power
of ten of which there is one. -/
def shortest (x : Binary) : Decimal :=
  if x.mantissa = 0 then ⟨0, 0⟩
  else
    let found := (List.range units).findSome? fun i =>
      let unit := coarsest - Int.ofNat i
      (x.interval unit).nearest?.map fun digits => Decimal.mk digits unit
    found.getD x.exact

end Binary

end GatewaySync.Text.Shortest
