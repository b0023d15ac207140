import GatewaySync.Text.Decimal

/-!
# Lengths of time

A length of time is a number of nanoseconds.  Its text uses the largest unit, from seconds down to
nanoseconds, in which it is at least one, with as many decimal places as it needs.
-/

namespace GatewaySync

/-- Nanoseconds. -/
abbrev Nanos := Nat

namespace Nanos

def ofMillis (n : Nat) : Nanos := n * 1000000
def ofSeconds (n : Nat) : Nanos := n * 1000000000

/-- The longest length of time: 64 bits of seconds and the nanoseconds below the next one. -/
def longest : Nanos := (1 <<< 64) * 1000000000 - 1

/-- A decimal number of `unit` nanoseconds. -/
def inUnit (n : Nanos) (unit : Nat) (places : Nat) : List Char :=
  let part := Text.Decimal.ofNat (n % unit)
  let padded := List.replicate (places - part.length) '0' ++ part
  let shown := (padded.reverse.dropWhile (· == '0')).reverse
  Text.Decimal.ofNat (n / unit) ++ (if n % unit = 0 then [] else '.' :: shown)

def text (n : Nanos) : String :=
  if 1000000000 ≤ n then String.ofList (inUnit n 1000000000 9) ++ "s"
  else if 1000000 ≤ n then String.ofList (inUnit n 1000000 6) ++ "ms"
  else if 1000 ≤ n then String.ofList (inUnit n 1000 3) ++ "µs"
  else String.ofList (Text.Decimal.ofNat n) ++ "ns"

end Nanos

end GatewaySync
