import GatewaySync.Text.Duration

/-!
# Retry delays

The delay before a retry doubles with every failure of the same key, up to a bound.
-/

namespace GatewaySync

structure RetryPolicy where
  /-- The delay before the first retry. -/
  base : Nanos
  /-- No delay is longer. -/
  max : Nanos
deriving DecidableEq, Repr

namespace RetryPolicy

/-- Doubling stops after this many failures. -/
def doublings : Nat := 31

/-- The delay after so many failures.  A product beyond the longest length of time counts as the
longest one. -/
def delay (p : RetryPolicy) (failures : Nat) : Nanos :=
  min (min (p.base <<< min failures doublings) Nanos.longest) p.max

/-- A first delay that is positive and within the bound. -/
def IsSound (p : RetryPolicy) : Prop := 0 < p.base ∧ p.base ≤ p.max

instance (p : RetryPolicy) : Decidable p.IsSound := inferInstanceAs (Decidable (_ ∧ _))

end RetryPolicy

end GatewaySync
