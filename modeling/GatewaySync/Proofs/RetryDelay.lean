import GatewaySync.CommandLine.Options
import Mathlib.Algebra.GroupWithZero.Nat

/-!
# How the delays of retries grow

The delay before a retry doubles with every failure of a key, up to a bound.
Two more limits stand in the way of the doubling: it stops after thirty-one
failures, and no product exceeds the longest length of time.  In settings that
the program accepts the bound is a whole number of seconds in 64 bits, so the
second limit never shows.  The first one shows exactly where thirty-one
doublings do not reach the bound.
-/

namespace GatewaySync

namespace Text.Decimal

variable {max : Nat}

theorem le_of_pushDigit {n m : Nat} {c : Char} (hpush : pushDigit max n c = .ok m) : m ≤ max := by
  rw [pushDigit] at hpush
  split at hpush
  · cases hpush
  · dsimp only at hpush
    split at hpush
    · rename_i hle
      obtain rfl := Except.ok.inj hpush
      exact hle
    · cases hpush

theorem le_of_foldlM_pushDigit {cs : List Char} {n m : Nat} (hn : n ≤ max)
    (hread : cs.foldlM (pushDigit max) n = .ok m) : m ≤ max := by
  induction cs generalizing n with
  | nil => exact Except.ok.inj hread ▸ hn
  | cons c rest ih =>
      rw [List.foldlM_cons] at hread
      cases hpush : pushDigit max n c with
      | error fault =>
          rw [hpush] at hread
          cases hread
      | ok next =>
          rw [hpush] at hread
          exact ih (le_of_pushDigit hpush) hread

/-- A number that is read is within the bound. -/
theorem le_of_boundedOf {cs : List Char} {n : Nat} (hread : boundedOf max cs = .ok n) :
    n ≤ max := by
  rw [boundedOf.eq_def] at hread
  split at hread
  · cases hread
  · cases hread
  · exact le_of_foldlM_pushDigit (Nat.zero_le max) hread
  · exact le_of_foldlM_pushDigit (Nat.zero_le max) hread

end Text.Decimal

theorem CommandLine.Values.natural_le (options : Values) (o : Opt) :
    options.natural o ≤ Text.Decimal.uint64Max := by
  rw [natural]
  cases hread : Text.Decimal.boundedOf Text.Decimal.uint64Max (options.text o).toList with
  | ok n => exact Text.Decimal.le_of_boundedOf hread
  | error fault => exact Nat.zero_le _

/-! ## Delays -/

namespace RetryPolicy

/-- The delay that doubles with every failure, however many there are. -/
def doubled (p : RetryPolicy) (failures : Nat) : Nanos := min (p.base * 2 ^ failures) p.max

variable {p : RetryPolicy}

/-- Below the longest length of time only the number of doublings is limited. -/
theorem delay_eq_doubled_min (hmax : p.max ≤ Nanos.longest) (failures : Nat) :
    p.delay failures = p.doubled (min failures doublings) := by
  rw [delay, doubled, Nat.shiftLeft_eq, Nat.min_assoc, Nat.min_eq_right hmax]

theorem doubled_zero (hsound : p.IsSound) : p.doubled 0 = p.base := by
  rw [doubled, pow_zero, mul_one, Nat.min_eq_left hsound.2]

theorem doubled_le_max (p : RetryPolicy) (failures : Nat) : p.doubled failures ≤ p.max :=
  Nat.min_le_right _ _

theorem doubled_mono (p : RetryPolicy) {fewer more : Nat} (hle : fewer ≤ more) :
    p.doubled fewer ≤ p.doubled more := by
  have hpower : p.base * 2 ^ fewer ≤ p.base * 2 ^ more :=
    Nat.mul_le_mul_left _ (Nat.pow_le_pow_right Nat.two_pos hle)
  exact Nat.le_min.2 ⟨Nat.le_trans (Nat.min_le_left _ _) hpower, Nat.min_le_right _ _⟩

theorem base_le_doubled (hsound : p.IsSound) (failures : Nat) : p.base ≤ p.doubled failures := by
  calc
    p.base = p.doubled 0 := (doubled_zero hsound).symm
    _ ≤ p.doubled failures := p.doubled_mono (Nat.zero_le failures)

/-- Fewer doublings give the same delay exactly if they reach the bound. -/
theorem doubled_eq_iff_of_lt (hbase : 0 < p.base) {fewer more : Nat} (hlt : fewer < more) :
    p.doubled fewer = p.doubled more ↔ p.max ≤ p.base * 2 ^ fewer := by
  have hgrows : p.base * 2 ^ fewer < p.base * 2 ^ more :=
    Nat.mul_lt_mul_of_pos_left (Nat.pow_lt_pow_right Nat.one_lt_two hlt) hbase
  have hcap : ∀ less greater bound : Nat, less < greater →
      (min less bound = min greater bound ↔ bound ≤ less) := by omega
  exact hcap _ _ _ hgrows

end RetryPolicy

/-! ## Settings that the program accepts -/

namespace Settings

variable {options : CommandLine.Values} {settings : Settings}

theorem eq_of_checked {s : Settings} (hchecked : s.checked = .ok settings) :
    settings = s ∧ s.retry.IsSound := by
  rw [checked] at hchecked
  split at hchecked
  · rename_i hsound
    exact ⟨(Except.ok.inj hchecked).symm, hsound⟩
  · cases hchecked

section Accepted

variable (haccepted : options.settings.checked = .ok settings)
include haccepted

theorem isSound_of_accepted : settings.retry.IsSound := by
  obtain ⟨rfl, hsound⟩ := eq_of_checked haccepted
  exact hsound

theorem max_le_longest_of_accepted : settings.retry.max ≤ Nanos.longest := by
  obtain ⟨rfl, -⟩ := eq_of_checked haccepted
  have hseconds := options.natural_le .retryMaxDelay
  calc
    Nanos.ofSeconds (options.natural .retryMaxDelay)
      ≤ Nanos.ofSeconds Text.Decimal.uint64Max := Nat.mul_le_mul_right _ hseconds
    _ ≤ Nanos.longest := by decide

theorem delay_of_accepted (failures : Nat) :
    settings.retry.delay failures = settings.retry.doubled (min failures RetryPolicy.doublings) :=
  RetryPolicy.delay_eq_doubled_min (max_le_longest_of_accepted haccepted) failures

end Accepted

/-- With the settings of a running program the delay is the exact power, capped, for up to
thirty-one failures.  It is for more of them as well exactly if thirty-one doublings reach
the bound; otherwise the delay stays where it is then. -/
theorem delay_eq_doubled_iff (haccepted : options.settings.checked = .ok settings)
    (failures : Nat) :
    settings.retry.delay failures = settings.retry.doubled (min failures 31) ∧
      (settings.retry.delay failures = settings.retry.doubled failures ↔
        failures ≤ 31 ∨ settings.retry.max ≤ settings.retry.base * 2 ^ 31) := by
  have hdelay : settings.retry.delay failures = settings.retry.doubled (min failures 31) :=
    delay_of_accepted haccepted failures
  refine ⟨hdelay, ?_⟩
  rw [hdelay]
  by_cases hfew : failures ≤ 31
  · rw [Nat.min_eq_left hfew]
    exact iff_of_true rfl (.inl hfew)
  · rw [Nat.min_eq_right (Nat.le_of_not_le hfew), or_iff_right hfew]
    exact RetryPolicy.doubled_eq_iff_of_lt (isSound_of_accepted haccepted).1 (Nat.lt_of_not_le hfew)

/-- A first delay of one millisecond, and a bound of nearly two months. -/
def patientOptions : CommandLine.Values := [(.retryBaseDelay, "1"), (.retryMaxDelay, "5000000")]

theorem checked_patientOptions :
    patientOptions.settings.checked = .ok patientOptions.settings := by
  rw [checked, if_pos (by decide +kernel)]

theorem not_reached_by_patientOptions :
    ¬patientOptions.settings.retry.max ≤ patientOptions.settings.retry.base * 2 ^ 31 := by
  decide +kernel

theorem delay_eq_doubled_iff_patient :
    patientOptions.settings.checked = .ok patientOptions.settings ∧
      patientOptions.settings.retry.delay 40 = patientOptions.settings.retry.doubled 31 ∧
      patientOptions.settings.retry.delay 40 ≠ patientOptions.settings.retry.doubled 40 := by
  obtain ⟨hdelay, hiff⟩ := delay_eq_doubled_iff checked_patientOptions 40
  refine ⟨checked_patientOptions, hdelay, fun hsame => ?_⟩
  obtain hfew | hreached := hiff.1 hsame
  · exact absurd hfew (by decide)
  · exact not_reached_by_patientOptions hreached

/-- Under these settings the delay after thirty-two failures is half of what the
doubling promises. -/
theorem doubling_stops_short :
    ¬∀ (options : CommandLine.Values) (settings : Settings) (failures : Nat),
      options.settings.checked = .ok settings → failures ≤ 0xffffffff →
        settings.retry.delay failures = settings.retry.doubled failures := by
  intro hall
  have hsame := hall patientOptions _ 32 checked_patientOptions (by decide)
  rw [delay_of_accepted checked_patientOptions] at hsame
  have hreached := (RetryPolicy.doubled_eq_iff_of_lt
    (isSound_of_accepted checked_patientOptions).1 (by decide)).1 hsame
  exact not_reached_by_patientOptions hreached

end Settings

end GatewaySync
