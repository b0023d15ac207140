import GatewaySync.Json.Number
import GatewaySync.Json.Text
import Mathlib.Data.List.Basic

/-!
# Integers that are read back

An integer that keeps its exact value is written as digits behind at most one sign, and is read
back from them.  A number ends where nothing prolongs it, so what stands behind the digits must
not be a digit, a point or the start of an exponent.
-/

namespace GatewaySync.Json.Number

/-- Nothing that stands here prolongs a number. -/
def EndsNumber (rest : List Char) : Prop :=
  ∀ c ∈ rest.head?, c.isDigit = false ∧ c ≠ '.' ∧ c ≠ 'e' ∧ c ≠ 'E'

theorem isDigit_of_mem_ofNat {n : Nat} {c : Char} (hc : c ∈ Text.Decimal.ofNat n) :
    c.isDigit = true :=
  Nat.isDigit_of_mem_toDigits (by decide) (by decide) hc

/-- Only zero is written with a zero in front. -/
theorem exists_ofNat_eq_cons (n : Nat) :
    ∃ c more, Text.Decimal.ofNat n = c :: more ∧ (c = '0' → n = 0) := by
  induction n using Nat.strongRecOn with
  | ind n ih =>
      obtain hlt | hle := Nat.lt_or_ge n 10
      · have hdigits : ∀ d < 10, Nat.digitChar d = '0' → d = 0 := by decide
        exact ⟨n.digitChar, [], Nat.toDigits_of_lt_base hlt, hdigits n hlt⟩
      · obtain ⟨c, more, heq, hzero⟩ := ih (n / 10) (by omega)
        rw [Text.Decimal.ofNat] at heq ⊢
        refine ⟨c, more ++ [(n % 10).digitChar], ?_, fun hc => ?_⟩
        · rw [Nat.toDigits_of_base_le (by decide) hle, heq, List.cons_append]
        · have := hzero hc
          omega

theorem wholePart?_ofNat (n : Nat) {rest : List Char} (hrest : EndsNumber rest) :
    wholePart? (Text.Decimal.ofNat n ++ rest) = some (Text.Decimal.ofNat n, rest) := by
  obtain ⟨c, more, heq, hzero⟩ := exists_ofNat_eq_cons n
  have hdigits : ∀ d ∈ Text.Decimal.ofNat n, d.isDigit = true := fun _ => isDigit_of_mem_ofNat
  have htake : rest.takeWhile Char.isDigit = [] := by
    cases rest with
    | nil => rfl
    | cons d rest => exact List.takeWhile_cons_of_neg (by simp [(hrest d rfl).1])
  have hdrop : rest.dropWhile Char.isDigit = rest := by
    cases rest with
    | nil => rfl
    | cons d rest => exact List.dropWhile_cons_of_neg (by simp [(hrest d rfl).1])
  unfold wholePart?
  split
  case h_1 left hleft =>
    rw [heq, List.cons_append] at hleft
    obtain rfl := hzero (List.cons.inj hleft).1
    have hzeros : Text.Decimal.ofNat 0 = ['0'] := rfl
    obtain ⟨-, rfl⟩ := List.cons.inj (hzeros.symm.trans heq)
    rw [hzeros, ← (List.cons.inj hleft).2, List.nil_append]
  case h_2 =>
    rw [List.takeWhile_append_of_pos hdigits, List.dropWhile_append_of_pos hdigits, htake, hdrop,
      List.append_nil]
    simp only [heq, List.isEmpty_cons]
    rfl

theorem fractionPart?_of_endsNumber {rest : List Char} (hrest : EndsNumber rest) :
    fractionPart? rest = some ([], rest) := by
  unfold fractionPart?
  split
  case h_1 => exact absurd rfl (hrest '.' rfl).2.1
  case h_2 => rfl

theorem exponentPart?_of_endsNumber {rest : List Char} (hrest : EndsNumber rest) :
    exponentPart? rest = some (none, rest) := by
  cases rest with
  | nil => rfl
  | cons c rest =>
      obtain ⟨-, -, he, hE⟩ := hrest c rfl
      simp [exponentPart?, he, hE]

theorem ofDigitChars_ofNat (n : Nat) : Nat.ofDigitChars 10 (Text.Decimal.ofNat n) 0 = n :=
  Nat.ofDigitChars_ten_toDigits

theorem read?_ofNat {n : Nat} (hn : isExactInteger n = true) {rest : List Char}
    (hrest : EndsNumber rest) :
    read? (Text.Decimal.ofNat n ++ rest) = some (.int n, rest) := by
  obtain ⟨c, more, heq, -⟩ := exists_ofNat_eq_cons n
  have hsign : c ≠ '-' := by
    rintro rfl
    cases isDigit_of_mem_ofNat (heq ▸ List.mem_cons_self)
  unfold read?
  split
  next negative unsigned hunsigned =>
    have hunsigned : (false, Text.Decimal.ofNat n ++ rest) = (negative, unsigned) := by
      rw [← hunsigned, heq, List.cons_append]
      split
      case h_1 hminus => exact absurd (List.cons.inj hminus).1 hsign
      case h_2 => rfl
    obtain ⟨rfl, rfl⟩ := Prod.mk.inj hunsigned
    simp only [wholePart?_ofNat n hrest, fractionPart?_of_endsNumber hrest,
      exponentPart?_of_endsNumber hrest, Option.bind_eq_bind, Option.bind_some,
      Bool.false_eq_true, if_false]
    rw [if_pos ⟨rfl, rfl, by rwa [ofDigitChars_ofNat], fun h => h.1⟩, ofDigitChars_ofNat]
    rfl

theorem read?_negSucc {n : Nat} (hn : isExactInteger (.negSucc n) = true) {rest : List Char}
    (hrest : EndsNumber rest) :
    read? ('-' :: Text.Decimal.ofNat (n + 1) ++ rest) = some (.int (.negSucc n), rest) := by
  have hinteger : -((Nat.ofDigitChars 10 (Text.Decimal.ofNat (n + 1)) 0 : Nat) : Int) =
      .negSucc n := by
    rw [ofDigitChars_ofNat]
    rfl
  have hpositive : ((Nat.ofDigitChars 10 (Text.Decimal.ofNat (n + 1)) 0 : Nat) : Int) ≠ 0 := by
    rw [ofDigitChars_ofNat]
    omega
  simp only [read?, List.cons_append, wholePart?_ofNat (n + 1) hrest,
    fractionPart?_of_endsNumber hrest, exponentPart?_of_endsNumber hrest, Option.bind_eq_bind,
    Option.bind_some, if_true]
  rw [← hinteger] at hn
  rw [if_pos ⟨rfl, rfl, hn, fun h => hpositive h.2⟩, hinteger]
  rfl

/-- An integer is read back from its digits. -/
theorem read?_ofInt {n : Int} (hn : isExactInteger n = true) {rest : List Char}
    (hrest : EndsNumber rest) :
    read? (Text.Decimal.ofInt n ++ rest) = some (.int n, rest) := by
  cases n with
  | ofNat n => exact read?_ofNat hn hrest
  | negSucc n => exact read?_negSucc hn hrest

end GatewaySync.Json.Number
