import GatewaySync.Rollout
import GatewaySync.Proofs.SortedMap

/-!
# A restart changes the stamp

The stamp of a restart is a decimal in an annotation.  Whatever text the
annotation held before, the text after a restart is another one: a readable
stamp is overtaken, and an unreadable text is not that of a clock reading.
-/

namespace GatewaySync

namespace Text.Decimal

theorem intOf?_ofNat (n : Nat) : intOf? (ofNat n) = some (Int.ofNat n) := by
  have hread : (natOf? (ofNat n)).map Int.ofNat = some (Int.ofNat n) := by
    rw [natOf?_ofNat]
    rfl
  cases hdigits : ofNat n with
  | nil => exact absurd hdigits (by simp [ofNat])
  | cons digit rest =>
      have hdigit : digit.isDigit := by
        apply Nat.isDigit_of_mem_toDigits (b := 10) (n := n) (by decide) (by decide)
        rw [← ofNat, hdigits]
        exact List.mem_cons_self
      rw [← hdigits]
      rw [hdigits] at hread ⊢
      unfold intOf?
      split
      · rename_i hsign
        obtain ⟨rfl, -⟩ := List.cons.inj hsign
        exact absurd hdigit (by decide)
      · rename_i hsign
        obtain ⟨rfl, -⟩ := List.cons.inj hsign
        exact absurd hdigit (by decide)
      · exact hread

theorem intOf?_ofInt (n : Int) : intOf? (ofInt n) = some n := by
  cases n with
  | ofNat n => exact intOf?_ofNat n
  | negSucc n =>
      rw [ofInt, intOf?, natOf?_ofNat]
      rfl

/-- A written integer is read back if it fits, and not at all otherwise. -/
theorem int64Of?_ofInt (n : Int) :
    int64Of? (String.ofList (ofInt n)) =
      if int64Min ≤ n ∧ n ≤ int64Max then some n else none := by
  rw [int64Of?, String.toList_ofList, intOf?_ofInt]
  by_cases hfits : int64Min ≤ n ∧ n ≤ int64Max
  · simp [hfits]
  · rw [if_neg hfits, Option.filter_some, if_neg (by simpa using hfits)]

end Text.Decimal

open Text.Decimal

namespace Deployment

/-- The stamp of the last restart as it is written. -/
def stampText? (d : Deployment) : Option String := do
  (← d.templateAnnotations?).get? Rollout.stampKey

theorem previousStamp?_eq (d : Deployment) :
    d.previousStamp? = d.stampText?.bind int64Of? := by
  rw [previousStamp?, stampText?]
  cases d.templateAnnotations? with
  | none => rfl
  | some annotations => rfl

@[simp]
theorem templateAnnotations?_mapTemplateAnnotations (d : Deployment)
    (f : Texts → Texts) :
    (d.mapTemplateAnnotations f).templateAnnotations? =
      some (f (d.templateAnnotations?.getD .empty)) := by
  rw [mapTemplateAnnotations, templateAnnotations?, templateAnnotations?]
  cases hspec : d.spec with
  | none => rfl
  | some spec =>
      cases hmetadata : spec.template.metadata with
      | none => simp [hmetadata]
      | some metadata => simp [hmetadata]

/-- A restart records the hash of the document. -/
@[simp]
theorem rolledFor?_restarted (d : Deployment) (hash : String) (now : Int) :
    (d.restarted hash now).rolledFor? = some hash := by
  rw [rolledFor?, restarted, templateAnnotations?_mapTemplateAnnotations]
  simp

theorem stampText?_restarted (d : Deployment) (hash : String) (now : Int) :
    (d.restarted hash now).stampText? =
      some (String.ofList (ofInt (Rollout.nextStamp d.previousStamp? now))) := by
  have hkeys : ¬Rollout.stampKey = Rollout.hashKey := by decide
  rw [stampText?, restarted, templateAnnotations?_mapTemplateAnnotations]
  simp [hkeys]

end Deployment

namespace Rollout

theorem wrap_range (n : Int) : int64Min ≤ wrap n ∧ wrap n ≤ int64Max := by
  have hle : -((0x10000000000000000 / 2 : Nat) : Int) ≤ wrap n := Int.le_bmod (by decide)
  have hlt : wrap n < ((0x10000000000000000 + 1) / 2 : Nat) := Int.bmod_lt (by decide)
  rw [int64Min, int64Max]
  omega

theorem wrap_of_fits {n : Int} (hn : int64Min ≤ n ∧ n ≤ int64Max) : wrap n = n := by
  rw [int64Min, int64Max] at hn
  exact Int.bmod_eq_of_le_mul_two (by omega) (by omega)

/-- Even the number after the greatest one is another number. -/
theorem wrap_succ_ne (n : Int) : wrap (n + 1) ≠ n := by
  intro heq
  have hmod : wrap (n + 1) % 0x10000000000000000 = (n + 1) % 0x10000000000000000 :=
    Int.bmod_emod
  rw [heq] at hmod
  omega

theorem nextStamp_ne (previous now : Int) : nextStamp (some previous) now ≠ previous := by
  rw [nextStamp]
  split
  · exact wrap_succ_ne previous
  · omega

end Rollout

/-- A restart changes the text of the stamp, as long as the clock itself can be
written as a stamp. -/
theorem Deployment.stampText?_restarted_ne (d : Deployment) (hash : String)
    {now : Int} (hnow : int64Min ≤ now ∧ now ≤ int64Max) :
    (d.restarted hash now).stampText? ≠ d.stampText? := by
  rw [stampText?_restarted]
  intro heq
  have hprevious : d.previousStamp? =
      int64Of? (String.ofList (ofInt (Rollout.nextStamp d.previousStamp? now))) := by
    conv_lhs => rw [previousStamp?_eq, ← heq, Option.bind_some]
  cases hstamp : d.previousStamp? with
  | none =>
      rw [hstamp, Rollout.nextStamp, int64Of?_ofInt, if_pos hnow] at hprevious
      cases hprevious
  | some previous =>
      rw [hstamp, int64Of?_ofInt] at hprevious
      split at hprevious
      · exact Rollout.nextStamp_ne previous now (Option.some.inj hprevious).symm
      · cases hprevious

end GatewaySync
