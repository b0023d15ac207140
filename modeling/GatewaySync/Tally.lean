/-!
# Counts by key

A tally says for every key how often it was counted.  Two tallies may list their keys in different
orders; what is read from one is the count of each key.
-/

namespace GatewaySync

/-- How often each key was counted; a key without an entry never was. -/
structure Tally (κ : Type u) where
  entries : List (κ × Nat) := []
deriving DecidableEq, Repr

namespace Tally

variable {κ : Type u} [DecidableEq κ]

instance : Inhabited (Tally κ) := ⟨{}⟩

/-- The count of a key among entries. -/
def countIn (entries : List (κ × Nat)) (k : κ) : Nat :=
  ((entries.find? fun e => e.1 = k).map Prod.snd).getD 0

def count (t : Tally κ) (k : κ) : Nat := countIn t.entries k

/-- Takes a key back to where it was never counted. -/
def clear (t : Tally κ) (k : κ) : Tally κ := ⟨t.entries.filter fun e => e.1 ≠ k⟩

def set (t : Tally κ) (k : κ) (n : Nat) : Tally κ := ⟨(k, n) :: (t.clear k).entries⟩

def increment (t : Tally κ) (k : κ) : Tally κ := t.set k (t.count k + 1)

/-- The counts of some keys only. -/
def filter (t : Tally κ) (keep : κ → Bool) : Tally κ := ⟨t.entries.filter fun e => keep e.1⟩

@[simp]
theorem count_clear (t : Tally κ) (j k : κ) :
    (t.clear k).count j = if j = k then 0 else t.count j := by
  have hfind : (t.clear k).entries.find? (fun e => e.1 = j) =
      if j = k then none else t.entries.find? fun e => e.1 = j := by
    rw [clear, List.find?_filter]
    by_cases h : j = k
    · rw [if_pos h, List.find?_eq_none]
      intro e _ he
      simp_all
    · rw [if_neg h]
      congr 1
      funext e
      by_cases he : e.1 = j
      · simp [he, h]
      · simp [he]
  rw [count, countIn, hfind]
  split
  · rfl
  · rfl

@[simp]
theorem count_set (t : Tally κ) (j k : κ) (n : Nat) :
    (t.set k n).count j = if j = k then n else t.count j := by
  by_cases h : j = k
  · subst h
    simp [set, count, countIn]
  · have hskip : (t.set k n).count j = (t.clear k).count j := by
      have hk : ¬k = j := fun e => h e.symm
      simp [set, count, countIn, hk]
    rw [hskip, count_clear, if_neg h, if_neg h]

@[simp]
theorem count_increment (t : Tally κ) (j k : κ) :
    (t.increment k).count j = if j = k then t.count j + 1 else t.count j := by
  rw [increment, count_set]
  by_cases h : j = k
  · rw [if_pos h, if_pos h, h]
  · rw [if_neg h, if_neg h]

end Tally

end GatewaySync
