/-!
# Maps with one representation

A `SortedMap` keeps its entries in strictly increasing order of key, so two maps that agree on
every key are equal, and whatever is written from a map does not depend on the order in which its
entries arrived.
-/

namespace GatewaySync

open Std (TransOrd LawfulEqOrd)

/-- Entries in strictly increasing order of key. -/
structure SortedMap (κ : Type u) (α : Type v) [Ord κ] where
  entries : List (κ × α)
  increasing : entries.Pairwise fun a b => compare a.1 b.1 = .lt

namespace SortedMap

variable {κ : Type u} {α : Type v} [Ord κ]

def empty : SortedMap κ α := ⟨[], .nil⟩

instance : Inhabited (SortedMap κ α) := ⟨empty⟩
instance : EmptyCollection (SortedMap κ α) := ⟨empty⟩

instance [DecidableEq κ] [DecidableEq α] : DecidableEq (SortedMap κ α) := fun m n =>
  decidable_of_iff (m.entries = n.entries)
    ⟨fun h => by cases m; cases n; cases h; rfl, fun h => h ▸ rfl⟩

@[ext]
theorem ext_entries {m n : SortedMap κ α} (h : m.entries = n.entries) : m = n := by
  cases m; cases n; cases h; rfl

def toList (m : SortedMap κ α) : List (κ × α) := m.entries
def keys (m : SortedMap κ α) : List κ := m.entries.map Prod.fst
def values (m : SortedMap κ α) : List α := m.entries.map Prod.snd
def size (m : SortedMap κ α) : Nat := m.entries.length
def isEmpty (m : SortedMap κ α) : Bool := m.entries.isEmpty

/-- The value of a key among entries in increasing order. -/
def find? (k : κ) : List (κ × α) → Option α
  | [] => none
  | (k', a) :: rest =>
    match compare k k' with
    | .lt => none
    | .eq => some a
    | .gt => find? k rest

def get? (m : SortedMap κ α) (k : κ) : Option α := find? k m.entries

def contains (m : SortedMap κ α) (k : κ) : Bool := (m.get? k).isSome

/-- Puts an entry at its place, in place of one of the same key. -/
def insertEntry (k : κ) (a : α) : List (κ × α) → List (κ × α)
  | [] => [(k, a)]
  | (k', a') :: rest =>
    match compare k k' with
    | .lt => (k, a) :: (k', a') :: rest
    | .eq => (k, a) :: rest
    | .gt => (k', a') :: insertEntry k a rest

theorem mem_insertEntry {k : κ} {a : α} {l : List (κ × α)} {e : κ × α}
    (h : e ∈ insertEntry k a l) : e = (k, a) ∨ e ∈ l := by
  induction l with
  | nil => simpa [insertEntry] using h
  | cons b rest ih =>
    simp only [insertEntry] at h
    split at h
    · simpa using h
    · rcases List.mem_cons.1 h with h | h
      · exact .inl h
      · exact .inr (List.mem_cons_of_mem _ h)
    · rcases List.mem_cons.1 h with h | h
      · exact .inr (h ▸ List.mem_cons_self)
      · exact (ih h).imp id (List.mem_cons_of_mem _)

theorem pairwise_insertEntry [TransOrd κ] [LawfulEqOrd κ] (k : κ) (a : α) {l : List (κ × α)}
    (h : l.Pairwise fun a b => compare a.1 b.1 = .lt) :
    (insertEntry k a l).Pairwise fun a b => compare a.1 b.1 = .lt := by
  induction l with
  | nil => simp [insertEntry]
  | cons b rest ih =>
    have hb := List.pairwise_cons.1 h
    simp only [insertEntry]
    split
    · rename_i hlt
      refine List.pairwise_cons.2 ⟨fun e he => ?_, h⟩
      rcases List.mem_cons.1 he with rfl | he
      · exact hlt
      · exact Std.TransCmp.lt_trans hlt (hb.1 e he)
    · rename_i heq
      have hk : k = b.1 := Std.LawfulEqCmp.eq_of_compare heq
      exact List.pairwise_cons.2 ⟨fun e he => hk ▸ hb.1 e he, hb.2⟩
    · rename_i hgt
      refine List.pairwise_cons.2 ⟨fun e he => ?_, ih hb.2⟩
      rcases mem_insertEntry he with rfl | he
      · exact Std.OrientedCmp.gt_iff_lt.1 hgt
      · exact hb.1 e he

def insert [TransOrd κ] [LawfulEqOrd κ] (m : SortedMap κ α) (k : κ) (a : α) : SortedMap κ α :=
  ⟨insertEntry k a m.entries, pairwise_insertEntry k a m.increasing⟩

/-- Keeps the entries that satisfy a test. -/
def filter (m : SortedMap κ α) (keep : κ → α → Bool) : SortedMap κ α :=
  ⟨m.entries.filter fun e => keep e.1 e.2, m.increasing.filter _⟩

def erase [BEq κ] (m : SortedMap κ α) (k : κ) : SortedMap κ α :=
  m.filter fun k' _ => k' != k

def mapValues {β : Type w} (m : SortedMap κ α) (f : α → β) : SortedMap κ β :=
  ⟨m.entries.map fun e => (e.1, f e.2),
    List.pairwise_map.2 (m.increasing.imp fun h => h)⟩

/-- Entries taken in order of arrival, a later one in place of an earlier one of the same key. -/
def ofList [TransOrd κ] [LawfulEqOrd κ] (entries : List (κ × α)) : SortedMap κ α :=
  entries.foldl (fun m e => m.insert e.1 e.2) empty

@[simp]
theorem get?_empty (k : κ) : (empty : SortedMap κ α).get? k = none := rfl

theorem find?_insertEntry [TransOrd κ] [LawfulEqOrd κ] [DecidableEq κ] (k k' : κ) (a : α)
    {l : List (κ × α)} (h : l.Pairwise fun a b => compare a.1 b.1 = .lt) :
    find? k' (insertEntry k a l) = if k' = k then some a else find? k' l := by
  induction l with
  | nil =>
    by_cases hk : k' = k
    · subst hk; simp [insertEntry, find?]
    · have : compare k' k ≠ .eq := fun h => hk (Std.LawfulEqCmp.eq_of_compare h)
      simp only [insertEntry, find?, hk, if_false]
      cases hc : compare k' k <;> simp_all
  | cons b rest ih =>
    have hb := List.pairwise_cons.1 h
    have ih := ih hb.2
    simp only [insertEntry]
    split
    · rename_i hlt
      by_cases hk : k' = k
      · subst hk; simp [find?]
      · simp only [find?, hk, if_false]
        cases hc : compare k' k with
        | lt => simp [Std.TransCmp.lt_trans hc hlt]
        | eq => exact absurd (Std.LawfulEqCmp.eq_of_compare hc) hk
        | gt => rfl
    · rename_i heq
      have hkb : k = b.1 := Std.LawfulEqCmp.eq_of_compare heq
      by_cases hk : k' = k
      · subst hk; simp [find?]
      · have hkb' : ¬k' = b.1 := hkb ▸ hk
        simp only [find?, hkb, hkb', if_false]
        cases hc : compare k' b.1 with
        | lt => rfl
        | eq => exact absurd (Std.LawfulEqCmp.eq_of_compare hc) hkb'
        | gt => rfl
    · rename_i hgt
      simp only [find?]
      by_cases hk : k' = k
      · subst hk; simp [hgt, ih]
      · cases hc : compare k' b.1 <;> simp [ih, hk]

@[simp]
theorem get?_insert [TransOrd κ] [LawfulEqOrd κ] [DecidableEq κ] (m : SortedMap κ α) (k k' : κ)
    (a : α) : (m.insert k a).get? k' = if k' = k then some a else m.get? k' :=
  find?_insertEntry k k' a m.increasing

end SortedMap

end GatewaySync
