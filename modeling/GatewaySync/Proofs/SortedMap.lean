import GatewaySync.SortedMap
import Mathlib.Data.Finset.Card

/-!
# Sorted maps as finite functions

A sorted map is determined by what it answers for every key.  The lemmas here
tie `get?` to the entries, to the operations that the caches and the document
use, and to maps that are filled from a list, where the order of arrival does
not matter as long as no key arrives twice.
-/

namespace GatewaySync.SortedMap

open Std (TransOrd LawfulEqOrd)

variable {κ : Type u} {α : Type v} [Ord κ] [TransOrd κ] [LawfulEqOrd κ]

omit [LawfulEqOrd κ] in
theorem ne_of_compare_lt {left right : κ} (hlt : compare left right = .lt) :
    left ≠ right := by
  rintro rfl
  have heq : compare left left = .eq := Std.ReflOrd.compare_self
  rw [heq] at hlt
  cases hlt

omit [LawfulEqOrd κ] in
theorem ne_of_compare_gt {left right : κ} (hgt : compare left right = .gt) :
    left ≠ right :=
  (ne_of_compare_lt (Std.OrientedCmp.gt_iff_lt.1 hgt)).symm

theorem find?_eq_some_iff {k : κ} {a : α} {l : List (κ × α)}
    (hl : l.Pairwise fun a b => compare a.1 b.1 = .lt) :
    find? k l = some a ↔ (k, a) ∈ l := by
  induction l with
  | nil => simp [find?]
  | cons entry rest ih =>
      obtain ⟨k', a'⟩ := entry
      obtain ⟨hhead, hrest⟩ := List.pairwise_cons.1 hl
      rw [find?, List.mem_cons]
      cases hcompare : compare k k' with
      | lt =>
          have hne : ¬k = k' := ne_of_compare_lt hcompare
          have hnotMem : (k, a) ∉ rest := fun hmem =>
            ne_of_compare_lt (Std.TransCmp.lt_trans hcompare (hhead _ hmem)) rfl
          simp [hne, hnotMem]
      | eq =>
          obtain rfl := Std.LawfulEqCmp.eq_of_compare hcompare
          have hnotMem : (k, a) ∉ rest := fun hmem =>
            ne_of_compare_lt (hhead _ hmem) rfl
          simp [hnotMem, eq_comm]
      | gt =>
          have hne : ¬k = k' := ne_of_compare_gt hcompare
          simp [hne, ih hrest]

theorem get?_eq_some_iff {m : SortedMap κ α} {k : κ} {a : α} :
    m.get? k = some a ↔ (k, a) ∈ m.toList :=
  find?_eq_some_iff m.increasing

/-- There is at most one entry of a key. -/
theorem filter_fst_eq [DecidableEq κ] (m : SortedMap κ α) (k : κ) :
    (m.toList.filter fun entry => entry.1 = k) = (m.get? k).toList.map (Prod.mk k) := by
  have hfind : ∀ {l : List (κ × α)}, (l.Pairwise fun a b => compare a.1 b.1 = .lt) →
      (l.filter fun entry => entry.1 = k) = (find? k l).toList.map (Prod.mk k) := by
    intro l hl
    induction l with
    | nil => rfl
    | cons entry rest ih =>
        obtain ⟨hhead, hrest⟩ := List.pairwise_cons.1 hl
        have hnone : compare k entry.1 ≠ .gt → (rest.filter fun other => other.1 = k) = [] := by
          intro hle
          simp only [List.filter_eq_nil_iff, decide_eq_true_eq]
          rintro other hother rfl
          exact hle (Std.OrientedCmp.gt_iff_lt.2 (hhead other hother))
        rw [find?, List.filter_cons]
        cases hcompare : compare k entry.1 with
        | lt =>
            have hne : ¬entry.1 = k := (ne_of_compare_lt hcompare).symm
            simp [hne, hnone (by simp [hcompare])]
        | eq =>
            obtain rfl := Std.LawfulEqCmp.eq_of_compare hcompare
            simp [hnone (by simp)]
        | gt =>
            have hne : ¬entry.1 = k := (ne_of_compare_gt hcompare).symm
            simp [hne, ih hrest]
  exact hfind m.increasing

theorem get?_eq_none_iff {m : SortedMap κ α} {k : κ} :
    m.get? k = none ↔ ∀ a, (k, a) ∉ m.toList := by
  rw [Option.eq_none_iff_forall_ne_some]
  exact forall_congr' fun a => not_congr get?_eq_some_iff

omit [LawfulEqOrd κ] in
theorem nodup_keys (m : SortedMap κ α) : m.keys.Nodup :=
  List.pairwise_map.2 (m.increasing.imp ne_of_compare_lt)

omit [LawfulEqOrd κ] in
theorem nodup_toList (m : SortedMap κ α) : m.toList.Nodup :=
  List.Nodup.of_map Prod.fst m.nodup_keys

theorem mem_values_iff {m : SortedMap κ α} {a : α} :
    a ∈ m.values ↔ ∃ k, m.get? k = some a := by
  simp only [get?_eq_some_iff, values, toList, List.mem_map]
  constructor
  · rintro ⟨entry, hentry, rfl⟩
    exact ⟨entry.1, hentry⟩
  · rintro ⟨k, hmem⟩
    exact ⟨(k, a), hmem, rfl⟩

/-- Maps that answer alike are equal. -/
theorem ext_get? {m n : SortedMap κ α} (h : ∀ k, m.get? k = n.get? k) : m = n := by
  apply ext_entries
  have hperm : m.toList.Perm n.toList := by
    rw [List.perm_ext_iff_of_nodup m.nodup_toList n.nodup_toList]
    rintro ⟨k, a⟩
    exact get?_eq_some_iff.symm.trans ((by rw [h k]) : m.get? k = some a ↔ _)
      |>.trans get?_eq_some_iff
  refine hperm.eq_of_pairwise ?_ m.increasing n.increasing
  intro left right _ _ hlt hgt
  exact absurd rfl (ne_of_compare_lt (Std.TransCmp.lt_trans hlt hgt))

section Lookup

variable [DecidableEq κ]

@[simp]
theorem get?_erase (m : SortedMap κ α) (k k' : κ) :
    (m.erase k).get? k' = if k' = k then none else m.get? k' := by
  apply Option.ext
  intro a
  rw [get?_eq_some_iff]
  change (k', a) ∈ m.entries.filter _ ↔ _
  rw [List.mem_filter]
  by_cases hk : k' = k
  · simp [hk]
  · rw [if_neg hk, get?_eq_some_iff]
    simp [hk, toList]

omit [DecidableEq κ] in
/-- What the values of a map come to does not change when one is replaced by
another that comes to the same. -/
theorem map_values_insert {β : Type w} {m : SortedMap κ α} {k : κ} {a old : α}
    (f : α → β) (hold : m.get? k = some old) (hsame : f a = f old) :
    (m.insert k a).values.map f = m.values.map f := by
  have hentries : ∀ {l : List (κ × α)}, find? k l = some old →
      (insertEntry k a l).map (fun entry => f entry.2) = l.map fun entry => f entry.2 := by
    intro l hfind
    induction l with
    | nil => cases hfind
    | cons entry rest ih =>
        obtain ⟨k', a'⟩ := entry
        rw [find?] at hfind
        rw [insertEntry]
        cases hcompare : compare k k' with
        | lt =>
            rw [hcompare] at hfind
            cases hfind
        | eq =>
            rw [hcompare] at hfind
            obtain rfl := Option.some.inj hfind
            rw [List.map_cons, List.map_cons, hsame]
        | gt =>
            rw [hcompare] at hfind
            rw [List.map_cons, List.map_cons, ih hfind]
  rw [values, values, List.map_map, List.map_map]
  exact hentries hold

/-- The same holds of the value under any one key. -/
theorem map_get?_insert {β : Type w} {m : SortedMap κ α} {k : κ} {a old : α}
    (f : α → β) (hold : m.get? k = some old) (hsame : f a = f old) (k' : κ) :
    ((m.insert k a).get? k').map f = (m.get? k').map f := by
  rw [get?_insert]
  split
  case isTrue hk => rw [hk, hold, Option.map_some, Option.map_some, hsame]
  case isFalse => rfl

omit [DecidableEq κ] in
theorem ofList_append_singleton (entries : List (κ × α)) (k : κ) (a : α) :
    ofList (entries ++ [(k, a)]) = (ofList entries).insert k a := by
  rw [ofList, List.foldl_append]
  rfl

/-- Of several entries of one key the last one stands. -/
theorem get?_ofList (entries : List (κ × α)) (k : κ) :
    (ofList entries).get? k =
      (entries.reverse.find? fun entry => entry.1 = k).map Prod.snd := by
  induction entries using List.reverseRecOn with
  | nil => rfl
  | append_singleton entries entry ih =>
      rw [ofList_append_singleton, get?_insert, List.reverse_append]
      by_cases hk : k = entry.1
      · simp [hk]
      · have hk' : ¬entry.1 = k := fun heq => hk heq.symm
        simp [hk, hk', ih]

theorem get?_ofList_eq_some_iff {entries : List (κ × α)}
    (hkeys : (entries.map Prod.fst).Nodup) {k : κ} {a : α} :
    (ofList entries).get? k = some a ↔ (k, a) ∈ entries := by
  rw [get?_ofList, Option.map_eq_some_iff]
  constructor
  · rintro ⟨entry, hfind, rfl⟩
    have hkey : entry.1 = k := by simpa using List.find?_some hfind
    have hmem := List.mem_reverse.1 (List.mem_of_find?_eq_some hfind)
    exact hkey ▸ hmem
  · intro hmem
    cases hfind : entries.reverse.find? fun entry => decide (entry.1 = k) with
    | none =>
        have hnone := List.find?_eq_none.1 hfind (k, a) (List.mem_reverse.2 hmem)
        simp at hnone
    | some entry =>
        have hkey : entry.1 = k := by simpa using List.find?_some hfind
        have hentry := List.mem_reverse.1 (List.mem_of_find?_eq_some hfind)
        have heq : entry = (k, a) :=
          List.inj_on_of_nodup_map hkeys hentry hmem hkey
        exact ⟨entry, rfl, by rw [heq]⟩

/-- A map is filled anew from its own entries. -/
theorem ofList_toList (m : SortedMap κ α) : ofList m.toList = m := by
  apply ext_get?
  intro k
  apply Option.ext
  intro a
  exact (get?_ofList_eq_some_iff m.nodup_keys).trans get?_eq_some_iff.symm

/-- Entries of distinct keys may arrive in any order. -/
theorem ofList_eq_of_perm {entries entries' : List (κ × α)}
    (hkeys : (entries.map Prod.fst).Nodup) (hperm : entries.Perm entries') :
    ofList entries = ofList entries' := by
  have hkeys' : (entries'.map Prod.fst).Nodup :=
    (hperm.map Prod.fst).nodup_iff.1 hkeys
  apply ext_get?
  intro k
  apply Option.ext
  intro a
  rw [get?_ofList_eq_some_iff hkeys, get?_ofList_eq_some_iff hkeys',
    hperm.mem_iff]

/-- The keys of a map filled from a list are those of the list. -/
theorem mem_keys_ofList_iff {entries : List (κ × α)} {k : κ} :
    k ∈ (ofList entries).keys ↔ k ∈ entries.map Prod.fst := by
  have hkeys : k ∈ (ofList entries).keys ↔ (ofList entries).get? k ≠ none := by
    simp only [ne_eq, get?_eq_none_iff, not_forall, not_not, keys, toList,
      List.mem_map]
    constructor
    · rintro ⟨entry, hentry, rfl⟩
      exact ⟨entry.2, hentry⟩
    · rintro ⟨a, hmem⟩
      exact ⟨(k, a), hmem, rfl⟩
  rw [hkeys, get?_ofList]
  simp [List.find?_eq_none]

/-- No entry is lost exactly when no key arrives twice. -/
theorem size_ofList_eq_iff {entries : List (κ × α)} :
    (ofList entries).size = entries.length ↔ (entries.map Prod.fst).Nodup := by
  have hsize : (ofList entries).size = (entries.map Prod.fst).toFinset.card := by
    have hfinset : (ofList entries).keys.toFinset = (entries.map Prod.fst).toFinset := by
      ext k
      rw [List.mem_toFinset, List.mem_toFinset, mem_keys_ofList_iff]
    rw [← hfinset, List.toFinset_card_of_nodup (nodup_keys _)]
    exact (List.length_map _).symm
  have hlength : entries.length = (entries.map Prod.fst).length :=
    (List.length_map _).symm
  rw [hsize, hlength, List.card_toFinset]
  constructor
  · intro hdedup
    rw [← List.dedup_eq_self]
    exact (List.dedup_sublist _).eq_of_length hdedup
  · intro hkeys
    rw [List.dedup_eq_self.2 hkeys]

end Lookup

end GatewaySync.SortedMap
