import GatewaySync.Cluster
import GatewaySync.Proofs.ObjectNames
import GatewaySync.Proofs.SortedMap

/-!
# No change of a cache goes untold

A watch is well formed if objects can be told apart by their names and by their
versions, and if single changes are not reported in the middle of a listing.
Then whatever differs in the cache after a report is among the changes that the
informer tells, and a new object that shows up under a version of its own is
always told.
-/

namespace GatewaySync

section

variable {α : Type} [Cached α]

/-- A version as the server gives it out. -/
def Cached.versionText (n : Nat) : String := String.ofList (Text.Decimal.ofNat n)

theorem Cached.versionText_inj {n m : Nat} (heq : versionText n = versionText m) : n = m := by
  have hdigits : Text.Decimal.ofNat n = Text.Decimal.ofNat m := by
    simpa [versionText] using congrArg String.toList heq
  have hread := Text.Decimal.natOf?_ofNat n
  rw [hdigits, Text.Decimal.natOf?_ofNat] at hread
  exact (Option.some.inj hread).symm

/-- The object has a readable key and no version beyond the given one. -/
structure Cached.IsFit (version : Nat) (a : α) : Prop where
  legible : (Cached.metadata a).IsLegible
  issued : ∀ n, Cached.version? a = some (Cached.versionText n) → n ≤ version

theorem Cached.IsFit.mono {version version' : Nat} {a : α}
    (ha : Cached.IsFit version a) (hle : version ≤ version') : Cached.IsFit version' a :=
  ⟨ha.legible, fun n hn => (ha.issued n hn).trans hle⟩

@[simp]
theorem Cached.version?_atVersion (a : α) (version : String) :
    Cached.version? (Cached.atVersion a version) = some version := by
  rw [Cached.version?, Cached.atVersion, Cached.metadata_setMetadata]

@[simp]
theorem Cached.ref_atVersion (a : α) (version : String) :
    Cached.ref (Cached.atVersion a version) = Cached.ref a := by
  rw [Cached.ref, Cached.atVersion, Cached.metadata_setMetadata]
  rfl

@[simp]
theorem Cached.key_atVersion (a : α) (version : String) :
    Cached.key (Cached.atVersion a version) = Cached.key a := by
  rw [Cached.key, Cached.atVersion, Cached.metadata_setMetadata]
  rfl

/-- The version that a taken write is given has not been seen before. -/
theorem Cached.IsFit.version_ne {version : Nat} {old : α} (hold : Cached.IsFit version old)
    (a : α) : Cached.version? old ≠
      Cached.version? (Cached.atVersion a (Cached.versionText (version + 1))) := by
  rw [Cached.version?_atVersion]
  intro heq
  exact absurd (hold.issued (version + 1) heq) (by omega)

theorem Cached.isFit_atVersion {a : α} (ha : (Cached.metadata a).IsLegible) (version : Nat) :
    Cached.IsFit version (Cached.atVersion a (Cached.versionText version)) where
  legible := by
    rw [Cached.atVersion, Cached.metadata_setMetadata]
    exact ha
  issued n hn := by
    rw [Cached.version?_atVersion] at hn
    exact (Cached.versionText_inj (Option.some.inj hn)).ge

omit [Cached α] in
theorem Store.mem_values_of_find? {store : Store α} {ref : ObjectRef} {a : α}
    (hfind : store.find? ref = some a) : a ∈ store.values := by
  rw [Store.find?] at hfind
  cases hget : store.get? ref with
  | none =>
      rw [hget] at hfind
      exact SortedMap.mem_values_iff.2 ⟨_, hfind⟩
  | some b =>
      rw [hget] at hfind
      exact SortedMap.mem_values_iff.2 ⟨ref, hget.trans hfind⟩

namespace Informer

/-- The object is the cached one if it comes at the version of the cached one. -/
def Agrees (i : Informer α) (a : α) : Prop :=
  ∀ old, i.store.get? (Cached.ref a) = some old → (Cached.version? old).isSome →
    Cached.version? old = Cached.version? a → old = a

theorem agrees_of_absent {i : Informer α} {a : α} (habsent : i.store.get? (Cached.ref a) = none) :
    i.Agrees a := by
  intro old hget
  rw [habsent] at hget
  cases hget

/-- The reports that a watch can bring next.  Listings may be given up and
started anew at any time. -/
def Admits (i : Informer α) (version : Nat) : WatchEvent α → Prop
  | .apply a => i.seen = none ∧ Cached.IsFit version a ∧ i.Agrees a
  | .delete a => i.seen = none ∧ (Cached.metadata a).IsLegible
  | .listStart => True
  | .listItem a => i.seen ≠ none ∧ Cached.IsFit version a ∧ i.Agrees a
  | .listEnd => i.seen ≠ none

/-- A change that is told about the object of a reference. -/
def Tells (changes : List (Change α)) (ref : ObjectRef) (gone : Bool) : Prop :=
  ∃ change ∈ changes, Cached.ref change.object = ref ∧
    (Cached.metadata change.object).IsLegible ∧ (gone → change.isDelete)

/-- Objects are filed under their references, and an open listing differs from
the cache only where a change is held back. -/
structure Sound (i : Informer α) (version : Nat) : Prop where
  filed : ∀ ref a, i.store.get? ref = some a →
    Cached.ref a = ref ∧ Cached.IsFit version a
  listed : ∀ ref a, i.listing.get? ref = some a →
    Cached.ref a = ref ∧ Cached.IsFit version a
  seen : ∀ refs, i.seen = some refs → ∀ ref, ref ∈ refs ↔ i.listing.get? ref ≠ none
  told : i.seen ≠ none → ∀ ref a, i.listing.get? ref = some a →
    i.store.get? ref = some a ∨ Tells i.held ref false

theorem Sound.mono {i : Informer α} {version version' : Nat} (hi : i.Sound version)
    (hle : version ≤ version') : i.Sound version' where
  filed ref a hget := ⟨(hi.filed ref a hget).1, (hi.filed ref a hget).2.mono hle⟩
  listed ref a hget := ⟨(hi.listed ref a hget).1, (hi.listed ref a hget).2.mono hle⟩
  seen := hi.seen
  told := hi.told

theorem sound_empty (version : Nat) : Sound (α := α) {} version where
  filed ref a hget := by cases hget
  listed ref a hget := by cases hget
  seen refs hseen := by cases hseen
  told hseen := absurd rfl hseen

variable {i : Informer α} {version : Nat}

/-- In a cache of legible objects only the reference itself is looked up. -/
theorem Sound.find?_eq (hi : i.Sound version) (ns name : String) :
    Store.find? i.store ⟨some ns, name⟩ = i.store.get? ⟨some ns, name⟩ := by
  have hnone : i.store.get? ⟨none, name⟩ = none := by
    rw [Option.eq_none_iff_forall_ne_some]
    intro a hget
    obtain ⟨href, hfit⟩ := hi.filed _ a hget
    obtain ⟨ns, name, hns, -⟩ := hfit.legible
    rw [Cached.ref, Metadata.ref, hns] at href
    cases href
  rw [Store.find?, hnone, Option.or_none]

/-- What a name stands for is filed under its own reference. -/
theorem Sound.get?_of_lookup (hi : i.Sound version) {name : NamespacedName} {a : α}
    (hfound : i.lookup name = some a) :
    i.store.get? (Cached.ref a) = some a ∧ Cached.key a = name := by
  rw [lookup, hi.find?_eq] at hfound
  obtain ⟨href, hfit⟩ := hi.filed _ a hfound
  exact ⟨href ▸ hfound, hfit.legible.ref_eq_iff.1 href⟩

theorem Sound.compare_eq (hi : i.Sound version) {a : α}
    (ha : (Cached.metadata a).IsLegible) :
    compare i.store a =
      match i.store.get? (Cached.ref a) with
      | none => some (.added a)
      | some old =>
        if (Cached.version? old).isSome ∧ Cached.version? old = Cached.version? a then none
        else some (.updated old a) := by
  have hfind : Store.find? i.store (Cached.ref a) = i.store.get? (Cached.ref a) := by
    rw [show Cached.ref a = ⟨some (Cached.metadata a).key.ns, _⟩ from ha.ref_eq, hi.find?_eq]
  cases hget : i.store.get? (Cached.ref a) with
  | none => simp only [compare, hfind, hget]
  | some old => simp only [compare, hfind, hget]

/-- An object that is no change is the cached one. -/
theorem Sound.get?_or_tells (hi : i.Sound version) {a : α}
    (ha : (Cached.metadata a).IsLegible) (hagrees : i.Agrees a) :
    i.store.get? (Cached.ref a) = some a ∨
      Tells (compare i.store a).toList (Cached.ref a) false := by
  rw [hi.compare_eq ha]
  cases hget : i.store.get? (Cached.ref a) with
  | none => exact .inr ⟨_, List.mem_singleton_self _, rfl, ha, by simp⟩
  | some old =>
      dsimp only
      split
      · rename_i hversion
        exact .inl (congrArg some (hagrees old hget hversion.1 hversion.2))
      · exact .inr ⟨_, List.mem_singleton_self _, rfl, ha, by simp⟩

/-- An object whose version is not the cached one is told. -/
theorem Sound.tells_of_version_ne (hi : i.Sound version) {a : α}
    (ha : (Cached.metadata a).IsLegible)
    (hne : ∀ old, i.store.get? (Cached.ref a) = some old →
      Cached.version? old ≠ Cached.version? a) :
    Tells (i.step (.apply a)).2 (Cached.ref a) false := by
  change Tells (compare i.store a).toList _ _
  rw [hi.compare_eq ha]
  cases hget : i.store.get? (Cached.ref a) with
  | none => exact ⟨_, List.mem_singleton_self _, rfl, ha, by simp⟩
  | some old =>
      dsimp only
      rw [if_neg fun hversion => hne old hget hversion.2]
      exact ⟨_, List.mem_singleton_self _, rfl, ha, by simp⟩

theorem Tells.append_left {changes : List (Change α)} {ref : ObjectRef} {gone : Bool}
    (htells : Tells changes ref gone) (more : List (Change α)) :
    Tells (changes ++ more) ref gone := by
  obtain ⟨change, hmem, hchange⟩ := htells
  exact ⟨change, List.mem_append_left _ hmem, hchange⟩

theorem Tells.append_right {changes : List (Change α)} {ref : ObjectRef} {gone : Bool}
    (htells : Tells changes ref gone) (more : List (Change α)) :
    Tells (more ++ changes) ref gone := by
  obtain ⟨change, hmem, hchange⟩ := htells
  exact ⟨change, List.mem_append_right _ hmem, hchange⟩

/-- Whatever a listing did not bring is told to be gone. -/
theorem Sound.tells_vanished (hi : i.Sound version) {refs : List ObjectRef}
    {ref : ObjectRef} {a : α} (hget : i.store.get? ref = some a) (hseen : ref ∉ refs) :
    Tells (vanished i.store refs) ref true := by
  obtain ⟨href, hfit⟩ := hi.filed ref a hget
  refine ⟨.deleted a, ?_, href, hfit.legible, fun _ => rfl⟩
  refine List.mem_map.2 ⟨(ref, a), ?_, rfl⟩
  exact List.mem_filter.2 ⟨SortedMap.get?_eq_some_iff.1 hget, by simpa using hseen⟩

/-- Where the cache differs after a report, a change is told, and a deletion if
the object is gone. -/
theorem Sound.step_tells (hi : i.Sound version) {e : WatchEvent α}
    (hadmits : i.Admits version e) (ref : ObjectRef) :
    (i.step e).1.store.get? ref = i.store.get? ref ∨
      Tells (i.step e).2 ref ((i.step e).1.store.get? ref).isNone := by
  cases e with
  | listStart | listItem => exact .inl rfl
  | apply a =>
      obtain ⟨-, ha, hagrees⟩ := hadmits
      have hstore : (i.step (.apply a)).1.store.get? ref =
          if ref = Cached.ref a then some a else i.store.get? ref :=
        SortedMap.get?_insert _ _ _ _
      by_cases href : ref = Cached.ref a
      · subst href
        rw [hstore, if_pos rfl]
        exact (hi.get?_or_tells ha.legible hagrees).imp Eq.symm id
      · rw [hstore, if_neg href]
        exact .inl rfl
  | delete a =>
      obtain ⟨-, ha⟩ := hadmits
      have hstore : (i.step (.delete a)).1.store.get? ref =
          if ref = Cached.ref a then none else i.store.get? ref :=
        SortedMap.get?_erase _ _ _
      by_cases href : ref = Cached.ref a
      · subst href
        exact .inr ⟨.deleted a, List.mem_singleton_self _, rfl, ha, fun _ => rfl⟩
      · rw [hstore, if_neg href]
        exact .inl rfl
  | listEnd =>
      change i.listing.get? ref = i.store.get? ref ∨ Tells (i.held ++ _) ref
        (i.listing.get? ref).isNone
      cases hseen : i.seen with
      | none => exact absurd hseen hadmits
      | some refs =>
          cases hlisted : i.listing.get? ref with
          | some a =>
              apply (hi.told hadmits ref a hlisted).imp Eq.symm
              intro htells
              exact htells.append_left _
          | none =>
              cases hget : i.store.get? ref with
              | none => exact .inl rfl
              | some a =>
                  have hmissed : ref ∉ refs := by
                    rw [hi.seen refs hseen, not_not]
                    exact hlisted
                  exact .inr ((hi.tells_vanished hget hmissed).append_right _)

theorem Sound.step_apply (hi : i.Sound version) {a : α}
    (hadmits : i.Admits version (.apply a)) : (i.step (.apply a)).1.Sound version := by
  obtain ⟨hseen, ha, -⟩ := hadmits
  refine ⟨?_, hi.listed, hi.seen, fun hne => absurd hseen hne⟩
  intro ref b hget
  change (i.store.insert (Cached.ref a) a).get? ref = some b at hget
  rw [SortedMap.get?_insert] at hget
  split at hget
  · rename_i href
    obtain rfl := Option.some.inj hget
    exact ⟨href.symm, ha⟩
  · exact hi.filed ref b hget

theorem Sound.step_delete (hi : i.Sound version) {a : α}
    (hadmits : i.Admits version (.delete a)) : (i.step (.delete a)).1.Sound version := by
  obtain ⟨hseen, -⟩ := hadmits
  refine ⟨?_, hi.listed, hi.seen, fun hne => absurd hseen hne⟩
  intro ref b hget
  change (i.store.erase (Cached.ref a)).get? ref = some b at hget
  rw [SortedMap.get?_erase] at hget
  split at hget
  · cases hget
  · exact hi.filed ref b hget

/-- An object of a listing is the cached one, or its change is held back. -/
theorem Sound.step_listItem (hi : i.Sound version) {a : α}
    (hadmits : i.Admits version (.listItem a)) :
    (i.step (.listItem a)).1.Sound version := by
  obtain ⟨hseen, ha, hagrees⟩ := hadmits
  have hlisting : ∀ ref, (i.step (.listItem a)).1.listing.get? ref =
      if ref = Cached.ref a then some a else i.listing.get? ref :=
    fun ref => SortedMap.get?_insert _ _ _ _
  refine ⟨hi.filed, ?_, ?_, ?_⟩
  · intro ref b hget
    rw [hlisting] at hget
    split at hget
    · rename_i href
      obtain rfl := Option.some.inj hget
      exact ⟨href.symm, ha⟩
    · exact hi.listed ref b hget
  · intro refs hrefs ref
    obtain ⟨refs', hrefs', rfl⟩ := Option.map_eq_some_iff.1 hrefs
    rw [hlisting, List.mem_cons, hi.seen refs' hrefs']
    by_cases href : ref = Cached.ref a
    · simp [href]
    · simp [href]
  · intro _ ref b hget
    rw [hlisting] at hget
    split at hget
    · rename_i href
      obtain rfl := Option.some.inj hget
      subst href
      apply (hi.get?_or_tells ha.legible hagrees).imp id
      intro htells
      exact htells.append_right _
    · exact (hi.told hseen ref b hget).imp id fun htells => htells.append_left _

theorem Sound.step (hi : i.Sound version) {e : WatchEvent α}
    (hadmits : i.Admits version e) : (i.step e).1.Sound version := by
  cases e with
  | apply a => exact hi.step_apply hadmits
  | delete a => exact hi.step_delete hadmits
  | listItem a => exact hi.step_listItem hadmits
  | listStart =>
      refine ⟨hi.filed, ?_, ?_, ?_⟩
      · intro ref b hget
        cases hget
      · intro refs hseen ref
        obtain rfl := Option.some.inj hseen
        simp [Informer.step]
      · intro _ ref b hget
        cases hget
  | listEnd =>
      refine ⟨hi.listed, ?_, ?_, ?_⟩
      · intro ref b hget
        cases hget
      · intro refs hrefs
        cases hrefs
      · intro hne
        exact absurd rfl hne

end Informer

end

end GatewaySync
