import GatewaySync.Resource.Metadata
import Mathlib.Data.List.TakeWhile

/-!
# Keys that can be read back

A key is an object's name in its written form.  It is read back as the name
from which it was written if neither part has a slash in it and the name is not
empty, which holds of every object in a namespace.
-/

namespace GatewaySync

namespace NamespacedName

/-- A part of a name that stands between slashes. -/
def IsPlain (part : String) : Prop := part ≠ "" ∧ '/' ∉ part.toList

instance (part : String) : Decidable (IsPlain part) :=
  inferInstanceAs (Decidable (_ ∧ _))

/-- The name can be written and read back. -/
def IsWritable (name : NamespacedName) : Prop := '/' ∉ name.ns.toList ∧ IsPlain name.name

instance (name : NamespacedName) : Decidable name.IsWritable :=
  inferInstanceAs (Decidable (_ ∧ _))

theorem takeWhile_plain {before : List Char} (after : List Char)
    (hbefore : '/' ∉ before) :
    (before ++ '/' :: after).takeWhile (· != '/') = before ∧
      (before ++ '/' :: after).dropWhile (· != '/') = '/' :: after := by
  have hall : ∀ char ∈ before, (char != '/') = true := by
    intro char hchar
    simpa using fun heq : char = '/' => hbefore (heq ▸ hchar)
  rw [List.takeWhile_append_of_pos hall, List.dropWhile_append_of_pos hall]
  simp

/-- A text has no slash, or a first one with something before and behind it. -/
theorem slash_cases (s : String) :
    '/' ∉ s.toList ∨ ∃ before after, '/' ∉ before.toList ∧ s = before ++ "/" ++ after := by
  by_cases hslash : '/' ∈ s.toList
  · obtain ⟨before, after, hsplit, hbefore⟩ := List.eq_append_cons_of_mem hslash
    refine .inr ⟨String.ofList before, String.ofList after, by simpa using hbefore, ?_⟩
    apply String.toList_inj.1
    simp [hsplit, String.toList_append]
  · exact .inl hslash

theorem ofString?_of_notMem {s : String} (hs : '/' ∉ s.toList) :
    ofString? s = if s = "" then none else some ⟨"", s⟩ := by
  have hall : ∀ char ∈ s.toList, (char != '/') = true := by
    intro char hchar
    simpa using fun heq : char = '/' => hs (heq ▸ hchar)
  rw [ofString?, List.takeWhile_eq_self_iff.2 hall, List.dropWhile_eq_nil_iff.2 hall]
  simp

/-- What stands before the first slash is the namespace. -/
theorem ofString?_append {before : String} (hbefore : '/' ∉ before.toList) (after : String) :
    ofString? (before ++ "/" ++ after) =
      if IsPlain after then some ⟨before, after⟩ else none := by
  have htext : (before ++ "/" ++ after).toList = before.toList ++ '/' :: after.toList := by
    simp [String.toList_append]
  obtain ⟨htake, hdrop⟩ := takeWhile_plain after.toList hbefore
  rw [ofString?, htext, htake, hdrop]
  simp [IsPlain, ← not_or, ite_not]

/-- A written path is read back, also where the namespace is empty. -/
theorem ofString?_path {name : NamespacedName} (hns : '/' ∉ name.ns.toList)
    (hname : IsPlain name.name) : ofString? name.path = some name := by
  rw [path, ofString?_append hns, if_pos hname]

/-- Whatever was read can be written and read again. -/
theorem isWritable_of_ofString? {key : String} {name : NamespacedName}
    (hread : ofString? key = some name) : name.IsWritable := by
  obtain hslash | ⟨before, after, hbefore, rfl⟩ := slash_cases key
  · rw [ofString?_of_notMem hslash] at hread
    split at hread
    · cases hread
    · rename_i hne
      obtain rfl := Option.some.inj hread
      exact ⟨List.not_mem_nil, hne, hslash⟩
  · rw [ofString?_append hbefore] at hread
    split at hread
    · rename_i hplain
      obtain rfl := Option.some.inj hread
      exact ⟨hbefore, hplain⟩
    · cases hread

theorem name_ne_of_ofString? {key : String} {name : NamespacedName}
    (hread : ofString? key = some name) : name.name ≠ "" :=
  (isWritable_of_ofString? hread).2.1

/-- A written name is read back, with a namespace around it or without. -/
theorem ofString?_toString {name : NamespacedName} (hname : name.IsWritable) :
    ofString? name.toString = some name := by
  obtain ⟨ns, name⟩ := name
  rw [NamespacedName.toString]
  split
  · rename_i hempty
    obtain rfl : ns = "" := by simpa using hempty
    rw [ofString?_of_notMem hname.2.2, if_neg hname.2.1]
  · exact ofString?_path hname.1 hname.2

/-- The reference of an object in a namespace determines its name. -/
theorem eq_of_ref_eq {name other : NamespacedName}
    (href : (⟨some name.ns, name.name⟩ : ObjectRef) = ⟨some other.ns, other.name⟩) :
    name = other := by
  obtain ⟨ns, displayed⟩ := name
  obtain ⟨ns', displayed'⟩ := other
  obtain ⟨hns, rfl⟩ := ObjectRef.mk.inj href
  obtain rfl := Option.some.inj hns
  rfl

end NamespacedName

open NamespacedName

namespace Metadata

/-- The object is in a namespace, and its key can be read back. -/
def IsLegible (m : Metadata) : Prop :=
  ∃ ns name, m.ns = some ns ∧ m.name = some name ∧ IsPlain ns ∧ IsPlain name

variable {m : Metadata}

theorem IsLegible.ofString?_key (hm : m.IsLegible) :
    NamespacedName.ofString? m.key.toString = some m.key := by
  obtain ⟨ns, name, hns, hname, hplain, hplain'⟩ := hm
  have hkey : m.key = ⟨ns, name⟩ := by
    simp [key, nsOrEmpty, displayName, hns, hname]
  rw [hkey]
  exact NamespacedName.ofString?_toString ⟨hplain.2, hplain'⟩

theorem IsLegible.ref_eq (hm : m.IsLegible) : m.ref = ⟨some m.key.ns, m.key.name⟩ := by
  obtain ⟨ns, name, hns, hname, -, -⟩ := hm
  simp [ref, key, nsOrEmpty, displayName, hns, hname]

/-- Objects of different keys have different paths. -/
theorem IsLegible.path_inj {m' : Metadata} (hm : m.IsLegible) (hm' : m'.IsLegible)
    (hpath : m.key.path = m'.key.path) : m.key = m'.key := by
  obtain ⟨ns, name, hns, hname, hplain, hplain'⟩ := hm
  obtain ⟨ns', name', hns', hname', hslash, hslash'⟩ := hm'
  have hkey : m.key = ⟨ns, name⟩ := by
    simp [key, nsOrEmpty, displayName, hns, hname]
  have hkey' : m'.key = ⟨ns', name'⟩ := by
    simp [key, nsOrEmpty, displayName, hns', hname']
  rw [hkey, hkey'] at hpath ⊢
  have hread : NamespacedName.ofString? (NamespacedName.path ⟨ns, name⟩) =
      some ⟨ns, name⟩ := NamespacedName.ofString?_path hplain.2 hplain'
  have hread' : NamespacedName.ofString? (NamespacedName.path ⟨ns', name'⟩) =
      some ⟨ns', name'⟩ := NamespacedName.ofString?_path hslash.2 hslash'
  rw [hpath, hread'] at hread
  exact (Option.some.inj hread).symm

/-- The key and the reference of an object stand for each other. -/
theorem IsLegible.ref_eq_iff (hm : m.IsLegible) {name : NamespacedName} :
    m.ref = ⟨some name.ns, name.name⟩ ↔ m.key = name := by
  rw [hm.ref_eq]
  constructor
  · exact eq_of_ref_eq
  · rintro rfl
    rfl

end Metadata

end GatewaySync
