import GatewaySync.Pass
import GatewaySync.Proofs.ObjectNames
import GatewaySync.Proofs.Renaming
import Mathlib.Data.List.DropRight

/-!
# Written names stand for names

A text is a written name if it has at most one slash and something behind it.
Reading it and writing it again drops no more than a slash at its beginning, and
a name that can be written is read back as it was.  So no two names are written
alike, and a queue over written names is the queue over the names.
-/

namespace GatewaySync

namespace NamespacedName

/-- What stands behind the last slash of a text, which is all of it if it has none. -/
def lastPart (s : String) : List Char := s.toList.rtakeWhile (· != '/')

/-- At most one slash, and something behind it. -/
def IsWritten (s : String) : Prop := s.toList.count '/' ≤ 1 ∧ lastPart s ≠ []

instance (s : String) : Decidable (IsWritten s) :=
  inferInstanceAs (Decidable (_ ∧ _))

/-- The text without the slash at its beginning, if it has one there. -/
def withoutLeadingSlash (s : String) : String :=
  match s.toList with
  | '/' :: rest => String.ofList rest
  | _ => s

variable {s before after : String}

/-! ## Which texts are read -/

theorem lastPart_of_notMem (hs : '/' ∉ s.toList) : lastPart s = s.toList := by
  apply List.rtakeWhile_eq_self_iff.2
  intro char hchar
  simpa using fun heq : char = '/' => hs (heq ▸ hchar)

theorem lastPart_append (hafter : '/' ∉ after.toList) :
    lastPart (before ++ "/" ++ after) = after.toList := by
  have hreverse : '/' ∉ after.toList.reverse := by simpa using hafter
  have htext : (before ++ "/" ++ after).toList.reverse =
      after.toList.reverse ++ '/' :: before.toList.reverse := by
    simp [String.toList_append]
  rw [lastPart, List.rtakeWhile, htext, (takeWhile_plain before.toList.reverse hreverse).1,
    List.reverse_reverse]

theorem isWritten_iff_of_notMem (hs : '/' ∉ s.toList) : IsWritten s ↔ s ≠ "" := by
  rw [IsWritten, lastPart_of_notMem hs, List.count_eq_zero.2 hs]
  simp

theorem isWritten_append_iff (hbefore : '/' ∉ before.toList) :
    IsWritten (before ++ "/" ++ after) ↔ IsPlain after := by
  have hcount : (before ++ "/" ++ after).toList.count '/' = after.toList.count '/' + 1 := by
    simp [String.toList_append, List.count_eq_zero.2 hbefore]
  have hfew : after.toList.count '/' + 1 ≤ 1 ↔ '/' ∉ after.toList := by
    rw [← List.count_eq_zero]
    omega
  rw [IsWritten, IsPlain, hcount, hfew, and_comm]
  apply and_congr_left
  intro hafter
  rw [lastPart_append hafter]
  simp

/-- Exactly the written names are read. -/
theorem exists_ofString?_iff (s : String) :
    (∃ name, ofString? s = some name) ↔ IsWritten s := by
  obtain hslash | ⟨before, after, hbefore, rfl⟩ := slash_cases s
  · rw [isWritten_iff_of_notMem hslash, ofString?_of_notMem hslash]
    split <;> simp_all
  · rw [isWritten_append_iff hbefore, ofString?_append hbefore]
    split <;> simp_all

/-! ## How they are written again -/

theorem withoutLeadingSlash_of_notMem (hs : '/' ∉ s.toList) : withoutLeadingSlash s = s := by
  rw [withoutLeadingSlash]
  split
  · rename_i rest htext
    exact absurd (htext ▸ List.mem_cons_self) hs
  · rfl

theorem withoutLeadingSlash_append (hbefore : '/' ∉ before.toList) :
    withoutLeadingSlash (before ++ "/" ++ after) = toString ⟨before, after⟩ := by
  have htext : (before ++ "/" ++ after).toList = before.toList ++ '/' :: after.toList := by
    simp [String.toList_append]
  rw [withoutLeadingSlash, htext, toString]
  cases hchars : before.toList with
  | nil =>
      obtain rfl : before = "" := String.toList_inj.1 hchars
      simp
  | cons first rest =>
      have hfirst : first ≠ '/' := by
        rintro rfl
        exact hbefore (hchars ▸ List.mem_cons_self)
      have hempty : before.isEmpty = false := by
        rw [Bool.eq_false_iff]
        intro hempty
        simp_all
      simp [hfirst, hempty]

/-- A name is written as the text from which it was read, but for a slash at its beginning. -/
theorem toString_of_ofString? {name : NamespacedName} (hread : ofString? s = some name) :
    name.toString = withoutLeadingSlash s := by
  obtain hslash | ⟨before, after, hbefore, rfl⟩ := slash_cases s
  · rw [withoutLeadingSlash_of_notMem hslash]
    rw [ofString?_of_notMem hslash] at hread
    split at hread
    · cases hread
    · obtain rfl := Option.some.inj hread
      rfl
  · rw [withoutLeadingSlash_append hbefore]
    rw [ofString?_append hbefore] at hread
    split at hread
    · obtain rfl := Option.some.inj hread
      rfl
    · cases hread

/-! ## Queues over written names -/

/-- The names that can be written and read back. -/
abbrev Writable := { name : NamespacedName // name.IsWritable }

def Writable.written (name : Writable) : String := name.1.toString

theorem Writable.written_injective : written.Injective := by
  intro name other hwritten
  have hname : ofString? name.written = some name.1 := ofString?_toString name.2
  have hother : ofString? other.written = some other.1 := ofString?_toString other.2
  rw [hwritten, hother] at hname
  exact Subtype.ext (Option.some.inj hname).symm

end NamespacedName

namespace Pass

open NamespacedName

theorem parseKey_of_ofString? {key : String} {name : NamespacedName}
    (hread : ofString? key = some name) : parseKey key = pure name := by
  rw [parseKey, hread]

theorem parseKey_of_not_isWritten {key : String} (hkey : ¬IsWritten key) :
    parseKey key = fail (.invalidKey key) := by
  have hnone : ofString? key = none := by
    rw [Option.eq_none_iff_forall_ne_some]
    exact fun name hread => hkey ((exists_ofString?_iff key).1 ⟨name, hread⟩)
  rw [parseKey, hnone]

end Pass

namespace WorkQueue

open NamespacedName

/-- Adding a key makes no other one need work. -/
theorem mem_dirty_add_of_ne {κ : Type u} [DecidableEq κ] {q : WorkQueue κ} {key other : κ}
    (hother : other ≠ key) : other ∈ (q.add key).dirty ↔ other ∈ q.dirty := by
  have hspares : Spares (fun other => other ≠ key) q (q.add key) := spares_add (by simp)
  exact hspares.dirty other (by simpa using hother)

/-- Exactly the written names are accepted as keys, and any other text is reported as
it stands.  A key is written as it was accepted but for a slash at its beginning, and
stands for the same name then.  Names that can be written are read back, so they are
written differently: in a queue none is taken for another, and every run is that of a
queue over the names themselves. -/
theorem written_names_identify_objects :
    (∀ key, IsWritten key → ∃ name, Pass.parseKey key = pure name ∧
      name.toString = withoutLeadingSlash key ∧ Pass.parseKey name.toString = pure name) ∧
    (∀ key, ¬IsWritten key → Pass.parseKey key = Pass.fail (.invalidKey key)) ∧
    (∀ name : NamespacedName, '/' ∉ name.ns.toList → '/' ∉ name.name.toList → name.name ≠ "" →
      Pass.parseKey name.toString = pure name) ∧
    (∀ name other : Writable, name ≠ other → name.written ≠ other.written ∧
      ∀ q : WorkQueue String,
        other.written ∈ (q.add name.written).dirty ↔ other.written ∈ q.dirty) ∧
    ∀ (queue : String) (retry : RetryPolicy) (requests : List (Request Writable)),
      serveAll { name := queue, retry } (requests.map (Request.rename Writable.written)) =
        (serveAll { name := queue, retry } requests).rename Writable.written ∧
      eventsAll { name := queue, retry } (requests.map (Request.rename Writable.written)) =
        (eventsAll { name := queue, retry } requests).map (QueueEvent.rename Writable.written) := by
  refine ⟨?accepts, fun _ => Pass.parseKey_of_not_isWritten, ?back, ?differ, ?runs⟩
  case accepts =>
    intro key hkey
    obtain ⟨name, hread⟩ := (exists_ofString?_iff key).2 hkey
    have hagain := ofString?_toString (isWritable_of_ofString? hread)
    exact ⟨name, Pass.parseKey_of_ofString? hread, toString_of_ofString? hread,
      Pass.parseKey_of_ofString? hagain⟩
  case back =>
    intro name hns hslash hne
    exact Pass.parseKey_of_ofString? (ofString?_toString ⟨hns, hne, hslash⟩)
  case differ =>
    intro name other hne
    have hwritten : name.written ≠ other.written := Writable.written_injective.ne hne
    exact ⟨hwritten, fun q => mem_dirty_add_of_ne hwritten.symm⟩
  case runs =>
    intro queue retry requests
    let fresh : WorkQueue Writable := { name := queue, retry }
    exact ⟨(rename_serveAll Writable.written_injective fresh requests).symm,
      (map_eventsAll Writable.written_injective fresh requests).symm⟩

/-- With a slash at its beginning a name is accepted and loses it, a second slash is one
too many, and an object without namespace is no object of that name in a namespace. -/
theorem written_names_identify_objects_demo :
    IsWritten "/web" ∧ ¬IsWritten "demo/web/" ∧
    (∃ name, Pass.parseKey "/web" = pure name ∧ name.toString = "web") ∧
    Pass.parseKey "demo/web/" = Pass.fail (.invalidKey "demo/web/") ∧
    Pass.parseKey (NamespacedName.toString ⟨"demo", "web"⟩) = pure ⟨"demo", "web"⟩ ∧
    ∃ name other : Writable, name ≠ other ∧ name.written = "demo/web" ∧ other.written = "web" ∧
      name.written ≠ other.written := by
  obtain ⟨haccepts, hrejects, hback, hdiffer, -⟩ := written_names_identify_objects
  have hslash : IsWritten "/web" := by decide +kernel
  have htwo : ¬IsWritten "demo/web/" := by decide +kernel
  obtain ⟨name, hread, hwritten, -⟩ := haccepts "/web" hslash
  refine ⟨hslash, htwo, ⟨name, hread, hwritten.trans (by decide +kernel)⟩, hrejects _ htwo,
    hback ⟨"demo", "web"⟩ (by decide +kernel) (by decide +kernel) (by decide), ?_⟩
  let inDemo : Writable := ⟨⟨"demo", "web"⟩, by decide +kernel⟩
  let alone : Writable := ⟨⟨"", "web"⟩, by decide +kernel⟩
  have hne : inDemo ≠ alone := by decide +kernel
  exact ⟨inDemo, alone, hne, rfl, rfl, (hdiffer inDemo alone hne).1⟩

end WorkQueue

end GatewaySync
