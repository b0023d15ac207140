import GatewaySync.Proofs.Notifications

/-!
# Whoever is told finds it in the cache

Changes are told after the cache has been updated.  That this makes the cache
agree with what is told is not obvious when a listing ends: its changes were
found one by one against the old cache, and the cache is replaced by what the
listing has collected.  It holds for reports in any order, well formed or not,
since whatever is held back is about an object that the listing has collected,
and whatever is told to be gone is not.
-/

namespace GatewaySync

variable {α : Type} [Cached α]

/-- A listing starts or ends with the report. -/
def WatchEvent.bounds : WatchEvent α → Bool
  | .listStart | .listEnd => true
  | .apply _ | .delete _ | .listItem _ => false

/-- The reports bring an object of that reference as part of a listing. -/
def WatchEvent.BringItem (reports : List (WatchEvent α)) (ref : ObjectRef) : Prop :=
  ∃ a, .listItem a ∈ reports ∧ Cached.ref a = ref

namespace Informer

/-- The change is what an object made that a listing brought, and since then these
later reports have come, all within the same listing. -/
def FoundBefore (reports later : List (WatchEvent α)) (change : Change α) : Prop :=
  ∃ before a, reports = before ++ .listItem a :: later ∧
    compare (run {} before).1.store a = some change ∧ ∀ e ∈ later, e.bounds = false

/-- An object is cached under the reference of the change.  It is the object that
the change tells of, unless the same listing has brought another one later. -/
def Shows (reports : List (WatchEvent α)) (store : Store α) (change : Change α) : Prop :=
  ∃ cached, store.get? (Cached.ref change.object) = some cached ∧
    (cached = change.object ∨ ∃ later, FoundBefore reports later change ∧
      WatchEvent.BringItem later (Cached.ref change.object))

theorem compare_eq_some {store : Store α} {a : α} {change : Change α}
    (hchange : compare store a = some change) :
    change.object = a ∧ change.isDelete = false := by
  rw [compare] at hchange
  split at hchange
  · obtain rfl := Option.some.inj hchange
    exact ⟨rfl, rfl⟩
  · split at hchange
    · cases hchange
    · obtain rfl := Option.some.inj hchange
      exact ⟨rfl, rfl⟩

theorem FoundBefore.append {reports later : List (WatchEvent α)} {change : Change α}
    (hfound : FoundBefore reports later change) {e : WatchEvent α} (he : e.bounds = false) :
    FoundBefore (reports ++ [e]) (later ++ [e]) change := by
  obtain ⟨before, a, rfl, hcompare, hwithin⟩ := hfound
  refine ⟨before, a, by simp, hcompare, ?_⟩
  intro e' he'
  rcases List.mem_append.1 he' with he' | he'
  · exact hwithin e' he'
  · exact List.mem_singleton.1 he' ▸ he

theorem FoundBefore.isDelete_eq {reports later : List (WatchEvent α)} {change : Change α}
    (hfound : FoundBefore reports later change) : change.isDelete = false := by
  obtain ⟨before, a, -, hcompare, -⟩ := hfound
  exact (compare_eq_some hcompare).2

/-- What a listing holds back it has collected, and it knows of whatever it has
collected. -/
structure Backs (reports : List (WatchEvent α)) (i : Informer α) : Prop where
  keeps : i.Keeps fun _ => True
  seen : ∀ refs, i.seen = some refs → ∀ ref, i.listing.get? ref ≠ none → ref ∈ refs
  held : ∀ change ∈ i.held, (∃ later, FoundBefore reports later change) ∧
    Shows reports i.listing change

variable {reports : List (WatchEvent α)} {i : Informer α}

theorem backs_empty : Backs [] ({} : Informer α) where
  keeps := keeps_empty
  seen refs hrefs := by cases hrefs
  held change hchange := by cases hchange

/-- A report within a listing that does not belong to it leaves what the listing
holds back as it is. -/
theorem Backs.held_append (hi : i.Backs reports) {e : WatchEvent α} (he : e.bounds = false)
    {change : Change α} (hchange : change ∈ i.held) :
    (∃ later, FoundBefore (reports ++ [e]) later change) ∧
      Shows (reports ++ [e]) i.listing change := by
  obtain ⟨⟨later, hfound⟩, cached, hcached, hshown⟩ := hi.held change hchange
  refine ⟨⟨_, hfound.append he⟩, cached, hcached, ?_⟩
  apply hshown.imp id
  rintro ⟨later, hfound, a, ha, href⟩
  exact ⟨_, hfound.append he, a, List.mem_append_left _ ha, href⟩

/-- An object of the listing takes the place of an earlier one of its reference,
of which a change may be held back. -/
theorem Backs.held_listItem (hi : i.Backs reports)
    (hrun : i = (run {} reports).1) (a : α) {change : Change α}
    (hchange : change ∈ (i.step (.listItem a)).1.held) :
    (∃ later, FoundBefore (reports ++ [.listItem a]) later change) ∧
      Shows (reports ++ [.listItem a]) (i.step (.listItem a)).1.listing change := by
  have hlisting : ∀ ref, (i.step (.listItem a)).1.listing.get? ref =
      if ref = Cached.ref a then some a else i.listing.get? ref :=
    fun ref => SortedMap.get?_insert _ _ _ _
  rcases List.mem_append.1 hchange with hchange | hchange
  · obtain ⟨⟨later, hfound⟩, cached, hcached, hshown⟩ :=
      hi.held_append (e := .listItem a) rfl hchange
    refine ⟨⟨later, hfound⟩, ?_⟩
    rw [Shows, hlisting]
    by_cases href : Cached.ref change.object = Cached.ref a
    · obtain ⟨⟨later, hfound⟩, -⟩ := hi.held change hchange
      refine ⟨a, if_pos href, .inr ⟨_, hfound.append rfl, a, by simp, href.symm⟩⟩
    · exact ⟨cached, (if_neg href).trans hcached, hshown⟩
  · have hcompare := Option.mem_toList.1 hchange
    obtain ⟨rfl, -⟩ := compare_eq_some hcompare
    refine ⟨⟨[], reports, change.object, rfl, hrun ▸ hcompare, nofun⟩, ?_⟩
    exact ⟨change.object, by rw [hlisting, if_pos rfl], .inl rfl⟩

/-- Every report keeps it so, whatever state the watch is in. -/
theorem Backs.step (hi : i.Backs reports) (hrun : i = (run {} reports).1) (e : WatchEvent α) :
    (i.step e).1.Backs (reports ++ [e]) := by
  have hkeeps : (i.step e).1.Keeps fun _ => True := hi.keeps.step fun _ _ => trivial
  cases e with
  | apply a => exact ⟨hkeeps, hi.seen, fun _ => hi.held_append rfl⟩
  | delete a => exact ⟨hkeeps, hi.seen, fun _ => hi.held_append rfl⟩
  | listStart => exact ⟨hkeeps, fun _ _ ref hget => absurd rfl hget, nofun⟩
  | listEnd => exact ⟨hkeeps, nofun, nofun⟩
  | listItem a =>
      refine ⟨hkeeps, ?_, fun _ => hi.held_listItem hrun a⟩
      intro refs hrefs ref hget
      obtain ⟨refs', hrefs', rfl⟩ := Option.map_eq_some_iff.1 hrefs
      change (i.listing.insert (Cached.ref a) a).get? ref ≠ none at hget
      rw [SortedMap.get?_insert] at hget
      by_cases href : ref = Cached.ref a
      · exact List.mem_cons.2 (.inl href)
      · rw [if_neg href] at hget
        exact List.mem_cons_of_mem _ (hi.seen refs' hrefs' ref hget)

theorem backs_run (reports : List (WatchEvent α)) : (run {} reports).1.Backs reports := by
  induction reports using List.reverseRecOn with
  | nil => exact backs_empty
  | append_singleton reports e ih =>
      rw [run_append_singleton]
      exact ih.step rfl e

/-- What a listing did not bring is not in what it has collected. -/
theorem Backs.of_vanished (hi : i.Backs reports) {refs : List ObjectRef}
    (hseen : i.seen = some refs) {change : Change α} (hchange : change ∈ vanished i.store refs) :
    change.isDelete = true ∧ i.listing.get? (Cached.ref change.object) = none := by
  obtain ⟨entry, hentry, rfl⟩ := List.mem_map.1 hchange
  obtain ⟨hmem, hmissed⟩ := List.mem_filter.1 hentry
  have href : Cached.ref entry.2 = entry.1 :=
    (hi.keeps.store entry.1 entry.2 (SortedMap.get?_eq_some_iff.2 hmem)).1
  refine ⟨rfl, ?_⟩
  change i.listing.get? (Cached.ref entry.2) = none
  rw [href]
  by_contra hget
  exact absurd (hi.seen refs hseen entry.1 hget) (by simpa using hmissed)

/-- Each report tells of objects that are cached then, or not cached any more. -/
theorem Backs.told (hi : i.Backs reports) {e : WatchEvent α} {change : Change α}
    (htold : change ∈ (i.step e).2) :
    (change.isDelete = true → (i.step e).1.store.get? (Cached.ref change.object) = none) ∧
      (change.isDelete = false → ∃ cached,
        (i.step e).1.store.get? (Cached.ref change.object) = some cached ∧
        (cached = change.object ∨ e = .listEnd ∧ ∃ later, FoundBefore reports later change ∧
          WatchEvent.BringItem later (Cached.ref change.object))) := by
  cases e with
  | listStart | listItem => cases htold
  | apply a =>
      obtain ⟨rfl, hdelete⟩ := compare_eq_some (Option.mem_toList.1 htold)
      refine ⟨fun h => by simp [hdelete] at h, fun _ => ⟨change.object, ?_, .inl rfl⟩⟩
      exact (SortedMap.get?_insert _ _ _ _).trans (if_pos rfl)
  | delete a =>
      obtain rfl := List.mem_singleton.1 htold
      refine ⟨fun _ => ?_, nofun⟩
      exact (SortedMap.get?_erase _ _ _).trans (if_pos rfl)
  | listEnd =>
      rcases List.mem_append.1 htold with hheld | hgone
      · obtain ⟨⟨_, hfound⟩, cached, hcached, hshown⟩ := hi.held change hheld
        refine ⟨fun h => by simp [hfound.isDelete_eq] at h, fun _ => ⟨cached, hcached, ?_⟩⟩
        exact hshown.imp id fun hagain => ⟨rfl, hagain⟩
      · cases hseen : i.seen with
        | none => simp [hseen] at hgone
        | some refs =>
            rw [hseen] at hgone
            obtain ⟨hdelete, hnone⟩ := hi.of_vanished hseen hgone
            exact ⟨fun _ => hnone, fun h => by simp [hdelete] at h⟩

/-- Where only objects with a namespace are cached, looking up a reference finds
what is filed under it and nothing else. -/
theorem Keeps.find?_eq {i : Informer α} (hi : i.Keeps fun a => (Cached.ref a).ns ≠ none)
    (ref : ObjectRef) : Store.find? i.store ref = i.store.get? ref := by
  have hnone : i.store.get? ⟨none, ref.name⟩ = none := by
    rw [Option.eq_none_iff_forall_ne_some]
    intro a hget
    obtain ⟨href, hns⟩ := hi.store _ a hget
    exact hns (by rw [href])
  rw [Store.find?, hnone, Option.or_none]

theorem Keeps.run {known : α → Prop} {events : List (WatchEvent α)}
    (hknown : ∀ e ∈ events, e.Brings known) : (run {} events).1.Keeps known := by
  induction events using List.reverseRecOn with
  | nil => exact keeps_empty
  | append_singleton events e ih =>
      rw [run_append_singleton]
      have hevents := ih fun e' he' => hknown e' (List.mem_append_left _ he')
      exact hevents.step (hknown e (by simp))

/-- Reports may come in any order.  Whoever is told that an object is new or has
changed finds an object of its reference in the cache, and it is the one told of
unless the same listing has brought another one later.  Whoever is told that an
object is gone finds none.  Where all objects belong to namespaces, looking them
up shows the same. -/
theorem told_is_cached (reports : List (WatchEvent α)) (e : WatchEvent α) :
    let i := (run {} reports).1
    let store := (i.step e).1.store
    (∀ change ∈ (i.step e).2,
      (change.isDelete = true → store.get? (Cached.ref change.object) = none) ∧
      (change.isDelete = false → ∃ cached,
        store.get? (Cached.ref change.object) = some cached ∧
        (cached = change.object ∨ e = .listEnd ∧ ∃ later, FoundBefore reports later change ∧
          WatchEvent.BringItem later (Cached.ref change.object)))) ∧
    ((∀ a ∈ (reports ++ [e]).filterMap WatchEvent.object?, (Cached.ref a).ns ≠ none) →
      ∀ ref, store.find? ref = store.get? ref) := by
  refine ⟨fun change => (backs_run reports).told, fun hnamespaced ref => ?_⟩
  have hkeeps : (run {} (reports ++ [e])).1.Keeps fun a => (Cached.ref a).ns ≠ none :=
    Keeps.run fun e' he' a ha => hnamespaced a (List.mem_filterMap.2 ⟨e', he', ha⟩)
  rw [run_append_singleton] at hkeeps
  exact hkeeps.find?_eq ref

section Restless

/-- Items come without a listing, one of them twice and at another version, and
the object is changed in between. -/
def restless : List (WatchEvent ConfigMap) :=
  [.listItem (documentAt "1"), .apply (documentAt "2"), .listItem (documentAt "3")]

/-- The first change that is told when the listing ends is about a version that is
out of date by then.  The next listing is empty. -/
theorem told_is_cached_restless :
    ((run {} restless).1.step .listEnd).2 =
        [.added (documentAt "1"), .updated (documentAt "2") (documentAt "3")] ∧
      (∃ cached, ((run {} restless).1.step .listEnd).1.store.find?
        (Cached.ref (documentAt "1")) = some cached) ∧
      ((run {} (restless ++ [.listEnd, .listStart])).1.step .listEnd).2 =
        [.deleted (documentAt "3")] ∧
      ((run {} (restless ++ [.listEnd, .listStart])).1.step .listEnd).1.store.find?
        (Cached.ref (documentAt "3")) = none := by
  have htold : ((run {} restless).1.step .listEnd).2 =
      [.added (documentAt "1"), .updated (documentAt "2") (documentAt "3")] := by
    decide
  have hgone : ((run {} (restless ++ [.listEnd, .listStart])).1.step .listEnd).2 =
      [.deleted (documentAt "3")] := by
    decide
  obtain ⟨hheld, hsame⟩ := told_is_cached restless .listEnd
  obtain ⟨hmissing, hsame'⟩ := told_is_cached (restless ++ [.listEnd, .listStart]) .listEnd
  refine ⟨htold, ?_, hgone, ?_⟩
  · rw [hsame (by decide)]
    obtain ⟨cached, hcached, -⟩ := (hheld (.added (documentAt "1")) (by simp [htold])).2 rfl
    exact ⟨cached, hcached⟩
  · rw [hsame' (by decide)]
    exact (hmissing (.deleted (documentAt "3")) (by simp [hgone])).1 rfl

end Restless

end Informer

end GatewaySync
