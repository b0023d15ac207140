import GatewaySync.Informer
import GatewaySync.Proofs.SortedMap
import GatewaySync.Resource.ConfigMap

/-!
# What is told is what has changed

A watch is well formed if single changes are reported outside listings and a
listing brings no object twice.  Then the changes that are told of a report are
exactly those between what was cached before it and what is cached after it.
A listing is compared with the cache item by item while it is still collected
beside it, so the two stay in step only because nothing else is cached meanwhile.

Whoever records what is told therefore knows which objects are cached, and at
which version.
-/

namespace GatewaySync

variable {α : Type} [Cached α]

/-- No object that belongs to a namespace shares its name with one that belongs
to none, as the objects of one kind never do. -/
def Cached.AreUnmixed (known : α → Prop) : Prop :=
  ∀ a b, known a → known b → (Cached.ref a).name = (Cached.ref b).name →
    ((Cached.ref a).ns = none ↔ (Cached.ref b).ns = none)

namespace WatchEvent

/-- Whether the watch can report this next, given the objects that a listing
under way has brought. -/
def Follows (listing : Option (List ObjectRef)) : WatchEvent α → Prop
  | .apply _ | .delete _ => listing = none
  | .listStart => True
  | .listItem a => ∃ refs, listing = some refs ∧ Cached.ref a ∉ refs
  | .listEnd => listing ≠ none

/-- The objects that a listing under way has brought after the report. -/
def listingAfter (listing : Option (List ObjectRef)) : WatchEvent α → Option (List ObjectRef)
  | .apply _ | .delete _ => listing
  | .listStart => some []
  | .listItem a => listing.map fun refs => Cached.ref a :: refs
  | .listEnd => none

/-- Listings may be given up and started anew at any time. -/
def IsWellFormed (listing : Option (List ObjectRef)) : List (WatchEvent α) → Prop
  | [] => True
  | e :: later => e.Follows listing ∧ IsWellFormed (e.listingAfter listing) later

/-- The object that the report puts into the cache, now or when the listing
ends. -/
def object? : WatchEvent α → Option α
  | .apply a | .listItem a => some a
  | .delete _ | .listStart | .listEnd => none

/-- The report brings no other objects than these. -/
def Brings (known : α → Prop) (e : WatchEvent α) : Prop := ∀ a, e.object? = some a → known a

/-- Of the objects that the watch reports, none that belongs to a namespace shares
its name with one that belongs to none. -/
def IsUnmixed (events : List (WatchEvent α)) : Prop :=
  Cached.AreUnmixed fun a => a ∈ events.filterMap object?

theorem isWellFormed_append {listing : Option (List ObjectRef)}
    {before after : List (WatchEvent α)} :
    IsWellFormed listing (before ++ after) ↔
      IsWellFormed listing before ∧
        IsWellFormed (before.foldl WatchEvent.listingAfter listing) after := by
  induction before generalizing listing with
  | nil => simp [IsWellFormed]
  | cons e rest ih => simp [IsWellFormed, ih, and_assoc]

end WatchEvent

/-! ## Differences -/

/-- The changes that are about the object of a reference. -/
def Change.about (ref : ObjectRef) (changes : List (Change α)) : List (Change α) :=
  changes.filter fun change => Cached.ref change.object = ref

/-- What there is to tell about an object that is cached in one form before and
in another after.  An object that is brought without a version counts as
changed. -/
def Change.between (brought : Bool) : Option α → Option α → List (Change α)
  | none, none => []
  | none, some new => [.added new]
  | some old, none => [.deleted old]
  | some old, some new =>
    if Cached.version? old = Cached.version? new ∧
        ((Cached.version? old).isSome ∨ brought = false) then []
    else [.updated old new]

/-- What is told of a report is the difference that it makes to the cache, object
by object.  A deletion is told even if the object was not cached, and a listing
is told as a whole when it ends. -/
def WatchEvent.Explains (e : WatchEvent α) (before after : Store α) (told : List (Change α)) :
    Prop :=
  match e with
  | .apply a => ∀ ref, Change.about ref told =
      Change.between (decide (Cached.ref a = ref)) (before.get? ref) (after.get? ref)
  | .delete a => told = [.deleted a] ∧
      ∀ ref, after.get? ref = if ref = Cached.ref a then none else before.get? ref
  | .listStart | .listItem _ => told = [] ∧ after = before
  | .listEnd => ∀ ref, Change.about ref told =
      Change.between true (before.get? ref) (after.get? ref)

namespace Change

@[simp]
theorem about_append (ref : ObjectRef) (changes more : List (Change α)) :
    about ref (changes ++ more) = about ref changes ++ about ref more :=
  List.filter_append ..

theorem about_between {ref : ObjectRef} {old? new? : Option α} (brought : Bool)
    (hold : ∀ old, old? = some old → Cached.ref old = ref)
    (hnew : ∀ new, new? = some new → Cached.ref new = ref) (other : ObjectRef) :
    about other (between brought old? new?) =
      if ref = other then between brought old? new? else [] := by
  cases old? with
  | none =>
      cases new? with
      | none => simp [about, between]
      | some new =>
          obtain rfl := hnew new rfl
          by_cases hother : Cached.ref new = other <;> simp [about, between, object, hother]
  | some old =>
      obtain rfl := hold old rfl
      cases new? with
      | none => by_cases hother : Cached.ref old = other <;> simp [about, between, object, hother]
      | some new =>
          have href := hnew new rfl
          rw [between]
          split
          · simp [about]
          · by_cases hother : Cached.ref old = other <;> simp [about, object, href, hother]

end Change

/-! ## One report -/

/-- Every object of the store is filed under its own reference, and known. -/
def Store.Holds (known : α → Prop) (store : Store α) : Prop :=
  ∀ ref a, store.get? ref = some a → Cached.ref a = ref ∧ known a

namespace Store

variable {known : α → Prop} {store : Store α}

theorem holds_empty : Holds known (.empty : Store α) := by
  intro ref a hget
  simp at hget

theorem Holds.insert (hstore : store.Holds known) {a : α} (ha : known a) :
    Holds known (SortedMap.insert store (Cached.ref a) a) := by
  intro ref b hget
  rw [SortedMap.get?_insert] at hget
  split at hget
  case isTrue href =>
    obtain rfl := Option.some.inj hget
    exact ⟨href.symm, ha⟩
  case isFalse => exact hstore ref b hget

theorem Holds.erase (hstore : store.Holds known) (ref : ObjectRef) :
    Holds known (SortedMap.erase store ref) := by
  intro ref' b hget
  rw [SortedMap.get?_erase] at hget
  split at hget
  case isTrue => cases hget
  case isFalse => exact hstore ref' b hget

end Store

namespace Informer

section

variable {known : α → Prop} {i : Informer α}

/-- Nothing else is cached, or collected by a listing under way. -/
structure Keeps (known : α → Prop) (i : Informer α) : Prop where
  store : i.store.Holds known
  listing : i.listing.Holds known

theorem keeps_empty : Keeps known ({} : Informer α) := ⟨Store.holds_empty, Store.holds_empty⟩

theorem Keeps.step (hi : i.Keeps known) {e : WatchEvent α} (he : e.Brings known) :
    (i.step e).1.Keeps known := by
  cases e with
  | apply a => exact ⟨hi.store.insert (he a rfl), hi.listing⟩
  | delete a => exact ⟨hi.store.erase _, hi.listing⟩
  | listStart => exact ⟨hi.store, Store.holds_empty⟩
  | listItem a => exact ⟨hi.store, hi.listing.insert (he a rfl)⟩
  | listEnd => exact ⟨hi.listing, Store.holds_empty⟩

end

/-- What a listing under way has collected and held back is what would be told if
it ended now, except for what is gone. -/
structure Coupled (known : α → Prop) (listing : Option (List ObjectRef)) (i : Informer α) :
    Prop where
  filed : i.store.Holds known
  listed : i.listing.Holds known
  seen : i.seen = listing
  brought : ∀ refs, listing = some refs → ∀ ref, ref ∈ refs ↔ i.listing.get? ref ≠ none
  held : listing ≠ none → ∀ ref, Change.about ref i.held =
    match i.listing.get? ref with
    | none => []
    | some new => Change.between true (i.store.get? ref) (some new)

variable {known : α → Prop} {listing : Option (List ObjectRef)} {i : Informer α}

theorem coupled_empty : Coupled known none ({} : Informer α) where
  filed := Store.holds_empty
  listed := Store.holds_empty
  seen := rfl
  brought refs hrefs := by cases hrefs
  held hopen := absurd rfl hopen

/-- An object is compared with the cached one of its own reference. -/
theorem Coupled.toList_compare (hi : i.Coupled known listing) (hunmixed : Cached.AreUnmixed known)
    {a : α} (ha : known a) :
    (compare i.store a).toList =
      Change.between true (i.store.get? (Cached.ref a)) (some a) := by
  have hfind : Store.find? i.store (Cached.ref a) = i.store.get? (Cached.ref a) := by
    rw [Store.find?]
    cases hns : (Cached.ref a).ns with
    | none =>
        have href : (⟨none, (Cached.ref a).name⟩ : ObjectRef) = Cached.ref a := by
          rw [← hns]
        rw [href, Option.or_self]
    | some ns =>
        have hnone : i.store.get? ⟨none, (Cached.ref a).name⟩ = none := by
          rw [Option.eq_none_iff_forall_ne_some]
          intro b hget
          obtain ⟨href, hb⟩ := hi.filed _ b hget
          have hsame := hunmixed a b ha hb (by rw [href])
          rw [href, hns] at hsame
          simp at hsame
        rw [hnone, Option.or_none]
  rw [compare, hfind]
  cases i.store.get? (Cached.ref a) with
  | none => rfl
  | some old =>
      simp only [Change.between, Bool.true_eq_false, or_false, and_comm]
      split <;> rfl

/-- Of the cached objects those are told to be gone that the listing did not
bring. -/
theorem Coupled.about_vanished (hi : i.Coupled known listing) (refs : List ObjectRef)
    (ref : ObjectRef) :
    Change.about ref (vanished i.store refs) =
      if ref ∈ refs then [] else Change.between true (i.store.get? ref) none := by
  have hfiled : ∀ entry ∈ i.store.toList, Cached.ref entry.2 = entry.1 := by
    intro entry hentry
    exact (hi.filed entry.1 entry.2 (SortedMap.get?_eq_some_iff.2 hentry)).1
  calc
    Change.about ref (vanished i.store refs)
      = ((i.store.toList.filter fun entry => entry.1 ∉ refs).filter
          fun entry => Cached.ref entry.2 = ref).map fun entry => .deleted entry.2 := by
        rw [Change.about, vanished, List.filter_map]
        rfl
    _ = ((i.store.toList.filter fun entry => entry.1 = ref).filter
          fun entry => entry.1 ∉ refs).map fun entry => .deleted entry.2 := by
        rw [List.filter_filter, List.filter_filter]
        apply congrArg (List.map _)
        apply List.filter_congr
        intro entry hentry
        rw [hfiled entry hentry, Bool.and_comm]
    _ = if ref ∈ refs then [] else Change.between true (i.store.get? ref) none := by
        rw [SortedMap.filter_fst_eq]
        cases i.store.get? ref with
        | none => simp [Change.between]
        | some old => by_cases hmem : ref ∈ refs <;> simp [Change.between, hmem]

/-- Every report that may come next is told as the difference that it makes. -/
theorem Coupled.explains_step (hi : i.Coupled known listing) (hunmixed : Cached.AreUnmixed known)
    {e : WatchEvent α} (hfollows : e.Follows listing) (hknown : e.Brings known) :
    e.Explains i.store (i.step e).1.store (i.step e).2 := by
  cases e with
  | apply a =>
      intro ref
      change Change.about ref (compare i.store a).toList =
        Change.between _ (i.store.get? ref) ((i.store.insert (Cached.ref a) a).get? ref)
      rw [hi.toList_compare hunmixed (hknown a rfl), SortedMap.get?_insert,
        Change.about_between true (fun old hold => (hi.filed _ old hold).1)
          (fun new hnew => by simp_all)]
      by_cases href : Cached.ref a = ref
      · simp [href]
      · cases i.store.get? ref <;> simp [href, Ne.symm href, Change.between]
  | delete a => exact ⟨rfl, fun ref => SortedMap.get?_erase _ _ _⟩
  | listStart | listItem => exact ⟨rfl, rfl⟩
  | listEnd =>
      intro ref
      obtain ⟨refs, hrefs⟩ := Option.ne_none_iff_exists'.1 hfollows
      change Change.about ref (i.held ++ ((i.seen.map fun refs => vanished i.store refs).getD [])) =
        Change.between true (i.store.get? ref) (i.listing.get? ref)
      rw [hi.seen, hrefs, Option.map_some, Option.getD_some, Change.about_append,
        hi.held hfollows, hi.about_vanished]
      have hbrought := hi.brought refs hrefs ref
      cases hget : i.listing.get? ref with
      | none => simp [hbrought, hget]
      | some new => simp [hbrought, hget]

/-- An item is collected, and compared with the cache, at once.  No item of its
reference was compared before, since no object comes twice. -/
theorem Coupled.step_listItem {refs : List ObjectRef} (hi : i.Coupled known (some refs))
    (hunmixed : Cached.AreUnmixed known) {a : α} (hnew : Cached.ref a ∉ refs) (ha : known a) :
    (i.step (.listItem a)).1.Coupled known (some (Cached.ref a :: refs)) := by
  have hlisting : ∀ ref, (i.step (.listItem a)).1.listing.get? ref =
      if ref = Cached.ref a then some a else i.listing.get? ref :=
    fun ref => SortedMap.get?_insert _ _ _ _
  have hnone : i.listing.get? (Cached.ref a) = none := by
    simpa [hi.brought refs rfl] using hnew
  constructor
  case filed => exact hi.filed
  case listed => exact hi.listed.insert ha
  case seen =>
    change i.seen.map _ = _
    rw [hi.seen]
    rfl
  case brought =>
    intro refs' hrefs' ref
    obtain rfl := Option.some.inj hrefs'
    rw [hlisting, List.mem_cons, hi.brought refs rfl]
    by_cases href : ref = Cached.ref a <;> simp [href]
  case held =>
    intro _ ref
    change Change.about ref (i.held ++ (compare i.store a).toList) =
      match (i.step (.listItem a)).1.listing.get? ref with
      | none => []
      | some new => Change.between true (i.store.get? ref) (some new)
    rw [Change.about_append, hi.held (by simp), hlisting, hi.toList_compare hunmixed ha,
      Change.about_between true (fun old hold => (hi.filed _ old hold).1)
        (fun new hsame => by simp_all)]
    by_cases href : ref = Cached.ref a
    · simp [href, hnone]
    · have hother : ¬Cached.ref a = ref := fun heq => href heq.symm
      simp [href, hother]

/-- Whatever may come next, the listing under way stays in step with the
cache. -/
theorem Coupled.step (hi : i.Coupled known listing) (hunmixed : Cached.AreUnmixed known)
    {e : WatchEvent α} (hfollows : e.Follows listing) (hknown : e.Brings known) :
    (i.step e).1.Coupled known (e.listingAfter listing) := by
  cases e with
  | apply a =>
      obtain rfl : listing = none := hfollows
      exact ⟨hi.filed.insert (hknown a rfl), hi.listed, hi.seen, hi.brought,
        fun hopen => absurd rfl hopen⟩
  | delete a =>
      obtain rfl : listing = none := hfollows
      exact ⟨hi.filed.erase _, hi.listed, hi.seen, hi.brought, fun hopen => absurd rfl hopen⟩
  | listStart =>
      constructor
      case filed => exact hi.filed
      case listed => exact Store.holds_empty
      case seen => rfl
      case brought =>
        intro refs hrefs ref
        obtain rfl := Option.some.inj hrefs
        simp [Informer.step]
      case held =>
        intro _ ref
        simp [Informer.step, Change.about]
  | listItem a =>
      obtain ⟨refs, rfl, hnew⟩ := hfollows
      exact hi.step_listItem hunmixed hnew (hknown a rfl)
  | listEnd =>
      exact ⟨hi.listed, Store.holds_empty, rfl, nofun,
        fun hopen => absurd rfl hopen⟩

/-! ## A whole watch -/

@[simp]
theorem run_nil (i : Informer α) : i.run [] = (i, []) := rfl

theorem run_append_singleton (i : Informer α) (events : List (WatchEvent α))
    (e : WatchEvent α) :
    i.run (events ++ [e]) =
      (((i.run events).1.step e).1, (i.run events).2 ++ ((i.run events).1.step e).2) := by
  rw [run, List.foldl_append]
  rfl

theorem run_append (i : Informer α) (before after : List (WatchEvent α)) :
    i.run (before ++ after) =
      (((i.run before).1.run after).1,
        (i.run before).2 ++ ((i.run before).1.run after).2) := by
  induction after using List.reverseRecOn with
  | nil => simp
  | append_singleton after e ih =>
      rw [← List.append_assoc, run_append_singleton, ih, run_append_singleton,
        List.append_assoc]

theorem run_cons (i : Informer α) (e : WatchEvent α) (after : List (WatchEvent α)) :
    i.run (e :: after) = (((i.step e).1.run after).1, (i.step e).2 ++ ((i.step e).1.run after).2) :=
  run_append i [e] after

theorem Coupled.run {events : List (WatchEvent α)} (hi : i.Coupled known listing)
    (hunmixed : Cached.AreUnmixed known) (hwell : WatchEvent.IsWellFormed listing events)
    (hknown : ∀ e ∈ events, e.Brings known) :
    (i.run events).1.Coupled known (events.foldl WatchEvent.listingAfter listing) := by
  induction events generalizing i listing with
  | nil => exact hi
  | cons e later ih =>
      rw [run_cons]
      exact ih (hi.step hunmixed hwell.1 (hknown e List.mem_cons_self)) hwell.2
        fun e he => hknown e (List.mem_cons_of_mem _ he)

/-- What a listing brought before it is started anew leaves no trace. -/
theorem run_abandoned (i : Informer α) (items : List α) (after : List (WatchEvent α)) :
    i.run (.listStart :: (items.map .listItem ++ .listStart :: after)) =
      i.run (.listStart :: after) := by
  have hitems : ∀ {i : Informer α},
      i.run (items.map .listItem ++ .listStart :: after) = i.run (.listStart :: after) := by
    induction items with
    | nil => exact rfl
    | cons a items ih =>
        intro i
        rw [List.map_cons, List.cons_append, run_cons, ih, run_cons, run_cons]
        rfl
  rw [run_cons, hitems, run_cons, run_cons]
  rfl

end Informer

/-! ## Keeping a record -/

namespace Change

/-- The versions of the cached objects, as known to someone who is told of the
change. -/
def record (known : SortedMap ObjectRef (Option String)) :
    Change α → SortedMap ObjectRef (Option String)
  | .added a => known.insert (Cached.ref a) (Cached.version? a)
  | .updated _ a => known.insert (Cached.ref a) (Cached.version? a)
  | .deleted a => known.erase (Cached.ref a)

/-- What is known from the changes alone. -/
def replay (changes : List (Change α)) : SortedMap ObjectRef (Option String) :=
  changes.foldl record .empty

/-- What the change leaves known about its object. -/
def recorded? : Change α → Option (Option String)
  | .added a => some (Cached.version? a)
  | .updated _ a => some (Cached.version? a)
  | .deleted _ => none

theorem get?_record (known : SortedMap ObjectRef (Option String)) (change : Change α)
    (ref : ObjectRef) :
    (record known change).get? ref =
      if Cached.ref change.object = ref then change.recorded? else known.get? ref := by
  cases change <;> simp [record, recorded?, object, eq_comm]

/-- Only the changes about an object tell anything of it. -/
theorem get?_foldl_record (changes : List (Change α))
    (known : SortedMap ObjectRef (Option String)) (ref : ObjectRef) :
    (changes.foldl record known).get? ref =
      (about ref changes).foldl (fun _ change => change.recorded?) (known.get? ref) := by
  induction changes generalizing known with
  | nil => rfl
  | cons change changes ih =>
      have hcons : about ref (change :: changes) =
          if Cached.ref change.object = ref then change :: about ref changes
          else about ref changes := by
        simp [about, List.filter_cons]
      rw [List.foldl_cons, ih, get?_record, hcons]
      by_cases href : Cached.ref change.object = ref <;> simp [href]

theorem foldl_between (brought : Bool) (old? new? : Option α) :
    (between brought old? new?).foldl (fun _ change => change.recorded?)
        (old?.map Cached.version?) =
      new?.map Cached.version? := by
  cases old? with
  | none => cases new? <;> rfl
  | some old =>
      cases new? with
      | none => rfl
      | some new =>
          rw [between]
          split
          case isTrue hsame => simp [hsame.1]
          case isFalse => rfl

end Change

/-- Whoever knew the cached versions before a report knows them after it. -/
theorem WatchEvent.Explains.get?_foldl_record {e : WatchEvent α} {before after : Store α}
    {told : List (Change α)} (htold : e.Explains before after told)
    {known : SortedMap ObjectRef (Option String)}
    (hknown : ∀ ref, known.get? ref = (before.get? ref).map Cached.version?) (ref : ObjectRef) :
    (told.foldl Change.record known).get? ref = (after.get? ref).map Cached.version? := by
  cases e with
  | apply a => rw [Change.get?_foldl_record, htold ref, hknown, Change.foldl_between]
  | delete a =>
      obtain ⟨rfl, hafter⟩ := htold
      rw [hafter]
      by_cases href : ref = Cached.ref a <;> simp [Change.record, href, hknown]
  | listStart | listItem =>
      obtain ⟨rfl, rfl⟩ := htold
      exact hknown ref
  | listEnd => rw [Change.get?_foldl_record, htold ref, hknown, Change.foldl_between]

namespace Informer

theorem Coupled.get?_foldl_record {known : α → Prop} {listing : Option (List ObjectRef)}
    {i : Informer α} (hi : i.Coupled known listing) (hunmixed : Cached.AreUnmixed known)
    {events : List (WatchEvent α)} (hwell : WatchEvent.IsWellFormed listing events)
    (hknown : ∀ e ∈ events, e.Brings known) {versions : SortedMap ObjectRef (Option String)}
    (hversions : ∀ ref, versions.get? ref = (i.store.get? ref).map Cached.version?)
    (ref : ObjectRef) :
    ((i.run events).2.foldl Change.record versions).get? ref =
      ((i.run events).1.store.get? ref).map Cached.version? := by
  induction events generalizing i listing versions with
  | nil => exact hversions ref
  | cons e later ih =>
      have he := hknown e List.mem_cons_self
      rw [run_cons, List.foldl_append]
      apply ih (hi.step hunmixed hwell.1 he) hwell.2
        fun e' he' => hknown e' (List.mem_cons_of_mem _ he')
      exact (hi.explains_step hunmixed hwell.1 he).get?_foldl_record hversions

/-- Over every well-formed watch, each report is told as the difference that it
makes to the cache, a listing that is given up leaves no trace, and the changes
told from the start on tell the cached objects and their versions. -/
theorem told_eq_difference (events : List (WatchEvent α))
    (hwell : WatchEvent.IsWellFormed none events) (hunmixed : WatchEvent.IsUnmixed events) :
    (∀ before e after, events = before ++ e :: after →
      e.Explains (run {} before).1.store ((run {} before).1.step e).1.store
        ((run {} before).1.step e).2) ∧
    (∀ (before : List (WatchEvent α)) (items : List α) (after : List (WatchEvent α)),
      events = before ++ .listStart :: (items.map .listItem ++ .listStart :: after) →
        run {} events = run {} (before ++ .listStart :: after)) ∧
    ∀ ref, (Change.replay (run {} events).2).get? ref =
      ((run {} events).1.store.get? ref).map Cached.version? := by
  have hbrings : ∀ e ∈ events, e.Brings fun a => a ∈ events.filterMap WatchEvent.object? :=
    fun e he a ha => List.mem_filterMap.2 ⟨e, he, ha⟩
  constructor
  · rintro before e after rfl
    obtain ⟨hbefore, hfollows, -⟩ := WatchEvent.isWellFormed_append.1 hwell
    have hcoupled := coupled_empty.run hunmixed hbefore fun e' he' =>
      hbrings e' (List.mem_append_left _ he')
    exact hcoupled.explains_step hunmixed hfollows (hbrings e (by simp))
  constructor
  · rintro before items after rfl
    rw [run_append, run_abandoned, ← run_append]
  · exact coupled_empty.get?_foldl_record hunmixed hwell hbrings fun ref => by simp

section Relisting

/-- The document's ConfigMap at a version. -/
def documentAt (version : String) : ConfigMap where
  metadata := {
    name := some "gitkube-ci-conf", ns := some "kube-system", resourceVersion := some version }

/-- A watch whose first listing is given up; the ConfigMap is then changed and
deleted. -/
def relisting : List (WatchEvent ConfigMap) :=
  [.listStart, .listItem (documentAt "1"), .listStart, .listItem (documentAt "2"), .listEnd,
    .apply (documentAt "3"), .delete (documentAt "3")]

theorem told_eq_difference_relisting :
    WatchEvent.IsWellFormed none relisting ∧ WatchEvent.IsUnmixed relisting ∧
    run {} relisting = run {} (relisting.drop 2) ∧
    Change.replay (run {} relisting).2 = .empty ∧
    WatchEvent.Explains (.apply (documentAt "3")) (run {} (relisting.take 5)).1.store
      (run {} (relisting.take 6)).1.store [.updated (documentAt "2") (documentAt "3")] := by
  have hwell : WatchEvent.IsWellFormed none relisting := by
    simp [relisting, WatchEvent.IsWellFormed, WatchEvent.Follows, WatchEvent.listingAfter]
  have hunmixed : WatchEvent.IsUnmixed relisting := by
    have hnamespaced : ∀ a ∈ relisting.filterMap WatchEvent.object?, (Cached.ref a).ns ≠ none := by
      decide
    intro a b ha hb _
    simp [hnamespaced a ha, hnamespaced b hb]
  obtain ⟨hexplains, habandoned, hreplay⟩ := told_eq_difference relisting hwell hunmixed
  refine ⟨hwell, hunmixed, habandoned [] [documentAt "1"] _ rfl, ?_,
    hexplains (relisting.take 5) _ _ rfl⟩
  apply SortedMap.ext_get?
  intro ref
  rw [hreplay]
  rfl

/-- A ConfigMap that is said to belong to no namespace stands in the way of one
of the same name: the other one is cached, and nothing is told of it. -/
theorem untold_beside_clusterScoped :
    let clusterScoped : ConfigMap :=
      { metadata := { name := some "a", resourceVersion := some "1" } }
    let namespaced : ConfigMap :=
      { metadata := { name := some "a", ns := some "x", resourceVersion := some "1" } }
    let i := (run {} [.apply clusterScoped]).1
    WatchEvent.IsWellFormed none [.apply clusterScoped, .apply namespaced] ∧
      i.store.get? ⟨some "x", "a"⟩ = none ∧
      (i.step (.apply namespaced)).1.store.get? ⟨some "x", "a"⟩ = some namespaced ∧
      (i.step (.apply namespaced)).2 = [] ∧
      ¬WatchEvent.Explains (.apply namespaced) i.store (i.step (.apply namespaced)).1.store
        (i.step (.apply namespaced)).2 := by
  refine ⟨by simp [WatchEvent.IsWellFormed, WatchEvent.Follows, WatchEvent.listingAfter],
    by decide, by decide, by decide, ?_⟩
  intro hexplains
  exact absurd (hexplains ⟨some "x", "a"⟩) (by decide)

end Relisting

end Informer

end GatewaySync
