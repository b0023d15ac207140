import GatewaySync.WorkQueue
import Mathlib.Data.Finset.Insert
import Mathlib.Data.Finset.Erase
import Mathlib.Data.List.Nodup

/-!
# A queue as its history shows it

From outside a queue is seen by its history: keys are added, handed out and
released, and at some point the queue is closed.  A roster is the plainest queue
with such a history.  It has distinct ready keys, a set of leased keys, and
among these the ones that are to run again.

What a roster holds can be read off the history alone.  Keys are handed out in
the order in which they became ready, and a key is ready or is to run again
exactly if it was added since it was last handed out.
-/

namespace GatewaySync

/-- What is seen of a queue from outside. -/
inductive QueueEvent (κ : Type u) where
  | added (key : κ)
  | handedOut (key : κ)
  | released (key : κ)
  | closed
deriving DecidableEq, Repr

/-- The events so far, the latest first. -/
abbrev QueueHistory (κ : Type u) := List (QueueEvent κ)

/-- Distinct ready keys, which are handed out in this order, and the leased
keys.  A leased key is never ready: it may be marked to run again. -/
structure Roster (κ : Type u) where
  ready : List κ := []
  leased : Finset κ := ∅
  rerun : Finset κ := ∅
  closed : Bool := false
  nodup : ready.Nodup := by simp
  notMem_leased : ∀ key ∈ ready, key ∉ leased := by simp
  rerun_subset : rerun ⊆ leased := by simp

variable {κ : Type u} [DecidableEq κ]

namespace QueueHistory

/-- The key was handed out and has not been released since. -/
def IsLeased (key : κ) : QueueHistory κ → Prop
  | [] => False
  | .handedOut other :: past => other = key ∨ IsLeased key past
  | .released other :: past => other ≠ key ∧ IsLeased key past
  | .added _ :: past | .closed :: past => IsLeased key past

/-- The key was added since it was last handed out. -/
def IsAwaited (key : κ) : QueueHistory κ → Prop
  | [] => False
  | .added other :: past => other = key ∨ IsAwaited key past
  | .handedOut other :: past => other ≠ key ∧ IsAwaited key past
  | .released _ :: past | .closed :: past => IsAwaited key past

instance decidableIsLeased (key : κ) :
    (history : QueueHistory κ) → Decidable (IsLeased key history)
  | [] => inferInstanceAs (Decidable False)
  | .handedOut other :: past =>
    have := decidableIsLeased key past
    inferInstanceAs (Decidable (other = key ∨ IsLeased key past))
  | .released other :: past =>
    have := decidableIsLeased key past
    inferInstanceAs (Decidable (other ≠ key ∧ IsLeased key past))
  | .added _ :: past | .closed :: past => decidableIsLeased key past

instance decidableIsAwaited (key : κ) :
    (history : QueueHistory κ) → Decidable (IsAwaited key history)
  | [] => inferInstanceAs (Decidable False)
  | .added other :: past =>
    have := decidableIsAwaited key past
    inferInstanceAs (Decidable (other = key ∨ IsAwaited key past))
  | .handedOut other :: past =>
    have := decidableIsAwaited key past
    inferInstanceAs (Decidable (other ≠ key ∧ IsAwaited key past))
  | .released _ :: past | .closed :: past => decidableIsAwaited key past

/-- The keys that were handed out, in this order. -/
def handedOut : QueueHistory κ → List κ
  | [] => []
  | .handedOut key :: past => handedOut past ++ [key]
  | .added _ :: past | .released _ :: past | .closed :: past => handedOut past

/-- The keys that became ready, in this order.  The first addition makes a key
ready unless it is leased; the release of the lease does if it was added
meanwhile.  Nothing becomes ready in a closed queue. -/
def becameReady : QueueHistory κ → List κ
  | [] => []
  | .added key :: past =>
    if .closed ∉ past ∧ ¬IsLeased key past ∧ ¬IsAwaited key past then
      becameReady past ++ [key]
    else becameReady past
  | .released key :: past =>
    if .closed ∉ past ∧ IsAwaited key past then becameReady past ++ [key]
    else becameReady past
  | .handedOut _ :: past | .closed :: past => becameReady past

omit [DecidableEq κ] in
/-- In other words, one of the additions was not followed by a handing out. -/
theorem isAwaited_iff_exists {key : κ} {history : QueueHistory κ} :
    IsAwaited key history ↔
      ∃ since past, history = since ++ .added key :: past ∧ .handedOut key ∉ since := by
  induction history with
  | nil => simp [IsAwaited]
  | cons event history ih =>
      have hlater : (∃ since past, event :: history = since ++ .added key :: past ∧
            .handedOut key ∉ since) ↔
          event = .added key ∨ event ≠ .handedOut key ∧ IsAwaited key history := by
        rw [ih]
        constructor
        · rintro ⟨_ | ⟨first, since⟩, past, heq, hnot⟩
          · exact .inl (List.cons.inj heq).1
          · obtain ⟨rfl, rfl⟩ := List.cons.inj heq
            simp only [List.mem_cons, not_or] at hnot
            exact .inr ⟨Ne.symm hnot.1, since, past, rfl, hnot.2⟩
        · rintro (rfl | ⟨hne, since, past, rfl, hnot⟩)
          · exact ⟨[], history, rfl, by simp⟩
          · exact ⟨event :: since, past, rfl, by simp [Ne.symm hne, hnot]⟩
      rw [hlater]
      cases event <;> simp [IsAwaited]

end QueueHistory

namespace Roster

/-- An added key becomes ready, or is marked if it is leased. -/
def add (r : Roster κ) (key : κ) : Roster κ :=
  if r.closed then r
  else if hleased : key ∈ r.leased then
    { r with
      rerun := insert key r.rerun
      rerun_subset := Finset.insert_subset hleased r.rerun_subset }
  else if hready : key ∈ r.ready then r
  else
    { r with
      ready := r.ready ++ [key]
      nodup := by simpa using List.Nodup.concat hready r.nodup
      notMem_leased := by
        simp only [List.mem_append, List.mem_singleton]
        rintro other (hother | rfl)
        · exact r.notMem_leased other hother
        · exact hleased }

/-- Leases the first ready key. -/
def next (r : Roster κ) : Poll κ × Roster κ :=
  if r.closed then (.closed, r)
  else
    match hready : r.ready with
    | [] => (.pending, r)
    | key :: rest =>
      (.item key, { r with
        ready := rest
        leased := insert key r.leased
        nodup := by
          have hnodup := r.nodup
          rw [hready] at hnodup
          exact hnodup.of_cons
        notMem_leased := by
          intro other hother
          have hnodup := r.nodup
          rw [hready, List.nodup_cons] at hnodup
          have hunleased := r.notMem_leased other (by simp [hready, hother])
          simp only [Finset.mem_insert, not_or]
          exact ⟨fun heq => hnodup.1 (heq ▸ hother), hunleased⟩
        rerun_subset := r.rerun_subset.trans (Finset.subset_insert _ _) })

/-- Ends a lease.  A marked key becomes ready. -/
def release (r : Roster κ) (key : κ) : Roster κ :=
  let unmarked := { r with
    leased := r.leased.erase key
    rerun := r.rerun.erase key
    notMem_leased := fun other hother hleased =>
      r.notMem_leased other hother (Finset.mem_of_mem_erase hleased)
    rerun_subset := Finset.erase_subset_erase key r.rerun_subset }
  if hmarked : ¬r.closed ∧ key ∈ r.rerun then
    { unmarked with
      ready := r.ready ++ [key]
      nodup := by
        have hleased := r.rerun_subset hmarked.2
        have hunready : key ∉ r.ready := fun hready => r.notMem_leased key hready hleased
        simpa using List.Nodup.concat hunready r.nodup
      notMem_leased := by
        simp only [List.mem_append, List.mem_singleton]
        rintro other (hother | rfl)
        · exact unmarked.notMem_leased other hother
        · exact Finset.notMem_erase other r.leased }
  else unmarked

/-- From here on nothing becomes ready or is handed out. -/
def close (r : Roster κ) : Roster κ := { r with closed := true }

/-- The roster after an event, if it can happen: only the first ready key is
handed out, and only leased keys are released. -/
def follow? (r : Roster κ) : QueueEvent κ → Option (Roster κ)
  | .added key => some (r.add key)
  | .handedOut key => if r.next.1 = .item key then some r.next.2 else none
  | .released key => if key ∈ r.leased then some (r.release key) else none
  | .closed => some r.close

/-- The roster with a history, if there is one. -/
def after? : QueueHistory κ → Option (Roster κ)
  | [] => some {}
  | event :: past => (after? past).bind (·.follow? event)

/-- Adding a key again changes nothing. -/
theorem add_of_mem {r : Roster κ} {key : κ} (hmem : key ∈ r.ready ∨ key ∈ r.rerun) :
    r.add key = r := by
  rw [add]
  split
  · rfl
  · split
    · rename_i hleased
      have hmarked : key ∈ r.rerun :=
        hmem.resolve_left fun hready => r.notMem_leased key hready hleased
      cases r
      simpa using hmarked
    · rename_i hleased
      rw [dif_pos (hmem.resolve_right fun hrerun => hleased (r.rerun_subset hrerun))]

/-- A roster hands out its first ready key, or it has none to hand out. -/
theorem next_cases (r : Roster κ) :
    (r.next.2 = r ∧ ∀ key, r.next.1 ≠ .item key) ∨
      ∃ key, r.closed = false ∧ r.next.1 = .item key ∧
        r.ready = key :: r.next.2.ready ∧ r.next.2.leased = insert key r.leased ∧
        r.next.2.rerun = r.rerun ∧ r.next.2.closed = false := by
  rw [next]
  split
  · simp
  · rename_i hopen
    split
    · simp
    · rename_i key rest hready
      simpa [hready] using hopen

/-! ## What the history tells -/

/-- Everything that a roster holds shows in its history. -/
structure Reflects (r : Roster κ) (history : QueueHistory κ) : Prop where
  closed : r.closed = true ↔ .closed ∈ history
  leased : ∀ key, key ∈ r.leased ↔ history.IsLeased key
  awaited : r.closed = false → ∀ key, (key ∈ r.ready ∨ key ∈ r.rerun) ↔ history.IsAwaited key
  order : history.handedOut ++ r.ready = history.becameReady

variable {r : Roster κ} {past history : QueueHistory κ} {key : κ}

theorem reflects_empty : Reflects ({} : Roster κ) [] where
  closed := by simp
  leased := by simp [QueueHistory.IsLeased]
  awaited := by simp [QueueHistory.IsAwaited]
  order := rfl

/-- The key is neither ready nor leased exactly if an addition makes it ready. -/
theorem Reflects.becomesReady_iff (hr : r.Reflects past) (key : κ) :
    (.closed ∉ past ∧ ¬past.IsLeased key ∧ ¬past.IsAwaited key) ↔
      r.closed = false ∧ key ∉ r.leased ∧ key ∉ r.ready := by
  rw [← hr.closed, ← hr.leased, Bool.not_eq_true]
  apply and_congr_right
  intro hopen
  rw [← hr.awaited hopen]
  apply and_congr_right
  intro hleased
  have hunmarked : key ∉ r.rerun := fun hmem => hleased (r.rerun_subset hmem)
  simp [hunmarked]

theorem Reflects.add (hr : r.Reflects past) (key : κ) :
    (r.add key).Reflects (.added key :: past) := by
  have hready := hr.becomesReady_iff key
  rw [Roster.add]
  split
  · rename_i hclosed
    refine ⟨by simp [hr.closed], hr.leased, by simp [hclosed], ?_⟩
    rw [QueueHistory.becameReady, if_neg (by simp [hready, hclosed])]
    exact hr.order
  · rename_i hopen
    split
    · rename_i hleased
      refine ⟨by simp [hr.closed], hr.leased, ?_, ?_⟩
      · intro hopen other
        simp [QueueHistory.IsAwaited, ← hr.awaited hopen, eq_comm, or_left_comm]
      · rw [QueueHistory.becameReady, if_neg (by simp [hready, hleased])]
        exact hr.order
    · rename_i hleased
      split
      · rename_i hmem
        refine ⟨by simp [hr.closed], hr.leased, ?_, ?_⟩
        · intro hopen other
          rw [QueueHistory.IsAwaited, ← hr.awaited hopen]
          apply Iff.symm
          apply or_iff_right_of_imp
          rintro rfl
          exact .inl hmem
        · rw [QueueHistory.becameReady, if_neg (by simp [hready, hmem])]
          exact hr.order
      · rename_i hmem
        refine ⟨by simp [hr.closed], hr.leased, ?_, ?_⟩
        · intro hopen other
          simp [QueueHistory.IsAwaited, ← hr.awaited hopen, eq_comm, or_left_comm, or_comm]
        · rw [QueueHistory.becameReady, if_pos (by simpa [hready, hmem, hleased] using hopen)]
          simp [QueueHistory.handedOut, ← hr.order]

/-- Handing out a key leases it and settles what was added before. -/
theorem Reflects.next (hr : r.Reflects past) (hnext : r.next.1 = .item key) :
    r.next.2.Reflects (.handedOut key :: past) := by
  obtain ⟨-, hnone⟩ | ⟨first, hopen, hfirst, hready, hleased, hrerun, hopen'⟩ := r.next_cases
  · exact absurd hnext (hnone key)
  · obtain rfl : first = key := by simpa [hfirst] using hnext
    have hunleased : first ∉ r.leased := r.notMem_leased first (by simp [hready])
    have hrest : first ∉ r.next.2.ready := by
      have hnodup := r.nodup
      rw [hready, List.nodup_cons] at hnodup
      exact hnodup.1
    constructor
    · simp [hopen', ← hr.closed, hopen]
    · intro other
      rw [hleased, Finset.mem_insert, hr.leased, QueueHistory.IsLeased, eq_comm]
    · intro _ other
      rw [QueueHistory.IsAwaited, ← hr.awaited hopen, hready, hrerun]
      by_cases hother : first = other
      · subst hother
        have hunmarked : first ∉ r.rerun := fun hmem => hunleased (r.rerun_subset hmem)
        simp [hrest, hunmarked]
      · simp [hother, Ne.symm hother]
    · rw [QueueHistory.handedOut, QueueHistory.becameReady, ← hr.order, hready]
      simp

/-- A key that is released is ready again if it was added meanwhile. -/
theorem Reflects.release (hr : r.Reflects past) (hleased : key ∈ r.leased) :
    (r.release key).Reflects (.released key :: past) := by
  have hunready : key ∉ r.ready := fun hmem => r.notMem_leased key hmem hleased
  have hmarked : (.closed ∉ past ∧ past.IsAwaited key) ↔
      r.closed = false ∧ key ∈ r.rerun := by
    rw [← hr.closed, Bool.not_eq_true]
    apply and_congr_right
    intro hopen
    rw [← hr.awaited hopen]
    simp [hunready]
  rw [Roster.release]
  dsimp only
  split
  · rename_i hrerun
    rw [Bool.not_eq_true] at hrerun
    refine ⟨by simp [hr.closed], ?_, ?_, ?_⟩
    · simp [QueueHistory.IsLeased, hr.leased, eq_comm]
    · intro hopen other
      rw [QueueHistory.IsAwaited, ← hr.awaited hopen]
      by_cases hother : other = key
      · simp [hother, hrerun.2]
      · simp [hother]
    · rw [QueueHistory.becameReady, if_pos (hmarked.2 hrerun), ← hr.order]
      simp [QueueHistory.handedOut]
  · rename_i hrerun
    rw [Bool.not_eq_true] at hrerun
    refine ⟨by simp [hr.closed], ?_, ?_, ?_⟩
    · simp [QueueHistory.IsLeased, hr.leased, eq_comm]
    · intro hopen other
      rw [QueueHistory.IsAwaited, ← hr.awaited hopen]
      by_cases hother : other = key
      · have hunmarked : key ∉ r.rerun := fun hmem => hrerun ⟨hopen, hmem⟩
        simp [hother, hunmarked, hunready]
      · simp [hother]
    · rw [QueueHistory.becameReady, if_neg (fun h => hrerun (hmarked.1 h)), ← hr.order]
      simp [QueueHistory.handedOut]

theorem Reflects.close (hr : r.Reflects past) : r.close.Reflects (.closed :: past) where
  closed := by simp [Roster.close]
  leased := hr.leased
  awaited := by simp [Roster.close]
  order := hr.order

/-- A roster holds what its history tells. -/
theorem reflects_of_after? (hafter : after? history = some r) : r.Reflects history := by
  induction history generalizing r with
  | nil =>
      obtain rfl := Option.some.inj hafter
      exact reflects_empty
  | cons event past ih =>
      rw [after?, Option.bind_eq_some_iff] at hafter
      obtain ⟨before, hbefore, hfollow⟩ := hafter
      have hreflects := ih hbefore
      cases event with
      | added key =>
          obtain rfl := Option.some.inj hfollow
          exact hreflects.add key
      | handedOut key =>
          rw [follow?, Option.ite_none_right_eq_some] at hfollow
          obtain ⟨hnext, hsame⟩ := hfollow
          obtain rfl := Option.some.inj hsame
          exact hreflects.next hnext
      | released key =>
          rw [follow?, Option.ite_none_right_eq_some] at hfollow
          obtain ⟨hleased, hsame⟩ := hfollow
          obtain rfl := Option.some.inj hsame
          exact hreflects.release hleased
      | closed =>
          obtain rfl := Option.some.inj hfollow
          exact hreflects.close

end Roster

end GatewaySync
