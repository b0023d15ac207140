import GatewaySync.Proofs.Amendments

/-!
# Restarts one after the other

The stamp of a restart is written as text and read back by the next one, and
between the two the clock may stand still or run backwards.  Still every restart
moves the stamp on.  So over any number of restarts the pod template is never
the one of an earlier restart, and nothing in the Deployment has changed but the
two annotations.
-/

namespace GatewaySync

open Text.Decimal

theorem Text.Decimal.int64Of?_range {text : String} {n : Int}
    (hread : int64Of? text = some n) : int64Min ≤ n ∧ n ≤ int64Max := by
  rw [int64Of?, Option.filter_eq_some_iff] at hread
  simpa using hread.2

namespace Rollout

/-- A restart that is asked for: the hash of the document that the pods are going
to start with, and what the clock reads. -/
structure Restart where
  hash : String
  reading : Int
deriving DecidableEq, Repr

/-- The clock reads a signed 64-bit integer. -/
def Restart.IsTimed (r : Restart) : Prop := int64Min ≤ r.reading ∧ r.reading ≤ int64Max

instance (r : Restart) : Decidable r.IsTimed :=
  inferInstanceAs (Decidable (int64Min ≤ r.reading ∧ r.reading ≤ int64Max))

/-- The stamp of a restart can be read back. -/
theorem nextStamp_range (previous : Option Int) {now : Int}
    (hnow : int64Min ≤ now ∧ now ≤ int64Max) :
    int64Min ≤ nextStamp previous now ∧ nextStamp previous now ≤ int64Max := by
  cases previous with
  | none => exact hnow
  | some previous =>
      rw [nextStamp]
      split
      · exact wrap_range _
      · exact hnow

/-- Below the greatest stamp the next one is one more, or the clock. -/
theorem nextStamp_eq_max {previous : Int}
    (hprevious : int64Min ≤ previous ∧ previous < int64Max) (now : Int) :
    nextStamp (some previous) now = max (previous + 1) now := by
  rw [nextStamp, wrap_of_fits (by omega)]
  split <;> omega

end Rollout

open Rollout (Restart)

namespace Deployment

/-- The Deployment after some restarts, in order. -/
def afterRestarts (d : Deployment) (restarts : List Restart) : Deployment :=
  restarts.foldl (fun d r => d.restarted r.hash r.reading) d

/-- None of the restarts finds the greatest stamp that can be read. -/
def HasRoomFor (d : Deployment) : List Restart → Prop
  | [] => True
  | r :: later =>
    d.previousStamp? ≠ some int64Max ∧ (d.restarted r.hash r.reading).HasRoomFor later

/-- The stamp is a decimal that can be read back, and greater than the one of the
other Deployment, if that one can be read.  Besides the two annotations nothing
is different. -/
structure Overtakes (new old : Deployment) : Prop where
  stamp : ∃ stamp, new.stampText? = some (String.ofList (ofInt stamp)) ∧
    new.previousStamp? = some stamp ∧
    ∀ previous, old.previousStamp? = some previous → previous < stamp
  metadata : new.metadata = old.metadata
  rest : old.SameButRollout new

theorem previousStamp?_restarted (d : Deployment) (hash : String) {now : Int}
    (hnow : int64Min ≤ now ∧ now ≤ int64Max) :
    (d.restarted hash now).previousStamp? = some (Rollout.nextStamp d.previousStamp? now) := by
  rw [previousStamp?_eq, stampText?_restarted, Option.bind_some, int64Of?_ofInt,
    if_pos (Rollout.nextStamp_range _ hnow)]

/-- A stamp that was read has 64 bits. -/
theorem previousStamp?_range {d : Deployment} {previous : Int}
    (hprevious : d.previousStamp? = some previous) :
    int64Min ≤ previous ∧ previous ≤ int64Max := by
  rw [previousStamp?_eq] at hprevious
  obtain ⟨text, -, htext⟩ := Option.bind_eq_some_iff.1 hprevious
  exact int64Of?_range htext

/-- A stamp that leaves room is followed by the next number, or by the clock. -/
theorem nextStamp_of_hasRoom {d : Deployment} {previous : Int}
    (hprevious : d.previousStamp? = some previous) (hroom : d.previousStamp? ≠ some int64Max)
    (now : Int) : Rollout.nextStamp d.previousStamp? now = max (previous + 1) now := by
  have hrange := previousStamp?_range hprevious
  have hne : previous ≠ int64Max := fun heq => hroom (heq ▸ hprevious)
  rw [hprevious]
  exact Rollout.nextStamp_eq_max (by omega) now

theorem le_nextStamp_of_hasRoom {d : Deployment} (hroom : d.previousStamp? ≠ some int64Max)
    (now : Int) : now ≤ Rollout.nextStamp d.previousStamp? now := by
  cases hprevious : d.previousStamp? with
  | none => exact Int.le_refl now
  | some previous =>
      rw [← hprevious, nextStamp_of_hasRoom hprevious hroom]
      exact Int.le_max_right _ _

theorem overtakes_restarted {d : Deployment} (hash : String) {now : Int}
    (hnow : int64Min ≤ now ∧ now ≤ int64Max) (hroom : d.previousStamp? ≠ some int64Max) :
    (d.restarted hash now).Overtakes d where
  stamp := by
    refine ⟨_, stampText?_restarted d hash now, previousStamp?_restarted d hash hnow, ?_⟩
    intro previous hprevious
    rw [nextStamp_of_hasRoom hprevious hroom]
    omega
  metadata := rfl
  rest := d.sameButRollout_restarted hash now

theorem SameButRollout.trans {old middle new : Deployment} (hfirst : old.SameButRollout middle)
    (hthen : middle.SameButRollout new) : old.SameButRollout new where
  metadata := by
    rw [Metadata.SameButVersion, hthen.metadata, hfirst.metadata]
  status := hthen.status.trans hfirst.status
  spec := by
    obtain ⟨annotations, hkept, hmiddle⟩ := hfirst.spec
    obtain ⟨annotations', hkept', hnew⟩ := hthen.spec
    refine ⟨annotations', ?_, ?_⟩
    · intro name hstamp hhash
      have htemplate : middle.templateAnnotations? = some annotations := by
        rw [templateAnnotations?, hmiddle]
        rfl
      rw [hkept' name hstamp hhash, htemplate]
      exact hkept name hstamp hhash
    · rw [hnew, hmiddle]
      rfl

namespace Overtakes

variable {new middle old : Deployment}

theorem trans (hnew : new.Overtakes middle) (hmiddle : middle.Overtakes old) :
    new.Overtakes old where
  stamp := by
    obtain ⟨stamp, htext, hread, hlt⟩ := hnew.stamp
    obtain ⟨stamp', -, hread', hlt'⟩ := hmiddle.stamp
    refine ⟨stamp, htext, hread, ?_⟩
    intro previous hprevious
    exact (hlt' previous hprevious).trans (hlt stamp' hread')
  metadata := hnew.metadata.trans hmiddle.metadata
  rest := hmiddle.rest.trans hnew.rest

/-- Texts that are alike would be read alike. -/
theorem stampText?_ne (hnew : new.Overtakes old) : new.stampText? ≠ old.stampText? := by
  obtain ⟨stamp, -, hread, hlt⟩ := hnew.stamp
  intro hsame
  have hprevious : old.previousStamp? = some stamp := by
    rw [previousStamp?_eq, ← hsame, ← previousStamp?_eq, hread]
  exact lt_irrefl stamp (hlt stamp hprevious)

end Overtakes

theorem afterRestarts_append (d : Deployment) (before after : List Restart) :
    d.afterRestarts (before ++ after) = (d.afterRestarts before).afterRestarts after :=
  List.foldl_append ..

theorem HasRoomFor.append {d : Deployment} {before after : List Restart}
    (hroom : d.HasRoomFor (before ++ after)) :
    d.HasRoomFor before ∧ (d.afterRestarts before).HasRoomFor after := by
  induction before generalizing d with
  | nil => exact ⟨trivial, hroom⟩
  | cons r before ih =>
      obtain ⟨hfirst, hlater⟩ := hroom
      exact ⟨⟨hfirst, (ih hlater).1⟩, (ih hlater).2⟩

/-- However many restarts there are, the last one is ahead of where they began. -/
theorem overtakes_afterRestarts {d : Deployment} {restarts : List Restart}
    (hsome : restarts ≠ []) (htimed : ∀ r ∈ restarts, r.IsTimed) (hroom : d.HasRoomFor restarts) :
    (d.afterRestarts restarts).Overtakes d := by
  induction restarts generalizing d with
  | nil => exact absurd rfl hsome
  | cons r later ih =>
      have hfirst := overtakes_restarted r.hash (htimed r List.mem_cons_self) hroom.1
      cases hlater : later with
      | nil => exact hfirst
      | cons =>
          rw [← hlater]
          have hrest := ih (by simp [hlater]) (fun r' hr' => htimed r' (List.mem_cons_of_mem _ hr'))
            hroom.2
          exact hrest.trans hfirst

/-- In a row of restarts each one records the hash of its document and moves the
stamp on, to a decimal that is not behind the clock, whatever the clocks read and
whatever text was there before.  Between any two moments of the row the text of
the stamp has changed, and nothing but the two annotations has. -/
theorem restarts_move_stamp_on (d : Deployment) (restarts : List Restart)
    (htimed : ∀ r ∈ restarts, r.IsTimed) (hroom : d.HasRoomFor restarts) :
    (∀ before r after, restarts = before ++ r :: after →
      let old := d.afterRestarts before
      let new := d.afterRestarts (before ++ [r])
      new.rolledFor? = some r.hash ∧
      (∃ stamp, new.previousStamp? = some stamp ∧ r.reading ≤ stamp) ∧
      new.Overtakes old ∧ new.stampText? ≠ old.stampText?) ∧
    ∀ before between after, restarts = before ++ between ++ after → between ≠ [] →
      let old := d.afterRestarts before
      let new := d.afterRestarts (before ++ between)
      new.Overtakes old ∧ new.stampText? ≠ old.stampText? := by
  have hmoves : ∀ before between after, restarts = before ++ between ++ after → between ≠ [] →
      (d.afterRestarts (before ++ between)).Overtakes (d.afterRestarts before) := by
    rintro before between after rfl hsome
    rw [afterRestarts_append]
    apply overtakes_afterRestarts hsome
    · exact fun r hr => htimed r (by simp [hr])
    · exact hroom.append.1.append.2
  refine ⟨?each, fun before between after hsplit hsome => ?_⟩
  case each =>
    rintro before r after rfl
    have hovertakes := hmoves before [r] after (by simp) (by simp)
    have hlast : d.afterRestarts (before ++ [r]) =
        (d.afterRestarts before).restarted r.hash r.reading := by
      rw [afterRestarts_append]
      rfl
    refine ⟨?_, ?_, hovertakes, hovertakes.stampText?_ne⟩
    · rw [hlast, rolledFor?_restarted]
    · rw [hlast]
      refine ⟨_, previousStamp?_restarted _ r.hash (htimed r (by simp)), ?_⟩
      exact le_nextStamp_of_hasRoom hroom.append.2.1 _
  have hovertakes := hmoves before between after hsplit hsome
  exact ⟨hovertakes, hovertakes.stampText?_ne⟩

/-- A Deployment without anything around the annotations. -/
def bare : Deployment where
  metadata := { name := some "gitkubed", ns := some "kube-system" }

/-- The clock stands still and then runs backwards. -/
def backwards : List Restart := [⟨"a", 10⟩, ⟨"b", 10⟩, ⟨"c", -5⟩]

theorem restarts_move_stamp_on_backwards :
    (∀ r ∈ backwards, r.IsTimed) ∧ bare.HasRoomFor backwards ∧
      (bare.afterRestarts backwards).rolledFor? = some "c" ∧
      (bare.afterRestarts backwards).stampText? = some "12" ∧
      (bare.afterRestarts backwards).Overtakes (bare.afterRestarts [⟨"a", 10⟩]) := by
  have htimed : ∀ r ∈ backwards, r.IsTimed := by decide
  have hroom : bare.HasRoomFor backwards := by
    refine ⟨?_, ?_, ?_, trivial⟩ <;> decide +kernel
  obtain ⟨heach, hbetween⟩ := restarts_move_stamp_on bare backwards htimed hroom
  exact ⟨htimed, hroom, (heach [⟨"a", 10⟩, ⟨"b", 10⟩] ⟨"c", -5⟩ [] rfl).1, by decide +kernel,
    (hbetween [⟨"a", 10⟩] [⟨"b", 10⟩, ⟨"c", -5⟩] [] rfl (by simp)).1⟩

end Deployment

end GatewaySync
