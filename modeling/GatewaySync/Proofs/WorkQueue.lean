import GatewaySync.WorkQueue
import Mathlib.Data.List.Nodup

/-!
# What a work queue owes

A key that was added to an open queue is owed: it is marked, or it waits for
its delay.  Only handing it out settles the debt.  In a sound queue every marked
key is pending or leased, so a queue in which nothing is pending, leased or
delayed owes nothing.
-/

namespace GatewaySync.WorkQueue

variable {κ : Type u} [DecidableEq κ]

/-- The key is going to be handed out. -/
def Owes (q : WorkQueue κ) (k : κ) : Prop :=
  k ∈ q.dirty ∨ ∃ timer ∈ q.delayed, timer.key = k

structure Sound (q : WorkQueue κ) : Prop where
  nodup : q.pending.Nodup
  dirty_of_pending : ∀ k ∈ q.pending, k ∈ q.dirty
  not_leased_of_pending : ∀ k ∈ q.pending, k ∉ q.leased
  covered : ∀ k ∈ q.dirty, k ∈ q.pending ∨ k ∈ q.leased

/-- What needs work is pending or leased. -/
def IsCovered (q : WorkQueue κ) : Prop := ∀ k ∈ q.dirty, k ∈ q.pending ∨ k ∈ q.leased

/-- There is nothing to hand out, now or later, and nothing is leased. -/
structure IsQuiet (q : WorkQueue κ) : Prop where
  pending : q.pending = []
  leased : q.leased = []
  delayed : q.delayed = []

omit [DecidableEq κ] in
theorem Sound.not_owes {q : WorkQueue κ} (hsound : q.Sound) (hquiet : q.IsQuiet)
    (k : κ) : ¬q.Owes k := by
  rintro (hdirty | ⟨timer, htimer, -⟩)
  · rcases hsound.covered k hdirty with hpending | hleased
    · rw [hquiet.pending] at hpending
      cases hpending
    · rw [hquiet.leased] at hleased
      cases hleased
  · rw [hquiet.delayed] at htimer
    cases htimer

variable {q : WorkQueue κ} {k k' : κ}

@[simp]
theorem mem_without {keys : List κ} : k' ∈ without keys k ↔ k' ∈ keys ∧ k' ≠ k := by
  simp [without]

omit [DecidableEq κ] in
theorem mem_insertTimer {timer other : Timer κ} {timers : List (Timer κ)} :
    other ∈ insertTimer timer timers ↔ other = timer ∨ other ∈ timers := by
  have hsplit := List.takeWhile_append_dropWhile
    (p := fun other : Timer κ => decide (other.due ≤ timer.due)) (l := timers)
  conv_rhs => rw [← hsplit]
  rw [insertTimer]
  simp only [List.mem_append, List.mem_cons]
  exact or_left_comm

/-! ## Adding -/

@[simp]
theorem closed_add : (q.add k).closed = q.closed := by
  rw [add]
  split
  · rfl
  · split <;> rfl

@[simp]
theorem leased_add : (q.add k).leased = q.leased := by
  rw [add]
  split
  · rfl
  · split <;> rfl

@[simp]
theorem name_add : (q.add k).name = q.name := by
  rw [add]
  split
  · rfl
  · split <;> rfl

@[simp]
theorem delayed_add : (q.add k).delayed = q.delayed := by
  rw [add]
  split
  · rfl
  · split <;> rfl

@[simp]
theorem mem_dirty_add (hopen : q.closed = false) :
    k' ∈ (q.add k).dirty ↔ k' = k ∨ k' ∈ q.dirty := by
  rw [add]
  split
  · rename_i hskip
    have hdirty : k ∈ q.dirty := by simpa [hopen] using hskip
    constructor
    · exact .inr
    · rintro (rfl | hmem)
      · exact hdirty
      · exact hmem
  · split <;> exact List.mem_cons

theorem IsCovered.add (hq : q.IsCovered) (k : κ) : (q.add k).IsCovered := by
  rw [WorkQueue.add]
  split
  · exact hq
  · split
    · rename_i hleased
      intro k' hmem
      rcases List.mem_cons.1 hmem with rfl | hmem
      · exact .inr hleased
      · exact hq k' hmem
    · intro k' hmem
      rcases List.mem_cons.1 hmem with rfl | hmem
      · exact .inl (List.mem_append_right _ List.mem_cons_self)
      · exact (hq k' hmem).imp (List.mem_append_left _) id

theorem Sound.add (hsound : q.Sound) (k : κ) : (q.add k).Sound := by
  have hcovered := IsCovered.add hsound.covered k
  rw [WorkQueue.add] at hcovered ⊢
  split
  · exact hsound
  · rename_i hskip
    have hdirty : k ∉ q.dirty := fun hmem => hskip (.inr hmem)
    rw [if_neg hskip] at hcovered
    split
    · rename_i hleased
      rw [if_pos hleased] at hcovered
      refine ⟨hsound.nodup, ?_, hsound.not_leased_of_pending, hcovered⟩
      intro k' hpending
      exact List.mem_cons_of_mem _ (hsound.dirty_of_pending k' hpending)
    · rename_i hleased
      rw [if_neg hleased] at hcovered
      refine ⟨?_, ?_, ?_, hcovered⟩
      · rw [← List.concat_eq_append]
        exact List.Nodup.concat
          (fun hmem => hdirty (hsound.dirty_of_pending k hmem)) hsound.nodup
      · intro k' hpending
        rcases List.mem_append.1 hpending with hpending | hpending
        · exact List.mem_cons_of_mem _ (hsound.dirty_of_pending k' hpending)
        · exact List.mem_cons.2 (.inl (List.mem_singleton.1 hpending))
      · intro k' hpending
        rcases List.mem_append.1 hpending with hpending | hpending
        · exact hsound.not_leased_of_pending k' hpending
        · exact List.mem_singleton.1 hpending ▸ hleased

theorem owes_add_iff (hopen : q.closed = false) :
    (q.add k).Owes k' ↔ k' = k ∨ q.Owes k' := by
  rw [Owes, mem_dirty_add hopen, delayed_add, Owes, or_assoc]

theorem owes_addAfter_iff (hopen : q.closed = false) (delay : Nanos) :
    (q.addAfter k delay).Owes k' ↔ k' = k ∨ q.Owes k' := by
  rw [addAfter, if_neg (by simp [hopen])]
  split
  · exact owes_add_iff hopen
  · simp only [Owes, mem_insertTimer]
    constructor
    · rintro (hdirty | ⟨timer, rfl | htimer, rfl⟩)
      · exact .inr (.inl hdirty)
      · exact .inl rfl
      · exact .inr (.inr ⟨timer, htimer, rfl⟩)
    · rintro (rfl | hdirty | ⟨timer, htimer, rfl⟩)
      · exact .inr ⟨_, .inl rfl, rfl⟩
      · exact .inl hdirty
      · exact .inr ⟨timer, .inr htimer, rfl⟩

theorem IsCovered.addAfter (hq : q.IsCovered) (k : κ) (delay : Nanos) :
    (q.addAfter k delay).IsCovered := by
  rw [WorkQueue.addAfter]
  split
  · exact hq
  · split
    · exact hq.add k
    · exact hq

theorem Sound.addAfter (hsound : q.Sound) (k : κ) (delay : Nanos) :
    (q.addAfter k delay).Sound := by
  rw [WorkQueue.addAfter]
  split
  · exact hsound
  · split
    · exact hsound.add k
    · exact ⟨hsound.nodup, hsound.dirty_of_pending, hsound.not_leased_of_pending,
        hsound.covered⟩

@[simp]
theorem closed_addAfter (delay : Nanos) : (q.addAfter k delay).closed = q.closed := by
  rw [addAfter]
  split
  · rfl
  · split
    · exact closed_add
    · rfl

@[simp]
theorem leased_addAfter (delay : Nanos) : (q.addAfter k delay).leased = q.leased := by
  rw [addAfter]
  split
  · rfl
  · split
    · exact leased_add
    · rfl

@[simp]
theorem name_addAfter (delay : Nanos) : (q.addAfter k delay).name = q.name := by
  rw [addAfter]
  split
  · rfl
  · split
    · exact name_add
    · rfl

omit [DecidableEq κ] in
/-- A sound queue stays sound whatever is counted or waits in it. -/
theorem Sound.of_same {q' : WorkQueue κ} (hsound : q.Sound)
    (hpending : q'.pending = q.pending) (hdirty : q'.dirty = q.dirty)
    (hleased : q'.leased = q.leased) : q'.Sound := by
  constructor
  · rw [hpending]
    exact hsound.nodup
  · rw [hpending, hdirty]
    exact hsound.dirty_of_pending
  · rw [hpending, hleased]
    exact hsound.not_leased_of_pending
  · rw [hpending, hdirty, hleased]
    exact hsound.covered

/-- The queue with one more failure of the key counted. -/
def withFailure (q : WorkQueue κ) (k : κ) : WorkQueue κ :=
  { q with failures := q.failures.set k (min (q.retries k + 1) maxFailures) }

/-- A key that has failed is counted and then added with the delay of its earlier failures. -/
theorem addRateLimited_eq (q : WorkQueue κ) (k : κ) :
    q.addRateLimited k = (q.withFailure k).addAfter k (q.retry.delay (q.retries k)) := rfl

theorem owes_addRateLimited_iff (hopen : q.closed = false) :
    (q.addRateLimited k).Owes k' ↔ k' = k ∨ q.Owes k' :=
  owes_addAfter_iff (q := q.withFailure k) hopen _

theorem Sound.addRateLimited (hsound : q.Sound) (k : κ) :
    (q.addRateLimited k).Sound := by
  have hcounted : (q.withFailure k).Sound := hsound.of_same rfl rfl rfl
  exact hcounted.addAfter k _

@[simp]
theorem closed_addRateLimited : (q.addRateLimited k).closed = q.closed :=
  closed_addAfter _

@[simp]
theorem leased_addRateLimited : (q.addRateLimited k).leased = q.leased :=
  leased_addAfter _

@[simp]
theorem name_addRateLimited : (q.addRateLimited k).name = q.name :=
  name_addAfter _

/-! ## A closed queue takes no keys -/

theorem add_of_closed (hclosed : q.closed = true) (k : κ) : q.add k = q := by
  rw [add, if_pos (.inl hclosed)]

theorem addAfter_of_closed (hclosed : q.closed = true) (k : κ) (delay : Nanos) :
    q.addAfter k delay = q := by
  rw [addAfter, if_pos hclosed]

theorem foldl_add_of_closed (hclosed : q.closed = true) (timers : List (Timer κ)) :
    timers.foldl (fun q timer => q.add timer.key) q = q := by
  induction timers with
  | nil => rfl
  | cons timer rest ih => rw [List.foldl_cons, add_of_closed hclosed, ih]

/-! ## Handing out and taking back -/

/-- A queue hands out its first pending key, or it has none to hand out. -/
theorem next_cases (q : WorkQueue κ) :
    (∃ poll, q.next = (poll, q) ∧ ∀ k, poll ≠ .item k) ∨
    ∃ k rest, q.closed = false ∧ q.pending = k :: rest ∧
      q.next = (.item k, { q with
        pending := rest, dirty := without q.dirty k, leased := k :: without q.leased k }) := by
  rw [next]
  split
  · exact .inl ⟨.closed, rfl, fun k heq => by cases heq⟩
  · rename_i hopen
    cases hpending : q.pending with
    | nil => exact .inl ⟨.pending, rfl, fun k heq => by cases heq⟩
    | cons k rest => exact .inr ⟨k, rest, by simpa using hopen, rfl, rfl⟩

theorem IsCovered.next (hq : q.IsCovered) : q.next.2.IsCovered := by
  obtain ⟨poll, hnext, -⟩ | ⟨k, rest, -, hpending, hnext⟩ := q.next_cases
  · rw [hnext]
    exact hq
  · rw [hnext]
    intro k' hdirty
    obtain ⟨hdirty, hne⟩ := mem_without.1 hdirty
    rcases hq k' hdirty with hmem | hleased
    · rw [hpending] at hmem
      exact .inl ((List.mem_cons.1 hmem).resolve_left hne)
    · exact .inr (List.mem_cons_of_mem _ (mem_without.2 ⟨hleased, hne⟩))

theorem Sound.next (hsound : q.Sound) : q.next.2.Sound := by
  have hcovered := IsCovered.next hsound.covered
  obtain ⟨poll, hnext, -⟩ | ⟨k, rest, -, hpending, hnext⟩ := q.next_cases
  · rw [hnext]
    exact hsound
  · rw [hnext] at hcovered ⊢
    have hnodup : (k :: rest).Nodup := hpending ▸ hsound.nodup
    have hrest : ∀ k' ∈ rest, k' ∈ q.pending ∧ k' ≠ k := by
      intro k' hmem
      refine ⟨hpending ▸ List.mem_cons_of_mem _ hmem, ?_⟩
      rintro rfl
      exact (List.nodup_cons.1 hnodup).1 hmem
    refine ⟨(List.nodup_cons.1 hnodup).2, ?_, ?_, hcovered⟩
    · intro k' hmem
      obtain ⟨hmem, hne⟩ := hrest k' hmem
      exact mem_without.2 ⟨hsound.dirty_of_pending k' hmem, hne⟩
    · intro k' hmem hleased
      obtain ⟨hmem, hne⟩ := hrest k' hmem
      have hleased := (List.mem_cons.1 hleased).resolve_left hne
      exact hsound.not_leased_of_pending k' hmem (mem_without.1 hleased).1

@[simp]
theorem closed_release : (q.release k).closed = q.closed := by
  rw [release]
  dsimp only
  split <;> rfl

@[simp]
theorem name_release : (q.release k).name = q.name := by
  rw [release]
  dsimp only
  split <;> rfl

@[simp]
theorem leased_release : (q.release k).leased = without q.leased k := by
  rw [release]
  dsimp only
  split <;> rfl

theorem owes_release_iff : (q.release k).Owes k' ↔ q.Owes k' := by
  rw [release]
  dsimp only
  split <;> exact Iff.rfl

theorem IsCovered.release (hq : q.IsCovered) (hopen : q.closed = false) (k : κ) :
    (q.release k).IsCovered := by
  rw [WorkQueue.release]
  dsimp only
  split
  · intro k' hmem
    by_cases hk : k' = k
    · exact .inl (List.mem_append_right _ (List.mem_singleton.2 hk))
    · exact (hq k' hmem).imp (List.mem_append_left _) fun h => mem_without.2 ⟨h, hk⟩
  · rename_i hdirty
    intro k' hmem
    have hne : k' ≠ k := by
      rintro rfl
      exact hdirty ⟨by simp [hopen], hmem⟩
    exact (hq k' hmem).imp id fun h => mem_without.2 ⟨h, hne⟩

/-- Releasing a leased key makes it pending again if it was added meanwhile. -/
theorem Sound.release (hsound : q.Sound) (hopen : q.closed = false)
    (hleased : k ∈ q.leased) : (q.release k).Sound := by
  have hpending : k ∉ q.pending := fun hmem =>
    hsound.not_leased_of_pending k hmem hleased
  have hcovered := IsCovered.release hsound.covered hopen k
  rw [WorkQueue.release] at hcovered ⊢
  dsimp only at hcovered ⊢
  split
  · rename_i hdirty
    rw [if_pos hdirty] at hcovered
    refine ⟨?_, ?_, ?_, hcovered⟩
    · rw [← List.concat_eq_append]
      exact List.Nodup.concat hpending hsound.nodup
    · intro k' hmem
      rcases List.mem_append.1 hmem with hmem | hmem
      · exact hsound.dirty_of_pending k' hmem
      · exact List.mem_singleton.1 hmem ▸ hdirty.2
    · intro k' hmem hleased'
      obtain ⟨hleased', hne⟩ := mem_without.1 hleased'
      rcases List.mem_append.1 hmem with hmem | hmem
      · exact hsound.not_leased_of_pending k' hmem hleased'
      · exact hne (List.mem_singleton.1 hmem)
  · rename_i hdirty
    rw [if_neg hdirty] at hcovered
    refine ⟨hsound.nodup, hsound.dirty_of_pending, ?_, hcovered⟩
    intro k' hmem hleased'
    exact hsound.not_leased_of_pending k' hmem (mem_without.1 hleased').1

/-! ## Time -/

theorem foldl_add_induction {motive : WorkQueue κ → Prop} {timers : List (Timer κ)}
    (hadd : ∀ q k, motive q → motive (q.add k)) (hq : motive q) :
    motive (timers.foldl (fun q timer => q.add timer.key) q) := by
  induction timers generalizing q with
  | nil => exact hq
  | cons timer rest ih => exact ih (hadd q timer.key hq)

@[simp]
theorem closed_advanceTo (instant : Nanos) :
    (q.advanceTo instant).closed = q.closed := by
  rw [advanceTo]
  exact foldl_add_induction (motive := fun q' => q'.closed = q.closed)
    (fun _ _ h => closed_add.trans h) rfl

@[simp]
theorem leased_advanceTo (instant : Nanos) :
    (q.advanceTo instant).leased = q.leased := by
  rw [advanceTo]
  exact foldl_add_induction (motive := fun q' => q'.leased = q.leased)
    (fun _ _ h => leased_add.trans h) rfl

@[simp]
theorem name_advanceTo (instant : Nanos) : (q.advanceTo instant).name = q.name := by
  rw [advanceTo]
  exact foldl_add_induction (motive := fun q' => q'.name = q.name)
    (fun _ _ h => name_add.trans h) rfl

theorem Sound.advanceTo (hsound : q.Sound) (instant : Nanos) :
    (q.advanceTo instant).Sound := by
  rw [WorkQueue.advanceTo]
  exact foldl_add_induction (fun _ k h => h.add k) (hsound.of_same rfl rfl rfl)

theorem owes_foldl_add_iff {timers : List (Timer κ)} (hopen : q.closed = false) :
    (timers.foldl (fun q timer => q.add timer.key) q).Owes k' ↔
      (∃ timer ∈ timers, timer.key = k') ∨ q.Owes k' := by
  induction timers generalizing q with
  | nil => simp
  | cons timer rest ih =>
      rw [List.foldl_cons, ih (closed_add.trans hopen), owes_add_iff hopen]
      simp only [List.exists_mem_cons_iff, or_assoc, or_left_comm, eq_comm]

/-- The passing of time moves debts but neither makes nor settles any. -/
theorem owes_advanceTo_iff (hopen : q.closed = false) (instant : Nanos) :
    (q.advanceTo instant).Owes k' ↔ q.Owes k' := by
  rw [WorkQueue.advanceTo, owes_foldl_add_iff (by exact hopen)]
  simp only [Owes, List.mem_filter, decide_eq_true_eq]
  constructor
  · rintro (⟨timer, ⟨hmem, -⟩, hkey⟩ | hdirty | ⟨timer, ⟨hmem, -⟩, hkey⟩)
    · exact .inr ⟨timer, hmem, hkey⟩
    · exact .inl hdirty
    · exact .inr ⟨timer, hmem, hkey⟩
  · rintro (hdirty | ⟨timer, hmem, hkey⟩)
    · exact .inr (.inl hdirty)
    · by_cases hdue : timer.due ≤ instant
      · exact .inl ⟨timer, ⟨hmem, hdue⟩, hkey⟩
      · exact .inr (.inr ⟨timer, ⟨hmem, hdue⟩, hkey⟩)

end GatewaySync.WorkQueue
