import GatewaySync.Proofs.Lanes

/-!
# Lanes that wind down

A closed queue takes no keys in and hands none out.  Whatever the controller
does to a lane leaves the leased key to the worker that holds it; and once the
queue is closed, the worker may end its pass and begins no other.
-/

namespace GatewaySync

/-! ## Closed queues -/

namespace WorkQueue

variable {q : WorkQueue String} {key : String}

/-- A closed queue hands out nothing, and takes nothing in: what happens to it only
releases keys and lets delayed ones fall due. -/
structure WindsDown (q q' : WorkQueue String) : Prop where
  closed : q'.closed = true
  pending : q'.pending = q.pending
  dirty : q'.dirty = q.dirty
  delayed : q'.delayed ⊆ q.delayed
  leased : q'.leased ⊆ q.leased

theorem WindsDown.refl (hclosed : q.closed = true) : q.WindsDown q :=
  ⟨hclosed, rfl, rfl, List.Subset.refl _, List.Subset.refl _⟩

theorem WindsDown.trans {q' q'' : WorkQueue String} (hfirst : q.WindsDown q')
    (hsecond : q'.WindsDown q'') : q.WindsDown q'' where
  closed := hsecond.closed
  pending := hsecond.pending.trans hfirst.pending
  dirty := hsecond.dirty.trans hfirst.dirty
  delayed := List.Subset.trans hsecond.delayed hfirst.delayed
  leased := List.Subset.trans hsecond.leased hfirst.leased

theorem windsDown_afterPass (hclosed : q.closed = true) (result : Except Abort Unit) :
    q.WindsDown (q.afterPass key result) := by
  have hforget : q.WindsDown (q.forget key) :=
    ⟨hclosed, rfl, rfl, List.Subset.refl _, List.Subset.refl _⟩
  cases result with
  | ok _ => exact hforget
  | error reason =>
      rw [afterPass]
      split
      · rw [addRateLimited, addAfter_of_closed (by exact hclosed)]
        exact ⟨hclosed, rfl, rfl, List.Subset.refl _, List.Subset.refl _⟩
      · exact hforget

theorem windsDown_release (hclosed : q.closed = true) : q.WindsDown (q.release key) := by
  rw [release]
  dsimp only
  rw [if_neg (by simp [hclosed])]
  exact ⟨hclosed, rfl, rfl, List.Subset.refl _, fun k hk => (mem_without.1 hk).1⟩

theorem windsDown_advanceTo (hclosed : q.closed = true) (instant : Nanos) :
    q.WindsDown (q.advanceTo instant) := by
  rw [advanceTo, foldl_add_of_closed (by exact hclosed)]
  exact ⟨hclosed, rfl, rfl, List.filter_subset_self _, List.Subset.refl _⟩

end WorkQueue

/-! ## Lanes -/

namespace Lane

variable {l l' : Lane}

/-- The queue is closed, and the worker begins no pass but may end one. -/
structure WindsDown (l l' : Lane) : Prop where
  queue : l.queue.WindsDown l'.queue
  worker : ∀ k, l'.key? = some k → l.key? = some k

theorem WindsDown.refl (hclosed : l.queue.closed = true) : l.WindsDown l :=
  ⟨.refl hclosed, fun _ => id⟩

theorem WindsDown.trans {l'' : Lane} (hfirst : l.WindsDown l') (hsecond : l'.WindsDown l'') :
    l.WindsDown l'' :=
  ⟨hfirst.queue.trans hsecond.queue, fun k hk => hfirst.worker k (hsecond.worker k hk)⟩

theorem addAll_of_closed (hclosed : l.queue.closed = true) (keys : List String) :
    l.addAll keys = l := by
  rw [addAll]
  induction keys with
  | nil => rfl
  | cons key rest ih => rw [List.foldl_cons, WorkQueue.add_of_closed hclosed, ih]

/-- What one step makes of a lane: the leased key stays the one that the worker
holds, and a closed queue winds down. -/
structure Follows (l l' : Lane) : Prop where
  agrees : l.Agrees → l'.Agrees
  windsDown : l.queue.closed = true → l.WindsDown l'

theorem Follows.refl (l : Lane) : l.Follows l := ⟨id, .refl⟩

theorem Follows.trans {l'' : Lane} (hfirst : l.Follows l') (hsecond : l'.Follows l'') :
    l.Follows l'' where
  agrees hl := hsecond.agrees (hfirst.agrees hl)
  windsDown hclosed :=
    (hfirst.windsDown hclosed).trans
      (hsecond.windsDown (hfirst.windsDown hclosed).queue.closed)

theorem follows_addAll (l : Lane) (keys : List String) : l.Follows (l.addAll keys) where
  agrees hl := hl.addAll keys
  windsDown hclosed := by
    rw [addAll_of_closed hclosed]
    exact .refl hclosed

theorem follows_close (l : Lane) : l.Follows { l with queue := l.queue.close } where
  agrees hl := hl
  windsDown _ := ⟨⟨rfl, rfl, rfl, List.Subset.refl _, List.Subset.refl _⟩, fun _ => id⟩

theorem follows_advanceTo (l : Lane) (instant : Nanos) :
    l.Follows { l with queue := l.queue.advanceTo instant } where
  agrees hl := hl.of_same (WorkQueue.leased_advanceTo instant) rfl
  windsDown hclosed := ⟨WorkQueue.windsDown_advanceTo hclosed instant, fun _ => id⟩

/-- A worker goes on with the key that it holds. -/
theorem follows_setWorker {w : WorkerState} (hkey : key? { l with worker := w } = l.key?) :
    l.Follows { l with worker := w } where
  agrees hl := hl.of_same rfl hkey
  windsDown hclosed := ⟨.refl hclosed, fun _ hk => hkey ▸ hk⟩

theorem follows_settle {key : String} (hkey : l.key? = some key) (result : Except Abort Unit) :
    l.Follows { queue := (l.queue.afterPass key result).release key } where
  agrees hl := hl.released hkey result
  windsDown hclosed :=
    have hafter := WorkQueue.windsDown_afterPass hclosed result
    ⟨hafter.trans (WorkQueue.windsDown_release hafter.closed), nofun⟩

end Lane

/-! ## What a step makes of the lanes -/

namespace Controller

variable {c : Controller} {h : Handler}

theorem follows_addAll (keys : List (Handler × String)) :
    (c.lane h).Follows ((c.addAll keys).lane h) := by
  rw [lane_addAll]
  exact Lane.follows_addAll _ _

theorem follows_hear (cluster : Cluster) :
    (c.lane h).Follows ((hear { c with cluster }).lane h) := by
  rw [hear_eq, lane_addAll]
  cases h <;> exact Lane.follows_addAll _ _

theorem follows_setWorker {h' : Handler} {w : WorkerState}
    (hkey : Lane.key? { c.lane h' with worker := w } = (c.lane h').key?) :
    (c.lane h).Follows ((c.setWorker h' w).lane h) := by
  rw [lane_setWorker]
  split
  · rename_i heq
    rw [heq]
    exact Lane.follows_setWorker hkey
  · exact .refl _

theorem follows_lease {h' : Handler} (hidle : (c.lane h').worker = .idle) :
    (c.lane h).Follows ((c.lease h').lane h) := by
  obtain ⟨poll, hnext, hnone⟩ | ⟨k, others, hopen, hpending, -⟩ :=
    (c.lane h').queue.next_cases
  · have hsame : c.lease h' = c := by
      rw [lease, hnext]
      cases poll with
      | item k => exact absurd rfl (hnone k)
      | closed | pending => rfl
    rw [hsame]
    exact .refl _
  · rw [lease_of_pending hopen hpending, lane_setLane]
    split
    · rename_i heq
      rw [heq]
      refine ⟨fun hl => hl.taking hidle k others _, fun hclosed => ?_⟩
      rw [hopen] at hclosed
      cases hclosed
    · exact .refl _

theorem follows_stepPass {h' : Handler} {key : String} {rest : Pass (List String)}
    (hworker : (c.lane h').worker = .leased key rest) :
    (c.lane h).Follows ((c.stepPass h' key rest).lane h) := by
  have hkey : (c.lane h').key? = some key := by rw [Lane.key?, hworker]
  have hend : ∀ result, (c.lane h).Follows ((c.endPass h' key result).lane h) := by
    intro result
    rw [endPass_eq]
    refine (follows_addAll _).trans (follows_setWorker ?_)
    rw [lane_addAll, Lane.key?_addAll, hkey]
    rfl
  obtain ⟨_, -, hdone⟩ | ⟨_, -, haborted⟩ | hcall := c.stepPass_cases h' key rest
  · rw [hdone]
    exact hend _
  · rw [haborted]
    exact hend _
  · rw [hcall]
    refine (follows_hear _).trans (follows_setWorker ?_)
    rw [hear_eq, lane_addAll, Lane.key?_addAll]
    cases h' <;> exact hkey.symm

theorem follows_settle {h' : Handler} {key : String} {result : Except Abort Unit}
    (hworker : (c.lane h').worker = .settling key result) :
    (c.lane h).Follows ((c.settle h' key result).lane h) := by
  obtain ⟨metrics, hsettle⟩ := c.settle_eq h' key result
  rw [hsettle, lane_setLane]
  split
  · rename_i heq
    rw [heq]
    exact Lane.follows_settle (by rw [Lane.key?, hworker]) result
  · rw [lane_setCluster]
    exact .refl _

end Controller

end GatewaySync
