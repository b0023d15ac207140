import GatewaySync.Proofs.Lanes

/-!
# How the phase moves on

Starting, waiting for the caches, the stop signal, the closing of the queues and
the end of the drain each move a run on in at most one way, and otherwise do
nothing.  Whatever holds of all these ways holds of every one of them, so nothing
else has to look into how they decide.
-/

namespace GatewaySync

/-! ## The wait for the listings -/

theorem Kind.mem_all (kind : Kind) : kind ∈ Kind.all := by cases kind <;> decide

namespace Cluster

variable {c : Cluster} {results : List Bool}

theorem listing?_eq_some_iff {kind : Kind} {result : Bool} :
    c.listing? kind = some result ↔
      result = c.isListed kind ∧ (c.isListed kind = true ∨ c.follows kind = false) := by
  rw [listing?]
  cases c.isListed kind <;> cases c.follows kind <;> cases result <;> decide

theorem mapM_listing?_eq_some_iff {kinds : List Kind} :
    kinds.mapM c.listing? = some results ↔
      results = kinds.map c.isListed ∧
        ∀ kind ∈ kinds, c.isListed kind = true ∨ c.follows kind = false := by
  induction kinds generalizing results with
  | nil =>
      rw [List.mapM_nil]
      exact ⟨fun heq => ⟨(Option.some.inj heq).symm, nofun⟩, fun h => congrArg some h.1.symm⟩
  | cons kind rest ih =>
      simp only [List.mapM_cons, Option.bind_eq_bind, Option.bind_eq_some_iff, Option.pure_def,
        Option.some.injEq, listing?_eq_some_iff, ih, List.map_cons, List.forall_mem_cons]
      constructor
      · rintro ⟨_, ⟨rfl, hfirst⟩, _, ⟨rfl, hrest⟩, rfl⟩
        exact ⟨rfl, hfirst, hrest⟩
      · rintro ⟨rfl, hfirst, hrest⟩
        exact ⟨_, ⟨rfl, hfirst⟩, _, ⟨rfl, hrest⟩, rfl⟩

/-- The wait is over when each cache was filled or has no informer any more, and it
comes to which of them were filled. -/
theorem listings?_eq_some_iff :
    c.listings? = some results ↔
      results = Kind.all.map c.isListed ∧
        ∀ kind, c.isListed kind = true ∨ c.follows kind = false := by
  rw [listings?, mapM_listing?_eq_some_iff]
  exact and_congr_right fun _ =>
    ⟨fun hover kind => hover kind kind.mem_all, fun hover kind _ => hover kind⟩

theorem all_isListed_iff :
    (Kind.all.map c.isListed).all id = true ↔ ∀ kind, c.isListed kind = true := by
  simp only [List.all_map, List.all_eq_true, Function.comp_apply, id_eq]
  exact ⟨fun hall kind => hall kind kind.mem_all, fun hall kind _ => hall kind⟩

end Cluster

namespace Controller

variable {c c' : Controller} {h : Handler}

theorem lane_setPhase (phase : Phase) : ({ c with phase } : Controller).lane h = c.lane h := by
  cases h <;> rfl

theorem isClosed_iff : c.isClosed = true ↔ ∀ h, (c.lane h).queue.closed = true := by
  simp only [isClosed, List.all_eq_true]
  refine ⟨fun hall h => hall h ?_, fun hall h _ => hall h⟩
  cases h <;> decide

/-! ## The ways to move on -/

/-- How a run can move on. -/
inductive Proceeds (c : Controller) : Controller → Prop where
  | stays : c.Proceeds c
  | fills (hphase : c.phase = .created) (deadline : Nanos) :
      c.Proceeds { c with phase := .filling deadline }
  | opens {deadline : Nanos} (hphase : c.phase = .filling deadline)
      (hlisted : ∀ kind, c.cluster.isListed kind = true) : c.Proceeds { c with phase := .running }
  | fails {deadline : Nanos} (hphase : c.phase = .filling deadline) (reason : String) :
      c.Proceeds (c.giveUp reason)
  | stops (hphase : c.phase = .running) : c.Proceeds { c with phase := .draining }
  | closes {h : Handler} (hover : c.isOver = true) (hopen : (c.lane h).queue.closed = false) :
      c.Proceeds (c.mapQueue h WorkQueue.close)
  | ends (hphase : c.phase = .draining) (hclosed : c.isClosed = true)
      (hdrained : c.isDrained = true) : c.Proceeds { c with phase := .ended (.ok ()) }

/-- What a run does on its own account, beside its workers. -/
inductive Move where
  | start
  | endListings
  | timeOut
  | stop
  | closeNext
  | endDrain

def move (c : Controller) : Move → Controller
  | .start => c.start
  | .endListings => c.endListings
  | .timeOut => c.timeOut
  | .stop => c.stop
  | .closeNext => c.closeNext
  | .endDrain => c.endDrain

theorem proceeds_start (c : Controller) : c.Proceeds c.start := by
  rw [start]
  split
  · rename_i hphase
    exact .fills hphase _
  · exact .stays

theorem proceeds_endListings (c : Controller) : c.Proceeds c.endListings := by
  rw [endListings]
  split
  · rename_i hphase hlistings
    obtain ⟨rfl, -⟩ := Cluster.listings?_eq_some_iff.1 hlistings
    split
    · rename_i hall
      exact .opens hphase (Cluster.all_isListed_iff.1 hall)
    · exact .fails hphase _
  · exact .stays

theorem proceeds_timeOut (c : Controller) : c.Proceeds c.timeOut := by
  rw [timeOut]
  split
  · rename_i hphase
    split
    · exact .fails hphase _
    · exact .stays
  · exact .stays

theorem proceeds_stop (c : Controller) : c.Proceeds c.stop := by
  rw [stop]
  split
  · rename_i hphase
    exact .fails hphase _
  · rename_i hphase
    exact .stops hphase
  · exact .stays

theorem proceeds_closeNext (c : Controller) : c.Proceeds c.closeNext := by
  rw [closeNext]
  split
  · rename_i hfound
    split
    · rename_i hover
      have hopen := List.find?_some hfound
      exact .closes hover (by simpa using hopen)
    · exact .stays
  · exact .stays

theorem proceeds_endDrain (c : Controller) : c.Proceeds c.endDrain := by
  rw [endDrain]
  split
  · rename_i hphase
    split
    · rename_i hend
      obtain ⟨hclosed, hdrained⟩ := Bool.and_eq_true_iff.1 hend
      exact .ends hphase hclosed hdrained
    · exact .stays
  · exact .stays

theorem proceeds_move (c : Controller) (m : Move) : c.Proceeds (c.move m) := by
  cases m with
  | start => exact proceeds_start c
  | endListings => exact proceeds_endListings c
  | timeOut => exact proceeds_timeOut c
  | stop => exact proceeds_stop c
  | closeNext => exact proceeds_closeNext c
  | endDrain => exact proceeds_endDrain c

theorem Proceeds.cluster_eq (hproceeds : c.Proceeds c') : c'.cluster = c.cluster := by
  cases hproceeds with
  | closes => exact cluster_setLane _
  | stays | fills | opens | fails | stops | ends => rfl

/-- A worker is not disturbed, and a queue keeps its name. -/
theorem Proceeds.lane_eq (hproceeds : c.Proceeds c') (h : Handler) :
    c'.lane h = c.lane h ∨
      c.isOver = true ∧ c'.lane h = { c.lane h with queue := (c.lane h).queue.close } := by
  cases hproceeds with
  | stays => exact .inl rfl
  | fills | opens | stops | ends => exact .inl (lane_setPhase _)
  | fails => exact .inl (lane_setPhase _)
  | @closes h' hover =>
      rw [lane_mapQueue]
      split
      · rename_i heq
        rw [heq]
        exact .inr ⟨hover, rfl⟩
      · exact .inl rfl

/-! ## The end of the wait -/

variable {deadline : Nanos} {kind : Kind}

theorem endListings_of_listed (hphase : c.phase = .filling deadline)
    (hlisted : ∀ kind, c.cluster.isListed kind = true) :
    c.endListings = { c with phase := .running } := by
  have hlistings := Cluster.listings?_eq_some_iff.2 ⟨rfl, fun kind => .inl (hlisted kind)⟩
  rw [endListings, hphase, hlistings]
  exact if_pos (Cluster.all_isListed_iff.2 hlisted)

theorem endListings_of_dropped (hphase : c.phase = .filling deadline)
    (hover : ∀ kind, c.cluster.isListed kind = true ∨ c.cluster.follows kind = false)
    (hmissing : c.cluster.isListed kind = false) :
    c.endListings = c.giveUp "an informer stopped before its initial listing" := by
  have hnotAll : ¬(Kind.all.map c.cluster.isListed).all id = true := fun hall => by
    rw [Cluster.all_isListed_iff.1 hall kind] at hmissing
    cases hmissing
  rw [endListings, hphase, Cluster.listings?_eq_some_iff.2 ⟨rfl, hover⟩]
  exact if_neg hnotAll

/-- As long as one listing may still come, it is waited for. -/
theorem endListings_of_awaited (hmissing : c.cluster.isListed kind = false)
    (hfollowed : c.cluster.follows kind = true) : c.endListings = c := by
  rw [endListings]
  split
  · rename_i hlistings
    obtain hlisted | hunfollowed := (Cluster.listings?_eq_some_iff.1 hlistings).2 kind
    · rw [hmissing] at hlisted
      cases hlisted
    · rw [hfollowed] at hunfollowed
      cases hunfollowed
  · rfl

theorem timeOut_of_late (hphase : c.phase = .filling deadline) (hlate : deadline ≤ c.now) :
    c.timeOut = c.giveUp ("caches not synced after " ++
      toString (c.settings.cacheSyncTimeout / 1000000000) ++ "s") := by
  rw [timeOut, hphase]
  exact if_pos hlate

/-! ## Closing the queues -/

@[simp]
theorem phase_closeNext (c : Controller) : c.closeNext.phase = c.phase := by
  rw [closeNext]
  split
  · split
    · exact phase_setLane _
    · rfl
  · rfl

theorem closed_closeNext (hclosed : (c.lane h).queue.closed = true) :
    (c.closeNext.lane h).queue.closed = true := by
  obtain hsame | ⟨-, hclose⟩ := (proceeds_closeNext c).lane_eq h
  · rw [hsame]
    exact hclosed
  · rw [hclose]
    rfl

/-- A run that is to end closes a queue when those before it are closed. -/
theorem closed_closeNext_of_first (before : List Handler) {after : List Handler}
    (hover : c.isOver = true) (hall : Handler.all = before ++ h :: after)
    (hbefore : ∀ k ∈ before, (c.lane k).queue.closed = true) :
    (c.closeNext.lane h).queue.closed = true := by
  by_cases hclosed : (c.lane h).queue.closed = true
  · exact closed_closeNext hclosed
  · have hfound : Handler.all.find? (fun k => !(c.lane k).queue.closed) = some h := by
      rw [hall, List.find?_append, List.find?_eq_none.2 (by simpa using hbefore)]
      simp [hclosed]
    rw [closeNext, hfound]
    dsimp only
    rw [if_pos hover, lane_mapQueue, if_pos rfl]
    rfl

theorem isClosed_closeQueues (hover : c.isOver = true) : c.closeQueues.isClosed = true := by
  have hover₁ : c.closeNext.isOver = true := by rw [isOver, phase_closeNext, ← isOver, hover]
  have hover₂ : c.closeNext.closeNext.isOver = true := by
    rw [isOver, phase_closeNext, ← isOver, hover₁]
  have hremote : (c.closeNext.lane .remote).queue.closed = true :=
    closed_closeNext_of_first [] hover rfl nofun
  have hconfigMap : (c.closeNext.closeNext.lane .configMap).queue.closed = true :=
    closed_closeNext_of_first [.remote] hover₁ rfl (by simpa using hremote)
  have hgateway : (c.closeQueues.lane .gateway).queue.closed = true :=
    closed_closeNext_of_first [.remote, .configMap] hover₂ rfl
      (by simpa using ⟨closed_closeNext hremote, hconfigMap⟩)
  rw [isClosed_iff]
  intro h
  cases h with
  | remote => exact closed_closeNext (closed_closeNext hremote)
  | configMap => exact closed_closeNext hconfigMap
  | gateway => exact hgateway

/-! ## What the run returns -/

theorem returned?_eq_some_iff {result : Except Failure Unit} :
    c.returned? = some result ↔ c.phase = .ended result ∧ c.isClosed = true := by
  rw [returned?]
  split
  · rename_i hphase
    split
    · rename_i hclosed
      simp [hphase, hclosed]
    · rename_i hopen
      simp [hopen]
  · rename_i hunended
    exact ⟨nofun, fun h => absurd h.1 (hunended result)⟩

theorem returned?_closeQueues {result : Except Failure Unit} (hended : c.phase = .ended result) :
    c.closeQueues.returned? = some result := by
  rw [returned?_eq_some_iff]
  refine ⟨?_, isClosed_closeQueues (by rw [isOver, hended])⟩
  rw [closeQueues, phase_closeNext, phase_closeNext, phase_closeNext, hended]

end Controller

end GatewaySync
