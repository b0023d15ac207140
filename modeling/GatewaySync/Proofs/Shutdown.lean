import GatewaySync.Proofs.Requests
import GatewaySync.Proofs.Wakeups
import GatewaySync.WorkQueue.Waiting

/-!
# Shutting down

Whoever shuts a queue down, or polls a drain for the first time, closes it for
good.  A closed queue tells every worker so, and whatever is asked of it takes
keys away only.  A drain is over at the first poll that finds no key leased.

A room polls everybody who waits, in order.  The tasks of a lobby sleep through
a poll unless they were woken; since no wake-up is lost they miss nothing by it.
-/

namespace GatewaySync

variable {κ : Type u}

namespace WorkQueue

/-- The queue stays closed, and no key is pending or leased again. -/
structure StaysShut (q q' : WorkQueue κ) : Prop where
  closed : q'.closed = true
  pending : q'.pending = q.pending
  leased : q'.leased ⊆ q.leased

theorem StaysShut.refl {q : WorkQueue κ} (hclosed : q.closed = true) : q.StaysShut q :=
  ⟨hclosed, rfl, List.Subset.refl _⟩

theorem StaysShut.trans {q q' q'' : WorkQueue κ} (hfirst : q.StaysShut q')
    (hsecond : q'.StaysShut q'') : q.StaysShut q'' where
  closed := hsecond.closed
  pending := hsecond.pending.trans hfirst.pending
  leased := List.Subset.trans hsecond.leased hfirst.leased

variable [DecidableEq κ] {q : WorkQueue κ}

theorem next_of_closed (hclosed : q.closed = true) : q.next = (.closed, q) := by
  rw [next, if_pos hclosed]

theorem staysShut_serve (hclosed : q.closed = true) (request : Request κ) :
    q.StaysShut (q.serve request) := by
  cases request with
  | add key =>
      rw [serve, add_of_closed hclosed]
      exact .refl hclosed
  | addAfter key delay =>
      rw [serve, addAfter_of_closed hclosed]
      exact .refl hclosed
  | addRateLimited key =>
      rw [serve, addRateLimited, addAfter_of_closed (by exact hclosed)]
      exact ⟨hclosed, rfl, List.Subset.refl _⟩
  | advance time =>
      rw [serve, advance, advanceTo, foldl_add_of_closed (by exact hclosed)]
      exact ⟨hclosed, rfl, List.Subset.refl _⟩
  | forget key => exact ⟨hclosed, rfl, List.Subset.refl _⟩
  | next =>
      rw [serve, next_of_closed hclosed]
      exact .refl hclosed
  | release key =>
      rw [serve]
      refine ⟨closed_release.trans hclosed, ?_, ?_⟩
      · rw [release]
        dsimp only
        rw [if_neg (by simp [hclosed])]
      · rw [leased_release]
        exact List.filter_subset_self _
  | close => exact ⟨rfl, rfl, List.Subset.refl _⟩

end WorkQueue

/-! ## Rooms -/

namespace WaitingRoom

open WorkQueue (Request)

/-- What happens at a queue with those who wait for it. -/
inductive Visit (κ : Type u) where
  | ask (request : Request κ)
  | worker (id : String)
  | drain (id : String)
  /-- Everybody who waits is polled. -/
  | poll

variable [DecidableEq κ]

def visit (room : WaitingRoom κ) : Visit κ → WaitingRoom κ
  | .ask request => { room with queue := room.queue.serve request }
  | .worker id => room.arriveWorker id
  | .drain id => room.arriveDrain id
  | .poll => room.serve.2

def visitAll (room : WaitingRoom κ) (visits : List (Visit κ)) : WaitingRoom κ :=
  visits.foldl visit room

/-- The queue is shut down, or a drain is polled. -/
def Shuts (room : WaitingRoom κ) (v : Visit κ) : Prop :=
  v = .ask .close ∨ v = .poll ∧ room.drains ≠ []

/-- The queue as the workers leave it to the drains in a poll. -/
def polled (room : WaitingRoom κ) : WorkQueue κ := (serveWorkers room.queue room.workers).2.2

variable {room : WaitingRoom κ}

/-- The drains close the queue, and a poll ends them exactly if it finds no key
leased. -/
theorem serve_eq (room : WaitingRoom κ) :
    room.serve =
      ({ workers := (serveWorkers room.queue room.workers).1
         drains := if room.polled.leased = [] then room.drains else [] },
       { queue := if room.drains = [] then room.polled else room.polled.close
         workers := (serveWorkers room.queue room.workers).2.1
         drains := if room.polled.leased = [] then [] else room.drains }) := by
  have hleased : (if room.drains = [] then room.polled else room.polled.close).isDrained =
      room.polled.leased.isEmpty := by
    split <;> rfl
  rw [serve]
  simp only [List.isEmpty_iff]
  change (if (if room.drains = [] then room.polled else room.polled.close).isDrained = true
    then _ else _) = _
  rw [hleased]
  by_cases hdrained : room.polled.leased = []
  · rw [if_pos (List.isEmpty_iff.2 hdrained), if_pos hdrained, if_pos hdrained]
    rfl
  · rw [if_neg (mt List.isEmpty_iff.1 hdrained), if_neg hdrained, if_neg hdrained]
    rfl

theorem serveWorkers_of_closed {q : WorkQueue κ} (hclosed : q.closed = true) (ids : List String) :
    serveWorkers q ids = (ids.map fun id => (id, none), [], q) := by
  induction ids with
  | nil => rfl
  | cons id rest ih =>
      rw [serveWorkers, WorkQueue.next_of_closed hclosed]
      simp [ih]

theorem polled_of_closed (hclosed : room.queue.closed = true) : room.polled = room.queue := by
  rw [polled, serveWorkers_of_closed hclosed]

theorem closed_of_shuts {v : Visit κ} (hshuts : room.Shuts v) :
    (room.visit v).queue.closed = true := by
  obtain rfl | ⟨rfl, hdrains⟩ := hshuts
  · rfl
  · rw [visit, serve_eq]
    dsimp only
    rw [if_neg hdrains]
    rfl

theorem staysShut_visit (hclosed : room.queue.closed = true) (v : Visit κ) :
    room.queue.StaysShut (room.visit v).queue := by
  cases v with
  | ask request => exact WorkQueue.staysShut_serve hclosed request
  | worker id => exact .refl hclosed
  | drain id => exact .refl hclosed
  | poll =>
      rw [visit, serve_eq, polled_of_closed hclosed]
      dsimp only
      split
      · exact .refl hclosed
      · exact WorkQueue.staysShut_serve hclosed .close

theorem staysShut_visitAll (hclosed : room.queue.closed = true) (visits : List (Visit κ)) :
    room.queue.StaysShut (room.visitAll visits).queue := by
  induction visits generalizing room with
  | nil => exact .refl hclosed
  | cons v rest ih =>
      have hfirst := room.staysShut_visit hclosed v
      exact hfirst.trans (ih hfirst.closed)

/-- A drain waits as long as every poll finds a key leased. -/
theorem mem_drains_visitAll {id : String} (hwaits : id ∈ room.drains) {visits : List (Visit κ)}
    (hleased : ∀ first rest, visits = first ++ .poll :: rest →
      (room.visitAll first).polled.leased ≠ []) :
    id ∈ (room.visitAll visits).drains := by
  induction visits generalizing room with
  | nil => exact hwaits
  | cons v rest ih =>
      refine ih ?_ fun first later heq => hleased (v :: first) later (by rw [heq, List.cons_append])
      cases v with
      | ask request => exact hwaits
      | worker id => exact hwaits
      | drain id => exact List.mem_append_left _ hwaits
      | poll =>
          have hfirst : room.polled.leased ≠ [] := hleased [] rest rfl
          rw [visit, serve_eq]
          dsimp only
          rwa [if_neg hfirst]

end WaitingRoom

/-! ## Lobbies -/

namespace QueueCall

/-- What the section of a call asks of the queue. -/
def request : QueueCall κ → WorkQueue.Request κ
  | .add key => .add key
  | .done key => .release key
  | .shutDown | .drain => .close

theorem enter_eq_serve [DecidableEq κ] (q : WorkQueue κ) (call : QueueCall κ) :
    call.enter q = q.serve call.request := by
  cases call <;> rfl

end QueueCall

namespace Waiter

instance (stage : Waiter.Stage) : Decidable stage.IsUnwoken :=
  inferInstanceAs (Decidable (_ ∨ _))

variable [DecidableEq κ] {q q' : WorkQueue κ} {w : Waiter} {stage : Waiter.Stage}

/-- What a poll finds.  Who found nothing sleeps until it is woken, and looks
again then. -/
def poll (q : WorkQueue κ) (w : Waiter) (stage : Waiter.Stage) : Option (WorkQueue κ) :=
  if stage.IsUnwoken then none else w.look q

theorem look_of_not_isServable (hservable : ¬w.IsServable q) : w.look q = none := by
  cases w with
  | worker =>
      obtain ⟨hpending, hopen⟩ : q.pending = [] ∧ ¬q.closed = true := by
        simpa [IsServable] using hservable
      rw [look, WorkQueue.next, if_neg hopen, hpending]
  | drain =>
      rw [look]
      exact if_neg (mt List.isEmpty_iff.1 hservable)

theorem look_drain : Waiter.drain.look q = if q.leased = [] then some q else none := by
  rw [look]
  exact if_congr List.isEmpty_iff rfl rfl

theorem look_worker_of_closed (hclosed : q.closed = true) : Waiter.worker.look q = some q := by
  rw [look, WorkQueue.next_of_closed hclosed]

end Waiter

/-- The task has closed the queue. -/
def QueueTask.HasClosed : QueueTask κ → Prop
  | .notifying .shutDown | .notifying .drain => True
  | .waiting w _ => w = .drain
  | _ => False

theorem QueueTask.hasClosed_woken {t : QueueTask κ} : t.woken.HasClosed ↔ t.HasClosed := by
  cases t <;> rfl

namespace Lobby

variable [DecidableEq κ] {lobby lobby' start : Lobby κ} {q q' : WorkQueue κ}
  {before after : List (QueueTask κ)} {t t' : QueueTask κ} {w : Waiter} {stage : Waiter.Stage}

theorem staysShut_act (hclosed : lobby.queue.closed = true) (hact : Act lobby lobby') :
    lobby.queue.StaysShut lobby'.queue := by
  cases hact with
  | @call q before after call | @leave q before after call =>
      rw [QueueCall.enter_eq_serve]
      exact WorkQueue.staysShut_serve hclosed call.request
  | @serve q q' before after w completed hlook =>
      cases w with
      | worker =>
          rw [Waiter.look_worker_of_closed hclosed] at hlook
          obtain rfl := Option.some.inj hlook
          exact .refl hclosed
      | drain =>
          rw [Waiter.look_drain, Option.ite_none_right_eq_some] at hlook
          obtain rfl := Option.some.inj hlook.2
          exact .refl hclosed
  | notify | enable | miss | park | pass | wake => exact .refl hclosed

theorem staysShut_step (hclosed : lobby.queue.closed = true) (hstep : Step lobby lobby') :
    lobby.queue.StaysShut lobby'.queue := by
  cases hstep with
  | act hact => exact staysShut_act hclosed hact
  | arrive | arriveWorker | drop => exact .refl hclosed
  | @elsewhere q q' tasks hpending hdirty hleased hsame =>
      exact ⟨hsame.trans hclosed, hpending, hleased ▸ List.Subset.refl _⟩

theorem staysShut_of_run (hclosed : lobby.queue.closed = true)
    (hrun : Relation.ReflTransGen Step lobby lobby') : lobby.queue.StaysShut lobby'.queue := by
  induction hrun with
  | refl => exact .refl hclosed
  | tail _ hstep ih => exact ih.trans (staysShut_step ih.closed hstep)

omit [DecidableEq κ] in
/-- Whoever has closed the queue finds it closed. -/
def HonoursClosing (lobby : Lobby κ) : Prop :=
  ∀ t ∈ lobby.tasks, t.HasClosed → lobby.queue.closed = true

omit [DecidableEq κ] in
theorem honoursClosing_iff :
    HonoursClosing ⟨q, before ++ t :: after⟩ ↔
      (∀ task ∈ before, task.HasClosed → q.closed = true) ∧
      (t.HasClosed → q.closed = true) ∧
      ∀ task ∈ after, task.HasClosed → q.closed = true := by
  rw [HonoursClosing, List.forall_mem_append, List.forall_mem_cons]

omit [DecidableEq κ] in
/-- A task goes on. -/
theorem HonoursClosing.replace (hlobby : HonoursClosing ⟨q, before ++ t :: after⟩)
    (hstays : q.closed = true → q'.closed = true)
    (ht : t'.HasClosed → t.HasClosed ∨ q'.closed = true) :
    HonoursClosing ⟨q', before ++ t' :: after⟩ := by
  rw [honoursClosing_iff] at hlobby ⊢
  obtain ⟨hbefore, hmiddle, hafter⟩ := hlobby
  refine ⟨fun task hmem hclosed => hstays (hbefore task hmem hclosed), fun hclosed => ?_,
    fun task hmem hclosed => hstays (hafter task hmem hclosed)⟩
  obtain hsame | hdone := ht hclosed
  · exact hstays (hmiddle hsame)
  · exact hdone

theorem HonoursClosing.act (hlobby : lobby.HonoursClosing) (hact : Act lobby lobby') :
    lobby'.HonoursClosing := by
  have hstays := fun hclosed => (staysShut_act hclosed hact).closed
  cases hact with
  | @call q before after call =>
      refine hlobby.replace hstays fun ht => .inr ?_
      cases call with
      | shutDown | drain => rfl
      | add | done => cases ht
  | leave | serve => exact hlobby.replace hstays nofun
  | @notify q before after call =>
      rw [honoursClosing_iff] at hlobby ⊢
      obtain ⟨hbefore, hmiddle, hafter⟩ := hlobby
      have hwoken : ∀ {tasks : List (QueueTask κ)},
          (∀ task ∈ tasks, task.HasClosed → q.closed = true) →
            ∀ task ∈ tasks.map QueueTask.woken, task.HasClosed → q.closed = true := by
        intro tasks htasks
        rw [List.forall_mem_map]
        exact fun task hmem hclosed => htasks task hmem (QueueTask.hasClosed_woken.1 hclosed)
      refine ⟨hwoken hbefore, fun hclosed => hmiddle ?_, hwoken hafter⟩
      cases call with
      | drain => trivial
      | add | done | shutDown => cases hclosed
  | enable | miss | park | pass | wake => exact hlobby.replace hstays .inl

theorem HonoursClosing.step (hlobby : lobby.HonoursClosing) (hstep : Step lobby lobby') :
    lobby'.HonoursClosing := by
  have hnew : ∀ {q : WorkQueue κ} {tasks : List (QueueTask κ)} {t : QueueTask κ},
      HonoursClosing ⟨q, tasks⟩ → ¬t.HasClosed → HonoursClosing ⟨q, tasks ++ [t]⟩ := by
    intro q tasks t hlobby ht task hmem hclosed
    obtain hmem | hmem := List.mem_append.1 hmem
    · exact hlobby task hmem hclosed
    · exact absurd (List.mem_singleton.1 hmem ▸ hclosed) ht
  cases hstep with
  | act hact => exact hlobby.act hact
  | arrive call => exact hnew hlobby nofun
  | arriveWorker => exact hnew hlobby nofun
  | drop => exact hlobby.replace id nofun
  | @elsewhere q q' tasks hpending hdirty hleased hsame =>
      exact fun task hmem hclosed => hsame.trans (hlobby task hmem hclosed)

theorem honoursClosing_of_run (hstart : start.tasks = [])
    (hrun : Relation.ReflTransGen Step start lobby) : lobby.HonoursClosing := by
  induction hrun with
  | refl =>
      intro task hmem
      rw [hstart] at hmem
      cases hmem
  | tail _ hstep ih => exact ih.step hstep

/-! ## Polls -/

/-- When no call is under way, whoever sleeps through a poll would find nothing. -/
theorem IsWatchful.poll_eq_look (hlobby : lobby.IsWatchful) (hfinished : lobby.IsFinished)
    (hmem : .waiting w stage ∈ lobby.tasks) :
    w.poll lobby.queue stage = w.look lobby.queue := by
  rw [Waiter.poll]
  split
  · rename_i hunwoken
    refine (Waiter.look_of_not_isServable fun hservable => ?_).symm
    exact hfinished.not_isNotifying (hlobby w stage hmem hunwoken hservable)
  · rfl

/-- What a poll leaves: a task that has returned, or one that sleeps. -/
def settled (q : WorkQueue κ) (before : List (QueueTask κ)) (w : Waiter)
    (after : List (QueueTask κ)) : Option (WorkQueue κ) → Lobby κ
  | some q' => ⟨q', before ++ .returned :: after⟩
  | none => ⟨q, before ++ .waiting w (.parked false) :: after⟩

theorem acts_of_fresh (before after : List (QueueTask κ)) :
    Relation.ReflTransGen Act ⟨q, before ++ .waiting w .fresh :: after⟩
      (settled q before w after (w.look q)) := by
  refine .head .enable ?_
  cases hlook : w.look q with
  | some q' => exact .single (.serve hlook)
  | none => exact .head (.miss hlook) (.single .park)

/-- A waiter that is polled, and left alone meanwhile, returns or goes to sleep. -/
theorem acts_of_poll (before after : List (QueueTask κ)) (stage : Waiter.Stage) :
    Relation.ReflTransGen Act ⟨q, before ++ .waiting w stage :: after⟩
      (settled q before w after (w.poll q stage)) := by
  have hfresh := acts_of_fresh (q := q) (w := w) before after
  cases stage with
  | fresh => exact hfresh
  | enabled completed =>
      change Relation.ReflTransGen Act _ (settled q before w after (w.look q))
      cases hlook : w.look q with
      | some q' => exact .single (.serve hlook)
      | none =>
          rw [hlook] at hfresh
          cases completed with
          | false => exact .head (.miss hlook) (.single .park)
          | true => exact .head (.miss hlook) (.head .pass hfresh)
  | looked completed =>
      cases completed with
      | false => exact .single .park
      | true => exact .head .pass hfresh
  | parked completed =>
      cases completed with
      | false => exact .refl
      | true => exact .head .wake hfresh

end Lobby

/-! ## What is final, and when drains end -/

namespace WorkQueue

variable [DecidableEq κ]

open Relation (ReflTransGen)
open WaitingRoom (Visit)

/-- Shutting a queue down closes it, and so does the first poll of a drain.  From
then on it stays closed, takes no key in and hands none out, and every waiting
worker is told so at its next poll.  A poll ends the drains exactly if it finds no
key leased, and until then they wait.

Tasks that take their steps in any order keep to this too, and a poll is made of
such steps.  Whoever has closed the queue finds it closed for good, no poll ends a
drain while a key is leased, and when no call is under way a poll ends every drain
if no key is leased and every worker if the queue is closed. -/
theorem shutdown_is_final_and_drains_are_exact :
    (∀ (room : WaitingRoom κ) (v : Visit κ), room.Shuts v →
      (room.visit v).queue.closed = true) ∧
    (∀ room : WaitingRoom κ, room.queue.closed = true → ∀ visits,
      let later := room.visitAll visits
      room.queue.StaysShut later.queue ∧ later.queue.next = (.closed, later.queue) ∧
      later.serve.1.workers = later.workers.map (fun id => (id, none)) ∧
      later.serve.2.workers = []) ∧
    (∀ room : WaitingRoom κ,
      room.serve.1.drains = (if room.polled.leased = [] then room.drains else []) ∧
      ∀ id ∈ room.drains, ∀ visits,
        (∀ first rest, visits = first ++ .poll :: rest →
          (room.visitAll first).polled.leased ≠ []) →
        id ∈ (room.visitAll visits).drains) ∧
    (∀ (q : WorkQueue κ) (before after : List (QueueTask κ)) (w : Waiter) stage,
      ReflTransGen Lobby.Act ⟨q, before ++ .waiting w stage :: after⟩
        (Lobby.settled q before w after (w.poll q stage))) ∧
    ∀ start lobby : Lobby κ, start.tasks = [] → ReflTransGen Lobby.Step start lobby →
      (∀ t ∈ lobby.tasks, t.HasClosed → lobby.queue.closed = true) ∧
      (lobby.queue.closed = true → ∀ later, ReflTransGen Lobby.Step lobby later →
        lobby.queue.StaysShut later.queue) ∧
      (∀ stage, .waiting .drain stage ∈ lobby.tasks →
        (Waiter.drain.poll lobby.queue stage ≠ none → lobby.queue.leased = []) ∧
        (lobby.IsFinished → lobby.queue.leased = [] →
          Waiter.drain.poll lobby.queue stage = some lobby.queue)) ∧
      ∀ stage, .waiting .worker stage ∈ lobby.tasks → lobby.queue.closed = true →
        lobby.IsFinished → Waiter.worker.poll lobby.queue stage = some lobby.queue := by
  refine ⟨fun room v => room.closed_of_shuts, ?workers, ?drains,
    fun q before after w => Lobby.acts_of_poll before after, ?tasks⟩
  case workers =>
    intro room hclosed visits later
    have hshut := room.staysShut_visitAll hclosed visits
    refine ⟨hshut, next_of_closed hshut.closed, ?_, ?_⟩
    · rw [WaitingRoom.serve_eq, WaitingRoom.serveWorkers_of_closed hshut.closed]
    · rw [WaitingRoom.serve_eq, WaitingRoom.serveWorkers_of_closed hshut.closed]
  case drains =>
    intro room
    refine ⟨?_, fun id hwaits visits => room.mem_drains_visitAll hwaits⟩
    rw [WaitingRoom.serve_eq]
  case tasks =>
    intro start lobby hstart hrun
    have hwatchful := Lobby.isWatchful_of_run hstart hrun
    refine ⟨Lobby.honoursClosing_of_run hstart hrun,
      fun hclosed later => Lobby.staysShut_of_run hclosed, fun stage hmem => ⟨?_, ?_⟩,
      fun stage hmem hclosed hfinished => ?_⟩
    · intro hends
      by_contra hleased
      rw [Waiter.poll, Waiter.look_drain, if_neg hleased, ite_self] at hends
      exact hends rfl
    · intro hfinished hleased
      rw [hwatchful.poll_eq_look hfinished hmem, Waiter.look_drain, if_pos hleased]
    · rw [hwatchful.poll_eq_look hfinished hmem, Waiter.look_worker_of_closed hclosed]

/-- A drain comes while a key is leased, another is delayed and a worker sleeps. -/
def staffed : WaitingRoom String :=
  WaitingRoom.visitAll { queue := { name := "remote", retry := ⟨5, 1000⟩ } }
    [.ask (.add "demo/app"), .ask .next, .worker "asleep", .poll, .ask (.addAfter "demo/api" 10),
      .drain "stop"]

/-- The leased key is added again, the delayed one falls due, and another worker comes. -/
def lateVisits : List (Visit String) :=
  [.ask (.add "demo/app"), .poll, .worker "late", .ask (.advance 20)]

theorem shutdown_is_final_and_drains_are_exact_staffed :
    let shut := staffed.visit .poll
    let later := shut.visitAll lateVisits
    let released := later.visit (.ask (.release "demo/app"))
    (staffed.queue.leased = ["demo/app"] ∧ staffed.queue.delayed.map Timer.key = ["demo/api"]) ∧
    shut.queue.closed = true ∧ shut.serve.1.workers = [("asleep", none)] ∧
    shut.queue.StaysShut later.queue ∧ later.serve.1.workers = [("late", none)] ∧
    "stop" ∈ later.drains ∧ later.queue.pending = [] ∧
    released.serve.1.drains = ["stop"] ∧ released.queue.pending = [] := by
  intro shut later released
  obtain ⟨hshuts, hfinal, hdrains, -, -⟩ := @shutdown_is_final_and_drains_are_exact String _
  have hclosed : shut.queue.closed = true := hshuts staffed .poll (.inr ⟨rfl, by decide⟩)
  have hleased : ∀ first rest, lateVisits = first ++ .poll :: rest →
      (shut.visitAll first).polled.leased ≠ [] := by
    intro first rest hsplit
    have hfirst : first = [.ask (.add "demo/app")] := by
      rw [lateVisits] at hsplit
      rcases first with _ | ⟨_, _ | ⟨_, _ | ⟨_, _ | ⟨_, _⟩⟩⟩⟩ <;> simp_all
    rw [hfirst]
    decide
  have hreleased := (hdrains released).1
  refine ⟨by decide, hclosed, (hfinal shut hclosed []).2.2.1, (hfinal shut hclosed lateVisits).1,
    (hfinal shut hclosed lateVisits).2.2.1, (hdrains shut).2 "stop" (by decide) lateVisits hleased,
    by decide, ?_, by decide⟩
  rw [hreleased]
  decide

end WorkQueue

end GatewaySync
