import GatewaySync.Proofs.WorkQueue
import Mathlib.Algebra.GroupWithZero.Nat
import Mathlib.Data.Prod.Lex
import Mathlib.Logic.Relation
import Mathlib.Order.WellFounded

/-!
# No wake-up is lost

Workers and drains look at the queue under its lock and park when there is
nothing for them; whoever changes the queue wakes all parked ones after it has
let go of the lock.  In between anything may happen.  A waiter has its
notification enabled before it looks, so a change that it did not see is
followed by a wake-up that it does not miss.
-/

namespace GatewaySync

variable {κ : Type u}

namespace WorkQueue

/-- The key is put at the end of the pending ones when it is added. -/
def Pushes (q : WorkQueue κ) (k : κ) : Prop := q.closed = false ∧ k ∉ q.dirty ∧ k ∉ q.leased

variable [DecidableEq κ] {q : WorkQueue κ} {k : κ}

instance : Decidable (q.Pushes k) := inferInstanceAs (Decidable (_ ∧ _))

theorem pending_add_of_not_pushes (hpushes : ¬q.Pushes k) : (q.add k).pending = q.pending := by
  rw [add]
  split
  · rfl
  · rename_i hskip
    split
    · rfl
    · rename_i hleased
      exact absurd ⟨by simpa using fun h => hskip (.inl h), fun h => hskip (.inr h), hleased⟩
        hpushes

end WorkQueue

/-! ## Tasks at a queue -/

/-- Who waits at a queue. -/
inductive Waiter where
  /-- Waits for a key, or for the queue to be closed. -/
  | worker
  /-- Waits until no key is leased. -/
  | drain
deriving DecidableEq, Repr

/-- How far a waiter has come in one round: it enables a notification, looks at
the queue under its lock and waits for the notification to be completed. -/
inductive Waiter.Stage where
  | fresh
  | enabled (completed : Bool)
  | looked (completed : Bool)
  | parked (completed : Bool)
deriving DecidableEq, Repr

/-- What a task calls; a drain waits afterwards. -/
inductive QueueCall (κ : Type u) where
  | add (k : κ)
  | done (k : κ)
  | shutDown
  | drain
deriving DecidableEq, Repr

/-- What a task does next. -/
inductive QueueTask (κ : Type u) where
  /-- It enters the section of its call that holds the lock. -/
  | calling (call : QueueCall κ)
  /-- It has left that section and wakes the waiters. -/
  | notifying (call : QueueCall κ)
  | waiting (waiter : Waiter) (stage : Waiter.Stage)
  | returned
deriving DecidableEq, Repr

namespace Waiter

/-- What it waits for is there. -/
def IsServable (q : WorkQueue κ) : Waiter → Prop
  | .worker => q.pending ≠ [] ∨ q.closed = true
  | .drain => q.leased = []

variable [DecidableEq κ]

/-- The section that holds the lock: the queue that the waiter leaves when it is
served, or none when it has to go on waiting. -/
def look (q : WorkQueue κ) : Waiter → Option (WorkQueue κ)
  | .worker =>
    match q.next with
    | (.pending, _) => none
    | (_, q) => some q
  | .drain => if q.isDrained then some q else none

variable {q q' : WorkQueue κ} {w : Waiter}

theorem not_isServable_of_look (hlook : w.look q = none) : ¬w.IsServable q := by
  cases w with
  | worker =>
      rintro (hpending | hclosed)
      · rw [look, WorkQueue.next] at hlook
        obtain ⟨k, rest, hkeys⟩ := List.exists_cons_of_ne_nil hpending
        rw [hkeys] at hlook
        split at hlook
        · rename_i heq
          split at heq <;> cases heq
        · cases hlook
      · rw [look, WorkQueue.next, if_pos hclosed] at hlook
        cases hlook
  | drain =>
      intro hleased
      have hdrained : q.isDrained = true := List.isEmpty_iff.2 hleased
      rw [look, if_pos hdrained] at hlook
      cases hlook

/-- Being served gives no other waiter what it waits for. -/
theorem isServable_of_look (hlook : w.look q = some q') {other : Waiter}
    (hother : other.IsServable q') : other.IsServable q := by
  have hcases : q' = q ∨ ∃ k rest, q.pending = k :: rest ∧ q' = { q with
      pending := rest, dirty := WorkQueue.without q.dirty k,
      leased := k :: WorkQueue.without q.leased k } := by
    cases w with
    | drain =>
        rw [look] at hlook
        split at hlook
        · exact .inl (Option.some.inj hlook).symm
        · cases hlook
    | worker =>
        rw [look] at hlook
        obtain ⟨poll, hnext, -⟩ | ⟨k, rest, -, hpending, hnext⟩ := q.next_cases
        · rw [hnext] at hlook
          cases poll with
          | pending => cases hlook
          | item | closed => exact .inl (Option.some.inj hlook).symm
        · rw [hnext] at hlook
          exact .inr ⟨k, rest, hpending, (Option.some.inj hlook).symm⟩
  obtain rfl | ⟨k, rest, hpending, rfl⟩ := hcases
  · exact hother
  · cases other with
    | worker => exact hother.imp (fun _ => by simp [hpending]) id
    | drain => cases hother

end Waiter

namespace QueueCall

variable [DecidableEq κ]

/-- What the section of the call makes of the queue. -/
def enter (q : WorkQueue κ) : QueueCall κ → WorkQueue κ
  | .add k => q.add k
  | .done k => q.release k
  | .shutDown => q.close
  | .drain => q.close

/-- Whether the call wakes the waiters after its section.  An added key that does
not become pending wakes nobody. -/
def Notifies (q : WorkQueue κ) : QueueCall κ → Prop
  | .add k => q.Pushes k
  | _ => True

/-- The call that wakes nobody gives no waiter what it waits for. -/
theorem isServable_of_not_notifies {q : WorkQueue κ} {call : QueueCall κ}
    (hnotifies : ¬call.Notifies q) {w : Waiter} (hw : w.IsServable (call.enter q)) :
    w.IsServable q := by
  cases call with
  | add k =>
      cases w with
      | worker =>
          rw [enter, Waiter.IsServable, WorkQueue.closed_add,
            WorkQueue.pending_add_of_not_pushes hnotifies] at hw
          exact hw
      | drain =>
          rw [enter, Waiter.IsServable, WorkQueue.leased_add] at hw
          exact hw
  | done | shutDown | drain => exact absurd trivial hnotifies

end QueueCall

namespace Waiter.Stage

/-- The notification, if one is enabled, is completed. -/
def complete : Waiter.Stage → Waiter.Stage
  | fresh => fresh
  | enabled _ => enabled true
  | looked _ => looked true
  | parked _ => parked true

/-- The waiter has found nothing, and nobody has woken it since. -/
def IsUnwoken (stage : Waiter.Stage) : Prop := stage = looked false ∨ stage = parked false

theorem not_isUnwoken_complete (stage : Waiter.Stage) : ¬stage.complete.IsUnwoken := by
  rintro (heq | heq) <;> cases stage <;> cases heq

/-- How much of its way the waiter still has before it. -/
def toGo : Waiter.Stage → Nat
  | parked false => 1
  | looked false => 2
  | enabled false => 3
  | fresh => 4
  | parked true => 5
  | looked true => 5
  | enabled true => 6

end Waiter.Stage

namespace QueueTask

/-- The task after all enabled notifications were completed. -/
def woken : QueueTask κ → QueueTask κ
  | waiting w stage => waiting w stage.complete
  | t => t

/-- How many steps of its call a task still has before it. -/
def callsToGo : QueueTask κ → Nat
  | calling _ => 2
  | notifying _ => 1
  | _ => 0

/-- How much of its round a waiter still has before it. -/
def roundToGo : QueueTask κ → Nat
  | waiting _ stage => stage.toGo
  | _ => 0

/-- The task after it has woken the waiters. -/
def afterNotifying : QueueCall κ → QueueTask κ
  | .drain => waiting .drain .fresh
  | _ => returned

end QueueTask

/-- A queue with the tasks at it. -/
structure Lobby (κ : Type u) where
  queue : WorkQueue κ
  tasks : List (QueueTask κ) := []

namespace Lobby

open Waiter.Stage (IsUnwoken)

variable [DecidableEq κ]

/-- One of the tasks makes its next step. -/
inductive Act : Lobby κ → Lobby κ → Prop where
  /-- A call changes the queue under the lock and is going to wake the waiters. -/
  | call {q : WorkQueue κ} {before after : List (QueueTask κ)} {call : QueueCall κ}
      (hnotifies : call.Notifies q) :
      Act ⟨q, before ++ .calling call :: after⟩ ⟨call.enter q, before ++ .notifying call :: after⟩
  /-- A call returns from under the lock at once. -/
  | leave {q : WorkQueue κ} {before after : List (QueueTask κ)} {call : QueueCall κ}
      (hnotifies : ¬call.Notifies q) :
      Act ⟨q, before ++ .calling call :: after⟩ ⟨call.enter q, before ++ .returned :: after⟩
  /-- All notifications that are enabled are completed. -/
  | notify {q : WorkQueue κ} {before after : List (QueueTask κ)} {call : QueueCall κ} :
      Act ⟨q, before ++ .notifying call :: after⟩
        ⟨q, before.map .woken ++ .afterNotifying call :: after.map .woken⟩
  | enable {q : WorkQueue κ} {before after : List (QueueTask κ)} {w : Waiter} :
      Act ⟨q, before ++ .waiting w .fresh :: after⟩
        ⟨q, before ++ .waiting w (.enabled false) :: after⟩
  /-- A waiter is served under the lock. -/
  | serve {q q' : WorkQueue κ} {before after : List (QueueTask κ)} {w : Waiter}
      {completed : Bool} (hlook : w.look q = some q') :
      Act ⟨q, before ++ .waiting w (.enabled completed) :: after⟩
        ⟨q', before ++ .returned :: after⟩
  /-- A waiter finds nothing under the lock. -/
  | miss {q : WorkQueue κ} {before after : List (QueueTask κ)} {w : Waiter} {completed : Bool}
      (hlook : w.look q = none) :
      Act ⟨q, before ++ .waiting w (.enabled completed) :: after⟩
        ⟨q, before ++ .waiting w (.looked completed) :: after⟩
  | park {q : WorkQueue κ} {before after : List (QueueTask κ)} {w : Waiter} :
      Act ⟨q, before ++ .waiting w (.looked false) :: after⟩
        ⟨q, before ++ .waiting w (.parked false) :: after⟩
  /-- The notification was completed before it was waited for. -/
  | pass {q : WorkQueue κ} {before after : List (QueueTask κ)} {w : Waiter} :
      Act ⟨q, before ++ .waiting w (.looked true) :: after⟩
        ⟨q, before ++ .waiting w .fresh :: after⟩
  | wake {q : WorkQueue κ} {before after : List (QueueTask κ)} {w : Waiter} :
      Act ⟨q, before ++ .waiting w (.parked true) :: after⟩
        ⟨q, before ++ .waiting w .fresh :: after⟩

/-- What can happen next. -/
inductive Step : Lobby κ → Lobby κ → Prop where
  | act {lobby lobby' : Lobby κ} (hact : Act lobby lobby') : Step lobby lobby'
  /-- A task comes with a call; a delayed key comes with a task of its own. -/
  | arrive {q : WorkQueue κ} {tasks : List (QueueTask κ)} (call : QueueCall κ) :
      Step ⟨q, tasks⟩ ⟨q, tasks ++ [.calling call]⟩
  | arriveWorker {q : WorkQueue κ} {tasks : List (QueueTask κ)} :
      Step ⟨q, tasks⟩ ⟨q, tasks ++ [.waiting .worker .fresh]⟩
  /-- A waiter that sleeps is dropped. -/
  | drop {q : WorkQueue κ} {before after : List (QueueTask κ)} {w : Waiter} {completed : Bool} :
      Step ⟨q, before ++ .waiting w (.parked completed) :: after⟩
        ⟨q, before ++ .returned :: after⟩
  /-- Failures are counted, delays requested, or time passes. -/
  | elsewhere {q q' : WorkQueue κ} {tasks : List (QueueTask κ)}
      (hpending : q'.pending = q.pending) (hdirty : q'.dirty = q.dirty)
      (hleased : q'.leased = q.leased) (hclosed : q'.closed = q.closed) :
      Step ⟨q, tasks⟩ ⟨q', tasks⟩

omit [DecidableEq κ] in
/-- Some call has left its section and has not woken the waiters yet. -/
def IsNotifying (lobby : Lobby κ) : Prop := ∃ call, .notifying call ∈ lobby.tasks

omit [DecidableEq κ] in
/-- No call is under way. -/
def IsFinished (lobby : Lobby κ) : Prop :=
  ∀ call, .calling call ∉ lobby.tasks ∧ .notifying call ∉ lobby.tasks

/-- Whoever found nothing, and has not been woken, is not going to sleep on what
it waits for: it is not there, or the waiters are about to be woken. -/
def IsWatchful (lobby : Lobby κ) : Prop :=
  ∀ w stage, .waiting w stage ∈ lobby.tasks → stage.IsUnwoken → w.IsServable lobby.queue →
    lobby.IsNotifying

variable {lobby lobby' start : Lobby κ} {q q' : WorkQueue κ} {before after : List (QueueTask κ)}
  {t t' : QueueTask κ}

omit [DecidableEq κ] in
theorem IsNotifying.isWatchful (hnotifying : lobby.IsNotifying) : lobby.IsWatchful :=
  fun _ _ _ _ _ => hnotifying

omit [DecidableEq κ] in
/-- A task goes on without waking anybody.  No waiter gets what it waits for, and
the task does not go to sleep on what it waits for. -/
theorem IsWatchful.replace (hlobby : IsWatchful ⟨q, before ++ t :: after⟩)
    (hsame : ∀ w : Waiter, w.IsServable q' → w.IsServable q)
    (hquiet : ∀ call, t ≠ .notifying call)
    (hasleep : ∀ w stage, t' = .waiting w stage → stage.IsUnwoken → w.IsServable q →
      IsNotifying ⟨q, before ++ t :: after⟩) :
    IsWatchful ⟨q', before ++ t' :: after⟩ := by
  have hnotifying : IsNotifying ⟨q, before ++ t :: after⟩ →
      IsNotifying ⟨q', before ++ t' :: after⟩ := by
    rintro ⟨call, hmem⟩
    refine ⟨call, ?_⟩
    obtain hmem | hmem := List.mem_append.1 hmem
    · exact List.mem_append_left _ hmem
    · have hmem := (List.mem_cons.1 hmem).resolve_left fun heq => hquiet call heq.symm
      exact List.mem_append_right _ (List.mem_cons_of_mem _ hmem)
  intro w stage hmem hunwoken hservable
  have hservable := hsame w hservable
  obtain hmem | hmem := List.mem_append.1 hmem
  · exact hnotifying (hlobby w stage (List.mem_append_left _ hmem) hunwoken hservable)
  · obtain heq | hmem := List.mem_cons.1 hmem
    · exact hnotifying (hasleep w stage heq.symm hunwoken hservable)
    · exact hnotifying (hlobby w stage
        (List.mem_append_right _ (List.mem_cons_of_mem _ hmem)) hunwoken hservable)

omit [DecidableEq κ] in
/-- Once the notifications are completed everybody is woken. -/
theorem isWatchful_notify (call : QueueCall κ) :
    IsWatchful ⟨q, before.map .woken ++ .afterNotifying call :: after.map .woken⟩ := by
  have hwoken : ∀ {tasks : List (QueueTask κ)} {w : Waiter} {stage : Waiter.Stage},
      .waiting w stage ∈ tasks.map QueueTask.woken → ¬stage.IsUnwoken := by
    intro tasks w stage hmem hunwoken
    obtain ⟨task, -, hwaiting⟩ := List.mem_map.1 hmem
    cases task with
    | waiting w' stage' =>
        obtain ⟨-, rfl⟩ := QueueTask.waiting.inj hwaiting
        exact stage'.not_isUnwoken_complete hunwoken
    | calling | notifying | returned => cases hwaiting
  intro w stage hmem hunwoken
  obtain hmem | hmem := List.mem_append.1 hmem
  · exact absurd hunwoken (hwoken hmem)
  · obtain heq | hmem := List.mem_cons.1 hmem
    · -- a drain begins a round of its own
      cases call with
      | drain =>
          obtain ⟨-, rfl⟩ := QueueTask.waiting.inj heq
          obtain heq | heq := hunwoken <;> cases heq
      | add | done | shutDown => cases heq
    · exact absurd hunwoken (hwoken hmem)

theorem IsWatchful.act (hlobby : lobby.IsWatchful) (hact : Act lobby lobby') :
    lobby'.IsWatchful := by
  cases hact with
  | @call q before after call hnotifies =>
      exact IsNotifying.isWatchful ⟨call, List.mem_append_right _ List.mem_cons_self⟩
  | leave hnotifies =>
      exact hlobby.replace (fun _ => QueueCall.isServable_of_not_notifies hnotifies) nofun nofun
  | notify => exact isWatchful_notify _
  | serve hlook => exact hlobby.replace (fun _ => Waiter.isServable_of_look hlook) nofun nofun
  | miss hlook =>
      refine hlobby.replace (fun _ => id) nofun fun w stage heq _ hservable => ?_
      obtain ⟨rfl, -⟩ := QueueTask.waiting.inj heq
      exact absurd hservable (Waiter.not_isServable_of_look hlook)
  | park =>
      refine hlobby.replace (fun _ => id) nofun fun w stage heq _ hservable => ?_
      obtain ⟨rfl, -⟩ := QueueTask.waiting.inj heq
      exact hlobby _ _ (List.mem_append_right _ List.mem_cons_self) (.inl rfl) hservable
  | enable | pass | wake =>
      refine hlobby.replace (fun _ => id) nofun fun w stage heq hunwoken => ?_
      obtain ⟨-, rfl⟩ := QueueTask.waiting.inj heq
      obtain heq | heq := hunwoken <;> cases heq

omit [DecidableEq κ] in
theorem IsWatchful.append (hlobby : lobby.IsWatchful) {t : QueueTask κ}
    (ht : ∀ w stage, t = .waiting w stage → ¬stage.IsUnwoken) :
    IsWatchful ⟨lobby.queue, lobby.tasks ++ [t]⟩ := by
  intro w stage hmem hunwoken hservable
  obtain hmem | hmem := List.mem_append.1 hmem
  · obtain ⟨call, hcall⟩ := hlobby w stage hmem hunwoken hservable
    exact ⟨call, List.mem_append_left _ hcall⟩
  · exact absurd hunwoken (ht w stage (List.mem_singleton.1 hmem).symm)

theorem IsWatchful.step (hlobby : lobby.IsWatchful) (hstep : Step lobby lobby') :
    lobby'.IsWatchful := by
  cases hstep with
  | act hact => exact hlobby.act hact
  | arrive call => exact hlobby.append nofun
  | arriveWorker =>
      refine hlobby.append fun w stage heq hunwoken => ?_
      obtain ⟨-, rfl⟩ := QueueTask.waiting.inj heq
      obtain heq | heq := hunwoken <;> cases heq
  | drop => exact hlobby.replace (fun _ => id) nofun nofun
  | @elsewhere q q' tasks hpending hdirty hleased hclosed =>
      intro w stage hmem hunwoken hservable
      refine hlobby w stage hmem hunwoken ?_
      cases w with
      | worker =>
          rw [Waiter.IsServable, hpending, hclosed] at hservable
          exact hservable
      | drain => exact hleased.symm.trans hservable

theorem isWatchful_of_run (hstart : start.tasks = [])
    (hrun : Relation.ReflTransGen Step start lobby) : lobby.IsWatchful := by
  induction hrun with
  | refl =>
      intro w stage hmem
      rw [hstart] at hmem
      cases hmem
  | tail _ hstep ih => exact ih.step hstep

omit [DecidableEq κ] in
theorem IsFinished.not_isNotifying (hfinished : lobby.IsFinished) : ¬lobby.IsNotifying :=
  fun ⟨call, hmem⟩ => (hfinished call).2 hmem

/-! ## Coming to rest -/

/-- None of the tasks can make a step. -/
def IsAtRest (lobby : Lobby κ) : Prop := ∀ lobby', ¬Act lobby lobby'

/-- At rest every task has returned or sleeps. -/
theorem IsAtRest.cases_of_mem (hrest : lobby.IsAtRest) (ht : t ∈ lobby.tasks) :
    t = .returned ∨ ∃ w, t = .waiting w (.parked false) := by
  obtain ⟨q, tasks⟩ := lobby
  obtain ⟨before, after, rfl⟩ := List.append_of_mem ht
  cases t with
  | returned => exact .inl rfl
  | calling call =>
      by_cases hnotifies : call.Notifies q
      · exact absurd (.call hnotifies) (hrest _)
      · exact absurd (.leave hnotifies) (hrest _)
  | notifying call => exact absurd .notify (hrest _)
  | waiting w stage =>
      cases stage with
      | fresh => exact absurd .enable (hrest _)
      | enabled completed =>
          cases hlook : w.look q with
          | none => exact absurd (.miss hlook) (hrest _)
          | some q' => exact absurd (.serve hlook) (hrest _)
      | looked completed =>
          cases completed with
          | false => exact absurd .park (hrest _)
          | true => exact absurd .pass (hrest _)
      | parked completed =>
          cases completed with
          | false => exact .inr ⟨w, rfl⟩
          | true => exact absurd .wake (hrest _)

/-- What is left to do: calls first, and then the rounds of the waiters. -/
def effort (lobby : Lobby κ) : ℕ ×ₗ ℕ :=
  toLex ((lobby.tasks.map QueueTask.callsToGo).sum, (lobby.tasks.map QueueTask.roundToGo).sum)

theorem effort_lt (hact : Act lobby lobby') : lobby'.effort < lobby.effort := by
  have hwoken : ∀ tasks : List (QueueTask κ),
      ((tasks.map QueueTask.woken).map QueueTask.callsToGo) = tasks.map QueueTask.callsToGo := by
    intro tasks
    rw [List.map_map]
    exact List.map_congr_left fun t _ => by cases t <;> rfl
  rw [effort, effort, Prod.Lex.toLex_lt_toLex]
  cases hact with
  | call | leave =>
      left
      simp [QueueTask.callsToGo]
  | @notify q before after call =>
      left
      simp only [List.map_append, List.map_cons, hwoken, List.sum_append, List.sum_cons]
      have hcall : (QueueTask.afterNotifying call).callsToGo <
        (QueueTask.notifying call).callsToGo := by cases call <;> exact Nat.zero_lt_one
      omega
  | @serve _ _ _ _ _ completed | @miss _ _ _ _ completed =>
      right
      cases completed <;> simp [QueueTask.callsToGo, QueueTask.roundToGo, Waiter.Stage.toGo]
  | enable | park | pass | wake =>
      right
      simp [QueueTask.callsToGo, QueueTask.roundToGo, Waiter.Stage.toGo]

/-- Whatever the order in which the tasks make their steps, they come to rest. -/
theorem acc_act (lobby : Lobby κ) : Acc (fun later earlier => Act earlier later) lobby :=
  Subrelation.accessible effort_lt ((InvImage.wf effort wellFounded_lt).apply lobby)

/-- Whoever sleeps beside what it waits for is about to be woken, and when no
call is under way nobody does.  If nothing else comes, the tasks come to rest in
any order of their steps, and whoever sleeps then has nothing to do. -/
theorem no_wakeUp_is_lost (hstart : start.tasks = [])
    (hrun : Relation.ReflTransGen Step start lobby) :
    (.waiting .worker (.parked false) ∈ lobby.tasks →
      lobby.queue.pending ≠ [] ∨ lobby.queue.closed = true → lobby.IsNotifying) ∧
    (.waiting .drain (.parked false) ∈ lobby.tasks → lobby.queue.leased = [] →
      lobby.IsNotifying) ∧
    (lobby.IsFinished →
      (.waiting .worker (.parked false) ∈ lobby.tasks →
        lobby.queue.pending = [] ∧ lobby.queue.closed = false) ∧
      (.waiting .drain (.parked false) ∈ lobby.tasks → lobby.queue.leased ≠ [])) ∧
    Acc (fun later earlier => Act earlier later) lobby ∧
    (lobby.IsAtRest → ∀ t ∈ lobby.tasks,
      t = .returned ∨
      t = .waiting .worker (.parked false) ∧
        lobby.queue.pending = [] ∧ lobby.queue.closed = false ∨
      t = .waiting .drain (.parked false) ∧ lobby.queue.leased ≠ []) := by
  have hwatchful := isWatchful_of_run hstart hrun
  have hworker : .waiting .worker (.parked false) ∈ lobby.tasks → ¬lobby.IsNotifying →
      lobby.queue.pending = [] ∧ lobby.queue.closed = false := by
    intro hmem hquiet
    have hnot := fun hservable => hquiet (hwatchful .worker _ hmem (.inr rfl) hservable)
    simpa [Waiter.IsServable] using hnot
  have hdrain : .waiting .drain (.parked false) ∈ lobby.tasks → ¬lobby.IsNotifying →
      lobby.queue.leased ≠ [] :=
    fun hmem hquiet hleased => hquiet (hwatchful .drain _ hmem (.inr rfl) hleased)
  refine ⟨fun hmem => hwatchful .worker _ hmem (.inr rfl),
    fun hmem => hwatchful .drain _ hmem (.inr rfl), ?_, acc_act lobby, ?_⟩
  · intro hfinished
    exact ⟨fun hmem => hworker hmem hfinished.not_isNotifying,
      fun hmem => hdrain hmem hfinished.not_isNotifying⟩
  · intro hrest t ht
    have hquiet : ¬lobby.IsNotifying := by
      rintro ⟨call, hmem⟩
      obtain heq | ⟨w, heq⟩ := hrest.cases_of_mem hmem <;> cases heq
    obtain rfl | ⟨w, rfl⟩ := hrest.cases_of_mem ht
    · exact .inl rfl
    · cases w with
      | worker => exact .inr (.inl ⟨rfl, hworker ht hquiet⟩)
      | drain => exact .inr (.inr ⟨rfl, hdrain ht hquiet⟩)

/-- A worker has looked at an empty queue and gone to sleep, and meanwhile a key was
added to it. -/
def race : Lobby String where
  queue := { name := "remote", retry := ⟨1, 8⟩, pending := ["demo/app"], dirty := ["demo/app"] }
  tasks := [.waiting .worker (.parked false), .notifying (.add "demo/app")]

theorem no_wakeUp_is_lost_in_race :
    .waiting .worker (.parked false) ∈ race.tasks ∧ race.queue.pending ≠ [] ∧
      race.IsNotifying := by
  let queue : WorkQueue String := { name := "remote", retry := ⟨1, 8⟩ }
  have hrun : Relation.ReflTransGen Step ⟨queue, []⟩ race := by
    refine .head .arriveWorker ?_
    refine .head (.act (@Act.enable _ _ queue [] [] .worker)) ?_
    refine .head (.act (@Act.miss _ _ queue [] [] .worker false rfl)) ?_
    refine .head (.arrive (.add "demo/app")) ?_
    refine .head (.act (@Act.call _ _ queue [.waiting .worker (.looked false)] []
      (.add "demo/app") (show queue.Pushes "demo/app" by decide))) ?_
    exact .single (.act (@Act.park _ _ race.queue [] [.notifying (.add "demo/app")] .worker))
  have hasleep : .waiting .worker (.parked false) ∈ race.tasks := by decide
  have hpending : race.queue.pending ≠ [] := by decide
  exact ⟨hasleep, hpending, (no_wakeUp_is_lost rfl hrun).1 hasleep (.inl hpending)⟩

end Lobby

end GatewaySync
