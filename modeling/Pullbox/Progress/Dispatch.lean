import Pullbox.Durable.Reachable
import Pullbox.Progress.Projection

/-!
# Coalesced writing of progress updates

Frequent updates of an operation are queued (`operation_progress_dispatch.py`): one task for each
operation sleeps, takes what is pending and writes it in a session of its own. What is modelled is
the entries of one operation in `_pending_updates` and `_flush_tasks`, and its row.

The lock is free whenever a task awaits, so each of its sections runs in one piece. An event is
such a piece, or a write of another session.
-/

namespace Pullbox.Progress

open List Option

/-- A pending update, with its place in the order in which updates became pending. -/
structure QueuedUpdate where
  ticket : Nat
  update : OperationProgressUpdate
deriving DecidableEq

/-- The await that a flush task stands at. -/
inductive FlushStage where
  | sleeping
  | writing (queued : QueuedUpdate)
  | notifying (queued : QueuedUpdate)
  /-- The write raised; the session is rolled back and closed. -/
  | failing (queued : QueuedUpdate)
  | done
deriving DecidableEq

/-- How a durable write ends. -/
inductive WriteResult where
  | accepted | rejected | failed
deriving DecidableEq

/-- What became of an update that a task took. -/
structure WriteOutcome where
  queued : QueuedUpdate
  result : WriteResult

/-- The entries of an operation, all its flush tasks and its row, with the number of updates that
became pending and the outcomes of the writes so far. -/
structure DispatchState where
  pending : Option QueuedUpdate := none
  tasks : List FlushStage := []
  flushTask : Option Nat := none
  row : Option OperationProgress := none
  queued : Nat := 0
  outcomes : List WriteOutcome := []

namespace DispatchState

/-- An update becomes pending unless its revision is not greater than the pending one's. -/
def supersedes (state : DispatchState) (update : OperationProgressUpdate) : Bool :=
  match state.pending with
  | none => true
  | some current =>
    match update.revision, current.update.revision with
    | some incoming, some revision => revision < incoming
    | _, _ => true

/-- `_pending_updates[identity] = update`. -/
def enter (state : DispatchState) (update : OperationProgressUpdate) : DispatchState :=
  { state with
    pending := some ⟨state.queued, update⟩
    queued := state.queued + 1 }

/-- The stage of the task in `_flush_tasks`. -/
def registered (state : DispatchState) : Option FlushStage :=
  state.flushTask.bind (state.tasks[·]?)

/-- No task of the operation is left to wait for, as `drain_operation_progress_updates` sees it. -/
def drained (state : DispatchState) : Bool :=
  state.registered.all (· = .done)

/-- `asyncio.create_task`. -/
def createTask (state : DispatchState) : DispatchState :=
  { state with
    tasks := state.tasks ++ [.sleeping]
    flushTask := some state.tasks.length }

/-- `queue_operation_progress`. -/
def queue (state : DispatchState) (update : OperationProgressUpdate) : DispatchState :=
  let entered := if state.supersedes update then state.enter update else state
  if state.drained then entered.createTask else entered

/-- A task goes on to its next await. -/
def move (state : DispatchState) (task : Nat) (stage : FlushStage) : DispatchState :=
  { state with tasks := state.tasks.set task stage }

/-- The task returns, with its `finally`. -/
def retire (state : DispatchState) (task : Nat) : DispatchState :=
  { state.move task .done with
    flushTask := if state.flushTask = some task then none else state.flushTask }

def record (state : DispatchState) (queued : QueuedUpdate) (result : WriteResult) :
    DispatchState :=
  { state with outcomes := state.outcomes ++ [⟨queued, result⟩] }

/-- The task wakes up and takes what is pending. -/
def wake (state : DispatchState) (task : Nat) : DispatchState :=
  match state.pending with
  | none => state.retire task
  | some queued => { state.move task (.writing queued) with pending := none }

/-- The write of an update, and its commit. -/
def write (state : DispatchState) (task : Nat) (queued : QueuedUpdate) (raises : Bool)
    (clock : Int) : DispatchState :=
  match raises, publishOperationProgress state.row queued.update clock with
  | false, .ok (after, accepted) =>
    { (state.move task (.notifying queued)).record queued
        (if accepted then .accepted else .rejected) with
      row := some after }
  | _, _ => (state.move task (.failing queued)).record queued .failed

/-- The task has notified, and looks whether something is pending. -/
def lookAgain (state : DispatchState) (task : Nat) : DispatchState :=
  match state.pending with
  | none => state.retire task
  | some _ => state.move task .sleeping

/-- Another session publishes and commits. -/
def publish (state : DispatchState) (update : OperationProgressUpdate) (clock : Int) :
    DispatchState :=
  match publishOperationProgress state.row update clock with
  | .ok (after, _) => { state with row := some after }
  | .error _ => state

end DispatchState

/-- What the loop runs next. -/
inductive DispatchEvent where
  | queue (update : OperationProgressUpdate)
  | wake (task : Nat)
  /-- The write raises, or it does what publishing does. -/
  | write (task : Nat) (raises : Bool) (clock : Int)
  | notified (task : Nat)
  | rolledBack (task : Nat)
  /-- An exception that the task does not handle. -/
  | broken (task : Nat)
  | publish (update : OperationProgressUpdate) (clock : Int)

namespace DispatchState

/-- The next await of a task, or `none` if it does not stand at the one before. -/
def step (state : DispatchState) : DispatchEvent → Option DispatchState
  | .queue update => some (state.queue update)
  | .wake task =>
    match state.tasks[task]? with
    | some .sleeping => some (state.wake task)
    | _ => none
  | .write task raises clock =>
    match state.tasks[task]? with
    | some (.writing queued) => some (state.write task queued raises clock)
    | _ => none
  | .notified task =>
    match state.tasks[task]? with
    | some (.notifying _) => some (state.lookAgain task)
    | _ => none
  | .rolledBack task =>
    match state.tasks[task]? with
    | some (.failing _) => some (state.retire task)
    | _ => none
  | .broken task =>
    match state.tasks[task]? with
    | some (.writing queued) => some ((state.retire task).record queued .failed)
    | some .sleeping | some (.notifying _) | some (.failing _) => some (state.retire task)
    | some .done | none => none
  | .publish update clock => some (state.publish update clock)

end DispatchState

end Pullbox.Progress

/-!
## Runs of the coalesced dispatch

Calls that queue updates and the awaits of the flush tasks interleave in any order, and a write
ends in any way. An operation has at most one task that is not done, and the last update that
became pending is written by it, unless an exception ends the task first.
-/

namespace Pullbox.Progress

open List Option

/-- The task looks at the queue again, unless something raises. -/
def FlushStage.looks : FlushStage → Bool
  | .sleeping | .writing _ | .notifying _ => true
  | .failing _ | .done => false

/-- The update that the task is writing. -/
def FlushStage.written : FlushStage → Option QueuedUpdate
  | .writing queued => some queued
  | .sleeping | .notifying _ | .failing _ | .done => none

/-- How many awaits a task has at most before it, while nothing is queued. -/
def FlushStage.awaits (pending : Bool) : FlushStage → Nat
  | .sleeping => if pending then 3 else 1
  | .writing _ => if pending then 5 else 2
  | .notifying _ => if pending then 4 else 1
  | .failing _ => 1
  | .done => 0

/-- The events that are awaits of a task. -/
def DispatchEvent.isOwn : DispatchEvent → Bool
  | .wake _ | .write _ _ _ | .notified _ | .rolledBack _ | .broken _ => true
  | .queue _ | .publish _ _ => false

/-- The explicit revisions of the updates that were written, in order. -/
def writtenRevisions (outcomes : List WriteOutcome) : List Int :=
  outcomes.filterMap fun outcome =>
    if outcome.result = .accepted then outcome.queued.update.revision else none

namespace DispatchState

variable {state after : DispatchState} {event : DispatchEvent} {task : Nat}
  {stage next found : FlushStage}

/-! ### One task at a time -/

/-- The registered task is the one that is not done. -/
structure Single (state : DispatchState) : Prop where
  live : ∀ task, state.flushTask = some task →
    ∃ stage, state.tasks[task]? = some stage ∧ stage ≠ .done
  only : ∀ task stage, state.tasks[task]? = some stage → stage ≠ .done →
    state.flushTask = some task

theorem Single.congr (single : Single state) (tasks : after.tasks = state.tasks)
    (flushTask : after.flushTask = state.flushTask) : Single after where
  live := by
    rw [tasks, flushTask]
    exact single.live
  only := by
    rw [tasks, flushTask]
    exact single.only

theorem Single.registered (single : Single state) (here : state.tasks[task]? = some stage)
    (live : stage ≠ .done) : state.registered = some stage := by
  rw [DispatchState.registered, single.only task stage here live, bind_some, here]

/-- A task that goes on to an await. -/
theorem Single.move (single : Single state) (here : state.tasks[task]? = some stage)
    (live : stage ≠ .done) (goesOn : next ≠ .done)
    (tasks : after.tasks = state.tasks.set task next)
    (flushTask : after.flushTask = state.flushTask) : Single after := by
  have registered := single.only task stage here live
  have within : task < state.tasks.length := (List.getElem?_eq_some_iff.1 here).1
  constructor
  · intro other same
    rw [flushTask] at same
    cases registered.symm.trans same
    exact ⟨next, by rw [tasks, List.getElem?_set_self within], goesOn⟩
  · intro other found there still
    rw [flushTask]
    rw [tasks] at there
    by_cases same : task = other
    · subst same
      exact registered
    · exact single.only other found ((List.getElem?_set_ne same).symm.trans there) still

theorem Single.retire (single : Single state) (here : state.tasks[task]? = some stage)
    (live : stage ≠ .done) : Single (state.retire task) := by
  have registered := single.only task stage here live
  have cleared : (state.retire task).flushTask = none := if_pos registered
  have within : task < state.tasks.length := (List.getElem?_eq_some_iff.1 here).1
  constructor
  · intro other same
    cases cleared.symm.trans same
  · intro other found there still
    by_cases same : task = other
    · subst same
      have ended : (state.retire task).tasks[task]? = some .done := List.getElem?_set_self within
      cases ended.symm.trans there
      exact absurd rfl still
    · have before : state.tasks[other]? = some found :=
        (List.getElem?_set_ne same).symm.trans there
      cases registered.symm.trans (single.only other found before still)
      exact absurd rfl same

/-- Without a task to wait for, there is none that is not done. -/
theorem Single.drained (single : Single state) (drained : state.drained = true) :
    state.flushTask = none := by
  cases registered : state.flushTask with
  | none => rfl
  | some task =>
    obtain ⟨stage, here, live⟩ := single.live task registered
    have known := single.registered here live
    rw [DispatchState.drained, known] at drained
    exact absurd (of_decide_eq_true drained) live

theorem Single.createTask (single : Single state) (drained : state.drained = true) :
    Single state.createTask := by
  have free := single.drained drained
  constructor
  · intro other same
    cases same
    exact ⟨.sleeping, by simp [DispatchState.createTask], by decide⟩
  · intro other found there still
    rcases Nat.lt_trichotomy other state.tasks.length with before | last | beyond
    · have earlier : state.tasks[other]? = some found :=
        (List.getElem?_append_left before).symm.trans there
      cases free.symm.trans (single.only other found earlier still)
    · rw [last]
      rfl
    · have absent : state.createTask.tasks[other]? = none := by
        simp only [DispatchState.createTask, List.getElem?_eq_none_iff, length_append,
          length_singleton]
        omega
      cases absent.symm.trans there

theorem supersedes_enter (state : DispatchState) (update : OperationProgressUpdate) :
    (if state.supersedes update then state.enter update else state).tasks = state.tasks ∧
      (if state.supersedes update then state.enter update else state).flushTask =
        state.flushTask := by
  split <;> exact ⟨rfl, rfl⟩

theorem Single.queue (single : Single state) (update : OperationProgressUpdate) :
    Single (state.queue update) := by
  obtain ⟨tasks, flushTask⟩ := supersedes_enter state update
  have entered := single.congr tasks flushTask
  unfold DispatchState.queue
  dsimp only
  split
  · next drained =>
    apply entered.createTask
    simpa only [DispatchState.drained, DispatchState.registered, tasks, flushTask] using drained
  · exact entered

/-- What a task does with its next await. -/
inductive Awaits (state : DispatchState) (task : Nat) :
    DispatchEvent → DispatchState → Prop where
  | wake (here : state.tasks[task]? = some .sleeping) : Awaits state task (.wake task)
      (state.wake task)
  | write {queued raises clock} (here : state.tasks[task]? = some (.writing queued)) :
      Awaits state task (.write task raises clock) (state.write task queued raises clock)
  | notified {queued} (here : state.tasks[task]? = some (.notifying queued)) :
      Awaits state task (.notified task) (state.lookAgain task)
  | rolledBack {queued} (here : state.tasks[task]? = some (.failing queued)) :
      Awaits state task (.rolledBack task) (state.retire task)
  | lost {queued} (here : state.tasks[task]? = some (.writing queued)) :
      Awaits state task (.broken task) ((state.retire task).record queued .failed)
  | broken {found : FlushStage} (here : state.tasks[task]? = some found) (live : found ≠ .done)
      (other : found.written = none) :
      Awaits state task (.broken task) (state.retire task)

/-- Every event queues, publishes or is an await of a task. -/
theorem step_cases (stepped : state.step event = some after) :
    (∃ update, event = .queue update ∧ after = state.queue update) ∨
      (∃ update clock, event = .publish update clock ∧ after = state.publish update clock) ∨
      ∃ task, Awaits state task event after := by
  cases event with
  | queue update =>
    cases stepped
    exact .inl ⟨update, rfl, rfl⟩
  | publish update clock =>
    cases stepped
    exact .inr (.inl ⟨update, clock, rfl, rfl⟩)
  | wake task =>
    simp only [step] at stepped
    split at stepped <;> cases stepped
    next here => exact .inr (.inr ⟨task, .wake here⟩)
  | write task raises clock =>
    simp only [step] at stepped
    split at stepped <;> cases stepped
    next here => exact .inr (.inr ⟨task, .write here⟩)
  | notified task =>
    simp only [step] at stepped
    split at stepped <;> cases stepped
    next here => exact .inr (.inr ⟨task, .notified here⟩)
  | rolledBack task =>
    simp only [step] at stepped
    split at stepped <;> cases stepped
    next here => exact .inr (.inr ⟨task, .rolledBack here⟩)
  | broken task =>
    simp only [step] at stepped
    cases here : state.tasks[task]? with
    | none => simp [here] at stepped
    | some found =>
      rw [here] at stepped
      cases found with
      | done => cases stepped
      | writing queued =>
        cases stepped
        exact .inr (.inr ⟨task, .lost here⟩)
      | sleeping | notifying queued | failing queued =>
        cases stepped
        refine .inr (.inr ⟨task, .broken here ?_ rfl⟩)
        intro same
        cases same

theorem Awaits.live {task : Nat} (awaits : Awaits state task event after) :
    ∃ found, state.tasks[task]? = some found ∧ found ≠ .done := by
  cases awaits with
  | wake here => exact ⟨_, here, nofun⟩
  | write here => exact ⟨_, here, nofun⟩
  | notified here => exact ⟨_, here, nofun⟩
  | rolledBack here => exact ⟨_, here, nofun⟩
  | lost here => exact ⟨_, here, nofun⟩
  | broken here live other => exact ⟨_, here, live⟩

/-- A write leaves the task at its next await; only the row and the outcomes change with it. -/
theorem write_cases (state : DispatchState) (task : Nat) (queued : QueuedUpdate) (raises : Bool)
    (clock : Int) :
    (∃ row accepted, raises = false ∧
      publishOperationProgress state.row queued.update clock = .ok (row, accepted) ∧
      state.write task queued raises clock =
        { (state.move task (.notifying queued)).record queued
            (if accepted then .accepted else .rejected) with row := some row }) ∨
    (¬ (raises = false ∧
        ∃ answer, publishOperationProgress state.row queued.update clock = .ok answer) ∧
      state.write task queued raises clock =
        (state.move task (.failing queued)).record queued .failed) := by
  unfold write
  cases raises with
  | true => exact .inr ⟨fun completes => absurd completes.1 (by decide), rfl⟩
  | false =>
    cases published : publishOperationProgress state.row queued.update clock with
    | error message => exact .inr ⟨fun ⟨_, _, answer⟩ => (nomatch answer), rfl⟩
    | ok answer => exact .inl ⟨answer.1, answer.2, rfl, rfl, rfl⟩

theorem Single.step (single : Single state) (stepped : state.step event = some after) :
    Single after := by
  rcases step_cases stepped with ⟨update, rfl, rfl⟩ | ⟨update, clock, rfl, rfl⟩ | ⟨task, awaits⟩
  · exact single.queue update
  · unfold DispatchState.publish
    split
    · exact single.congr rfl rfl
    · exact single
  · cases awaits with
    | wake here =>
      unfold DispatchState.wake
      cases state.pending with
      | none => exact single.retire here nofun
      | some queued =>
        have goesOn : FlushStage.writing queued ≠ .done := nofun
        exact single.move here nofun goesOn rfl rfl
    | @write queued raises clock here =>
      rcases write_cases state task queued raises clock with ⟨row, accepted, -, -, same⟩ | ⟨-, same⟩
      · rw [same]
        have goesOn : FlushStage.notifying queued ≠ .done := nofun
        exact single.move here nofun goesOn rfl rfl
      · rw [same]
        have goesOn : FlushStage.failing queued ≠ .done := nofun
        exact single.move here nofun goesOn rfl rfl
    | notified here =>
      unfold DispatchState.lookAgain
      cases state.pending with
      | none => exact single.retire here nofun
      | some queued =>
        have goesOn : FlushStage.sleeping ≠ .done := nofun
        exact single.move here nofun goesOn rfl rfl
    | rolledBack here => exact single.retire here nofun
    | lost here => exact (single.retire here nofun).congr rfl rfl
    | broken here live other => exact single.retire here live

/-! ### The task will look -/

/-- An update is pending only while the task of the operation looks at the queue again. -/
def Watched (state : DispatchState) : Prop :=
  state.pending.isSome = true → state.registered.any FlushStage.looks = true

/-- The events after which the queue is still watched: a write raises only while nothing else is
pending, and nothing is queued until its task has retired. -/
def Admitted (event : DispatchEvent) (state : DispatchState) : Prop :=
  match event with
  | .queue _ => ∀ queued, state.registered ≠ some (.failing queued)
  | .write task raises clock => ∀ queued, state.tasks[task]? = some (.writing queued) →
      state.pending.isSome = true → raises = false ∧
        ∃ answer, publishOperationProgress state.row queued.update clock = .ok answer
  | .broken _ => state.pending = none
  | .wake _ | .notified _ | .rolledBack _ | .publish _ _ => True

theorem registered_move (single : Single state) (here : state.tasks[task]? = some stage)
    (live : stage ≠ .done) (next : FlushStage) :
    (state.move task next).registered = some next := by
  have registered : (state.move task next).flushTask = some task :=
    single.only task stage here live
  have within : task < state.tasks.length := (List.getElem?_eq_some_iff.1 here).1
  rw [DispatchState.registered, registered]
  exact List.getElem?_set_self within

theorem registered_retire (single : Single state) (here : state.tasks[task]? = some stage)
    (live : stage ≠ .done) : (state.retire task).registered = none := by
  have cleared : (state.retire task).flushTask = none := if_pos (single.only task stage here live)
  rw [DispatchState.registered, cleared]
  rfl

theorem pending_queue (state : DispatchState) (update : OperationProgressUpdate) :
    (state.queue update).pending.isSome = true := by
  have entered : (if state.supersedes update then state.enter update else state).pending.isSome =
      true := by
    split
    · rfl
    · next kept =>
      cases pending : state.pending with
      | none => simp [supersedes, pending] at kept
      | some current => rfl
  unfold DispatchState.queue
  dsimp only
  split
  · exact entered
  · exact entered

theorem registered_queue (update : OperationProgressUpdate) :
    (state.queue update).registered =
      if state.drained then some .sleeping else state.registered := by
  obtain ⟨tasks, flushTask⟩ := supersedes_enter state update
  unfold DispatchState.queue
  dsimp only
  split
  · simp [DispatchState.registered, DispatchState.createTask]
  · rw [DispatchState.registered, tasks, flushTask]
    rfl

theorem looks_of_live (live : stage ≠ .done) (other : ∀ queued, stage ≠ .failing queued) :
    stage.looks = true := by
  cases stage with
  | sleeping | writing | notifying => rfl
  | failing queued => exact absurd rfl (other queued)
  | done => exact absurd rfl live

/-- After a call that queues, the queue is watched unless the task is about to retire. -/
theorem watched_queue (update : OperationProgressUpdate) :
    Watched (state.queue update) ↔ Admitted (.queue update) state := by
  have pending := pending_queue state update
  rw [Watched, registered_queue]
  simp only [pending, true_imp_iff, Admitted]
  cases registered : state.registered with
  | none => simp [DispatchState.drained, registered, FlushStage.looks]
  | some stage =>
    by_cases live : stage = .done
    · simp [DispatchState.drained, registered, live, FlushStage.looks]
    · simp only [DispatchState.drained, registered, all_some, live, decide_false, Bool.false_eq_true,
        if_false, any_some]
      constructor
      · rintro looks queued ⟨⟩
        cases looks
      · intro other
        exact looks_of_live live fun queued same => other queued (congrArg some same)

/-- A task that stands at an await is the registered one, so it tells whether the queue is
watched. -/
theorem Watched.iff_looks (registered : state.registered = some found) :
    Watched state ↔ (state.pending.isSome = true → found.looks = true) := by
  rw [Watched, registered, any_some]

theorem Watched.of_empty (empty : state.pending = none) : Watched state := by
  intro pending
  rw [empty] at pending
  cases pending

/-- Without a task, the queue is watched when it is empty. -/
theorem watched_retired (retired : after.registered = none)
    (kept : after.pending = state.pending) :
    Watched after ↔ Admitted (.broken task) state := by
  rw [Watched, retired, kept]
  simp only [any_none, Bool.false_eq_true, imp_false, Bool.not_eq_true,
    isSome_eq_false_iff, isNone_iff_eq_none]
  exact Iff.rfl

/-- After an await the queue is watched exactly when the event is admitted. -/
theorem Awaits.watched_iff (single : Single state) (watched : Watched state)
    (awaits : Awaits state task event after) : Watched after ↔ Admitted event state := by
  cases awaits with
  | wake here =>
    refine iff_of_true ?_ trivial
    unfold DispatchState.wake
    cases pending : state.pending with
    | none => exact .of_empty pending
    | some queued => exact .of_empty rfl
  | @write queued raises clock here =>
    have live : FlushStage.writing queued ≠ .done := nofun
    rcases write_cases state task queued raises clock with
      ⟨row, accepted, completes, published, same⟩ | ⟨raised, same⟩
    · refine iff_of_true ?_ ?_
      · have registered : (state.write task queued raises clock).registered =
            some (.notifying queued) := by
          rw [same]
          exact registered_move single here live (.notifying queued)
        exact (Watched.iff_looks registered).2 fun _ => rfl
      · intro other there _
        cases here.symm.trans there
        exact ⟨completes, _, published⟩
    · have registered : (state.write task queued raises clock).registered =
          some (.failing queued) := by
        rw [same]
        exact registered_move single here live (.failing queued)
      have kept : (state.write task queued raises clock).pending = state.pending := by
        rw [same]
        rfl
      rw [Watched.iff_looks registered, kept]
      constructor
      · intro looks other _ pending
        cases looks pending
      · intro admitted pending
        exact absurd (admitted queued here pending) raised
  | @notified queued here =>
    have live : FlushStage.notifying queued ≠ .done := nofun
    refine iff_of_true ?_ trivial
    unfold lookAgain
    cases pending : state.pending with
    | none => exact .of_empty pending
    | some next =>
      exact (Watched.iff_looks (registered_move single here live .sleeping)).2 fun _ => rfl
  | @rolledBack queued here =>
    have live : FlushStage.failing queued ≠ .done := nofun
    refine iff_of_true ?_ trivial
    apply Watched.of_empty
    change state.pending = none
    cases pending : state.pending with
    | none => rfl
    | some next =>
      have looks := (Watched.iff_looks (single.registered here live)).1 watched
      cases looks (by rw [pending]; rfl)
  | @lost queued here =>
    have live : FlushStage.writing queued ≠ .done := nofun
    have retired : ((state.retire task).record queued .failed).registered = none :=
      registered_retire single here live
    exact watched_retired retired rfl
  | broken here live other => exact watched_retired (registered_retire single here live) rfl

/-- Exactly the admitted steps leave no update without a task. -/
theorem watched_iff (single : Single state) (watched : Watched state)
    (stepped : state.step event = some after) : Watched after ↔ Admitted event state := by
  rcases step_cases stepped with ⟨update, rfl, rfl⟩ | ⟨update, clock, rfl, rfl⟩ | ⟨task, awaits⟩
  · exact watched_queue update
  · refine iff_of_true ?_ trivial
    unfold DispatchState.publish
    split
    · exact watched
    · exact watched
  · exact awaits.watched_iff single watched

/-! ### What becomes of the updates -/

/-- The last update that became pending is pending or being written, or its write is over. -/
def Accounted (state : DispatchState) : Prop :=
  ∀ last, state.queued = last + 1 →
    (∃ queued, state.pending = some queued ∧ queued.ticket = last) ∨
      (∃ (task : Nat) (queued : QueuedUpdate),
        state.tasks[task]? = some (.writing queued) ∧ queued.ticket = last) ∨
      ∃ outcome ∈ state.outcomes, outcome.queued.ticket = last

/-- The explicit revisions that were written increase up to that of the row. -/
structure Ordered (state : DispatchState) : Prop where
  increasing : (writtenRevisions state.outcomes).Pairwise (· < ·)
  behind : ∀ revision ∈ writtenRevisions state.outcomes,
    ∃ row, state.row = some row ∧ revision ≤ row.revision

theorem Accounted.queue (accounted : Accounted state) (update : OperationProgressUpdate) :
    Accounted (state.queue update) := by
  have entered : Accounted (if state.supersedes update then state.enter update else state) := by
    split
    · rintro last ⟨⟩
      exact .inl ⟨_, rfl, rfl⟩
    · exact accounted
  unfold DispatchState.queue
  dsimp only
  split
  · intro last count
    rcases entered last count with pending | ⟨task, queued, here, ticket⟩ | ended
    · exact .inl pending
    · have within := (List.getElem?_eq_some_iff.1 here).1
      exact .inr (.inl ⟨task, queued, (List.getElem?_append_left within).trans here, ticket⟩)
    · exact .inr (.inr ended)
  · exact entered

/-- A task that goes on from an await other than a write leaves the account as it is. -/
theorem Accounted.move (accounted : Accounted state)
    (here : state.tasks[task]? = some found) (other : found.written = none)
    (tasks : after.tasks = state.tasks.set task next) (pending : after.pending = state.pending)
    (queued : after.queued = state.queued) (outcomes : after.outcomes = state.outcomes) :
    Accounted after := by
  intro last count
  rw [pending, tasks, outcomes]
  rw [queued] at count
  rcases accounted last count with waits | ⟨writer, queued, there, ticket⟩ | ended
  · exact .inl waits
  · have different : task ≠ writer := by
      rintro rfl
      cases here.symm.trans there
      cases other
    exact .inr (.inl ⟨writer, queued, (List.getElem?_set_ne different).trans there, ticket⟩)
  · exact .inr (.inr ended)

/-- A task whose write is over leaves its outcome. -/
theorem Accounted.finish {written : QueuedUpdate} {result : WriteResult}
    (accounted : Accounted state) (here : state.tasks[task]? = some (.writing written))
    (tasks : after.tasks = state.tasks.set task next) (pending : after.pending = state.pending)
    (queued : after.queued = state.queued)
    (outcomes : after.outcomes = state.outcomes ++ [⟨written, result⟩]) : Accounted after := by
  intro last count
  rw [pending, tasks, outcomes]
  rw [queued] at count
  rcases accounted last count with waits | ⟨writer, queued, there, ticket⟩ | ⟨outcome, known, ticket⟩
  · exact .inl waits
  · by_cases same : task = writer
    · subst same
      cases here.symm.trans there
      exact .inr (.inr ⟨_, mem_append_right _ (mem_singleton.2 rfl), ticket⟩)
    · exact .inr (.inl ⟨writer, queued, (List.getElem?_set_ne same).trans there, ticket⟩)
  · exact .inr (.inr ⟨outcome, mem_append_left _ known, ticket⟩)

theorem Accounted.step (accounted : Accounted state) (stepped : state.step event = some after) :
    Accounted after := by
  rcases step_cases stepped with ⟨update, rfl, rfl⟩ | ⟨update, clock, rfl, rfl⟩ | ⟨task, awaits⟩
  · exact accounted.queue update
  · unfold DispatchState.publish
    split
    · exact accounted
    · exact accounted
  · cases awaits with
    | wake here =>
      unfold DispatchState.wake
      cases pending : state.pending with
      | none => exact accounted.move here rfl rfl rfl rfl rfl
      | some queued =>
        intro last count
        rcases accounted last count with ⟨waits, same, ticket⟩ | ⟨writer, other, there, ticket⟩ |
          ended
        · cases pending.symm.trans same
          have within := (List.getElem?_eq_some_iff.1 here).1
          exact .inr (.inl ⟨task, queued, List.getElem?_set_self within, ticket⟩)
        · have different : task ≠ writer := by
            rintro rfl
            cases here.symm.trans there
          exact .inr (.inl ⟨writer, other, (List.getElem?_set_ne different).trans there, ticket⟩)
        · exact .inr (.inr ended)
    | @write queued raises clock here =>
      rcases write_cases state task queued raises clock with ⟨row, accepted, -, -, same⟩ | ⟨-, same⟩
      · rw [same]
        exact accounted.finish here rfl rfl rfl rfl
      · rw [same]
        exact accounted.finish here rfl rfl rfl rfl
    | notified here =>
      unfold DispatchState.lookAgain
      cases state.pending with
      | none => exact accounted.move here rfl rfl rfl rfl rfl
      | some queued => exact accounted.move here rfl rfl rfl rfl rfl
    | rolledBack here => exact accounted.move here rfl rfl rfl rfl rfl
    | lost here => exact accounted.finish here rfl rfl rfl rfl
    | broken here live other => exact accounted.move here other rfl rfl rfl rfl

theorem Ordered.congr (ordered : Ordered state)
    (outcomes : writtenRevisions after.outcomes = writtenRevisions state.outcomes)
    (row : after.row = state.row) : Ordered after where
  increasing := outcomes ▸ ordered.increasing
  behind := by
    rw [outcomes, row]
    exact ordered.behind

/-- Publishing moves the row on, behind which everything written stays. -/
theorem Ordered.published {update : OperationProgressUpdate} {clock : Int}
    {row : OperationProgress} {accepted : Bool} (ordered : Ordered state)
    (published : publishOperationProgress state.row update clock = .ok (row, accepted)) :
    ∀ revision ∈ writtenRevisions state.outcomes, revision ≤ row.revision := by
  intro revision known
  obtain ⟨before, stored, within⟩ := ordered.behind revision known
  exact within.trans (Int.ofNat_le.2 ((publish_revision published).1 before stored))

theorem writtenRevisions_append (outcomes : List WriteOutcome) (outcome : WriteOutcome) :
    writtenRevisions (outcomes ++ [outcome]) =
      writtenRevisions outcomes ++
        (if outcome.result = .accepted then outcome.queued.update.revision else none).toList := by
  rw [writtenRevisions, filterMap_append]
  cases known : (if outcome.result = .accepted then outcome.queued.update.revision else none) <;>
    simp [writtenRevisions, known]

theorem Ordered.write (ordered : Ordered state) (task : Nat) (queued : QueuedUpdate)
    (raises : Bool) (clock : Int) : Ordered (state.write task queued raises clock) := by
  rcases write_cases state task queued raises clock with
    ⟨row, accepted, -, published, same⟩ | ⟨-, same⟩
  · rw [same]
    have moved := ordered.published published
    have written : writtenRevisions ((state.move task (.notifying queued)).record queued
        (if accepted then .accepted else .rejected)).outcomes =
        writtenRevisions state.outcomes ++
          (if accepted then queued.update.revision else none).toList := by
      change writtenRevisions (state.outcomes ++ [_]) = _
      rw [writtenRevisions_append]
      cases accepted <;> rfl
    have latest (revision : Int)
        (member : revision ∈ (if accepted then queued.update.revision else none).toList) :
        revision = row.revision ∧ ∀ earlier ∈ writtenRevisions state.outcomes, earlier < revision := by
      cases accepted with
      | false => cases member
      | true =>
        obtain ⟨stored, newer⟩ :=
          (publish_revision published).2 rfl revision (mem_toList.1 member)
        refine ⟨stored, ?_⟩
        intro earlier known
        obtain ⟨before, found, within⟩ := ordered.behind earlier known
        exact within.trans_lt (newer before found)
    constructor
    · change (writtenRevisions ((state.move task (.notifying queued)).record queued
        (if accepted then .accepted else .rejected)).outcomes).Pairwise (· < ·)
      rw [written, pairwise_append]
      refine ⟨ordered.increasing, ?_, fun earlier known revision member =>
        (latest revision member).2 earlier known⟩
      cases (if accepted then queued.update.revision else none) with
      | none => exact .nil
      | some revision => exact pairwise_singleton _ _
    · intro revision member
      change revision ∈ writtenRevisions ((state.move task (.notifying queued)).record queued
        (if accepted then .accepted else .rejected)).outcomes at member
      rw [written] at member
      rcases mem_append.1 member with known | last
      · exact ⟨row, rfl, moved revision known⟩
      · exact ⟨row, rfl, (latest revision last).1.le⟩
  · rw [same]
    refine ordered.congr ?_ rfl
    change writtenRevisions (state.outcomes ++ [_]) = _
    rw [writtenRevisions_append]
    exact append_nil _

theorem Ordered.step (ordered : Ordered state) (stepped : state.step event = some after) :
    Ordered after := by
  rcases step_cases stepped with ⟨update, rfl, rfl⟩ | ⟨update, clock, rfl, rfl⟩ | ⟨task, awaits⟩
  · have entered : Ordered (if state.supersedes update then state.enter update else state) := by
      split
      · exact ordered.congr rfl rfl
      · exact ordered
    unfold DispatchState.queue
    dsimp only
    split
    · exact entered.congr rfl rfl
    · exact entered
  · unfold DispatchState.publish
    split
    · next row accepted published =>
      refine ⟨ordered.increasing, ?_⟩
      intro revision known
      exact ⟨row, rfl, ordered.published published revision known⟩
    · exact ordered
  · cases awaits with
    | wake here =>
      unfold DispatchState.wake
      cases state.pending <;> exact ordered.congr rfl rfl
    | @write queued raises clock here => exact ordered.write task queued raises clock
    | notified here =>
      unfold DispatchState.lookAgain
      cases state.pending <;> exact ordered.congr rfl rfl
    | rolledBack here => exact ordered.congr rfl rfl
    | @lost queued here =>
      refine ordered.congr ?_ rfl
      change writtenRevisions (state.outcomes ++ [_]) = _
      rw [writtenRevisions_append]
      exact append_nil _
    | broken here live other => exact ordered.congr rfl rfl

/-! ### The task comes to an end -/

def remaining (state : DispatchState) : Nat :=
  (state.registered.map (FlushStage.awaits state.pending.isSome)).getD 0

theorem remaining_registered (registered : state.registered = some found) :
    state.remaining = found.awaits state.pending.isSome := by
  rw [remaining, registered, map_some, getD_some]

theorem remaining_le (state : DispatchState) : state.remaining ≤ 5 := by
  unfold remaining
  cases state.registered with
  | none => exact Nat.zero_le 5
  | some found =>
    change found.awaits state.pending.isSome ≤ 5
    cases found <;> cases state.pending.isSome <;> simp [FlushStage.awaits]

theorem remaining_retired (retired : after.registered = none) : after.remaining = 0 := by
  rw [remaining, retired]
  rfl

theorem Awaits.remaining_lt (single : Single state) (awaits : Awaits state task event after) :
    after.remaining < state.remaining := by
  obtain ⟨found, here, live⟩ := awaits.live
  have before := remaining_registered (single.registered here live)
  -- A task that is not done has an await before it.
  have positive : 0 < state.remaining := by
    rw [before]
    cases found with
    | done => exact absurd rfl live
    | sleeping | writing | notifying | failing =>
      cases state.pending.isSome <;> simp [FlushStage.awaits]
  cases awaits with
  | wake there =>
    cases here.symm.trans there
    unfold DispatchState.wake
    cases pending : state.pending with
    | none =>
      rw [remaining_retired (registered_retire single here live)]
      exact positive
    | some queued =>
      have taken : ({ state.move task (.writing queued) with pending := none } :
          DispatchState).remaining = FlushStage.awaits false (.writing queued) := by
        apply remaining_registered
        exact registered_move single here live (.writing queued)
      rw [before, pending]
      exact taken.trans_lt (by simp [FlushStage.awaits])
  | @write queued raises clock there =>
    cases here.symm.trans there
    rcases write_cases state task queued raises clock with ⟨row, accepted, -, -, same⟩ | ⟨-, same⟩
    · have registered : (state.write task queued raises clock).registered =
          some (.notifying queued) := by
        rw [same]
        exact registered_move single here live (.notifying queued)
      have kept : (state.write task queued raises clock).pending = state.pending := by
        rw [same]
        rfl
      rw [remaining_registered registered, before, kept]
      cases state.pending.isSome <;> simp [FlushStage.awaits]
    · have registered : (state.write task queued raises clock).registered =
          some (.failing queued) := by
        rw [same]
        exact registered_move single here live (.failing queued)
      rw [remaining_registered registered, before]
      cases state.pending.isSome <;> simp [FlushStage.awaits]
  | @notified queued there =>
    cases here.symm.trans there
    unfold DispatchState.lookAgain
    cases pending : state.pending with
    | none =>
      rw [remaining_retired (registered_retire single here live)]
      exact positive
    | some next =>
      have registered := registered_move single here live .sleeping
      have kept : (state.move task .sleeping).pending = state.pending := rfl
      rw [remaining_registered registered, before, kept, pending]
      simp [FlushStage.awaits]
  | rolledBack there =>
    rw [remaining_retired (registered_retire single here live)]
    exact positive
  | @lost queued there =>
    have retired : ((state.retire task).record queued .failed).registered = none :=
      registered_retire single here live
    rw [remaining_retired retired]
    exact positive
  | broken there other live' =>
    rw [remaining_retired (registered_retire single here live)]
    exact positive

/-- While nothing is queued, the task comes to its end. -/
theorem Single.bounded (single : Single state) {events : List DispatchEvent}
    (own : ∀ event ∈ events, event.isOwn = true)
    (ran : events.foldlM DispatchState.step state = some after) :
    events.length + after.remaining ≤ state.remaining := by
  induction events generalizing state with
  | nil =>
    obtain rfl := Option.some.inj ran
    exact (Nat.zero_add _).le
  | cons event rest ih =>
    obtain ⟨between, first, later⟩ := bind_eq_some_iff.1 ran
    have bound := ih (single.step first)
      (fun other member => own other (mem_cons_of_mem _ member)) later
    have mine := own event mem_cons_self
    rcases step_cases first with ⟨update, rfl, -⟩ | ⟨update, clock, rfl, -⟩ | ⟨task, awaits⟩
    · cases mine
    · cases mine
    · have less := awaits.remaining_lt single
      rw [length_cons]
      omega

/-- A task that is not done stands at an await. -/
theorem Single.goesOn (single : Single state) (waits : state.drained = false) :
    ∃ event, event.isOwn = true ∧ (state.step event).isSome = true := by
  cases registered : state.flushTask with
  | none => simp [DispatchState.drained, DispatchState.registered, registered] at waits
  | some task =>
    obtain ⟨found, here, live⟩ := single.live task registered
    refine ⟨.broken task, rfl, ?_⟩
    simp only [DispatchState.step, here]
    cases found with
    | done => exact absurd rfl live
    | sleeping | writing | notifying | failing => rfl

/-! ### Runs -/

/-- Nothing was queued yet; the row may be there already. -/
def Initial (state : DispatchState) : Prop :=
  ∃ row, state = { row := row }

/-- The states of the runs whose events are admitted. -/
def Reached (state : DispatchState) : Prop :=
  Durable.Reachable Initial Admitted (fun event state after => state.step event = some after) state

/-- What the steps keep. -/
structure Sound (state : DispatchState) : Prop where
  single : Single state
  watched : Watched state
  accounted : Accounted state
  ordered : Ordered state

theorem Reached.sound (reached : Reached state) : Sound state := by
  refine Durable.Reachable.invariant reached ?_ ?_
  · rintro state ⟨row, rfl⟩
    constructor
    · constructor
      · exact nofun
      · intro task stage here
        cases here
    · exact .of_empty rfl
    · exact nofun
    · exact ⟨.nil, nofun⟩
  · intro event state after sound admitted stepped
    constructor
    · exact sound.single.step stepped
    · exact (watched_iff sound.single sound.watched stepped).2 admitted
    · exact sound.accounted.step stepped
    · exact sound.ordered.step stepped

/-- In every run whose events are admitted: an update is pending only while the task looks at the
queue again, the explicit revisions that are written increase, the last update that became pending
is written or its own write was rejected or failed when no task is left, and there is none left
after five awaits without a call that queues. An event that is not admitted leaves an update
behind at once. -/
theorem reached_dispatch (reached : Reached state) :
    Watched state ∧ (writtenRevisions state.outcomes).Pairwise (· < ·) ∧
      (state.drained = true → state.pending = none ∧
        ∀ last, state.queued = last + 1 → ∃ outcome ∈ state.outcomes, outcome.queued.ticket = last) ∧
      (state.drained = false →
        ∃ event, event.isOwn = true ∧ (state.step event).isSome = true) ∧
      (∀ (events : List DispatchEvent) (after : DispatchState),
        (∀ event ∈ events, event.isOwn = true) → events.foldlM step state = some after →
          events.length ≤ 5) ∧
      ∀ event after, state.step event = some after → (Watched after ↔ Admitted event state) := by
  obtain ⟨single, watched, accounted, ordered⟩ := Reached.sound reached
  refine ⟨watched, ordered.increasing, ?_, single.goesOn, ?_, ?_⟩
  · intro drained
    have free := single.drained drained
    have empty : state.pending = none := by
      cases pending : state.pending with
      | none => rfl
      | some queued =>
        have looks := watched (by rw [pending]; rfl)
        rw [DispatchState.registered, free] at looks
        cases looks
    refine ⟨empty, ?_⟩
    intro last count
    rcases accounted last count with ⟨queued, pending, -⟩ | ⟨task, queued, here, -⟩ | ended
    · cases empty.symm.trans pending
    · have live : FlushStage.writing queued ≠ .done := nofun
      cases free.symm.trans (single.only task _ here live)
    · exact ended
  · intro events after own ran
    have bound := single.bounded own ran
    have most := remaining_le state
    omega
  · intro event after stepped
    exact watched_iff single watched stepped

def runningUpdate (revision : Int) : OperationProgressUpdate where
  revision := some revision
  state := .running
  phase := "importing"
  title := "Folder import"

/-- A second update is queued during the write of the first; both are written in order. -/
theorem queued_written :
    ∃ state, [DispatchEvent.queue (runningUpdate 1), .wake 0, .queue (runningUpdate 2),
        .write 0 false 0, .notified 0, .wake 0, .write 0 false 0, .notified 0].foldlM step {} =
          some state ∧
      state.drained = true ∧ writtenRevisions state.outcomes = [1, 2] ∧
      ∃ outcome ∈ state.outcomes, outcome.queued.ticket = 1 := by
  have started : Reached {} := .start ⟨none, rfl⟩
  have asleep := started.next
    (show Admitted (.queue (runningUpdate 1)) {} from fun _ same => by cases same) rfl
  have awake := asleep.next (show Admitted (.wake 0) _ from trivial) rfl
  have waiting := awake.next
    (show Admitted (.queue (runningUpdate 2)) _ from fun _ same => by cases same) rfl
  have written := waiting.next (show Admitted (.write 0 false 0) _ from fun queued here _ => by
    cases here
    exact ⟨rfl, _, rfl⟩) rfl
  have asleepAgain := written.next (show Admitted (.notified 0) _ from trivial) rfl
  have awakeAgain := asleepAgain.next (show Admitted (.wake 0) _ from trivial) rfl
  have writtenAgain := awakeAgain.next (show Admitted (.write 0 false 0) _ from
    fun _ _ pending => by cases pending) rfl
  have finished := writtenAgain.next (show Admitted (.notified 0) _ from trivial) rfl
  exact ⟨_, rfl, rfl, rfl, ((reached_dispatch finished).2.2.1 rfl).2 1 rfl⟩

/-- The write of an update fails while the next one is queued: it stays pending without a task. -/
theorem failure_leaves_pending :
    ¬ ∀ (events : List DispatchEvent) (state : DispatchState),
      events.foldlM step {} = some state → Watched state := by
  intro watched
  have left := watched [.queue (runningUpdate 1), .wake 0, .queue (runningUpdate 2),
    .write 0 true 0, .rolledBack 0] _ rfl rfl
  cases left

end DispatchState

end Pullbox.Progress
