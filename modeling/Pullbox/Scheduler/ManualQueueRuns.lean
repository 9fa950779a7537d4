import Mathlib.Data.List.Range
import Pullbox.Scheduler.ManualQueue

/-!
# Runs of the manual queue

Whatever happens, a task waits at most once and no answered request is lost or taken twice. The
queue has a live worker as long as no wrapper raises while requests wait.
-/

namespace Pullbox.Scheduler

open Function List Option

variable {tasks : TaskRegistry} {queue rest : List ManualTaskRequest}
  {request : ManualTaskRequest}

/-! ### Steps of a run -/

namespace Execution

variable {execution after : Execution} {id : Nat} {outcome : Wake} {progress : Progress}

/-- What a step of a run changes: what the wrappers share, and the run itself. -/
theorem wake_eq_some : execution.wake tasks id outcome = some (after, progress) ↔
    ∃ run shared, execution.runs id = some run ∧
      execution.shared.advance tasks id run outcome = some (shared, progress) ∧
      { execution with shared, runs := update execution.runs id progress.run? } = after := by
  unfold wake
  cases execution.runs id with
  | none => simp
  | some run =>
    constructor
    · intro woken
      obtain ⟨⟨shared, next⟩, advanced, equal⟩ := map_eq_some_iff.1 woken
      obtain ⟨rfl, rfl⟩ := Prod.mk.inj equal
      exact ⟨run, shared, rfl, advanced, rfl⟩
    · rintro ⟨_, shared, equal, advanced, rfl⟩
      obtain rfl := Option.some.inj equal
      exact map_eq_some_iff.2 ⟨_, advanced, rfl⟩

/-- Runs get the numbers that follow. -/
def Numbered (execution : Execution) : Prop :=
  ∀ id, execution.started ≤ id → execution.runs id = none

theorem Numbered.start (numbered : execution.Numbered) (job : Job) :
    (execution.start job).Numbered := by
  intro id later
  change update execution.runs execution.started _ id = none
  have apart : id ≠ execution.started := Nat.ne_of_gt later
  rw [update_of_ne apart]
  exact numbered id (Nat.le_of_succ_le later)

theorem Numbered.wake (numbered : execution.Numbered)
    (woken : execution.wake tasks id outcome = some (after, progress)) : after.Numbered := by
  obtain ⟨run, shared, here, -, rfl⟩ := wake_eq_some.1 woken
  intro other later
  have apart : other ≠ id := by
    rintro rfl
    rw [numbered other later] at here
    cases here
  change update execution.runs id _ other = none
  rw [update_of_ne apart]
  exact numbered other later

end Execution

/-! ### The queue -/

theorem rebalanceManualQueue_perm (queue : List ManualTaskRequest) :
    (rebalanceManualQueue queue).Perm queue := by
  have split := filter_append_perm (·.taskId ∈ manualQueueDeferredTaskIds) queue
  have other : (fun request : ManualTaskRequest =>
      !decide (request.taskId ∈ manualQueueDeferredTaskIds)) =
      fun request => decide (request.taskId ∉ manualQueueDeferredTaskIds) := by
    funext request
    exact (decide_not).symm
  rw [other] at split
  exact perm_append_comm.trans split

namespace PullboxScheduler

open List

variable {scheduler next : PullboxScheduler} {event : Event} {events : List Event}

/-- The tasks in the queue are those of the set, each once; and the requests that were answered
with `queued` are those that wait and those that were taken, each once. -/
structure QueuedOnce (scheduler : PullboxScheduler) : Prop where
  mirrored : ∀ taskId, taskId ∈ scheduler.manualQueueSet ↔
    taskId ∈ scheduler.manualQueue.map (·.taskId)
  distinct : (scheduler.manualQueue.map (·.taskId)).Nodup
  accounted : (scheduler.taken ++ scheduler.manualQueue).Perm scheduler.answered
  tickets : scheduler.answered.map (·.ticket) = List.range scheduler.answered.length

/-- What the worker relies on. -/
structure Sound (scheduler : PullboxScheduler) : Prop where
  queuedOnce : scheduler.QueuedOnce
  registered : ∀ request ∈ scheduler.manualQueue, request.taskId ∈ scheduler.registeredTasks
  numbered : scheduler.execution.Numbered
  awaits : ∀ id, scheduler.manualWorker = some (.draining id) →
    (scheduler.execution.runs id).isSome

/-- A waiting request has a live worker: one that is about to run, or that awaits a run in
progress. -/
def LiveQueue (scheduler : PullboxScheduler) : Prop :=
  scheduler.manualQueue ≠ [] →
    ∃ worker, scheduler.manualWorker = some worker ∧
      ∀ id, worker = .draining id → (scheduler.execution.runs id).isSome

theorem Sound.liveQueue (sound : scheduler.Sound)
    (worker : scheduler.manualQueue ≠ [] → scheduler.manualWorker.isSome) :
    scheduler.LiveQueue := by
  intro waiting
  obtain ⟨worker, here⟩ := isSome_iff_exists.1 (worker waiting)
  refine ⟨worker, here, ?_⟩
  rintro id rfl
  exact sound.awaits id here

/-! ### Requests -/

theorem QueuedOnce.enqueue (once : scheduler.QueuedOnce)
    (absent : request.taskId ∉ scheduler.manualQueueSet)
    (ticket : request.ticket = scheduler.answered.length) :
    (scheduler.enqueue request).QueuedOnce where
  mirrored taskId := by
    simp only [PullboxScheduler.enqueue, Finset.mem_insert, map_append, mem_append,
      once.mirrored]
    rw [map_singleton, mem_singleton, or_comm]
  distinct := by
    simp only [PullboxScheduler.enqueue, map_append, map_singleton]
    apply nodup_append.2
    refine ⟨once.distinct, nodup_singleton _, ?_⟩
    intro taskId inside other last equal
    have same : taskId = request.taskId := equal.trans (mem_singleton.1 last)
    exact absent ((once.mirrored _).2 (same ▸ inside))
  accounted := by
    simp only [PullboxScheduler.enqueue, ← append_assoc]
    exact once.accounted.append_right [request]
  tickets := by
    simp only [PullboxScheduler.enqueue, map_append, map_singleton, length_append,
      length_singleton, once.tickets, ticket, range_succ]

theorem QueuedOnce.rebalance (once : scheduler.QueuedOnce) : scheduler.rebalance.QueuedOnce := by
  unfold PullboxScheduler.rebalance
  split
  · exact once
  · have perm := rebalanceManualQueue_perm scheduler.manualQueue
    have named := perm.map (·.taskId)
    constructor
    · intro taskId
      exact (once.mirrored taskId).trans (named.mem_iff).symm
    · exact named.nodup_iff.2 once.distinct
    · exact (perm.append_left scheduler.taken).trans once.accounted
    · exact once.tickets

theorem mem_rebalance {other : ManualTaskRequest} :
    other ∈ scheduler.rebalance.manualQueue ↔ other ∈ scheduler.manualQueue := by
  unfold PullboxScheduler.rebalance
  split
  · rfl
  · exact (rebalanceManualQueue_perm scheduler.manualQueue).mem_iff

theorem Sound.register (sound : scheduler.Sound) {taskId : String}
    (known : scheduler.register tasks taskId = some next) :
    next.Sound ∧ taskId ∈ next.registeredTasks ∧ next.manualQueue = scheduler.manualQueue ∧
      next.manualWorker = scheduler.manualWorker := by
  unfold PullboxScheduler.register at known
  split at known
  · rename_i registered
    obtain rfl := Option.some.inj known
    exact ⟨sound, registered, rfl, rfl⟩
  · obtain ⟨-, equal⟩ := ite_none_right_eq_some.1 known
    obtain rfl := Option.some.inj equal
    have more : Sound { scheduler with registeredTasks := scheduler.registeredTasks ++ [taskId] } := {
      queuedOnce := { sound.queuedOnce with }
      registered := fun request inside => mem_append_left _ (sound.registered request inside)
      numbered := sound.numbered
      awaits := sound.awaits }
    exact ⟨more, mem_append_right _ (mem_singleton.2 rfl), rfl, rfl⟩

theorem Sound.ensureManualWorker (sound : scheduler.Sound) :
    scheduler.ensureManualWorker.Sound ∧ scheduler.ensureManualWorker.manualWorker.isSome := by
  unfold PullboxScheduler.ensureManualWorker
  cases here : scheduler.manualWorker with
  | some worker => exact ⟨sound, by simp [here]⟩
  | none =>
    have starting : Sound { scheduler with manualWorker := some .starting } := {
      queuedOnce := { sound.queuedOnce with }
      registered := sound.registered
      numbered := sound.numbered
      awaits := fun id draining => by cases draining }
    exact ⟨starting, rfl⟩

theorem Sound.enqueue (sound : scheduler.Sound)
    (registered : request.taskId ∈ scheduler.registeredTasks)
    (absent : request.taskId ∉ scheduler.manualQueueSet)
    (ticket : request.ticket = scheduler.answered.length) :
    (scheduler.enqueue request).rebalance.Sound := by
  have frame : (scheduler.enqueue request).rebalance.registeredTasks = scheduler.registeredTasks ∧
      (scheduler.enqueue request).rebalance.execution = scheduler.execution ∧
      (scheduler.enqueue request).rebalance.manualWorker = scheduler.manualWorker := by
    unfold PullboxScheduler.rebalance
    split
    · exact ⟨rfl, rfl, rfl⟩
    · exact ⟨rfl, rfl, rfl⟩
  obtain ⟨sameTasks, sameExecution, sameWorker⟩ := frame
  constructor
  · exact (sound.queuedOnce.enqueue absent ticket).rebalance
  · intro other inside
    rw [sameTasks]
    obtain before | last := mem_append.1 (mem_rebalance.1 inside)
    · exact sound.registered other before
    · obtain rfl := mem_singleton.1 last
      exact registered
  · rw [sameExecution]
    exact sound.numbered
  · rw [sameExecution, sameWorker]
    exact sound.awaits

theorem Sound.runTaskNow (tasks : TaskRegistry) (sound : scheduler.Sound) (taskId : String)
    (triggerRequestId : Option String) :
    (scheduler.runTaskNow tasks taskId triggerRequestId).1.Sound ∧
      ((scheduler.manualQueue ≠ [] → scheduler.manualWorker.isSome) →
        (scheduler.runTaskNow tasks taskId triggerRequestId).1.manualQueue ≠ [] →
          (scheduler.runTaskNow tasks taskId triggerRequestId).1.manualWorker.isSome) := by
  unfold PullboxScheduler.runTaskNow
  cases known : scheduler.register tasks taskId with
  | none => exact ⟨sound, id⟩
  | some next =>
    obtain ⟨nextSound, registered, sameQueue, sameWorker⟩ := sound.register known
    simp only
    split
    · rw [sameQueue, sameWorker]
      exact ⟨nextSound, id⟩
    split
    · rw [sameQueue, sameWorker]
      exact ⟨nextSound, id⟩
    · rename_i absent
      have queued : (next.enqueue
          ⟨taskId, triggerRequestId, next.answered.length⟩).rebalance.Sound :=
        nextSound.enqueue registered absent rfl
      obtain ⟨ensured, worker⟩ := queued.ensureManualWorker
      exact ⟨ensured, fun _ _ => worker⟩

/-! ### The worker -/

theorem QueuedOnce.take (once : scheduler.QueuedOnce)
    (waiting : scheduler.manualQueue = request :: rest) :
    (scheduler.take request rest).QueuedOnce := by
  have distinct := once.distinct
  rw [waiting, map_cons, nodup_cons] at distinct
  constructor
  · intro taskId
    change taskId ∈ scheduler.manualQueueSet.erase request.taskId ↔ taskId ∈ rest.map (·.taskId)
    rw [Finset.mem_erase, once.mirrored, waiting, map_cons, mem_cons]
    constructor
    · rintro ⟨apart, same | later⟩
      · exact absurd same apart
      · exact later
    · intro later
      refine ⟨?_, .inr later⟩
      rintro rfl
      exact distinct.1 later
  · exact distinct.2
  · have accounted := once.accounted
    rw [waiting] at accounted
    change ((scheduler.taken ++ [request]) ++ rest).Perm scheduler.answered
    rw [append_assoc]
    exact accounted
  · exact once.tickets

theorem drain_of_nil (empty : scheduler.manualQueue = []) :
    scheduler.drain = scheduler.retire := by
  unfold PullboxScheduler.drain
  rw [empty]
  rfl

theorem drain_of_cons (waiting : scheduler.manualQueue = request :: rest)
    (registered : request.taskId ∈ scheduler.registeredTasks) :
    scheduler.drain = (scheduler.take request rest).callWrapper request.taskId := by
  unfold PullboxScheduler.drain
  rw [waiting]
  exact if_pos registered

theorem taken_drain (scheduler : PullboxScheduler)
    (waiting : scheduler.manualQueue = request :: rest)
    (registered : request.taskId ∈ scheduler.registeredTasks) :
    scheduler.drain.taken = scheduler.taken ++ [request] ∧ scheduler.drain.manualQueue = rest := by
  rw [drain_of_cons waiting registered]
  exact ⟨rfl, rfl⟩

/-- The worker takes the first request and awaits its run, or retires from an empty queue. -/
theorem sound_drain (scheduler : PullboxScheduler) (once : scheduler.QueuedOnce)
    (registered : ∀ request ∈ scheduler.manualQueue, request.taskId ∈ scheduler.registeredTasks)
    (numbered : scheduler.execution.Numbered) :
    scheduler.drain.Sound ∧
      (scheduler.drain.manualQueue ≠ [] → scheduler.drain.manualWorker.isSome) := by
  cases waiting : scheduler.manualQueue with
  | nil =>
    rw [drain_of_nil waiting]
    have retired : scheduler.retire.Sound := {
      queuedOnce := { once with }
      registered := registered
      numbered := numbered
      awaits := fun id draining => by cases draining }
    exact ⟨retired, fun more => absurd waiting more⟩
  | cons request rest =>
    have known := registered request (waiting ▸ mem_cons_self)
    rw [drain_of_cons waiting known]
    have taken := once.take waiting
    refine ⟨⟨{ taken with }, ?_, numbered.start _, ?_⟩, fun _ => rfl⟩
    · intro other inside
      exact registered other (waiting ▸ mem_cons_of_mem _ inside)
    · intro id draining
      obtain rfl : scheduler.execution.started = id :=
        Worker.draining.inj (Option.some.inj draining)
      change (update scheduler.execution.runs scheduler.execution.started _
        scheduler.execution.started).isSome = true
      rw [update_self]
      rfl

/-! ### Steps -/

/-- The wrapper that the worker awaits raises. -/
def Escapes (tasks : TaskRegistry) (scheduler : PullboxScheduler) : Event → Prop
  | .wake id outcome => scheduler.manualWorker = some (.draining id) ∧
      ∃ execution, scheduler.execution.wake tasks id outcome = some (execution, .raised)
  | _ => False

/-- The worker runs for the first time, or the wrapper that it awaits returns. -/
def GoesOn (tasks : TaskRegistry) (scheduler : PullboxScheduler) : Event → Prop
  | .wake id outcome => scheduler.manualWorker = some (.draining id) ∧
      ∃ execution, scheduler.execution.wake tasks id outcome = some (execution, .returned)
  | .work => scheduler.manualWorker = some .starting
  | _ => False

/-- Every waiting request has a worker that is not known to have ended. -/
def Attended (scheduler : PullboxScheduler) : Prop :=
  scheduler.manualQueue ≠ [] → scheduler.manualWorker.isSome

theorem Sound.liveQueue_iff (sound : scheduler.Sound) :
    scheduler.LiveQueue ↔ scheduler.Attended := by
  constructor
  · intro live waiting
    obtain ⟨worker, here, -⟩ := live waiting
    exact isSome_iff_exists.2 ⟨worker, here⟩
  · exact sound.liveQueue

theorem Sound.fire (sound : scheduler.Sound) {job : Job} (fired : scheduler.fire job = some next) :
    next.Sound ∧ next.manualQueue = scheduler.manualQueue ∧
      next.manualWorker = scheduler.manualWorker := by
  have start : ∀ job, Sound { scheduler with execution := scheduler.execution.start job } := by
    intro job
    refine ⟨{ sound.queuedOnce with }, sound.registered, sound.numbered.start job, ?_⟩
    intro id draining
    have here := sound.awaits id draining
    change (update scheduler.execution.runs scheduler.execution.started _ id).isSome = true
    by_cases same : id = scheduler.execution.started
    · rw [same, update_self]
      rfl
    · rw [update_of_ne same]
      exact here
  cases job with
  | manual taskId => cases fired
  | scheduled taskId =>
    obtain ⟨-, equal⟩ := ite_none_left_eq_some.1 fired
    obtain rfl := Option.some.inj equal
    exact ⟨start _, rfl, rfl⟩
  | continuation taskId =>
    obtain ⟨-, equal⟩ := ite_none_left_eq_some.1 fired
    obtain rfl := Option.some.inj equal
    exact ⟨start _, rfl, rfl⟩

theorem Sound.wake (sound : scheduler.Sound) {id : Nat} {outcome : Wake}
    (woken : scheduler.wake tasks id outcome = some next) :
    next.Sound ∧ (Escapes tasks scheduler (.wake id outcome) →
        next.manualQueue = scheduler.manualQueue ∧ next.manualWorker = none) ∧
      (¬ Escapes tasks scheduler (.wake id outcome) → scheduler.Attended → next.Attended) := by
  unfold PullboxScheduler.wake at woken
  cases advanced : scheduler.execution.wake tasks id outcome with
  | none =>
    rw [advanced] at woken
    cases woken
  | some result =>
    obtain ⟨execution, progress⟩ := result
    rw [advanced] at woken
    have numbered := sound.numbered.wake advanced
    obtain ⟨run, shared, here, -, rfl⟩ := Execution.wake_eq_some.1 advanced
    by_cases drains : scheduler.manualWorker = some (.draining id)
    · obtain rfl := Option.some.inj ((if_pos drains).symm.trans woken)
      cases progress with
      | suspended run =>
        refine ⟨⟨{ sound.queuedOnce with }, sound.registered, numbered, ?_⟩, ?_, fun _ attended => attended⟩
        · intro other draining
          obtain rfl : id = other :=
            Worker.draining.inj (Option.some.inj (drains.symm.trans draining))
          change (update scheduler.execution.runs id _ id).isSome = true
          rw [update_self]
          rfl
        · rintro ⟨-, _, escapes⟩
          cases (Prod.mk.inj (Option.some.inj (advanced.symm.trans escapes))).2
      | returned =>
        have drained := sound_drain
          { scheduler with execution := _, manualCurrentTaskId := none }
          { sound.queuedOnce with } sound.registered numbered
        refine ⟨drained.1, ?_, fun _ _ => drained.2⟩
        rintro ⟨-, _, escapes⟩
        cases (Prod.mk.inj (Option.some.inj (advanced.symm.trans escapes))).2
      | raised =>
        refine ⟨⟨{ sound.queuedOnce with }, sound.registered, numbered, ?_⟩, ?_, ?_⟩
        · intro other draining
          cases draining
        · exact fun _ => ⟨rfl, rfl⟩
        · exact fun stays => absurd ⟨drains, _, advanced⟩ stays
    · obtain rfl := Option.some.inj ((if_neg drains).symm.trans woken)
      refine ⟨⟨{ sound.queuedOnce with }, sound.registered, numbered, ?_⟩, ?_, fun _ attended => attended⟩
      · intro other draining
        have apart : other ≠ id := by
          rintro rfl
          exact drains draining
        change (update scheduler.execution.runs id _ other).isSome = true
        rw [update_of_ne apart]
        exact sound.awaits other draining
      · exact fun escapes => absurd escapes.1 drains

theorem Sound.step (sound : scheduler.Sound) (stepped : scheduler.step tasks event = some next) :
    next.Sound ∧ (Escapes tasks scheduler event →
        next.manualQueue = scheduler.manualQueue ∧ next.manualWorker = none) ∧
      (¬ Escapes tasks scheduler event → scheduler.Attended → next.Attended) := by
  cases event with
  | fire job =>
    obtain ⟨nextSound, sameQueue, sameWorker⟩ := sound.fire stepped
    refine ⟨nextSound, fun escapes => escapes.elim, fun _ attended => ?_⟩
    unfold Attended
    rw [sameQueue, sameWorker]
    exact attended
  | request taskId triggerRequestId =>
    obtain rfl := Option.some.inj stepped
    obtain ⟨nextSound, attended⟩ := sound.runTaskNow tasks taskId triggerRequestId
    exact ⟨nextSound, fun escapes => escapes.elim, fun _ => attended⟩
  | wake id outcome => exact sound.wake stepped
  | work =>
    obtain ⟨-, equal⟩ := ite_none_right_eq_some.1 stepped
    obtain rfl := Option.some.inj equal
    obtain ⟨nextSound, attended⟩ :=
      sound_drain scheduler sound.queuedOnce sound.registered sound.numbered
    exact ⟨nextSound, fun escapes => escapes.elim, fun _ _ => attended⟩

/-- A step leaves a waiting request without a live worker if and only if a wrapper raises while
requests wait. -/
theorem liveQueue_step_iff (sound : scheduler.Sound) (live : scheduler.LiveQueue)
    (stepped : scheduler.step tasks event = some next) :
    next.LiveQueue ↔ (Escapes tasks scheduler event → scheduler.manualQueue = []) := by
  obtain ⟨nextSound, escaping, staying⟩ := sound.step stepped
  rw [nextSound.liveQueue_iff]
  constructor
  · intro attended escapes
    obtain ⟨sameQueue, ended⟩ := escaping escapes
    by_contra waiting
    have worker := attended (sameQueue ▸ waiting)
    rw [ended] at worker
    cases worker
  · intro empty
    by_cases escapes : Escapes tasks scheduler event
    · obtain ⟨sameQueue, -⟩ := escaping escapes
      intro waiting
      exact absurd (sameQueue.trans (empty escapes)) waiting
    · exact staying escapes (sound.liveQueue_iff.1 live)

/-- When the worker goes on, it takes the first of the waiting requests. -/
theorem step_of_goesOn (sound : scheduler.Sound) (goesOn : GoesOn tasks scheduler event)
    (stepped : scheduler.step tasks event = some next)
    (waiting : scheduler.manualQueue = request :: rest) :
    next.taken = scheduler.taken ++ [request] ∧ next.manualQueue = rest := by
  have registered := sound.registered request (waiting ▸ mem_cons_self)
  cases event with
  | fire job => exact goesOn.elim
  | request taskId triggerRequestId => exact goesOn.elim
  | wake id outcome =>
    obtain ⟨drains, execution, returned⟩ := goesOn
    change scheduler.wake tasks id outcome = some next at stepped
    unfold PullboxScheduler.wake at stepped
    rw [returned] at stepped
    obtain rfl := Option.some.inj ((if_pos drains).symm.trans stepped)
    exact taken_drain { scheduler with execution, manualCurrentTaskId := none } waiting registered
  | work =>
    obtain ⟨-, equal⟩ := ite_none_right_eq_some.1 stepped
    obtain rfl := Option.some.inj equal
    exact taken_drain scheduler waiting registered

/-! ### Runs -/

theorem sound_started : (started tasks).Sound where
  queuedOnce := {
    mirrored := fun taskId => by simp [started]
    distinct := nodup_nil
    accounted := List.Perm.refl _
    tickets := rfl }
  registered request inside := by cases inside
  numbered _ _ := rfl
  awaits id draining := by cases draining

theorem after_concat :
    after tasks (events ++ [event]) = (after tasks events).bind (step tasks · event) := by
  unfold after
  rw [foldlM_append]
  cases events.foldlM (step tasks) (started tasks) with
  | none => rfl
  | some scheduler => simp

theorem sound_after (ran : after tasks events = some scheduler) :
    scheduler.Sound := by
  induction events using List.reverseRecOn generalizing scheduler with
  | nil => exact Option.some.inj ran ▸ sound_started
  | append_singleton before event ih =>
    rw [after_concat] at ran
    obtain ⟨between, earlier, stepped⟩ := bind_eq_some_iff.1 ran
    exact ((ih earlier).step stepped).1

theorem after_of_prefix {events earlier : List Event} (ran : after tasks events = some scheduler)
    (initial : earlier <+: events) : ∃ between, after tasks earlier = some between := by
  obtain ⟨later, rfl⟩ := initial
  unfold after at ran
  rw [foldlM_append] at ran
  obtain ⟨between, here, -⟩ := bind_eq_some_iff.1 ran
  exact ⟨between, here⟩

/-- The queue has a live worker throughout a run if and only if every wrapper that raises into
the worker does so while no request waits. -/
theorem liveQueue_throughout_iff (ran : after tasks events = some scheduler) :
    (∀ earlier, earlier <+: events → ∀ state, after tasks earlier = some state →
        state.LiveQueue) ↔
      ∀ earlier event, earlier ++ [event] <+: events → ∀ state, after tasks earlier = some state →
        Escapes tasks state event → state.manualQueue = [] := by
  constructor
  · intro live earlier event initial state here escapes
    obtain ⟨later, there⟩ := after_of_prefix ran initial
    have stepped := there
    rw [after_concat, here] at stepped
    have before := live earlier ((prefix_append _ _).trans initial) state here
    exact (liveQueue_step_iff (sound_after here) before stepped).1
      (live (earlier ++ [event]) initial later there) escapes
  · intro empty earlier initial
    induction earlier using List.reverseRecOn with
    | nil =>
      intro state here
      obtain rfl := Option.some.inj here
      intro waiting
      exact absurd rfl waiting
    | append_singleton before event ih =>
      intro state here
      rw [after_concat] at here
      obtain ⟨between, there, stepped⟩ := bind_eq_some_iff.1 here
      have live := ih ((prefix_append _ _).trans initial) between there
      exact (liveQueue_step_iff (sound_after there) live stepped).2
        (empty before event initial between there)

/-- In every run a task waits at most once, every request answered with `queued` waits or was
taken, each once, and a worker that goes on takes the first of those that wait. No request ever
waits without a live worker if and only if every wrapper that raises into the worker does so
while none waits, and then a scheduler without a worker has taken all of them. -/
theorem manual_queue {events : List Event} (ran : after tasks events = some scheduler) :
    scheduler.QueuedOnce ∧
    (∀ event next request rest, GoesOn tasks scheduler event →
      scheduler.step tasks event = some next → scheduler.manualQueue = request :: rest →
        next.taken = scheduler.taken ++ [request] ∧ next.manualQueue = rest) ∧
    ((∀ earlier, earlier <+: events → ∀ state, after tasks earlier = some state →
        state.LiveQueue) ↔
      ∀ earlier event, earlier ++ [event] <+: events → ∀ state, after tasks earlier = some state →
        Escapes tasks state event → state.manualQueue = []) ∧
    (scheduler.LiveQueue → scheduler.manualWorker = none →
      scheduler.taken.Perm scheduler.answered) := by
  have sound := sound_after ran
  refine ⟨sound.queuedOnce, ?_, liveQueue_throughout_iff ran, ?_⟩
  · intro event next request rest goesOn stepped waiting
    exact step_of_goesOn sound goesOn stepped waiting
  · intro live ended
    have accounted := sound.queuedOnce.accounted
    have empty : scheduler.manualQueue = [] := by
      by_contra waiting
      obtain ⟨worker, here, -⟩ := live waiting
      rw [ended] at here
      cases here
    rw [empty, append_nil] at accounted
    exact accounted

/-- Two tasks without reservations. -/
def pairOfTasks : TaskRegistry where
  taskIds := ["sync_new_issues", "search_wanted"]
  exclusive _ := false

/-- Both tasks are asked for, and the first one is run up to its body. -/
def firstBody : List Event :=
  [.request "sync_new_issues" none, .request "search_wanted" none, .work, .wake 0 .done]

/-- Two queued tasks are taken and answered, one of them failed. -/
theorem manual_queue_drained : ∃ scheduler,
    after pairOfTasks (firstBody ++ [.wake 0 .done, .wake 0 .done, .wake 1 .done, .wake 1 .failed,
      .wake 1 .done]) = some scheduler ∧ scheduler.taken.length = 2 ∧
        scheduler.taken.Perm scheduler.answered := by
  obtain ⟨scheduler, ran, taken, empty, ended⟩ : ∃ scheduler,
      after pairOfTasks (firstBody ++ [.wake 0 .done, .wake 0 .done, .wake 1 .done,
        .wake 1 .failed, .wake 1 .done]) = some scheduler ∧
          scheduler.taken.length = 2 ∧ scheduler.manualQueue = [] ∧
            scheduler.manualWorker = none := ⟨_, rfl, rfl, rfl, rfl⟩
  obtain ⟨-, -, -, all⟩ := manual_queue ran
  exact ⟨scheduler, ran, taken, all (fun waiting => absurd empty waiting) ended⟩

/-- A body that raises `CancelledError` ends the worker while the other request waits. -/
theorem not_liveQueue : ¬ ∀ tasks events scheduler,
    after tasks events = some scheduler → scheduler.LiveQueue := by
  intro live
  obtain ⟨scheduler, ran, waiting, ended⟩ : ∃ scheduler,
      after pairOfTasks (firstBody ++ [.wake 0 .cancelled, .wake 0 .done]) = some scheduler ∧
        scheduler.manualQueue.length = 1 ∧ scheduler.manualWorker = none :=
    ⟨_, rfl, rfl, rfl⟩
  have nonempty : scheduler.manualQueue ≠ [] := by
    intro empty
    rw [empty] at waiting
    cases waiting
  obtain ⟨worker, here, -⟩ := live _ _ _ ran nonempty
  rw [ended] at here
  cases here

end PullboxScheduler

end Pullbox.Scheduler
