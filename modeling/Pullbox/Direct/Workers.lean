import Pullbox.Direct.Dispatch

/-!
# One worker for an acquisition

The registry is keyed by the artifact that a worker was started with. Where every dispatch of an
acquisition names that artifact, no two workers execute the acquisition: the lock lets no other
worker start between the check of the registry and the start.
-/

namespace Pullbox.Direct

open Durable Option Search

/-- A call that holds the lock. -/
def Call.holds : Call → Bool
  | .markQueued .. | .listOptions _ | .stopWorkers .. | .cancelRoute _ | .queueSwitch ..
  | .restart .. => true
  | _ => false

/-- The acquisition that a call found without workers. -/
def Call.cleared : Call → Option Nat
  | .markQueued acquisition _ _ | .cancelRoute acquisition | .queueSwitch acquisition _
  | .restart acquisition _ => some acquisition
  | _ => none

namespace RunnerState

variable {runner after : RunnerState} {number acquisition artifact : Nat} {call : Call}
  {key : Nat × Nat} {remaining : List (Nat × Nat)} {answer : Answer} {event : RunnerEvent}

/-- A worker executes some artifact. -/
def Executes (runner : RunnerState) (key : Nat × Nat) : Prop :=
  ∃ run, runner.active.get key = some run ∧ run.executing = true

/-- A worker executes some artifact of an acquisition. -/
def Executing (runner : RunnerState) (acquisition : Nat) : Prop :=
  ∃ artifact, runner.Executes (acquisition, artifact)

/-- No two workers execute artifacts of one acquisition, and a dispatch is only carried out
while none does. -/
structure Exclusive (runner : RunnerState) : Prop where
  single : ∀ acquisition first second, runner.Executes (acquisition, first) →
    runner.Executes (acquisition, second) → first = second
  rejecting : ∀ number acquisition artifact remaining,
    runner.calls number = some (.markQueued acquisition artifact remaining) →
      ¬ runner.Executing acquisition

/-- Where a worker executes the acquisition of a dispatch, a worker was started with the artifact
of the dispatch. -/
def alignedCall (runner : RunnerState) : Call → Bool
  | .dispatch acquisition artifact _ =>
    (runner.active.get (acquisition, artifact)).isSome ||
      runner.active.entries.all fun entry => !entry.2.executing || entry.1.1 != acquisition
  | _ => true

/-- A dispatch that takes the lock is aligned. -/
def Aligned : RunnerEvent → RunnerState → Prop
  | .proceed number _, runner => (runner.calls number).all runner.alignedCall = true
  | _, _ => True

instance (event : RunnerEvent) (runner : RunnerState) : Decidable (Aligned event runner) := by
  unfold Aligned
  split
  · infer_instance
  · infer_instance

theorem alignedCall_iff :
    runner.alignedCall (.dispatch acquisition artifact remaining) = true ↔
      (runner.Executing acquisition →
        (runner.active.get (acquisition, artifact)).isSome = true) := by
  have idle : (runner.active.entries.all fun entry =>
      !entry.2.executing || entry.1.1 != acquisition) = true ↔ ¬ runner.Executing acquisition := by
    rw [List.all_eq_true]
    constructor
    · rintro all ⟨started, run, found, executing⟩
      have entry := all _ (Dict.get_eq_some.1 found)
      simp [executing] at entry
    · rintro none ⟨⟨other, started⟩, run⟩ inside
      by_cases same : other = acquisition
      · subst same
        cases executing : run.executing with
        | false => rfl
        | true => exact absurd ⟨started, run, Dict.get_eq_some.2 inside, executing⟩ none
      · simp [same]
  unfold alignedCall
  rw [Bool.or_eq_true, idle, or_iff_not_imp_right, not_not]

/-! ### What a call knows -/

/-- A call that holds the lock has it, and knows which workers there can be. -/
structure CallSound (runner : RunnerState) (number : Nat) (call : Call) : Prop where
  lock : call.holds = true → runner.lock = some number
  stopped : ∀ acquisition stopped, call = .stopWorkers acquisition stopped →
    ∀ artifact, runner.Executes (acquisition, artifact) → (acquisition, artifact) ∈ stopped
  cleared : ∀ acquisition, call.cleared = some acquisition → ¬ runner.Executing acquisition

/-- Every call has what it relies on; no acquisition has two workers. -/
structure Orderly (runner : RunnerState) : Prop where
  calls : ∀ number call, runner.calls number = some call → CallSound runner number call
  single : ∀ acquisition first second, runner.Executes (acquisition, first) →
    runner.Executes (acquisition, second) → first = second

/-- An orderly runner executes an acquisition in one worker at most. -/
theorem Orderly.exclusive (orderly : runner.Orderly) : runner.Exclusive where
  single := orderly.single
  rejecting number acquisition _ _ found := (orderly.calls number _ found).cleared acquisition rfl

theorem holds_of_cleared (found : call.cleared = some acquisition) : call.holds = true := by
  cases call
  all_goals first
    | rfl
    | simp [Call.cleared] at found

/-- A call without the lock knows nothing. -/
theorem CallSound.of_free (free : call.holds = false) : CallSound runner number call where
  lock holds := by
    rw [free] at holds
    cases holds
  stopped _ _ same := by
    rw [same] at free
    cases free
  cleared acquisition found := by
    rw [holds_of_cleared found] at free
    cases free

theorem CallSound.mono (sound : CallSound runner number call)
    (lock : call.holds = true → after.lock = runner.lock)
    (fewer : ∀ key, after.Executes key → runner.Executes key) : CallSound after number call where
  lock holds := (lock holds).trans (sound.lock holds)
  stopped acquisition stopped same artifact executes :=
    sound.stopped acquisition stopped same artifact (fewer _ executes)
  cleared acquisition found executing := by
    obtain ⟨artifact, executes⟩ := executing
    exact sound.cleared acquisition found ⟨artifact, fewer _ executes⟩

/-- One call goes on, and no worker starts. -/
theorem Orderly.goes (orderly : runner.Orderly) (number : Nat)
    (fewer : ∀ key, after.Executes key → runner.Executes key)
    (others : ∀ other, other ≠ number → after.calls other = runner.calls other)
    (lock : after.lock = runner.lock ∨ runner.lock = none ∨ runner.lock = some number)
    (own : ∀ call, after.calls number = some call → CallSound after number call) :
    after.Orderly where
  calls other call found := by
    by_cases same : other = number
    · subst same
      exact own call found
    · rw [others other same] at found
      have sound := orderly.calls other call found
      refine sound.mono (fun holds => ?_) fewer
      have held := sound.lock holds
      rcases lock with kept | free | mine
      · exact kept
      · rw [free] at held
        cases held
      · rw [mine] at held
        exact absurd (Option.some.inj held).symm same
  single acquisition first second one two :=
    orderly.single acquisition first second (fewer _ one) (fewer _ two)

theorem goOn_other {other : Nat} (apart : other ≠ number) :
    (runner.goOn number call).calls other = runner.calls other :=
  if_neg apart

theorem leave_other {other : Nat} (apart : other ≠ number) :
    (runner.leave number).calls other = runner.calls other :=
  if_neg apart

theorem goOn_self {found : Call} (here : (runner.goOn number call).calls number = some found) :
    found = call :=
  (Option.some.inj ((if_pos rfl).symm.trans here)).symm

theorem leave_self : (runner.leave number).calls number = none :=
  if_pos rfl

theorem Orderly.goOn (orderly : runner.Orderly)
    (sound : CallSound (runner.goOn number call) number call) :
    (runner.goOn number call).Orderly := by
  refine orderly.goes number (fun _ executes => executes) (fun _ apart => goOn_other apart)
    (.inl rfl) fun found here => ?_
  rw [goOn_self here]
  exact sound

theorem Orderly.leave (orderly : runner.Orderly) : (runner.leave number).Orderly := by
  refine orderly.goes number (fun _ executes => executes) (fun _ apart => leave_other apart)
    (.inl rfl) fun found here => ?_
  rw [leave_self] at here
  cases here

/-- The call with the lock releases it and is over. -/
theorem Orderly.release_leave (orderly : runner.Orderly) (held : runner.lock = some number) :
    ((runner.release).leave number).Orderly := by
  refine orderly.goes number (fun _ executes => executes) (fun _ apart => leave_other apart)
    (.inr (.inr held)) fun found here => ?_
  rw [leave_self] at here
  cases here

theorem Orderly.write {change : AcquisitionRecord → AcquisitionRecord} (orderly : runner.Orderly) :
    (runner.write acquisition change).Orderly :=
  ⟨fun number call found =>
    (orderly.calls number call found).mono (fun _ => rfl) fun _ executes => executes,
    orderly.single⟩

theorem dispatchNext_other {other : Nat} (apart : other ≠ number) :
    (runner.dispatchNext number remaining).calls other = runner.calls other := by
  cases remaining with
  | nil => exact leave_other apart
  | cons pair rest => exact goOn_other apart

/-- The next dispatch has not taken the lock. -/
theorem dispatchNext_self (here : (runner.dispatchNext number remaining).calls number = some call) :
    call.holds = false := by
  cases remaining with
  | nil =>
    have none : (runner.leave number).calls number = some call := here
    rw [leave_self] at none
    cases none
  | cons pair rest =>
    rw [goOn_self here]
    rfl

@[simp] theorem dispatchNext_active :
    (runner.dispatchNext number remaining).active = runner.active := by
  cases remaining <;> rfl

@[simp] theorem dispatchNext_lock :
    (runner.dispatchNext number remaining).lock = runner.lock := by
  cases remaining <;> rfl

theorem Orderly.dispatchNext (orderly : runner.Orderly) :
    (runner.dispatchNext number remaining).Orderly := by
  refine orderly.goes number ?_ (fun _ apart => dispatchNext_other apart) (.inl dispatchNext_lock)
    fun found here => .of_free (dispatchNext_self here)
  rintro key ⟨run, here, executing⟩
  rw [dispatchNext_active] at here
  exact ⟨run, here, executing⟩

/-- Asking workers to stop changes nothing that they execute. -/
theorem signal_executes : (runner.signal acquisition).Executes key ↔ runner.Executes key := by
  unfold signal Executes
  simp only [Dict.get_each, map_eq_some_iff]
  constructor
  · rintro ⟨_, ⟨run, found, rfl⟩, executing⟩
    refine ⟨run, found, ?_⟩
    split at executing
    · exact executing
    · exact executing
  · rintro ⟨run, found, executing⟩
    refine ⟨_, ⟨run, found, rfl⟩, ?_⟩
    split
    · exact executing
    · exact executing

theorem mem_workers : key ∈ runner.workers acquisition ↔
    key.1 = acquisition ∧ ∃ run, runner.active.get key = some run := by
  unfold workers
  rw [List.mem_filter, List.mem_map, decide_eq_true_iff, and_comm]
  refine and_congr_right fun _ => ?_
  constructor
  · rintro ⟨entry, inside, rfl⟩
    exact ⟨entry.2, Dict.get_eq_some.2 inside⟩
  · rintro ⟨run, found⟩
    exact ⟨(key, run), Dict.get_eq_some.1 found, rfl⟩

/-! ### What one step keeps -/

/-- A dispatch that is aligned and accepted finds no worker of its acquisition. -/
theorem takeDispatch_orderly (orderly : runner.Orderly) (free : runner.lock = none)
    (aligned : runner.alignedCall (.dispatch acquisition artifact remaining) = true) :
    (runner.takeDispatch number acquisition artifact remaining).Orderly := by
  unfold takeDispatch
  split
  · exact orderly.dispatchNext
  · rename_i absent
    refine orderly.goes number (fun _ executes => executes) (fun _ apart => goOn_other apart)
      (.inr (.inl free)) fun found here => ?_
    rw [goOn_self here]
    refine ⟨fun _ => rfl, fun _ _ same => (by cases same), ?_⟩
    rintro _ ⟨⟩ executing
    exact absent (alignedCall_iff.1 aligned executing)

/-- The worker that a call starts is the only one of its acquisition. -/
theorem startWorker_orderly (orderly : runner.Orderly)
    (called : runner.calls number = some (.markQueued acquisition artifact remaining)) :
    (runner.startWorker number acquisition artifact remaining).Orderly := by
  have sound := orderly.calls number _ called
  have held := sound.lock rfl
  unfold startWorker
  split
  · exact orderly.release_leave held
  · split
    · have clear : ¬ runner.Executing acquisition := sound.cleared acquisition rfl
      constructor
      · intro other call found
        by_cases same : other = number
        · subst same
          exact .of_free (dispatchNext_self found)
        · change (RunnerState.dispatchNext _ number remaining).calls other = some call at found
          rw [dispatchNext_other same] at found
          have before : runner.calls other = some call := found
          refine .of_free (Bool.eq_false_iff.2 fun holds => same ?_)
          have taken := (orderly.calls other call before).lock holds
          rw [held] at taken
          exact (Option.some.inj taken).symm
      · have started {acquisition' artifact' : Nat} {active : Dict (Nat × Nat) ActiveRun}
            {run : ActiveRun} (same : active = runner.active)
            (found : (active.set (acquisition, artifact) ⟨.executing artifact, false⟩).get
              (acquisition', artifact') = some run) (executing : run.executing = true) :
            (acquisition', artifact') = (acquisition, artifact) ∨
              runner.Executes (acquisition', artifact') := by
          by_cases new : (acquisition', artifact') = (acquisition, artifact)
          · exact .inl new
          · rw [Dict.get_set_ne new, same] at found
            exact .inr ⟨run, found, executing⟩
        rintro acquisition' first second ⟨run, found, executing⟩ ⟨other, there, executed⟩
        rcases started rfl found executing with one | one
        · cases one
          rcases started rfl there executed with two | two
          · cases two
            rfl
          · exact absurd ⟨second, two⟩ clear
        · rcases started rfl there executed with two | two
          · cases two
            exact absurd ⟨first, one⟩ clear
          · exact orderly.single acquisition' first second one two
    · exact orderly.release_leave held

/-- A call without the lock goes on without it. -/
theorem Orderly.goOn_free (orderly : runner.Orderly) (free : call.holds = false) :
    (runner.goOn number call).Orderly :=
  orderly.goOn (.of_free free)

theorem loadRetry_orderly (orderly : runner.Orderly) :
    (runner.loadRetry number acquisition).Orderly := by
  unfold loadRetry
  split
  · exact orderly.leave
  · split
    · exact orderly.goOn_free rfl
    · split
      · exact orderly.goOn_free rfl
      · exact orderly.leave

theorem pollDue_orderly {recovers : Bool} {now : Instant} {limit : Nat}
    (orderly : runner.Orderly) : (runner.pollDue number recovers now limit).Orderly := by
  unfold pollDue
  split
  · exact orderly.dispatchNext
  · exact orderly.leave

/-- A call with the lock and without workers goes on with both. -/
theorem Orderly.goOn_cleared (orderly : runner.Orderly) (held : runner.lock = some number)
    (clear : ¬ runner.Executing acquisition) (cleared : call.cleared = some acquisition) :
    (runner.goOn number call).Orderly := by
  refine orderly.goOn ⟨fun _ => held, ?_, ?_⟩
  · rintro _ _ rfl
    cases cleared
  · intro other found
    rw [cleared] at found
    cases found
    exact clear

theorem cancelForSwitch_orderly (orderly : runner.Orderly) (held : runner.lock = some number)
    (clear : ¬ runner.Executing acquisition) :
    (runner.cancelForSwitch number acquisition).Orderly := by
  unfold cancelForSwitch
  split
  · exact orderly.release_leave held
  · split
    · exact orderly.goOn_cleared held clear rfl
    · split
      · exact orderly.release_leave held
      · exact orderly.write.goOn_cleared held clear rfl

/-- `switch_source` waits for all workers of its acquisition. -/
theorem stopWorkers_orderly (orderly : runner.Orderly) (held : runner.lock = some number) :
    ((runner.signal acquisition).goOn number
      (.stopWorkers acquisition (runner.workers acquisition))).Orderly := by
  refine orderly.goes number (fun key executes => signal_executes.1 executes)
    (fun _ apart => goOn_other apart) (.inl rfl) fun found here => ?_
  rw [goOn_self here]
  refine ⟨fun _ => held, ?_, fun _ cleared => nomatch cleared⟩
  rintro _ _ ⟨⟩ artifact executes
  obtain ⟨run, active, _⟩ := signal_executes.1 executes
  exact mem_workers.2 ⟨rfl, run, active⟩

/-- A call that holds the lock. -/
theorem proceed_locked_orderly (orderly : runner.Orderly) (called : runner.calls number = some call)
    (locked : call.holds = true) (proceeded : runner.proceed number answer call = some after) :
    after.Orderly := by
  have sound := orderly.calls number call called
  cases call with
  | markQueued acquisition artifact remaining =>
    simp only [proceed] at proceeded
    split at proceeded
    · cases proceeded
      exact startWorker_orderly orderly called
    · cases proceeded
      exact orderly.release_leave (sound.lock rfl)
  | listOptions acquisition =>
    simp only [proceed] at proceeded
    split at proceeded
    · cases proceeded
      exact stopWorkers_orderly orderly (sound.lock rfl)
    · cases proceeded
      exact orderly.release_leave (sound.lock rfl)
  | stopWorkers acquisition stopped =>
    simp only [proceed] at proceeded
    split at proceeded
    · rename_i done
      cases proceeded
      refine orderly.goOn_cleared (sound.lock rfl) ?_ rfl
      rintro ⟨artifact, executes⟩
      have waited := sound.stopped acquisition stopped rfl artifact executes
      obtain ⟨run, active, _⟩ := executes
      rw [done _ waited] at active
      cases active
    · cases proceeded
  | cancelRoute acquisition =>
    simp only [proceed] at proceeded
    split at proceeded
    · cases proceeded
      exact cancelForSwitch_orderly orderly (sound.lock rfl) (sound.cleared acquisition rfl)
    · cases proceeded
      exact orderly.release_leave (sound.lock rfl)
  | queueSwitch acquisition current =>
    simp only [proceed] at proceeded
    split at proceeded
    · cases proceeded
      exact orderly.write.goOn_cleared (sound.lock rfl) (sound.cleared acquisition rfl) rfl
    · cases proceeded
      exact orderly.release_leave (sound.lock rfl)
  | restart acquisition artifact =>
    simp only [proceed] at proceeded
    split at proceeded
    · cases proceeded
      exact orderly.release_leave (sound.lock rfl)
    · cases proceeded
      exact orderly.goOn_cleared (sound.lock rfl) (sound.cleared acquisition rfl) rfl
  | dispatch | retry | reopen | requeue | cancel | cancelInactive | switchSource | poll =>
    cases locked

/-- A call that goes on, with the lock or without it. -/
theorem proceed_orderly (orderly : runner.Orderly) (called : runner.calls number = some call)
    (aligned : runner.alignedCall call = true)
    (proceeded : runner.proceed number answer call = some after) : after.Orderly := by
  cases call with
  | dispatch acquisition artifact remaining =>
    obtain ⟨free, rfl⟩ : runner.lock = none ∧
        runner.takeDispatch number acquisition artifact remaining = after := by
      simpa [proceed] using proceeded
    exact takeDispatch_orderly orderly free aligned
  | retry acquisition =>
    simp only [proceed] at proceeded
    split at proceeded
    · split at proceeded
      · cases proceeded
        exact orderly.goOn_free rfl
      · cases proceeded
        exact orderly.leave
    · cases proceeded
  | reopen acquisition =>
    simp only [proceed] at proceeded
    split at proceeded
    · cases proceeded
      exact loadRetry_orderly orderly
    · cases proceeded
      exact orderly.leave
  | requeue acquisition artifact reopened =>
    simp only [proceed] at proceeded
    split at proceeded
    · cases proceeded
      split
      · exact orderly.write.goOn_free rfl
      · exact orderly.goOn_free rfl
    · cases proceeded
      exact orderly.write.goOn_free rfl
    · cases proceeded
      exact orderly.leave
  | cancel acquisition =>
    simp only [proceed] at proceeded
    split at proceeded
    · split at proceeded
      · cases proceeded
        exact orderly.goOn_free rfl
      · cases proceeded
        refine orderly.goes number (fun key executes => signal_executes.1 executes)
          (fun _ apart => leave_other apart) (.inl rfl) fun found here => ?_
        rw [leave_self] at here
        cases here
    · cases proceeded
  | cancelInactive acquisition =>
    simp only [proceed] at proceeded
    split at proceeded
    · split at proceeded
      · cases proceeded
        exact orderly.leave
      · cases proceeded
        exact orderly.write.leave
    · cases proceeded
      exact orderly.leave
  | switchSource acquisition =>
    simp only [proceed] at proceeded
    split at proceeded
    · rename_i free
      cases proceeded
      refine orderly.goes number (fun _ executes => executes) (fun _ apart => goOn_other apart)
        (.inr (.inl free)) fun found here => ?_
      rw [goOn_self here]
      exact ⟨fun _ => rfl, fun _ _ same => (nomatch same), fun _ cleared => nomatch cleared⟩
    · cases proceeded
  | poll recovers now limit =>
    simp only [proceed] at proceeded
    split at proceeded
    · cases proceeded
      exact pollDue_orderly orderly
    · cases proceeded
      exact orderly.leave
  | markQueued | listOptions | stopWorkers | cancelRoute | queueSwitch | restart =>
    exact proceed_locked_orderly orderly called rfl proceeded

/-! ### Workers -/

/-- Only workers change, and none of them begins to execute. -/
theorem Orderly.workers (orderly : runner.Orderly) (calls : after.calls = runner.calls)
    (lock : after.lock = runner.lock)
    (fewer : ∀ key, after.Executes key → runner.Executes key) : after.Orderly where
  calls number call found := by
    rw [calls] at found
    exact (orderly.calls number call found).mono (fun _ => lock) fewer
  single acquisition first second one two :=
    orderly.single acquisition first second (fewer _ one) (fewer _ two)

theorem Orderly.finish (orderly : runner.Orderly) : (runner.finish key).Orderly := by
  refine orderly.workers rfl rfl ?_
  rintro other ⟨run, found, executing⟩
  unfold RunnerState.finish at found
  rw [Dict.get_erase] at found
  split at found
  · cases found
  · exact ⟨run, found, executing⟩

/-- A worker that executes goes on with something else. -/
theorem Orderly.turn {run : ActiveRun} {phase : WorkerPhase} (orderly : runner.Orderly)
    (executes : runner.Executes key) : (runner.turn key run phase).Orderly := by
  refine orderly.workers rfl rfl ?_
  rintro other ⟨found, here, executing⟩
  by_cases same : other = key
  · rw [same]
    exact executes
  · unfold RunnerState.turn at here
    rw [Dict.get_set_ne same] at here
    exact ⟨found, here, executing⟩

theorem Orderly.start (orderly : runner.Orderly) (free : call.holds = false) :
    (runner.start call).Orderly := by
  have started : (runner.goOn runner.nextCall call).Orderly := orderly.goOn_free free
  exact ⟨fun number one found => (started.calls number one found).mono (fun _ => rfl)
    fun _ executes => executes, started.single⟩

theorem afterExecution_orderly {run : ActiveRun} {alternate : Option (Nat × Nat)}
    (orderly : runner.Orderly) (executes : runner.Executes key) :
    (runner.afterExecution key run artifact alternate).Orderly := by
  unfold afterExecution
  split
  · exact orderly.finish
  · split
    · exact (orderly.turn executes).start rfl
    · split
      · exact orderly.finish
      · split
        · exact orderly.finish
        · exact orderly.turn executes
    · exact orderly.finish

/-- Every aligned step keeps the runner orderly. -/
theorem step_orderly (orderly : runner.Orderly) (aligned : Aligned event runner)
    (stepped : runner.step event = some after) : after.Orderly := by
  cases event with
  | request request =>
    cases stepped
    refine orderly.start ?_
    cases request <;> rfl
  | proceed number answer =>
    obtain ⟨call, called, proceeded⟩ := bind_eq_some_iff.1 stepped
    have whole : (runner.calls number).all runner.alignedCall = true := aligned
    rw [called] at whole
    exact proceed_orderly orderly called whole proceeded
  | commit key record =>
    obtain ⟨run, _, committed⟩ := bind_eq_some_iff.1 stepped
    split at committed
    · cases committed
      exact orderly.write
    · cases committed
  | executed key alternate =>
    obtain ⟨run, active, returned⟩ := bind_eq_some_iff.1 stepped
    split at returned
    · rename_i artifact phase
      cases returned
      exact afterExecution_orderly orderly ⟨run, active, by rw [ActiveRun.executing, phase]⟩
    · cases returned
  | raised key =>
    obtain ⟨run, _, ended⟩ := bind_eq_some_iff.1 stepped
    cases ended
    exact orderly.finish
  | handedOver key =>
    obtain ⟨run, _, ended⟩ := bind_eq_some_iff.1 stepped
    split at ended
    · cases ended
    · split at ended
      · cases ended
        exact orderly.finish
      · cases ended
  | write record =>
    cases stepped
    exact orderly.write
  | restarted =>
    cases stepped
    refine ⟨fun _ _ found => (nomatch found), ?_⟩
    rintro _ _ _ ⟨run, found, _⟩
    cases found

theorem Fresh.orderly (fresh : runner.Fresh) : runner.Orderly where
  calls number call found := by
    rw [fresh.calls] at found
    cases found
  single _ _ _ executes := by
    obtain ⟨run, found, _⟩ := executes
    rw [fresh.active] at found
    cases found

/-- The states that a runner reaches. -/
abbrev Run (allowed : RunnerEvent → RunnerState → Prop) : RunnerState → Prop :=
  Reachable Fresh allowed fun event before after => before.step event = some after

/-- A dispatch that is not aligned is accepted while a worker executes its acquisition. -/
theorem not_exclusive_of_not_aligned (stepped : runner.step event = some after)
    (crossed : ¬ Aligned event runner) : ¬ after.Exclusive := by
  intro exclusive
  cases event with
  | proceed number answer =>
    obtain ⟨call, called, proceeded⟩ := bind_eq_some_iff.1 stepped
    have misaligned : ¬ (runner.calls number).all runner.alignedCall = true := crossed
    rw [called] at misaligned
    cases call with
    | dispatch acquisition artifact remaining =>
      obtain ⟨_, rfl⟩ : runner.lock = none ∧
          runner.takeDispatch number acquisition artifact remaining = after := by
        simpa [proceed] using proceeded
      have refuses : ¬ runner.alignedCall (.dispatch acquisition artifact remaining) = true :=
        misaligned
      rw [alignedCall_iff, Classical.not_imp] at refuses
      obtain ⟨executing, absent⟩ := refuses
      unfold takeDispatch at exclusive
      rw [if_neg absent] at exclusive
      exact exclusive.rejecting number acquisition artifact remaining (if_pos rfl) executing
    | _ => exact misaligned rfl
  | _ => exact crossed trivial

/-- In a run whose dispatches are aligned, no two workers execute one acquisition, and no
dispatch of it is carried out while one does; the next step keeps this exactly when it is
aligned. -/
theorem run_exclusive (state : RunnerState) (reached : Run Aligned state) :
    state.Exclusive ∧ ∀ event after, state.step event = some after →
      (after.Exclusive ↔ Aligned event state) := by
  have orderly : state.Orderly :=
    reached.invariant (fun _ fresh => fresh.orderly)
      fun _ _ _ orderly aligned stepped => step_orderly orderly aligned stepped
  refine ⟨orderly.exclusive, fun event after stepped => ⟨fun exclusive => ?_, fun aligned => ?_⟩⟩
  · by_contra crossed
    exact not_exclusive_of_not_aligned stepped crossed exclusive
  · exact (step_orderly orderly aligned stepped).exclusive

/-! ### A poll and a switch -/

/-- An acquisition whose retry is due. -/
def dueRecord : AcquisitionRecord :=
  ⟨1, .retryPending, some 100, [⟨10, true⟩]⟩

def dueRunner : RunnerState where
  records := ⟨[dueRecord], by decide⟩
  active := .empty
  lock := none
  calls := fun _ => none
  nextCall := 0

theorem dueRunner_fresh : dueRunner.Fresh :=
  ⟨rfl, rfl, fun _ => rfl⟩

/-- The retry is found due, and the user switches the source before it is dispatched. -/
def pollBeforeSwitch : List RunnerEvent :=
  [.request (.dispatchDueRetries 100 100), .proceed 0 .proceeds, .request (.switchSource 1),
    .proceed 1 .proceeds, .proceed 1 .proceeds, .proceed 1 .proceeds, .proceed 1 .proceeds,
    .proceed 1 (.selects 11), .proceed 1 .proceeds, .proceed 1 .proceeds]

/-- The dispatch of the due retry takes the lock once the switch has released it. -/
def pollAfterSwitch : List RunnerEvent :=
  pollBeforeSwitch ++ [.proceed 0 .proceeds, .proceed 0 .proceeds]

/-- The switched artifact runs alone while the due retry waits for the lock. -/
theorem pollBeforeSwitch_exclusive :
    ∃ state, Run Aligned state ∧ state.Executes (1, 11) ∧
      state.calls 0 = some (.dispatch 1 10 []) ∧ state.Exclusive := by
  have ran : (pollBeforeSwitch.foldlM (fun state event =>
      if Aligned event state then state.step event else none) dueRunner).isSome := by
    decide +kernel
  obtain ⟨state, after⟩ := isSome_iff_exists.1 ran
  have facts : (pollBeforeSwitch.foldlM (fun state event =>
      if Aligned event state then state.step event else none) dueRunner).all (fun state =>
        decide (state.active.get (1, 11) = some ⟨.executing 11, false⟩) &&
          decide (state.calls 0 = some (.dispatch 1 10 []))) = true := by
    decide +kernel
  rw [after] at facts
  simp only [all_some, Bool.and_eq_true, decide_eq_true_eq] at facts
  have reached : Run Aligned state := Reachable.run_checked (.start dueRunner_fresh) after
  exact ⟨state, reached, ⟨_, facts.1, rfl⟩, facts.2, (run_exclusive state reached).1⟩

/-- Two workers execute one acquisition. -/
theorem pollAfterSwitch_shared :
    ∃ state, Run (fun _ _ => True) state ∧ state.Executes (1, 10) ∧ state.Executes (1, 11) ∧
      ¬ state.Exclusive := by
  have ran : (pollAfterSwitch.foldlM RunnerState.step dueRunner).isSome := by
    decide +kernel
  obtain ⟨state, after⟩ := isSome_iff_exists.1 ran
  have facts : (pollAfterSwitch.foldlM RunnerState.step dueRunner).all (fun state =>
      decide (state.active.get (1, 10) = some ⟨.executing 10, false⟩) &&
        decide (state.active.get (1, 11) = some ⟨.executing 11, false⟩)) = true := by
    decide +kernel
  rw [after] at facts
  simp only [all_some, Bool.and_eq_true, decide_eq_true_eq] at facts
  have old : state.Executes (1, 10) := ⟨_, facts.1, rfl⟩
  have new : state.Executes (1, 11) := ⟨_, facts.2, rfl⟩
  refine ⟨state, Reachable.run (.start dueRunner_fresh) (fun _ _ _ => trivial) after, old, new,
    fun exclusive => ?_⟩
  exact absurd (exclusive.single 1 10 11 old new) (by decide)

end RunnerState

end Pullbox.Direct
