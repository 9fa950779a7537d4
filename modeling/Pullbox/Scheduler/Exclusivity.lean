import Pullbox.Durable.Reachable
import Pullbox.Scheduler.ManualQueueRuns
import Pullbox.Scheduler.Reservation

/-!
# Exclusive tasks

The runs of the scheduler keep a ledger of reservations, as long as no reservation is left by a
cancelled run and none is shared by two runs of one task.
-/

namespace Pullbox.Scheduler

open Durable Function Option Reservation
open Search (Dict)

variable {tasks : TaskRegistry} {entries : Nat → Option (Entry String)} {id : Nat} {run : Run}
  {shared : Shared} {outcome : Wake} {next : Shared}

/-! ### The ledger -/

/-- Whether a run is in `_running_counts`. -/
def Phase.counted : Phase → Bool
  | .executing | .recording _ => true
  | _ => false

def Run.entry (run : Run) : Entry String :=
  ⟨run.taskId, run.reservedExclusive, run.phase.counted⟩

/-- A run reserves when it is admitted, and only a run with a reservation waits for others or to
give it back. -/
def Run.Phased (run : Run) : Prop :=
  match run.phase with
  | .deferring | .admitting | .skipping => run.reservedExclusive = false
  | .polling | .releasing _ => run.reservedExclusive = true
  | .executing | .recording _ => True

/-- The ledger of the entries, in which one run has this entry. -/
def ledgerWith (entries : Nat → Option (Entry String)) (shared : Shared) (id : Nat)
    (entry : Option (Entry String)) : Ledger String where
  entries := update entries id entry
  count := shared.runningCount
  active := shared.exclusiveActiveTaskId

/-- The ledger is sound. -/
def Books (tasks : TaskRegistry) (entries : Nat → Option (Entry String)) (shared : Shared)
    (id : Nat) (entry : Option (Entry String)) : Prop :=
  (ledgerWith entries shared id entry).Sound fun taskId => tasks.exclusive taskId = true

/-- What a step of a run comes to, as far as the ledger goes. -/
structure Kept (tasks : TaskRegistry) (entries : Nat → Option (Entry String)) (id : Nat)
    (result : Shared × Progress) : Prop where
  books : Books tasks entries result.1 id (result.2.run?.map Run.entry)
  phased : ∀ run, result.2.run? = some run → run.Phased

theorem ledgerWith_here {entry : Option (Entry String)} :
    (ledgerWith entries shared id entry).entries id = entry := by
  simp [ledgerWith]

theorem setEntry_ledgerWith {entry other : Option (Entry String)} :
    (ledgerWith entries shared id entry).setEntry id other = ledgerWith entries shared id other := by
  unfold ledgerWith Ledger.setEntry
  rw [update_idem]

theorem runningCount_set (shared : Shared) (taskId : String) (count : Nat) :
    Shared.runningCount { shared with
      runningCounts := shared.runningCounts.set taskId count } =
        update shared.runningCount taskId count := by
  funext other
  unfold Shared.runningCount
  by_cases same : other = taskId
  · rw [same, Dict.get_set, update_self]
    rfl
  · rw [Dict.get_set_ne same, update_of_ne same]

theorem runningCount_uncount (shared : Shared) (taskId : String) :
    (shared.uncount taskId).runningCount =
      update shared.runningCount taskId (shared.runningCount taskId - 1) := by
  unfold Shared.uncount
  simp only
  split
  · rename_i one
    funext other
    change ((shared.runningCounts.erase taskId).get other).getD 0 = _
    rw [Dict.get_erase]
    by_cases same : other = taskId
    · rw [if_pos same, same, update_self]
      exact (Nat.sub_eq_zero_of_le one).symm
    · rw [if_neg same, update_of_ne same]
      rfl
  · exact runningCount_set shared taskId _

theorem othersRunning_eq_false (quiet : shared.othersRunning run.taskId = false) :
    ∀ other, other ≠ run.taskId → shared.runningCount other = 0 := by
  intro other apart
  unfold Shared.runningCount
  cases found : shared.runningCounts.get other with
  | none => rfl
  | some count =>
    have inside := Dict.get_eq_some.1 found
    have idle := List.any_eq_false.1 quiet _ inside
    simpa [apart] using idle

/-! ### What a step keeps -/

/-- A run that the ledger knows as it is. -/
theorem Kept.of_entry {entry : Entry String} {after : Run}
    (books : Books tasks entries shared id (some entry)) (same : after.entry = entry)
    (counts : next.runningCounts = shared.runningCounts)
    (active : next.exclusiveActiveTaskId = shared.exclusiveActiveTaskId) (phased : after.Phased) :
    Kept tasks entries id (next, .suspended after) where
  books := by
    have ledger : ledgerWith entries next id (some after.entry) =
        ledgerWith entries shared id (some entry) := by
      unfold ledgerWith Shared.runningCount
      rw [same, counts, active]
    unfold Books
    exact ledger ▸ books
  phased other equal := Option.some.inj equal ▸ phased

/-- A run that changes its phase, and nothing that the ledger knows of. -/
theorem Kept.rephase (books : Books tasks entries shared id (some run.entry))
    (phase : Phase) (counted : phase.counted = run.phase.counted)
    (counts : next.runningCounts = shared.runningCounts)
    (active : next.exclusiveActiveTaskId = shared.exclusiveActiveTaskId)
    (phased : ({ run with phase } : Run).Phased) :
    Kept tasks entries id (next, .suspended { run with phase }) :=
  Kept.of_entry books (congrArg (Entry.mk run.taskId run.reservedExclusive) counted) counts active
    phased

/-- A run without a reservation that is not counted ends. -/
theorem Kept.leave {taskId : String} {progress : Progress}
    (books : Books tasks entries shared id (some ⟨taskId, false, false⟩))
    (counts : next.runningCounts = shared.runningCounts)
    (active : next.exclusiveActiveTaskId = shared.exclusiveActiveTaskId)
    (ended : progress.run? = none) : Kept tasks entries id (next, progress) where
  books := by
    have left := Ledger.Sound.leave books ledgerWith_here
    rw [setEntry_ledgerWith] at left
    have ledger : ledgerWith entries next id none = ledgerWith entries shared id none := by
      unfold ledgerWith Shared.runningCount
      rw [counts, active]
    unfold Books
    simp only [ended]
    exact ledger ▸ left
  phased other equal := by
    simp only [ended] at equal
    cases equal

theorem entry_eq {reserved counted : Bool} (reserves : run.reservedExclusive = reserved)
    (counts : run.phase.counted = counted) : run.entry = ⟨run.taskId, reserved, counted⟩ := by
  rw [Run.entry, reserves, counts]

theorem ledgerWith_beginBody {entry : Option (Entry String)} :
    ledgerWith entries (shared.beginBody run).1 id entry =
      { ledgerWith entries shared id entry with
        count := update shared.runningCount run.taskId
          (shared.runningCount run.taskId + 1) } := by
  have counts := runningCount_set shared run.taskId (shared.runningCount run.taskId + 1)
  unfold ledgerWith
  exact congrArg (fun count => Ledger.mk _ count _) counts

theorem Kept.beginAlone (books : Books tasks entries shared id (some run.entry))
    (reserved : run.reservedExclusive = true) (uncounted : run.phase.counted = false)
    (quiet : shared.othersRunning run.taskId = false) :
    Kept tasks entries id (shared.beginBody run) where
  books := by
    have here : (ledgerWith entries shared id (some run.entry)).entries id =
        some ⟨run.taskId, true, false⟩ := by
      rw [ledgerWith_here, entry_eq reserved uncounted]
    have begun := Ledger.Sound.beginAlone books here (othersRunning_eq_false quiet)
    rw [setEntry_ledgerWith] at begun
    have entry : ({ run with phase := .executing } : Run).entry = ⟨run.taskId, true, true⟩ :=
      congrArg (Entry.mk run.taskId · true) reserved
    change Ledger.Sound _ (ledgerWith entries (shared.beginBody run).1 id (some _))
    rw [entry, ledgerWith_beginBody]
    exact begun
  phased other equal := Option.some.inj equal ▸ trivial

theorem Kept.beginBeside (books : Books tasks entries shared id (some run.entry))
    (unreserved : run.reservedExclusive = false) (uncounted : run.phase.counted = false)
    (beside : tasks.exclusive run.taskId = false) (free : shared.exclusiveActiveTaskId = none)
    (idle : shared.runningCount run.taskId = 0) :
    Kept tasks entries id (shared.beginBody run) where
  books := by
    have here : (ledgerWith entries shared id (some run.entry)).entries id =
        some ⟨run.taskId, false, false⟩ := by
      rw [ledgerWith_here, entry_eq unreserved uncounted]
    have begun := Ledger.Sound.beginBeside books here (by simp [beside]) free idle
    rw [setEntry_ledgerWith] at begun
    have entry : ({ run with phase := .executing } : Run).entry = ⟨run.taskId, false, true⟩ :=
      congrArg (Entry.mk run.taskId · true) unreserved
    change Ledger.Sound _ (ledgerWith entries (shared.beginBody run).1 id (some _))
    rw [entry, ledgerWith_beginBody]
    exact begun
  phased other equal := Option.some.inj equal ▸ trivial

theorem Kept.poll (books : Books tasks entries shared id (some run.entry))
    (reserved : run.reservedExclusive = true) (uncounted : run.phase.counted = false) :
    Kept tasks entries id (shared.poll run) := by
  unfold Shared.poll
  cases quiet : shared.othersRunning run.taskId with
  | true =>
    rw [if_pos rfl]
    exact Kept.rephase books .polling uncounted.symm rfl rfl reserved
  | false =>
    rw [if_neg Bool.false_ne_true]
    exact Kept.beginAlone books reserved uncounted quiet

theorem Kept.skip (books : Books tasks entries shared id (some run.entry))
    (unreserved : run.reservedExclusive = false) (uncounted : run.phase.counted = false) :
    Kept tasks entries id (shared.skip run) :=
  Kept.rephase books .skipping uncounted.symm rfl rfl unreserved

/-- The admission finds no reservation, unless it skips the run. -/
theorem Kept.admitRun (books : Books tasks entries shared id (some run.entry))
    (unreserved : run.reservedExclusive = false) (uncounted : run.phase.counted = false)
    (unshared : shared.exclusiveActiveTaskId = some run.taskId →
      0 < shared.runningCount run.taskId) :
    Kept tasks entries id (shared.admitRun tasks run) := by
  unfold Shared.admitRun
  by_cases blocked : shared.blocked run.taskId = true
  · rw [if_pos blocked]
    exact Kept.skip books unreserved uncounted
  rw [if_neg blocked]
  by_cases busy : 0 < shared.runningCount run.taskId
  · rw [if_pos busy]
    exact Kept.skip books unreserved uncounted
  rw [if_neg busy]
  have free : shared.exclusiveActiveTaskId = none := by
    cases active : shared.exclusiveActiveTaskId with
    | none => rfl
    | some taskId =>
      have same : taskId = run.taskId := by simpa [Shared.blocked, active] using blocked
      exact absurd (unshared (active.trans (congrArg some same))) busy
  cases apart : tasks.exclusive run.taskId with
  | true =>
    have here : (ledgerWith entries shared id (some run.entry)).entries id =
        some ⟨run.taskId, false, false⟩ := by
      rw [ledgerWith_here, entry_eq unreserved uncounted]
    have reserved := Ledger.Sound.reserve books here apart free
    rw [setEntry_ledgerWith, ← uncounted] at reserved
    rw [if_pos rfl]
    exact Kept.poll reserved rfl uncounted
  | false =>
    rw [if_neg Bool.false_ne_true]
    exact Kept.beginBeside books unreserved uncounted apart free (Nat.eq_zero_of_not_pos busy)

theorem Kept.enter (books : Books tasks entries shared id (some run.entry))
    (unreserved : run.reservedExclusive = false) (uncounted : run.phase.counted = false)
    (unshared : shared.lockFree = true → shared.exclusiveActiveTaskId = some run.taskId →
      0 < shared.runningCount run.taskId) :
    Kept tasks entries id (shared.enter tasks id run) := by
  unfold Shared.enter
  split
  · rename_i free
    exact Kept.admitRun books unreserved uncounted (unshared free)
  · exact Kept.rephase books .admitting uncounted.symm rfl rfl unreserved

theorem Kept.release {progress : Progress}
    (books : Books tasks entries shared id (some ⟨run.taskId, true, false⟩))
    (counts : next.runningCounts = shared.runningCounts)
    (active : next.exclusiveActiveTaskId = shared.exclusiveActiveTaskId)
    (ended : progress.run? = none) :
    Kept tasks entries id (next.release run.taskId, progress) where
  books := by
    have own := (books.holder id _ ledgerWith_here rfl).2
    have released := Ledger.Sound.release books ledgerWith_here
    rw [setEntry_ledgerWith] at released
    have ledger : ledgerWith entries (next.release run.taskId) id none =
        { ledgerWith entries shared id none with active := none } := by
      unfold Shared.release ledgerWith Shared.runningCount
      rw [if_pos (active.trans own), counts]
    unfold Books
    simp only [ended]
    exact ledger ▸ released
  phased other equal := by
    simp only [ended] at equal
    cases equal

theorem run?_ended (raises : Bool) : (Progress.ended raises).run? = none := by
  cases raises <;> rfl

theorem Kept.finish (books : Books tasks entries shared id (some run.entry))
    (counted : run.phase.counted = true) (raises : Bool) :
    Kept tasks entries id (shared.finish id run raises) := by
  have here : (ledgerWith entries shared id (some run.entry)).entries id =
      some ⟨run.taskId, run.reservedExclusive, true⟩ := by
    rw [ledgerWith_here, entry_eq rfl counted]
  have finished := Ledger.Sound.finish books here
  rw [setEntry_ledgerWith] at finished
  have uncounted : Books tasks entries (shared.uncount run.taskId) id
      (some ⟨run.taskId, run.reservedExclusive, false⟩) := by
    have ledger : ledgerWith entries (shared.uncount run.taskId) id
        (some ⟨run.taskId, run.reservedExclusive, false⟩) =
          { ledgerWith entries shared id (some ⟨run.taskId, run.reservedExclusive, false⟩) with
            count := update shared.runningCount run.taskId
              (shared.runningCount run.taskId - 1) } := by
      unfold ledgerWith
      rw [runningCount_uncount]
      rfl
    unfold Books
    exact ledger ▸ finished
  unfold Shared.finish
  cases reserved : run.reservedExclusive with
  | true =>
    rw [reserved] at uncounted
    simp only [if_true]
    split
    · exact Kept.release uncounted rfl rfl (run?_ended raises)
    · exact Kept.of_entry uncounted (entry_eq rfl rfl) rfl rfl rfl
  | false =>
    rw [reserved] at uncounted
    exact Kept.leave uncounted rfl rfl (run?_ended raises)

theorem Kept.recorded {status : TaskStatus} {result : Shared × Progress}
    (books : Books tasks entries shared id (some run.entry)) (counted : run.phase.counted = true)
    (recorded : shared.recorded id run status outcome = some result) :
    Kept tasks entries id result := by
  cases status <;> cases outcome <;>
    first
      | exact Option.some.inj recorded ▸ Kept.finish books counted _
      | exact Option.some.inj recorded ▸ Kept.rephase books _ counted.symm rfl rfl trivial
      | cases recorded

/-- Whether the await of a run ends with the admission lock. -/
def Shared.admits (shared : Shared) (id : Nat) (run : Run) (outcome : Wake) : Bool :=
  outcome = .done &&
    (run.phase = .deferring && shared.lockFree || run.phase = .admitting && shared.lockGranted id)

/-- A step that leaves no reservation behind and shares none: the run is not cancelled while it
polls or waits to give its reservation back, and is not admitted under the reservation of an
earlier run of its task that is not counted. -/
structure Tidy (shared : Shared) (id : Nat) (run : Run) (outcome : Wake) : Prop where
  uncancelled : outcome = .cancelled →
    run.phase ≠ .polling ∧ ∀ raises, run.phase ≠ .releasing raises
  unshared : shared.admits id run outcome = true →
    shared.exclusiveActiveTaskId = some run.taskId → 0 < shared.runningCount run.taskId

theorem Kept.advance {result : Shared × Progress}
    (books : Books tasks entries shared id (some run.entry)) (phased : run.Phased)
    (tidy : Tidy shared id run outcome)
    (advanced : shared.advance tasks id run outcome = some result) :
    Kept tasks entries id result := by
  obtain ⟨job, phase, reserved⟩ := run
  cases phase with
  | deferring =>
    obtain rfl : reserved = false := phased
    cases outcome with
    | done =>
      obtain rfl := Option.some.inj advanced
      apply Kept.enter books rfl rfl
      intro free
      apply tidy.unshared
      simp [Shared.admits, free]
    | deferred => exact Option.some.inj advanced ▸ Kept.leave books rfl rfl rfl
    | failed => exact Option.some.inj advanced ▸ Kept.leave books rfl rfl rfl
    | cancelled => exact Option.some.inj advanced ▸ Kept.leave books rfl rfl rfl
  | admitting =>
    obtain rfl : reserved = false := phased
    cases outcome with
    | done =>
      obtain ⟨granted, equal⟩ := ite_none_right_eq_some.1 advanced
      obtain rfl := Option.some.inj equal
      have left : Books tasks entries (shared.leaveQueue id) id
          (some (Run.entry ⟨job, .admitting, false⟩)) := books
      apply Kept.admitRun left rfl rfl
      apply tidy.unshared
      simp [Shared.admits, granted]
    | cancelled => exact Option.some.inj advanced ▸ Kept.leave books rfl rfl rfl
    | deferred => cases advanced
    | failed => cases advanced
  | skipping =>
    obtain rfl : reserved = false := phased
    cases outcome with
    | done => exact Option.some.inj advanced ▸ Kept.leave books rfl rfl rfl
    | failed => exact Option.some.inj advanced ▸ Kept.leave books rfl rfl rfl
    | cancelled => exact Option.some.inj advanced ▸ Kept.leave books rfl rfl rfl
    | deferred => cases advanced
  | polling =>
    obtain rfl : reserved = true := phased
    cases outcome with
    | done => exact Option.some.inj advanced ▸ Kept.poll books rfl rfl
    | cancelled => exact absurd rfl (tidy.uncancelled rfl).1
    | deferred => cases advanced
    | failed => cases advanced
  | executing =>
    cases outcome with
    | done => exact Option.some.inj advanced ▸ Kept.rephase books _ rfl rfl rfl trivial
    | failed => exact Option.some.inj advanced ▸ Kept.rephase books _ rfl rfl rfl trivial
    | cancelled => exact Option.some.inj advanced ▸ Kept.rephase books _ rfl rfl rfl trivial
    | deferred => cases advanced
  | recording status => exact Kept.recorded books rfl advanced
  | releasing raises =>
    obtain rfl : reserved = true := phased
    cases outcome with
    | done =>
      obtain ⟨granted, equal⟩ := ite_none_right_eq_some.1 advanced
      obtain rfl := Option.some.inj equal
      exact Kept.release books rfl rfl (run?_ended raises)
    | cancelled => exact absurd rfl ((tidy.uncancelled rfl).2 raises)
    | deferred => cases advanced
    | failed => cases advanced

/-! ### Runs -/

namespace Execution

variable {execution after : Execution} {progress : Progress}

/-- The ledger of the runs in progress. -/
def ledger (execution : Execution) : Ledger String where
  entries id := (execution.runs id).map Run.entry
  count := execution.shared.runningCount
  active := execution.shared.exclusiveActiveTaskId

/-- The ledger of the runs is sound, and each run has reserved what its phase takes. -/
structure Booked (tasks : TaskRegistry) (execution : Execution) : Prop where
  sound : execution.ledger.Sound fun taskId => tasks.exclusive taskId = true
  phased : ∀ id run, execution.runs id = some run → run.Phased

theorem booked_idle : Booked tasks idle where
  sound := by
    constructor
    · intro id entry absent
      cases absent
    · intro task absent
      cases absent
    · intro id entry other another absent
      cases absent
    · intro id entry absent
      cases absent
    · intro task idle
      exact absurd idle (Nat.lt_irrefl 0)
    · intro id entry other another absent
      cases absent
    · intro id entry other another absent
      cases absent
  phased id run absent := by cases absent

theorem entries_update (runs : Nat → Option Run) (id : Nat) (run : Option Run) :
    (fun other => (update runs id run other).map Run.entry) =
      update (fun other => (runs other).map Run.entry) id (run.map Run.entry) := by
  funext other
  by_cases same : other = id
  · rw [same, update_self, update_self]
  · rw [update_of_ne same, update_of_ne same]

theorem Booked.start (booked : Booked tasks execution) (numbered : execution.Numbered) (job : Job) :
    Booked tasks (execution.start job) where
  sound := by
    have absent : execution.ledger.entries execution.started = none := by
      change (execution.runs execution.started).map Run.entry = none
      rw [numbered _ le_rfl]
      rfl
    have entered : (execution.start job).ledger =
        execution.ledger.setEntry execution.started (some ⟨job.taskId, false, false⟩) :=
      congrArg (fun entries => Ledger.mk entries _ _) (entries_update _ _ _)
    rw [entered]
    exact booked.sound.enter absent
  phased id run here := by
    change update execution.runs execution.started _ id = some run at here
    by_cases same : id = execution.started
    · rw [same, update_self] at here
      obtain rfl := Option.some.inj here
      exact rfl
    · rw [update_of_ne same] at here
      exact booked.phased id run here

theorem Booked.wake (booked : Booked tasks execution)
    (tidy : ∀ run, execution.runs id = some run → Tidy execution.shared id run outcome)
    (woken : execution.wake tasks id outcome = some (after, progress)) : Booked tasks after := by
  obtain ⟨run, shared, here, advanced, rfl⟩ := wake_eq_some.1 woken
  have books : Books tasks (fun other => (execution.runs other).map Run.entry) execution.shared id
      (some run.entry) := by
    have same : ledgerWith (fun other => (execution.runs other).map Run.entry) execution.shared id
        (some run.entry) = execution.ledger := by
      unfold ledgerWith ledger
      have entry : some run.entry = (execution.runs id).map Run.entry := by
        rw [here]
        rfl
      rw [entry, update_eq_self]
    unfold Books
    rw [same]
    exact booked.sound
  have kept := Kept.advance books (booked.phased id run here) (tidy run here) advanced
  constructor
  · have same : ({ execution with
        shared, runs := update execution.runs id progress.run? } : Execution).ledger =
          ledgerWith (fun other => (execution.runs other).map Run.entry) shared id
            (progress.run?.map Run.entry) :=
      congrArg (fun entries => Ledger.mk entries _ _) (entries_update _ _ _)
    rw [same]
    exact kept.books
  · intro other another there
    change update execution.runs id progress.run? other = some another at there
    by_cases equal : other = id
    · rw [equal, update_self] at there
      exact kept.phased another there
    · rw [update_of_ne equal] at there
      exact booked.phased other another there

end Execution

/-! ### The scheduler -/

/-- What the scheduler promises of the bodies and of the reservation. -/
structure Exclusion (tasks : TaskRegistry) (execution : Execution) : Prop where
  /-- The body of a task is never executing twice at once. -/
  once : ∀ id run other another, execution.runs id = some run →
    execution.runs other = some another → run.phase = .executing → another.phase = .executing →
      run.taskId = another.taskId → id = other
  /-- While the body of an exclusive task executes, no other body does. -/
  alone : ∀ id run other another, execution.runs id = some run →
    execution.runs other = some another → run.phase = .executing → another.phase = .executing →
      tasks.exclusive run.taskId = true → id = other
  /-- No reservation is left behind when no run is in progress. -/
  free : (∀ id, execution.runs id = none) → execution.shared.exclusiveActiveTaskId = none

/-- A booked ledger keeps exclusive runs alone. -/
theorem Execution.Booked.exclusion {execution : Execution} (booked : Booked tasks execution) :
    Exclusion tasks execution := by
  have entry : ∀ id run, execution.runs id = some run →
      execution.ledger.entries id = some run.entry := by
    intro id run here
    change (execution.runs id).map Run.entry = _
    rw [here]
    rfl
  have counted : ∀ run : Run, run.phase = .executing → run.entry.counted = true := by
    intro run executing
    change run.phase.counted = true
    rw [executing]
    rfl
  constructor
  · intro id run other another here there first second same
    exact booked.sound.once id _ other _ (entry id run here) (entry other another there)
      (counted run first) (counted another second) same
  · intro id run other another here there first second apart
    exact booked.sound.alone id _ other _ (entry id run here) (entry other another there)
      (counted run first) (counted another second) apart
  · intro ended
    cases active : execution.shared.exclusiveActiveTaskId with
    | none => rfl
    | some taskId =>
      obtain ⟨id, held, here, -⟩ := booked.sound.held taskId active
      change (execution.runs id).map Run.entry = some held at here
      rw [ended id] at here
      cases here

namespace PullboxScheduler

variable {scheduler next : PullboxScheduler} {event : Event}

/-- An event that leaves no reservation behind and shares none. -/
def Allowed : Event → PullboxScheduler → Prop
  | .wake id outcome, scheduler => ∀ run, scheduler.execution.runs id = some run →
      Tidy scheduler.execution.shared id run outcome
  | _, _ => True

theorem booked_drainFrom (queue : List ManualTaskRequest) (scheduler : PullboxScheduler)
    (booked : scheduler.execution.Booked tasks) (numbered : scheduler.execution.Numbered) :
    (scheduler.drainFrom queue).execution.Booked tasks := by
  induction queue generalizing scheduler with
  | nil => exact booked
  | cons request rest ih =>
    unfold drainFrom
    split
    · exact booked.start numbered (.manual request.taskId)
    · exact ih (scheduler.take request rest) booked numbered

theorem execution_runTaskNow (scheduler : PullboxScheduler) (taskId : String)
    (triggerRequestId : Option String) :
    (scheduler.runTaskNow tasks taskId triggerRequestId).1.execution = scheduler.execution := by
  unfold runTaskNow
  cases known : scheduler.register tasks taskId with
  | none => rfl
  | some registered =>
    have same : registered.execution = scheduler.execution := by
      unfold register at known
      split at known
      · exact Option.some.inj known ▸ rfl
      · obtain ⟨-, equal⟩ := ite_none_right_eq_some.1 known
        exact Option.some.inj equal ▸ rfl
    simp only
    split
    · exact same
    split
    · exact same
    · unfold ensureManualWorker rebalance
      split <;> split <;> exact same

theorem Sound.booked_step (sound : scheduler.Sound) (booked : scheduler.execution.Booked tasks)
    (allowed : Allowed event scheduler) (stepped : scheduler.step tasks event = some next) :
    next.execution.Booked tasks := by
  cases event with
  | fire job =>
    change scheduler.fire job = some next at stepped
    cases job with
    | manual taskId => cases stepped
    | scheduled taskId =>
      obtain ⟨-, equal⟩ := ite_none_left_eq_some.1 stepped
      exact Option.some.inj equal ▸ booked.start sound.numbered _
    | continuation taskId =>
      obtain ⟨-, equal⟩ := ite_none_left_eq_some.1 stepped
      exact Option.some.inj equal ▸ booked.start sound.numbered _
  | request taskId triggerRequestId =>
    obtain rfl := Option.some.inj stepped
    rw [execution_runTaskNow]
    exact booked
  | wake id outcome =>
    change scheduler.wake tasks id outcome = some next at stepped
    unfold PullboxScheduler.wake at stepped
    cases woken : scheduler.execution.wake tasks id outcome with
    | none =>
      rw [woken] at stepped
      cases stepped
    | some result =>
      obtain ⟨execution, progress⟩ := result
      rw [woken] at stepped
      have after := booked.wake allowed woken
      have numbered := sound.numbered.wake woken
      simp only at stepped
      split at stepped
      · obtain rfl := Option.some.inj stepped
        cases progress with
        | suspended run => exact after
        | returned => exact booked_drainFrom _ _ after numbered
        | raised => exact after
      · exact Option.some.inj stepped ▸ after
  | work =>
    obtain ⟨-, equal⟩ := ite_none_right_eq_some.1 stepped
    exact Option.some.inj equal ▸ booked_drainFrom _ _ booked sound.numbered

/-- What the steps of the scheduler keep. -/
structure Orderly (tasks : TaskRegistry) (scheduler : PullboxScheduler) : Prop where
  sound : scheduler.Sound
  booked : scheduler.execution.Booked tasks

/-- In every run whose steps leave no reservation behind and share none, no body executes twice
at once, the body of an exclusive task executes alone, and without a run in progress there is no
reservation. -/
theorem scheduler_exclusivity
    (reachable : Reachable (· = started tasks) Allowed
      (fun event before after => before.step tasks event = some after) scheduler) :
    Exclusion tasks scheduler.execution := by
  have orderly : Orderly tasks scheduler := by
    apply reachable.invariant
    · rintro _ rfl
      exact ⟨sound_started, Execution.booked_idle⟩
    · rintro event before after ⟨sound, booked⟩ allowed stepped
      exact ⟨(sound.step stepped).1, sound.booked_step booked allowed stepped⟩
  exact orderly.booked.exclusion

instance (shared : Shared) (id : Nat) (run : Run) (outcome : Wake) :
    Decidable (Tidy shared id run outcome) :=
  decidable_of_iff
    ((outcome = .cancelled → run.phase ≠ .polling ∧ ∀ raises, run.phase ≠ .releasing raises) ∧
      (shared.admits id run outcome = true →
        shared.exclusiveActiveTaskId = some run.taskId → 0 < shared.runningCount run.taskId))
    ⟨fun both => ⟨both.1, both.2⟩, fun tidy => ⟨tidy.uncancelled, tidy.unshared⟩⟩

instance (event : Event) (scheduler : PullboxScheduler) : Decidable (Allowed event scheduler) :=
  match event with
  | .wake id outcome =>
    match here : scheduler.execution.runs id with
    | none => .isTrue fun run there => by simp [here] at there
    | some run =>
      decidable_of_iff (Tidy scheduler.execution.shared id run outcome)
        ⟨fun tidy other there => Option.some.inj (here.symm.trans there) ▸ tidy,
          fun allowed => allowed run here⟩
  | .fire _ => .isTrue trivial
  | .request _ _ => .isTrue trivial
  | .work => .isTrue trivial

/-- An exclusive task and another one. -/
def backupBeside : TaskRegistry where
  taskIds := ["sync_new_issues", "create_backup"]
  exclusive taskId := taskId = "create_backup"

/-- The other task executes, and a run of the exclusive task waits for it. -/
def backupWaits : List Event :=
  [.fire (.scheduled "sync_new_issues"), .wake 0 .done, .fire (.scheduled "create_backup"),
    .wake 1 .done]

/-- The other task ends, and the exclusive one starts. -/
def backupAlone : List Event :=
  backupWaits ++ [.wake 0 .done, .wake 0 .done, .wake 1 .done]

/-- An exclusive task waits for the other and runs alone. -/
theorem scheduler_exclusivity_of_waiting : ∃ scheduler,
    after backupBeside backupAlone = some scheduler ∧
      scheduler.execution.shared.exclusiveActiveTaskId = some "create_backup" ∧
      Exclusion backupBeside scheduler.execution := by
  obtain ⟨scheduler, ran, active⟩ : ∃ scheduler,
      backupAlone.foldlM (fun state event =>
        if Allowed event state then step backupBeside state event else none)
          (started backupBeside) = some scheduler ∧
        scheduler.execution.shared.exclusiveActiveTaskId = some "create_backup" :=
    ⟨_, rfl, rfl⟩
  have initial : Reachable (· = started backupBeside) Allowed
      (fun event before after => before.step backupBeside event = some after)
      (started backupBeside) := .start rfl
  exact ⟨scheduler, Reachable.foldlM_of_checked ran, active,
    scheduler_exclusivity (initial.run_checked ran)⟩

/-- While the first run of the exclusive task waits, another one is asked for by hand and admitted
under the same reservation. -/
def backupTwice : List Event :=
  backupWaits ++ [.request "create_backup" none, .work, .wake 2 .done, .wake 0 .done,
    .wake 0 .done, .wake 1 .done, .wake 2 .done]

/-- When the other task ends, both bodies of the exclusive task start. -/
theorem not_scheduler_exclusivity : ¬ ∀ tasks scheduler,
    Reachable (· = started tasks) (fun _ _ => True)
      (fun event before after => before.step tasks event = some after) scheduler →
        Exclusion tasks scheduler.execution := by
  intro exclusion
  obtain ⟨scheduler, ran, first, second⟩ : ∃ scheduler,
      backupTwice.foldlM (step backupBeside) (started backupBeside) = some scheduler ∧
        scheduler.execution.runs 1 =
          some ⟨.scheduled "create_backup", .executing, true⟩ ∧
        scheduler.execution.runs 2 = some ⟨.manual "create_backup", .executing, true⟩ :=
    ⟨_, rfl, rfl, rfl⟩
  have initial : Reachable (· = started backupBeside) (fun _ _ => True)
      (fun event before after => before.step backupBeside event = some after)
      (started backupBeside) := .start rfl
  have reachable := initial.run (fun _ _ _ => trivial) ran
  have same := (exclusion backupBeside scheduler reachable).once 1 _ 2 _ first second rfl rfl rfl
  cases same

end PullboxScheduler

end Pullbox.Scheduler
