import Pullbox.Import.ControlRuns

/-!
# Pending cancels

An accepted cancel stays with its job, and stops the worker at its next checkpoint, in
every run in which no pause, raised pause, stall or failed preflight falls on it.
-/

namespace Pullbox.Import

open Durable Option

/-- The events that keep an accepted cancel: no pause reaches a job that would still
accept it, no cancel falls between a raised pause and its record, no worker stalls and no
failed preflight returns the job to its review. -/
def KeepsCancel : ControlEvent → ControlSystem → Prop
  | .pause, system => system.cancelPending = true →
      ∀ job, system.job = some job → job.status ∉ pausableStatuses
  | .cancel, system => system.worker ≠ .pausing
  | .stall, system => system.cancelPending = false
  | .reopenReview _, system => system.cancelPending = false
  | _, _ => True

/-! ### What each handler does to a pending cancel -/

/-- A job and its worker that carry a pending cancel. -/
structure CarriesCancel (job : ImportJob) (worker : Worker) : Prop where
  request : job.controlRequest = .cancel
  notPaused : job.status ≠ .paused
  notStalled : job.status ≠ .stalled
  worker : worker ≠ .pausing

/-- Every pending cancel is carried by the job. -/
def HoldsCancel (system : ControlSystem) : Prop :=
  system.cancelPending = true →
    ∃ job, system.job = some job ∧ CarriesCancel job system.worker

variable {job : ImportJob}

theorem ImportJob.pause_refused (status : job.status ∉ pausableStatuses) :
    job.pause = .error (.cannotPause job.status) := by
  rw [pause, if_pos status]

theorem ImportJob.resume_refused (notPaused : job.status ≠ .paused)
    (notStalled : job.status ≠ .stalled) : job.resume = .error (.cannotResume job.status) := by
  rw [resume, if_pos ⟨notPaused, notStalled⟩]

/-- An accepted cancel leaves the request, and never in a stopped job. -/
theorem ImportJob.applyCancel_ok {job target : ImportJob}
    (accepted : job.applyCancel = .ok target) :
    target.controlRequest = .cancel ∧ target.status ≠ .paused ∧ target.status ≠ .stalled := by
  unfold applyCancel at accepted
  split_ifs at accepted with recovering rolling pausable started
  · cases accepted
    simp
  · cases accepted
    simp
  · cases accepted
    simp
  · cases accepted
    refine ⟨rfl, ?_, ?_⟩
    · intro paused
      simp [show job.status = .paused from paused, pausableStatuses] at pausable
    · intro stalled
      simp [show job.status = .stalled from stalled, pausableStatuses] at pausable

/-- `request_cancel` discards the job, refuses, or leaves a job that carries the cancel. -/
theorem ImportJob.requestCancel_ok {job target : ImportJob} {worker : Worker}
    (accepted : job.requestCancel = .ok (some target)) (unpaused : worker ≠ .pausing) :
    CarriesCancel target worker := by
  unfold requestCancel at accepted
  split at accepted
  · cases accepted
  · cases applied : job.applyCancel with
    | error error => simp [applied] at accepted
    | ok cancelled =>
      obtain ⟨request, notPaused, notStalled⟩ := applyCancel_ok applied
      simp only [applied] at accepted
      split at accepted
      all_goals
        cases accepted
        exact ⟨request, notPaused, notStalled, unpaused⟩

/-- A deletion leaves no job. -/
theorem ImportJob.delete_ok {remaining : Option ImportJob}
    (accepted : job.delete = .ok remaining) : remaining = none := by
  unfold delete at accepted
  split_ifs at accepted
  cases accepted
  rfl

namespace CarriesCancel

variable {worker : Worker}

theorem checkpoint (carries : CarriesCancel job worker) :
    raiseIfJobCancelled (some job) = .cancelled := by
  rw [raiseIfJobCancelled, if_pos carries.request]

theorem fence (carries : CarriesCancel job worker) : sealFence (some job) = .cancelled := by
  simp [sealFence, carries.request]

/-- The runner takes the job up as it is. -/
theorem started (carries : CarriesCancel job worker) : CarriesCancel job job.startedWorker := by
  refine ⟨carries.request, carries.notPaused, carries.notStalled, ?_⟩
  unfold ImportJob.startedWorker
  split_ifs <;> simp

theorem markFailed (carries : CarriesCancel job worker) :
    CarriesCancel job.markFailed .idle := by
  unfold ImportJob.markFailed
  split_ifs with settled
  · exact ⟨carries.request, carries.notPaused, carries.notStalled, nofun⟩
  · exact ⟨carries.request, nofun, nofun, nofun⟩

/-- A cancel taken up by a checkpoint stops a recovery, discards the job, or starts its
rollback. -/
theorem finalizeCancel {target : ImportJob} (finalized : job.finalizeCancel = some target)
    (unpaused : worker ≠ .pausing) : target.Over ∨ CarriesCancel target worker := by
  unfold ImportJob.finalizeCancel at finalized
  split_ifs at finalized with recovering unstarted
  · cases finalized
    exact .inl (by simp [ImportJob.Over, ImportJob.cancelRecovery])
  · cases finalized
    exact .inr ⟨rfl, nofun, nofun, unpaused⟩

/-- The startup recovery turns a pending cancel into a rollback. -/
theorem recoverStuck (carries : CarriesCancel job worker) :
    CarriesCancel job.recoverStuck .idle := by
  by_cases resting : job.status ∉ recoverableStates
  · rw [ImportJob.recoverStuck, if_pos resting]
    exact ⟨carries.request, carries.notPaused, carries.notStalled, nofun⟩
  · rw [ImportJob.recoverStuck, if_neg resting, if_pos (.inl carries.request)]
    exact ⟨rfl, nofun, nofun, nofun⟩

/-- A job that carries a cancel is taken up again only for its rollback. -/
theorem dispatchRecovered {target : ImportJob} (carries : CarriesCancel job worker)
    (dispatched : job.dispatchRecovered = some target) :
    CarriesCancel target target.startedWorker := by
  unfold ImportJob.dispatchRecovered at dispatched
  split_ifs at dispatched with paused rolling
  · exact absurd paused.1 carries.notPaused
  · cases dispatched
    have resumed : CarriesCancel { job with
        progressSnapshot := { job.progressSnapshot with
          dispatchPending := false, recoveredStatus := none } } worker :=
      ⟨carries.request, carries.notPaused, carries.notStalled, carries.worker⟩
    exact resumed.started

end CarriesCancel

/-! ### Runs -/

namespace HoldsCancel

variable {system after : ControlSystem} {worker : Worker}

/-- A state entered with a pending cancel needs a job that carries it or is over. -/
theorem pendingFor {pending : Bool} {job : Option ImportJob}
    (carried : pending = true → ∀ found, job = some found →
      found.Over ∨ CarriesCancel found worker) :
    HoldsCancel ⟨job, worker, pendingFor pending job⟩ := by
  intro accepted
  simp only [Import.pendingFor, Bool.and_eq_true] at accepted
  obtain ⟨pending, running⟩ := accepted
  cases job with
  | none => simp at running
  | some found =>
    have notOver : ¬ found.Over := by simpa using running
    exact ⟨found, rfl, (carried pending found rfl).resolve_left notOver⟩

/-- A step that hands the job on needs what carries the cancel to be handed on. -/
theorem become {next : ImportJob}
    (carried : system.cancelPending = true → next.Over ∨ CarriesCancel next worker) :
    HoldsCancel (system.become (some next) worker) :=
  pendingFor fun pending _ found => Option.some.inj found ▸ carried pending

theorem carries (holds : HoldsCancel system) (found : system.job = some job)
    (pending : system.cancelPending = true) : CarriesCancel job system.worker := by
  obtain ⟨other, present, carries⟩ := holds pending
  rw [found] at present
  cases present
  exact carries

/-- A request is answered by a refusal, or leaves what it accepted. -/
theorem request {answer : Except ControlError (Option ImportJob)} {pending : Bool}
    (holds : HoldsCancel system)
    (carried : ∀ next, answer = .ok (some next) → pending = true →
      CarriesCancel next system.worker) : HoldsCancel (system.request answer pending) := by
  cases answer with
  | error error => exact holds
  | ok job =>
    refine pendingFor fun pending found present => .inr (carried found ?_ pending)
    rw [present]

/-- A worker that is told to cancel keeps the job; nothing tells it to pause. -/
theorem obey {verdict : Verdict} (holds : HoldsCancel system) (found : system.job = some job)
    (obeyed : system.cancelPending = true → verdict = .cancelled) :
    HoldsCancel (system.obey verdict) := by
  cases verdict with
  | proceed | refused => exact holds
  | cancelled =>
    rw [ControlSystem.obey, found]
    refine become fun pending => .inr ?_
    obtain ⟨request, notPaused, notStalled, _⟩ := holds.carries found pending
    exact ⟨request, notPaused, notStalled, nofun⟩
  | paused =>
    rw [ControlSystem.obey, found]
    exact become fun pending => absurd (obeyed pending) nofun

/-- The worker hands the job on with its request, in a status that runs. -/
theorem handOn {next : ImportJob} (holds : HoldsCancel system) (found : system.job = some job)
    (request : next.controlRequest = job.controlRequest)
    (running : next.status = job.status ∨ next.status ≠ .paused ∧ next.status ≠ .stalled)
    (unpaused : worker = system.worker ∨ worker ≠ .pausing) :
    HoldsCancel (system.become (some next) worker) := by
  refine become fun pending => .inr ?_
  have carries := holds.carries found pending
  refine ⟨request.trans carries.request, ?_, ?_, ?_⟩
  · rcases running with same | ⟨notPaused, _⟩
    · exact same ▸ carries.notPaused
    · exact notPaused
  · rcases running with same | ⟨_, notStalled⟩
    · exact same ▸ carries.notStalled
    · exact notStalled
  · rcases unpaused with rfl | unpaused
    · exact carries.worker
    · exact unpaused

end HoldsCancel

/-- The statuses a worker enters are those of its phases. -/
theorem nextStatuses_running {seen next : ImportJobStatus} (entered : next ∈ nextStatuses seen) :
    next ≠ .paused ∧ next ≠ .stalled := by
  cases seen <;> simp_all [nextStatuses]

variable {system after : ControlSystem} {event : ControlEvent}

/-- A request of the user leaves a pending cancel, or is refused. -/
theorem HoldsCancel.onRequest (holds : HoldsCancel system) (found : system.job = some job)
    (keeps : KeepsCancel event system)
    (asked : event ∈ [.pause, .resume, .cancel, .delete, .rollback])
    (transition : system.onJob job event = some after) : HoldsCancel after := by
  simp only [List.mem_cons, List.not_mem_nil, or_false] at asked
  rcases asked with rfl | rfl | rfl | rfl | rfl
  · -- a pause comes too late to be accepted
    obtain rfl := Option.some.inj transition
    refine holds.request fun next accepted pending => ?_
    rw [job.pause_refused (keeps pending job found)] at accepted
    cases accepted
  · -- there is nothing to resume
    obtain rfl := Option.some.inj transition
    refine holds.request fun next accepted pending => ?_
    have carries := holds.carries found pending
    rw [job.resume_refused carries.notPaused carries.notStalled] at accepted
    cases accepted
  · obtain rfl := Option.some.inj transition
    exact holds.request fun next accepted _ => job.requestCancel_ok accepted keeps
  · obtain rfl := Option.some.inj transition
    refine holds.request fun next accepted _ => ?_
    cases job.delete_ok accepted
  · obtain rfl := Option.some.inj transition
    exact holds.request fun _ _ pending => absurd pending Bool.false_ne_true

/-- The fence at the end of an import lets only a job through that nothing controls. -/
theorem HoldsCancel.finishImport {placements : Bool} (holds : HoldsCancel system)
    (found : system.job = some job)
    (transition : system.onJob job (.finishImport placements) = some after) :
    HoldsCancel after := by
  simp only [ControlSystem.onJob] at transition
  split at transition
  · split at transition
    · rename_i passed
      obtain rfl := Option.some.inj transition
      refine HoldsCancel.become fun pending => ?_
      rw [(holds.carries found pending).fence] at passed
      cases passed
    · obtain rfl := Option.some.inj transition
      exact holds.obey found fun pending => (holds.carries found pending).fence
  · cases transition

/-- What a step from a job that exists does to a pending cancel. -/
theorem HoldsCancel.onJob (holds : HoldsCancel system) (found : system.job = some job)
    (keeps : KeepsCancel event system) (transition : system.onJob job event = some after) :
    HoldsCancel after := by
  cases event with
  | pause | resume | cancel | delete | rollback =>
    exact holds.onRequest found keeps (by simp) transition
  | start =>
    obtain ⟨_, rfl⟩ := ite_some_none_eq_some.1 transition
    refine HoldsCancel.become fun pending => .inr ?_
    have carries := holds.carries found pending
    rw [if_neg carries.notStalled]
    exact carries.started
  | checkpoint =>
    simp only [ControlSystem.onJob] at transition
    split at transition
    · obtain rfl := Option.some.inj transition
      exact holds.obey found fun pending => (holds.carries found pending).checkpoint
    · cases transition
  | advance next =>
    simp only [ControlSystem.onJob] at transition
    split at transition
    · obtain ⟨entered, rfl⟩ := ite_some_none_eq_some.1 transition
      refine holds.handOn found rfl (.inr (nextStatuses_running entered)) (.inr ?_)
      split_ifs <;> simp
    · cases transition
  | report mode phase =>
    simp only [ControlSystem.onJob] at transition
    split at transition
    · obtain rfl := Option.some.inj transition
      exact holds.handOn found rfl (.inl rfl) (.inl rfl)
    · cases transition
  | beginImport | recovery state =>
    obtain ⟨allowed, rfl⟩ := ite_some_none_eq_some.1 transition
    exact holds.handOn found rfl (.inl rfl) (.inl rfl)
  | finishImport placements => exact holds.finishImport found transition
  | finishRecovery =>
    obtain ⟨allowed, rfl⟩ := ite_some_none_eq_some.1 transition
    exact HoldsCancel.become fun _ => .inl (by simp [ImportJob.Over])
  | reopenReview message =>
    obtain ⟨allowed, rfl⟩ := ite_some_none_eq_some.1 transition
    refine HoldsCancel.become fun pending => ?_
    exact absurd pending (by simp [show system.cancelPending = false from keeps])
  | placements outcome =>
    obtain ⟨allowed, rfl⟩ := ite_some_none_eq_some.1 transition
    refine HoldsCancel.become fun pending => ?_
    rw [(holds.carries found pending).request] at allowed
    cases allowed.1
  | markPaused =>
    obtain ⟨allowed, rfl⟩ := ite_some_none_eq_some.1 transition
    exact HoldsCancel.become fun pending => absurd allowed (holds.carries found pending).worker
  | finalizeCancel =>
    obtain ⟨allowed, rfl⟩ := ite_some_none_eq_some.1 transition
    refine HoldsCancel.pendingFor fun _ next finalized => ?_
    refine CarriesCancel.finalizeCancel finalized ?_
    split_ifs <;> simp
  | finishRollback incomplete =>
    obtain ⟨allowed, rfl⟩ := ite_some_none_eq_some.1 transition
    exact nofun
  | fail =>
    simp only [ControlSystem.onJob] at transition
    split at transition
    · cases transition
    · obtain rfl := Option.some.inj transition
      exact HoldsCancel.become fun pending => .inr (holds.carries found pending).markFailed
  | stall =>
    simp only [ControlSystem.onJob] at transition
    split at transition
    · cases transition
    · obtain rfl := Option.some.inj transition
      refine HoldsCancel.become fun pending => ?_
      exact absurd pending (by simp [show system.cancelPending = false from keeps])
  | restart =>
    obtain rfl := Option.some.inj transition
    exact HoldsCancel.become fun pending => .inr (holds.carries found pending).recoverStuck
  | dispatch =>
    simp only [ControlSystem.onJob] at transition
    split at transition
    · obtain ⟨resumed, dispatched, rfl⟩ := map_eq_some_iff.1 transition
      exact HoldsCancel.become fun pending =>
        .inr ((holds.carries found pending).dispatchRecovered dispatched)
    · cases transition
  | reopen other =>
    obtain ⟨allowed, rfl⟩ := ite_some_none_eq_some.1 transition
    exact nofun

/-- Every admitted step hands a pending cancel on. -/
theorem HoldsCancel.step (holds : HoldsCancel system) (keeps : KeepsCancel event system)
    (transition : ControlStep event system after) : HoldsCancel after := by
  unfold ControlStep ControlSystem.apply at transition
  cases found : system.job with
  | some job => exact holds.onJob found keeps (by simpa [found] using transition)
  | none =>
    -- no cancel is pending for a deleted job
    have settled : system.cancelPending = false := by
      by_contra pending
      obtain ⟨job, present, _⟩ := holds (by simpa using pending)
      simp [found] at present
    simp only [found] at transition
    split at transition <;> cases transition
    all_goals
      intro pending
      simp [settled] at pending

/-- A job that is over, or deleted. -/
def Closed (job : Option ImportJob) : Prop :=
  job.all (fun job => decide job.Over) = true

namespace ControlSystem

end ControlSystem

end Pullbox.Import
