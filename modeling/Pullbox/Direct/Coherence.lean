import Pullbox.Direct.Acquisition

/-!
# The records of an acquisition stay coherent

Every operation either refuses and leaves the rows as they are, or moves the state together with
the timestamps that belong to it. The revisions of the plan and of the progress never decrease,
and what was recorded under a revision stays recorded under it.
-/

namespace Pullbox.Direct.Acquisition

open Durable

variable {Plan Progress : Type} [DecidableEq Plan] [DecidableEq Progress]

/-- What is done to the records of an acquisition. -/
inductive RecordEvent (Plan Progress : Type) where
  | addArtifact (sequenceNo : Nat) (identity : String) (hostKind : DirectArtifactHostKind)
      (expectedSize : Option Nat)
  | recordPlan (revision : Int) (snapshot : Option Plan)
  | advanceProgress (revision : Int) (snapshot : Progress)
  | transitionAcquisition (newState : DirectAcquisitionState) (timestamp : Instant)
  | transitionArtifact (id : Nat) (newState : DirectArtifactState) (timestamp : Instant)
  | reopen (id : Nat) (progress : Progress)
  | switchTo (current : Nat) (option : DirectSourceSwitchOption) (plan : Plan)
      (progress : Progress)

/-- An artifact is completed exactly in its terminal states. -/
def ArtifactRow.Coherent (artifact : ArtifactRow) : Prop :=
  artifact.completedAt.isSome ↔ artifact.state ∈ artifactTerminalStates

theorem acquisitionTransitions_running {state newState : DirectAcquisitionState}
    (accepts : newState ∈ acquisitionTransitions state) : state ∉ acquisitionTerminalStates := by
  intro terminal
  revert accepts terminal
  cases state <;> simp [acquisitionTransitions, acquisitionTerminalStates]

theorem artifactTransitions_running {state newState : DirectArtifactState}
    (accepts : newState ∈ artifactTransitions state) : state ∉ artifactTerminalStates := by
  intro terminal
  revert accepts terminal
  cases state <;> simp [artifactTransitions, artifactTerminalStates]

theorem ArtifactRow.Coherent.transition {artifact moved : ArtifactRow}
    {newState : DirectArtifactState} {timestamp : Instant} (coherent : artifact.Coherent)
    (accepted : artifact.transition newState timestamp = .ok moved) : moved.Coherent := by
  unfold ArtifactRow.transition Direct.transitionArtifact at accepted
  split_ifs at accepted with same accepts
  · cases accepted
    exact coherent
  · cases accepted
    have incomplete : ¬ artifact.completedAt.isSome :=
      mt coherent.1 (artifactTransitions_running accepts)
    by_cases terminal : newState ∈ artifactTerminalStates
    · simp [ArtifactRow.Coherent, DirectArtifactAttempt.moved, terminal]
    · simpa [ArtifactRow.Coherent, DirectArtifactAttempt.moved, terminal] using incomplete

theorem plannedArtifact_coherent (id sequenceNo : Nat) (identity : String)
    (hostKind : DirectArtifactHostKind) (expectedSize : Option Nat) (selected : Bool) :
    ArtifactRow.Coherent
      { plannedArtifact id sequenceNo identity hostKind expectedSize with
        isSelected := selected } := by
  simp [ArtifactRow.Coherent, plannedArtifact, artifactTerminalStates]

namespace AcquisitionRows

variable {rows after : AcquisitionRows Plan Progress} {event : RecordEvent Plan Progress}
  {snapshot : Option Plan} {revision : Int}

/-- The rows an event leaves, or what it refuses. -/
def apply (rows : AcquisitionRows Plan Progress) :
    RecordEvent Plan Progress → Except RecordError (AcquisitionRows Plan Progress)
  | .addArtifact sequenceNo identity hostKind expectedSize =>
    .ok (rows.addArtifact sequenceNo identity hostKind expectedSize)
  | .recordPlan revision snapshot =>
    (rows.attempt.recordAcquisitionPlan revision snapshot).map fun attempt =>
      { rows with attempt := attempt }
  | .advanceProgress revision snapshot =>
    (rows.attempt.advanceAcquisitionProgress revision snapshot).map fun attempt =>
      { rows with attempt := attempt }
  | .transitionAcquisition newState timestamp =>
    (rows.attempt.transition newState timestamp).map fun attempt =>
      { rows with attempt := attempt }
  | .transitionArtifact id newState timestamp => rows.transitionArtifact id newState timestamp
  | .reopen id progress => rows.reopenTerminalAcquisitionForRetry id progress
  | .switchTo current option plan progress => rows.switchTo current option plan progress

/-- A refused event leaves the rows as they are. -/
def step (rows : AcquisitionRows Plan Progress) (event : RecordEvent Plan Progress) :
    AcquisitionRows Plan Progress :=
  match rows.apply event with
  | .ok after => after
  | .error _ => rows

def run (rows : AcquisitionRows Plan Progress) (events : List (RecordEvent Plan Progress)) :
    AcquisitionRows Plan Progress :=
  events.foldl step rows

/-- An event is refused, and changes nothing. -/
def Rejects (rows : AcquisitionRows Plan Progress) (event : RecordEvent Plan Progress) : Prop :=
  ∃ error, rows.apply event = .error error ∧ rows.step event = rows

/-- An event is accepted, and changes nothing. -/
def Ignores (rows : AcquisitionRows Plan Progress) (event : RecordEvent Plan Progress) : Prop :=
  rows.apply event = .ok rows ∧ rows.step event = rows

/-- The rows of a new acquisition: discovered, and without artifacts. -/
structure Fresh (rows : AcquisitionRows Plan Progress) : Prop where
  state : rows.attempt.state = .discovered
  completedAt : rows.attempt.completedAt = none
  cancelledAt : rows.attempt.cancelledAt = none
  artifacts : rows.artifacts = []

/-- The timestamps are those of the states. -/
structure Coherent (rows : AcquisitionRows Plan Progress) : Prop where
  completed : rows.attempt.completedAt.isSome ↔ rows.attempt.state ∈ acquisitionTerminalStates
  cancelled : rows.attempt.cancelledAt.isSome ↔ rows.attempt.state = .cancelled
  artifacts : ∀ artifact ∈ rows.artifacts, artifact.Coherent

omit [DecidableEq Plan] [DecidableEq Progress] in
theorem Fresh.coherent (fresh : rows.Fresh) : rows.Coherent where
  completed := by simp [fresh.state, fresh.completedAt, acquisitionTerminalStates]
  cancelled := by simp [fresh.state, fresh.cancelledAt]
  artifacts := by simp [fresh.artifacts]

theorem step_of_ok (accepted : rows.apply event = .ok after) : rows.step event = after := by
  rw [step, accepted]

theorem Rejects.of_error {error : RecordError} (refused : rows.apply event = .error error) :
    rows.Rejects event :=
  ⟨error, refused, by rw [step, refused]⟩

theorem Ignores.of_ok (accepted : rows.apply event = .ok rows) : rows.Ignores event :=
  ⟨accepted, step_of_ok accepted⟩

/-- What every accepted event keeps is kept by a run. -/
theorem run_keeps {property : AcquisitionRows Plan Progress → Prop}
    (kept : ∀ rows event after, property rows → rows.apply event = .ok after → property after)
    (holds : property rows) (events : List (RecordEvent Plan Progress)) :
    property (rows.run events) := by
  induction events generalizing rows with
  | nil => exact holds
  | cons event rest ih =>
    refine ih ?_
    cases result : rows.apply event with
    | ok after => exact step_of_ok result ▸ kept _ _ _ holds result
    | error error =>
      obtain ⟨_, _, same⟩ := Rejects.of_error result
      exact same.symm ▸ holds

/-! ## The timestamps -/

omit [DecidableEq Plan] [DecidableEq Progress] in
/-- A transition sets the timestamps that belong to its state; there were none before. -/
theorem Coherent.moved {newState : DirectAcquisitionState} (coherent : rows.Coherent)
    (timestamp : Instant) (accepts : newState ∈ acquisitionTransitions rows.attempt.state) :
    Coherent { rows with attempt := rows.attempt.moved newState timestamp } := by
  have running := acquisitionTransitions_running accepts
  have incomplete : ¬ rows.attempt.completedAt.isSome := mt coherent.completed.1 running
  have uncancelled : ¬ rows.attempt.cancelledAt.isSome := by
    intro cancelled
    refine running ?_
    rw [coherent.cancelled.1 cancelled]
    decide
  constructor
  · by_cases terminal : newState ∈ acquisitionTerminalStates
    · simp [AttemptRow.moved, terminal]
    · simpa [AttemptRow.moved, terminal] using incomplete
  · by_cases cancelled : newState = .cancelled
    · simp [AttemptRow.moved, cancelled]
    · simpa [AttemptRow.moved, cancelled] using uncancelled
  · exact coherent.artifacts

omit [DecidableEq Plan] [DecidableEq Progress] in
theorem Coherent.transition {newState : DirectAcquisitionState} {timestamp : Instant}
    {attempt : AttemptRow Plan Progress} (coherent : rows.Coherent)
    (accepted : rows.attempt.transition newState timestamp = .ok attempt) :
    Coherent { rows with attempt := attempt } := by
  unfold AttemptRow.transition at accepted
  split_ifs at accepted with same accepts
  · cases accepted
    exact coherent
  · cases accepted
    exact coherent.moved timestamp accepts

omit [DecidableEq Plan] [DecidableEq Progress] in
/-- What holds of every artifact and of a row that is written. -/
theorem write_forall {property : ArtifactRow → Prop} {row : ArtifactRow}
    (holds : ∀ artifact ∈ rows.artifacts, property artifact) (written : property row) :
    ∀ artifact ∈ (rows.write row).artifacts, property artifact := by
  intro artifact member
  obtain ⟨other, found, rfl⟩ := List.mem_map.1 member
  by_cases same : other.id = row.id
  · rw [if_pos same]
    exact written
  · rw [if_neg same]
    exact holds other found

omit [DecidableEq Plan] [DecidableEq Progress] in
theorem enter_forall {property : ArtifactRow → Prop} {row : ArtifactRow}
    (holds : ∀ artifact ∈ rows.artifacts, property artifact) (entered : property row) :
    ∀ artifact ∈ (rows.enter row).artifacts, property artifact := by
  unfold enter
  split_ifs with known
  · exact write_forall holds entered
  · intro artifact member
    rcases List.mem_append.1 member with earlier | new
    · exact holds artifact earlier
    · exact List.mem_singleton.1 new ▸ entered

omit [DecidableEq Plan] [DecidableEq Progress] in
theorem replacement_coherent (option : DirectSourceSwitchOption) :
    (rows.replacement option).Coherent := by
  unfold replacement
  split
  · simp [ArtifactRow.Coherent, DirectArtifactAttempt.reselected, artifactTerminalStates]
  · exact plannedArtifact_coherent ..

omit [DecidableEq Plan] [DecidableEq Progress] in
theorem Coherent.artifact {id : Nat} {artifact : ArtifactRow} (coherent : rows.Coherent)
    (found : rows.find id = some artifact) : artifact.Coherent :=
  coherent.artifacts artifact (List.mem_of_find?_eq_some found)

/-- What a plan that is accepted changes. -/
theorem recordPlan_accepted (accepted : rows.apply (.recordPlan revision snapshot) = .ok after) :
    ∃ proposed plan, snapshot = some proposed ∧ 1 ≤ revision ∧
      rows.attempt.plan.offer revision proposed = .ok plan ∧
        after = { rows with attempt := { rows.attempt with plan := plan } } := by
  simp only [apply] at accepted
  obtain ⟨attempt, recorded, rfl⟩ := of_map_ok accepted
  obtain ⟨proposed, plan, same, valid, offered, rfl⟩ :=
    AttemptRow.recordAcquisitionPlan_accepted recorded
  exact ⟨proposed, plan, same, valid, offered, rfl⟩

/-- What progress that is accepted changes. -/
theorem advanceProgress_accepted {snapshot : Progress}
    (accepted : rows.apply (.advanceProgress revision snapshot) = .ok after) :
    ∃ progress, rows.attempt.progress.offer revision snapshot = .ok progress ∧
      after = { rows with attempt := { rows.attempt with progress := progress } } := by
  simp only [apply] at accepted
  obtain ⟨attempt, advanced, rfl⟩ := of_map_ok accepted
  obtain ⟨progress, offered, rfl⟩ := AttemptRow.advanceAcquisitionProgress_accepted advanced
  exact ⟨progress, offered, rfl⟩

/-- An accepted event keeps the timestamps those of the states. -/
theorem Coherent.apply (coherent : rows.Coherent) (accepted : rows.apply event = .ok after) :
    after.Coherent := by
  cases event with
  | addArtifact sequenceNo identity hostKind expectedSize =>
    cases accepted
    refine ⟨coherent.completed, coherent.cancelled, ?_⟩
    intro artifact member
    rcases List.mem_append.1 member with earlier | new
    · exact coherent.artifacts artifact earlier
    · exact List.mem_singleton.1 new ▸ plannedArtifact_coherent ..
  | recordPlan revision snapshot =>
    obtain ⟨_, _, _, _, _, rfl⟩ := recordPlan_accepted accepted
    exact ⟨coherent.completed, coherent.cancelled, coherent.artifacts⟩
  | advanceProgress revision snapshot =>
    obtain ⟨_, _, rfl⟩ := advanceProgress_accepted accepted
    exact ⟨coherent.completed, coherent.cancelled, coherent.artifacts⟩
  | transitionAcquisition newState timestamp =>
    simp only [AcquisitionRows.apply] at accepted
    obtain ⟨attempt, moved, rfl⟩ := of_map_ok accepted
    exact coherent.transition moved
  | transitionArtifact id newState timestamp =>
    simp only [AcquisitionRows.apply, AcquisitionRows.transitionArtifact] at accepted
    split at accepted
    · cases accepted
    · rename_i artifact found
      obtain ⟨moved, transition, rfl⟩ := of_map_ok accepted
      exact ⟨coherent.completed, coherent.cancelled,
        write_forall coherent.artifacts ((coherent.artifact found).transition transition)⟩
  | reopen id progress =>
    simp only [AcquisitionRows.apply, reopenTerminalAcquisitionForRetry] at accepted
    split at accepted
    · cases accepted
    · split_ifs at accepted
      cases accepted
      refine ⟨?_, ?_, write_forall coherent.artifacts ?_⟩
      · simp [acquisitionTerminalStates]
      · simp
      · simp [ArtifactRow.Coherent, artifactTerminalStates]
  | switchTo current option plan progress =>
    simp only [AcquisitionRows.apply, AcquisitionRows.switchTo] at accepted
    split at accepted
    · cases accepted
    · rename_i artifact found
      have stopped : artifact.Coherent := coherent.artifact found
      split_ifs at accepted
      cases accepted
      refine ⟨?_, ?_, enter_forall (write_forall coherent.artifacts stopped)
        (replacement_coherent option)⟩
      · simp [acquisitionTerminalStates]
      · simp

/-! ## The revisions -/

/-- The plan and the progress are those of before, or newer. -/
structure Extends (rows after : AcquisitionRows Plan Progress) : Prop where
  plan : rows.attempt.plan.Follows after.attempt.plan
  progress : rows.attempt.progress.Follows after.attempt.progress

omit [DecidableEq Plan] [DecidableEq Progress] in
theorem Extends.refl (rows : AcquisitionRows Plan Progress) : rows.Extends rows :=
  ⟨.refl _, .refl _⟩

omit [DecidableEq Plan] [DecidableEq Progress] in
theorem Extends.trans {later : AcquisitionRows Plan Progress} (first : rows.Extends after)
    (second : after.Extends later) : rows.Extends later :=
  ⟨first.plan.trans second.plan, first.progress.trans second.progress⟩

theorem apply_extends (accepted : rows.apply event = .ok after) : rows.Extends after := by
  cases event with
  | addArtifact sequenceNo identity hostKind expectedSize =>
    cases accepted
    exact ⟨.refl _, .refl _⟩
  | recordPlan revision snapshot =>
    obtain ⟨_, _, _, _, offered, rfl⟩ := recordPlan_accepted accepted
    exact ⟨Revised.offer_follows offered, .refl _⟩
  | advanceProgress revision snapshot =>
    obtain ⟨_, offered, rfl⟩ := advanceProgress_accepted accepted
    exact ⟨.refl _, Revised.offer_follows offered⟩
  | transitionAcquisition newState timestamp =>
    simp only [AcquisitionRows.apply] at accepted
    obtain ⟨attempt, moved, rfl⟩ := of_map_ok accepted
    obtain ⟨rfl, _⟩ | rfl := AttemptRow.transition_accepted moved
    · exact ⟨.refl _, .refl _⟩
    · exact ⟨.refl _, .refl _⟩
  | transitionArtifact id newState timestamp =>
    simp only [AcquisitionRows.apply, AcquisitionRows.transitionArtifact] at accepted
    split at accepted
    · cases accepted
    · obtain ⟨moved, _, rfl⟩ := of_map_ok accepted
      exact ⟨.refl _, .refl _⟩
  | reopen id progress =>
    simp only [AcquisitionRows.apply, reopenTerminalAcquisitionForRetry] at accepted
    split at accepted
    · cases accepted
    · split_ifs at accepted
      cases accepted
      exact ⟨.refl _, .inr (Nat.lt_succ_self _)⟩
  | switchTo current option plan progress =>
    simp only [AcquisitionRows.apply, AcquisitionRows.switchTo] at accepted
    split at accepted
    · cases accepted
    · split_ifs at accepted
      cases accepted
      exact ⟨.inr (Nat.lt_succ_self _), .inr (Nat.lt_succ_self _)⟩

/-- A run keeps the plan and the progress, or replaces them by newer ones. -/
theorem run_extends (rows : AcquisitionRows Plan Progress)
    (events : List (RecordEvent Plan Progress)) : rows.Extends (rows.run events) := by
  have kept : ∀ (between : AcquisitionRows Plan Progress) event after, rows.Extends between →
      between.apply event = .ok after → rows.Extends after := by
    intro between event after earlier accepted
    exact earlier.trans (apply_extends accepted)
  exact run_keeps kept (.refl rows) events

theorem recordPlan_current (valid : 1 ≤ rows.attempt.plan.revision) :
    rows.Ignores (.recordPlan rows.attempt.plan.revision (some rows.attempt.plan.value)) := by
  refine .of_ok ?_
  have positive : ¬ ((rows.attempt.plan.revision : Int) < 1) := by omega
  rw [apply, AttemptRow.recordAcquisitionPlan, if_neg positive]
  simp only [Revised.offer_same]
  rfl

theorem advanceProgress_current :
    rows.Ignores
      (.advanceProgress rows.attempt.progress.revision rows.attempt.progress.value) := by
  refine .of_ok ?_
  rw [apply, AttemptRow.advanceAcquisitionProgress, Revised.offer_same]
  rfl

/-- What is done with a plan or progress that is offered. -/
structure Guarded (rows : AcquisitionRows Plan Progress) : Prop where
  planReplay : ∀ revision snapshot recorded,
    rows.apply (.recordPlan revision snapshot) = .ok recorded →
      ∀ later, ((recorded.run later).attempt.plan.revision : Int) = revision →
        (recorded.run later).Ignores (.recordPlan revision snapshot)
  planConflict : ∀ snapshot, snapshot ≠ some rows.attempt.plan.value →
    rows.Rejects (.recordPlan rows.attempt.plan.revision snapshot)
  planOld : ∀ (revision : Int) snapshot, revision < rows.attempt.plan.revision →
    rows.Rejects (.recordPlan revision snapshot)
  progressReplay : ∀ revision snapshot recorded,
    rows.apply (.advanceProgress revision snapshot) = .ok recorded →
      ∀ later, ((recorded.run later).attempt.progress.revision : Int) = revision →
        (recorded.run later).Ignores (.advanceProgress revision snapshot)
  progressConflict : ∀ snapshot, snapshot ≠ rows.attempt.progress.value →
    rows.Rejects (.advanceProgress rows.attempt.progress.revision snapshot)
  progressOld : ∀ (revision : Int) snapshot, revision < rows.attempt.progress.revision →
    rows.Rejects (.advanceProgress revision snapshot)

theorem recordPlan_replay (accepted : rows.apply (.recordPlan revision snapshot) = .ok after)
    (later : List (RecordEvent Plan Progress))
    (current : ((after.run later).attempt.plan.revision : Int) = revision) :
    (after.run later).Ignores (.recordPlan revision snapshot) := by
  have recorded : (after.attempt.plan.revision : Int) = revision ∧ 1 ≤ revision ∧
      snapshot = some after.attempt.plan.value := by
    obtain ⟨proposed, plan, rfl, valid, offered, rfl⟩ := recordPlan_accepted accepted
    obtain ⟨same, value, _⟩ := Revised.offer_revision offered
    exact ⟨same, valid, by rw [← value]⟩
  obtain ⟨same, valid, rfl⟩ := recorded
  subst same
  obtain kept | newer := (run_extends after later).plan
  · have positive : 1 ≤ (after.run later).attempt.plan.revision := by omega
    have replayed := recordPlan_current positive
    rwa [kept] at replayed
  · omega

/-- A plan that is not accepted under its revision is rejected. -/
theorem recordPlan_refused
    (refused : ∀ proposed, snapshot = some proposed →
      ∃ refusal, rows.attempt.plan.offer revision proposed = .error refusal) :
    rows.Rejects (.recordPlan revision snapshot) := by
  cases result : rows.apply (.recordPlan revision snapshot) with
  | error error => exact .of_error result
  | ok after =>
    obtain ⟨proposed, plan, same, _, offered, _⟩ := recordPlan_accepted result
    obtain ⟨refusal, refused⟩ := refused proposed same
    rw [refused] at offered
    cases offered

theorem recordPlan_conflict (conflict : snapshot ≠ some rows.attempt.plan.value) :
    rows.Rejects (.recordPlan rows.attempt.plan.revision snapshot) := by
  apply recordPlan_refused
  rintro proposed rfl
  have differs : proposed ≠ rows.attempt.plan.value := fun same => conflict (by rw [same])
  exact ⟨_, Revised.offer_differs differs⟩

theorem recordPlan_old (snapshot : Option Plan)
    (older : revision < rows.attempt.plan.revision) :
    rows.Rejects (.recordPlan revision snapshot) := by
  apply recordPlan_refused
  intro proposed _
  exact ⟨_, Revised.offer_old older⟩

theorem advanceProgress_replay {snapshot : Progress}
    (accepted : rows.apply (.advanceProgress revision snapshot) = .ok after)
    (later : List (RecordEvent Plan Progress))
    (current : ((after.run later).attempt.progress.revision : Int) = revision) :
    (after.run later).Ignores (.advanceProgress revision snapshot) := by
  have recorded : (after.attempt.progress.revision : Int) = revision ∧
      snapshot = after.attempt.progress.value := by
    obtain ⟨progress, offered, rfl⟩ := advanceProgress_accepted accepted
    obtain ⟨same, value, _⟩ := Revised.offer_revision offered
    exact ⟨same, value.symm⟩
  obtain ⟨same, rfl⟩ := recorded
  subst same
  obtain kept | newer := (run_extends after later).progress
  · have replayed : (after.run later).Ignores _ := advanceProgress_current
    rwa [kept] at replayed
  · omega

theorem advanceProgress_refused {snapshot : Progress} {refusal : Revised.Refusal}
    (refused : rows.attempt.progress.offer revision snapshot = .error refusal) :
    rows.Rejects (.advanceProgress revision snapshot) := by
  cases result : rows.apply (.advanceProgress revision snapshot) with
  | error error => exact .of_error result
  | ok after =>
    obtain ⟨progress, offered, _⟩ := advanceProgress_accepted result
    rw [refused] at offered
    cases offered

/-- Replays change nothing; conflicts and older revisions are refused. -/
theorem guarded (rows : AcquisitionRows Plan Progress) : rows.Guarded where
  planReplay := fun _ _ _ recorded later current => recordPlan_replay recorded later current
  planConflict := fun _ conflict => recordPlan_conflict conflict
  planOld := fun _ snapshot older => recordPlan_old snapshot older
  progressReplay := fun _ _ _ advanced later current =>
    advanceProgress_replay advanced later current
  progressConflict := fun _ conflict => advanceProgress_refused (Revised.offer_differs conflict)
  progressOld := fun _ _ older => advanceProgress_refused (Revised.offer_old older)

/-- The records of an acquisition after any run from its creation. -/
theorem run_coherent (fresh : rows.Fresh) (events : List (RecordEvent Plan Progress)) :
    (rows.run events).Coherent ∧ (rows.run events).Guarded ∧
      ∀ later,
        (rows.run events).attempt.plan.revision ≤
            ((rows.run events).run later).attempt.plan.revision ∧
          (rows.run events).attempt.progress.revision ≤
            ((rows.run events).run later).attempt.progress.revision := by
  refine ⟨run_keeps ?_ fresh.coherent events, guarded _, ?_⟩
  · intro before event after coherent accepted
    exact coherent.apply accepted
  · intro later
    have extends_ := run_extends (rows.run events) later
    exact ⟨extends_.plan.revision_le, extends_.progress.revision_le⟩

/-- A discovered attempt. -/
def discovered : AcquisitionRows PlanSnapshot ProgressSnapshot where
  attempt :=
    { state := .discovered
      plan := ⟨0, ⟨none, [], [], none, none⟩⟩
      progress := ⟨0, ⟨.planned, none⟩⟩
      retryCount := 0
      nextRetryAt := none
      failureClass := none
      failureCode := none
      errorMessage := none
      startedAt := none
      completedAt := none
      cancelledAt := none }
  artifacts := []
  nextArtifactId := 1

/-- It is planned, cancelled while it is queued, and opened again. -/
def reopening : List (RecordEvent PlanSnapshot ProgressSnapshot) :=
  [.recordPlan 1 (some ⟨some [], [], [], some "saga-1", none⟩),
    .transitionAcquisition .planned 10,
    .advanceProgress 1 ⟨.planned, none⟩,
    .addArtifact 0 "saga-1" .pixeldrain none,
    .transitionAcquisition .queued 20,
    .transitionArtifact 1 .cancelled 30,
    .transitionAcquisition .cancelled 30,
    .reopen 1 ⟨.retryRequested, some 1⟩]

/-- A cancelled attempt is opened again, and stays coherent. -/
theorem discovered_coherent :
    (discovered.run (reopening.take 7)).attempt.cancelledAt = some 30 ∧
      (discovered.run reopening).attempt.state = .retryPending ∧
        (discovered.run reopening).Coherent :=
  ⟨by decide, by decide, (run_coherent ⟨rfl, rfl, rfl, rfl⟩ reopening).1⟩

end AcquisitionRows

end Pullbox.Direct.Acquisition
