import Pullbox.Reader.ReaderState

/-!
# Events of the reader state

What the events of a command owe to the row before and after it, and the commands after which they
keep it. Events are told from the times that the row holds afterwards, so a time that an earlier
command left at the same reading of the clock is taken for a change.
-/

namespace Pullbox.Reader

variable {userId issueId : Nat} {before : Option ReaderState} {now : Moment}
  {command : ReaderStateCommand} {update : ProgressUpdate} {row : ReaderState}
  {kind : ReaderStateEventKind} {time : Moment}

/-- The completion that a row records. -/
inductive CompletionState where
  | untouched | unread | read
deriving DecidableEq

def completionState : Option ReaderState → CompletionState
  | none => .untouched
  | some row =>
    if row.isCompleted then .read
    else if row.isExplicitlyUnread then .unread
    else .untouched

def wantsToRead (row : Option ReaderState) : Bool :=
  row.any ReaderState.wantToRead

def version (row : Option ReaderState) : Nat :=
  (row.map ReaderState.stateVersion).getD 0

/-- All that a row holds, but for its version. -/
def contents (row : Option ReaderState) : Option ReaderState :=
  row.map fun row => { row with stateVersion := 0 }

/-- Whether an event of the kind is emitted. -/
def Stage.emits (stage : Stage) (kind : ReaderStateEventKind) : Bool :=
  stage.events.any fun event => event.kind == kind

/-- The events and the version of a command tell its changes, and an automatic completion leaves
the completion of a row that has one. -/
structure Stage.Faithful (stage : Stage) : Prop where
  completion : stage.emits .completionChanged = true ↔
    completionState stage.before ≠ completionState stage.after
  wantToRead : stage.emits .wantToReadChanged = true ↔
    wantsToRead stage.before ≠ wantsToRead stage.after
  version : version stage.before < version stage.after ↔
    contents stage.before ≠ contents stage.after
  kept : ∀ update row, stage.command = .progress update → update.completionCandidate = true →
    stage.before = some row → row.isCompleted = true →
    ∃ after, stage.after = some after ∧ after.completedAt = row.completedAt ∧
      after.completionUpdatedAt = row.completionUpdatedAt

/-- A progress update that stores what is stored already, at the time that is stored already. -/
def Repeats (update : ProgressUpdate) (now : Moment) (row : ReaderState) : Prop :=
  row.lastPageIndex = some update.pageIndex ∧ row.contentRevision = some update.revision ∧
    row.pageCount = some update.pageCount ∧ row.progressUpdatedAt = some now ∧
    row.lastOpenedAt = some now ∧ row.updatedAt = now ∧
    (update.completionCandidate = true → row.isCompleted = true ∧ row.wantToRead = false) ∧
    (update.rereadStarted = true → row.isCompleted = false)

/-- A command that leaves nothing of its moment to be taken for a change. -/
def Settled (now : Moment) : ReaderStateCommand → Option ReaderState → Prop
  | .completion _, none => True
  | .completion true, some row =>
    (row.isCompleted = true → row.wantToRead = true → row.completionUpdatedAt ≠ some now) ∧
      (row.isCompleted = false → row.wantToRead = false → row.wantToReadUpdatedAt ≠ some now)
  | .completion false, some row =>
    row.isCompleted = true ∨ row.completionUpdatedAt = none → row.wantToReadUpdatedAt ≠ some now
  | .wantToRead enabled, none => enabled = true
  | .wantToRead enabled, some row => row.wantToReadUpdatedAt = none → row.wantToRead ≠ enabled
  | .progress _, none => True
  | .progress update, some row =>
    validateUpdate update = .ok () →
      (update.rereadStarted = false →
        (update.completionCandidate = true → row.isCompleted = true) →
        row.completionUpdatedAt ≠ some now) ∧
      ((update.completionCandidate = true → row.wantToRead = false) →
        row.wantToReadUpdatedAt ≠ some now) ∧
      ¬ Repeats update now row

/-! ### What each command emits -/

theorem any_eventIf {holds : Bool} {event : ReaderStateEventDescriptor} :
    (eventIf holds event).any (fun event => event.kind == kind) =
    (holds && event.kind == kind) := by
  cases holds with
  | false => rfl
  | true => simp [eventIf]

theorem emits_completion {completed : Bool} :
    (stage userId issueId before now (.completion completed)).emits kind =
      ((setReaderCompletion userId issueId completed now before).changed &&
        match kind with
        | .completionChanged =>
          (setReaderCompletion userId issueId completed now before).after.completionUpdatedAt ==
            some now
        | .wantToReadChanged =>
          (setReaderCompletion userId issueId completed now before).after.wantToReadUpdatedAt ==
            some now) := by
  unfold stage applyCommand setReaderCompletion Stage.emits
  simp only
  rw [List.any_append, any_eventIf, any_eventIf]
  cases kind <;> simp [completionEvent, wantToReadEvent]

theorem emits_wantToRead {enabled : Bool} :
    (stage userId issueId before now (.wantToRead enabled)).emits kind =
      ((setWantToRead userId issueId enabled now before).changed &&
        kind == .wantToReadChanged) := by
  unfold stage applyCommand setWantToRead Stage.emits
  simp only
  rw [any_eventIf]
  cases kind <;> rfl

/-- A stage that is no progress update has no automatic completion. -/
theorem faithful_of_explicit {stage : Stage}
    (explicit : ∀ update, stage.command ≠ .progress update) :
    stage.Faithful ↔
      (stage.emits .completionChanged = true ↔
        completionState stage.before ≠ completionState stage.after) ∧
      (stage.emits .wantToReadChanged = true ↔
        wantsToRead stage.before ≠ wantsToRead stage.after) ∧
      (version stage.before < version stage.after ↔
        contents stage.before ≠ contents stage.after) := by
  constructor
  · rintro ⟨completion, want, version, _⟩
    exact ⟨completion, want, version⟩
  · rintro ⟨completion, want, version⟩
    exact ⟨completion, want, version, fun update _ same => absurd same (explicit update)⟩

/-! ### Explicit intent -/

theorem completionState_some :
    completionState (some row) =
      if row.completedAt.isSome then .read
      else if row.completionUpdatedAt.isSome then .unread else .untouched := by
  simp only [completionState, ReaderState.isCompleted, ReaderState.isExplicitlyUnread]
  by_cases done : row.completedAt = none
  · simp [done]
  · simp [Option.isSome_iff_ne_none.2 done]

/-- An issue that is not completed is not read. -/
@[simp] theorem not_read {explicit : Bool} :
    ¬ (if explicit = true then CompletionState.unread else .untouched) = .read := by
  cases explicit with
  | false => decide
  | true => decide

/-- A mark as read is faithful where nothing of its moment can be taken for a change. -/
theorem markRead_faithful_iff :
    (stage userId issueId (some row) now (.completion true)).Faithful ↔
      Settled now (.completion true) (some row) := by
  rw [faithful_of_explicit (fun update same => by simp [stage, applyCommand] at same),
    emits_completion, emits_completion]
  -- The row is written unless it is completed and not wanted.
  cases done : row.completedAt with
  | none =>
    cases wants : row.wantToRead with
    | true =>
      simp [stage, applyCommand, setReaderCompletion, executeStateCommand, markRead, done, wants,
        completionState_some, wantsToRead, version, contents, Settled, ReaderState.isCompleted]
    | false =>
      simp [stage, applyCommand, setReaderCompletion, executeStateCommand, markRead, done, wants,
        completionState_some, wantsToRead, version, contents, Settled, ReaderState.isCompleted]
  | some finished =>
    cases wants : row.wantToRead with
    | true =>
      simp [stage, applyCommand, setReaderCompletion, executeStateCommand, markRead, done, wants,
        completionState_some, wantsToRead, version, contents, Settled, ReaderState.isCompleted]
    | false =>
      simp [stage, applyCommand, setReaderCompletion, executeStateCommand, markRead, done, wants,
        completionState_some, wantsToRead, version, contents, Settled, ReaderState.isCompleted]

theorem markUnread_faithful_iff :
    (stage userId issueId (some row) now (.completion false)).Faithful ↔
      Settled now (.completion false) (some row) := by
  rw [faithful_of_explicit (fun update same => by simp [stage, applyCommand] at same),
    emits_completion, emits_completion]
  -- The row is written unless it is explicitly unread already.
  cases done : row.completedAt with
  | none =>
    cases intent : row.completionUpdatedAt with
    | none =>
      simp [stage, applyCommand, setReaderCompletion, executeStateCommand, markUnread, done,
        intent, completionState_some, wantsToRead, version, contents, Settled,
        ReaderState.isCompleted]
    | some earlier =>
      simp [stage, applyCommand, setReaderCompletion, executeStateCommand, markUnread, done,
        intent, completionState_some, wantsToRead, version, contents, Settled,
        ReaderState.isCompleted]
  | some finished =>
    simp [stage, applyCommand, setReaderCompletion, executeStateCommand, markUnread, done,
      completionState_some, wantsToRead, version, contents, Settled, ReaderState.isCompleted]

theorem queueIntent_faithful_iff {enabled : Bool} :
    (stage userId issueId (some row) now (.wantToRead enabled)).Faithful ↔
      Settled now (.wantToRead enabled) (some row) := by
  rw [faithful_of_explicit (fun update same => by simp [stage, applyCommand] at same),
    emits_wantToRead, emits_wantToRead]
  by_cases same : row.wantToRead = enabled
  · cases intent : row.wantToReadUpdatedAt with
    | none =>
      simp [stage, applyCommand, setWantToRead, executeStateCommand, queueIntent, same, intent,
        completionState_some, wantsToRead, version, contents, Settled]
    | some earlier =>
      simp [stage, applyCommand, setWantToRead, executeStateCommand, queueIntent, same, intent,
        completionState_some, wantsToRead, version, contents, Settled]
  · simp [stage, applyCommand, setWantToRead, executeStateCommand, queueIntent, same,
      completionState_some, wantsToRead, version, contents, Settled]

/-! ### Progress -/

/-- A reread does not complete an issue. -/
theorem not_candidate_of_reread (valid : validateUpdate update = .ok ())
    (reread : update.rereadStarted = true) : update.completionCandidate = false := by
  unfold validateUpdate at valid
  split at valid
  · cases valid
  · split at valid
    · cases valid
    · split at valid
      · cases valid
      · split at valid
        · cases valid
        · split at valid
          · cases valid
          · rename_i allowed
            rw [reread] at allowed
            simpa using fun candidate => allowed ⟨rfl, .inr candidate⟩

theorem not_reread_of_candidate (valid : validateUpdate update = .ok ())
    (candidate : update.completionCandidate = true) : update.rereadStarted = false := by
  rw [Bool.eq_false_iff]
  intro again
  rw [not_candidate_of_reread valid again] at candidate
  cases candidate

theorem stage_rejected {error : ReaderStateValidationError}
    (rejected : validateUpdate update = .error error) :
    stage userId issueId before now (.progress update) =
      { before, command := .progress update, now, after := before, events := [] } := by
  simp only [stage, applyCommand, updateReaderProgress, rejected]
  rfl

/-- A settled page of a row that exists. -/
theorem stage_settled (valid : validateUpdate update = .ok ()) :
    stage userId issueId (some row) now (.progress update) =
      let after := settlePage update (clearsCompletion update (some row)) now row
      { before := some row, command := .progress update, now, after := some after
        events :=
          (if clearsCompletion update (some row) then [completionEvent after now false .reread]
          else eventIf (!update.rereadStarted && after.completionUpdatedAt == some now)
            (completionEvent after now true .automatic)) ++
          eventIf (after.wantToReadUpdatedAt == some now) (wantToReadEvent after now false) } := by
  simp only [stage, applyCommand, updateReaderProgress, valid]
  rfl

theorem emits_progress (valid : validateUpdate update = .ok ()) :
    (stage userId issueId (some row) now (.progress update)).emits kind =
      match kind with
      | .completionChanged =>
        clearsCompletion update (some row) || !update.rereadStarted &&
          (settlePage update (clearsCompletion update (some row)) now row).completionUpdatedAt ==
            some now
      | .wantToReadChanged =>
        (settlePage update (clearsCompletion update (some row)) now row).wantToReadUpdatedAt ==
          some now := by
  rw [stage_settled valid, Stage.emits]
  simp only
  rw [List.any_append, any_eventIf]
  cases clear : clearsCompletion update (some row) with
  | true => cases kind <;> simp [completionEvent, wantToReadEvent]
  | false =>
    simp only [Bool.false_eq_true, if_false]
    rw [any_eventIf]
    cases kind <;> simp [completionEvent, wantToReadEvent]

/-- A settled page leaves all as it is where it repeats what is stored. -/
theorem settlePage_repeats (valid : validateUpdate update = .ok ()) :
    contents (some row) =
        contents (some (settlePage update (clearsCompletion update (some row)) now row)) ↔
      Repeats update now row := by
  have reread := not_candidate_of_reread valid
  cases again : update.rereadStarted with
  | true =>
    have none := reread again
    cases done : row.completedAt with
    | none =>
      simp [contents, settlePage, clearsCompletion, Repeats, again, none, done,
        ReaderState.isCompleted]
    | some finished =>
      simp [contents, settlePage, clearsCompletion, Repeats, again, none, done,
        ReaderState.isCompleted]
  | false =>
    cases candidate : update.completionCandidate with
    | true =>
      cases done : row.completedAt with
      | none =>
        simp [contents, settlePage, clearsCompletion, Repeats, again, candidate, done,
          ReaderState.isCompleted]
      | some finished =>
        cases wants : row.wantToRead with
        | true =>
          simp [contents, settlePage, clearsCompletion, Repeats, again, candidate, done,
            wants, ReaderState.isCompleted]
        | false =>
          simp [contents, settlePage, clearsCompletion, Repeats, again, candidate, done,
            wants, ReaderState.isCompleted]
    | false =>
      simp [contents, settlePage, clearsCompletion, Repeats, again, candidate]

/-- The completion event of a settled page tells the completion, unless the row's time is taken for
a new one. -/
theorem settlePage_completion (valid : validateUpdate update = .ok ()) :
    ((stage userId issueId (some row) now (.progress update)).emits .completionChanged = true ↔
      completionState (some row) ≠
        completionState (some (settlePage update (clearsCompletion update (some row)) now row))) ↔
      (update.rereadStarted = false →
        (update.completionCandidate = true → row.isCompleted = true) →
        row.completionUpdatedAt ≠ some now) := by
  have reread := not_candidate_of_reread valid
  rw [emits_progress valid, completionState_some, completionState_some]
  cases again : update.rereadStarted with
  | true =>
    have none := reread again
    cases done : row.completedAt with
    | none => simp [settlePage, clearsCompletion, again, none, done, ReaderState.isCompleted]
    | some finished =>
      simp [settlePage, clearsCompletion, again, none, done, ReaderState.isCompleted]
  | false =>
    cases candidate : update.completionCandidate with
    | true =>
      cases done : row.completedAt with
      | none =>
        simp [settlePage, clearsCompletion, again, candidate, done, ReaderState.isCompleted]
      | some finished =>
        simp [settlePage, clearsCompletion, again, candidate, done, ReaderState.isCompleted]
    | false => simp [settlePage, clearsCompletion, again, candidate]

theorem settlePage_wantToRead (valid : validateUpdate update = .ok ()) :
    ((stage userId issueId (some row) now (.progress update)).emits .wantToReadChanged = true ↔
      wantsToRead (some row) ≠
        wantsToRead (some (settlePage update (clearsCompletion update (some row)) now row))) ↔
      ((update.completionCandidate = true → row.wantToRead = false) →
        row.wantToReadUpdatedAt ≠ some now) := by
  rw [emits_progress valid]
  cases candidate : update.completionCandidate with
  | true =>
    cases wants : row.wantToRead with
    | true => simp [settlePage, wantsToRead, candidate, wants]
    | false => simp [settlePage, wantsToRead, candidate, wants]
  | false => simp [settlePage, wantsToRead, candidate]

/-- Progress on a row, likewise. -/
theorem progress_faithful_iff :
    (stage userId issueId (some row) now (.progress update)).Faithful ↔
      Settled now (.progress update) (some row) := by
  cases valid : validateUpdate update with
  | error error =>
    rw [stage_rejected valid]
    refine ⟨fun _ => by simp [Settled, valid], fun _ => ?_⟩
    refine ⟨by simp [Stage.emits], by simp [Stage.emits], by simp, ?_⟩
    intro _ other _ _ same done
    exact ⟨row, rfl, by rw [Option.some.inj same], by rw [Option.some.inj same]⟩
  | ok _ =>
    have later : (stage userId issueId (some row) now (.progress update)).after =
        some (settlePage update (clearsCompletion update (some row)) now row) := by
      rw [stage_settled valid]
    have kept : ∀ other existing, ReaderStateCommand.progress update = .progress other →
        other.completionCandidate = true → some row = some existing →
        existing.isCompleted = true → ∃ after,
          some (settlePage update (clearsCompletion update (some row)) now row) = some after ∧
            after.completedAt = existing.completedAt ∧
            after.completionUpdatedAt = existing.completionUpdatedAt := by
      rintro _ _ ⟨⟩ candidate ⟨⟩ done
      have first := not_reread_of_candidate valid candidate
      have completed : row.completedAt.isNone = false := by
        rw [Option.isNone_eq_false_iff]
        exact done
      refine ⟨_, rfl, ?_, ?_⟩
      · simp [settlePage, clearsCompletion, first, completed]
      · simp [settlePage, clearsCompletion, first, completed]
    have shape : (stage userId issueId (some row) now (.progress update)).before = some row ∧
        (stage userId issueId (some row) now (.progress update)).command = .progress update := by
      rw [stage_settled valid]
      exact ⟨rfl, rfl⟩
    obtain ⟨earlier, given⟩ := shape
    have higher : version (some row) <
        version (some (settlePage update (clearsCompletion update (some row)) now row)) :=
      Nat.lt_succ_self _
    constructor
    · rintro ⟨completion, want, changes, _⟩ _
      rw [earlier, later] at completion want changes
      refine ⟨(settlePage_completion valid).1 completion, (settlePage_wantToRead valid).1 want,
        fun again => ?_⟩
      exact changes.1 higher ((settlePage_repeats valid).2 again)
    · intro settled
      obtain ⟨completion, want, changes⟩ := settled valid
      refine ⟨?_, ?_, ?_, ?_⟩
      · rw [earlier, later]
        exact (settlePage_completion valid).2 completion
      · rw [earlier, later]
        exact (settlePage_wantToRead valid).2 want
      · rw [earlier, later]
        exact ⟨fun _ same => changes ((settlePage_repeats valid).1 same), fun _ => higher⟩
      · rw [earlier, later, given]
        exact kept

theorem stage_inserted (valid : validateUpdate update = .ok ()) :
    stage userId issueId none now (.progress update) =
      let finished := if update.completionCandidate then some now else none
      let after : ReaderState :=
        { userId, issueId
          lastPageIndex := some update.pageIndex
          contentRevision := some update.revision
          pageCount := some update.pageCount
          progressUpdatedAt := some now
          lastOpenedAt := some now
          completedAt := finished
          completionUpdatedAt := finished
          updatedAt := now }
      { before := none, command := .progress update, now, after := some after
        events := eventIf update.completionCandidate (completionEvent after now true .automatic) } := by
  simp only [stage, applyCommand, updateReaderProgress, valid, clearsCompletion, executeStateCommand]
  cases candidate : update.completionCandidate with
  | true =>
    have first := not_reread_of_candidate valid candidate
    simp [eventIf, first, bind, Except.bind]
  | false => simp [eventIf, bind, Except.bind]

/-! ### Any command -/

/-- A first command for an issue. -/
theorem inserted_faithful_iff :
    (stage userId issueId none now command).Faithful ↔ Settled now command none := by
  cases command with
  | completion completed =>
    rw [faithful_of_explicit (fun update same => by simp [stage, applyCommand] at same),
      emits_completion, emits_completion]
    cases completed with
    | true =>
      simp [stage, applyCommand, setReaderCompletion, executeStateCommand, completionState,
        wantsToRead, version, contents, Settled, ReaderState.isCompleted]
    | false =>
      simp [stage, applyCommand, setReaderCompletion, executeStateCommand, completionState,
        wantsToRead, version, contents, Settled, ReaderState.isCompleted,
        ReaderState.isExplicitlyUnread]
  | wantToRead enabled =>
    rw [faithful_of_explicit (fun update same => by simp [stage, applyCommand] at same),
      emits_wantToRead, emits_wantToRead]
    simp [stage, applyCommand, setWantToRead, executeStateCommand, completionState, wantsToRead,
      version, contents, Settled, ReaderState.isCompleted, ReaderState.isExplicitlyUnread]
  | progress update =>
    cases valid : validateUpdate update with
    | error error =>
      rw [stage_rejected valid]
      exact ⟨fun _ => trivial, fun _ =>
        ⟨by simp [Stage.emits], by simp [Stage.emits], by simp, fun _ _ _ _ same => by cases same⟩⟩
    | ok _ =>
      refine ⟨fun _ => trivial, fun _ => ?_⟩
      rw [stage_inserted valid]
      cases candidate : update.completionCandidate with
      | true =>
        refine ⟨?_, ?_, ?_, fun _ _ _ _ same => by cases same⟩
        · simp [Stage.emits, eventIf, completionEvent, completionState, ReaderState.isCompleted]
        · simp [Stage.emits, eventIf, completionEvent, wantsToRead]
        · simp [version, contents]
      | false =>
        refine ⟨?_, ?_, ?_, fun _ _ _ _ same => by cases same⟩
        · simp [Stage.emits, eventIf, completionState, ReaderState.isCompleted,
            ReaderState.isExplicitlyUnread]
        · simp [Stage.emits, eventIf, wantsToRead]
        · simp [version, contents]

/-- The events and the version of a command tell its changes just where the command leaves nothing
to be taken for a change. -/
theorem stage_faithful_iff :
    (stage userId issueId before now command).Faithful ↔ Settled now command before := by
  cases before with
  | none => exact inserted_faithful_iff
  | some row =>
    cases command with
    | completion completed =>
      cases completed with
      | true => exact markRead_faithful_iff
      | false => exact markUnread_faithful_iff
    | wantToRead enabled => exact queueIntent_faithful_iff
    | progress update => exact progress_faithful_iff

theorem mem_stages {start : Option ReaderState} {commands : List (Moment × ReaderStateCommand)}
    {one : Stage} (member : one ∈ stages userId issueId start commands) :
    one = stage userId issueId one.before one.now one.command := by
  induction commands generalizing start with
  | nil => cases member
  | cons next later ih =>
    obtain ⟨now, command⟩ := next
    rcases List.mem_cons.1 member with rfl | after
    · have fields : (stage userId issueId start now command).before = start ∧
          (stage userId issueId start now command).now = now ∧
          (stage userId issueId start now command).command = command := by
        unfold stage
        split
        · exact ⟨rfl, rfl, rfl⟩
        · exact ⟨rfl, rfl, rfl⟩
      obtain ⟨same, clock, given⟩ := fields
      rw [same, clock, given]
    · exact ih after

/-- Along a run, whatever the clock reads, every command is told by its events and its version just
where every command leaves nothing to be taken for a change. -/
theorem run_faithful_iff (userId issueId : Nat) (start : Option ReaderState)
    (commands : List (Moment × ReaderStateCommand)) :
    (∀ one ∈ stages userId issueId start commands, one.Faithful) ↔
      ∀ one ∈ stages userId issueId start commands, Settled one.now one.command one.before := by
  refine forall₂_congr fun one member => ?_
  have shape := mem_stages member
  conv => lhs; rw [shape]
  exact stage_faithful_iff

/-! ### A clock that moves on -/

/-- The times of a row that events are told from. -/
def times (row : Option ReaderState) : List Moment :=
  row.elim [] fun row =>
    row.updatedAt :: (row.completionUpdatedAt.toList ++ row.wantToReadUpdatedAt.toList)

/-- A first intent for what the row says anyway. -/
def FirstIntent (command : ReaderStateCommand) (row : Option ReaderState) : Prop :=
  command = .wantToRead (wantsToRead row) ∧ row.bind ReaderState.wantToReadUpdatedAt = none

theorem settled_of_later (later : ∀ time ∈ times before, time < now) :
    Settled now command before ↔ ¬ FirstIntent command before := by
  cases before with
  | none =>
    cases command with
    | completion completed => simp [Settled, FirstIntent]
    | wantToRead enabled => simp [Settled, FirstIntent, wantsToRead]
    | progress update => simp [Settled, FirstIntent]
  | some row =>
    have updated : row.updatedAt ≠ now := by
      intro same
      have member : now ∈ times (some row) := by simp [times, same]
      exact absurd (later now member) (Nat.lt_irrefl now)
    have completion : row.completionUpdatedAt ≠ some now := by
      intro same
      have member : now ∈ times (some row) := by simp [times, same]
      exact absurd (later now member) (Nat.lt_irrefl now)
    have want : row.wantToReadUpdatedAt ≠ some now := by
      intro same
      have member : now ∈ times (some row) := by simp [times, same]
      exact absurd (later now member) (Nat.lt_irrefl now)
    cases command with
    | completion completed =>
      cases completed with
      | true => simp [Settled, FirstIntent, completion, want]
      | false => simp [Settled, FirstIntent, want]
    | wantToRead enabled =>
      simp only [Settled, FirstIntent, wantsToRead, Option.any_some, Option.bind_some, not_and,
        ReaderStateCommand.wantToRead.injEq]
      tauto
    | progress update => simp [Settled, FirstIntent, Repeats, completion, want, updated]

/-- An upsert leaves no times but those that its clauses leave. -/
theorem times_executeStateCommand {inserted : ReaderState}
    {onConflict : ReaderState → Option ReaderState}
    (new : ∀ time ∈ times (some inserted), time = now)
    (kept : ∀ row updated, onConflict row = some updated → ∀ time ∈ times (some updated),
      time = now ∨ time ∈ times (some row))
    (member : time ∈ times (some (executeStateCommand inserted onConflict before).1)) :
    time = now ∨ time ∈ times before := by
  cases before with
  | none => exact .inl (new time member)
  | some row =>
    unfold executeStateCommand at member
    split at member
    · rename_i same
      cases same
    · rename_i other same
      cases same
      split at member
      · rename_i updated written
        exact kept row updated written time member
      · exact .inr member

theorem times_setReaderCompletion {completed : Bool}
    (member : time ∈
      times (some (setReaderCompletion userId issueId completed now before).after)) :
    time = now ∨ time ∈ times before := by
  refine times_executeStateCommand (fun time inside => ?_)
    (fun row updated written time inside => ?_) member
  · simpa [times] using inside
  · cases completed with
    | true => grind [times, markRead]
    | false => grind [times, markUnread]

theorem times_setWantToRead {enabled : Bool}
    (member : time ∈ times (some (setWantToRead userId issueId enabled now before).after)) :
    time = now ∨ time ∈ times before := by
  refine times_executeStateCommand (fun time inside => ?_)
    (fun row updated written time inside => ?_) member
  · simpa [times] using inside
  · grind [times, queueIntent]

/-- A command leaves no times but those of the row before and its own. -/
theorem times_stage (member : time ∈ times (stage userId issueId before now command).after) :
    time = now ∨ time ∈ times before := by
  cases command with
  | completion completed => exact times_setReaderCompletion member
  | wantToRead enabled => exact times_setWantToRead member
  | progress update =>
    cases valid : validateUpdate update with
    | error error =>
      rw [stage_rejected valid] at member
      exact .inr member
    | ok _ =>
      cases before with
      | none =>
        rw [stage_inserted valid] at member
        grind [times]
      | some row =>
        rw [stage_settled valid] at member
        grind [times, settlePage]

/-- With a clock that moves on from command to command, every command but a first intent for what
the row says anyway is told by its events and its version. -/
theorem run_faithful_of_strict_clock {start : Option ReaderState}
    {commands : List (Moment × ReaderStateCommand)}
    (first : ∀ next ∈ commands, ∀ time ∈ times start, time < next.1)
    (clock : commands.Pairwise fun one next => one.1 < next.1) :
    ∀ one ∈ stages userId issueId start commands,
      one.Faithful ↔ ¬ FirstIntent one.command one.before := by
  induction commands generalizing start with
  | nil =>
    intro one member
    cases member
  | cons next later ih =>
    obtain ⟨now, command⟩ := next
    obtain ⟨ahead, clock⟩ := List.pairwise_cons.1 clock
    intro one member
    rcases List.mem_cons.1 member with same | after
    · have shape := mem_stages member
      have given : one.before = start ∧ one.now = now := by
        rw [same, stage]
        split
        · exact ⟨rfl, rfl⟩
        · exact ⟨rfl, rfl⟩
      have moved : ∀ time ∈ times one.before, time < one.now := by
        rw [given.1, given.2]
        exact first (now, command) List.mem_cons_self
      rw [← settled_of_later moved]
      conv => lhs; rw [shape]
      exact stage_faithful_iff
    · refine ih (fun other following time inside => ?_) clock one after
      rcases times_stage inside with present | earlier
      · rw [present]
        exact ahead other following
      · exact first other (List.mem_cons_of_mem _ following) time earlier

/-- An update of the queue and then one of the reader. -/
theorem queued_then_read_faithful :
    let run := stages 1 2 none [(5, .wantToRead true), (6, .completion true)]
    run.length = 2 ∧ ∀ one ∈ run, one.Faithful := by
  refine ⟨by decide +kernel, fun one member => ?_⟩
  refine (run_faithful_of_strict_clock (by simp [times]) (by simp) one member).2 ?_
  revert one
  unfold FirstIntent
  decide +kernel

/-- A page that settles at the reading of the clock at which the issue was queued emits that the
issue is not wanted any more, which it still is. -/
theorem queued_then_settled_emits :
    let update : ProgressUpdate :=
      { revision := "r", pageIndex := 0, pageCount := 3, completionCandidate := false,
        expectedRevision := "r", expectedPageCount := 3 }
    let run := stages 1 2 none [(5, .wantToRead true), (5, .progress update)]
    ¬ (∀ one ∈ run, one.Faithful) ∧
      (run.map fun one => (wantsToRead one.before, wantsToRead one.after)) =
        [(false, true), (true, true)] ∧
      (run.map fun one => one.events.map ReaderStateEventDescriptor.wantToRead) =
        [[some true], [some false]] := by
  refine ⟨fun faithful => ?_, by decide +kernel, by decide +kernel⟩
  have second := (faithful _ (List.mem_cons_of_mem _ List.mem_cons_self)).wantToRead
  exact absurd second (by decide +kernel)

end Pullbox.Reader
