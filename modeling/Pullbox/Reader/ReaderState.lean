import Mathlib.Data.List.Basic

/-!
# Private reader state

`services/reader_state_service.py`: one user's progress, completion and reading intent for one
issue. A command is one upsert of the row; the events of a command are derived from the row
afterwards. The clock of a command is any number.
-/

namespace Pullbox.Reader

/-- A reading of the clock, in microseconds. -/
abbrev Moment := Nat

/-- `IssueReaderState`, and its detached snapshot. -/
structure ReaderState where
  userId : Nat
  issueId : Nat
  lastPageIndex : Option Int := none
  contentRevision : Option String := none
  pageCount : Option Int := none
  progressUpdatedAt : Option Moment := none
  lastOpenedAt : Option Moment := none
  completedAt : Option Moment := none
  completionUpdatedAt : Option Moment := none
  wantToRead : Bool := false
  wantToReadUpdatedAt : Option Moment := none
  stateVersion : Nat := 1
  updatedAt : Moment

namespace ReaderState

def isCompleted (state : ReaderState) : Bool :=
  state.completedAt.isSome

def isExplicitlyUnread (state : ReaderState) : Bool :=
  state.completedAt.isNone && state.completionUpdatedAt.isSome

end ReaderState

inductive ReaderStateEventKind where
  | completionChanged | wantToReadChanged
deriving DecidableEq

inductive ReaderCompletionOrigin where
  | automatic | manual | reread

/-- An event to be recorded. -/
structure ReaderStateEventDescriptor where
  kind : ReaderStateEventKind
  userId : Nat
  issueId : Nat
  stateVersion : Nat
  occurredAt : Moment
  completed : Option Bool := none
  wantToRead : Option Bool := none
  origin : Option ReaderCompletionOrigin := none

/-- A row before and after, with its events. -/
structure ReaderStateTransition where
  before : Option ReaderState
  after : ReaderState
  changed : Bool
  events : List ReaderStateEventDescriptor

/-- `ReaderStateValidationError`, with its code and message. -/
structure ReaderStateValidationError where
  code : String
  message : String

/-- `_execute_state_command`: a row that does not exist is inserted, one that exists is updated
where the conflict clause lets it; with it, whether anything was written. -/
def executeStateCommand (inserted : ReaderState) (onConflict : ReaderState → Option ReaderState) :
    Option ReaderState → ReaderState × Bool
  | none => (inserted, true)
  | some row =>
    match onConflict row with
    | some updated => (updated, true)
    | none => (row, false)

def completionEvent (after : ReaderState) (now : Moment) (completed : Bool)
    (origin : ReaderCompletionOrigin) : ReaderStateEventDescriptor where
  kind := .completionChanged
  userId := after.userId
  issueId := after.issueId
  stateVersion := after.stateVersion
  occurredAt := now
  completed := some completed
  origin := some origin

def wantToReadEvent (after : ReaderState) (now : Moment) (wantToRead : Bool) :
    ReaderStateEventDescriptor where
  kind := .wantToReadChanged
  userId := after.userId
  issueId := after.issueId
  stateVersion := after.stateVersion
  occurredAt := now
  wantToRead := some wantToRead

/-- An event where a condition holds. -/
def eventIf (holds : Bool) (event : ReaderStateEventDescriptor) : List ReaderStateEventDescriptor :=
  if holds then [event] else []

/-! ### Explicit intent -/

/-- The conflict clause of `set_reader_completion` where the issue is completed. -/
def markRead (now : Moment) (row : ReaderState) : Option ReaderState :=
  if row.completedAt.isNone || row.wantToRead then
    some { row with
      completedAt := if row.completedAt.isNone then some now else row.completedAt
      completionUpdatedAt := if row.completedAt.isNone then some now else row.completionUpdatedAt
      wantToRead := false
      wantToReadUpdatedAt := if row.wantToRead then some now else row.wantToReadUpdatedAt
      stateVersion := row.stateVersion + 1
      updatedAt := now }
  else
    none

/-- The conflict clause of `set_reader_completion` where the issue is not completed. -/
def markUnread (now : Moment) (row : ReaderState) : Option ReaderState :=
  if row.completedAt.isSome || row.completionUpdatedAt.isNone then
    some { row with
      completedAt := none
      completionUpdatedAt := some now
      stateVersion := row.stateVersion + 1
      updatedAt := now }
  else
    none

/-- `set_reader_completion`. -/
def setReaderCompletion (userId issueId : Nat) (completed : Bool) (now : Moment)
    (before : Option ReaderState) : ReaderStateTransition :=
  let inserted : ReaderState :=
    { userId, issueId, completedAt := if completed then some now else none,
      completionUpdatedAt := some now, updatedAt := now }
  let (after, changed) :=
    executeStateCommand inserted (if completed then markRead now else markUnread now) before
  { before, after, changed
    events :=
      eventIf (changed && after.completionUpdatedAt == some now)
        (completionEvent after now completed .manual) ++
      eventIf (changed && after.wantToReadUpdatedAt == some now)
        (wantToReadEvent after now false) }

/-- The conflict clause of `set_want_to_read`. -/
def queueIntent (enabled : Bool) (now : Moment) (row : ReaderState) : Option ReaderState :=
  if row.wantToRead != enabled || row.wantToReadUpdatedAt.isNone then
    some { row with
      wantToRead := enabled
      wantToReadUpdatedAt := some now
      stateVersion := row.stateVersion + 1
      updatedAt := now }
  else
    none

/-- `set_want_to_read`. -/
def setWantToRead (userId issueId : Nat) (enabled : Bool) (now : Moment)
    (before : Option ReaderState) : ReaderStateTransition :=
  let inserted : ReaderState :=
    { userId, issueId, wantToRead := enabled, wantToReadUpdatedAt := some now, updatedAt := now }
  let (after, changed) := executeStateCommand inserted (queueIntent enabled now) before
  { before, after, changed, events := eventIf changed (wantToReadEvent after now enabled) }

/-! ### Progress -/

/-- The arguments of `update_reader_progress`. -/
structure ProgressUpdate where
  revision : String
  pageIndex : Int
  pageCount : Int
  completionCandidate : Bool
  expectedRevision : String
  expectedPageCount : Int
  rereadStarted : Bool := false
deriving DecidableEq

/-- `_validate_update`. -/
def validateUpdate (update : ProgressUpdate) : Except ReaderStateValidationError Unit :=
  if update.revision ≠ update.expectedRevision then
    .error ⟨"stale_revision", "The comic file has changed."⟩
  else if update.pageCount ≠ update.expectedPageCount ∨ update.pageCount ≤ 0 then
    .error ⟨"page_count_mismatch", "The comic page count changed."⟩
  else if update.pageIndex < 0 ∨ update.pageCount ≤ update.pageIndex then
    .error ⟨"page_out_of_range", "The settled page is invalid."⟩
  else if update.completionCandidate ∧ update.pageIndex ≠ update.pageCount - 1 then
    .error ⟨"completion_not_final", "Completion can only be recorded on the final page."⟩
  else if update.rereadStarted ∧ (update.pageIndex ≠ 0 ∨ update.completionCandidate) then
    .error ⟨"reread_not_first_page",
      "Rereading must start on page one without completing the issue."⟩
  else
    .ok ()

/-- Whether a reread clears the completion of a row. -/
def clearsCompletion (update : ProgressUpdate) (before : Option ReaderState) : Bool :=
  update.rereadStarted && before.any ReaderState.isCompleted

/-- The conflict clause of `update_reader_progress`. -/
def settlePage (update : ProgressUpdate) (clearCompletion : Bool) (now : Moment)
    (row : ReaderState) : ReaderState :=
  let finishes := update.completionCandidate && row.completedAt.isNone
  { row with
    lastPageIndex := some update.pageIndex
    contentRevision := some update.revision
    pageCount := some update.pageCount
    progressUpdatedAt := some now
    lastOpenedAt := some now
    completedAt :=
      if clearCompletion then none else if finishes then some now else row.completedAt
    completionUpdatedAt :=
      if clearCompletion || finishes then some now else row.completionUpdatedAt
    wantToRead := if update.completionCandidate then false else row.wantToRead
    wantToReadUpdatedAt :=
      if update.completionCandidate && row.wantToRead then some now else row.wantToReadUpdatedAt
    stateVersion := row.stateVersion + 1
    updatedAt := now }

/-- `update_reader_progress`. -/
def updateReaderProgress (userId issueId : Nat) (update : ProgressUpdate) (now : Moment)
    (before : Option ReaderState) : Except ReaderStateValidationError ReaderStateTransition := do
  validateUpdate update
  let clearCompletion := clearsCompletion update before
  let completedAt := if update.completionCandidate then some now else none
  let inserted : ReaderState :=
    { userId, issueId
      lastPageIndex := some update.pageIndex
      contentRevision := some update.revision
      pageCount := some update.pageCount
      progressUpdatedAt := some now
      lastOpenedAt := some now
      completedAt
      completionUpdatedAt :=
        if update.completionCandidate || clearCompletion then some now else none
      updatedAt := now }
  let (after, changed) :=
    executeStateCommand inserted (fun row => some (settlePage update clearCompletion now row)) before
  .ok
    { before, after, changed
      events :=
        (if clearCompletion then [completionEvent after now false .reread]
        else eventIf (!update.rereadStarted && after.completionUpdatedAt == some now)
          (completionEvent after now true .automatic)) ++
        eventIf (after.wantToReadUpdatedAt == some now) (wantToReadEvent after now false) }

/-! ### Commands -/

/-- What a reader asks for. -/
inductive ReaderStateCommand where
  | completion (completed : Bool)
  | wantToRead (enabled : Bool)
  | progress (update : ProgressUpdate)
deriving DecidableEq

def applyCommand (userId issueId : Nat) (command : ReaderStateCommand) (now : Moment)
    (before : Option ReaderState) : Except ReaderStateValidationError ReaderStateTransition :=
  match command with
  | .completion completed => .ok (setReaderCompletion userId issueId completed now before)
  | .wantToRead enabled => .ok (setWantToRead userId issueId enabled now before)
  | .progress update => updateReaderProgress userId issueId update now before

/-- A command of a run, with the row before and after it and what it emits. -/
structure Stage where
  before : Option ReaderState
  command : ReaderStateCommand
  now : Moment
  after : Option ReaderState
  events : List ReaderStateEventDescriptor

/-- What a command does to the stored row; a rejected one leaves it and emits nothing. -/
def stage (userId issueId : Nat) (before : Option ReaderState) (now : Moment)
    (command : ReaderStateCommand) : Stage :=
  match applyCommand userId issueId command now before with
  | .ok transition =>
    { before, command, now, after := some transition.after, events := transition.events }
  | .error _ => { before, command, now, after := before, events := [] }

/-- The stages of a run over one user and one issue. -/
def stages (userId issueId : Nat) :
    Option ReaderState → List (Moment × ReaderStateCommand) → List Stage
  | _, [] => []
  | before, (now, command) :: later =>
    let first := stage userId issueId before now command
    first :: stages userId issueId first.after later

end Pullbox.Reader
