import Mathlib.Data.List.Nodup
import Pullbox.Text.Datetime
import Pullbox.Text.Json

/-!
# The sweep over all wanted issues

The durable state of one sweep (`wanted_search_sweep.py`): which issues are still pending, what
became of the others, and how the state is written to and read from its configuration row. The row
holds a JSON value, not its text; all times are in UTC.
-/

namespace Pullbox.Search

open Text

inductive WantedSearchSweepStatus where
  | running | waiting | completed | failed
deriving DecidableEq

def WantedSearchSweepStatus.value : WantedSearchSweepStatus → String
  | .running => "running"
  | .waiting => "waiting"
  | .completed => "completed"
  | .failed => "failed"

def WantedSearchSweepStatus.ofValue (value : String) : Option WantedSearchSweepStatus :=
  [.running, .waiting, .completed, .failed].find? fun status => status.value = value

theorem WantedSearchSweepStatus.ofValue_value (status : WantedSearchSweepStatus) :
    ofValue status.value = some status := by
  cases status <;> rfl

def sweepSchemaVersion : Int := 1

/-- The stored state of a sweep. -/
structure WantedSearchSweepState where
  state : WantedSearchSweepStatus
  triggerType : String
  startedAt : Datetime
  totalTargets : Int
  pendingIssueIds : List Int
  attemptedCount : Int := 0
  searchedCount : Int := 0
  skippedCount : Int := 0
  sentCount : Int := 0
  queuedCount : Int := 0
  failedCount : Int := 0
  batchNumber : Int := 0
  nextBatchAt : Option Datetime := none
  completedAt : Option Datetime := none
  message : String := "Searching wanted issues"
  schemaVersion : Int := sweepSchemaVersion

namespace WantedSearchSweepState

/-- `create_wanted_search_sweep` over the issues that `_load_fair_wanted_issue_ids` returns. -/
def create (triggerType : String) (startedAt : Datetime) (issueIds : List Int) :
    WantedSearchSweepState where
  state := .running
  triggerType := triggerType
  startedAt := startedAt
  totalTargets := issueIds.length
  pendingIssueIds := issueIds

/-! ### The configuration row -/

def timeJson (time : Datetime) : Json :=
  .text (String.ofList time.isoformat)

/-- `value.isoformat() if isinstance(value, datetime) else None`. -/
def optionalTimeJson (time : Option Datetime) : Json :=
  (time.map timeJson).getD .null

/-- The payload of `save_wanted_search_sweep`, with its keys sorted. -/
def payload (sweep : WantedSearchSweepState) : List (String × Json) :=
  [("attempted_count", .integer sweep.attemptedCount),
    ("batch_number", .integer sweep.batchNumber),
    ("completed_at", optionalTimeJson sweep.completedAt),
    ("failed_count", .integer sweep.failedCount),
    ("message", .text sweep.message),
    ("next_batch_at", optionalTimeJson sweep.nextBatchAt),
    ("pending_issue_ids", .array (sweep.pendingIssueIds.map .integer)),
    ("queued_count", .integer sweep.queuedCount),
    ("schema_version", .integer sweep.schemaVersion),
    ("searched_count", .integer sweep.searchedCount),
    ("sent_count", .integer sweep.sentCount),
    ("skipped_count", .integer sweep.skippedCount),
    ("started_at", timeJson sweep.startedAt),
    ("state", .text sweep.state.value),
    ("total_targets", .integer sweep.totalTargets),
    ("trigger_type", .text sweep.triggerType)]

/-- `save_wanted_search_sweep`. -/
def save (sweep : WantedSearchSweepState) : Json :=
  .object sweep.payload

/-- `_parse_datetime`. -/
def parseDatetime (value : Json) : Option Datetime := do
  let text ← value.text?
  Datetime.fromisoformat text.toList

/-- `_parse_optional_datetime`; the outer option is for the errors. -/
def parseOptionalDatetime : Option Json → Option (Option Datetime)
  | none | some .null => some none
  | some value => (parseDatetime value).map some

/-- `max(0, int(payload.get(key, 0)))`. -/
def loadCount (payload : List (String × Json)) (key : String) : Option Int :=
  (((Json.get? payload key).getD (.integer 0)).int?).map (max 0)

/-- `str(payload.get(key) or default)`. -/
def loadText (repr : Json → String) (payload : List (String × Json)) (key default : String) :
    String :=
  match Json.get? payload key with
  | some value => if value.truthy then value.str repr else default
  | none => default

/-- `load_wanted_search_sweep` on the value of the row; every error gives `none`. -/
def load (repr : Json → String) (value : Json) : Option WantedSearchSweepState := do
  let payload ← value.object?
  let state ← WantedSearchSweepStatus.ofValue ((← Json.get? payload "state").str repr)
  let pending ← ((Json.get? payload "pending_issue_ids").getD (.array [])).array?
  return {
    state := state
    triggerType := loadText repr payload "trigger_type" "scheduled"
    startedAt := ← parseDatetime (← Json.get? payload "started_at")
    totalTargets := ← loadCount payload "total_targets"
    pendingIssueIds := ← pending.mapM Json.int?
    attemptedCount := ← loadCount payload "attempted_count"
    searchedCount := ← loadCount payload "searched_count"
    skippedCount := ← loadCount payload "skipped_count"
    sentCount := ← loadCount payload "sent_count"
    queuedCount := ← loadCount payload "queued_count"
    failedCount := ← loadCount payload "failed_count"
    batchNumber := ← loadCount payload "batch_number"
    nextBatchAt := ← parseOptionalDatetime (Json.get? payload "next_batch_at")
    completedAt := ← parseOptionalDatetime (Json.get? payload "completed_at")
    message := loadText repr payload "message" "Searching wanted issues"
    schemaVersion :=
      ← ((Json.get? payload "schema_version").getD (.integer sweepSchemaVersion)).int? }

/-! ### What changes a sweep -/

/-- `mark_wanted_search_batch_running`. -/
def markRunning (sweep : WantedSearchSweepState) : WantedSearchSweepState :=
  { sweep with state := .running, nextBatchAt := none, message := "Searching wanted issues" }

/-- `+ WANTED_SEARCH_BATCH_DELAY`. -/
def afterDelay (time : Datetime) : Except String Datetime :=
  match time.plusHour with
  | some later => .ok later
  | none => .error "date value out of range"

/-- `pause_wanted_search_sweep`; `clock` is `datetime.now(UTC)`. -/
def pause (sweep : WantedSearchSweepState) (clock : Datetime) (now : Option Datetime)
    (message : String) : Except String WantedSearchSweepState :=
  (afterDelay (now.getD clock)).map fun nextBatchAt =>
    { sweep with state := .waiting, nextBatchAt := some nextBatchAt, message := message }

/-- `checkpoint_wanted_search_items`. -/
def checkpoint (sweep : WantedSearchSweepState) (issueIds : List Int)
    (searchedCount sent queued failed : Int) : Except String WantedSearchSweepState :=
  if ¬ issueIds.Nodup ∨ ¬ ∀ issueId ∈ issueIds, issueId ∈ sweep.pendingIssueIds then
    .error "Wanted search checkpoint requires unique pending issue IDs."
  else if searchedCount < 0 ∨ issueIds.length < searchedCount then
    .error "Wanted search checkpoint has an invalid searched count."
  else
    .ok { sweep with
      pendingIssueIds := sweep.pendingIssueIds.filter fun issueId => issueId ∉ issueIds
      attemptedCount := sweep.attemptedCount + issueIds.length
      searchedCount := sweep.searchedCount + searchedCount
      skippedCount := sweep.skippedCount + issueIds.length - searchedCount
      sentCount := sweep.sentCount + max 0 sent
      queuedCount := sweep.queuedCount + max 0 queued
      failedCount := sweep.failedCount + max 0 failed }

/-- `complete_wanted_search_batch`. -/
def complete (sweep : WantedSearchSweepState) (clock : Datetime) (now : Option Datetime)
    (issueIds : List Int) (searchedCount sent queued failed : Int) :
    Except String WantedSearchSweepState :=
  if issueIds ≠ sweep.pendingIssueIds.take issueIds.length then
    .error "Wanted search batch must consume the pending sweep prefix."
  else
    let completedAt := now.getD clock
    let pending := sweep.pendingIssueIds.drop issueIds.length
    let advanced := { sweep with
      pendingIssueIds := pending
      attemptedCount := sweep.attemptedCount + issueIds.length
      searchedCount := sweep.searchedCount + searchedCount
      skippedCount := sweep.skippedCount + max 0 (issueIds.length - searchedCount)
      sentCount := sweep.sentCount + sent
      queuedCount := sweep.queuedCount + queued
      failedCount := sweep.failedCount + failed
      batchNumber := sweep.batchNumber + 1 }
    if pending = [] then
      .ok { advanced with
        state := .completed
        nextBatchAt := none
        completedAt := some completedAt
        message := "Completed" }
    else
      (afterDelay completedAt).map fun nextBatchAt => { advanced with
        state := .waiting
        nextBatchAt := some nextBatchAt
        completedAt := none
        message := "Paused between batches" }

end WantedSearchSweepState

/-- One call of the functions that change a sweep. -/
inductive SweepCall where
  | checkpoint (issueIds : List Int) (searchedCount sent queued failed : Int)
  | complete (clock : Datetime) (now : Option Datetime) (issueIds : List Int)
      (searchedCount sent queued failed : Int)
  | pause (clock : Datetime) (now : Option Datetime) (message : String)
  | markRunning

namespace SweepCall

open WantedSearchSweepState

def apply (sweep : WantedSearchSweepState) : SweepCall → Except String WantedSearchSweepState
  | .checkpoint issueIds searchedCount sent queued failed =>
    sweep.checkpoint issueIds searchedCount sent queued failed
  | .complete clock now issueIds searchedCount sent queued failed =>
    sweep.complete clock now issueIds searchedCount sent queued failed
  | .pause clock now message => sweep.pause clock now message
  | .markRunning => .ok sweep.markRunning

/-- The issues the call names. -/
def issueIds : SweepCall → List Int
  | .checkpoint issueIds .. | .complete _ _ issueIds .. => issueIds
  | .pause .. | .markRunning => []

end SweepCall

/-- A sweep and the issues that calls have consumed, in order. -/
structure SweepRun where
  sweep : WantedSearchSweepState
  consumed : List Int

/-- A call that raises leaves the sweep as it was. -/
def SweepRun.next (run : SweepRun) (call : SweepCall) : SweepRun :=
  match call.apply run.sweep with
  | .ok sweep => ⟨sweep, run.consumed ++ call.issueIds⟩
  | .error _ => run

/-- The calls one after the other on a fresh sweep. -/
def sweepRun (triggerType : String) (startedAt : Datetime) (issueIds : List Int)
    (calls : List SweepCall) : SweepRun :=
  calls.foldl SweepRun.next ⟨.create triggerType startedAt issueIds, []⟩

end Pullbox.Search
