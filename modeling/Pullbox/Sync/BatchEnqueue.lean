import Pullbox.Arc.Placement
import Pullbox.Sql.Least
import Pullbox.Sync.Generation
import Pullbox.Sync.Work

/-!
# Work of an import, enqueued in batches

`enqueue_import_story_arc_sync_work_batch`: an import asks for placements, of which several may be
the same one; what is new is recorded in the journal of the import and queued once.
-/

namespace Pullbox.Sync

open Arc Arc.Placement Import

/-! ## Rows -/

/-- `ImportStoryArcSyncProposal`. -/
structure ImportProposal extends SyncPair where
  importedStoryArcId : Nat
  importedStoryArcEntryId : Nat

/-- The fields of an import job that decide whether it publishes placements. -/
structure PublishingJob where
  id : Nat
  status : ImportJobStatus
  controlRequest : ImportControlRequest
  /-- `progress_snapshot["phase"]`. -/
  phase : Option String

inductive ImportJobActionStatus where
  | completed | rolledBack | rollbackFailed
deriving DecidableEq

/-- `ImportJobActionSpec`. -/
structure ImportJobActionSpec where
  phase : String
  actionType : String
  payload : List (String × JsonValue)
deriving DecidableEq

/-- An action of an import. -/
structure ImportJobAction extends ImportJobActionSpec where
  id : Nat
  importJobId : Nat
  sequenceNo : Nat
  status : ImportJobActionStatus
deriving DecidableEq

/-- A row of the outbox, as far as enqueueing reads and writes it. -/
structure ImportWork extends GenerationRow String where
  id : Nat
  sourceSignatureHash : String
  origin : Origin
  reason : StoryArcSyncReason
  claimable : Bool
  state : StoryArcSyncWorkState
  attemptCount : Nat
deriving DecidableEq

inductive StoryArcPlacementState where
  | current | missing | drifted | failed
deriving DecidableEq

/-- The columns of a placement that enqueueing reads. -/
structure PlacementRow where
  id : Nat
  issueStoryArcId : Nat
  libraryFileId : Option Nat
  mode : StoryArcPlacementMode
  ownership : StoryArcPlacementOwnership
  sourceKind : StoryArcSourceKind
  sourceImportJobId : Option Nat
  creatingActionId : Option Nat
  renderedReadingOrder : Option Int
  policySchemaVersion : Option Int
  operationToken : Option String
  state : StoryArcPlacementState
  /-- `last_result["status"]`. -/
  resultStatus : Option JsonValue

/-- A staged entry joined with its staged arc. -/
structure StagedBinding where
  importedStoryArcId : Nat
  materializedMembershipId : Option Nat
  importJobId : Nat
  materializedStoryArcId : Option Nat
deriving DecidableEq

abbrev ImportWorks := Sql.Table ImportWork ImportWork.id

abbrev ImportActions := Sql.Table ImportJobAction ImportJobAction.id

/-- The tables that enqueueing reads and writes. -/
structure EnqueueTables where
  works : ImportWorks
  actions : ImportActions
  placements : Sql.Table PlacementRow PlacementRow.id
  /-- The staged entries by their ids. -/
  staged : Nat → Option StagedBinding

/-! ## Failures and results -/

/-- `StoryArcPlacementIntegrationError`. -/
structure IntegrationError where
  code : String
  detail : String
  category : String

/-- What enqueueing raises. -/
inductive EnqueueFailure where
  | value (text : String)
  | integration (error : IntegrationError)
  | runtime (text : String)

namespace EnqueueFailure

def existingOriginInvalid : EnqueueFailure :=
  .integration {
    code := "import_sync_existing_origin_invalid"
    detail := "Existing import placement work has an invalid origin binding"
    category := "ownership" }

def existingWorkUnusable : EnqueueFailure :=
  .integration {
    code := "import_sync_existing_work_unusable"
    detail := "Existing import placement work is terminal without completed placement evidence"
    category := "conflict" }

def completedPlacementInvalid : EnqueueFailure :=
  .integration {
    code := "import_sync_completed_placement_invalid"
    detail := "Completed import placement work lacks one exact owned placement"
    category := "ownership" }

def nonOriginPlacementUnverified : EnqueueFailure :=
  .integration {
    code := "import_sync_non_origin_placement_unverified"
    detail := "Existing non-import work lacks one exact current placement"
    category := "conflict" }

def tooMany : EnqueueFailure :=
  .value "Import Story Arc placement enqueue accepts at most 200 proposals"

end EnqueueFailure

/-- What becomes of a proposal. -/
inductive EnqueueClassification where
  | created
  | existingImportWorkPending
  | existingImportWorkCompleted
  | existingImportMembershipDuplicate
  | existingNonOriginPlacement
  | existingManagedPlacement
  | existingReferencedPlacement
  | inCallDuplicate
  | inCallMembershipDuplicate
deriving DecidableEq

/-- `StoryArcImportSyncEnqueueResult`. -/
structure EnqueueResult where
  work : Option ImportWork
  action : Option ImportJobAction
  classification : EnqueueClassification
  desiredGeneration : String
deriving DecidableEq

/-! ## Proposals -/

/-- `_stable_hash` of the two kinds of values that it hashes here. -/
structure StableHash where
  source : SourceVersion → String
  generation : GenerationContent String → String

/-- `_PreparedImportStoryArcSyncProposal`. -/
structure PreparedProposal where
  proposal : ImportProposal
  desiredGeneration : String
  sourceSignatureHash : String

namespace PreparedProposal

def key (prepared : PreparedProposal) : Nat × String :=
  (prepared.proposal.membership.id, prepared.desiredGeneration)

def origin (prepared : PreparedProposal) : Nat × Nat :=
  (prepared.proposal.importedStoryArcId, prepared.proposal.importedStoryArcEntryId)

def entryId (prepared : PreparedProposal) : Nat :=
  prepared.proposal.importedStoryArcEntryId

end PreparedProposal

/-- The membership and the generation of a row. -/
def ImportWork.key (work : ImportWork) : Nat × String :=
  (work.issueStoryArcId, work.desiredGeneration)

/-- A proposal with its `_desired_generation`. -/
def StableHash.prepare (hash : StableHash) (proposal : ImportProposal) : PreparedProposal :=
  let sourceHash := hash.source proposal.libraryFile.toSourceVersion
  { proposal := proposal
    desiredGeneration := hash.generation {
      libraryFileId := proposal.libraryFile.id
      sourceSignatureHash := sourceHash
      issueStoryArcId := proposal.membership.id
      sequenceNumber := proposal.membership.sequenceNumber
      storyArcRevision := proposal.storyArc.revision
      policySchemaVersion := proposal.storyArc.policySchemaVersion }
    sourceSignatureHash := sourceHash }

/-- `MAX_IMPORT_STORY_ARC_SYNC_ENQUEUE_BATCH_SIZE`. -/
def maxEnqueueBatchSize : Nat :=
  200

/-- `_IMPORT_PLACEMENT_PHASE`. -/
def importPlacementPhase : String :=
  "story_arc_placements"

/-- `_IMPORT_ENQUEUE_PHASES`. -/
def importEnqueuePhases : List String :=
  ["story_arcs", importPlacementPhase]

/-- `_IMPORT_PLACEMENT_ACTION_TYPE`. -/
def importPlacementActionType : String :=
  "story_arc_managed_placement_requested"

/-- `_IMPORT_PLACEMENT_PAYLOAD_KEYS`. -/
def importPlacementPayloadKeys : List String :=
  ["schema_version", "sync_work_id", "membership_id", "desired_generation",
    "imported_story_arc_id", "imported_story_arc_entry_id", "source_import_job_id"]

/-- The keys of a JSON object are these. -/
def hasKeys (keys : List String) (entries : List (String × JsonValue)) : Bool :=
  (entries.all fun entry => keys.contains entry.1) &&
    keys.all fun key => (entries.lookup key).isSome

/-- `_import_managed_policy_configured`. -/
def SyncStoryArc.importManagedPolicyConfigured (storyArc : SyncStoryArc) : Bool :=
  let snapshot := storyArc.policySnapshot
  let mode := snapshot.lookup "mode"
  let symlinkStyle := snapshot.lookup "symlink_style"
  decide (storyArc.lifecycle = .active) &&
    decide (storyArc.policySchemaVersion = some placementPolicySchemaVersion) &&
    hasKeys policyKeys snapshot &&
    (snapshot.lookup "schema_version").any JsonValue.equalsOne &&
    decide (mode ∈ [some (.text "copy"), some (.text "hardlink"), some (.text "symlink")]) &&
    (match snapshot.lookup "destination_root" with
      | some (.text root) => !(Text.strip root.toList).isEmpty
      | _ => false) &&
    (match snapshot.lookup "target_library_root_id" with
      | some (.integer _) => true
      | _ => false) &&
    (match snapshot.lookup "synchronize" with
      | some (.boolean _) => true
      | _ => false) &&
    if mode = some (.text "symlink") then
      decide (symlinkStyle ∈ [some (.text "absolute"), some (.text "relative")])
    else decide (symlinkStyle = none ∨ symlinkStyle = some .null)

/-- `_validate_import_story_arc_sync_proposal`, which raises. -/
def validProposal (job : PublishingJob) (proposal : ImportProposal) : Bool :=
  let libraryFile := proposal.libraryFile
  let membership := proposal.membership
  let storyArc := proposal.storyArc
  decide (0 < job.id) && decide (0 < libraryFile.id) && decide (0 < membership.id) &&
    decide (0 < storyArc.id) && decide (0 < proposal.importedStoryArcId) &&
    decide (0 < proposal.importedStoryArcEntryId) &&
    decide (membership.storyArcId = storyArc.id) && membership.issueId.isSome &&
    decide (membership.issueId = libraryFile.issueId) &&
    decide (membership.resolutionState = .resolved) && storyArc.importManagedPolicyConfigured

/-- The job imports, is not asked to stop, and publishes placements. -/
def PublishingJob.active (job : PublishingJob) : Bool :=
  decide (job.status = .importing) && decide (job.controlRequest = .none) &&
    job.phase.any importEnqueuePhases.contains

/-- `policy_schema_version or STORY_ARC_PLACEMENT_POLICY_SCHEMA_VERSION`. -/
def SyncStoryArc.placementPolicyVersion (storyArc : SyncStoryArc) : Int :=
  match storyArc.policySchemaVersion with
  | some version => if version = 0 then placementPolicySchemaVersion else version
  | none => placementPolicySchemaVersion

/-! ## Existing work -/

/-- A key of a payload names a row. -/
def names (payload : List (String × JsonValue)) (entry : String) (id : Option Nat) : Bool :=
  id.any fun number => 0 < number && payload.lookup entry = some (.integer number)

/-- `_origin_payload_matches`. -/
def originPayloadMatches (action : ImportJobAction) (work : ImportWork)
    (jobId membershipId : Nat) : Bool :=
  let payload := action.payload
  decide (work.origin.importJobId = some jobId) && hasKeys importPlacementPayloadKeys payload &&
    decide (payload.lookup "schema_version" = some (.integer 1)) &&
    names payload "sync_work_id" (some work.id) &&
    names payload "membership_id" (some membershipId) &&
    decide (payload.lookup "desired_generation" = some (.text work.desiredGeneration)) &&
    names payload "imported_story_arc_id" work.origin.importedStoryArcId &&
    names payload "imported_story_arc_entry_id" work.origin.importedStoryArcEntryId &&
    names payload "source_import_job_id" work.origin.importJobId

/-- `_work_matches_prepared_generation`. -/
def workMatchesPreparedGeneration (work : ImportWork) (prepared : PreparedProposal) : Bool :=
  let proposal := prepared.proposal
  decide (work.issueStoryArcId = proposal.membership.id) &&
    decide (work.libraryFileId = proposal.libraryFile.id) &&
    decide (work.desiredGeneration = prepared.desiredGeneration) &&
    decide (work.sourceSignatureHash = prepared.sourceSignatureHash) &&
    decide (work.storyArcRevision = proposal.storyArc.revision) &&
    decide (work.membershipSequence = proposal.membership.sequenceNumber) &&
    decide (work.policySchemaVersion = proposal.storyArc.placementPolicyVersion)

/-- The modes that place a file. -/
def managedModes : List StoryArcPlacementMode :=
  [.copy, .hardlink, .symlink]

/-- `_placement_matches_work_generation`. -/
def placementMatchesWorkGeneration (placement : PlacementRow) (work : ImportWork) : Bool :=
  decide (placement.issueStoryArcId = work.issueStoryArcId) &&
    decide (placement.libraryFileId = some work.libraryFileId) &&
    decide (placement.renderedReadingOrder = some work.membershipSequence) &&
    decide (placement.policySchemaVersion = some work.policySchemaVersion) &&
    decide (placement.state = .current) && decide (placement.operationToken = none) &&
    (decide (placement.mode = .referenceOnly ∧ placement.ownership = .referenced) ||
      decide (placement.mode ∈ managedModes ∧ placement.ownership = .managed))

/-- `_completed_origin_placement_matches`. -/
def completedOriginPlacementMatches (placement : PlacementRow) (work : ImportWork) : Bool :=
  placementMatchesWorkGeneration placement work && decide (placement.ownership = .managed) &&
    decide (placement.mode ∈ managedModes) && decide (placement.sourceKind = .pullbox) &&
    decide (placement.resultStatus = some (.text "complete"))

/-- The binding of the origin of a work row is that of the proposal. -/
def originBindingMatches (binding : Option StagedBinding) (work : ImportWork)
    (proposal : ImportProposal) (jobId : Nat) : Bool :=
  binding.any fun binding =>
    decide (some binding.importedStoryArcId = work.origin.importedStoryArcId) &&
      decide (binding.materializedMembershipId = some work.issueStoryArcId) &&
      decide (binding.importJobId = jobId) &&
      decide (binding.materializedStoryArcId = some proposal.storyArc.id)

/-- The action of a work row is the one that the import recorded for it. -/
def originActionMatches (action : ImportJobAction) (work : ImportWork)
    (proposal : ImportProposal) (jobId : Nat) : Bool :=
  decide (some action.id = work.origin.importActionId) && decide (action.importJobId = jobId) &&
    decide (action.phase = importPlacementPhase) &&
    decide (action.actionType = importPlacementActionType) &&
    decide (action.status = .completed) && decide (work.origin.importJobId = some jobId) &&
    originPayloadMatches action work jobId proposal.membership.id

/-- `_classify_existing_import_work`, which raises. -/
def classifyExistingImportWork (jobId : Nat) (prepared : PreparedProposal) (work : ImportWork)
    (action : Option ImportJobAction) (originBinding : Option StagedBinding)
    (pairPlacements actionPlacements : List PlacementRow) :
    Except EnqueueFailure EnqueueResult :=
  let proposal := prepared.proposal
  let result (action : Option ImportJobAction) (classification : EnqueueClassification) :
      Except EnqueueFailure EnqueueResult :=
    .ok {
      work := some work
      action := action
      classification := classification
      desiredGeneration := prepared.desiredGeneration }
  if !workMatchesPreparedGeneration work prepared then
    if work.origin.importActionId.isSome then .error .existingOriginInvalid
    else .error .nonOriginPlacementUnverified
  else if work.origin.importActionId = none then
    if work.origin.importJobId.isSome || work.origin.importedStoryArcId.isSome ||
        work.origin.importedStoryArcEntryId.isSome then
      .error .existingOriginInvalid
    else if (pairPlacements.filter (placementMatchesWorkGeneration · work)).length ≠ 1 then
      .error .nonOriginPlacementUnverified
    else result none .existingNonOriginPlacement
  else
    match action with
    | none => .error .existingOriginInvalid
    | some owned =>
      if !(originActionMatches owned work proposal jobId &&
          originBindingMatches originBinding work proposal jobId) then
        .error .existingOriginInvalid
      else
        let sameArc := decide (work.origin.importedStoryArcId = some proposal.importedStoryArcId)
        let sameStagedOrigin := sameArc &&
          decide (work.origin.importedStoryArcEntryId = some proposal.importedStoryArcEntryId)
        if !sameStagedOrigin && !sameArc then .error .existingOriginInvalid
        else
          match work.state with
          | .queued | .running | .retryWait =>
            result action
              (if sameStagedOrigin then .existingImportWorkPending
              else .existingImportMembershipDuplicate)
          | .completed =>
            match actionPlacements with
            | [placement] =>
              if placement.sourceImportJobId = some jobId ∧
                  placement.creatingActionId = some owned.id ∧
                  completedOriginPlacementMatches placement work = true then
                result action
                  (if sameStagedOrigin then .existingImportWorkCompleted
                  else .existingImportMembershipDuplicate)
              else .error .completedPlacementInvalid
            | _ => .error .completedPlacementInvalid
          | .failed | .cancelled => .error .existingWorkUnusable

namespace EnqueueTables

/-- What the batch has read for a work row when it classifies it. -/
def classify (tables : EnqueueTables) (jobId : Nat) (prepared : PreparedProposal)
    (work : ImportWork) : Except EnqueueFailure EnqueueResult :=
  classifyExistingImportWork jobId prepared work
    (work.origin.importActionId.bind tables.actions.find)
    (work.origin.importedStoryArcEntryId.bind tables.staged)
    (tables.placements.rows.filter fun placement =>
      placement.issueStoryArcId = work.issueStoryArcId &&
        placement.libraryFileId = some work.libraryFileId)
    (tables.placements.rows.filter fun placement =>
      placement.creatingActionId.isSome && placement.creatingActionId = work.origin.importActionId)

/-- The placement of a membership with the lowest id. -/
def firstPlacement (tables : EnqueueTables) (membershipId : Nat) : Option PlacementRow :=
  let placed := tables.placements.rows.filter (·.issueStoryArcId = membershipId)
  (placed.map PlacementRow.id).min?.bind tables.placements.find

end EnqueueTables

/-! ## The batch -/

/-- The staged entry of a proposal belongs to its membership. -/
def bound (job : PublishingJob) (tables : EnqueueTables) (proposal : ImportProposal) : Bool :=
  tables.staged proposal.importedStoryArcEntryId = some {
    importedStoryArcId := proposal.importedStoryArcId
    materializedMembershipId := some proposal.membership.id
    importJobId := job.id
    materializedStoryArcId := some proposal.storyArc.id }

/-- What a batch does about one of its proposals. -/
inductive Slot where
  | duplicate
  | settled (result : EnqueueResult)
  | create
deriving DecidableEq

/-- What a batch does about the lowest entry of a key. -/
def settle (tables : EnqueueTables) (existing : List ((Nat × String) × EnqueueResult))
    (item : PreparedProposal) : Slot :=
  match existing.lookup item.key with
  | some result => .settled result
  | none =>
    match tables.firstPlacement item.key.1 with
    | some placement =>
      .settled {
        work := none
        action := none
        classification :=
          if placement.ownership = .managed then .existingManagedPlacement
          else .existingReferencedPlacement
        desiredGeneration := item.desiredGeneration }
    | none => .create

/-- `_provisional_import_story_arc_action_payload`. -/
def provisionalPayload (jobId : Nat) (prepared : PreparedProposal) : List (String × JsonValue) :=
  let proposal := prepared.proposal
  [("schema_version", .integer 1),
    ("sync_work_id", .null),
    ("membership_id", .integer proposal.membership.id),
    ("desired_generation", .text prepared.desiredGeneration),
    ("imported_story_arc_id", .integer proposal.importedStoryArcId),
    ("imported_story_arc_entry_id", .integer proposal.importedStoryArcEntryId),
    ("source_import_job_id", .integer jobId)]

/-- The payload of an action once its work has an id. -/
def ImportJobAction.publish (action : ImportJobAction) (jobId : Nat)
    (prepared : PreparedProposal) (workId : Nat) : ImportJobAction :=
  { action with payload := (provisionalPayload jobId prepared).map fun entry =>
      if entry.1 = "sync_work_id" then (entry.1, .integer workId) else entry }

/-- The callback that records actions in the journal of an import: it appends one row for each
specification. -/
structure ActionRecorder where
  record : Nat → List ImportJobActionSpec → ImportActions → List ImportJobAction × ImportActions
  appended : ∀ jobId specs actions, (record jobId specs actions).2.rows =
    actions.rows ++ (record jobId specs actions).1
  exact : ∀ jobId specs actions,
    ((record jobId specs actions).1.map ImportJobAction.toImportJobActionSpec) = specs
  owned : ∀ jobId specs actions, ∀ action ∈ (record jobId specs actions).1,
    0 < action.id ∧ action.importJobId = jobId

end Pullbox.Sync
