import Mathlib.Data.List.Sort
import Pullbox.Airdcpp.Acquisition

/-!
# Reconciliation with the queue of a client

One pass of `AirDcppReconciler._reconcile_client`: the active acquisitions are read, the queue is
asked about those without a bundle, and what is found is written to the acquisitions as they are by
then. The removal of stale bundles from the client comes after the pass and is left out.
-/

namespace Pullbox.Airdcpp

open Text

def pageSize : Nat := 100

def maxPages : Nat := 10

def maxPreIdLookups : Nat := 10

/-- `_PROGRESS_WRITE_INTERVAL`, 5 seconds. -/
def progressWriteInterval : Timestamp := 5000000

/-- `_ActiveSnapshot`. -/
structure ActiveSnapshot where
  acquisitionId : Nat
  clientIdentity : String
  bundleId : Option Nat
  clientState : Option String
  tth : String
  sizeBytes : Nat
  targetName : String
  searchInstanceId : Option Nat
  groupedResultId : Option String
  resultExpiresAt : Option Timestamp
  retryCount : Nat
  maxRetries : Nat
  nextRetryAt : Option Timestamp
  queuePriority : Option Int
deriving DecidableEq

/-- `_queue_priority`. -/
def queuePriority (routeSnapshot : List (String × Json)) : Option Int :=
  match Json.get? routeSnapshot "queue_priority" with
  | some (.integer value) => some value
  | _ => none

def ActiveSnapshot.ofRow (row : AirDcppAcquisition) : ActiveSnapshot where
  acquisitionId := row.id
  clientIdentity := row.clientIdentity
  bundleId := row.bundleId
  clientState := row.clientState
  tth := row.tth
  sizeBytes := row.sizeBytes
  targetName := row.originalName
  searchInstanceId := row.searchInstanceId
  groupedResultId := row.groupedResultId
  resultExpiresAt := row.resultExpiresAt
  retryCount := row.retryCount
  maxRetries := row.maxRetries
  nextRetryAt := row.nextRetryAt
  queuePriority := Airdcpp.queuePriority row.routeSnapshot

/-! ### The acquisitions of a pass -/

/-- The rows of `active_query`. -/
def activeRows (table : AcquisitionTable) (clientConfigId : Nat) : List AirDcppAcquisition :=
  (table.rows.filter fun row =>
    row.clientConfigId = some clientConfigId ∧ row.download.importedAt = none ∧
      row.download.state.terminal = false).insertionSort (fun first second => first.id ≤ second.id)

/-- At most a page of active rows, from behind the cursor on and then from the start. -/
def pageRows (table : AcquisitionTable) (clientConfigId cursor : Nat) : List AirDcppAcquisition :=
  let active := activeRows table clientConfigId
  let rows := (active.filter fun row => cursor < row.id).take pageSize
  if 0 < cursor ∧ rows.length < pageSize then
    rows ++ (active.filter fun row => row.id ≤ cursor).take (pageSize - rows.length)
  else rows

def snapshots (table : AcquisitionTable) (clientConfigId cursor : Nat) : List ActiveSnapshot :=
  (pageRows table clientConfigId cursor).map .ofRow

/-! ### What the queue says about acquisitions without a bundle -/

/-- `_RecoveredMutation`. -/
structure RecoveredMutation where
  bundleId : Nat
  clientState : String
  createdBundle : Bool

/-- What was learnt about an acquisition: the source's `adopted`, `recovered` and
`retry_failures`. -/
inductive Resolution where
  | adopted (file : AirDcppQueueFile)
  | recovered (mutation : RecoveredMutation)
  | retryFailure (code : String)

/-- `_pre_id_retry_due`. -/
def preIdRetryDue (snapshot : ActiveSnapshot) (now : Timestamp) : Bool :=
  if snapshot.clientState = some "reconcile_pending" then
    snapshot.nextRetryAt.all (· ≤ now)
  else if snapshot.clientState = some "mutation_pending" then
    snapshot.nextRetryAt.any (· ≤ now)
  else false

/-- `_retry_pre_id_mutation`. -/
def retryPreIdMutation (answers : QueueAnswers) (snapshot : ActiveSnapshot) (now : Timestamp) :
    Except AirDcppError RecoveredMutation :=
  let create : Except AirDcppError RecoveredMutation :=
    (answers.createFileBundle snapshot.acquisitionId).map fun added =>
      ⟨added.id, "source_search_pending", !added.merged⟩
  let routeIsLive := snapshot.searchInstanceId.isSome ∧ snapshot.groupedResultId.isSome ∧
    snapshot.resultExpiresAt.any (now < ·)
  if routeIsLive then
    match answers.downloadSearchResult snapshot.acquisitionId with
    | .ok added => .ok ⟨added.id, "queued", !added.merged⟩
    | .error .entityNotFound => create
    | .error error => .error error
  else create

/-- The files of the queue that are exactly the one asked for. -/
def exactFiles (snapshot : ActiveSnapshot) (files : List AirDcppQueueFile) :
    List AirDcppQueueFile :=
  files.filter fun item =>
    item.size = snapshot.sizeBytes ∧
      Files.PurePath.finalName (item.target.toList.map fun char =>
        if char = '\\' then '/' else char) = snapshot.targetName.toList

/-- One round of the loop over `pre_id`. -/
def resolve (answers : QueueAnswers) (now : Timestamp) (snapshot : ActiveSnapshot) :
    Option Resolution :=
  match answers.filesByTth snapshot.acquisitionId with
  | .error _ => none
  | .ok files =>
    match exactFiles snapshot files with
    | file :: others =>
      if others.all fun item => item.bundleId = file.bundleId then some (.adopted file)
      else retry
    | [] => retry
where
  retry : Option Resolution :=
    if preIdRetryDue snapshot now then
      match retryPreIdMutation answers snapshot now with
      | .ok mutation => some (.recovered mutation)
      | .error error => some (.retryFailure error.code)
    else none

/-- The snapshots that the queue is asked about. -/
def preId (page : List ActiveSnapshot) : List ActiveSnapshot :=
  (page.filter fun snapshot => snapshot.bundleId = none).take maxPreIdLookups

/-- What was learnt about the acquisition of a snapshot. -/
def resolution (answers : QueueAnswers) (now : Timestamp) (page : List ActiveSnapshot)
    (snapshot : ActiveSnapshot) : Option Resolution :=
  if snapshot ∈ preId page then resolve answers now snapshot else none

/-- The pages of the queue up to the first short one, and whether there is such a one. -/
def readQueue (queueBundles : Nat → List AirDcppQueueBundle) :
    Nat → Nat → List AirDcppQueueBundle × Nat × Bool
  | 0, index => ([], index, false)
  | pages + 1, index =>
    let page := queueBundles index
    if page.length < pageSize then (page, index + 1, true)
    else
      let (later, count, complete) := readQueue queueBundles pages (index + 1)
      (page ++ later, count, complete)

/-- `bundles[id]`: the last one read under the identifier. -/
def findBundle (bundles : List AirDcppQueueBundle) (id : Nat) : Option AirDcppQueueBundle :=
  bundles.reverse.find? fun bundle => bundle.id = id

/-! ### Writing what was found -/

def externalId (acquisition : AirDcppAcquisition) (bundleId : Nat) : String :=
  "airdcpp:" ++ (acquisition.clientConfigId.map toString).getD "None" ++ ":bundle:" ++
    toString bundleId

/-- `_apply_recovered_mutation`. -/
def applyRecoveredMutation (acquisition : AirDcppAcquisition) (recovered : RecoveredMutation)
    (at_ : Timestamp) : AirDcppAcquisition :=
  { acquisition with
    bundleId := some recovered.bundleId
    clientState := some recovered.clientState
    remoteTarget := none
    retryCount := 0
    nextRetryAt := if recovered.clientState = "source_search_pending" then some at_ else none
    lastReconciledAt := some at_
    reconciliationError := none
    download := { acquisition.download with
      externalId := some (externalId acquisition recovered.bundleId)
      state := .sent
      retryCount := 0
      nextRetryAt := none
      errorMessage := none
      completedAt := none } }

/-- `_apply_existing_bundle_owner`. -/
def applyExistingBundleOwner (acquisition : AirDcppAcquisition) (ownerAcquisitionId : Nat)
    (at_ : Timestamp) : AirDcppAcquisition :=
  { acquisition with
    routeSnapshot := Json.setEntry acquisition.routeSnapshot
      "existing_bundle_owner_acquisition_id" (.integer ownerAcquisitionId)
    clientState := some "duplicate"
    nextRetryAt := none
    lastReconciledAt := some at_
    reconciliationError := some "queue_bundle_already_owned"
    download := { acquisition.download with
      state := .failed
      nextRetryAt := none
      completedAt := some at_
      errorMessage :=
        some "AirDC++ merged this request into an existing Pullbox download." } }

/-- `_apply_pre_id_retry_failure`. -/
def applyPreIdRetryFailure (acquisition : AirDcppAcquisition) (errorCode : String)
    (at_ : Timestamp) : AirDcppAcquisition :=
  let retryCount := min (acquisition.retryCount + 1) acquisition.maxRetries
  let counted := { acquisition with
    retryCount := retryCount
    lastReconciledAt := some at_
    routeSnapshot := Json.setEntry acquisition.routeSnapshot "last_queue_mutation_error"
      (.text errorCode) }
  if acquisition.maxRetries ≤ retryCount then
    { counted with
      clientState := some "missing"
      nextRetryAt := none
      reconciliationError := some "queue_mutation_failed"
      download := { acquisition.download with
        retryCount := retryCount
        state := .failed
        nextRetryAt := none
        completedAt := some at_
        errorMessage :=
          some "AirDC++ could not create the queue item after bounded recovery attempts." } }
  else
    { counted with
      clientState := some "reconcile_pending"
      nextRetryAt := some (at_ + 30000000)
      reconciliationError := some errorCode
      download := { acquisition.download with
        retryCount := retryCount
        state := .retryPending
        nextRetryAt := some (at_ + 30000000)
        errorMessage := some "Waiting to retry the AirDC++ queue request." } }

/-- `_download_state`. -/
def downloadState (bundle : AirDcppQueueBundle) : DownloadState :=
  if bundle.completed ∨ bundle.statusId ∈ ["completed", "shared"] then .completed
  else if bundle.failed ∨
      bundle.statusId ∈ ["download_error", "completion_validation_error"] then .failed
  else if bundle.downloaded ∨
      bundle.statusId ∈ ["downloaded", "completion_validation_running", "recheck"] then .finalizing
  else if bundle.priorityId = -1 then .paused
  else if 0 < bundle.downloadedBytes then .downloading
  else .sent

/-- `_failure_summary`. -/
def failureSummary (bundle : AirDcppQueueBundle) : String :=
  if bundle.statusId = "completion_validation_error" then "AirDC++ completion validation failed."
  else "AirDC++ reported a fatal download error."

/-- The entry `queue` of a route snapshot. -/
def queueSnapshot (bundle : AirDcppQueueBundle) : Json :=
  .object [("version", .integer 1), ("downloaded_bytes", .integer bundle.downloadedBytes),
    ("size_bytes", .integer bundle.size), ("speed_bytes", .integer bundle.speed),
    ("eta_seconds", .integer bundle.secondsLeft), ("status_id", .text bundle.statusId),
    ("sources_online", .integer bundle.sourcesOnline),
    ("sources_total", .integer bundle.sourcesTotal)]

/-- The download can still follow the queue. -/
def DownloadHistory.follows (download : DownloadHistory) : Bool :=
  download.importedAt.isNone && !download.state.terminal

/-- `apply_airdcpp_bundle`: what is written, and whether anything was. -/
def applyAirdcppBundle (acquisition : AirDcppAcquisition) (bundle : AirDcppQueueBundle)
    (at_ : Timestamp) : AirDcppAcquisition × Bool :=
  let download := acquisition.download
  let nextState := if download.follows then downloadState bundle else download.state
  let nextError :=
    if download.follows then
      if nextState = .failed then some (failureSummary bundle) else none
    else download.errorMessage
  let observationChanged := download.state ≠ nextState ∨
    acquisition.clientState ≠ some bundle.statusId ∨
    acquisition.remoteTarget ≠ some bundle.target ∨ download.errorMessage ≠ nextError
  let progressDue := acquisition.lastReconciledAt.all fun last => progressWriteInterval ≤ at_ - last
  if ¬ observationChanged ∧ ¬ progressDue then (acquisition, false)
  else
    let sized := { download with fileSize := some bundle.size }
    ({ acquisition with
      clientState := some bundle.statusId
      remoteTarget := some bundle.target
      routeSnapshot := Json.setEntry acquisition.routeSnapshot "queue" (queueSnapshot bundle)
      lastReconciledAt := some at_
      reconciliationError := none
      download :=
        if download.follows then
          { sized with
            state := nextState
            completedAt :=
              if nextState = .completed then some (download.completedAt.getD at_)
              else download.completedAt
            downloadedPath :=
              if nextState = .completed then some bundle.target else download.downloadedPath
            errorMessage := nextError }
        else sized }, true)

/-- `_apply_missing_bundle`. -/
def applyMissingBundle (acquisition : AirDcppAcquisition) (at_ : Timestamp) :
    AirDcppAcquisition × Bool :=
  let seen := { acquisition with lastReconciledAt := some at_ }
  if acquisition.download.importedAt ≠ none ∨ acquisition.download.state = .imported ∨
      acquisition.download.state = .failed then (seen, false)
  else
    ({ seen with
      clientState := some "missing"
      reconciliationError := some "external_bundle_missing"
      download := { acquisition.download with
        state := .failed
        completedAt := some at_
        errorMessage := some "The AirDC++ queue item was removed outside Pullbox." } }, true)

/-- `_apply_adopted_file`. -/
def applyAdoptedFile (acquisition : AirDcppAcquisition) (queueFile : AirDcppQueueFile)
    (at_ : Timestamp) : AirDcppAcquisition :=
  { acquisition with
    bundleId := some queueFile.bundleId
    clientState := some queueFile.statusId
    remoteTarget := some queueFile.target
    lastReconciledAt := some at_
    reconciliationError := none
    download :=
      let named := { acquisition.download with
        externalId := some (externalId acquisition queueFile.bundleId) }
      if acquisition.download.follows then
        { named with state := .sent, nextRetryAt := none, errorMessage := none }
      else named }

/-- `_active_snapshot_is_current`. -/
def activeSnapshotIsCurrent (acquisition : AirDcppAcquisition) (snapshot : ActiveSnapshot) : Bool :=
  !acquisition.download.state.terminal && acquisition.bundleId = snapshot.bundleId &&
    acquisition.clientState = snapshot.clientState && acquisition.retryCount = snapshot.retryCount

/-- `_stale_recovery_requires_cleanup`. -/
def staleRecoveryRequiresCleanup (acquisition : AirDcppAcquisition)
    (recovered : RecoveredMutation) : Bool :=
  recovered.createdBundle &&
    (acquisition.download.state.terminal || acquisition.bundleId ≠ some recovered.bundleId)

/-- `_missing_bundle_state_is_actionable`. -/
def missingBundleStateIsActionable (snapshot : ActiveSnapshot) (now : Timestamp) : Bool :=
  if snapshot.clientState ≠ some "retry_mutation_pending" then true
  else snapshot.nextRetryAt.any (· ≤ now)

/-! ### The second transaction -/

/-- What the second transaction of a pass works with. -/
structure PassContext where
  now : Timestamp
  bundles : List AirDcppQueueBundle
  completeSnapshot : Bool
  resolution : ActiveSnapshot → Option Resolution
  /-- `existing_bundle_owners`, as loaded at the start. -/
  existingOwner : String → Nat → Option Nat

/-- What became of one acquisition. -/
structure Applied where
  acquisition : AirDcppAcquisition
  changed : Bool := false
  missing : Bool := false
  completed : Bool := false
  /-- A bundle for `stale_recovered_bundles`. -/
  stale : Option (String × Nat) := none

/-- The duplicate check before a bundle is taken over. -/
def takeBundle (context : PassContext) (acquisition : AirDcppAcquisition)
    (snapshot : ActiveSnapshot) (bundleId : Nat) (taken : AirDcppAcquisition) : Applied :=
  match context.existingOwner snapshot.clientIdentity bundleId with
  | some ownerId =>
    if ownerId ≠ acquisition.id then
      ⟨applyExistingBundleOwner acquisition ownerId context.now, true, false, false, none⟩
    else ⟨taken, true, false, false, none⟩
  | none => ⟨taken, true, false, false, none⟩

/-- One round of the loop over the snapshots. -/
def applySnapshot (context : PassContext) (snapshot : ActiveSnapshot)
    (acquisition : AirDcppAcquisition) : Applied :=
  let known := snapshot.bundleId.bind fun id =>
    if id = 0 then none else findBundle context.bundles id
  match known, context.resolution snapshot with
  | some bundle, _ =>
    let (after, changed) := applyAirdcppBundle acquisition bundle context.now
    ⟨after, changed, false,
      acquisition.download.state ≠ .completed && after.download.state = .completed, none⟩
  | none, some (.adopted file) =>
    if activeSnapshotIsCurrent acquisition snapshot then
      takeBundle context acquisition snapshot file.bundleId
        (applyAdoptedFile acquisition file context.now)
    else { acquisition }
  | none, some (.recovered mutation) =>
    if activeSnapshotIsCurrent acquisition snapshot then
      takeBundle context acquisition snapshot mutation.bundleId
        (applyRecoveredMutation acquisition mutation context.now)
    else if staleRecoveryRequiresCleanup acquisition mutation then
      { acquisition, stale := some (snapshot.clientIdentity, mutation.bundleId) }
    else { acquisition }
  | none, some (.retryFailure code) =>
    if activeSnapshotIsCurrent acquisition snapshot then
      { acquisition := applyPreIdRetryFailure acquisition code context.now, changed := true }
    else { acquisition }
  | none, none =>
    if snapshot.bundleId.isSome && context.completeSnapshot &&
        missingBundleStateIsActionable snapshot context.now &&
        activeSnapshotIsCurrent acquisition snapshot then
      let (after, changed) := applyMissingBundle acquisition context.now
      { acquisition := after, changed := changed, missing := true }
    else { acquisition }

/-- `ownership_candidates`. -/
def ownershipCandidates (resolution : ActiveSnapshot → Option Resolution)
    (page : List ActiveSnapshot) : List (String × Nat) :=
  page.filterMap fun snapshot =>
    match resolution snapshot with
    | some (.adopted file) => some (snapshot.clientIdentity, file.bundleId)
    | some (.recovered mutation) =>
      if mutation.createdBundle then none
      else some (snapshot.clientIdentity, mutation.bundleId)
    | _ => none

/-- `existing_bundle_owners`: the rows with an identity and a bundle of the candidates. -/
def existingOwner (table : AcquisitionTable) (candidates : List (String × Nat))
    (identity : String) (bundleId : Nat) : Option Nat :=
  (table.rows.find? fun row =>
    row.ownedBundle = some (identity, bundleId) ∧ identity ∈ candidates.map Prod.fst ∧
      bundleId ∈ candidates.map Prod.snd).map AirDcppAcquisition.id

/-- What a pass reports. -/
structure ReconciliationResult where
  processed : Nat
  changed : Nat
  missing : Nat
  completed : Nat
  isPartial : Bool
  pages : Nat
  staleBundles : List (String × Nat)

def passContext (current : AcquisitionTable) (answers : QueueAnswers) (now : Timestamp)
    (page : List ActiveSnapshot) : PassContext :=
  let (bundles, _, complete) := readQueue answers.queueBundles maxPages 0
  { now
    bundles
    completeSnapshot := complete
    resolution := resolution answers now page
    existingOwner := existingOwner current
      (ownershipCandidates (resolution answers now page) page) }

/-- The writes of the second transaction, in the order of the snapshots. -/
def passSteps (context : PassContext) (page : List ActiveSnapshot) :
    List (Nat × (AirDcppAcquisition → AirDcppAcquisition)) :=
  page.map fun snapshot =>
    (snapshot.acquisitionId, fun row => (applySnapshot context snapshot row).acquisition)

/-- The second transaction on the table as it is then; `none` when a constraint fails and all of
it is rolled back. -/
def writePass (current : AcquisitionTable) (answers : QueueAnswers) (now : Timestamp)
    (page : List ActiveSnapshot) : Option (AcquisitionTable × ReconciliationResult) :=
  let context := passContext current answers now page
  let applied := page.filterMap fun snapshot =>
    (current.find snapshot.acquisitionId).map (applySnapshot context snapshot)
  (current.writeAll (passSteps context page)).map fun after => (after, {
    processed := page.length
    changed := applied.countP Applied.changed
    missing := applied.countP Applied.missing
    completed := applied.countP Applied.completed
    isPartial := !context.completeSnapshot
    pages := (readQueue answers.queueBundles maxPages 0).2.1
    staleBundles := applied.filterMap Applied.stale })

/-- One pass: the page is read from one table, and written to the table as others have left it
while the queue was asked. -/
def reconcileClient (before current : AcquisitionTable) (clientConfigId cursor : Nat)
    (answers : QueueAnswers) (now : Timestamp) :
    Option (AcquisitionTable × ReconciliationResult) :=
  match snapshots before clientConfigId cursor with
  | [] => some (current, ⟨0, 0, 0, 0, false, 0, []⟩)
  | page => writePass current answers now page

end Pullbox.Airdcpp
