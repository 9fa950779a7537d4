import Mathlib.Data.List.Dedup
import Pullbox.Sync.BatchEnqueue

/-!
# What a batch of import work leaves

A batch either writes nothing or gives one result for each proposal, in order, and queues each new
generation once, for its lowest staged entry.
-/

namespace Pullbox.Sync

open List Sql

variable {hash : StableHash} {recorder : ActionRecorder} {job : PublishingJob}
  {proposals : List ImportProposal} {tables : EnqueueTables} {jobId : Nat}
  {prepared items : List PreparedProposal} {item : PreparedProposal} {key : Nat × String}
  {existing created : List ((Nat × String) × EnqueueResult)}
  {pairs : List (PreparedProposal × ImportJobAction)} {pair : PreparedProposal × ImportJobAction}
  {work : ImportWork} {actions : List ImportJobAction} {works rows : List ImportWork}

/-! ### Rows that are inserted -/

section InsertActions

variable {sequenceNo : Nat} {specs : List ImportJobActionSpec} {actions : ImportActions}

end InsertActions

section InsertWorks

variable {pairs : List (PreparedProposal × ImportJobAction)} {works : ImportWorks}

end InsertWorks

/-- The action of a work row, which names it. -/
def IsActionFor (jobId : Nat) (work : ImportWork) (action : ImportJobAction) : Prop :=
  work.origin.importActionId = some action.id ∧ action.importJobId = jobId ∧
    action.phase = importPlacementPhase ∧ action.actionType = importPlacementActionType ∧
    originPayloadMatches action work jobId work.issueStoryArcId = true

/-- The ids of recorded actions are new and distinct. -/
theorem ActionRecorder.nodup (recorder : ActionRecorder) (jobId : Nat)
    (specs : List ImportJobActionSpec) (actions : ImportActions) :
    ((recorder.record jobId specs actions).1.map ImportJobAction.id).Nodup := by
  have distinct := (recorder.record jobId specs actions).2.distinct
  rw [recorder.appended, map_append, nodup_append] at distinct
  exact distinct.2.1

/-- The lowest entry of a key and the first of these, with its place. -/
abbrev IsRepresentative (prepared : List PreparedProposal) :=
  Sql.IsFirstLeast PreparedProposal.key PreparedProposal.entryId prepared

/-- What a batch checks before it writes: of the existing work of each key, that it can be reused
for the lowest entry. -/
structure Admitted (hash : StableHash) (job : PublishingJob) (proposals : List ImportProposal)
    (tables : EnqueueTables) : Prop where
  few : proposals.length ≤ maxEnqueueBatchSize
  valid : ∀ proposal ∈ proposals, validProposal job proposal = true
  active : job.active = true
  bound : ∀ proposal ∈ proposals, bound job tables proposal = true
  oneArc : ∀ first ∈ proposals, ∀ second ∈ proposals,
    (hash.prepare first).key = (hash.prepare second).key →
      first.importedStoryArcId = second.importedStoryArcId
  reusable : ∀ work ∈ tables.works.rows, ∀ item place,
    IsRepresentative (proposals.map hash.prepare) work.key item place →
      ∃ result, tables.classify job.id item work = .ok result

/-- The result of the lowest entry of a key: existing work that can be reused, an existing
placement, or new work and its action. -/
inductive Answer (jobId : Nat) (tables : EnqueueTables) (works : List ImportWork)
    (actions : List ImportJobAction) (item : PreparedProposal) : EnqueueResult → Prop
  | existing {work : ImportWork} {result : EnqueueResult} (listed : work ∈ tables.works.rows)
      (keyed : work.key = item.key) (classified : tables.classify jobId item work = .ok result)
      (reused : result.work = some work)
      (same : result.desiredGeneration = item.desiredGeneration) :
      Answer jobId tables works actions item result
  | placed {placement : PlacementRow} (idle : ∀ work ∈ tables.works.rows, work.key ≠ item.key)
      (listed : placement ∈ tables.placements.rows)
      (same : placement.issueStoryArcId = item.key.1) :
      Answer jobId tables works actions item {
        work := none
        action := none
        classification :=
          if placement.ownership = .managed then .existingManagedPlacement
          else .existingReferencedPlacement
        desiredGeneration := item.desiredGeneration }
  | created {work : ImportWork} {action : ImportJobAction} (queued : work ∈ works)
      (recorded : action ∈ actions) (keyed : work.key = item.key)
      (entry : work.origin.importedStoryArcEntryId = some item.entryId)
      (owns : IsActionFor jobId work action) :
      Answer jobId tables works actions item {
        work := some work
        action := some action
        classification := .created
        desiredGeneration := item.desiredGeneration }

end Pullbox.Sync
