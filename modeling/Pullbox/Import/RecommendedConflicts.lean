import Mathlib.Data.List.Dedup
import Pullbox.Import.Controls
import Pullbox.Search.Grouping

/-!
# Accepting the recommended files of conflict groups

A completed import offers the conflict groups with one high-confidence preferred file. Accepting
them confirms that file of each group, skips the others, and puts the series of the accepted groups
back for import. The signed preview and the audit rows are left out.
-/

namespace Pullbox.Import.RecommendedConflicts

open Grouping

/-! ### Rows -/

inductive ImportedFileStatus where
  | pending | matched | safetyBlocked | safetyApproved | duplicateFile | alreadyOwned | conflict
  | noMatch | confirmed | skipped | imported | failed
deriving DecidableEq

inductive ImportSeriesStatus where
  | pending | matched | noMatch | recoveryPending | duplicate | confirmed | skipped | importing
  | imported | failed
deriving DecidableEq

/-- What the clean-up reads and writes of a file's row. -/
structure ImportedFile where
  id : ℕ
  importJobId : ℕ
  importSeriesId : ℕ
  status : ImportedFileStatus
  matchedIssueId : Option ℕ := none
  matchConfidence : Option String := none
  conflictGroupId : Option ℕ := none
  isPreferred : Bool := false
  includeInImport : Bool := false
deriving DecidableEq

structure ImportedSeries where
  id : ℕ
  status : ImportSeriesStatus
  selectedForImport : Bool
  errorMessage : Option String

structure ImportJob where
  id : ℕ
  status : ImportJobStatus
  errorMessage : Option String

/-- The rows that the cleanup reads and writes; of the library files their issues. -/
structure Tables where
  job : ImportJob
  files : List ImportedFile
  series : List ImportedSeries
  libraryIssues : List (Option ℕ)

/-! ### Which groups are eligible -/

/-- Some library file has the issue that the file matches. -/
def owned (tables : Tables) (file : ImportedFile) : Bool :=
  match file.matchedIssueId with
  | none => false
  | some issue => some issue ∈ tables.libraryIssues

/-- The conflicts of the job. -/
def conflicts (tables : Tables) : List ImportedFile :=
  tables.files.filter fun file =>
    file.importJobId = tables.job.id ∧ file.status = .conflict

def highConfidence (file : ImportedFile) : Bool :=
  file.matchConfidence = some "high"

/-- `_candidate_conflict_groups`. -/
def candidateConflictGroups (tables : Tables) : List ℕ :=
  let candidates := (conflicts tables).filter (owned tables · = false)
  ((groupBy (·.conflictGroupId) candidates).filter fun entry =>
    entry.2.countP (·.isPreferred) = 1 ∧
      entry.2.countP (fun candidate => candidate.isPreferred && highConfidence candidate) = 1).map
    Prod.fst

/-- The file is in no candidate group. -/
def unsafeConflict (tables : Tables) (file : ImportedFile) : Bool :=
  match file.conflictGroupId with
  | none => true
  | some group => group ∉ candidateConflictGroups tables

/-- `_fully_recoverable_conflict_series`. -/
def fullyRecoverableConflictSeries (tables : Tables) : List ℕ :=
  ((groupBy (fun file => some file.importSeriesId) (conflicts tables)).filter fun entry =>
    entry.2.countP (unsafeConflict tables) = 0).map Prod.fst

/-- `_eligible_conflict_groups`. -/
def eligibleConflictGroups (tables : Tables) : List ℕ :=
  (((conflicts tables).filter fun candidate =>
    unsafeConflict tables candidate = false ∧
      candidate.importSeriesId ∈ fullyRecoverableConflictSeries tables).filterMap
    (·.conflictGroupId)).dedup

/-! ### Accepting -/

/-- The file is a conflict of the job in one of the groups. -/
def inGroups (tables : Tables) (groups : List ℕ) (file : ImportedFile) : Bool :=
  file.importJobId = tables.job.id ∧ file.status = .conflict ∧
    ∃ group ∈ groups, file.conflictGroupId = some group

/-- `_apply_recommended_conflicts`: the tables after both updates, and the affected series. -/
def applyRecommendedConflicts (tables : Tables) : Tables × List ℕ :=
  let eligibleGroupIds := ((tables.files.filter
    (inGroups tables (eligibleConflictGroups tables))).filterMap (·.conflictGroupId)).dedup
  if eligibleGroupIds = [] then (tables, [])
  else
    let affectedSeriesIds := ((tables.files.filter (inGroups tables eligibleGroupIds)).map
      (·.importSeriesId)).dedup
    let skipped := tables.files.map fun file =>
      if inGroups tables eligibleGroupIds file ∧ file.isPreferred = false then
        { file with status := .skipped, includeInImport := false }
      else file
    let confirmed := skipped.map fun file =>
      if inGroups tables eligibleGroupIds file ∧ file.isPreferred = true ∧ highConfidence file then
        { file with status := .confirmed, includeInImport := true }
      else file
    ({ tables with files := confirmed }, affectedSeriesIds)

/-- `_prepare_series_for_retry`. -/
def prepareSeriesForRetry (tables : Tables) (seriesIds : List ℕ) : Tables × Bool :=
  let remainingConflicts := (tables.files.filter fun file =>
    file.importSeriesId ∈ seriesIds ∧ file.status = .conflict).map (·.importSeriesId)
  let retrySeriesIds := seriesIds.filter (· ∉ remainingConflicts)
  if retrySeriesIds = [] then (tables, false)
  else
    ({ tables with
        series := tables.series.map fun series =>
          if series.id ∈ retrySeriesIds then
            { series with status := .confirmed, selectedForImport := true, errorMessage := none }
          else series
        job := { tables.job with status := .importing, errorMessage := none } }, true)

/-- `ACCEPT_RECOMMENDED_CONFLICTS` of `apply_completed_import_cleanup`. -/
def acceptRecommendedConflicts (tables : Tables) : Tables :=
  let (accepted, affectedSeriesIds) := applyRecommendedConflicts tables
  (prepareSeriesForRetry accepted affectedSeriesIds).1

/-! ### What is promised -/

/-- Each file with what it has become. -/
def changes (before after : Tables) : List (ImportedFile × ImportedFile) :=
  before.files.zip after.files

/-- The changes of the conflicts of one group. -/
def members (before after : Tables) (group : ℕ) : List (ImportedFile × ImportedFile) :=
  (changes before after).filter (inGroups before [group] ·.1)

/-- What acceptance does to the groups and their series. -/
structure Accepted (before after : Tables) : Prop where
  one : ∀ group ∈ eligibleConflictGroups before,
    (members before after group).countP (·.2.status = .confirmed) = 1 ∧
      ∀ change ∈ members before after group,
        change.2.status = .confirmed ∨ change.2.status = .skipped
  unchanged : ∀ change ∈ changes before after,
    inGroups before (eligibleConflictGroups before) change.1 = false → change.2 = change.1
  resumed : ∀ change ∈ changes before after,
    change.1.status ≠ .confirmed → change.2.status = .confirmed →
      (∀ other ∈ after.files, other.importSeriesId = change.2.importSeriesId →
        other.status ≠ .conflict) ∧
      ∀ series ∈ after.series, series.id = change.2.importSeriesId →
        series.status = .confirmed ∧ series.selectedForImport = true

/-- Every eligible group has one preferred file, owned ones counted, and every conflict of that
file's series is in an eligible group. -/
def Resumable (tables : Tables) : Prop :=
  ∀ group ∈ eligibleConflictGroups tables,
    (tables.files.filter (inGroups tables [group])).countP (·.isPreferred) = 1 ∧
      ∀ file ∈ tables.files, inGroups tables [group] file → file.isPreferred = true →
        ∀ other ∈ tables.files, other.importSeriesId = file.importSeriesId →
          other.status = .conflict → inGroups tables (eligibleConflictGroups tables) other

end Pullbox.Import.RecommendedConflicts
