import Mathlib.Algebra.Order.Ring.Rat
import Pullbox.Search.Grouping

/-!
# Duplicate copies and conflicts of imported files

Files of one import series that match the same issue are first collapsed: copies of one release by
their signature, then equal contents by their hash. What still competes for an issue becomes a
conflict group with one preferred file. The hash of a file and its normalized release name are given
functions.
-/

namespace Pullbox.Import.DuplicateCopies

open Grouping

/-! ### Files -/

inductive ImportedFileStatus where
  | pending | matched | safetyBlocked | safetyApproved | duplicateFile | alreadyOwned | conflict
  | noMatch | confirmed | skipped | imported | failed
deriving DecidableEq

/-- An imported file. The last two fields are what is read of its diagnostics. -/
structure ImportedFile where
  id : ℕ
  fileName : String
  filePath : String
  fileFormat : String
  fileSize : ℤ
  parsedIssueNumber : Option ℚ := none
  hasComicinfo : Bool := false
  status : ImportedFileStatus
  matchedIssueId : Option ℤ := none
  matchedIssueCvId : Option ℤ := none
  matchConfidence : Option String := none
  conflictGroupId : Option ℕ := none
  duplicateGroupId : Option ℕ := none
  duplicateOfFileId : Option ℕ := none
  isPreferred : Bool := false
  includeInImport : Bool := false
  contentHash : Option String := none
  targetState : Option String := none
  canonicalMylarReference : Bool := false
deriving DecidableEq

/-- The functions that detection is given. -/
structure CopyRules where
  normalizedReleaseName : String → String
  lower : String → String
  computeHash : String → Option String

/-- `confidence_rank`. -/
def confidenceRank : Option String → ℕ
  | some "high" => 3
  | some "medium" => 2
  | some "low" => 1
  | _ => 0

/-- `preferred_file_sort_key`. -/
def preferredFileSortKey (file : ImportedFile) : ℕ ×ₗ ℕ ×ₗ ℕ ×ₗ ℤ ×ₗ ℤ :=
  toLex (file.canonicalMylarReference.toNat, toLex (file.hasComicinfo.toNat,
    toLex (confidenceRank file.matchConfidence, toLex (file.fileSize, -(file.id : ℤ)))))

/-- The identity of an issue: its id, its ComicVine id or its parsed number. -/
inductive TargetKey where
  | issueId (id : ℤ)
  | issueCvId (id : ℤ)
  | parsedIssue (number : ℚ)
deriving DecidableEq

/-- `duplicate_target_key`. -/
def duplicateTargetKey (file : ImportedFile) : Option TargetKey :=
  match file.matchedIssueId, file.matchedIssueCvId, file.parsedIssueNumber with
  | some id, _, _ => some (.issueId id)
  | none, some id, _ => some (.issueCvId id)
  | none, none, some number => some (.parsedIssue number)
  | none, none, none => none

/-! ### Duplicate copies -/

/-- Which files a group is made of. -/
inductive GroupKind where
  | matched
  | alreadyOwned
  | informational
deriving DecidableEq

/-- Why a copy is skipped. -/
inductive DuplicateReason where
  | exactDuplicate
  | hashConfirmedDuplicate
  | alreadyOwnedDuplicate
  | informationalDuplicate

/-- What a duplicate copy is marked with. -/
structure CopyMark where
  duplicateGroupId : ℕ
  representativeId : ℕ
  reason : DuplicateReason
  targetState : Option String

/-- `mark_duplicate_copy`. -/
def markDuplicateCopy (file : ImportedFile) (mark : CopyMark) : ImportedFile :=
  { file with
    status := .duplicateFile
    includeInImport := false
    conflictGroupId := none
    isPreferred := false
    duplicateGroupId := some mark.duplicateGroupId
    duplicateOfFileId := some mark.representativeId
    targetState := mark.targetState }

/-- The details of one cluster. -/
structure ClusterDetail where
  duplicateGroupId : ℕ
  reason : DuplicateReason
  targetState : Option String
  representativeId : ℕ
  duplicateIds : List ℕ

/-- The detection so far: which files are marked, and which were hashed. -/
structure Detection where
  marks : List (ℕ × CopyMark) := []
  hashed : List ℕ := []
  duplicateCount : ℕ := 0
  duplicateGroupCounter : ℕ
  groupDetails : List ClusterDetail := []

namespace Detection

/-- The status that a file has by now. -/
def status (detection : Detection) (file : ImportedFile) : ImportedFileStatus :=
  if (detection.marks.lookup file.id).isSome then .duplicateFile else file.status

/-- `record_duplicate_copy_cluster`, for a cluster with its representative in front. -/
def record (detection : Detection) (reason : DuplicateReason) (targetState : Option String) :
    List ImportedFile → Detection
  | [] => detection
  | representative :: duplicates =>
    let duplicateGroupId := detection.duplicateGroupCounter + 1
    { detection with
      marks := detection.marks ++ duplicates.map fun duplicate =>
        (duplicate.id, ⟨duplicateGroupId, representative.id, reason, targetState⟩)
      duplicateCount := detection.duplicateCount + duplicates.length
      duplicateGroupCounter := duplicateGroupId
      groupDetails := detection.groupDetails ++ [{
        duplicateGroupId, reason, targetState
        representativeId := representative.id
        duplicateIds := duplicates.map (·.id) }] }

/-- Two or more files are collapsed into the preferred one. -/
def collapseCluster (reason : DuplicateReason) (targetState : Option String)
    (detection : Detection) (cluster : List ImportedFile) : Detection :=
  if cluster.length < 2 then detection
  else detection.record reason targetState (byRank preferredFileSortKey cluster)

end Detection

/-- The signature of identical copies. -/
def signature (rules : CopyRules) (file : ImportedFile) : String × String × ℤ :=
  (rules.normalizedReleaseName file.fileName, rules.lower file.fileFormat, file.fileSize)

/-- The hash of a file, computed if it has none yet. -/
def contentHash (rules : CopyRules) (file : ImportedFile) : Option String :=
  match file.contentHash with
  | none => rules.computeHash file.filePath
  | some hash => some hash

/-- The hash that files are grouped by; an empty one counts as none. -/
def usableHash (rules : CopyRules) (file : ImportedFile) : Option String :=
  (contentHash rules file).filter (· ≠ "")

namespace Detection

/-- Files of one size are compared by their hashes. -/
def sameSize (rules : CopyRules) (detection : Detection) (group : List ImportedFile) : Detection :=
  if group.length < 2 then detection
  else
    let hashed := { detection with hashed := detection.hashed ++ group.map (·.id) }
    ((groupBy (usableHash rules) group).map Prod.snd).foldl
      (collapseCluster .hashConfirmedDuplicate none) hashed

/-- The files that match one issue: identical copies first, then equal contents. -/
def matchedGroup (rules : CopyRules) (detection : Detection) (group : List ImportedFile) :
    Detection :=
  let exact := ((groupBy (fun file => some (signature rules file)) group).map Prod.snd).foldl
    (collapseCluster .exactDuplicate none) detection
  let remaining := group.filter (exact.status · = .matched)
  ((groupBy (fun file => some file.fileSize) remaining).map Prod.snd).foldl (sameSize rules) exact

/-- One candidate group. -/
def candidateGroup (rules : CopyRules) (detection : Detection) :
    (GroupKind × TargetKey) × List ImportedFile → Detection
  | ((kind, _), group) =>
    if group.length < 2 then detection
    else
      match kind with
      | .matched => detection.matchedGroup rules group
      | .alreadyOwned =>
        detection.record .alreadyOwnedDuplicate (some "already_owned")
          (byRank preferredFileSortKey group)
      | .informational =>
        detection.record .informationalDuplicate (some "no_importable_targets")
          (byRank preferredFileSortKey group)

/-- What the detection has made of a file. -/
def apply (rules : CopyRules) (detection : Detection) (file : ImportedFile) : ImportedFile :=
  let hashed :=
    if file.id ∈ detection.hashed then { file with contentHash := contentHash rules file }
    else file
  match detection.marks.lookup file.id with
  | none => hashed
  | some mark => markDuplicateCopy hashed mark

end Detection

/-- The candidate group of a file. -/
def candidateKey (duplicateSeries : Bool) (file : ImportedFile) :
    Option (GroupKind × TargetKey) :=
  match duplicateTargetKey file with
  | none => none
  | some target =>
    match file.status with
    | .matched => some (.matched, target)
    | .alreadyOwned => some (.alreadyOwned, target)
    | .noMatch =>
      if duplicateSeries ∧ file.targetState = some "no_importable_targets" then
        some (.informational, target)
      else none
    | _ => none

/-- `detect_duplicate_copies`. -/
def detectDuplicateCopies (rules : CopyRules) (duplicateSeries : Bool)
    (files : List ImportedFile) (duplicateGroupCounter : ℕ) : Detection :=
  (groupBy (candidateKey duplicateSeries) files).foldl (Detection.candidateGroup rules)
    { duplicateGroupCounter }

/-! ### Conflicts -/

/-- `issue_identity_key`: the identity as one number. -/
def issueIdentityKey (file : ImportedFile) : Option ℚ :=
  match file.matchedIssueId, file.matchedIssueCvId, file.parsedIssueNumber with
  | some id, _, _ => some id
  | none, some id, _ => some (-id)
  | none, none, some number => some (-number - 1 / 1000)
  | none, none, none => none

/-- The conflict group that a file is put in. -/
structure ConflictMark where
  conflictGroupId : ℕ
  isPreferred : Bool
deriving DecidableEq

/-- What a conflicting file is marked with. -/
def markConflict (file : ImportedFile) (mark : ConflictMark) : ImportedFile :=
  { file with
    status := .conflict
    conflictGroupId := some mark.conflictGroupId
    isPreferred := mark.isPreferred
    includeInImport := false
    targetState := none
    canonicalMylarReference := false }

/-- The order within a conflict group. -/
def conflictSortKey (file : ImportedFile) : ℕ ×ₗ ℕ ×ₗ ℤ :=
  toLex (file.hasComicinfo.toNat, toLex (confidenceRank file.matchConfidence, file.fileSize))

/-- The marks made so far, and the counters. -/
structure Conflicts where
  marks : List (ℕ × ConflictMark) := []
  conflictCount : ℕ := 0
  groupCounter : ℕ

namespace Conflicts

/-- `_mark_conflict_group`. -/
def markConflictGroup (conflicts : Conflicts) (group : List ImportedFile) : Conflicts :=
  match byRank conflictSortKey group with
  | [] => conflicts
  | preferred :: others =>
    let conflictGroupId := conflicts.groupCounter + 1
    { marks := conflicts.marks ++ (preferred.id, ⟨conflictGroupId, true⟩) ::
        others.map fun other => (other.id, ⟨conflictGroupId, false⟩)
      conflictCount := conflicts.conflictCount + group.length
      groupCounter := conflictGroupId }

def identityGroup (conflicts : Conflicts) (group : List ImportedFile) : Conflicts :=
  if group.length < 2 then conflicts else conflicts.markConflictGroup group

def apply (conflicts : Conflicts) (file : ImportedFile) : ImportedFile :=
  match conflicts.marks.lookup file.id with
  | none => file
  | some mark => markConflict file mark

end Conflicts

/-- The identity of a file that is still matched. -/
def conflictKey (file : ImportedFile) : Option ℚ :=
  if file.status = .matched then issueIdentityKey file else none

/-- `detect_conflicts`. -/
def detectConflicts (files : List ImportedFile) (groupCounter : ℕ) : Conflicts :=
  ((groupBy conflictKey files).map Prod.snd).foldl Conflicts.identityGroup { groupCounter }

end Pullbox.Import.DuplicateCopies
