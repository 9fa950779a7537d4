import Pullbox.Arc.Placement
import Pullbox.Files.Normal
import Pullbox.Naming.StoryArcConfinement
import Pullbox.Sql.Keyset
import Pullbox.Text.Json

/-!
# Previews of a change of the placement policy

`services/story_arc_policy_migration.py`: a first scan over the placements of a story arc counts the
paths that a proposed policy renders, and a second one classifies each placement against these
counts, the tracked placements and the library files. Both scans read the placements a page at a
time; the items of the response are a further page of those of the second scan. Nothing changes
while a preview is made.
-/

namespace Pullbox.Arc.Migration

open Files (PurePath Folding abspath normpath)
open Pullbox.Naming (StoryArcNamingValues renderStoryArcRelativePath)
open Placement (StoryArcPlacementMode StoryArcSymlinkStyle Ownership)
open Text (Json)

/-- A dictionary of JSON values. -/
abbrev Entries := List (String × Json)

/-! ### Policies and placements -/

/-- `StoryArcPlacementPolicyMode`. -/
inductive PolicyMode where
  | logical
  | referenceOnly
  | copy
  | hardlink
  | symlink
deriving DecidableEq

/-- `_MANAGED_POLICY_MODES`. -/
def PolicyMode.managed : PolicyMode → Bool
  | .copy | .hardlink | .symlink => true
  | .logical | .referenceOnly => false

/-- `_filesystem_mode`. -/
def filesystemMode : PolicyMode → StoryArcPlacementMode
  | .logical | .referenceOnly => .referenceOnly
  | .copy => .copy
  | .hardlink => .hardlink
  | .symlink => .symlink

/-- `StoryArcPlacementPolicy`, as far as a placement depends on it. -/
structure Policy where
  mode : PolicyMode
  destinationRoot : Option (List Char)
  folderTemplate : List Char
  fileTemplate : List Char
  symlinkStyle : Option StoryArcSymlinkStyle

/-- What the policy renders a path from. -/
structure PlacementContext where
  membershipId : ℕ
  storyArcId : ℕ
  sequenceNumber : ℤ
  issueNumberText : List Char
  storyArcName : List Char
  seriesName : List Char
  publisherName : Option (List Char)
  issueTitle : Option (List Char)
  year : Option ℤ
  seriesStartYear : Option ℤ
  seriesEndYear : Option ℤ
  libraryFileId : Option ℕ
  canonicalPath : Option (List Char)
  extension : List Char

def PlacementContext.namingValues (context : PlacementContext) : StoryArcNamingValues where
  storyArc := context.storyArcName
  readingOrder := context.sequenceNumber
  series := context.seriesName
  publisher := context.publisherName
  issueNumber := context.issueNumberText
  issueTitle := context.issueTitle
  year := context.year
  startYear := context.seriesStartYear
  endYear := context.seriesEndYear
  extension := context.extension
  originalFilename := (context.canonicalPath.filter (· ≠ [])).map PurePath.finalName

/-- `_rendered_target_path`; `none` for what it raises. -/
def renderedTargetPath (context : PlacementContext) (policy : Policy) : Option (List Char) :=
  match policy.destinationRoot with
  | none => none
  | some root =>
    match renderStoryArcRelativePath context.namingValues policy.folderTemplate
      policy.fileTemplate true "dash" with
    | .error _ => none
    | .ok relative => some ((PurePath.parse root).join relative.pure).text

inductive PlacementState where
  | current
  | missing
  | drifted
  | failed
deriving DecidableEq

/-- A row of the placements, with what belongs to its membership. -/
structure PlacementScope where
  id : ℕ
  membershipId : ℕ
  libraryFileId : Option ℕ
  libraryRootId : Option ℕ
  placementPath : List Char
  mode : StoryArcPlacementMode
  ownership : Ownership
  symlinkStyle : Option StoryArcSymlinkStyle
  sourceKind : String
  creatingActionId : Option ℕ
  renderedReadingOrder : Option ℤ
  policySchemaVersion : Option ℕ
  operationToken : Option String
  sourceFingerprint : Entries
  targetFingerprint : Entries
  state : PlacementState
  lastResult : Entries
  updatedAt : ℕ
  context : PlacementContext

/-! ### Inspections -/

/-- `StoryArcPlacementInspectionState`. -/
inductive InspectionState where
  | free
  | managedCurrent
  | referencedCurrent
  | managedMissing
  | referencedMissing
  | managedDrifted
  | referencedDrifted
  | untrackedIdentical
  | differentContent
  | blocked
deriving DecidableEq

/-- `StoryArcCollisionKind`. -/
inductive CollisionKind where
  | none
  | differentContent
  | sameInodeReferenced
  | caseOnly
  | pathEscape
  | crossDevice
  | rootUnavailable
  | symlinkRoot
  | symlinkParent
  | parentNotDirectory
  | directoryScanLimit
  | collisionScanFailed
  | sourceUnavailable
deriving DecidableEq

def CollisionKind.value : CollisionKind → String
  | .none => "none"
  | .differentContent => "different_content"
  | .sameInodeReferenced => "same_inode_referenced"
  | .caseOnly => "case_only"
  | .pathEscape => "path_escape"
  | .crossDevice => "cross_device"
  | .rootUnavailable => "root_unavailable"
  | .symlinkRoot => "symlink_root"
  | .symlinkParent => "symlink_parent"
  | .parentNotDirectory => "parent_not_directory"
  | .directoryScanLimit => "directory_scan_limit"
  | .collisionScanFailed => "collision_scan_failed"
  | .sourceUnavailable => "source_unavailable"

/-- What an inspection of a placement finds. -/
structure Inspection where
  state : InspectionState
  mode : StoryArcPlacementMode
  targetPath : Option (List Char)
  collision : CollisionKind := .none
  code : Option String := none
  reason : Option String := none
  requiredBytes : ℕ := 0
  sourceFingerprint : Option Entries := none
  targetFingerprint : Option Entries := none

/-- `_inspection_digest`. -/
structure InspectionDigest where
  state : InspectionState
  mode : StoryArcPlacementMode
  targetPath : Option (List Char)
  collision : CollisionKind
  code : Option String
  requiredBytes : ℕ
  sourceFingerprint : Entries
  targetFingerprint : Entries

def Inspection.digest (inspection : Inspection) : InspectionDigest where
  state := inspection.state
  mode := inspection.mode
  targetPath := inspection.targetPath
  collision := inspection.collision
  code := inspection.code
  requiredBytes := inspection.requiredBytes
  sourceFingerprint := inspection.sourceFingerprint.getD []
  targetFingerprint := inspection.targetFingerprint.getD []

/-- `_inspection_source_size`. -/
def Inspection.sourceSize (inspection : Inspection) : Option ℕ :=
  match (inspection.sourceFingerprint.getD []).lookup "size" with
  | some (.integer size) => if size < 0 then none else some size.toNat
  | _ => none

/-- `StoryArcPlacementPlan`. -/
structure PlacementPlan where
  issueStoryArcId : ℕ
  libraryFileId : Option ℕ
  canonicalPath : Option (List Char)
  destinationRoot : Option (List Char)
  values : StoryArcNamingValues
  mode : StoryArcPlacementMode
  symlinkStyle : Option StoryArcSymlinkStyle
  folderTemplate : List Char
  fileTemplate : List Char

/-- `_placement_plan`. -/
def placementPlan (context : PlacementContext) (policy : Policy) : PlacementPlan where
  issueStoryArcId := context.membershipId
  libraryFileId := context.libraryFileId
  canonicalPath := context.canonicalPath.filter (· ≠ [])
  destinationRoot := policy.destinationRoot.filter (· ≠ [])
  values := context.namingValues
  mode := filesystemMode policy.mode
  symlinkStyle := policy.symlinkStyle
  folderTemplate := policy.folderTemplate
  fileTemplate := policy.fileTemplate

/-- `StoryArcPlacementInspectionEvidence`. -/
structure InspectionEvidence where
  placementPath : List Char
  mode : StoryArcPlacementMode
  ownership : Ownership
  symlinkStyle : Option StoryArcSymlinkStyle
  sourceFingerprint : Entries
  targetFingerprint : Entries

def PlacementScope.inspectionEvidence (placement : PlacementScope) : InspectionEvidence where
  placementPath := placement.placementPath
  mode := placement.mode
  ownership := placement.ownership
  symlinkStyle := placement.symlinkStyle
  sourceFingerprint := placement.sourceFingerprint
  targetFingerprint := placement.targetFingerprint

/-- The machine that a preview is made on: its folding of case, its working folder, a digest of
texts, and what `inspect_story_arc_placement` and `os.stat` find in its files. -/
structure Machine where
  folding : Folding
  workingFolder : List Char
  sha256 : List Char → String
  inspect : PlacementPlan → Option InspectionEvidence → Inspection
  device : List Char → Option ℕ

namespace Machine

variable (machine : Machine)

/-- `_path_keys`. -/
def pathKeys (path : List Char) : String × String :=
  let exact := abspath machine.workingFolder (normpath path)
  (machine.sha256 exact, machine.sha256 (machine.folding.casefold exact))

/-- `_normal_path`. -/
def normalPath (path : List Char) : List Char :=
  abspath machine.workingFolder path

/-- `_UNCHANGED_MANAGED_STATUSES`. -/
def unchangedManagedStatuses : List String :=
  ["complete", "rename_cancelled", "rename_failed"]

/-- `STORY_ARC_PLACEMENT_POLICY_SCHEMA_VERSION`. -/
def policySchemaVersion : ℕ := 1

/-- `_blocked_inspection`. -/
def blockedInspection (placement : PlacementScope) (code : String) : Inspection where
  state := .blocked
  mode := placement.mode
  targetPath := some (PurePath.parse placement.placementPath).text
  code := some code
  reason := some "Managed placement ownership evidence changed"

/-- The condition `evidence_valid`, for a path that the current policy renders. -/
def evidenceValid (placement : PlacementScope) (current : Policy) (rendered : List Char) : Bool :=
  current.mode.managed && placement.mode == filesystemMode current.mode &&
    placement.policySchemaVersion == some policySchemaVersion &&
    placement.renderedReadingOrder == some placement.context.sequenceNumber &&
    machine.normalPath rendered == machine.normalPath placement.placementPath &&
    placement.state == .current && placement.operationToken == none &&
    !placement.sourceFingerprint.isEmpty && !placement.targetFingerprint.isEmpty &&
    match placement.lastResult.lookup "status" with
    | some (.text status) => unchangedManagedStatuses.contains status
    | _ => false

/-- `_inspect_current_managed`. -/
def inspectCurrentManaged (placement : PlacementScope) (current : Policy) : Option Inspection :=
  if current.mode = .logical then
    some (blockedInspection placement "managed_ownership_evidence_changed")
  else
    match renderedTargetPath placement.context current with
    | none => none
    | some rendered =>
      if machine.evidenceValid placement current rendered then
        some (machine.inspect (placementPlan placement.context current)
          (some placement.inspectionEvidence))
      else some (blockedInspection placement "managed_ownership_evidence_changed")

/-- `Path(path).parent`. -/
def parentFolder (path : List Char) : List Char :=
  { PurePath.parse path with steps := (PurePath.parse path).steps.dropLast }.text

/-- `_inspect_same_path_rebuild`. -/
def inspectSamePathRebuild (placement : PlacementScope) (proposed : Policy)
    (desiredPath : List Char) : Inspection :=
  let inspected := machine.inspect (placementPlan placement.context proposed)
    (some placement.inspectionEvidence)
  let targetPath := some (PurePath.parse desiredPath).text
  let rebuild : Inspection := {
    state := .free
    mode := filesystemMode proposed.mode
    targetPath
    code := some "owned_rebuild"
    reason := some "Existing managed artifact is replaceable after ownership revalidation"
    requiredBytes := if proposed.mode = .copy then inspected.sourceSize.getD 0 else 0
    sourceFingerprint := inspected.sourceFingerprint
    targetFingerprint := inspected.targetFingerprint }
  if inspected.code ≠ some "representation_changed" then inspected
  else if proposed.mode = .hardlink then
    match placement.context.canonicalPath with
    | none => {
        state := .blocked
        mode := .hardlink
        targetPath
        collision := .sourceUnavailable
        code := some "source_unavailable"
        reason := some "Canonical source is unavailable for hardlink migration" }
    | some canonicalPath =>
      match machine.device canonicalPath, machine.device (parentFolder desiredPath) with
      | some sourceDevice, some destinationDevice =>
        if sourceDevice = destinationDevice then rebuild
        else {
          state := .blocked
          mode := .hardlink
          targetPath
          collision := .crossDevice
          code := some "cross_device"
          reason :=
            some "Hardlink source and destination are on different filesystems" }
      | _, _ => {
          state := .blocked
          mode := .hardlink
          targetPath
          code := some "inspection_failed"
          reason := some "Proposed placement mode could not be inspected safely" }
  else rebuild

end Machine

/-! ### Items -/

/-- What a change of policy does to a placement. -/
inductive Action where
  | preserveReferenced
  | migrateManaged
  | removeManaged
  | managedUnchanged
deriving DecidableEq

/-- The value of a mode, which an item shows. -/
inductive ModeValue where
  | placement (mode : StoryArcPlacementMode)
  | policy (mode : PolicyMode)

/-- `StoryArcPolicyMigrationPreviewItem`. -/
structure PreviewItem where
  placementId : ℕ
  membershipId : ℕ
  ownership : Ownership
  action : Action
  oldMode : ModeValue
  newMode : ModeValue
  oldPath : List Char
  newPath : Option (List Char)
  collision : String
  blocked : Bool
  reason : Option String
  requiredBytes : ℕ

/-- The record of an item that the digest of the plan takes. -/
structure PlanRecord where
  placement : PlacementScope
  action : Action
  oldMode : ModeValue
  newMode : ModeValue
  oldPath : List Char
  newPath : Option (List Char)
  collision : String
  blocked : Bool
  requiredBytes : ℕ
  oldInspection : Option InspectionDigest
  newInspection : Option InspectionDigest

/-- `_ClassifiedPlacement`. -/
structure ClassifiedPlacement where
  item : PreviewItem
  digestRecord : PlanRecord

/-- `_classified`. -/
def classified (item : PreviewItem) (placement : PlacementScope)
    (oldInspection newInspection : Option Inspection) : ClassifiedPlacement where
  item
  digestRecord := {
    placement
    action := item.action
    oldMode := item.oldMode
    newMode := item.newMode
    oldPath := item.oldPath
    newPath := item.newPath
    collision := item.collision
    blocked := item.blocked
    requiredBytes := item.requiredBytes
    oldInspection := oldInspection.map (·.digest)
    newInspection := newInspection.map (·.digest) }

/-- How many placements each action has. -/
structure PreviewCounts where
  total : ℕ := 0
  managedMigrate : ℕ := 0
  managedRemove : ℕ := 0
  managedUnchanged : ℕ := 0
  referencedPreserved : ℕ := 0
  collisions : ℕ := 0
  blocked : ℕ := 0
  requiredBytes : ℕ := 0

def PreviewCounts.add (counts : PreviewCounts) (item : PreviewItem) : PreviewCounts where
  total := counts.total + 1
  managedMigrate := counts.managedMigrate + if item.action = .migrateManaged then 1 else 0
  managedRemove := counts.managedRemove + if item.action = .removeManaged then 1 else 0
  managedUnchanged := counts.managedUnchanged + if item.action = .managedUnchanged then 1 else 0
  referencedPreserved :=
    counts.referencedPreserved + if item.action = .preserveReferenced then 1 else 0
  collisions := counts.collisions + if item.collision ≠ "none" then 1 else 0
  blocked := counts.blocked + if item.blocked then 1 else 0
  requiredBytes := counts.requiredBytes + item.requiredBytes

end Pullbox.Arc.Migration
