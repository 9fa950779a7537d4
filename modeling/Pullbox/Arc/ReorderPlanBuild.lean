import Mathlib.Data.List.Sort
import Pullbox.Arc.MigrationPreview
import Pullbox.Arc.ReorderPlanCodec
import Pullbox.Sql.Table

/-!
# Building the plan of an adjacent move

`_build_plan` of `services/story_arc_managed_reorder.py`: the membership that is moved swaps places
with its neighbour, and each placement of the two is planned under the policy of the story arc.
The digest is taken before the temporary paths are derived. A plan that was built is read back from
its payload if its places are not negative, which the reader asks for and the builder does not.
-/

namespace Pullbox.Arc.ReorderPlan

open Files (PurePath abspath)
open Migration (Policy PolicyMode PlacementContext PlacementState)
open Pullbox.Naming (renderStoryArcRelativePath)
open Placement (StoryArcPlacementMode Ownership)
open Sql (Table)
open Text (Json)
open Durable (bind_eq_ok)

/-! ### What is stored -/

/-- A story arc, with what `_policy_from_arc` reads from it. -/
structure StoryArc where
  id : ℕ
  archived : Bool
  revision : ℕ
  policySchemaVersion : Option ℕ
  policy : Policy
  positive : 0 < id
  revised : 0 < revision

/-- A membership, with what `_load_one_context` reads for it. -/
structure IssueStoryArc where
  context : PlacementContext
  sourceOrdinal : ℤ
  positive : 0 < context.membershipId

namespace IssueStoryArc

variable (membership : IssueStoryArc)

def id : ℕ := membership.context.membershipId

def storyArcId : ℕ := membership.context.storyArcId

def sequenceNumber : ℤ := membership.context.sequenceNumber

end IssueStoryArc

/-- A row of `story_arc_placements`. -/
structure StoryArcPlacement where
  id : ℕ
  membershipId : ℕ
  ownership : Ownership
  mode : StoryArcPlacementMode
  placementPath : List Char
  renderedReadingOrder : Option ℤ
  policySchemaVersion : Option ℕ
  operationToken : Option String
  sourceFingerprint : Dict
  state : PlacementState
  lastResult : Dict

/-- The rows a plan is built from. -/
structure Tables where
  arcs : Table StoryArc StoryArc.id
  memberships : Table IssueStoryArc IssueStoryArc.id
  placements : Table StoryArcPlacement StoryArcPlacement.id
  libraryFiles : List (List Char)

/-! ### Values of enumerations -/

def ownershipValue : Ownership → String
  | .managed => "managed"
  | .referenced => "referenced"

def modeValue : StoryArcPlacementMode → String
  | .copy => "copy"
  | .hardlink => "hardlink"
  | .symlink => "symlink"
  | .referenceOnly => "reference_only"

def policyModeValue : PolicyMode → String
  | .logical => "logical"
  | .referenceOnly => "reference_only"
  | .copy => "copy"
  | .hardlink => "hardlink"
  | .symlink => "symlink"

def stateValue : PlacementState → String
  | .current => "current"
  | .missing => "missing"
  | .drifted => "drifted"
  | .failed => "failed"

/-! ### Errors and the machine -/

/-- What `_build_plan` raises. -/
inductive BuildError where
  /-- `StoryArcManagedReorderError`. -/
  | reorder (code message category : String)
  /-- `StoryArcPlacementSafetyError`. -/
  | placement (code message : String)
  /-- `ValueError`. -/
  | value (message : String)
deriving DecidableEq

/-- The machine that a plan is built on: the digests, the working folder, the token that `uuid4`
draws, and what is found of files. -/
structure Machine where
  digester : Digester
  workingFolder : List Char
  operationToken : String
  length_operationToken : operationToken.length = 32
  pathExists : List Char → Bool
  /-- `_validate_removal_representation`. -/
  validateRemovalRepresentation : List Char → StoryArcPlacementMode → Except BuildError Unit
  /-- `_fingerprint_target(path) == expected`. -/
  matchesFingerprint : List Char → Dict → Except BuildError Bool
  caseOnlyCollision : List Char → Except BuildError (Option (List Char))

/-- `str(Path(path))`. -/
def pathText (path : List Char) : List Char :=
  (PurePath.parse path).text

/-- `str(Path(path).with_name(name))`. -/
def withName (path name : List Char) : Except BuildError (List Char) :=
  if PurePath.finalName path = [] then
    .error (.value "path has an empty name")
  else
    let parsed := PurePath.parse path
    let renamed : PurePath := { parsed with steps := parsed.steps.dropLast ++ [.name name] }
    .ok renamed.text

/-- `_rendered_target_path`, with the error that an unsafe original file name is turned into. -/
def rendered (context : PlacementContext) (policy : Policy) : Except BuildError (List Char) :=
  match policy.destinationRoot with
  | none => .error (.value "Placement policy has no destination root")
  | some root =>
    match renderStoryArcRelativePath context.namingValues policy.folderTemplate
      policy.fileTemplate true "dash" with
    | .error (.originalFilename message) =>
      .error (.reorder "original_filename_unsafe" message "safety")
    | .error (.value message) => .error (.value message)
    | .ok relative => .ok ((PurePath.parse root).join relative.pure).text

/-- A path is rendered if the policy places files. -/
def renderedUnderPolicy (context : PlacementContext) (policy : Policy) :
    Except BuildError (Option (List Char)) :=
  if policy.mode ≠ .logical ∧ policy.destinationRoot.isSome then
    (rendered context policy).map some
  else .ok none

/-- `_stored_target_fingerprint`. -/
def storedTargetFingerprint (row : StoryArcPlacement) : Dict :=
  match Json.get? row.lastResult "target_fingerprint" with
  | some (.object entries) => entries
  | _ => []

/-- The status of the last result is one of `_UNCHANGED_MANAGED_STATUSES`. -/
def unchangedStatus (row : StoryArcPlacement) : Bool :=
  match Json.get? row.lastResult "status" with
  | some (.text status) => Migration.Machine.unchangedManagedStatuses.contains status
  | _ => false

namespace Machine

variable (machine : Machine)

/-- `_normal_path`. -/
def normalPath (path : List Char) : List Char :=
  abspath machine.workingFolder path

/-- `_reject_canonical_destination`. -/
def rejectCanonicalDestination (source target : List Char) : Except BuildError Unit :=
  if machine.normalPath source = machine.normalPath target then
    .error
      (.placement "canonical_destination"
        "Story-arc placement path cannot be the canonical source path")
  else .ok ()

/-- A failure to look at an artifact is reported as a change of it. -/
def guarded {α : Type} : Except BuildError α → Except BuildError α
  | .error (.placement _ _) =>
    .error
      (.reorder "managed_placement_changed" "Managed placement could not be validated safely"
        "ownership")
  | result => result

/-- `_validate_artifact_fingerprint`. -/
def validateArtifactFingerprint (path : List Char) (expected : Dict)
    (canonicalPath : Option (List Char)) (mode : StoryArcPlacementMode) :
    Except BuildError Unit := do
  if machine.pathExists path then
    guarded (machine.validateRemovalRepresentation path mode)
    let same ← guarded (machine.matchesFingerprint path expected)
    if same then
      match canonicalPath with
      | none => .ok ()
      | some canonical => machine.rejectCanonicalDestination canonical path
    else
      .error
        (.reorder "managed_placement_changed"
          "Managed placement changed after its ownership evidence was recorded" "ownership")
  else
    .error
      (.reorder "managed_placement_changed"
        "Managed placement is missing from its previewed path" "ownership")

/-! ### Placements -/

/-- A referenced placement stays where it is. -/
def referencedPlan (row : StoryArcPlacement) (membership : MembershipPlan)
    (newRendered canonicalPath : Option (List Char)) : PlacementPlan :=
  let desired := match newRendered with
    | some (first :: rest) => first :: rest
    | _ => row.placementPath
  { placementId := row.id
    membershipId := row.membershipId
    ownership := ownershipValue row.ownership
    mode := modeValue row.mode
    oldReadingOrder := membership.oldSequenceNumber
    newReadingOrder := membership.newSequenceNumber
    oldPath := String.ofList row.placementPath
    newPath := String.ofList row.placementPath
    temporaryPath := none
    renderedPathAfter := String.ofList desired
    action :=
      if machine.normalPath row.placementPath = machine.normalPath desired then
        .referencedUnchanged
      else .referencedDrift
    canonicalPath := canonicalPath.map String.ofList
    sourceFingerprint := row.sourceFingerprint
    targetFingerprint := storedTargetFingerprint row
    placementState := some (stateValue row.state)
    lastResultSnapshot := row.lastResult }

/-- A managed placement goes to where the policy renders it. -/
def managedPlan (row : StoryArcPlacement) (membership : MembershipPlan)
    (oldRendered newRendered : List Char) (canonicalPath : Option (List Char)) : PlacementPlan :=
  { placementId := row.id
    membershipId := row.membershipId
    ownership := ownershipValue row.ownership
    mode := modeValue row.mode
    oldReadingOrder := membership.oldSequenceNumber
    newReadingOrder := membership.newSequenceNumber
    oldPath := String.ofList row.placementPath
    newPath := String.ofList newRendered
    temporaryPath := none
    renderedPathAfter := String.ofList newRendered
    action :=
      if machine.normalPath oldRendered = machine.normalPath newRendered then .managedUnchanged
      else .rename
    canonicalPath := canonicalPath.map String.ofList
    sourceFingerprint := row.sourceFingerprint
    targetFingerprint := storedTargetFingerprint row
    placementState := some (stateValue row.state)
    lastResultSnapshot := row.lastResult }

/-- `_placement_plan_from_row`. -/
def placementPlanFromRow (row : StoryArcPlacement) (membership : MembershipPlan)
    (oldRendered newRendered canonicalPath : Option (List Char)) (policyMode : PolicyMode)
    (arcPolicySchemaVersion : Option ℕ) : Except BuildError PlacementPlan :=
  if row.ownership = .referenced then
    .ok (machine.referencedPlan row membership newRendered canonicalPath)
  else
    match oldRendered, newRendered with
    | some oldRendered, some newRendered =>
      if modeValue row.mode ≠ policyModeValue policyMode ∨
          row.policySchemaVersion ≠ arcPolicySchemaVersion ∨
          row.renderedReadingOrder ≠ some membership.oldSequenceNumber ∨
          machine.normalPath row.placementPath ≠ machine.normalPath oldRendered then
        .error
          (.reorder "managed_placement_changed"
            "Managed placement no longer matches its rendered policy" "ownership")
      else if row.state ≠ .current ∨ row.operationToken.isSome ∨ row.sourceFingerprint.isEmpty ∨
          (storedTargetFingerprint row).isEmpty ∨ ¬ unchangedStatus row then
        .error
          (.reorder "managed_placement_changed"
            "Managed placement lacks unchanged action-owned evidence" "ownership")
      else do
        machine.validateArtifactFingerprint (pathText row.placementPath)
          (storedTargetFingerprint row) ((canonicalPath.filter (· ≠ [])).map pathText) row.mode
        .ok (machine.managedPlan row membership oldRendered newRendered canonicalPath)
    | _, _ =>
      .error
        (.reorder "managed_policy_missing" "Managed placement has no active rendered policy"
          "ownership")

/-- The plan of a membership without placements. -/
def logicalPlan (membership : MembershipPlan) : PlacementPlan where
  placementId := 0
  membershipId := membership.membershipId
  ownership := "logical"
  mode := "logical"
  oldReadingOrder := membership.oldSequenceNumber
  newReadingOrder := membership.newSequenceNumber
  oldPath := ""
  newPath := ""
  temporaryPath := none
  renderedPathAfter := ""
  action := .logicalReorder
  canonicalPath := none
  sourceFingerprint := []
  targetFingerprint := []
  placementState := none
  lastResultSnapshot := []

/-- The plans for the placements of one membership. -/
def membershipPlacementPlans (arc : StoryArc) (context : PlacementContext)
    (membership : MembershipPlan) (rows : List StoryArcPlacement) :
    Except BuildError (List PlacementPlan) :=
  if rows = [] then .ok [logicalPlan membership]
  else do
    let oldRendered ← renderedUnderPolicy context arc.policy
    let newRendered ← renderedUnderPolicy
      { context with sequenceNumber := membership.newSequenceNumber } arc.policy
    rows.mapM fun row =>
      machine.placementPlanFromRow row membership oldRendered newRendered context.canonicalPath
        arc.policy.mode arc.policySchemaVersion

end Machine

/-- Up to one row more than an adjacent move may have, in the order of their identifiers. -/
def placementRows (tables : Tables) (memberships : List IssueStoryArc) : List StoryArcPlacement :=
  ((tables.placements.rows.filter fun row =>
    memberships.any (·.id == row.membershipId)).insertionSort (·.id ≤ ·.id)).take
      (maxPlacementsPerAdjacentMove + 1)

/-- The plan that a membership takes the place of another. -/
def membershipPlan (membership other : IssueStoryArc) : MembershipPlan where
  membershipId := membership.id
  oldSequenceNumber := membership.sequenceNumber
  oldSourceOrdinal := membership.sourceOrdinal
  newSequenceNumber := other.sequenceNumber
  newSourceOrdinal := other.sourceOrdinal

namespace Machine

variable (machine : Machine)

/-- `_build_placement_plans`, for the selected membership and its neighbour. -/
def buildPlacementPlans (tables : Tables) (arc : StoryArc) (selected neighbour : IssueStoryArc) :
    Except BuildError (List PlacementPlan) :=
  let rows := placementRows tables [selected, neighbour]
  if maxPlacementsPerAdjacentMove < rows.length then
    .error
      (.reorder "placement_limit" "Adjacent reorder exceeds the bounded placement safety limit"
        "safety")
  else do
    let ofSelected ← machine.membershipPlacementPlans arc selected.context
      (membershipPlan selected neighbour) (rows.filter (·.membershipId == selected.id))
    let ofNeighbour ← machine.membershipPlacementPlans arc neighbour.context
      (membershipPlan neighbour selected) (rows.filter (·.membershipId == neighbour.id))
    .ok (ofSelected ++ ofNeighbour)

/-- The name of a temporary path. -/
def temporaryName (placementId : Int) : List Char :=
  ".pullbox-story-arc-reorder-".toList ++ machine.operationToken.toList.take 12 ++
    ('-' :: (toString placementId).toList) ++ ".tmp".toList

/-- The temporary path of a placement that is renamed. -/
def deriveTemporary (plan : PlacementPlan) : Except BuildError PlacementPlan :=
  if plan.action = .rename then do
    let temporary ← withName plan.oldPath.toList (machine.temporaryName plan.placementId)
    .ok { plan with temporaryPath := some (String.ofList temporary) }
  else .ok { plan with temporaryPath := none }

end Machine

/-! ### Paths of a preview -/

/-- `_validate_target_lexically`. -/
def validateTargetLexically (root target : List Char) : Except BuildError Unit :=
  let base := PurePath.parse root
  let path := PurePath.parse target
  let relative := path.steps.drop base.steps.length
  if base.absolute ≠ path.absolute ∨ ¬ base.steps.isPrefixOf path.steps then
    .error (.placement "path_escape" "Story-arc destination is outside the selected root")
  else if relative.isEmpty ∨ .up ∈ relative then
    .error (.placement "path_escape" "Story-arc destination contains an unsafe path component")
  else .ok ()

/-- `_validate_path_limits`. -/
def validatePathLimits (path : List Char) : Except BuildError Unit :=
  let text := pathText path
  if 255 < (String.ofList (PurePath.finalName path)).utf8ByteSize then
    .error
      (.placement "name_too_long" "Rendered story-arc filename exceeds the supported length")
  else if 4096 < (String.ofList text).utf8ByteSize then
    .error (.placement "path_too_long" "Rendered story-arc path exceeds the supported length")
  else if 1000 < text.length then
    .error (.placement "path_too_long" "Rendered story-arc path exceeds the database path limit")
  else .ok ()

/-- What is planned to be renamed. -/
def renames (plans : List PlacementPlan) : List PlacementPlan :=
  plans.filter fun plan => plan.action = .rename

/-- `_MAX_COLLISION_SCAN_PATHS`. -/
def maxCollisionScanPaths : ℕ := 204

namespace Machine

variable (machine : Machine)

/-- The checks on the temporary path of a placement. -/
def validateTemporaryPath (root : List Char) (plan : PlacementPlan) : Except BuildError Unit :=
  match plan.temporaryPath with
  | none => .ok ()
  | some temporary => do
      validateTargetLexically root temporary.toList
      validatePathLimits temporary.toList
      (plan.canonicalPath.map String.toList).forM fun canonical =>
        machine.rejectCanonicalDestination canonical temporary.toList
      let collision ←
        if machine.pathExists (pathText temporary.toList) then .ok (some temporary.toList)
        else machine.caseOnlyCollision (pathText temporary.toList)
      if collision.isSome then
        .error
          (.reorder "temporary_collision" "A reorder recovery checkpoint path is already occupied"
            "collision")
      else .ok ()

/-- The checks on a placement that is renamed, after placements that go to these new paths. -/
def validateRename (root : List Char) (oldPaths canonicalPaths newPaths : List (List Char))
    (plan : PlacementPlan) : Except BuildError (List (List Char)) := do
  let old := plan.oldPath.toList
  let new := plan.newPath.toList
  let normalNew := machine.normalPath (pathText new)
  validateTargetLexically root old
  validateTargetLexically root new
  validatePathLimits old
  validatePathLimits new
  if machine.normalPath (pathText old) ∈ canonicalPaths ∨ normalNew ∈ canonicalPaths then
    .error
      (.reorder "canonical_destination" "Reorder cannot mutate a canonical library artifact"
        "safety")
  else
    (plan.canonicalPath.map String.toList).forM fun canonical => do
      machine.rejectCanonicalDestination canonical old
      machine.rejectCanonicalDestination canonical new
    machine.validateTemporaryPath root plan
    if normalNew ∈ newPaths then
      .error
        (.reorder "destination_collision" "Two managed placements render to the same destination"
          "collision")
    else if normalNew ∉ oldPaths ∧ machine.pathExists (pathText new) then
      .error
        (.reorder "destination_collision" "A rendered reorder destination already exists"
          "collision")
    else
      let collision ← machine.caseOnlyCollision (pathText new)
      if collision.any fun path => machine.normalPath path ∉ oldPaths then
        .error
          (.reorder "case_only_collision" "A case-only reorder destination collision exists"
            "collision")
      else .ok (normalNew :: newPaths)

/-- `_validate_complete_preview_paths`. -/
def validateCompletePreviewPaths (plans : List PlacementPlan)
    (destinationRoot : Option (List Char)) : Except BuildError Unit :=
  match renames plans, destinationRoot with
  | [], _ => .ok ()
  | _, none =>
    .error
      (.reorder "managed_policy_missing" "Managed reorder destination root is missing"
        "validation")
  | managed, some root =>
    let oldPaths := managed.map fun plan => machine.normalPath plan.oldPath.toList
    let canonicalPaths := managed.filterMap fun plan =>
      plan.canonicalPath.map fun path => machine.normalPath path.toList
    if maxCollisionScanPaths < managed.length then
      .error
        (.reorder "placement_limit" "Reorder collision scan exceeds its bounded limit"
          "validation")
    else do
      let _ ← managed.foldlM (machine.validateRename root oldPaths canonicalPaths) []
      .ok ()

end Machine

/-- `_validate_database_preview_paths`. -/
def validateDatabasePreviewPaths (tables : Tables) (plans : List PlacementPlan) :
    Except BuildError Unit :=
  let managed := renames plans
  let old := managed.map fun plan => plan.oldPath.toList
  let new := managed.map fun plan => plan.newPath.toList
  let temporary := managed.filterMap fun plan => plan.temporaryPath.map String.toList
  if tables.libraryFiles.any fun path => path ∈ old ++ new ++ temporary then
    .error
      (.reorder "canonical_destination" "Reorder cannot mutate a canonical library artifact"
        "safety")
  else if tables.placements.rows.any fun row =>
      row.placementPath ∈ new ++ temporary &&
        (row.placementPath ∈ temporary ||
          managed.all fun plan => plan.placementId ≠ (row.id : ℤ)) then
    .error
      (.reorder "destination_collision"
        "A rendered reorder destination belongs to another placement" "collision")
  else .ok ()

/-! ### The plan -/

/-- A request for an adjacent move. -/
structure MoveRequest where
  storyArcId : ℤ
  membershipId : ℤ
  direction : ReorderDirection
  expectedRevision : ℤ

/-- A membership comes before another. -/
def before (first second : IssueStoryArc) : Bool :=
  decide (first.sequenceNumber < second.sequenceNumber) ||
    (first.sequenceNumber == second.sequenceNumber &&
      decide (first.sourceOrdinal < second.sourceOrdinal)) ||
    (first.sequenceNumber == second.sequenceNumber &&
      first.sourceOrdinal == second.sourceOrdinal && decide (first.id < second.id))

/-- The first membership of an order. -/
def firstMembership (order : IssueStoryArc → IssueStoryArc → Bool) :
    List IssueStoryArc → Option IssueStoryArc
  | [] => none
  | membership :: others =>
    match firstMembership order others with
    | none => some membership
    | some other => if order other membership then some other else some membership

/-- `_load_adjacent_membership`. -/
def loadAdjacentMembership (tables : Tables) (selected : IssueStoryArc) :
    ReorderDirection → Option IssueStoryArc
  | .up =>
    firstMembership (fun first second => before second first)
      (tables.memberships.rows.filter fun membership =>
        membership.storyArcId == selected.storyArcId && before membership selected)
  | .down =>
    firstMembership before
      (tables.memberships.rows.filter fun membership =>
        membership.storyArcId == selected.storyArcId && before selected membership)

/-- What is raised for a membership without a neighbour. -/
def edgeError : ReorderDirection → BuildError
  | .up => .reorder "already_first" "Membership is already first" "validation"
  | .down => .reorder "already_last" "Membership is already last" "validation"

/-- The story arc that a request names, if it may be reordered. -/
def requestedArc (tables : Tables) (request : MoveRequest) : Except BuildError StoryArc :=
  match tables.arcs.rows.find? fun arc => (arc.id : ℤ) = request.storyArcId with
  | none => .error (.reorder "story_arc_not_found" "Story arc was not found" "not_found")
  | some arc =>
    if arc.archived then
      .error
        (.reorder "story_arc_archived" "Archived story arcs cannot be reordered" "validation")
    else if (arc.revision : ℤ) ≠ request.expectedRevision then
      .error
        (.reorder "revision_conflict" "Story arc changed after the page was loaded" "conflict")
    else .ok arc

/-- The membership that a request names, and its neighbour. -/
def requestedMemberships (tables : Tables) (request : MoveRequest) :
    Except BuildError (IssueStoryArc × IssueStoryArc) :=
  match tables.memberships.rows.find? fun membership =>
    (membership.id : ℤ) = request.membershipId ∧
      (membership.storyArcId : ℤ) = request.storyArcId with
  | none =>
    .error (.reorder "membership_not_found" "Story-arc membership was not found" "not_found")
  | some selected =>
    match loadAdjacentMembership tables selected request.direction with
    | none => .error (edgeError request.direction)
    | some neighbour => .ok (selected, neighbour)

/-- `_build_plan`. -/
def buildPlan (machine : Machine) (tables : Tables) (request : MoveRequest) :
    Except BuildError SignedPlan := do
  let arc ← requestedArc tables request
  let (selected, neighbour) ← requestedMemberships tables request
  let memberships := [membershipPlan selected neighbour, membershipPlan neighbour selected]
  let semanticPlans ← machine.buildPlacementPlans tables arc selected neighbour
  let destinationRoot := arc.policy.destinationRoot.map String.ofList
  let planDigest := planDigest machine.digester
    (core request.storyArcId request.membershipId request.direction request.expectedRevision
      destinationRoot memberships semanticPlans)
  -- The names of the temporary paths hold the token, which is not digested.
  let placements ← semanticPlans.mapM machine.deriveTemporary
  machine.validateCompletePreviewPaths placements arc.policy.destinationRoot
  validateDatabasePreviewPaths tables placements
  .ok
    { storyArcId := request.storyArcId
      selectedMembershipId := request.membershipId
      direction := request.direction
      expectedRevision := request.expectedRevision
      operationToken := machine.operationToken
      planDigest
      destinationRoot
      memberships
      placements }

end Pullbox.Arc.ReorderPlan
