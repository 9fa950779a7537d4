import Pullbox.Arc.MigrationPreview

/-!
# The two scans of a preview

The tables that a preview reads, the counts of the first scan, the classification of a page, and the
response that is cut out of the second scan.
-/

namespace Pullbox.Arc.Migration

open Sql (Keyset.Increasing)
open Placement (Ownership)

/-- The tracked placements of all story arcs, by their ids, and the paths of the library files. -/
structure Tables where
  placements : List PlacementScope
  libraryFiles : List (List Char)
  ordered : Keyset.Increasing PlacementScope.id placements
  positive : ∀ placement ∈ placements, 0 < placement.id
  paths : placements.Pairwise fun first second => first.placementPath ≠ second.placementPath

/-- A change of the policy of a story arc. The digests are those of the canonical JSON of the
records. -/
structure PolicyChange where
  machine : Machine
  tables : Tables
  storyArcId : ℕ
  current : Policy
  proposed : Policy
  hexPlacements : List PlacementScope → String
  hexPlan : List PlanRecord → String

/-- `_OccupiedPlacement`. -/
structure OccupiedPlacement where
  id : ℕ
  ownership : Ownership

/-- What the first scan counts. -/
structure TargetIndex where
  placements : List PlacementScope := []
  exactCounts : String → ℕ := fun _ => 0
  foldedCounts : String → ℕ := fun _ => 0

/-- What the pages read so far add up to. -/
structure Classification where
  placements : List PlacementScope := []
  plan : List PlanRecord := []
  counts : PreviewCounts := {}
  responseItems : List PreviewItem := []
  responseHasMore : Bool := false

/-- One more of a key. -/
def bump (counts : String → ℕ) (key : String) : String → ℕ :=
  Function.update counts key (counts key + 1)

namespace PolicyChange

variable (change : PolicyChange)

/-- `_SCAN_PAGE_SIZE`. -/
def scanPageSize : ℕ := 100

/-- The placements of the story arc. -/
def arcPlacements : List PlacementScope :=
  change.tables.placements.filter fun placement => placement.context.storyArcId = change.storyArcId

/-- A managed placement has a path to count while the proposed policy keeps managed placements. -/
def countsTarget (placement : PlacementScope) : Bool :=
  placement.ownership = .managed && change.proposed.mode.managed

/-! ### The first scan -/

def indexPlacement (index : TargetIndex) (placement : PlacementScope) : Option TargetIndex :=
  if change.countsTarget placement then
    match renderedTargetPath placement.context change.proposed with
    | none => none
    | some target =>
      let keys := change.machine.pathKeys target
      some {
        placements := index.placements ++ [placement]
        exactCounts := bump index.exactCounts keys.1
        foldedCounts := bump index.foldedCounts keys.2 }
  else some { index with placements := index.placements ++ [placement] }

/-- `_placement_target_index`. -/
def placementTargetIndex : Option TargetIndex :=
  Sql.Keyset.scan PlacementScope.id (fun index page => page.foldlM change.indexPlacement index)
    scanPageSize change.arcPlacements 0 {}

/-! ### The classification of a page -/

/-- `_managed_action`. -/
def managedAction (placement : PlacementScope) (desiredPath : Option (List Char)) : Action :=
  if ¬ change.proposed.mode.managed then .removeManaged
  else
    match desiredPath with
    | none => .migrateManaged
    | some desired =>
      if change.machine.normalPath desired =
            change.machine.normalPath placement.placementPath ∧
          placement.mode = filesystemMode change.proposed.mode ∧
          placement.symlinkStyle = change.proposed.symlinkStyle then .managedUnchanged
      else .migrateManaged

/-- `_managed_item`. -/
def managedItem (placement : PlacementScope) (desiredPath : Option (List Char)) (action : Action)
    (blocked : Bool) (collision : String) (reason : Option String) (sourceSize : Option ℕ) :
    PreviewItem where
  placementId := placement.id
  membershipId := placement.membershipId
  ownership := placement.ownership
  action
  oldMode := .placement placement.mode
  newMode := .policy change.proposed.mode
  oldPath := placement.placementPath
  newPath := desiredPath
  collision
  blocked
  reason
  requiredBytes :=
    if action = .migrateManaged ∧ change.proposed.mode = .copy then sourceSize.getD 0 else 0

/-- A referenced placement is left alone. -/
def referencedItem (placement : PlacementScope) : PreviewItem where
  placementId := placement.id
  membershipId := placement.membershipId
  ownership := placement.ownership
  action := .preserveReferenced
  oldMode := .placement placement.mode
  newMode := .placement placement.mode
  oldPath := placement.placementPath
  newPath := some placement.placementPath
  collision := "none"
  blocked := false
  reason := some "Referenced artifact is preserved and is not a migration target"
  requiredBytes := 0

/-- The collision of a rendered path with other targets, library files and placements. -/
def collision (index : TargetIndex) (occupied : List Char → Option OccupiedPlacement)
    (canonicalPath : List Char → Bool) (placement : PlacementScope) (desired : List Char) :
    Option String :=
  let keys := change.machine.pathKeys desired
  if 1 < index.exactCounts keys.1 then some "duplicate_migration_target"
  else if 1 < index.foldedCounts keys.2 then some "case_only_migration_target"
  else if canonicalPath desired then some "canonical_destination"
  else
    match occupied desired with
    | none => none
    | some tracked =>
      if tracked.id = placement.id then none
      else if tracked.ownership = .referenced then some "referenced_destination_preserved"
      else some "placement_destination_conflict"

/-- Texts count as missing when they are empty. -/
def orElse (text : Option String) (other : String) : String :=
  match text with
  | none | some "" => other
  | some text => text

/-- The item of a placement that is to move, after the inspection of its new path. -/
def inspectedItem (placement : PlacementScope) (desired : List Char) (inspection : Inspection)
    (collisionCode : String) (sourceSize : Option ℕ) : PreviewItem :=
  if inspection.state = .free then
    change.managedItem placement (some desired) .migrateManaged false "none" none sourceSize
  else
    change.managedItem placement (some desired) .migrateManaged true collisionCode
      (some (orElse inspection.reason "Destination is blocked")) sourceSize

/-- The path that the proposed policy has for a placement, if any; the outer `none` is for what
rendering raises. -/
def desiredPath (placement : PlacementScope) : Option (Option (List Char)) :=
  if change.proposed.mode = .logical then some none
  else (renderedTargetPath placement.context change.proposed).map some

/-- The rest of a classification, for a path that is free as far as the tables go. -/
def classifyMove (placement : PlacementScope) (desired : List Char) (oldInspection : Inspection) :
    ClassifiedPlacement :=
  let sourceSize := oldInspection.sourceSize
  if change.machine.normalPath desired = change.machine.normalPath placement.placementPath then
    let inspection := change.machine.inspectSamePathRebuild placement change.proposed desired
    let code :=
      if inspection.collision ≠ .none then inspection.collision.value
      else orElse inspection.code "inspection_blocked"
    classified (change.inspectedItem placement desired inspection code sourceSize) placement
      (some oldInspection) (some inspection)
  else
    let inspection :=
      change.machine.inspect (placementPlan placement.context change.proposed) none
    let code := orElse inspection.code (orElse inspection.collision.value "inspection_blocked")
    classified (change.inspectedItem placement desired inspection code sourceSize) placement
      (some oldInspection) (some inspection)

/-- `_classify_placement`. -/
def classifyPlacement (index : TargetIndex) (occupied : List Char → Option OccupiedPlacement)
    (canonicalPath : List Char → Bool) (placement : PlacementScope) :
    Option ClassifiedPlacement :=
  match placement.ownership with
  | .referenced => some (classified (referencedItem placement) placement none none)
  | .managed =>
    match change.desiredPath placement,
      change.machine.inspectCurrentManaged placement change.current with
    | some desiredPath, some oldInspection =>
      let action := change.managedAction placement desiredPath
      let sourceSize := oldInspection.sourceSize
      if oldInspection.state ≠ .managedCurrent then
        some (classified (change.managedItem placement desiredPath action true "none"
          (some "Managed placement no longer matches its durable ownership evidence") none)
          placement (some oldInspection) none)
      else if action = .removeManaged ∨ action = .managedUnchanged then
        some (classified
          (change.managedItem placement desiredPath action false "none" none sourceSize)
          placement (some oldInspection) none)
      else
        match desiredPath with
        | none => none
        | some desired =>
          match change.collision index occupied canonicalPath placement desired with
          | some collision =>
            some (classified (change.managedItem placement (some desired) action true
              collision (some ("Rendered destination is not exclusively available " ++
                "for this managed placement")) sourceSize)
              placement (some oldInspection) none)
          | none => some (change.classifyMove placement desired oldInspection)
    | _, _ => none

/-- The paths that a page renders, each once. -/
def candidatePaths (page : List PlacementScope) : Option (List (List Char)) :=
  ((page.filter change.countsTarget).mapM fun placement =>
    renderedTargetPath placement.context change.proposed).map List.eraseDups

/-- `_load_occupied_placements`. -/
def loadOccupiedPlacements (paths : List (List Char)) (path : List Char) :
    Option OccupiedPlacement :=
  ((change.tables.placements.filter fun row => row.placementPath ∈ paths).reverse.find?
    fun row => row.placementPath = path).map fun row => ⟨row.id, row.ownership⟩

/-- `_load_canonical_destination_paths`. -/
def loadCanonicalDestinationPaths (paths : List (List Char)) (path : List Char) : Bool :=
  (change.tables.libraryFiles.filter (· ∈ paths)).contains path

/-- A page with what is loaded for it, and `_classify_page`. -/
def classifyPage (index : TargetIndex) (page : List PlacementScope) :
    Option (List ClassifiedPlacement) :=
  match change.candidatePaths page with
  | none => none
  | some candidates =>
    page.mapM (change.classifyPlacement index (change.loadOccupiedPlacements candidates)
      (change.loadCanonicalDestinationPaths candidates))

end PolicyChange

/-! ### The second scan -/

/-- One placement of the second scan. -/
def Classification.add (limit afterPlacementId : ℕ) (before : Classification)
    (placement : PlacementScope) (classified : ClassifiedPlacement) : Classification :=
  let taken := { before with
    placements := before.placements ++ [placement]
    plan := before.plan ++ [classified.digestRecord]
    counts := before.counts.add classified.item }
  if placement.id ≤ afterPlacementId then taken
  else if before.responseItems.length < limit then
    { taken with responseItems := before.responseItems ++ [classified.item] }
  else { taken with responseHasMore := true }

/-- `StoryArcPolicyMigrationPreview`, as far as the scans go. -/
structure Preview where
  counts : PreviewCounts
  planDigest : String
  items : List PreviewItem
  limit : ℕ
  afterPlacementId : ℕ
  nextCursor : Option ℕ
  hasMore : Bool

inductive PreviewError where
  | invalidPageLimit
  | invalidPageCursor
  | rendering
  | scopeChanged

/-- `_MAX_RESPONSE_PAGE_SIZE`. -/
def maxResponsePageSize : ℤ := 100

/-- `_bounded_page`. -/
def boundedPage (limit afterPlacementId : ℤ) : Except PreviewError (ℕ × ℕ) :=
  if ¬ (1 ≤ limit ∧ limit ≤ maxResponsePageSize) then .error .invalidPageLimit
  else if afterPlacementId < 0 then .error .invalidPageCursor
  else .ok (limit.toNat, afterPlacementId.toNat)

namespace PolicyChange

variable (change : PolicyChange)

def classifyScanned (index : TargetIndex) (limit afterPlacementId : ℕ) (before : Classification)
    (page : List PlacementScope) : Option Classification :=
  (change.classifyPage index page).map fun classified =>
    (page.zip classified).foldl
      (fun before row => before.add limit afterPlacementId row.1 row.2) before

/-- `_classify_placements`. -/
def classifyPlacements (index : TargetIndex) (limit afterPlacementId : ℕ) :
    Option Classification :=
  Sql.Keyset.scan PlacementScope.id (change.classifyScanned index limit afterPlacementId)
    scanPageSize change.arcPlacements 0 {}

/-- `preview_policy_change`, past the checks of the boundary and of the roots. -/
def previewPolicyChange (limit afterPlacementId : ℤ) : Except PreviewError Preview :=
  match boundedPage limit afterPlacementId with
  | .error error => .error error
  | .ok (limit, afterPlacementId) =>
    match change.placementTargetIndex with
    | none => .error .rendering
    | some index =>
      match change.classifyPlacements index limit afterPlacementId with
      | none => .error .rendering
      | some classification =>
        if change.hexPlacements index.placements ≠
            change.hexPlacements classification.placements then .error .scopeChanged
        else .ok {
          counts := classification.counts
          planDigest := change.hexPlan classification.plan
          items := classification.responseItems
          limit
          afterPlacementId
          nextCursor :=
            if classification.responseHasMore then
              classification.responseItems.getLast?.map PreviewItem.placementId
            else none
          hasMore := classification.responseHasMore }

end PolicyChange

end Pullbox.Arc.Migration
