import Pullbox.Arc.MigrationListing
import Pullbox.Text.Decimal

/-!
# What a preview promises

All previews of a change show the same counts and the same plan, and their pages make up one list of
the placements. When nothing is blocked, what moves has its new path to itself; what stays and what
is removed is not looked at.
-/

namespace Pullbox.Arc.Migration

open List

open Sql (Keyset.Increasing Keyset.Followed)
open Placement (Ownership StoryArcPlacementMode)

variable {change : PolicyChange} {rows : List ClassifiedPlacement} {index : TargetIndex}
  {cursor : ℕ} {items : List PreviewItem}

/-- The items of the previews from a cursor on, each asked for with the cursor of the one before. -/
inductive Follows (change : PolicyChange) : ℕ → List PreviewItem → Prop
  | last {cursor : ℕ} {limit : ℤ} {preview : Preview}
      (shown : change.previewPolicyChange limit cursor = .ok preview)
      (done : preview.nextCursor = none) : Follows change cursor preview.items
  | next {cursor next : ℕ} {limit : ℤ} {preview : Preview} {rest : List PreviewItem}
      (shown : change.previewPolicyChange limit cursor = .ok preview)
      (more : preview.nextCursor = some next) (follows : Follows change next rest) :
      Follows change cursor (preview.items ++ rest)

/-- The sizes that a page may have. -/
def PageSize (size : ℕ) : Prop :=
  1 ≤ size ∧ size ≤ 100

theorem PageSize.positive (size : ℕ) (allowed : PageSize size) : 0 < size :=
  allowed.1

theorem PolicyChange.Plan.shown (plan : change.Plan rows index) {limit : ℕ}
    (allowed : PageSize limit) (cursor : ℕ) :
    change.previewPolicyChange limit cursor = .ok (change.response rows limit cursor) :=
  PolicyChange.previewPolicyChange_ok_iff.2
    ⟨⟨by exact_mod_cast allowed.1, by exact_mod_cast allowed.2, by omega⟩, rows, index, plan, rfl⟩

/-- Following the previews is following the pages of the plan. -/
theorem Follows.followed (plan : change.Plan rows index) (follows : Follows change cursor items) :
    ∃ listed, Keyset.Followed ClassifiedPlacement.id rows PageSize cursor listed ∧
      items = listed.map (·.item) := by
  induction follows with
  | last shown done =>
    obtain ⟨within, others, other, known, rfl⟩ := PolicyChange.previewPolicyChange_ok_iff.1 shown
    obtain ⟨rfl, rfl⟩ := plan.unique known
    exact ⟨_, .last (⟨by omega, by omega⟩ : PageSize _) done, rfl⟩
  | next shown more _ ih =>
    obtain ⟨within, others, other, known, rfl⟩ := PolicyChange.previewPolicyChange_ok_iff.1 shown
    obtain ⟨rfl, rfl⟩ := plan.unique known
    obtain ⟨listed, followed, rfl⟩ := ih
    exact ⟨_, .next (⟨by omega, by omega⟩ : PageSize _) more followed, (map_append).symm⟩

theorem follows_of_followed (plan : change.Plan rows index) {listed : List ClassifiedPlacement}
    (followed : Keyset.Followed ClassifiedPlacement.id rows PageSize cursor listed) :
    Follows change cursor (listed.map (·.item)) := by
  induction followed with
  | last allowed done => exact .last (plan.shown allowed _) done
  | next allowed more _ ih =>
    rw [map_append]
    exact .next (plan.shown allowed _) more ih

theorem Follows.plan (follows : Follows change cursor items) :
    ∃ rows index, change.Plan rows index := by
  cases follows with
  | last shown _ | next shown _ _ =>
    obtain ⟨_, rows, index, plan, _⟩ := PolicyChange.previewPolicyChange_ok_iff.1 shown
    exact ⟨rows, index, plan⟩

/-- Who follows the cursors from the start has the items of the whole plan. -/
theorem Follows.eq (plan : change.Plan rows index) (follows : Follows change 0 items) :
    items = rows.map (·.item) := by
  obtain ⟨listed, followed, rfl⟩ := follows.followed plan
  rw [followed.eq PageSize.positive plan.increasing, plan.rowsAfter_zero]

theorem exists_follows (plan : change.Plan rows index) : Follows change 0 (rows.map (·.item)) := by
  have single : PageSize 1 := ⟨by decide, by decide⟩
  have ends : ∃ listed, Keyset.Followed ClassifiedPlacement.id rows PageSize 0 listed :=
    Sql.Keyset.exists_followed single rows 0
  obtain ⟨listed, followed⟩ := ends
  have whole := followed.eq PageSize.positive plan.increasing
  rw [plan.rowsAfter_zero] at whole
  rw [← whole]
  exact follows_of_followed plan followed

/-! ### New paths -/

/-- The new path of a managed item is no other item's, not even but for its case, and neither that
of another tracked placement nor of a library file. -/
structure Exclusive (change : PolicyChange) (items : List PreviewItem) (item : PreviewItem)
    (path : List Char) : Prop where
  newPaths : ∀ other ∈ items, other.placementId ≠ item.placementId → other.ownership = .managed →
    ∀ taken, other.newPath = some taken →
      change.machine.folding.casefold path ≠ change.machine.folding.casefold taken
  tracked : ∀ placement ∈ change.tables.placements, placement.id ≠ item.placementId →
    placement.placementPath ≠ path
  canonical : path ∉ change.tables.libraryFiles

/-- What moves and is not blocked has its new path to itself. -/
theorem PolicyChange.Plan.exclusive (plan : change.Plan rows index) {row : ClassifiedPlacement}
    (inside : row ∈ rows) (managed : row.item.ownership = .managed)
    (free : row.item.blocked = false) (moves : row.item.action = .migrateManaged) :
    ∃ path, row.item.newPath = some path ∧
      Exclusive change (rows.map (·.item)) row.item path := by
  obtain ⟨placement, here, found⟩ := Durable.item_of_mapM plan.classified inside
  obtain ⟨sameId, sameOwner, _, tells⟩ := change.classify_cases found
  have owner : placement.ownership = .managed := sameOwner.symm.trans managed
  obtain ⟨_, classifies⟩ := tells owner
  obtain ⟨path, rfl, alone⟩ := classifies.free free moves
  have policy := change.managed_of_migrate (classifies.action.symm.trans moves)
  obtain ⟨single, unlisted, untracked⟩ := change.collision_eq_none alone
  refine ⟨path, classifies.newPath, ?_, ?_, unlisted⟩
  · intro item listed different itemManaged taken itemPath same
    obtain ⟨other, otherInside, rfl⟩ := mem_map.1 listed
    obtain ⟨place, there, otherFound⟩ := Durable.item_of_mapM plan.classified otherInside
    obtain ⟨otherId, otherOwner, _, otherTells⟩ := change.classify_cases otherFound
    have placeOwner : place.ownership = .managed := otherOwner.symm.trans itemManaged
    obtain ⟨_, otherClassifies⟩ := otherTells placeOwner
    cases otherClassifies.newPath.symm.trans itemPath
    have apart : placement ≠ place := by
      rintro rfl
      exact different (otherId.trans sameId.symm)
    have key {one : PlacementScope} {target : List Char} (isManaged : one.ownership = .managed)
        (rendered : change.desiredPath one = some (some target)) :
        change.foldedKey one = some (change.machine.pathKeys target).2 := by
      unfold PolicyChange.foldedKey
      rw [change.countedTarget_of_desired isManaged policy rendered]
      rfl
    have twice := Durable.two_le_count_filterMap here there apart
      (key owner classifies.rendered)
      ((key placeOwner otherClassifies.rendered).trans
        (congrArg some (change.machine.foldedKey_eq same).symm))
    have counted := change.foldlM_foldedCounts plan.counted (change.machine.pathKeys path).2
    dsimp only at counted
    omega
  · intro other tracked different
    exact untracked other tracked fun same => different (same.trans sameId.symm)

/-- What is said to stay is named where it is. -/
theorem PolicyChange.Plan.stays (plan : change.Plan rows index) {row : ClassifiedPlacement}
    (inside : row ∈ rows) (managed : row.item.ownership = .managed)
    (stays : row.item.action = .managedUnchanged) :
    ∃ path, row.item.newPath = some path ∧
      change.machine.normalPath path = change.machine.normalPath row.item.oldPath := by
  obtain ⟨placement, _, found⟩ := Durable.item_of_mapM plan.classified inside
  obtain ⟨_, sameOwner, samePath, tells⟩ := change.classify_cases found
  obtain ⟨_, classifies⟩ := tells (sameOwner.symm.trans managed)
  obtain ⟨path, rfl, place⟩ := change.unchanged_place (classifies.action.symm.trans stays)
  rw [samePath]
  exact ⟨path, classifies.newPath, place⟩

/-- All previews of a change agree, their pages list each placement of the arc once, and when
nothing is blocked, what moves has its new path to itself and what is said to stay is named where it
is. -/
theorem previewPolicyChange_lawful (change : PolicyChange) :
    (∀ (limit cursor : ℤ) (preview : Preview),
      change.previewPolicyChange limit cursor = .ok preview →
        ∀ other otherCursor : ℤ, 1 ≤ other → other ≤ 100 → 0 ≤ otherCursor →
          ∃ page, change.previewPolicyChange other otherCursor = .ok page ∧
            page.counts = preview.counts ∧ page.planDigest = preview.planDigest) ∧
    (∀ (limit cursor : ℤ) (preview : Preview),
      change.previewPolicyChange limit cursor = .ok preview → ∃ items, Follows change 0 items) ∧
    ∀ items, Follows change 0 items →
      items.map (·.placementId) = change.arcPlacements.map (·.id) ∧
        (items.map (·.placementId)).Nodup ∧
        ((∀ item ∈ items, item.blocked = false) →
          ∀ item ∈ items, item.ownership = .managed →
            (item.action = .migrateManaged → ∃ path, item.newPath = some path ∧
              Exclusive change items item path) ∧
            (item.action = .managedUnchanged → ∃ path, item.newPath = some path ∧
              change.machine.normalPath path = change.machine.normalPath item.oldPath)) := by
  refine ⟨?_, ?_, ?_⟩
  · intro limit cursor preview shown other otherCursor least most start
    obtain ⟨_, rows, index, plan, rfl⟩ := PolicyChange.previewPolicyChange_ok_iff.1 shown
    exact ⟨_, PolicyChange.previewPolicyChange_ok_iff.2
      ⟨⟨least, most, start⟩, rows, index, plan, rfl⟩, rfl, rfl⟩
  · intro limit cursor preview shown
    obtain ⟨_, rows, index, plan, _⟩ := PolicyChange.previewPolicyChange_ok_iff.1 shown
    exact ⟨_, exists_follows plan⟩
  · intro items follows
    obtain ⟨rows, index, plan⟩ := follows.plan
    obtain rfl := follows.eq plan
    have ids : (rows.map (·.item)).map (·.placementId) = change.arcPlacements.map (·.id) := by
      rw [map_map]
      exact plan.map_id
    refine ⟨ids, ?_, ?_⟩
    · rw [ids]
      apply pairwise_map.2
      exact change.arcPlacements_increasing.imp fun before => Nat.ne_of_lt before
    · intro free item listed managed
      obtain ⟨row, inside, rfl⟩ := mem_map.1 listed
      exact ⟨plan.exclusive inside managed (free _ listed), plan.stays inside managed⟩

/-! ### What stays is not compared -/

/-- Folding of ASCII letters. -/
def asciiFolding : Files.Folding where
  fold char := [char.toLower]
  nonempty _ := cons_ne_nil _ _
  slash := rfl
  dot := rfl
  slashOnly _ inside := Text.toLower_eq (by decide) (mem_singleton.1 inside).symm
  dotOnly _ inside := Text.toLower_eq (by decide) (mem_singleton.1 inside).symm

/-- A machine with the recorded files in their places, and nothing else below the arcs. -/
def quietMachine : Machine where
  folding := asciiFolding
  workingFolder := "/srv".toList
  sha256 := String.ofList
  inspect plan evidence :=
    match evidence with
    | some evidence => {
        state := .managedCurrent
        mode := plan.mode
        targetPath := some evidence.placementPath
        sourceFingerprint := some evidence.sourceFingerprint
        targetFingerprint := some evidence.targetFingerprint }
    | none => { state := .free, mode := plan.mode, targetPath := none }
  device _ := some 1

/-- A copy of the first issue of Thor, by a publisher. -/
def thorCopy (id : ℕ) (publisher path canonicalPath : String) : PlacementScope where
  id
  membershipId := id
  libraryFileId := some id
  libraryRootId := some 1
  placementPath := path.toList
  mode := .copy
  ownership := .managed
  symlinkStyle := none
  sourceKind := "manual"
  creatingActionId := none
  renderedReadingOrder := some 1
  policySchemaVersion := some 1
  operationToken := none
  sourceFingerprint := [("size", .integer 5)]
  targetFingerprint := [("size", .integer 5)]
  state := .current
  lastResult := [("status", .text "complete")]
  updatedAt := 0
  context := {
    membershipId := id
    storyArcId := 1
    sequenceNumber := 1
    issueNumberText := "1".toList
    storyArcName := "War".toList
    seriesName := "Thor".toList
    publisherName := some publisher.toList
    issueTitle := none
    year := none
    seriesStartYear := none
    seriesEndYear := none
    libraryFileId := some id
    canonicalPath := some canonicalPath.toList
    extension := "cbz".toList }

def twoThors : Tables where
  placements := [
    thorCopy 1 "Marvel" "/arcs/Marvel War/Thor 1.cbz" "/library/one/Thor 1.cbz",
    thorCopy 2 "MARVEL" "/arcs/MARVEL War/Thor 1.cbz" "/library/two/Thor 1.cbz"]
  libraryFiles := ["/library/one/Thor 1.cbz".toList, "/library/two/Thor 1.cbz".toList,
    "/arcs/Marvel War/Thor 1.cbz".toList]
  ordered := by
    unfold Keyset.Increasing
    decide
  positive := by decide
  paths := by decide

def thorPolicy (mode : PolicyMode) (folderTemplate fileTemplate : String) : Policy where
  mode
  destinationRoot := some "/arcs".toList
  folderTemplate := folderTemplate.toList
  fileTemplate := fileTemplate.toList
  symlinkStyle := none

def thorChange (proposed : Policy) : PolicyChange where
  machine := quietMachine
  tables := twoThors
  storyArcId := 1
  current :=
    thorPolicy .copy "\x7bPublisher\x7d \x7bStoryArc\x7d" "\x7bSeries\x7d \x7bIssueNumber\x7d"
  proposed
  hexPlacements _ := ""
  hexPlan _ := ""

/-- What an item shows of its paths. -/
structure Outline where
  id : ℕ
  ownership : Ownership
  newPath : Option (List Char)
  blocked : Bool
deriving DecidableEq

def PreviewItem.outline (item : PreviewItem) : Outline :=
  ⟨item.placementId, item.ownership, item.newPath, item.blocked⟩

def PolicyChange.outline (change : PolicyChange) : Option (List Outline) :=
  match change.arcPlacements.foldlM change.indexPlacement {} with
  | none => none
  | some index => (change.arcPlacements.mapM (change.classify index)).map fun rows =>
    rows.map fun row => row.item.outline

theorem exists_of_outline {list : List Outline}
    (shown : change.outline = some list) :
    ∃ items, Follows change 0 items ∧ items.map PreviewItem.outline = list := by
  unfold PolicyChange.outline at shown
  split at shown
  · cases shown
  · rename_i index counted
    obtain ⟨rows, found, rfl⟩ := Option.map_eq_some_iff.1 shown
    exact ⟨_, exists_follows ⟨counted, found⟩, map_map⟩

/-- Two managed items of an unblocked preview, by what they show. -/
theorem two_of_outline {firstId secondId : ℕ} {first second : List Char}
    (shown : change.outline = some [⟨firstId, .managed, some first, false⟩,
      ⟨secondId, .managed, some second, false⟩]) :
    ∃ items one two, Follows change 0 items ∧ (∀ item ∈ items, item.blocked = false) ∧
      one ∈ items ∧ two ∈ items ∧ (one.ownership = .managed ∧ two.ownership = .managed) ∧
        (one.placementId = firstId ∧ two.placementId = secondId) ∧
          one.newPath = some first ∧ two.newPath = some second := by
  obtain ⟨items, follows, outlined⟩ := exists_of_outline shown
  obtain ⟨one, rest, rfl, oneShown, others⟩ := map_eq_cons_iff.1 outlined
  obtain ⟨two, more, rfl, twoShown, nothing⟩ := map_eq_cons_iff.1 others
  obtain rfl := map_eq_nil_iff.1 nothing
  simp only [PreviewItem.outline, Outline.mk.injEq] at oneShown twoShown
  obtain ⟨oneId, oneOwner, onePath, oneFree⟩ := oneShown
  obtain ⟨twoId, twoOwner, twoPath, twoFree⟩ := twoShown
  refine ⟨[one, two], one, two, follows, ?_, by simp, by simp, ⟨oneOwner, twoOwner⟩,
    ⟨oneId, twoId⟩, onePath, twoPath⟩
  intro item inside
  rcases mem_pair.1 inside with rfl | rfl
  · exact oneFree
  · exact twoFree

/-- With nothing blocked, two placements that stay have paths that are equal but for their case, and
one of them is that of a library file; and two placements that are removed have one path. -/
theorem not_exclusive :
    (∃ change items one two, Follows change 0 items ∧ (∀ item ∈ items, item.blocked = false) ∧
      one ∈ items ∧ two ∈ items ∧ (one.ownership = .managed ∧ two.ownership = .managed) ∧
        one.placementId ≠ two.placementId ∧ ∃ path taken, one.newPath = some path ∧
          two.newPath = some taken ∧
            change.machine.folding.casefold path = change.machine.folding.casefold taken ∧
              path ∈ change.tables.libraryFiles) ∧
    ∃ change items one two, Follows change 0 items ∧ (∀ item ∈ items, item.blocked = false) ∧
      one ∈ items ∧ two ∈ items ∧ (one.ownership = .managed ∧ two.ownership = .managed) ∧
        one.placementId ≠ two.placementId ∧ ∃ path, one.newPath = some path ∧
          two.newPath = some path := by
  constructor
  · have shown : (thorChange (thorPolicy .copy "\x7bPublisher\x7d \x7bStoryArc\x7d"
        "\x7bSeries\x7d \x7bIssueNumber\x7d\x7bIssueTitleOptional\x7d")).outline =
          some [⟨1, .managed, some "/arcs/Marvel War/Thor 1.cbz".toList, false⟩,
            ⟨2, .managed, some "/arcs/MARVEL War/Thor 1.cbz".toList, false⟩] := by
      decide +kernel
    obtain ⟨items, one, two, follows, free, here, there, managed, ⟨firstId, secondId⟩, onePath,
      twoPath⟩ := two_of_outline shown
    refine ⟨_, items, one, two, follows, free, here, there, managed, ?_, _, _, onePath, twoPath,
      by decide +kernel, by decide +kernel⟩
    rw [firstId, secondId]
    decide
  · have shown : (thorChange (thorPolicy .referenceOnly "\x7bStoryArc\x7d"
        "\x7bSeries\x7d \x7bIssueNumber\x7d")).outline =
          some [⟨1, .managed, some "/arcs/War/Thor 1.cbz".toList, false⟩,
            ⟨2, .managed, some "/arcs/War/Thor 1.cbz".toList, false⟩] := by
      decide +kernel
    obtain ⟨items, one, two, follows, free, here, there, managed, ⟨firstId, secondId⟩, onePath,
      twoPath⟩ := two_of_outline shown
    refine ⟨_, items, one, two, follows, free, here, there, managed, ?_, _, onePath, twoPath⟩
    rw [firstId, secondId]
    decide

end Pullbox.Arc.Migration
