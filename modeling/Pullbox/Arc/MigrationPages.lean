import Pullbox.Arc.MigrationScan
import Pullbox.Durable.Results

/-!
# The pages of a preview

The second scan gives each placement the classification that the whole tables give it, wherever its
page ends. The counts and the plan are those of all placements of the arc, and the items of a
response are the page of them that was asked for.
-/

namespace Pullbox.Arc.Migration

open List

open Sql (Keyset.Increasing Keyset.rowsAfter Keyset.page Keyset.nextCursor)
open Placement (Ownership)

variable {placement : PlacementScope} {index : TargetIndex}

namespace PolicyChange

variable (change : PolicyChange)

theorem arcPlacements_increasing : Keyset.Increasing PlacementScope.id change.arcPlacements :=
  change.tables.ordered.sublist filter_sublist

theorem rowsAfter_arcPlacements :
    Keyset.rowsAfter PlacementScope.id change.arcPlacements 0 = change.arcPlacements := by
  apply Sql.Keyset.rowsAfter_zero
  intro placement inside
  exact change.tables.positive placement (mem_of_mem_filter inside)

/-- The first scan is one pass over the placements of the arc. -/
theorem placementTargetIndex_eq : change.placementTargetIndex =
    change.arcPlacements.foldlM change.indexPlacement {} := by
  unfold placementTargetIndex
  rw [Sql.Keyset.scan_eq _ change.arcPlacements_increasing (by decide), rowsAfter_arcPlacements]
  intro index front back
  exact foldlM_append

/-! ### Classification against the whole tables -/

/-- The tracked placement that has a path. -/
def occupiedPlacement (path : List Char) : Option OccupiedPlacement :=
  (change.tables.placements.reverse.find? fun row => row.placementPath = path).map
    fun row => ⟨row.id, row.ownership⟩

def isLibraryFile (path : List Char) : Bool :=
  change.tables.libraryFiles.contains path

/-- The classification of a placement that does not depend on pages. -/
def classify (index : TargetIndex) (placement : PlacementScope) : Option ClassifiedPlacement :=
  change.classifyPlacement index change.occupiedPlacement change.isLibraryFile placement

theorem loadOccupiedPlacements_eq {paths : List (List Char)} {path : List Char}
    (asked : path ∈ paths) :
    change.loadOccupiedPlacements paths path = change.occupiedPlacement path := by
  unfold loadOccupiedPlacements occupiedPlacement
  rw [← filter_reverse, List.find?_filter]
  congr 2
  funext row
  rw [Bool.eq_iff_iff, decide_eq_true_eq, decide_eq_true_eq, decide_eq_true_eq]
  constructor
  · exact And.right
  · rintro rfl
    exact ⟨asked, rfl⟩

theorem loadCanonicalDestinationPaths_eq {paths : List (List Char)} {path : List Char}
    (asked : path ∈ paths) :
    change.loadCanonicalDestinationPaths paths path = change.isLibraryFile path := by
  unfold loadCanonicalDestinationPaths isLibraryFile
  rw [Bool.eq_iff_iff, contains_iff_mem, contains_iff_mem, mem_filter]
  constructor
  · exact And.left
  · intro listed
    exact ⟨listed, decide_eq_true asked⟩

theorem desiredPath_eq {desired : List Char}
    (found : change.desiredPath placement = some (some desired)) :
    renderedTargetPath placement.context change.proposed = some desired := by
  unfold desiredPath at found
  split at found
  · cases found
  · obtain ⟨path, rendered, same⟩ := Option.map_eq_some_iff.1 found
    cases same
    exact rendered

/-- Only the path that the proposed policy renders is looked up. -/
theorem classifyPlacement_congr
    {occupied other : List Char → Option OccupiedPlacement} {canonical known : List Char → Bool}
    (same : ∀ desired, change.countsTarget placement = true →
      renderedTargetPath placement.context change.proposed = some desired →
        occupied desired = other desired ∧ canonical desired = known desired) :
    change.classifyPlacement index occupied canonical placement =
      change.classifyPlacement index other known placement := by
  unfold classifyPlacement
  cases owner : placement.ownership with
  | referenced => rfl
  | managed =>
    cases target : change.desiredPath placement with
    | none => rfl
    | some found =>
      cases change.machine.inspectCurrentManaged placement change.current with
      | none => rfl
      | some inspection =>
        cases found with
        | none => rfl
        | some desired =>
          have agree (counted : change.proposed.mode.managed = true) :
              change.collision index occupied canonical placement desired =
                change.collision index other known placement desired := by
            obtain ⟨places, files⟩ := same desired
              (by unfold countsTarget; rw [owner, counted]; rfl)
              (change.desiredPath_eq target)
            unfold collision
            rw [places, files]
          by_cases counted : change.proposed.mode.managed
          · simp only [agree counted]
          · have removed : change.managedAction placement (some desired) =
                .removeManaged :=
              if_pos counted
            simp only [removed, true_or, if_true]

/-- A managed placement whose path is not rendered is not classified. -/
theorem classify_of_unrendered (counted : change.countsTarget placement = true)
    (fails : renderedTargetPath placement.context change.proposed = none) :
    change.classify index placement = none := by
  unfold countsTarget at counted
  rw [Bool.and_eq_true, decide_eq_true_eq] at counted
  obtain ⟨owner, managed⟩ := counted
  have unlisted : change.desiredPath placement = none := by
    unfold desiredPath
    rw [if_neg, fails]
    · rfl
    · intro logical
      rw [logical] at managed
      cases managed
  unfold classify classifyPlacement
  rw [owner, unlisted]

/-- A page is classified as the whole tables classify its placements. -/
theorem classifyPage_eq (index : TargetIndex) (page : List PlacementScope) :
    change.classifyPage index page = page.mapM (change.classify index) := by
  unfold classifyPage
  cases listed : change.candidatePaths page with
  | none =>
    obtain ⟨placement, inside, fails⟩ :=
      Durable.mapM_eq_none_iff.1 (Option.map_eq_none_iff.1 listed)
    obtain ⟨here, counted⟩ := mem_filter.1 inside
    exact (Durable.mapM_eq_none_iff.2
      ⟨placement, here, change.classify_of_unrendered counted fails⟩).symm
  | some candidates =>
    obtain ⟨paths, mapped, rfl⟩ := Option.map_eq_some_iff.1 listed
    apply Durable.mapM_congr
    intro placement inside
    apply change.classifyPlacement_congr
    intro desired counted rendered
    have asked : desired ∈ paths.eraseDups := by
      obtain ⟨path, known, found⟩ :=
        Durable.result_of_mapM mapped (mem_filter.2 ⟨inside, counted⟩)
      cases rendered.symm.trans found
      exact mem_eraseDups.2 known
    exact ⟨change.loadOccupiedPlacements_eq asked,
      change.loadCanonicalDestinationPaths_eq asked⟩

end PolicyChange

/-! ### The second scan -/

/-- The classification of placements that were classified one after the other. -/
def summary (limit afterPlacementId : ℕ) (rows : List (PlacementScope × ClassifiedPlacement)) :
    Classification :=
  let behind := rows.filter fun row => afterPlacementId < row.1.id
  { placements := rows.map (·.1)
    plan := rows.map (·.2.digestRecord)
    counts := (rows.map (·.2.item)).foldl PreviewCounts.add {}
    responseItems := (behind.take limit).map (·.2.item)
    responseHasMore := limit < behind.length }

theorem add_summary (limit afterPlacementId : ℕ)
    (rows : List (PlacementScope × ClassifiedPlacement)) (placement : PlacementScope)
    (classified : ClassifiedPlacement) :
    (summary limit afterPlacementId rows).add limit afterPlacementId placement classified =
      summary limit afterPlacementId (rows ++ [(placement, classified)]) := by
  unfold Classification.add summary
  dsimp only
  rw [map_append, map_append, map_append, foldl_append, filter_append]
  by_cases before : placement.id ≤ afterPlacementId
  · have skipped : [(placement, classified)].filter
        (fun row => afterPlacementId < row.1.id) = [] := by
      simp [before]
    rw [if_pos before, skipped, append_nil]
    rfl
  · have taken : [(placement, classified)].filter
        (fun row => afterPlacementId < row.1.id) = [(placement, classified)] := by
      simp [Nat.lt_of_not_le before]
    rw [if_neg before, taken, length_append, length_map, length_take]
    by_cases room : (rows.filter fun row => afterPlacementId < row.1.id).length < limit
    · rw [if_pos (by omega), take_of_length_le (Nat.le_of_lt room),
        take_of_length_le (by rw [length_append]; exact room), map_append]
      have few : ¬ limit < (rows.filter fun row => afterPlacementId < row.1.id).length := by omega
      have fewer : ¬ limit < (rows.filter fun row => afterPlacementId < row.1.id).length +
          [(placement, classified)].length := by
        rw [length_singleton]
        omega
      rw [decide_eq_false few, decide_eq_false fewer]
      rfl
    · rw [if_neg (by omega), take_append_of_le_length (Nat.le_of_not_lt room)]
      have more : limit < (rows.filter fun row => afterPlacementId < row.1.id).length +
          [(placement, classified)].length := by
        rw [length_singleton]
        omega
      rw [decide_eq_true more]
      rfl

theorem foldl_add (limit afterPlacementId : ℕ)
    (rows : List (PlacementScope × ClassifiedPlacement)) :
    rows.foldl (fun before row => before.add limit afterPlacementId row.1 row.2) {} =
      summary limit afterPlacementId rows := by
  induction rows using List.reverseRecOn with
  | nil => simp [summary]
  | append_singleton rows row ih =>
    rw [foldl_append, ih]
    exact add_summary limit afterPlacementId rows row.1 row.2

namespace PolicyChange

variable (change : PolicyChange)

/-- The second scan is one pass over the placements of the arc. -/
theorem classifyPlacements_eq (index : TargetIndex) (limit afterPlacementId : ℕ) :
    change.classifyPlacements index limit afterPlacementId =
      (change.arcPlacements.mapM (change.classify index)).map fun rows =>
        summary limit afterPlacementId (change.arcPlacements.zip rows) := by
  have scanned (before : Classification) (page : List PlacementScope) :
      change.classifyScanned index limit afterPlacementId before page =
        page.foldlM (fun before placement => (change.classify index placement).map
          (before.add limit afterPlacementId placement)) before := by
    unfold classifyScanned
    rw [classifyPage_eq, Durable.foldlM_map_eq]
  unfold classifyPlacements
  rw [Sql.Keyset.scan_eq _ change.arcPlacements_increasing (by decide), rowsAfter_arcPlacements,
    scanned, Durable.foldlM_map_eq]
  · congr 1
    funext rows
    exact foldl_add limit afterPlacementId _
  · intro before front back
    rw [scanned, scanned, foldlM_append]
    congr 1
    funext next
    exact (scanned next back).symm

/-! ### What a classification says -/

/-- The classification of a managed placement. -/
structure Classifies (index : TargetIndex) (placement : PlacementScope) (item : PreviewItem)
    (desired : Option (List Char)) : Prop where
  rendered : change.desiredPath placement = some desired
  newPath : item.newPath = desired
  action : item.action = change.managedAction placement desired
  free : item.blocked = false → item.action = .migrateManaged → ∃ path, desired = some path ∧
    change.collision index change.occupiedPlacement change.isLibraryFile placement path = none

theorem inspectedItem_cases (placement : PlacementScope) (desired : List Char)
    (inspection : Inspection) (code : String) (size : Option ℕ) :
    ∃ blocked collision reason, change.inspectedItem placement desired inspection code size =
      change.managedItem placement (some desired) .migrateManaged blocked collision reason
        size := by
  unfold inspectedItem
  split
  · exact ⟨_, _, _, rfl⟩
  · exact ⟨_, _, _, rfl⟩

theorem classifyMove_item (placement : PlacementScope) (desired : List Char) (old : Inspection) :
    ∃ blocked collision reason, (change.classifyMove placement desired old).item =
      change.managedItem placement (some desired) .migrateManaged blocked collision reason
        old.sourceSize := by
  unfold classifyMove
  split
  · exact change.inspectedItem_cases ..
  · exact change.inspectedItem_cases ..

/-- A classification keeps the identity of its placement, and says what becomes of it. -/
theorem classify_cases {result : ClassifiedPlacement}
    (found : change.classify index placement = some result) :
    result.item.placementId = placement.id ∧ result.item.ownership = placement.ownership ∧
      result.item.oldPath = placement.placementPath ∧
      (placement.ownership = .managed → ∃ desired,
        change.Classifies index placement result.item desired) := by
  unfold classify classifyPlacement at found
  split at found
  · rename_i referenced
    cases found
    refine ⟨rfl, rfl, rfl, ?_⟩
    intro managed
    cases referenced.symm.trans managed
  · split at found
    · rename_i desired old rendered _
      dsimp only at found
      split at found
      · cases found
        exact ⟨rfl, rfl, rfl, fun _ => ⟨desired, rendered, rfl, rfl, nofun⟩⟩
      · split at found
        · rename_i stays
          cases found
          refine ⟨rfl, rfl, rfl, fun _ => ⟨desired, rendered, rfl, rfl, ?_⟩⟩
          intro _ moves
          rcases stays with removed | unchanged
          · cases removed.symm.trans moves
          · cases unchanged.symm.trans moves
        · rename_i moves
          have action : change.managedAction placement desired = .migrateManaged := by
            revert moves
            unfold managedAction
            split
            · simp
            · split
              · simp
              · split <;> simp
          split at found
          · cases found
          · rename_i path
            split at found
            · cases found
              exact ⟨rfl, rfl, rfl, fun _ => ⟨some path, rendered, rfl, rfl, nofun⟩⟩
            · rename_i free
              cases found
              obtain ⟨blocked, collision, reason, item⟩ :=
                change.classifyMove_item placement path old
              rw [item]
              exact ⟨rfl, rfl, rfl, fun _ =>
                ⟨some path, rendered, rfl, action.symm, fun _ _ => ⟨path, rfl, free⟩⟩⟩
    · cases found

end PolicyChange

end Pullbox.Arc.Migration
