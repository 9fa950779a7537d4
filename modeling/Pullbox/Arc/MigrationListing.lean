import Pullbox.Arc.MigrationPages

/-!
# Following the cursors of a preview

A preview is its counts and its plan, which belong to all placements of the arc, and one page of
their items. Who follows the cursors from the start lists each placement once.
-/

namespace Pullbox.Arc.Migration

open List

open Sql (Keyset.Increasing Keyset.rowsAfter Keyset.page Keyset.nextCursor)

/-- The key of a page of items. -/
def ClassifiedPlacement.id (row : ClassifiedPlacement) : ℕ :=
  row.item.placementId

variable {placements : List PlacementScope} {rows : List ClassifiedPlacement}

section Zip

variable (same : List.Forall₂ (fun (placement : PlacementScope) (row : ClassifiedPlacement) =>
  row.id = placement.id) placements rows)

include same

theorem zip_rowsAfter (cursor : ℕ) :
    ((placements.zip rows).filter fun row => cursor < row.1.id).map Prod.snd =
      Keyset.rowsAfter ClassifiedPlacement.id rows cursor := by
  unfold Keyset.rowsAfter
  induction same with
  | nil => rfl
  | @cons placement row others more here _ ih =>
    rw [zip_cons_cons, filter_cons, filter_cons, here]
    by_cases behind : cursor < placement.id
    · rw [decide_eq_true behind, if_pos rfl, if_pos rfl, map_cons, ih]
    · rw [decide_eq_false behind, if_neg Bool.false_ne_true, if_neg Bool.false_ne_true, ih]

theorem map_id_eq : rows.map ClassifiedPlacement.id = placements.map PlacementScope.id := by
  induction same with
  | nil => rfl
  | cons here _ ih => rw [map_cons, map_cons, here, ih]

theorem summary_zip (limit cursor : ℕ) : summary limit cursor (placements.zip rows) = {
    placements
    plan := rows.map (·.digestRecord)
    counts := (rows.map (·.item)).foldl PreviewCounts.add {}
    responseItems := (Keyset.page ClassifiedPlacement.id rows cursor limit).map (·.item)
    responseHasMore := limit < (Keyset.rowsAfter ClassifiedPlacement.id rows cursor).length } := by
  have lengths := same.length_eq
  have behind := zip_rowsAfter same cursor
  have firsts : (placements.zip rows).map (·.1) = placements :=
    map_fst_zip (Nat.le_of_eq lengths)
  have seconds : (placements.zip rows).map (·.2) = rows :=
    map_snd_zip (Nat.le_of_eq lengths.symm)
  have through {β : Type} (f : ClassifiedPlacement → β) :
      (placements.zip rows).map (fun row => f row.2) = rows.map f := by
    conv_rhs => rw [← seconds]
    rw [map_map]
    rfl
  unfold summary Keyset.page
  dsimp only
  rw [firsts, through fun row => row.digestRecord, through fun row => row.item, ← behind,
    length_map, ← map_take, map_map]
  rfl

end Zip

namespace PolicyChange

variable (change : PolicyChange)

theorem indexPlacement_placements {index after : TargetIndex} {placement : PlacementScope}
    (counted : change.indexPlacement index placement = some after) :
    after.placements = index.placements ++ [placement] := by
  unfold indexPlacement at counted
  split at counted
  · split at counted
    · cases counted
    · cases counted
      rfl
  · cases counted
    rfl

theorem foldlM_placements {index after : TargetIndex}
    (counted : placements.foldlM change.indexPlacement index = some after) :
    after.placements = index.placements ++ placements := by
  induction placements generalizing index with
  | nil =>
    cases counted
    exact (append_nil _).symm
  | cons first rest ih =>
    rw [foldlM_cons] at counted
    obtain ⟨next, here, counted⟩ := Option.bind_eq_some_iff.1 counted
    rw [ih counted, change.indexPlacement_placements here, append_assoc]
    rfl

/-- The placements of the arc, classified; what all previews of the change are pages of. -/
structure Plan (rows : List ClassifiedPlacement) (index : TargetIndex) : Prop where
  counted : change.arcPlacements.foldlM change.indexPlacement {} = some index
  classified : change.arcPlacements.mapM (change.classify index) = some rows

/-- The response for a page. -/
def response (rows : List ClassifiedPlacement) (limit cursor : ℕ) : Preview where
  counts := (rows.map (·.item)).foldl PreviewCounts.add {}
  planDigest := change.hexPlan (rows.map (·.digestRecord))
  items := (Keyset.page ClassifiedPlacement.id rows cursor limit).map (·.item)
  limit
  afterPlacementId := cursor
  nextCursor := Keyset.nextCursor ClassifiedPlacement.id rows cursor limit
  hasMore := limit < (Keyset.rowsAfter ClassifiedPlacement.id rows cursor).length

variable {change} {index : TargetIndex}

theorem Plan.ids (plan : change.Plan rows index) :
    List.Forall₂ (fun (placement : PlacementScope) (row : ClassifiedPlacement) =>
      row.id = placement.id) change.arcPlacements rows :=
  (Durable.mapM_eq_some_iff.1 plan.classified).imp fun _ _ found =>
    (change.classify_cases found).1

theorem Plan.map_id (plan : change.Plan rows index) :
    rows.map ClassifiedPlacement.id = change.arcPlacements.map PlacementScope.id :=
  map_id_eq plan.ids

theorem Plan.increasing (plan : change.Plan rows index) :
    Keyset.Increasing ClassifiedPlacement.id rows := by
  have ordered := pairwise_map.2 change.arcPlacements_increasing
  rw [← plan.map_id] at ordered
  exact pairwise_map.1 ordered

theorem Plan.rowsAfter_zero (plan : change.Plan rows index) :
    Keyset.rowsAfter ClassifiedPlacement.id rows 0 = rows := by
  apply Sql.Keyset.rowsAfter_zero
  intro row inside
  obtain ⟨placement, here, found⟩ := Durable.item_of_mapM plan.classified inside
  have positive := change.tables.positive placement (mem_of_mem_filter here)
  exact Nat.lt_of_lt_of_eq positive (change.classify_cases found).1.symm

theorem Plan.unique {others : List ClassifiedPlacement} {other : TargetIndex}
    (plan : change.Plan rows index) (known : change.Plan others other) :
    rows = others ∧ index = other := by
  cases plan.counted.symm.trans known.counted
  cases plan.classified.symm.trans known.classified
  exact ⟨rfl, rfl⟩

theorem boundedPage_ok_iff {limit cursor : ℤ} {page : ℕ × ℕ} :
    boundedPage limit cursor = .ok page ↔
      (1 ≤ limit ∧ limit ≤ 100 ∧ 0 ≤ cursor) ∧ (limit.toNat, cursor.toNat) = page := by
  unfold boundedPage maxResponsePageSize
  split
  · simp only [reduceCtorEq, false_iff]
    omega
  · split
    · simp only [reduceCtorEq, false_iff]
      omega
    · rw [Except.ok.injEq]
      constructor
      · intro same
        exact ⟨by omega, same⟩
      · exact And.right

/-- A preview is a page of the plan. -/
theorem previewPolicyChange_ok_iff {limit cursor : ℤ} {preview : Preview} :
    change.previewPolicyChange limit cursor = .ok preview ↔
      (1 ≤ limit ∧ limit ≤ 100 ∧ 0 ≤ cursor) ∧ ∃ rows index, change.Plan rows index ∧
        preview = change.response rows limit.toNat cursor.toNat := by
  have paged {rows : List ClassifiedPlacement} {index : TargetIndex} (plan : change.Plan rows index)
      (limit cursor : ℕ) : change.classifyPlacements index limit cursor =
        some {
          placements := change.arcPlacements
          plan := rows.map (·.digestRecord)
          counts := (rows.map (·.item)).foldl PreviewCounts.add {}
          responseItems := (Keyset.page ClassifiedPlacement.id rows cursor limit).map (·.item)
          responseHasMore :=
            limit < (Keyset.rowsAfter ClassifiedPlacement.id rows cursor).length } := by
    rw [change.classifyPlacements_eq, plan.classified, Option.map_some, summary_zip plan.ids]
  unfold previewPolicyChange
  cases bounded : boundedPage limit cursor with
  | error error =>
    constructor
    · nofun
    · rintro ⟨within, _⟩
      cases bounded.symm.trans (boundedPage_ok_iff.2 ⟨within, rfl⟩)
  | ok page =>
    obtain ⟨within, rfl⟩ := boundedPage_ok_iff.1 bounded
    dsimp only
    rw [change.placementTargetIndex_eq]
    cases counted : change.arcPlacements.foldlM change.indexPlacement {} with
    | none =>
      constructor
      · nofun
      · rintro ⟨_, rows, index, plan, _⟩
        cases counted.symm.trans plan.counted
    | some index =>
      cases found : change.arcPlacements.mapM (change.classify index) with
      | none =>
        dsimp only
        rw [change.classifyPlacements_eq, found]
        constructor
        · nofun
        · rintro ⟨_, rows, other, plan, _⟩
          cases counted.symm.trans plan.counted
          cases found.symm.trans plan.classified
      | some rows =>
        have plan : change.Plan rows index := ⟨counted, found⟩
        have seen : index.placements = change.arcPlacements :=
          change.foldlM_placements counted
        dsimp only
        rw [paged plan, seen]
        dsimp only
        have shown : Preview.mk ((rows.map (·.item)).foldl PreviewCounts.add {})
            (change.hexPlan (rows.map (·.digestRecord)))
            ((Keyset.page ClassifiedPlacement.id rows cursor.toNat limit.toNat).map (·.item))
            limit.toNat cursor.toNat
            (if decide (limit.toNat < (Keyset.rowsAfter ClassifiedPlacement.id rows
                cursor.toNat).length) = true then
              ((Keyset.page ClassifiedPlacement.id rows cursor.toNat limit.toNat).map
                (·.item)).getLast?.map PreviewItem.placementId
            else none)
            (limit.toNat <
              (Keyset.rowsAfter ClassifiedPlacement.id rows cursor.toNat).length) =
              change.response rows limit.toNat cursor.toNat := by
          unfold response Keyset.nextCursor
          rw [List.getLast?_map, Option.map_map]
          simp only [decide_eq_true_eq]
          rfl
        rw [if_neg (by simp), shown, Except.ok.injEq]
        constructor
        · rintro rfl
          exact ⟨within, rows, index, plan, rfl⟩
        · rintro ⟨_, others, other, known, rfl⟩
          rw [(plan.unique known).1]

end PolicyChange

end Pullbox.Arc.Migration

/-!
## The new paths of a preview

The first scan counts each path that a managed placement is to have. A placement that moves and is
not blocked has its new path to itself.
-/

namespace Pullbox.Arc.Migration

open List

open Files (abspath normpath)
open Placement (Ownership)

/-- Paths that are equal but for their case have one folded key. -/
theorem Machine.foldedKey_eq (machine : Machine) {first second : List Char}
    (same : machine.folding.casefold first = machine.folding.casefold second) :
    (machine.pathKeys first).2 = (machine.pathKeys second).2 := by
  unfold pathKeys
  dsimp only
  apply congrArg machine.sha256
  apply machine.folding.casefold_abspath
  rw [machine.folding.casefold_normpath, machine.folding.casefold_normpath, same]

theorem bump_eq (counts : String → ℕ) (key other : String) :
    bump counts key other = counts other + [key].count other := by
  unfold bump
  by_cases same : other = key
  · subst same
    rw [Function.update_self, count_singleton_self]
  · rw [Function.update_of_ne same, count_eq_zero_of_not_mem (by simpa using same)]
    rfl

namespace PolicyChange

variable (change : PolicyChange) {placements : List PlacementScope}
  {index after : TargetIndex} {placement : PlacementScope}

/-- The path that the first scan counts for a placement. -/
def countedTarget (placement : PlacementScope) : Option (List Char) :=
  if change.countsTarget placement then renderedTargetPath placement.context change.proposed
  else none

def foldedKey (placement : PlacementScope) : Option String :=
  (change.countedTarget placement).map fun target => (change.machine.pathKeys target).2

theorem indexPlacement_foldedCounts (counted : change.indexPlacement index placement = some after)
    (key : String) : after.foldedCounts key =
      index.foldedCounts key + ([placement].filterMap change.foldedKey).count key := by
  unfold indexPlacement at counted
  split at counted
  · rename_i managed
    split at counted
    · cases counted
    · rename_i target rendered
      cases counted
      have known : change.foldedKey placement = some (change.machine.pathKeys target).2 := by
        unfold foldedKey countedTarget
        rw [if_pos managed, rendered]
        rfl
      rw [filterMap_cons_some known]
      exact bump_eq ..
  · rename_i skipped
    cases counted
    have none : change.foldedKey placement = none := by
      unfold foldedKey countedTarget
      rw [if_neg skipped]
      rfl
    rw [filterMap_cons_none none]
    rfl

/-- The counts of the first scan are those of all placements. -/
theorem foldlM_foldedCounts (counted : placements.foldlM change.indexPlacement index = some after)
    (key : String) : after.foldedCounts key =
      index.foldedCounts key + (placements.filterMap change.foldedKey).count key := by
  induction placements generalizing index with
  | nil =>
    cases counted
    rfl
  | cons first rest ih =>
    rw [foldlM_cons] at counted
    obtain ⟨next, here, later⟩ := Option.bind_eq_some_iff.1 counted
    rw [ih later, change.indexPlacement_foldedCounts here, Nat.add_assoc, ← count_append,
      ← filterMap_append]
    rfl

theorem countedTarget_of_desired {desired : List Char} (owner : placement.ownership = .managed)
    (managed : change.proposed.mode.managed = true)
    (found : change.desiredPath placement = some (some desired)) :
    change.countedTarget placement = some desired := by
  unfold countedTarget countsTarget
  rw [owner, managed]
  exact change.desiredPath_eq found

/-- A path with no collision belongs to one placement, and to no library file. -/
theorem collision_eq_none {desired : List Char}
    (free : change.collision index change.occupiedPlacement change.isLibraryFile placement desired =
      none) :
    index.foldedCounts (change.machine.pathKeys desired).2 ≤ 1 ∧
      desired ∉ change.tables.libraryFiles ∧
        ∀ row ∈ change.tables.placements, row.id ≠ placement.id → row.placementPath ≠ desired := by
  unfold collision at free
  dsimp only at free
  split at free
  · cases free
  · split at free
    · cases free
    · rename_i single
      split at free
      · cases free
      · rename_i unlisted
        refine ⟨Nat.le_of_not_lt single, ?_, ?_⟩
        · intro listed
          exact unlisted (contains_iff_mem.2 listed)
        · intro row inside other here
          have once : (change.tables.placements.map PlacementScope.placementPath).Nodup :=
            pairwise_map.2 change.tables.paths
          cases found : change.tables.placements.reverse.find? fun row =>
              row.placementPath = desired with
          | none =>
            have none := List.find?_eq_none.1 found row (mem_reverse.2 inside)
            exact none (decide_eq_true here)
          | some tracked =>
            have spelled : tracked.placementPath = desired := by
              have here := List.find?_some found
              exact of_decide_eq_true here
            have listed := mem_reverse.1 (mem_of_find?_eq_some found)
            have same := inj_on_of_nodup_map once listed inside (spelled.trans here.symm)
            subst same
            unfold occupiedPlacement at free
            rw [found] at free
            dsimp only [Option.map_some] at free
            rw [if_neg other] at free
            split at free <;> cases free

/-- What moves is managed by the proposed policy. -/
theorem managed_of_migrate {desired : Option (List Char)}
    (moves : change.managedAction placement desired = .migrateManaged) :
    change.proposed.mode.managed = true := by
  by_contra unmanaged
  unfold managedAction at moves
  rw [if_pos unmanaged] at moves
  cases moves

/-- What stays is named where it is. -/
theorem unchanged_place {desired : Option (List Char)}
    (stays : change.managedAction placement desired = .managedUnchanged) :
    ∃ path, desired = some path ∧
      change.machine.normalPath path = change.machine.normalPath placement.placementPath := by
  unfold managedAction at stays
  split at stays
  · cases stays
  · split at stays
    · cases stays
    · rename_i path
      split at stays
      · rename_i same
        exact ⟨path, rfl, same.1⟩
      · cases stays

end PolicyChange

end Pullbox.Arc.Migration
