import Pullbox.Import.RecommendedConflicts

/-!
# What accepting the recommended conflicts leaves

Accepting decides file by file. The files are as promised if and only if each eligible group has
one preferred file, and the series of that file has no conflict besides those of eligible groups.
-/

namespace Pullbox.Import.RecommendedConflicts

open Grouping List

variable {tables : Tables} {file : ImportedFile} {group : ℕ} {groups : List ℕ}

/-! ### The groups -/

theorem inGroups_iff : inGroups tables groups file = true ↔
    file.importJobId = tables.job.id ∧ file.status = .conflict ∧
      ∃ group ∈ groups, file.conflictGroupId = some group := by
  unfold inGroups
  rw [decide_eq_true_iff]

theorem inGroups_singleton : inGroups tables [group] file = true ↔
    file.importJobId = tables.job.id ∧ file.status = .conflict ∧
      file.conflictGroupId = some group := by
  simp [inGroups_iff]

theorem mem_conflicts : file ∈ conflicts tables ↔
    file ∈ tables.files ∧ file.importJobId = tables.job.id ∧ file.status = .conflict := by
  unfold conflicts
  rw [mem_filter, decide_eq_true_iff]

/-- An eligible group is a candidate group with a conflict of the job. -/
theorem of_eligible (eligible : group ∈ eligibleConflictGroups tables) :
    group ∈ candidateConflictGroups tables ∧
      ∃ file ∈ tables.files, inGroups tables [group] file := by
  unfold eligibleConflictGroups at eligible
  rw [mem_dedup, mem_filterMap] at eligible
  obtain ⟨file, inside, named⟩ := eligible
  obtain ⟨conflict, safe⟩ := mem_filter.1 inside
  have ⟨listed, job, status⟩ := mem_conflicts.1 conflict
  obtain ⟨candidate, -⟩ := of_decide_eq_true safe
  unfold unsafeConflict at candidate
  rw [named] at candidate
  exact ⟨by simpa using candidate, file, listed, inGroups_singleton.2 ⟨job, status, named⟩⟩

/-- A candidate group has one preferred file among those that the library does not own, and that
one is of high confidence. -/
theorem of_candidate (candidate : group ∈ candidateConflictGroups tables) :
    let rows := (tables.files.filter (inGroups tables [group])).filter (owned tables · = false)
    rows.countP (·.isPreferred) = 1 ∧
      rows.countP (fun file => file.isPreferred && highConfidence file) = 1 := by
  unfold candidateConflictGroups at candidate
  obtain ⟨⟨value, rows⟩, inside, rfl⟩ := mem_map.1 candidate
  obtain ⟨grouped, counted⟩ := mem_filter.1 inside
  obtain ⟨rfl, -⟩ := mem_groupBy.1 grouped
  have same : ((conflicts tables).filter (owned tables · = false)).filter
      (·.conflictGroupId = some value) =
      (tables.files.filter (inGroups tables [value])).filter (owned tables · = false) := by
    unfold conflicts
    rw [filter_filter, filter_filter, filter_filter]
    apply filter_congr
    intro file listed
    rw [Bool.eq_iff_iff]
    simp only [Bool.and_eq_true, decide_eq_true_iff, inGroups_singleton]
    tauto
  rw [same] at counted
  simpa using counted

/-- The groups that are accepted are the eligible ones. -/
theorem inGroups_eligible : inGroups tables ((tables.files.filter
    (inGroups tables (eligibleConflictGroups tables))).filterMap (·.conflictGroupId)).dedup file =
      inGroups tables (eligibleConflictGroups tables) file := by
  rw [Bool.eq_iff_iff, inGroups_iff, inGroups_iff]
  refine and_congr_right fun job => and_congr_right fun status => ?_
  constructor
  · rintro ⟨group, listed, named⟩
    obtain ⟨other, inside, otherNamed⟩ := mem_filterMap.1 (mem_dedup.1 listed)
    obtain ⟨-, -, own, eligible, ownNamed⟩ := inGroups_iff.1 (mem_filter.1 inside).2
    have same : own = group := Option.some.inj (ownNamed.symm.trans otherNamed)
    exact ⟨group, same ▸ eligible, named⟩
  · rintro ⟨group, eligible, named⟩
    obtain ⟨-, other, listed, inside⟩ := of_eligible eligible
    obtain ⟨otherJob, otherStatus, otherNamed⟩ := inGroups_singleton.1 inside
    refine ⟨group, mem_dedup.2 (mem_filterMap.2 ⟨other, ?_, otherNamed⟩), named⟩
    exact mem_filter.2
      ⟨listed, inGroups_iff.2 ⟨otherJob, otherStatus, group, eligible, otherNamed⟩⟩

theorem eligible_ne_nil (listed : file ∈ tables.files)
    (inside : inGroups tables (eligibleConflictGroups tables) file = true) :
    ((tables.files.filter (inGroups tables (eligibleConflictGroups tables))).filterMap
      (·.conflictGroupId)).dedup ≠ [] := by
  obtain ⟨job, status, group, eligible, named⟩ := inGroups_iff.1 inside
  apply ne_nil_of_mem
  rw [mem_dedup, mem_filterMap]
  exact ⟨file, mem_filter.2 ⟨listed, inside⟩, named⟩

/-! ### File by file -/

/-- What accepting makes of a file. -/
def accept (tables : Tables) (file : ImportedFile) : ImportedFile :=
  if inGroups tables (eligibleConflictGroups tables) file then
    if file.isPreferred then
      if highConfidence file then { file with status := .confirmed, includeInImport := true }
      else file
    else { file with status := .skipped, includeInImport := false }
  else file

theorem files_applyRecommendedConflicts (tables : Tables) :
    (applyRecommendedConflicts tables).1.files = tables.files.map (accept tables) := by
  unfold applyRecommendedConflicts
  simp only [inGroups_eligible]
  split
  · rename_i none
    symm
    apply (map_congr_left _).trans (map_id _)
    intro file listed
    unfold accept
    rw [if_neg]
    · rfl
    · exact fun inside => eligible_ne_nil listed inside none
  · rw [map_map]
    apply map_congr_left
    intro file listed
    unfold accept
    by_cases inside : inGroups tables (eligibleConflictGroups tables) file = true
    · cases preferred : file.isPreferred <;> cases high : highConfidence file <;>
        simp [inside, preferred, high]
    · simp [inside]

theorem mem_affected {series : ℕ} : series ∈ (applyRecommendedConflicts tables).2 ↔
    ∃ file ∈ tables.files, inGroups tables (eligibleConflictGroups tables) file = true ∧
      file.importSeriesId = series := by
  unfold applyRecommendedConflicts
  simp only [inGroups_eligible]
  split
  · rename_i none
    constructor
    · intro absent
      cases absent
    · rintro ⟨file, listed, inside, -⟩
      exact absurd none (eligible_ne_nil listed inside)
  · simp only [mem_dedup, mem_map, mem_filter, inGroups_eligible, and_assoc]

theorem files_prepareSeriesForRetry (tables : Tables) (seriesIds : List ℕ) :
    (prepareSeriesForRetry tables seriesIds).1.files = tables.files := by
  unfold prepareSeriesForRetry
  dsimp only
  split <;> rfl

/-- An affected series without conflicts is put back for import. -/
theorem series_prepareSeriesForRetry {seriesIds : List ℕ} {series : ImportedSeries}
    (affected : series.id ∈ seriesIds)
    (settled : ∀ file ∈ tables.files, file.importSeriesId = series.id → file.status ≠ .conflict)
    (listed : series ∈ (prepareSeriesForRetry tables seriesIds).1.series) :
    series.status = .confirmed ∧ series.selectedForImport = true := by
  have retried : series.id ∈ seriesIds.filter (· ∉ (tables.files.filter fun file =>
      file.importSeriesId ∈ seriesIds ∧ file.status = .conflict).map (·.importSeriesId)) := by
    rw [mem_filter, decide_eq_true_iff]
    refine ⟨affected, fun remaining => ?_⟩
    obtain ⟨file, inside, same⟩ := mem_map.1 remaining
    obtain ⟨fileListed, conflicting⟩ := mem_filter.1 inside
    exact settled file fileListed same (of_decide_eq_true conflicting).2
  unfold prepareSeriesForRetry at listed
  dsimp only at listed
  split at listed
  · rename_i none
    rw [none] at retried
    cases retried
  · obtain ⟨before, -, changed⟩ := mem_map.1 listed
    split at changed
    · subst changed
      exact ⟨rfl, rfl⟩
    · rename_i out
      subst changed
      exact absurd retried out

theorem files_acceptRecommendedConflicts (tables : Tables) :
    (acceptRecommendedConflicts tables).files = tables.files.map (accept tables) := by
  unfold acceptRecommendedConflicts
  rw [files_prepareSeriesForRetry, files_applyRecommendedConflicts]

theorem changes_acceptRecommendedConflicts (tables : Tables) :
    changes tables (acceptRecommendedConflicts tables) =
      tables.files.map fun file => (file, accept tables file) := by
  unfold changes
  rw [files_acceptRecommendedConflicts]
  nth_rewrite 1 [← map_id tables.files]
  exact zip_map'

/-! ### The equivalence -/

/-- A file is in an eligible group if and only if one of them is its own. -/
theorem inGroups_of_eligible (eligible : group ∈ eligibleConflictGroups tables)
    (inside : inGroups tables [group] file = true) :
    inGroups tables (eligibleConflictGroups tables) file = true := by
  obtain ⟨job, status, named⟩ := inGroups_singleton.1 inside
  exact inGroups_iff.2 ⟨job, status, group, eligible, named⟩

theorem accept_status (inside : inGroups tables (eligibleConflictGroups tables) file = true) :
    ((accept tables file).status = .confirmed ↔
        file.isPreferred = true ∧ highConfidence file = true) ∧
      ((accept tables file).status = .skipped ↔ file.isPreferred = false) := by
  obtain ⟨-, status, -⟩ := inGroups_iff.1 inside
  unfold accept
  rw [if_pos inside]
  cases preferred : file.isPreferred <;> cases high : highConfidence file <;> simp [status]

theorem accept_importSeriesId : (accept tables file).importSeriesId = file.importSeriesId := by
  unfold accept
  split_ifs <;> rfl

theorem accept_of_not_inGroups
    (outside : inGroups tables (eligibleConflictGroups tables) file = false) :
    accept tables file = file := by
  unfold accept
  rw [outside]
  rfl

theorem members_acceptRecommendedConflicts (tables : Tables) (group : ℕ) :
    members tables (acceptRecommendedConflicts tables) group =
      (tables.files.filter (inGroups tables [group])).map
        fun file => (file, accept tables file) := by
  unfold members
  rw [changes_acceptRecommendedConflicts, filter_map]
  rfl

/-- A single preferred file is the one for which the group was a candidate. -/
theorem high_of_preferred (eligible : group ∈ eligibleConflictGroups tables)
    (single : (tables.files.filter (inGroups tables [group])).countP (·.isPreferred) = 1)
    (listed : file ∈ tables.files) (inside : inGroups tables [group] file = true)
    (preferred : file.isPreferred = true) : highConfidence file = true := by
  rw [countP_eq_length_filter, length_eq_one_iff] at single
  obtain ⟨only, alone⟩ := single
  have unique : ∀ other ∈ tables.files, inGroups tables [group] other = true →
      other.isPreferred = true → other = only := by
    intro other otherListed otherInside otherPreferred
    have here : other ∈ (tables.files.filter (inGroups tables [group])).filter (·.isPreferred) :=
      mem_filter.2 ⟨mem_filter.2 ⟨otherListed, otherInside⟩, otherPreferred⟩
    rw [alone] at here
    exact mem_singleton.1 here
  obtain ⟨-, counted⟩ := of_candidate (of_eligible eligible).1
  rw [countP_eq_length_filter, length_eq_one_iff] at counted
  obtain ⟨recommended, recommendedAlone⟩ := counted
  have here := mem_singleton_self recommended
  rw [← recommendedAlone, mem_filter, mem_filter, mem_filter,
    Bool.and_eq_true] at here
  obtain ⟨⟨⟨otherListed, otherInside⟩, -⟩, otherPreferred, high⟩ := here
  rw [unique file listed inside preferred,
    ← unique recommended otherListed otherInside otherPreferred]
  exact high

/-- An eligible group is accepted as promised if and only if it has one preferred file. -/
theorem one_iff (eligible : group ∈ eligibleConflictGroups tables) :
    ((members tables (acceptRecommendedConflicts tables) group).countP
        (·.2.status = .confirmed) = 1 ∧
      ∀ change ∈ members tables (acceptRecommendedConflicts tables) group,
        change.2.status = .confirmed ∨ change.2.status = .skipped) ↔
      (tables.files.filter (inGroups tables [group])).countP (·.isPreferred) = 1 := by
  rw [members_acceptRecommendedConflicts, countP_map]
  have statuses : ∀ file ∈ tables.files.filter (inGroups tables [group]),
      ((accept tables file).status = .confirmed ↔
          file.isPreferred = true ∧ highConfidence file = true) ∧
        ((accept tables file).status = .skipped ↔ file.isPreferred = false) := by
    intro file inside
    exact accept_status (inGroups_of_eligible eligible (mem_filter.1 inside).2)
  constructor
  · rintro ⟨counted, settled⟩
    rw [← counted]
    apply countP_congr
    intro file inside
    have ⟨confirmed, skipped⟩ := statuses file inside
    rw [Function.comp_apply, decide_eq_true_iff, confirmed]
    refine ⟨fun preferred => ⟨preferred, ?_⟩, And.left⟩
    obtain here | there := settled _ (mem_map.2 ⟨file, inside, rfl⟩)
    · exact (confirmed.1 here).2
    · rw [skipped.1 there] at preferred
      cases preferred
  · intro single
    have high : ∀ file ∈ tables.files.filter (inGroups tables [group]),
        file.isPreferred = true → highConfidence file = true := by
      intro file inside
      have ⟨listed, grouped⟩ := mem_filter.1 inside
      exact high_of_preferred eligible single listed grouped
    constructor
    · rw [← single]
      apply countP_congr
      intro file inside
      rw [Function.comp_apply, decide_eq_true_iff, (statuses file inside).1]
      exact ⟨And.left, fun preferred => ⟨preferred, high file inside preferred⟩⟩
    · intro change here
      obtain ⟨file, inside, rfl⟩ := mem_map.1 here
      have ⟨confirmed, skipped⟩ := statuses file inside
      cases preferred : file.isPreferred with
      | false => exact .inr (skipped.2 preferred)
      | true => exact .inl (confirmed.2 ⟨preferred, high file inside preferred⟩)

/-- The recommended conflicts are accepted as promised if and only if each eligible group has one
preferred file and every conflict of its series is in an eligible group. -/
theorem accepted_iff (tables : Tables) :
    Accepted tables (acceptRecommendedConflicts tables) ↔ Resumable tables := by
  constructor
  · intro accepted group eligible
    have single := (one_iff eligible).1 (accepted.one group eligible)
    refine ⟨single, fun file listed inside preferred other otherListed sameSeries conflict => ?_⟩
    have grouped := inGroups_of_eligible eligible inside
    have high := high_of_preferred eligible single listed inside preferred
    have confirmed := (accept_status grouped).1.2 ⟨preferred, high⟩
    obtain ⟨-, before, -⟩ := inGroups_iff.1 grouped
    have resumed := (accepted.resumed (file, accept tables file) (by
      rw [changes_acceptRecommendedConflicts]
      exact mem_map.2 ⟨file, listed, rfl⟩) (by simp [before]) confirmed).1
    rw [files_acceptRecommendedConflicts] at resumed
    by_contra outside
    rw [Bool.not_eq_true] at outside
    have left := resumed (accept tables other) (mem_map.2 ⟨other, otherListed, rfl⟩) (by
      rw [accept_importSeriesId, accept_importSeriesId, sameSeries])
    rw [accept_of_not_inGroups outside] at left
    exact left conflict
  · intro resumable
    have high : ∀ file ∈ tables.files,
        inGroups tables (eligibleConflictGroups tables) file = true → file.isPreferred = true →
          highConfidence file = true := by
      intro file listed inside
      obtain ⟨job, status, group, eligible, named⟩ := inGroups_iff.1 inside
      exact high_of_preferred eligible (resumable group eligible).1 listed
        (inGroups_singleton.2 ⟨job, status, named⟩)
    constructor
    · exact fun group eligible => (one_iff eligible).2 (resumable group eligible).1
    · intro change inside outside
      rw [changes_acceptRecommendedConflicts] at inside
      obtain ⟨file, listed, rfl⟩ := mem_map.1 inside
      exact accept_of_not_inGroups outside
    · intro change inside before after
      rw [changes_acceptRecommendedConflicts] at inside
      obtain ⟨file, listed, rfl⟩ := mem_map.1 inside
      have grouped : inGroups tables (eligibleConflictGroups tables) file = true := by
        by_contra outside
        rw [accept_of_not_inGroups (Bool.eq_false_of_not_eq_true outside)] at after
        exact before after
      obtain ⟨preferred, -⟩ := (accept_status grouped).1.1 after
      obtain ⟨job, status, group, eligible, named⟩ := inGroups_iff.1 grouped
      have settled : ∀ other ∈ tables.files.map (accept tables),
          other.importSeriesId = file.importSeriesId → other.status ≠ .conflict := by
        intro changed here sameSeries
        obtain ⟨other, otherListed, rfl⟩ := mem_map.1 here
        rw [accept_importSeriesId] at sameSeries
        intro conflict
        by_cases otherGrouped : inGroups tables (eligibleConflictGroups tables) other = true
        · have ⟨confirmed, skipped⟩ := accept_status otherGrouped
          cases otherPreferred : other.isPreferred with
          | false =>
            rw [skipped.2 otherPreferred] at conflict
            cases conflict
          | true =>
            have otherHigh := high other otherListed otherGrouped otherPreferred
            rw [confirmed.2 ⟨otherPreferred, otherHigh⟩] at conflict
            cases conflict
        · have unchanged := accept_of_not_inGroups (Bool.eq_false_of_not_eq_true otherGrouped)
          rw [unchanged] at conflict
          exact otherGrouped ((resumable group eligible).2 file listed
            (inGroups_singleton.2 ⟨job, status, named⟩) preferred other otherListed sameSeries
            conflict)
      constructor
      · intro other here
        rw [files_acceptRecommendedConflicts] at here
        rw [accept_importSeriesId]
        exact settled other here
      · intro series here same
        rw [accept_importSeriesId] at same
        have affected : series.id ∈ (applyRecommendedConflicts tables).2 := by
          rw [same]
          exact mem_affected.2 ⟨file, listed, grouped, rfl⟩
        have left : ∀ other ∈ (applyRecommendedConflicts tables).1.files,
            other.importSeriesId = series.id → other.status ≠ .conflict := by
          rw [files_applyRecommendedConflicts, same]
          exact settled
        exact series_prepareSeriesForRetry affected left here

/-- Group 7 spans both series, and the second one has another conflict without a recommendation. -/
def spanningGroup : Tables where
  job := ⟨1, .completed, none⟩
  files := [⟨1, 1, 10, .conflict, none, some "medium", some 7, false, false⟩,
    ⟨2, 1, 20, .conflict, none, some "high", some 7, true, false⟩,
    ⟨3, 1, 20, .conflict, none, some "medium", some 8, false, false⟩,
    ⟨4, 1, 20, .conflict, none, some "medium", some 8, false, false⟩]
  series := [⟨10, .imported, false, none⟩, ⟨20, .imported, false, none⟩]
  libraryIssues := []

/-- A group over two series leaves one of them behind. -/
theorem not_accepted : ¬∀ tables, Accepted tables (acceptRecommendedConflicts tables) := by
  intro promised
  have stranded := (promised spanningGroup).resumed
    (⟨2, 1, 20, .conflict, none, some "high", some 7, true, false⟩,
      ⟨2, 1, 20, .confirmed, none, some "high", some 7, true, true⟩)
  revert stranded
  decide +kernel

end Pullbox.Import.RecommendedConflicts
