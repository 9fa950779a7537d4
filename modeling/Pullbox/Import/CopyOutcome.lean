import Pullbox.Import.CopyCollapse

/-!
# The files after the detection of duplicate copies

A collapsed file points to its representative. A representative is not collapsed itself, unless it
leads several identical copies and another file of the same contents is preferred to it.
-/

namespace Pullbox.Import.DuplicateCopies

open Grouping List

variable {rules : CopyRules} {duplicateSeries : Bool} {files group : List ImportedFile}
  {file representative : ImportedFile} {detection : Detection} {duplicateGroupCounter : ℕ}
  {entry : (GroupKind × TargetKey) × List ImportedFile} {pairs : List (ImportedFile × ImportedFile)}

/-! ### One candidate group -/

/-- No file of the same signature is preferred to the file. -/
def Leads (rules : CopyRules) (group : List ImportedFile) (file : ImportedFile) : Prop :=
  ∀ other ∈ group, signature rules other = signature rules file →
    preferredFileSortKey other ≤ preferredFileSortKey file

theorem mem_remaining (distinct : DistinctIds group) :
    file ∈ remaining rules group ↔ file ∈ group ∧ Leads rules group file := by
  unfold remaining exactPairs
  rw [mem_filter, decide_eq_true_iff,
    mem_map_fst_collapseBy distinct.nodup distinct.injective]
  constructor
  · rintro ⟨inside, unbeaten⟩
    refine ⟨inside, fun other otherInside same => ?_⟩
    apply le_of_not_gt
    intro below
    exact unbeaten ⟨inside, _, rfl, other, otherInside, congrArg some same, below⟩
  · rintro ⟨inside, leads⟩
    refine ⟨inside, ?_⟩
    rintro ⟨-, value, named, other, otherInside, otherNamed, below⟩
    have same := leads other otherInside (Option.some.inj (otherNamed.trans named.symm))
    exact absurd below same.not_gt

/-- A file is collapsed by its hash if another one of its size has the same hash and is
preferred. -/
theorem mem_map_fst_hashPairs (distinct : DistinctIds group) :
    file ∈ (hashPairs rules group).map Prod.fst ↔
      file ∈ group ∧ ∃ hash, usableHash rules file = some hash ∧
        ∃ other ∈ group, other.fileSize = file.fileSize ∧ usableHash rules other = some hash ∧
          preferredFileSortKey file < preferredFileSortKey other := by
  unfold hashPairs
  rw [map_flatMap, mem_flatMap]
  constructor
  · rintro ⟨⟨size, same⟩, inside, first⟩
    have inner := distinct.of_groupBy inside
    obtain ⟨here, hash, hashed, other, otherHere, otherHashed, below⟩ :=
      (mem_map_fst_collapseBy inner.nodup inner.injective).1 first
    have ⟨fileInside, fileSized⟩ := (mem_group inside).1 here
    have ⟨otherInside, otherSized⟩ := (mem_group inside).1 otherHere
    have sizes := Option.some.inj (otherSized.trans fileSized.symm)
    exact ⟨fileInside, hash, hashed, other, otherInside, sizes, otherHashed, below⟩
  · rintro ⟨fileInside, hash, hashed, other, otherInside, sizes, otherHashed, below⟩
    obtain ⟨same, inside⟩ : ∃ same, (file.fileSize, same) ∈
        groupBy (fun file : ImportedFile => some file.fileSize) group :=
      exists_group fileInside rfl
    have inner := distinct.of_groupBy inside
    refine ⟨_, inside, (mem_map_fst_collapseBy inner.nodup inner.injective).2 ?_⟩
    refine ⟨(mem_group inside).2 ⟨fileInside, rfl⟩, hash, hashed, other, ?_, otherHashed, below⟩
    exact (mem_group inside).2 ⟨otherInside, congrArg some sizes⟩

/-- The representative of equal contents is not collapsed itself. -/
theorem representative_of_hashPairs (distinct : DistinctIds group)
    (inside : (file, representative) ∈ hashPairs rules group) :
    representative ∈ group ∧ representative ∉ (hashPairs rules group).map Prod.fst := by
  obtain ⟨⟨size, same⟩, here, paired⟩ := mem_flatMap.1 inside
  have inner := distinct.of_groupBy here
  obtain ⟨-, inRepresentative, -, hash, -, hashed, highest⟩ :=
    (mem_collapseBy inner.nodup inner.injective).1 paired
  have ⟨representativeInside, sized⟩ := (mem_group here).1 inRepresentative
  refine ⟨representativeInside, ?_⟩
  rw [mem_map_fst_hashPairs distinct]
  rintro ⟨-, equal, equalHashed, other, otherInside, sizes, otherHashed, below⟩
  have equalHash : equal = hash := Option.some.inj (equalHashed.symm.trans hashed)
  have otherHere := (mem_group here).2 ⟨otherInside, (congrArg some sizes).trans sized⟩
  exact absurd below (highest other otherHere (equalHash ▸ otherHashed)).not_gt

/-- No leader of several identical copies has the contents of another leader that is preferred to
it. -/
def SettledGroup (rules : CopyRules) (group : List ImportedFile) : Prop :=
  ∀ leader ∈ group, ∀ copy ∈ group, ∀ other ∈ group,
    Leads rules group leader → Leads rules group other →
    copy ≠ leader → signature rules copy = signature rules leader →
    other.fileSize = leader.fileSize → usableHash rules other = usableHash rules leader →
    usableHash rules leader ≠ none → preferredFileSortKey other ≤ preferredFileSortKey leader

/-- The files that match a target. -/
def targetGroup (files : List ImportedFile) (target : TargetKey) : List ImportedFile :=
  files.filter fun file => file.status = .matched ∧ duplicateTargetKey file = some target

def SettledRepresentatives (rules : CopyRules) (files : List ImportedFile) : Prop :=
  ∀ target, SettledGroup rules (targetGroup files target)

theorem representative_of_exactPairs (distinct : DistinctIds group)
    (inside : (file, representative) ∈ exactPairs rules group) :
    file ∈ group ∧ representative ∈ group ∧ file ≠ representative ∧
      signature rules file = signature rules representative ∧ Leads rules group representative := by
  obtain ⟨fileInside, representativeInside, apart, value, fileSigned, signed, highest⟩ :=
    (mem_collapseBy distinct.nodup distinct.injective).1 inside
  have same := Option.some.inj (fileSigned.trans signed.symm)
  refine ⟨fileInside, representativeInside, apart, same, fun other otherInside otherSigned => ?_⟩
  exact highest other otherInside ((congrArg some otherSigned).trans signed)

theorem mem_exactPairs (distinct : DistinctIds group) (fileInside : file ∈ group)
    (representativeInside : representative ∈ group) (apart : file ≠ representative)
    (same : signature rules file = signature rules representative)
    (leads : Leads rules group representative) :
    (file, representative) ∈ exactPairs rules group := by
  apply (mem_collapseBy distinct.nodup distinct.injective).2
  refine ⟨fileInside, representativeInside, apart, _, congrArg some same, rfl, ?_⟩
  exact fun other otherInside otherSigned => leads other otherInside (Option.some.inj otherSigned)

/-- In a settled group no representative is collapsed itself, and in no other group. -/
theorem settledGroup_iff (distinct : DistinctIds group) (target : TargetKey) :
    SettledGroup rules group ↔ ∀ pair ∈ groupPairs rules ((.matched, target), group),
      pair.2 ∉ (groupPairs rules ((.matched, target), group)).map Prod.fst := by
  have left := distinct.sublist (remaining_sublist rules group)
  change _ ↔ ∀ pair ∈ exactPairs rules group ++ hashPairs rules (remaining rules group),
    pair.2 ∉ (exactPairs rules group ++ hashPairs rules (remaining rules group)).map Prod.fst
  have remains : ∀ file, file ∈ remaining rules group →
      file ∉ (exactPairs rules group).map Prod.fst := by
    intro file inside
    exact of_decide_eq_true (mem_filter.1 inside).2
  rw [map_append]
  constructor
  · rintro settled ⟨file, leader⟩ inside first
    obtain exact | hash := mem_append.1 inside
    · have ⟨fileInside, leaderInside, apart, same, leads⟩ :=
        representative_of_exactPairs distinct exact
      have leaderRemains := (mem_remaining distinct).2 ⟨leaderInside, leads⟩
      have later := (mem_append.1 first).resolve_left (remains leader leaderRemains)
      obtain ⟨-, hash, hashed, other, otherRemains, sizes, otherHashed, below⟩ :=
        (mem_map_fst_hashPairs left).1 later
      have ⟨otherInside, otherLeads⟩ := (mem_remaining distinct).1 otherRemains
      have preferred := settled leader leaderInside file fileInside other otherInside leads
        otherLeads apart same sizes (otherHashed.trans hashed.symm) (by simp [hashed])
      exact absurd below preferred.not_gt
    · have ⟨leaderRemains, uncollapsed⟩ := representative_of_hashPairs left hash
      obtain before | later := mem_append.1 first
      · exact remains leader leaderRemains before
      · exact uncollapsed later
  · intro uncollapsed leader leaderInside copy copyInside other otherInside leads otherLeads apart
      same sizes hashes usable
    apply le_of_not_gt
    intro below
    obtain ⟨hash, hashed⟩ := Option.ne_none_iff_exists'.1 usable
    have exact := mem_exactPairs distinct copyInside leaderInside apart same leads
    apply uncollapsed _ (mem_append_left _ exact)
    apply mem_append_right
    apply (mem_map_fst_hashPairs left).2
    exact ⟨(mem_remaining distinct).2 ⟨leaderInside, leads⟩, hash, hashed, other,
      (mem_remaining distinct).2 ⟨otherInside, otherLeads⟩, sizes, hashes.trans hashed, below⟩

theorem mem_collapse_of_distinct (distinct : DistinctIds group) :
    (file, representative) ∈ collapse preferredFileSortKey group ↔
      file ∈ group ∧ representative ∈ group ∧ file ≠ representative ∧
        ∀ other ∈ group, preferredFileSortKey other ≤ preferredFileSortKey representative :=
  mem_collapse distinct.nodup distinct.injective

theorem not_mem_collapse_of_best {best : ImportedFile} (distinct : DistinctIds group)
    (inside : best ∈ group)
    (highest : ∀ other ∈ group, preferredFileSortKey other ≤ preferredFileSortKey best) :
    best ∉ (collapse preferredFileSortKey group).map Prod.fst := by
  intro first
  obtain ⟨⟨same, other⟩, paired, rfl⟩ := mem_map.1 first
  obtain ⟨-, otherInside, apart, above⟩ := (mem_collapse_of_distinct distinct).1 paired
  exact apart (distinct.injective same inside other otherInside
    (le_antisymm (above same inside) (highest other otherInside)))

/-- The preferred file of a group is not collapsed at any stage. -/
theorem exists_kept (rules : CopyRules)
    (distinct : DistinctIds entry.2) (inside : file ∈ entry.2) :
    ∃ kept ∈ entry.2, kept ∉ (groupPairs rules entry).map Prod.fst := by
  obtain ⟨kept, keptInside, highest⟩ := exists_best preferredFileSortKey inside
  refine ⟨kept, keptInside, ?_⟩
  unfold groupPairs
  split
  · rw [map_append, mem_append]
    have left := distinct.sublist (remaining_sublist rules entry.2)
    rintro (first | later)
    · obtain ⟨-, _, -, other, otherInside, -, below⟩ :=
        (mem_map_fst_collapseBy distinct.nodup distinct.injective).1 first
      exact absurd below (highest other otherInside).not_gt
    · obtain ⟨-, _, -, other, otherRemains, -, -, below⟩ := (mem_map_fst_hashPairs left).1 later
      have otherInside := (remaining_sublist rules entry.2).subset otherRemains
      exact absurd below (highest other otherInside).not_gt
  · exact not_mem_collapse_of_best distinct keptInside highest

/-- A representative is a file of the group. Where the group is not matched, it stays. -/
theorem representative_of_groupPairs (distinct : DistinctIds entry.2)
    (inside : (file, representative) ∈ groupPairs rules entry) :
    representative ∈ entry.2 ∧ (entry.1.1 ≠ .matched →
      representative ∉ (groupPairs rules entry).map Prod.fst) := by
  have left := distinct.sublist (remaining_sublist rules entry.2)
  unfold groupPairs at inside ⊢
  split at inside
  · rename_i kind
    refine ⟨?_, fun other => absurd kind other⟩
    obtain exact | hash := mem_append.1 inside
    · exact (representative_of_exactPairs distinct exact).2.1
    · exact (remaining_sublist rules entry.2).subset (representative_of_hashPairs left hash).1
  · rename_i kind
    obtain ⟨-, representativeInside, -, highest⟩ := (mem_collapse_of_distinct distinct).1 inside
    exact ⟨representativeInside, fun _ =>
      not_mem_collapse_of_best distinct representativeInside highest⟩

theorem nodup_groupPairs
    (distinct : DistinctIds entry.2) : ((groupPairs rules entry).map Prod.fst).Nodup := by
  have left := distinct.sublist (remaining_sublist rules entry.2)
  unfold groupPairs
  split
  · rw [map_append]
    apply List.Nodup.append
    · exact nodup_map_fst_collapseBy distinct.nodup
    · unfold hashPairs
      rw [map_flatMap]
      apply nodup_flatMap_groupBy
      · intro same inside
        exact nodup_map_fst_collapseBy (left.of_groupBy inside).nodup
      · intro same inside file first
        have inner := left.of_groupBy inside
        exact ((mem_map_fst_collapseBy inner.nodup inner.injective).1 first).1
    · intro file first later
      have remains := hashPairs_subset rules left later
      exact of_decide_eq_true (mem_filter.1 remains).2 first
  · exact nodup_map_fst_collapse distinct.nodup

/-! ### All the groups -/

theorem mem_copyPairs {pair : ImportedFile × ImportedFile} :
    pair ∈ copyPairs rules duplicateSeries files ↔
      ∃ entry ∈ groupBy (candidateKey duplicateSeries) files, pair ∈ groupPairs rules entry :=
  mem_flatMap

theorem nodup_copyPairs (distinct : DistinctIds files) :
    ((copyPairs rules duplicateSeries files).map Prod.fst).Nodup := by
  unfold copyPairs
  rw [map_flatMap]
  apply nodup_flatMap_groupBy
  · exact fun entry inside => nodup_groupPairs (distinct.of_groupBy inside)
  · exact fun entry inside => groupPairs_subset rules (distinct.of_groupBy inside)

/-- A file of a group is collapsed if and only if its group collapses it. -/
theorem mem_map_fst_copyPairs (distinct : DistinctIds files)
    (inside : entry ∈ groupBy (candidateKey duplicateSeries) files) (fileInside : file ∈ entry.2) :
    file ∈ (copyPairs rules duplicateSeries files).map Prod.fst ↔
      file ∈ (groupPairs rules entry).map Prod.fst := by
  unfold copyPairs
  rw [map_flatMap, mem_flatMap]
  constructor
  · rintro ⟨other, otherInside, first⟩
    have otherDistinct := distinct.of_groupBy otherInside
    have named := ((mem_group otherInside).1 (groupPairs_subset rules otherDistinct first)).2
    have same : other.1 = entry.1 :=
      Option.some.inj (named.symm.trans ((mem_group inside).1 fileInside).2)
    have equal : other.2 = entry.2 := by
      rw [(mem_groupBy.1 otherInside).1, (mem_groupBy.1 inside).1, same]
    exact Prod.ext same equal ▸ first
  · exact fun first => ⟨entry, inside, first⟩

theorem targetGroup_eq (duplicateSeries : Bool) (files : List ImportedFile) (target : TargetKey) :
    targetGroup files target =
      files.filter (candidateKey duplicateSeries · = some (.matched, target)) := by
  apply filter_congr
  intro file inside
  apply decide_eq_decide.2
  exact candidateKey_matched.symm

/-- The representatives are settled if and only if none is collapsed itself. -/
theorem settledRepresentatives_iff (distinct : DistinctIds files) (duplicateSeries : Bool) :
    SettledRepresentatives rules files ↔ ∀ pair ∈ copyPairs rules duplicateSeries files,
      pair.2 ∉ (copyPairs rules duplicateSeries files).map Prod.fst := by
  constructor
  · rintro settled ⟨file, leader⟩ inside
    obtain ⟨⟨⟨kind, target⟩, group⟩, here, paired⟩ := mem_copyPairs.1 inside
    have inner := distinct.of_groupBy here
    have ⟨leaderInside, stays⟩ := representative_of_groupPairs inner paired
    rw [mem_map_fst_copyPairs distinct here leaderInside]
    by_cases matched : kind = .matched
    · subst matched
      have same : targetGroup files target = group :=
        (targetGroup_eq duplicateSeries files target).trans (mem_groupBy.1 here).1.symm
      exact (settledGroup_iff inner target).1 (same ▸ settled target) _ paired
    · exact stays matched
  · intro uncollapsed target
    have same := targetGroup_eq duplicateSeries files target
    by_cases empty : targetGroup files target = []
    · rw [empty]
      intro leader absent
      cases absent
    · have here : ((.matched, target), targetGroup files target) ∈
          groupBy (candidateKey duplicateSeries) files := mem_groupBy.2 ⟨same, empty⟩
      have inner : DistinctIds (targetGroup files target) := distinct.of_groupBy here
      apply (settledGroup_iff inner target).2
      intro pair paired first
      have leaderInside : pair.2 ∈ targetGroup files target :=
        (representative_of_groupPairs inner paired).1
      apply uncollapsed pair (mem_copyPairs.2 ⟨_, here, paired⟩)
      exact (mem_map_fst_copyPairs distinct here leaderInside).2 first

/-! ### What is made of the files -/

@[simp]
theorem apply_id : (detection.apply rules file).id = file.id := by
  unfold Detection.apply
  cases detection.marks.lookup file.id <;> dsimp only [markDuplicateCopy] <;> split <;> rfl

@[simp]
theorem duplicateTargetKey_apply :
    duplicateTargetKey (detection.apply rules file) = duplicateTargetKey file := by
  unfold Detection.apply
  cases detection.marks.lookup file.id <;> dsimp only [markDuplicateCopy] <;> split <;> rfl

theorem apply_status :
    (detection.apply rules file).status = detection.status file := by
  unfold Detection.apply Detection.status
  cases detection.marks.lookup file.id with
  | none =>
    dsimp only
    split <;> rfl
  | some mark => rfl

/-- The detection collapses these pairs of the files. -/
structure Collapses (rules : CopyRules) (files : List ImportedFile)
    (pairs : List (ImportedFile × ImportedFile)) (detection : Detection) : Prop where
  listed : detection.pairs = ids pairs
  inside : ∀ pair ∈ pairs, pair.1 ∈ files ∧ pair.2 ∈ files
  fresh : ∀ pair ∈ pairs, pair.1.status ≠ .duplicateFile ∧ pair.2.status ≠ .duplicateFile
  once : (pairs.map Prod.fst).Nodup

theorem Collapses.marked (collapses : Collapses rules files pairs detection)
    (distinct : DistinctIds files) (inside : file ∈ files) :
    (detection.apply rules file).status =
      if file ∈ pairs.map Prod.fst then .duplicateFile else file.status := by
  have same : file.id ∈ detection.pairs.map Prod.fst ↔ file ∈ pairs.map Prod.fst := by
    rw [collapses.listed, map_fst_ids]
    constructor
    · intro here
      obtain ⟨other, first, equal⟩ := mem_map.1 here
      obtain ⟨pair, paired, rfl⟩ := mem_map.1 first
      exact distinct.eq (collapses.inside pair paired).1 inside equal ▸ first
    · exact fun first => mem_map_of_mem first
  rw [apply_status, status_eq]
  exact if_congr same rfl rfl

/-- A collapsed file points to the other file of its pair. -/
theorem Collapses.duplicateOf (collapses : Collapses rules files pairs detection)
    (distinct : DistinctIds files) (paired : (file, representative) ∈ pairs) :
    (detection.apply rules file).duplicateOfFileId = some representative.id := by
  have inside := (collapses.inside _ paired).1
  have marked : (file.id, representative.id) ∈ detection.pairs := by
    rw [collapses.listed]
    exact mem_map.2 ⟨_, paired, rfl⟩
  obtain ⟨⟨id, mark⟩, here, equal⟩ := mem_map.1 marked
  obtain ⟨rfl, points⟩ := Prod.mk.inj equal
  have found : (detection.marks.lookup file.id).isSome := by
    rw [lookup_isSome_iff]
    exact ⟨_, here, beq_self_eq_true _⟩
  obtain ⟨other, looked⟩ := Option.isSome_iff_exists.1 found
  have listed : (file.id, other.representativeId) ∈ ids pairs := by
    rw [← collapses.listed]
    exact mem_map.2 ⟨_, mem_of_lookup looked, rfl⟩
  obtain ⟨⟨same, best⟩, otherPaired, ids⟩ := mem_map.1 listed
  obtain ⟨sameId, bestId⟩ := Prod.mk.inj ids
  have equalFile : same = file :=
    distinct.eq (collapses.inside _ otherPaired).1 inside sameId
  have equalPair : (same, best) = (file, representative) :=
    inj_on_of_nodup_map collapses.once otherPaired paired equalFile
  unfold Detection.apply
  rw [looked]
  change some other.representativeId = some representative.id
  rw [← bestId, (Prod.mk.inj equalPair).2]

theorem candidates_of_copyPairs {pair : ImportedFile × ImportedFile} (distinct : DistinctIds files)
    (inside : pair ∈ copyPairs rules duplicateSeries files) :
    (pair.1 ∈ files ∧ pair.1.status ≠ .duplicateFile) ∧
      pair.2 ∈ files ∧ pair.2.status ≠ .duplicateFile := by
  obtain ⟨entry, here, paired⟩ := mem_copyPairs.1 inside
  have inner := distinct.of_groupBy here
  have candidate : ∀ file ∈ entry.2, file ∈ files ∧ file.status ≠ .duplicateFile := by
    intro file fileHere
    have ⟨fileInside, named⟩ := (mem_group here).1 fileHere
    exact ⟨fileInside, (candidateKey_eq named).2.1⟩
  exact ⟨candidate _ (groupPairs_subset rules inner (mem_map_of_mem paired)),
    candidate _ (representative_of_groupPairs inner paired).1⟩

theorem collapses_detectDuplicateCopies (rules : CopyRules) (duplicateSeries : Bool)
    (duplicateGroupCounter : ℕ) (distinct : DistinctIds files) :
    Collapses rules files (copyPairs rules duplicateSeries files)
      (detectDuplicateCopies rules duplicateSeries files duplicateGroupCounter) where
  listed := (adds_detectDuplicateCopies rules duplicateSeries distinct duplicateGroupCounter).listed
  inside := by
    intro pair inside
    have ⟨first, second⟩ := candidates_of_copyPairs distinct inside
    exact ⟨first.1, second.1⟩
  fresh := by
    intro pair inside
    have ⟨first, second⟩ := candidates_of_copyPairs distinct inside
    exact ⟨first.2, second.2⟩
  once := nodup_copyPairs distinct

/-- What is promised of the files after the detection: a new duplicate copy points to a file that is
none, each target keeps a file that is none, and the count is that of the new ones. -/
structure Collapsed (files : List ImportedFile) (after : ImportedFile → ImportedFile)
    (duplicateCount : ℕ) : Prop where
  representative : ∀ file ∈ files, file.status ≠ .duplicateFile →
    (after file).status = .duplicateFile → ∃ representative ∈ files,
      (after file).duplicateOfFileId = some (after representative).id ∧
        (after representative).status ≠ .duplicateFile
  kept : ∀ file ∈ files, file.status ≠ .duplicateFile → ∀ target,
    duplicateTargetKey file = some target → ∃ kept ∈ files,
      duplicateTargetKey (after kept) = some target ∧ (after kept).status ≠ .duplicateFile
  counted : duplicateCount = files.countP fun file =>
    file.status ≠ .duplicateFile ∧ (after file).status = .duplicateFile

theorem Collapses.newlyMarked (collapses : Collapses rules files pairs detection)
    (distinct : DistinctIds files) (inside : file ∈ files) :
    file.status ≠ .duplicateFile ∧ (detection.apply rules file).status = .duplicateFile ↔
      file ∈ pairs.map Prod.fst := by
  rw [collapses.marked distinct inside]
  constructor
  · rintro ⟨before, after⟩
    by_contra unmarked
    rw [if_neg unmarked] at after
    exact before after
  · intro marked
    obtain ⟨pair, paired, rfl⟩ := mem_map.1 marked
    exact ⟨(collapses.fresh pair paired).1, if_pos marked⟩

theorem Collapses.countP (collapses : Collapses rules files pairs detection)
    (distinct : DistinctIds files) :
    files.countP (fun file => file.status ≠ .duplicateFile ∧
      (detection.apply rules file).status = .duplicateFile) = pairs.length := by
  have marked : files.countP (fun file => file.status ≠ .duplicateFile ∧
      (detection.apply rules file).status = .duplicateFile) =
      files.countP (· ∈ pairs.map Prod.fst) := by
    apply countP_congr
    intro file inside
    rw [decide_eq_true_iff, decide_eq_true_iff, collapses.newlyMarked distinct inside]
  have same : (files.filter (· ∈ pairs.map Prod.fst)).Perm (pairs.map Prod.fst) := by
    apply (perm_ext_iff_of_nodup (distinct.nodup.filter _) collapses.once).2
    intro file
    rw [mem_filter, decide_eq_true_iff, and_iff_right_iff_imp]
    intro first
    obtain ⟨pair, paired, rfl⟩ := mem_map.1 first
    exact (collapses.inside pair paired).1
  rw [marked, countP_eq_length_filter, same.length_eq, length_map]

/-- A target of a file keeps one of its group, whatever the stages collapse. -/
theorem exists_kept_target (distinct : DistinctIds files) (inside : file ∈ files)
    {target : TargetKey} (targeted : duplicateTargetKey file = some target)
    (marked : file ∈ (copyPairs rules duplicateSeries files).map Prod.fst) :
    ∃ kept ∈ files, duplicateTargetKey kept = some target ∧ kept.status ≠ .duplicateFile ∧
      kept ∉ (copyPairs rules duplicateSeries files).map Prod.fst ∧
      (kept.status = .matched ↔ file.status = .matched) := by
  obtain ⟨pair, paired, rfl⟩ := mem_map.1 marked
  obtain ⟨⟨⟨kind, own⟩, group⟩, here, first⟩ := mem_copyPairs.1 paired
  have inner := distinct.of_groupBy here
  have fileHere := groupPairs_subset rules inner (mem_map_of_mem first)
  obtain ⟨kept, keptHere, stays⟩ := exists_kept rules inner fileHere
  obtain ⟨fileTargeted, -, fileKind⟩ := candidateKey_eq ((mem_group here).1 fileHere).2
  have ⟨keptInside, named⟩ := (mem_group here).1 keptHere
  have ⟨keptTargeted, fresh, keptKind⟩ := candidateKey_eq named
  have same : own = target := Option.some.inj (fileTargeted.symm.trans targeted)
  exact ⟨kept, keptInside, same ▸ keptTargeted, fresh,
    mt (mem_map_fst_copyPairs distinct here keptHere).1 stays, keptKind.symm.trans fileKind⟩

/-- Copies are collapsed as they should be exactly where the representatives are settled. -/
theorem collapsed_iff (distinct : DistinctIds files) :
    Collapsed files ((detectDuplicateCopies rules duplicateSeries files
        duplicateGroupCounter).apply rules)
      (detectDuplicateCopies rules duplicateSeries files duplicateGroupCounter).duplicateCount ↔
      SettledRepresentatives rules files := by
  have collapses :=
    collapses_detectDuplicateCopies rules duplicateSeries duplicateGroupCounter distinct
  have counted :=
    (adds_detectDuplicateCopies rules duplicateSeries distinct duplicateGroupCounter).count
  rw [settledRepresentatives_iff distinct duplicateSeries]
  generalize detectDuplicateCopies rules duplicateSeries files duplicateGroupCounter = detection
    at collapses counted ⊢
  constructor
  · rintro collapsed ⟨file, leader⟩ paired first
    have ⟨fileInside, leaderInside⟩ := collapses.inside _ paired
    have ⟨before, after⟩ := (collapses.newlyMarked distinct fileInside).2
      (mem_map_of_mem paired)
    obtain ⟨other, otherInside, points, stays⟩ := collapsed.representative file fileInside before
      after
    rw [collapses.duplicateOf distinct paired, apply_id] at points
    have same : leader = other := distinct.eq leaderInside otherInside (Option.some.inj points)
    exact stays (same ▸ ((collapses.newlyMarked distinct leaderInside).2 first).2)
  · intro uncollapsed
    constructor
    · intro file inside before after
      have marked := (collapses.newlyMarked distinct inside).1 ⟨before, after⟩
      obtain ⟨⟨same, leader⟩, paired, rfl⟩ := mem_map.1 marked
      have leaderInside := (collapses.inside _ paired).2
      refine ⟨leader, leaderInside, ?_, ?_⟩
      · rw [collapses.duplicateOf distinct paired, apply_id]
      · have stays := uncollapsed _ paired
        rw [collapses.marked distinct leaderInside, if_neg stays]
        exact (collapses.fresh _ paired).2
    · intro file inside before target targeted
      by_cases marked : file ∈ (copyPairs rules duplicateSeries files).map Prod.fst
      · obtain ⟨kept, keptInside, keptTargeted, fresh, stays, -⟩ :=
          exists_kept_target distinct inside targeted marked
        refine ⟨kept, keptInside, duplicateTargetKey_apply.trans keptTargeted, ?_⟩
        rw [collapses.marked distinct keptInside, if_neg stays]
        exact fresh
      · refine ⟨file, inside, duplicateTargetKey_apply.trans targeted, ?_⟩
        rw [collapses.marked distinct inside, if_neg marked]
        exact before
    · rw [counted, collapses.countP distinct]
      exact Nat.zero_add _

end Pullbox.Import.DuplicateCopies
