import Pullbox.Import.CopyOutcome

/-!
# Conflict groups

A conflict group is what one identity number picks from the matched files. It mixes issues where
two of them have the same number.
-/

namespace Pullbox.Import.DuplicateCopies

open Grouping List

variable {rules : CopyRules} {duplicateSeries : Bool} {files group : List ImportedFile}
  {file : ImportedFile} {groupCounter number : ℕ}

/-! ### The number of an identity -/

def TargetKey.toNumber : TargetKey → ℚ
  | .issueId id => id
  | .issueCvId id => -id
  | .parsedIssue number => -number - 1 / 1000

theorem issueIdentityKey_eq (file : ImportedFile) :
    issueIdentityKey file = (duplicateTargetKey file).map TargetKey.toNumber := by
  unfold issueIdentityKey duplicateTargetKey
  cases file.matchedIssueId <;> cases file.matchedIssueCvId <;> cases file.parsedIssueNumber <;> rfl

theorem conflictKey_eq_some {value : ℚ} :
    conflictKey file = some value ↔
      file.status = .matched ∧ issueIdentityKey file = some value := by
  unfold conflictKey
  split
  · rename_i matched
    exact ⟨fun named => ⟨matched, named⟩, And.right⟩
  · rename_i other
    constructor
    · intro absent
      cases absent
    · exact fun named => absurd named.1 other

/-! ### The marks of the groups -/

/-- The marks of one conflict group. -/
def groupMarks (number : ℕ) (group : List ImportedFile) : List (ℕ × ConflictMark) :=
  match byRank conflictSortKey group with
  | [] => []
  | preferred :: others =>
    (preferred.id, ⟨number, true⟩) :: others.map fun other => (other.id, ⟨number, false⟩)

/-- The groups that compete, each with its number. -/
def numbered (files : List ImportedFile) (groupCounter : ℕ) : List (List ImportedFile × ℕ) :=
  (((groupBy conflictKey files).map Prod.snd).filter (2 ≤ ·.length)).zipIdx (groupCounter + 1)

theorem marks_foldl (groups : List (List ImportedFile)) (conflicts : Conflicts) :
    (groups.foldl Conflicts.identityGroup conflicts).marks =
      conflicts.marks ++
        ((groups.filter (2 ≤ ·.length)).zipIdx (conflicts.groupCounter + 1)).flatMap
          fun entry => groupMarks entry.2 entry.1 := by
  induction groups generalizing conflicts with
  | nil => exact (append_nil _).symm
  | cons group rest ih =>
    rw [foldl_cons, ih]
    unfold Conflicts.identityGroup
    by_cases short : group.length < 2
    · rw [if_pos short, filter_cons_of_neg (by simpa using short)]
    · have several : 2 ≤ group.length := Nat.not_lt.1 short
      rw [if_neg short, filter_cons_of_pos (by simpa only [decide_eq_true_eq] using several),
        zipIdx_cons, flatMap_cons, ← append_assoc]
      unfold Conflicts.markConflictGroup groupMarks
      have same := (byRank_perm conflictSortKey group).length_eq
      cases sorted : byRank conflictSortKey group with
      | nil =>
        rw [sorted, length_nil] at same
        omega
      | cons preferred others => rfl

theorem marks_detectConflicts (files : List ImportedFile) (groupCounter : ℕ) :
    (detectConflicts files groupCounter).marks =
      (numbered files groupCounter).flatMap fun entry => groupMarks entry.2 entry.1 :=
  marks_foldl _ { groupCounter }

theorem mem_numbered (inside : (group, number) ∈ numbered files groupCounter) :
    2 ≤ group.length ∧ ∃ value, (value, group) ∈ groupBy conflictKey files := by
  have listed := mem_filter.1 (fst_mem_of_mem_zipIdx inside)
  obtain ⟨⟨value, same⟩, here, rfl⟩ := mem_map.1 listed.1
  exact ⟨of_decide_eq_true listed.2, value, here⟩

/-- Two files of one key compete. -/
theorem exists_numbered {value : ℚ} {one two : ImportedFile}
    (inside : (value, group) ∈ groupBy conflictKey files) (inOne : one ∈ group)
    (inTwo : two ∈ group) (apart : one ≠ two) (groupCounter : ℕ) :
    ∃ number, (group, number) ∈ numbered files groupCounter := by
  have competes : 2 ≤ group.length := by
    by_contra short
    obtain ⟨only, rfl⟩ : ∃ only, group = [only] := by
      apply length_eq_one_iff.1
      have positive := length_pos_of_mem inOne
      omega
    exact apart ((mem_singleton.1 inOne).trans (mem_singleton.1 inTwo).symm)
  have listed : group ∈ ((groupBy conflictKey files).map Prod.snd).filter (2 ≤ ·.length) :=
    mem_filter.2 ⟨mem_map.2 ⟨_, inside, rfl⟩, decide_eq_true competes⟩
  obtain ⟨index, found⟩ := mem_iff_getElem?.1 listed
  exact ⟨groupCounter + 1 + index, mk_add_mem_zipIdx_iff_getElem?.2 found⟩

/-- A group has one number, and a number one group. -/
theorem numbered_injective {other : List ImportedFile} {otherNumber : ℕ}
    (inside : (group, number) ∈ numbered files groupCounter)
    (otherInside : (other, otherNumber) ∈ numbered files groupCounter) :
    group = other ↔ number = otherNumber := by
  unfold numbered at inside otherInside
  obtain ⟨below, here⟩ := mk_mem_zipIdx_iff_le_and_getElem?_sub.1 inside
  obtain ⟨otherBelow, otherHere⟩ := mk_mem_zipIdx_iff_le_and_getElem?_sub.1 otherInside
  have distinct : (((groupBy conflictKey files).map Prod.snd).filter (2 ≤ ·.length)).Nodup := by
    apply List.Nodup.filter
    apply pairwise_map.2
    apply (pairwise_groupBy conflictKey files).imp_of_mem
    rintro ⟨value, one⟩ ⟨_, two⟩ insideOne _ apart same
    obtain ⟨first, firstInside⟩ := exists_mem_of_ne_nil _ (mem_groupBy.1 insideOne).2
    exact apart first firstInside (same ▸ firstInside)
  constructor
  · rintro rfl
    obtain ⟨short, -⟩ := List.getElem?_eq_some_iff.1 here
    have same := (List.getElem?_inj short distinct).1 (here.trans otherHere.symm)
    omega
  · rintro rfl
    exact Option.some.inj (here.symm.trans otherHere)

/-- The file comes first in its conflict group. -/
def isPreferred (group : List ImportedFile) (file : ImportedFile) : Bool :=
  (byRank conflictSortKey group).head? = some file

theorem mem_groupMarks {id : ℕ} {mark : ConflictMark} (distinct : DistinctIds group) :
    (id, mark) ∈ groupMarks number group ↔
      ∃ file ∈ group, file.id = id ∧ mark = ⟨number, isPreferred group file⟩ := by
  unfold groupMarks isPreferred
  have listed : ∀ file, file ∈ group ↔ file ∈ byRank conflictSortKey group :=
    fun file => (mem_byRank conflictSortKey).symm
  have once := nodup_byRank conflictSortKey distinct.nodup
  cases sorted : byRank conflictSortKey group with
  | nil =>
    rw [sorted] at listed
    simp [listed]
  | cons preferred others =>
    rw [sorted] at listed once
    have absent := (nodup_cons.1 once).1
    constructor
    · intro inside
      obtain first | later := mem_cons.1 inside
      · obtain ⟨rfl, rfl⟩ := Prod.mk.inj first
        exact ⟨preferred, (listed _).2 mem_cons_self, rfl, by simp⟩
      · obtain ⟨other, here, equal⟩ := mem_map.1 later
        obtain ⟨rfl, rfl⟩ := Prod.mk.inj equal
        have apart : preferred ≠ other := fun same => absent (same ▸ here)
        exact ⟨other, (listed _).2 (mem_cons_of_mem _ here), rfl, by simp [apart]⟩
    · rintro ⟨file, inside, rfl, rfl⟩
      obtain rfl | later := mem_cons.1 ((listed file).1 inside)
      · simp
      · have apart : preferred ≠ file := fun same => absent (same ▸ later)
        apply mem_cons_of_mem
        exact mem_map.2 ⟨file, later, by simp [apart]⟩

theorem of_numbered (distinct : DistinctIds files)
    (inside : (group, number) ∈ numbered files groupCounter) : DistinctIds group := by
  obtain ⟨-, value, here⟩ := mem_numbered inside
  exact distinct.of_groupBy here

/-- A file is marked by the group it is in, with the number of the group. -/
theorem lookup_marks (distinct : DistinctIds files) (inside : file ∈ files) {mark : ConflictMark} :
    (detectConflicts files groupCounter).marks.lookup file.id = some mark ↔
      ∃ group number, (group, number) ∈ numbered files groupCounter ∧ file ∈ group ∧
        mark = ⟨number, isPreferred group file⟩ := by
  have listed : ∀ mark, (file.id, mark) ∈ (detectConflicts files groupCounter).marks ↔
      ∃ group number, (group, number) ∈ numbered files groupCounter ∧ file ∈ group ∧
        mark = ⟨number, isPreferred group file⟩ := by
    intro mark
    rw [marks_detectConflicts, mem_flatMap]
    constructor
    · rintro ⟨⟨group, number⟩, here, marked⟩
      obtain ⟨other, otherHere, same, rfl⟩ := (mem_groupMarks (of_numbered distinct here)).1 marked
      obtain ⟨-, value, grouped⟩ := mem_numbered here
      have equal : other = file := distinct.eq ((mem_group grouped).1 otherHere).1 inside same
      exact ⟨group, number, here, equal ▸ otherHere, by rw [equal]⟩
    · rintro ⟨group, number, here, fileHere, rfl⟩
      exact ⟨_, here, (mem_groupMarks (of_numbered distinct here)).2 ⟨file, fileHere, rfl, rfl⟩⟩
  constructor
  · exact fun found => (listed mark).1 (mem_of_lookup found)
  · intro marked
    apply lookup_of_mem ((listed mark).2 marked)
    intro other otherMarked
    obtain ⟨group, number, here, fileHere, rfl⟩ := marked
    obtain ⟨same, sameNumber, sameInside, fileSame, rfl⟩ := (listed other).1 otherMarked
    obtain ⟨-, value, grouped⟩ := mem_numbered here
    obtain ⟨-, otherValue, otherGrouped⟩ := mem_numbered sameInside
    have keys : otherValue = value := Option.some.inj
      (((mem_group otherGrouped).1 fileSame).2.symm.trans ((mem_group grouped).1 fileHere).2)
    have equal : same = group := by
      rw [(mem_groupBy.1 otherGrouped).1, (mem_groupBy.1 grouped).1, keys]
    rw [equal, (numbered_injective sameInside here).1 equal]

/-! ### What is made of the files -/

theorem Conflicts.duplicateTargetKey_apply {conflicts : Conflicts} :
    duplicateTargetKey (conflicts.apply file) = duplicateTargetKey file := by
  unfold Conflicts.apply
  cases conflicts.marks.lookup file.id <;> rfl

theorem apply_of_numbered (distinct : DistinctIds files)
    (here : (group, number) ∈ numbered files groupCounter) (fileHere : file ∈ group) :
    (detectConflicts files groupCounter).apply file =
      markConflict file ⟨number, isPreferred group file⟩ := by
  obtain ⟨-, value, grouped⟩ := mem_numbered here
  have inside := ((mem_group grouped).1 fileHere).1
  have found := (lookup_marks distinct inside).2 ⟨group, number, here, fileHere, rfl⟩
  unfold Conflicts.apply
  rw [found]

/-- A file is new in conflict if and only if a numbered group has it. -/
theorem newly_conflict (distinct : DistinctIds files) (inside : file ∈ files) :
    file.status ≠ .conflict ∧
      ((detectConflicts files groupCounter).apply file).status = .conflict ↔
      ∃ group number, (group, number) ∈ numbered files groupCounter ∧ file ∈ group := by
  constructor
  · rintro ⟨before, after⟩
    unfold Conflicts.apply at after
    cases found : (detectConflicts files groupCounter).marks.lookup file.id with
    | none =>
      rw [found] at after
      exact absurd after before
    | some mark =>
      obtain ⟨group, number, here, fileHere, -⟩ := (lookup_marks distinct inside).1 found
      exact ⟨group, number, here, fileHere⟩
  · rintro ⟨group, number, here, fileHere⟩
    obtain ⟨-, value, grouped⟩ := mem_numbered here
    have matched := (conflictKey_eq_some.1 ((mem_group grouped).1 fileHere).2).1
    rw [apply_of_numbered distinct here fileHere, matched]
    exact ⟨by decide, rfl⟩

/-- A file that is still matched was matched, and no other one has its number. -/
theorem still_matched (distinct : DistinctIds files) (inside : file ∈ files)
    (matched : ((detectConflicts files groupCounter).apply file).status = .matched) :
    file.status = .matched ∧ ∀ other ∈ files, other.status = .matched →
      issueIdentityKey file ≠ none → issueIdentityKey other = issueIdentityKey file →
      other = file := by
  have unmarked : ¬∃ group number, (group, number) ∈ numbered files groupCounter ∧
      file ∈ group := by
    intro grouped
    have conflicting := ((newly_conflict distinct inside).2 grouped).2
    rw [matched] at conflicting
    cases conflicting
  have before : file.status = .matched := by
    unfold Conflicts.apply at matched
    cases found : (detectConflicts files groupCounter).marks.lookup file.id with
    | none =>
      rw [found] at matched
      exact matched
    | some mark =>
      obtain ⟨group, number, here, fileHere, -⟩ := (lookup_marks distinct inside).1 found
      exact absurd ⟨group, number, here, fileHere⟩ unmarked
  refine ⟨before, fun other otherInside otherMatched identified same => ?_⟩
  obtain ⟨value, named⟩ := Option.ne_none_iff_exists'.1 identified
  obtain ⟨group, grouped⟩ := exists_group inside (conflictKey_eq_some.2 ⟨before, named⟩)
  have fileHere := (mem_group grouped).2 ⟨inside, conflictKey_eq_some.2 ⟨before, named⟩⟩
  have otherHere := (mem_group grouped).2
    ⟨otherInside, conflictKey_eq_some.2 ⟨otherMatched, same.trans named⟩⟩
  by_contra apart
  obtain ⟨number, here⟩ := exists_numbered grouped otherHere fileHere apart groupCounter
  exact unmarked ⟨group, number, here, fileHere⟩

/-- What is promised of the files after the detection of conflicts. -/
structure Separated (files : List ImportedFile) (after : ImportedFile → ImportedFile) : Prop where
  apart : ∀ one ∈ files, ∀ two ∈ files, (after one).status = .matched →
    (after two).status = .matched → duplicateTargetKey (after one) ≠ none →
    duplicateTargetKey (after one) = duplicateTargetKey (after two) → one = two
  unmixed : ∀ one ∈ files, ∀ two ∈ files, one.status ≠ .conflict → two.status ≠ .conflict →
    (after one).status = .conflict → (after two).status = .conflict →
    (after one).conflictGroupId = (after two).conflictGroupId →
    duplicateTargetKey (after one) = duplicateTargetKey (after two)
  preferred : ∀ one ∈ files, one.status ≠ .conflict → (after one).status = .conflict →
    ∃! preferred, preferred ∈ files ∧ preferred.status ≠ .conflict ∧
      (after preferred).status = .conflict ∧
      (after preferred).conflictGroupId = (after one).conflictGroupId ∧
      (after preferred).isPreferred = true

/-- No two matched files of different issues have the same number for their identity. -/
def NoCollision (files : List ImportedFile) : Prop :=
  ∀ one ∈ files, ∀ two ∈ files, one.status = .matched → two.status = .matched →
    issueIdentityKey one ≠ none → issueIdentityKey one = issueIdentityKey two →
    duplicateTargetKey one = duplicateTargetKey two

theorem apart_of_detectConflicts (distinct : DistinctIds files) (groupCounter : ℕ)
    {one two : ImportedFile} (inOne : one ∈ files) (inTwo : two ∈ files)
    (matchedOne : ((detectConflicts files groupCounter).apply one).status = .matched)
    (matchedTwo : ((detectConflicts files groupCounter).apply two).status = .matched)
    (targeted : duplicateTargetKey one ≠ none)
    (same : duplicateTargetKey one = duplicateTargetKey two) : one = two := by
  obtain ⟨beforeOne, -⟩ := still_matched distinct inOne matchedOne
  obtain ⟨-, alone⟩ := still_matched distinct inTwo matchedTwo
  apply alone one inOne beforeOne
  · rw [issueIdentityKey_eq, ← same, ne_eq, Option.map_eq_none_iff]
    exact targeted
  · rw [issueIdentityKey_eq, issueIdentityKey_eq, same]

theorem preferred_of_detectConflicts (distinct : DistinctIds files) {one : ImportedFile}
    (inside : one ∈ files) (newly : one.status ≠ .conflict ∧
      ((detectConflicts files groupCounter).apply one).status = .conflict) :
    ∃! preferred, preferred ∈ files ∧ preferred.status ≠ .conflict ∧
      ((detectConflicts files groupCounter).apply preferred).status = .conflict ∧
      ((detectConflicts files groupCounter).apply preferred).conflictGroupId =
        ((detectConflicts files groupCounter).apply one).conflictGroupId ∧
      ((detectConflicts files groupCounter).apply preferred).isPreferred = true := by
  obtain ⟨group, number, here, oneHere⟩ := (newly_conflict distinct inside).1 newly
  obtain ⟨-, value, grouped⟩ := mem_numbered here
  have oneGroup : ((detectConflicts files groupCounter).apply one).conflictGroupId =
      some number := by
    rw [apply_of_numbered distinct here oneHere]
    rfl
  rw [oneGroup]
  cases sorted : byRank conflictSortKey group with
  | nil =>
    have absent := (mem_byRank conflictSortKey).2 oneHere
    rw [sorted] at absent
    cases absent
  | cons preferred others =>
    have first : preferred ∈ group :=
      (mem_byRank conflictSortKey).1 (sorted ▸ mem_cons_self)
    have firstInside := ((mem_group grouped).1 first).1
    have marked := (newly_conflict distinct firstInside).2 ⟨group, number, here, first⟩
    refine ⟨preferred, ⟨firstInside, marked.1, marked.2, ?_, ?_⟩, ?_⟩
    · rw [apply_of_numbered distinct here first]
      rfl
    · rw [apply_of_numbered distinct here first]
      simp [markConflict, isPreferred, sorted]
    · rintro other ⟨otherInside, before, after, sameGroup, isFirst⟩
      obtain ⟨otherGroup, otherNumber, there, otherThere⟩ :=
        (newly_conflict distinct otherInside).1 ⟨before, after⟩
      rw [apply_of_numbered distinct there otherThere] at sameGroup isFirst
      have equal : otherGroup = group :=
        (numbered_injective there here).2 (Option.some.inj sameGroup)
      have leads : (byRank conflictSortKey otherGroup).head? = some other :=
        of_decide_eq_true isFirst
      rw [equal, sorted] at leads
      exact (Option.some.inj leads).symm

/-- The conflicts are as promised if and only if no two numbers collide. -/
theorem separated_iff (distinct : DistinctIds files) (groupCounter : ℕ) :
    Separated files (detectConflicts files groupCounter).apply ↔ NoCollision files := by
  constructor
  · intro separated one inOne two inTwo matchedOne matchedTwo identified same
    by_contra apart
    obtain ⟨value, named⟩ := Option.ne_none_iff_exists'.1 identified
    have keyOne := conflictKey_eq_some.2 ⟨matchedOne, named⟩
    have keyTwo := conflictKey_eq_some.2 ⟨matchedTwo, same.symm.trans named⟩
    obtain ⟨group, grouped⟩ := exists_group inOne keyOne
    have oneHere := (mem_group grouped).2 ⟨inOne, keyOne⟩
    have twoHere := (mem_group grouped).2 ⟨inTwo, keyTwo⟩
    have different : one ≠ two := fun equal => apart (congrArg duplicateTargetKey equal)
    obtain ⟨number, here⟩ := exists_numbered grouped oneHere twoHere different groupCounter
    have newlyOne := (newly_conflict distinct inOne).2 ⟨group, number, here, oneHere⟩
    have newlyTwo := (newly_conflict distinct inTwo).2 ⟨group, number, here, twoHere⟩
    have mixed := separated.unmixed one inOne two inTwo newlyOne.1 newlyTwo.1 newlyOne.2 newlyTwo.2
    rw [Conflicts.duplicateTargetKey_apply, Conflicts.duplicateTargetKey_apply,
      apply_of_numbered distinct here oneHere, apply_of_numbered distinct here twoHere] at mixed
    exact apart (mixed rfl)
  · intro noCollision
    constructor
    · intro one inOne two inTwo matchedOne matchedTwo targeted same
      rw [Conflicts.duplicateTargetKey_apply] at targeted same
      rw [Conflicts.duplicateTargetKey_apply] at same
      exact apart_of_detectConflicts distinct groupCounter inOne inTwo matchedOne matchedTwo
        targeted same
    · intro one inOne two inTwo beforeOne beforeTwo afterOne afterTwo sameGroup
      obtain ⟨group, number, here, oneHere⟩ :=
        (newly_conflict distinct inOne).1 ⟨beforeOne, afterOne⟩
      obtain ⟨other, otherNumber, there, twoThere⟩ :=
        (newly_conflict distinct inTwo).1 ⟨beforeTwo, afterTwo⟩
      rw [apply_of_numbered distinct here oneHere, apply_of_numbered distinct there twoThere]
        at sameGroup
      obtain rfl := (numbered_injective here there).2 (Option.some.inj sameGroup)
      obtain ⟨-, value, grouped⟩ := mem_numbered here
      have ⟨matchedOne, namedOne⟩ := conflictKey_eq_some.1 ((mem_group grouped).1 oneHere).2
      have ⟨matchedTwo, namedTwo⟩ := conflictKey_eq_some.1 ((mem_group grouped).1 twoThere).2
      rw [Conflicts.duplicateTargetKey_apply, Conflicts.duplicateTargetKey_apply]
      exact noCollision one inOne two inTwo matchedOne matchedTwo (by simp [namedOne])
        (namedOne.trans namedTwo.symm)
    · intro one inside before after
      exact preferred_of_detectConflicts distinct inside ⟨before, after⟩

/-! ### Both detections -/

/-- A target of matched files keeps one that the duplicate detection does not collapse. -/
theorem exists_matched (rules : CopyRules) (distinct : DistinctIds files) (inside : file ∈ files)
    (matched : file.status = .matched) (targeted : duplicateTargetKey file ≠ none)
    (duplicateSeries : Bool) (duplicateGroupCounter : ℕ) :
    ∃ kept ∈ files, duplicateTargetKey kept = duplicateTargetKey file ∧
      ((detectDuplicateCopies rules duplicateSeries files duplicateGroupCounter).apply rules
        kept).status = .matched := by
  have collapses :=
    collapses_detectDuplicateCopies rules duplicateSeries duplicateGroupCounter distinct
  obtain ⟨target, named⟩ := Option.ne_none_iff_exists'.1 targeted
  by_cases marked : file ∈ (copyPairs rules duplicateSeries files).map Prod.fst
  · obtain ⟨kept, keptInside, keptTargeted, -, stays, kind⟩ :=
      exists_kept_target distinct inside named marked
    refine ⟨kept, keptInside, keptTargeted.trans named.symm, ?_⟩
    rw [collapses.marked distinct keptInside, if_neg stays]
    exact kind.2 matched
  · refine ⟨file, inside, rfl, ?_⟩
    rw [collapses.marked distinct inside, if_neg marked]
    exact matched

/-- What the duplicate detection leaves matched was matched before. -/
theorem matched_of_apply (distinct : DistinctIds files) (inside : file ∈ files)
    {duplicateGroupCounter : ℕ}
    (matched : ((detectDuplicateCopies rules duplicateSeries files duplicateGroupCounter).apply
      rules file).status = .matched) : file.status = .matched := by
  have collapses :=
    collapses_detectDuplicateCopies rules duplicateSeries duplicateGroupCounter distinct
  rw [collapses.marked distinct inside] at matched
  split at matched
  · cases matched
  · exact matched

/-- The duplicate detection neither makes nor removes a collision. -/
theorem noCollision_map (distinct : DistinctIds files) (duplicateGroupCounter : ℕ) :
    NoCollision (files.map ((detectDuplicateCopies rules duplicateSeries files
      duplicateGroupCounter).apply rules)) ↔ NoCollision files := by
  constructor
  · intro noCollision one inOne two inTwo matchedOne matchedTwo identified same
    have targeted : ∀ file, issueIdentityKey file ≠ none → duplicateTargetKey file ≠ none := by
      intro file identified
      rw [issueIdentityKey_eq, ne_eq, Option.map_eq_none_iff] at identified
      exact identified
    obtain ⟨keptOne, keptOneInside, targetOne, stillOne⟩ := exists_matched rules
      distinct inOne matchedOne (targeted one identified) duplicateSeries duplicateGroupCounter
    obtain ⟨keptTwo, keptTwoInside, targetTwo, stillTwo⟩ := exists_matched rules
      distinct inTwo matchedTwo (targeted two (same ▸ identified)) duplicateSeries
      duplicateGroupCounter
    have equal := noCollision _ (mem_map_of_mem keptOneInside) _
      (mem_map_of_mem keptTwoInside) stillOne stillTwo
    rw [issueIdentityKey_eq, issueIdentityKey_eq, duplicateTargetKey_apply,
      duplicateTargetKey_apply, targetOne, targetTwo, ← issueIdentityKey_eq,
      ← issueIdentityKey_eq] at equal
    exact equal identified same
  · intro noCollision one inOne two inTwo matchedOne matchedTwo identified same
    obtain ⟨first, firstInside, rfl⟩ := mem_map.1 inOne
    obtain ⟨second, secondInside, rfl⟩ := mem_map.1 inTwo
    have beforeFirst := matched_of_apply distinct firstInside matchedOne
    have beforeSecond := matched_of_apply distinct secondInside matchedTwo
    rw [issueIdentityKey_eq, duplicateTargetKey_apply, ← issueIdentityKey_eq] at identified same
    rw [issueIdentityKey_eq ((_ : Detection).apply rules second), duplicateTargetKey_apply,
      ← issueIdentityKey_eq] at same
    rw [duplicateTargetKey_apply, duplicateTargetKey_apply]
    exact noCollision first firstInside second secondInside beforeFirst beforeSecond identified same

/-- Rows of one table, each listed once. -/
structure FileRows where
  files : List ImportedFile
  distinct : DistinctIds files

theorem FileRows.apply_distinct (rows : FileRows) (detection : Detection) :
    DistinctIds (rows.files.map (detection.apply rules)) := by
  have same : (rows.files.map (detection.apply rules)).map (·.id) = rows.files.map (·.id) := by
    rw [map_map]
    apply map_congr_left
    intro file inside
    exact apply_id
  unfold DistinctIds
  rw [same]
  exact rows.distinct

/-- Both detections do what is promised if and only if every representative is settled and no two
identities collide. -/
theorem collapsed_and_separated_iff (rules : CopyRules) (duplicateSeries : Bool) (rows : FileRows)
    (duplicateGroupCounter groupCounter : ℕ) :
    let detection := detectDuplicateCopies rules duplicateSeries rows.files duplicateGroupCounter
    let after := rows.files.map (detection.apply rules)
    Collapsed rows.files (detection.apply rules) detection.duplicateCount ∧
        Separated after (detectConflicts after groupCounter).apply ↔
      SettledRepresentatives rules rows.files ∧ NoCollision rows.files := by
  intro detection after
  apply and_congr
  · exact collapsed_iff rows.distinct
  · rw [separated_iff (rows.apply_distinct detection)]
    exact noCollision_map rows.distinct duplicateGroupCounter

/-- A file that matches one issue, with the contents of the others. -/
def sameContents (id : ℕ) (fileName filePath : String) : ImportedFile where
  id
  fileName
  filePath
  fileFormat := "cbz"
  fileSize := 100
  status := .matched
  matchedIssueId := some 7

/-- Two copies of one name, and a preferred file of another. -/
def threeCopies : FileRows where
  files := [sameContents 1 "Saga 1.cbz" "a/Saga 1.cbz",
    sameContents 2 "Saga 001.cbz" "a/Saga 001.cbz", sameContents 3 "Saga 001.cbz" "b/Saga 001.cbz"]
  distinct := by
    unfold DistinctIds
    decide

/-- One of three copies is left with a representative that is a duplicate itself. -/
theorem not_collapsed_and_separated :
    ¬∀ (rules : CopyRules) (duplicateSeries : Bool) (rows : FileRows)
      (duplicateGroupCounter groupCounter : ℕ),
      let detection := detectDuplicateCopies rules duplicateSeries rows.files duplicateGroupCounter
      let after := rows.files.map (detection.apply rules)
      Collapsed rows.files (detection.apply rules) detection.duplicateCount ∧
        Separated after (detectConflicts after groupCounter).apply := by
  intro promised
  obtain ⟨collapsed, -⟩ := promised ⟨id, id, fun _ => some "9f86d0"⟩ false threeCopies 0 0
  have last := collapsed.representative (sameContents 3 "Saga 001.cbz" "b/Saga 001.cbz")
  revert last
  decide +kernel

end Pullbox.Import.DuplicateCopies
