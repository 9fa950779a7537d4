import Mathlib.Algebra.BigOperators.Group.List.Basic
import Pullbox.Import.DuplicateCopies

/-!
# What the detection collapses

The marks of the detection are those of a list of pairs, each of a file and its representative.
The pairs are described file by file.
-/

namespace Pullbox.Import.DuplicateCopies

open Grouping List

variable {rules : CopyRules} {duplicateSeries : Bool} {files group : List ImportedFile}
  {file representative : ImportedFile} {detection : Detection}
  {entry : (GroupKind × TargetKey) × List ImportedFile}

/-- The files are rows of one table, each listed once. -/
def DistinctIds (files : List ImportedFile) : Prop :=
  (files.map (·.id)).Nodup

theorem DistinctIds.nodup (distinct : DistinctIds files) : files.Nodup :=
  List.Nodup.of_map _ distinct

theorem DistinctIds.eq (distinct : DistinctIds files) {one two : ImportedFile}
    (inOne : one ∈ files) (inTwo : two ∈ files) (same : one.id = two.id) : one = two :=
  inj_on_of_nodup_map distinct inOne inTwo same

theorem DistinctIds.sublist (distinct : DistinctIds files) (part : group.Sublist files) :
    DistinctIds group :=
  List.Nodup.sublist (part.map _) distinct

theorem DistinctIds.of_groupBy {Key : Type} [DecidableEq Key] {key : ImportedFile → Option Key}
    {value : Key} (distinct : DistinctIds files) (inside : (value, group) ∈ groupBy key files) :
    DistinctIds group := by
  obtain ⟨rfl, -⟩ := mem_groupBy.1 inside
  exact distinct.sublist filter_sublist

/-- The sort key ends with the id. -/
theorem DistinctIds.injective (distinct : DistinctIds files) :
    ∀ one ∈ files, ∀ two ∈ files,
      preferredFileSortKey one = preferredFileSortKey two → one = two := by
  intro one inOne two inTwo same
  apply distinct.eq inOne inTwo
  simp only [preferredFileSortKey, EmbeddingLike.apply_eq_iff_eq, Prod.mk.injEq] at same
  omega

/-! ### Pairs -/

/-- The pairs of the first stage: identical copies with their preferred one. -/
def exactPairs (rules : CopyRules) (group : List ImportedFile) :
    List (ImportedFile × ImportedFile) :=
  collapseBy preferredFileSortKey (fun file => some (signature rules file)) group

/-- The files that the first stage leaves. -/
def remaining (rules : CopyRules) (group : List ImportedFile) : List ImportedFile :=
  group.filter (· ∉ (exactPairs rules group).map Prod.fst)

/-- The pairs of equal contents: files are first told apart by their size. -/
def hashPairs (rules : CopyRules) (remaining : List ImportedFile) :
    List (ImportedFile × ImportedFile) :=
  (groupBy (fun file => some file.fileSize) remaining).flatMap fun entry =>
    collapseBy preferredFileSortKey (usableHash rules) entry.2

/-- The pairs of one candidate group. -/
def groupPairs (rules : CopyRules) (entry : (GroupKind × TargetKey) × List ImportedFile) :
    List (ImportedFile × ImportedFile) :=
  match entry.1.1 with
  | .matched => exactPairs rules entry.2 ++ hashPairs rules (remaining rules entry.2)
  | _ => collapse preferredFileSortKey entry.2

def copyPairs (rules : CopyRules) (duplicateSeries : Bool) (files : List ImportedFile) :
    List (ImportedFile × ImportedFile) :=
  (groupBy (candidateKey duplicateSeries) files).flatMap (groupPairs rules)

/-! ### The marks are those of the pairs -/

/-- The ids that are marked, each with its representative. -/
def Detection.pairs (detection : Detection) : List (ℕ × ℕ) :=
  detection.marks.map fun mark => (mark.1, mark.2.representativeId)

def ids (pairs : List (ImportedFile × ImportedFile)) : List (ℕ × ℕ) :=
  pairs.map fun pair => (pair.1.id, pair.2.id)

/-- A part of the detection adds these pairs. -/
structure Adds (before after : Detection) (pairs : List (ImportedFile × ImportedFile)) : Prop where
  listed : after.pairs = before.pairs ++ ids pairs
  count : after.duplicateCount = before.duplicateCount + pairs.length

theorem Adds.refl (detection : Detection) : Adds detection detection [] :=
  ⟨(append_nil _).symm, rfl⟩

theorem Adds.trans {before between after : Detection}
    {first second : List (ImportedFile × ImportedFile)} (one : Adds before between first)
    (two : Adds between after second) : Adds before after (first ++ second) where
  listed := by
    unfold ids
    rw [two.listed, one.listed, append_assoc, map_append]
    rfl
  count := by rw [two.count, one.count, length_append, Nat.add_assoc]

theorem adds_foldl {Part : Type} {step : Detection → Part → Detection}
    {draw : Part → List (ImportedFile × ImportedFile)}
    (adds : ∀ detection part, Adds detection (step detection part) (draw part))
    (parts : List Part) (detection : Detection) :
    Adds detection (parts.foldl step detection) (parts.flatMap draw) := by
  induction parts generalizing detection with
  | nil => exact .refl detection
  | cons part rest ih =>
    rw [foldl_cons, flatMap_cons]
    exact (adds detection part).trans (ih (step detection part))

theorem adds_record (reason : DuplicateReason) (targetState : Option String)
    (detection : Detection) (group : List ImportedFile) :
    Adds detection (detection.record reason targetState (byRank preferredFileSortKey group))
      (collapse preferredFileSortKey group) := by
  unfold collapse
  cases byRank preferredFileSortKey group with
  | nil => exact .refl detection
  | cons representative duplicates =>
    constructor
    · simp [Detection.pairs, Detection.record, ids, Function.comp_def]
    · simp [Detection.record]

theorem adds_collapseCluster (reason : DuplicateReason) (targetState : Option String)
    (detection : Detection) (cluster : List ImportedFile) :
    Adds detection (detection.collapseCluster reason targetState cluster)
      (collapse preferredFileSortKey cluster) := by
  unfold Detection.collapseCluster
  split
  · rename_i short
    rw [collapse_of_length_lt short]
    exact .refl detection
  · exact adds_record reason targetState detection cluster

/-- One stage of the detection, over the groups of a key. -/
theorem adds_stage {Key : Type} [DecidableEq Key] (key : ImportedFile → Option Key)
    (reason : DuplicateReason) (targetState : Option String) (group : List ImportedFile)
    (detection : Detection) :
    Adds detection (((groupBy key group).map Prod.snd).foldl
      (Detection.collapseCluster reason targetState) detection)
      (collapseBy preferredFileSortKey key group) := by
  have adds := adds_foldl (adds_collapseCluster reason targetState)
    ((groupBy key group).map Prod.snd) detection
  rw [flatMap_map] at adds
  exact adds

theorem adds_sameSize (rules : CopyRules) (detection : Detection) (group : List ImportedFile) :
    Adds detection (detection.sameSize rules group)
      (collapseBy preferredFileSortKey (usableHash rules) group) := by
  unfold Detection.sameSize
  split
  · rename_i short
    rw [collapseBy_of_length_lt short]
    exact .refl detection
  · have adds := adds_stage (usableHash rules) .hashConfirmedDuplicate none group
      { detection with hashed := detection.hashed ++ group.map (·.id) }
    exact ⟨adds.listed, adds.count⟩

theorem status_eq (detection : Detection) (file : ImportedFile) :
    detection.status file =
      if file.id ∈ detection.pairs.map Prod.fst then .duplicateFile else file.status := by
  have listed : (detection.marks.lookup file.id).isSome = true ↔
      file.id ∈ detection.pairs.map Prod.fst := by
    rw [lookup_isSome_iff]
    simp [Detection.pairs]
  unfold Detection.status
  by_cases marked : file.id ∈ detection.pairs.map Prod.fst
  · rw [if_pos marked, if_pos (listed.2 marked)]
  · rw [if_neg marked, if_neg (mt listed.1 marked)]

theorem map_fst_ids (pairs : List (ImportedFile × ImportedFile)) :
    (ids pairs).map Prod.fst = (pairs.map Prod.fst).map (·.id) := by
  simp [ids, Function.comp_def]

theorem exactPairs_subset (rules : CopyRules) (distinct : DistinctIds group) :
    (exactPairs rules group).map Prod.fst ⊆ group := by
  intro file first
  exact ((mem_map_fst_collapseBy distinct.nodup distinct.injective).1 first).1

/-- The group of a target that is not marked yet: after the first stage a file is still matched if
and only if that stage leaves it. -/
theorem adds_matchedGroup (distinct : DistinctIds group)
    (matched : ∀ file ∈ group, file.status = .matched)
    (unmarked : ∀ file ∈ group, file.id ∉ detection.pairs.map Prod.fst) :
    Adds detection (detection.matchedGroup rules group)
      (exactPairs rules group ++ hashPairs rules (remaining rules group)) := by
  have exact := adds_stage (fun file => some (signature rules file)) .exactDuplicate none group
    detection
  change Adds detection _ (exactPairs rules group) at exact
  unfold Detection.matchedGroup
  simp only
  generalize ((groupBy (fun file => some (signature rules file)) group).map Prod.snd).foldl
    (Detection.collapseCluster .exactDuplicate none) detection = after at exact ⊢
  have left : group.filter (after.status · = .matched) = remaining rules group := by
    apply filter_congr
    intro file inside
    apply decide_eq_decide.2
    have marked : file.id ∈ after.pairs.map Prod.fst ↔
        file ∈ (exactPairs rules group).map Prod.fst := by
      rw [exact.listed, map_append, mem_append, map_fst_ids]
      constructor
      · rintro (before | here)
        · exact absurd before (unmarked file inside)
        · obtain ⟨other, first, same⟩ := mem_map.1 here
          exact distinct.eq (exactPairs_subset rules distinct first) inside same ▸ first
      · exact fun first => .inr (mem_map_of_mem first)
    rw [status_eq, ← marked]
    by_cases here : file.id ∈ after.pairs.map Prod.fst
    · simp [here]
    · simp [here, matched file inside]
  rw [left]
  apply exact.trans
  have adds := adds_foldl (adds_sameSize rules)
    ((groupBy (fun file => some file.fileSize) (remaining rules group)).map Prod.snd) after
  rw [flatMap_map] at adds
  exact adds

/-! ### The pairs of the candidate groups -/

theorem candidateKey_eq {target : TargetKey} {kind : GroupKind}
    (named : candidateKey duplicateSeries file = some (kind, target)) :
    duplicateTargetKey file = some target ∧ file.status ≠ .duplicateFile ∧
      (kind = .matched ↔ file.status = .matched) := by
  unfold candidateKey at named
  cases targeted : duplicateTargetKey file with
  | none =>
    rw [targeted] at named
    cases named
  | some own =>
    rw [targeted] at named
    cases status : file.status <;> simp only [status] at named <;> grind

theorem candidateKey_matched {target : TargetKey} :
    candidateKey duplicateSeries file = some (.matched, target) ↔
      file.status = .matched ∧ duplicateTargetKey file = some target := by
  constructor
  · intro named
    have ⟨targeted, _, kind⟩ := candidateKey_eq named
    exact ⟨kind.1 rfl, targeted⟩
  · rintro ⟨matched, targeted⟩
    simp [candidateKey, matched, targeted]

/-- A part of the candidate groups: rows of one table, each in the group of its key. -/
structure CandidateGroups (duplicateSeries : Bool)
    (groups : List ((GroupKind × TargetKey) × List ImportedFile)) : Prop where
  distinct : ∀ entry ∈ groups, DistinctIds entry.2
  named : ∀ entry ∈ groups, ∀ file ∈ entry.2,
    candidateKey duplicateSeries file = some entry.1
  apart : groups.Pairwise fun one two =>
    ∀ file ∈ one.2, ∀ other ∈ two.2, file.id ≠ other.id

theorem hashPairs_subset (rules : CopyRules) (distinct : DistinctIds group) :
    (hashPairs rules group).map Prod.fst ⊆ group := by
  unfold hashPairs
  rw [map_flatMap]
  intro file inside
  obtain ⟨⟨size, same⟩, here, first⟩ := mem_flatMap.1 inside
  have inner := distinct.of_groupBy here
  exact ((mem_group here).1 ((mem_map_fst_collapseBy inner.nodup inner.injective).1 first).1).1

theorem remaining_sublist (rules : CopyRules) (group : List ImportedFile) :
    (remaining rules group).Sublist group :=
  filter_sublist

theorem groupPairs_subset (rules : CopyRules) (distinct : DistinctIds entry.2) :
    (groupPairs rules entry).map Prod.fst ⊆ entry.2 := by
  unfold groupPairs
  split
  · rw [map_append]
    have part := remaining_sublist rules entry.2
    apply append_subset_of_subset_of_subset
    · exact exactPairs_subset rules distinct
    · exact List.Subset.trans (hashPairs_subset rules (distinct.sublist part)) part.subset
  · exact map_fst_collapse_subset _ _

theorem groupPairs_of_length_lt (short : entry.2.length < 2) : groupPairs rules entry = [] := by
  unfold groupPairs
  split
  · have left := (remaining_sublist rules entry.2).length_le
    have noHash : hashPairs rules (remaining rules entry.2) = [] := by
      apply flatMap_eq_nil_iff.2
      rintro ⟨size, same⟩ inside
      apply collapseBy_of_length_lt
      obtain ⟨rfl, -⟩ := mem_groupBy.1 inside
      exact ((length_filter_le _ _).trans left).trans_lt short
    unfold exactPairs
    rw [collapseBy_of_length_lt short, noHash]
    rfl
  · exact collapse_of_length_lt short

theorem adds_candidateGroup (distinct : DistinctIds entry.2)
    (named : ∀ file ∈ entry.2, candidateKey duplicateSeries file = some entry.1)
    (unmarked : ∀ file ∈ entry.2, file.id ∉ detection.pairs.map Prod.fst) :
    Adds detection (detection.candidateGroup rules entry) (groupPairs rules entry) := by
  obtain ⟨⟨kind, target⟩, group⟩ := entry
  unfold Detection.candidateGroup
  dsimp only
  split
  · rename_i short
    rw [groupPairs_of_length_lt short]
    exact .refl detection
  · cases kind with
    | matched =>
      apply adds_matchedGroup distinct _ unmarked
      intro file inside
      exact (candidateKey_matched.1 (named file inside)).1
    | alreadyOwned => exact adds_record _ _ detection group
    | informational => exact adds_record _ _ detection group

theorem adds_candidateGroups {groups : List ((GroupKind × TargetKey) × List ImportedFile)}
    (isGroups : CandidateGroups duplicateSeries groups)
    (unmarked : ∀ entry ∈ groups, ∀ file ∈ entry.2, file.id ∉ detection.pairs.map Prod.fst) :
    Adds detection (groups.foldl (Detection.candidateGroup rules) detection)
      (groups.flatMap (groupPairs rules)) := by
  induction groups generalizing detection with
  | nil => exact .refl detection
  | cons entry rest ih =>
    have distinct := isGroups.distinct entry mem_cons_self
    have ⟨apart, restApart⟩ := pairwise_cons.1 isGroups.apart
    have here : Adds detection (detection.candidateGroup rules entry)
        (groupPairs rules entry) :=
      adds_candidateGroup distinct (isGroups.named entry mem_cons_self)
        (unmarked entry mem_cons_self)
    rw [foldl_cons, flatMap_cons]
    apply here.trans
    apply ih
    · constructor
      · exact fun other inside => isGroups.distinct other (mem_cons_of_mem _ inside)
      · exact fun other inside => isGroups.named other (mem_cons_of_mem _ inside)
      · exact restApart
    · intro other inside file inFile
      rw [here.listed, map_append, mem_append, map_fst_ids]
      rintro (before | now)
      · exact unmarked other (mem_cons_of_mem _ inside) file inFile before
      · obtain ⟨first, inFirst, same⟩ := mem_map.1 now
        exact apart other inside first (groupPairs_subset rules distinct inFirst) file inFile
          same

theorem candidateGroups (distinct : DistinctIds files) :
    CandidateGroups duplicateSeries (groupBy (candidateKey duplicateSeries) files) where
  distinct entry inside := distinct.of_groupBy inside
  named entry inside file inFile := ((mem_group inside).1 inFile).2
  apart := by
    apply (pairwise_groupBy (candidateKey duplicateSeries) files).imp_of_mem
    intro one two insideOne insideTwo apart file inOne other inTwo same
    have equal : file = other :=
      distinct.eq ((mem_group insideOne).1 inOne).1 ((mem_group insideTwo).1 inTwo).1 same
    exact apart file inOne (equal ▸ inTwo)

/-- The detection marks the files of the pairs, each with its representative, and counts them. -/
theorem adds_detectDuplicateCopies (rules : CopyRules) (duplicateSeries : Bool)
    (distinct : DistinctIds files) (duplicateGroupCounter : ℕ) :
    Adds { duplicateGroupCounter }
      (detectDuplicateCopies rules duplicateSeries files duplicateGroupCounter)
      (copyPairs rules duplicateSeries files) := by
  apply adds_candidateGroups (candidateGroups distinct)
  intro entry inside file inFile marked
  cases marked

end Pullbox.Import.DuplicateCopies
