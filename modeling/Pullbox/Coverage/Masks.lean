import Mathlib.Combinatorics.Colex
import Pullbox.Coverage.Planner

/-!
# What the bits of the planner say

A bit of a mask stands for a requested issue. Joining the masks of some artifacts joins the
requested issues that they cover.
-/

namespace Pullbox.Coverage

open Nat

variable {requested : Finset String} {artifact : DirectArtifactOption}
  {plan other : List DirectArtifactOption} {issue : String} {covered mask position : Nat}

/-! ### Positions -/

theorem issuePosition_lt_of_lt {first second : String} (inside : first ∈ requested)
    (less : first < second) :
    issuePosition requested first < issuePosition requested second := by
  apply Finset.card_lt_card
  rw [Finset.ssubset_iff_of_subset]
  · refine ⟨first, Finset.mem_filter.2 ⟨inside, less⟩, fun again => ?_⟩
    exact lt_irrefl first (Finset.mem_filter.1 again).2
  · intro issue earlier
    obtain ⟨known, before⟩ := Finset.mem_filter.1 earlier
    exact Finset.mem_filter.2 ⟨known, lt_trans before less⟩

theorem issuePosition_injective {first second : String} (one : first ∈ requested)
    (two : second ∈ requested)
    (same : issuePosition requested first = issuePosition requested second) : first = second := by
  rcases lt_trichotomy first second with less | equal | more
  · have apart := issuePosition_lt_of_lt one less
    omega
  · exact equal
  · have apart := issuePosition_lt_of_lt two more
    omega

theorem issuePosition_lt (inside : issue ∈ requested) :
    issuePosition requested issue < requested.card := by
  apply Finset.card_lt_card
  rw [Finset.ssubset_iff_of_subset (Finset.filter_subset _ _)]
  exact ⟨issue, inside, fun again => lt_irrefl issue (Finset.mem_filter.1 again).2⟩

/-- Each position below the number of requested issues is that of one of them. -/
theorem exists_issuePosition (below : position < requested.card) :
    ∃ issue ∈ requested, issuePosition requested issue = position := by
  have image : requested.image (issuePosition requested) = Finset.range requested.card := by
    apply Finset.eq_of_subset_of_card_le
    · intro one inside
      obtain ⟨issue, known, rfl⟩ := Finset.mem_image.1 inside
      exact Finset.mem_range.2 (issuePosition_lt known)
    · rw [Finset.card_range, Finset.card_image_of_injOn]
      intro first one second two same
      exact issuePosition_injective one two same
  have inside : position ∈ requested.image (issuePosition requested) := by
    rw [image]
    exact Finset.mem_range.2 below
  exact Finset.mem_image.1 inside

/-! ### Masks -/

/-- The positions of some issues. -/
def positions (requested issues : Finset String) : Finset Nat :=
  issues.image (issuePosition requested)

theorem artifactMask_testBit :
    (artifactMask requested artifact).testBit position ↔
      position ∈ positions requested (artifact.coverage ∩ requested) := by
  have sum : artifactMask requested artifact =
      ∑ index ∈ positions requested (artifact.coverage ∩ requested), 2 ^ index := by
    unfold artifactMask positions
    rw [Finset.sum_image]
    · apply Finset.sum_congr rfl
      intro issue _
      exact one_shiftLeft _
    · intro first one second two same
      exact issuePosition_injective (Finset.mem_inter.1 one).2 (Finset.mem_inter.1 two).2 same
  rw [sum, ← mem_bitIndices, ← List.mem_toFinset, Finset.toFinset_bitIndices_sum_two_pow]

theorem fullMask_testBit :
    (fullMask requested).testBit position ↔ position ∈ positions requested requested := by
  unfold fullMask
  rw [one_shiftLeft, testBit_two_pow_sub_one, decide_eq_true_iff]
  constructor
  · intro below
    obtain ⟨issue, inside, rfl⟩ := exists_issuePosition below
    exact Finset.mem_image_of_mem _ inside
  · intro inside
    obtain ⟨issue, known, rfl⟩ := Finset.mem_image.1 inside
    exact issuePosition_lt known

/-- What a plan covers, as the planner adds it up. -/
abbrev planMask (requested : Finset String) (plan : List DirectArtifactOption) : Nat :=
  Search.coverFrom (· ||| ·) (artifactMask requested) 0 plan

theorem planMask_concat :
    planMask requested (plan ++ [artifact]) =
      planMask requested plan ||| artifactMask requested artifact :=
  Search.coverFrom_concat

theorem coveredIssues_append :
    coveredIssues requested (plan ++ other) =
      coveredIssues requested plan ∪ coveredIssues requested other := by
  induction plan with
  | nil => exact (Finset.empty_union _).symm
  | cons first rest ih =>
    change first.coverage ∩ requested ∪ coveredIssues requested (rest ++ other) =
      first.coverage ∩ requested ∪ coveredIssues requested rest ∪ coveredIssues requested other
    rw [ih, Finset.union_assoc]

theorem coveredIssues_singleton :
    coveredIssues requested [artifact] = artifact.coverage ∩ requested :=
  Finset.union_empty _

theorem mem_coveredIssues :
    issue ∈ coveredIssues requested plan ↔
      issue ∈ requested ∧ ∃ artifact ∈ plan, issue ∈ artifact.coverage := by
  induction plan with
  | nil => simp [coveredIssues]
  | cons first rest ih =>
    have unfolded : coveredIssues requested (first :: rest) =
        first.coverage ∩ requested ∪ coveredIssues requested rest := rfl
    rw [unfolded, Finset.mem_union, Finset.mem_inter, ih]
    simp only [List.mem_cons, exists_eq_or_imp]
    tauto

theorem coveredIssues_subset : coveredIssues requested plan ⊆ requested := by
  intro issue inside
  exact (mem_coveredIssues.1 inside).1

theorem coveredIssues_mono (subset : plan ⊆ other) :
    coveredIssues requested plan ⊆ coveredIssues requested other := by
  intro issue inside
  obtain ⟨known, artifact, member, covers⟩ := mem_coveredIssues.1 inside
  exact mem_coveredIssues.2 ⟨known, artifact, subset member, covers⟩

theorem planMask_testBit :
    (planMask requested plan).testBit position ↔
      position ∈ positions requested (coveredIssues requested plan) := by
  induction plan using List.reverseRecOn with
  | nil =>
    change testBit 0 position = true ↔ position ∈ positions requested ∅
    simp [positions]
  | append_singleton before last ih =>
    rw [planMask_concat, testBit_or, Bool.or_eq_true, ih, artifactMask_testBit,
      coveredIssues_append, coveredIssues_singleton]
    unfold positions
    rw [Finset.image_union, Finset.mem_union]

theorem positions_injective {first second : Finset String} (one : first ⊆ requested)
    (two : second ⊆ requested) (same : positions requested first = positions requested second) :
    first = second := by
  have within {left right : Finset String} (leftIn : left ⊆ requested) (rightIn : right ⊆ requested)
      (equal : positions requested left = positions requested right) : left ⊆ right := by
    intro issue inside
    have place : issuePosition requested issue ∈ positions requested right :=
      equal ▸ Finset.mem_image_of_mem _ inside
    obtain ⟨again, known, there⟩ := Finset.mem_image.1 place
    exact issuePosition_injective (rightIn known) (leftIn inside) there ▸ known
  exact Finset.Subset.antisymm (within one two same) (within two one same.symm)

/-- Plans have the same mask when they cover the same requested issues. -/
theorem planMask_eq_iff :
    planMask requested plan = planMask requested other ↔
      coveredIssues requested plan = coveredIssues requested other := by
  constructor
  · intro same
    apply positions_injective coveredIssues_subset coveredIssues_subset
    ext position
    rw [← planMask_testBit, ← planMask_testBit, same]
  · intro same
    apply eq_of_testBit_eq
    intro position
    rw [Bool.eq_iff_iff, planMask_testBit, planMask_testBit, same]

theorem planMask_eq_fullMask_iff :
    planMask requested plan = fullMask requested ↔
      coveredIssues requested plan = requested := by
  constructor
  · intro same
    apply positions_injective coveredIssues_subset (Finset.Subset.refl _)
    ext position
    rw [← planMask_testBit, ← fullMask_testBit, same]
  · intro same
    apply eq_of_testBit_eq
    intro position
    rw [Bool.eq_iff_iff, planMask_testBit, fullMask_testBit, same]

/-- An artifact leaves the mask as it is when it covers nothing new. -/
theorem planMask_or_eq_iff :
    planMask requested plan ||| artifactMask requested artifact = planMask requested plan ↔
      artifact.coverage ∩ requested ⊆ coveredIssues requested plan := by
  rw [← planMask_concat, planMask_eq_iff, coveredIssues_append, coveredIssues_singleton,
    Finset.union_eq_left]

/-! ### Counting bits -/

/-- The bits of a mask. -/
def bitsOf (mask : Nat) : Finset Nat :=
  mask.bitIndices.toFinset

theorem mem_bitsOf : position ∈ bitsOf mask ↔ mask.testBit position := by
  rw [bitsOf, List.mem_toFinset, mem_bitIndices]

theorem bitCount_eq_card : bitCount mask = (bitsOf mask).card := by
  have bits : bitsOf mask = ((List.range (mask.log2 + 1)).filter mask.testBit).toFinset := by
    ext position
    rw [mem_bitsOf, List.mem_toFinset, List.mem_filter, List.mem_range, Nat.lt_succ_iff]
    constructor
    · intro bit
      have least := ge_two_pow_of_testBit bit
      have positive : mask ≠ 0 := by
        rintro rfl
        simp at bit
      exact ⟨(le_log2 positive).2 least, bit⟩
    · exact And.right
  rw [bits, bitCount, List.countP_eq_length_filter,
    List.toFinset_card_of_nodup (List.nodup_range.filter _)]

theorem bitCount_eq_zero : bitCount mask = 0 ↔ mask = 0 := by
  rw [bitCount_eq_card, Finset.card_eq_zero]
  constructor
  · intro empty
    apply eq_of_testBit_eq
    intro position
    rw [zero_testBit, Bool.eq_false_iff]
    intro bit
    rw [← mem_bitsOf, empty] at bit
    exact Finset.notMem_empty _ bit
  · rintro rfl
    rfl

/-- An artifact has no new bits when it covers nothing new. -/
theorem newBits_eq_zero :
    newBits requested (planMask requested plan) artifact = 0 ↔
      artifact.coverage ∩ requested ⊆ coveredIssues requested plan := by
  rw [newBits, bitCount_eq_zero, ← planMask_or_eq_iff]
  constructor
  · intro none
    apply eq_of_testBit_eq
    intro position
    have bit := congrArg (testBit · position) none
    simp only [testBit_ldiff, zero_testBit] at bit
    rw [testBit_or]
    grind
  · intro same
    apply eq_of_testBit_eq
    intro position
    have bit := congrArg (testBit · position) same
    simp only [testBit_or] at bit
    rw [testBit_ldiff, zero_testBit]
    grind

theorem planMask_bitCount : bitCount (planMask requested plan) =
    (coveredIssues requested plan).card := by
  have bits : bitsOf (planMask requested plan) =
      positions requested (coveredIssues requested plan) := by
    ext position
    rw [mem_bitsOf, planMask_testBit]
  rw [bitCount_eq_card, bits, positions, Finset.card_image_of_injOn]
  intro first one second two same
  exact issuePosition_injective (coveredIssues_subset one) (coveredIssues_subset two) same

end Pullbox.Coverage
