import Pullbox.Coverage.Order

/-!
# When the exact search finds the best cover

The search keeps one plan for each set of covered issues, the least by the key so far. The key
compares the largest rank before the sum of the ranks, so a plan that is dropped can be the
start of the best cover: where an artifact of a larger rank is needed anyway, only the sum
counts. The best cover is found when each initial part of it is the least for what it covers.
-/

namespace Pullbox.Coverage

open List

variable {requested : Finset String} {artifacts before after cover : List DirectArtifactOption}
  {artifact : DirectArtifactOption}

/-- A cover of the request with the least key among all of the eligible artifacts. -/
structure LeastCover (requested : Finset String) (artifacts chosen : List DirectArtifactOption) :
    Prop where
  inside : chosen.Sublist (eligibleArtifacts requested artifacts)
  covers : coveredIssues requested chosen = requested
  least : ∀ other, other.Sublist (eligibleArtifacts requested artifacts) →
    coveredIssues requested other = requested →
      selectionKey requested chosen ≤ selectionKey requested other

/-- Each initial part of a cover has the least key of what covers the same issues with the
artifacts up to there. -/
structure SustainedCover (requested : Finset String)
    (artifacts cover : List DirectArtifactOption) : Prop where
  inside : cover.Sublist (eligibleArtifacts requested artifacts)
  covers : coveredIssues requested cover = requested
  initial : ∀ early late before after,
    eligibleArtifacts requested artifacts = early ++ late → cover = before ++ after →
      before.Sublist early → after.Sublist late → ∀ other, other.Sublist early →
        coveredIssues requested other = coveredIssues requested before →
          selectionKey requested before ≤ selectionKey requested other

theorem SustainedCover.leastCover (sustained : SustainedCover requested artifacts cover) :
    LeastCover requested artifacts cover := by
  refine ⟨sustained.inside, sustained.covers, fun other inside covers => ?_⟩
  exact sustained.initial _ [] cover [] (append_nil _).symm (append_nil _).symm
    sustained.inside (List.Sublist.refl _) other inside (covers.trans sustained.covers.symm)

/-! ### The key -/

theorem selectionKey_identities {first second : List DirectArtifactOption}
    (same : selectionKey requested first = selectionKey requested second) :
    (artifactIdentities first).Perm (artifactIdentities second) := by
  unfold selectionKey at same
  simp only [toLex_inj, Prod.mk.injEq] at same
  have sorted := same.2.2.2.2.2.2.2.2.2
  have ordered := perm_insertionSort (fun one two : String => one ≤ two)
  exact (ordered (artifactIdentities first)).symm.trans
    (sorted ▸ ordered (artifactIdentities second))

/-- Sets of the eligible artifacts have keys of their own. -/
theorem selectionKey_injective {first second : List DirectArtifactOption}
    (distinct : (artifactIdentities artifacts).Nodup)
    (one : first.Sublist (sortedArtifacts artifacts))
    (two : second.Sublist (sortedArtifacts artifacts))
    (same : selectionKey requested first = selectionKey requested second) : first = second := by
  have named : (artifactIdentities (sortedArtifacts artifacts)).Nodup :=
    (sortedArtifacts_perm.map _).nodup_iff.2 distinct
  have identities := selectionKey_identities same
  have perm : first.Perm second := by
    rw [perm_ext_iff_of_nodup ((named.sublist (one.map _)).of_map _)
      ((named.sublist (two.map _)).of_map _)]
    intro artifact
    constructor
    · intro inside
      obtain ⟨other, there, equal⟩ := mem_map.1
        (identities.subset (mem_map_of_mem inside))
      exact artifact_of_identity named (two.subset there) (one.subset inside) equal ▸ there
    · intro inside
      obtain ⟨other, there, equal⟩ := mem_map.1
        (identities.symm.subset (mem_map_of_mem inside))
      exact artifact_of_identity named (one.subset there) (two.subset inside) equal ▸ there
  have sorted := Search.pairwise_insertionSort_key artifactOrderKey artifacts
  apply perm.eq_of_pairwise _ (sorted.sublist one) (sorted.sublist two)
  intro artifact other inFirst inSecond below above
  exact artifact_of_identity named (one.subset inFirst) (two.subset inSecond)
    (artifactOrderKey_identity (le_antisymm below above))

theorem largest_eq_max? {ranks : List Int} : largest ranks = ranks.max?.getD 0 := by
  cases ranks with
  | nil => rfl
  | cons first rest => rfl

theorem largest_le_largest {few many : List Int} (subset : few ⊆ many)
    (nonnegative : ∀ rank ∈ many, 0 ≤ rank) : largest few ≤ largest many := by
  rw [largest_eq_max?, largest_eq_max?]
  cases most : many.max? with
  | none =>
    rw [List.max?_eq_none_iff] at most
    subst most
    rw [subset_nil.1 subset]
    rfl
  | some top =>
    obtain ⟨inside, bound⟩ := List.max?_eq_some_iff.1 most
    cases least : few.max? with
    | none => exact nonnegative top inside
    | some best => exact bound best (subset (List.max?_eq_some_iff.1 least).1)

theorem toLex_lt_of_le_of_lt {First Second : Type} [LinearOrder First] [LinearOrder Second]
    {left right : First} {low high : Second} (below : left ≤ right) (less : low < high) :
    toLex (left, low) < toLex (right, high) := by
  rw [Prod.Lex.toLex_lt_toLex]
  rcases lt_or_eq_of_le below with strictly | equal
  · exact .inl strictly
  · exact .inr ⟨equal, less⟩

/-- One artifact fewer makes the key less. -/
theorem selectionKey_lt_insert
    (ranks : ∀ item ∈ before ++ artifact :: after, 0 ≤ item.semanticRank ∧ 0 ≤ item.qualityRank) :
    selectionKey requested (before ++ after) <
      selectionKey requested (before ++ artifact :: after) := by
  have sublist : (before ++ after).Sublist (before ++ artifact :: after) :=
    (List.Sublist.refl before).append (sublist_cons_self artifact after)
  obtain ⟨semantic, quality⟩ := ranks artifact (by simp)
  have sums (rank : DirectArtifactOption → Int) (positive : 0 ≤ rank artifact) :
      ((before ++ after).map rank).sum ≤ ((before ++ artifact :: after).map rank).sum := by
    simp only [map_append, map_cons, sum_append, sum_cons]
    omega
  unfold selectionKey
  refine toLex_lt_of_le_of_lt ?_ (toLex_lt_of_le_of_lt (sums _ semantic)
    (toLex_lt_of_le_of_lt ?_ (toLex_lt_of_le_of_lt (sums _ quality) ?_)))
  · refine largest_le_largest (sublist.map _).subset fun rank inside => ?_
    obtain ⟨item, listed, rfl⟩ := mem_map.1 inside
    exact (ranks item listed).1
  · refine largest_le_largest (sublist.map _).subset fun rank inside => ?_
    obtain ⟨item, listed, rfl⟩ := mem_map.1 inside
    exact (ranks item listed).2
  · rw [Prod.Lex.toLex_lt_toLex]
    left
    simp

/-! ### The best cover -/

/-- Every artifact of a sustained cover covers an issue that those before it do not. -/
theorem SustainedCover.moves (sustained : SustainedCover requested artifacts cover)
    (valid : ValidInputs requested artifacts) (split : cover = before ++ artifact :: after) :
    ¬ artifact.coverage ∩ requested ⊆ coveredIssues requested before := by
  intro useless
  have listed : (before ++ after).Sublist cover := by
    rw [split]
    exact (List.Sublist.refl before).append (sublist_cons_self artifact after)
  have covers : coveredIssues requested (before ++ after) = requested := by
    have whole := sustained.covers
    have unfolded : coveredIssues requested (artifact :: after) =
        artifact.coverage ∩ requested ∪ coveredIssues requested after := rfl
    rw [split, coveredIssues_append, unfolded, ← Finset.union_assoc,
      Finset.union_eq_left.2 useless] at whole
    rw [coveredIssues_append]
    exact whole
  have least := sustained.leastCover.least _ (listed.trans sustained.inside) covers
  have ranks : ∀ item ∈ before ++ artifact :: after,
      0 ≤ item.semanticRank ∧ 0 ≤ item.qualityRank := by
    intro item inside
    rw [← split] at inside
    have offered := (mem_eligibleArtifacts.1 (sustained.inside.subset inside)).1
    exact ⟨(valid.artifacts item offered).semanticRank, (valid.artifacts item offered).qualityRank⟩
  have less : selectionKey requested (before ++ after) < selectionKey requested cover := by
    rw [split]
    exact selectionKey_lt_insert ranks
  exact absurd least (not_le.2 less)

theorem SustainedCover.sustained (sustained : SustainedCover requested artifacts cover)
    (valid : ValidInputs requested artifacts) :
    Search.Sustained (selectionKey requested) (· ||| ·) (artifactMask requested) 0
      (eligibleArtifacts requested artifacts) cover := by
  refine ⟨?_, ?_⟩
  · intro early late before after whole parts inside rest other within same apart
    have least := sustained.initial early late before after whole parts inside rest other within
      (planMask_eq_iff.1 same)
    apply lt_of_le_of_ne least
    intro equal
    have early : early.Sublist (eligibleArtifacts requested artifacts) := by
      rw [whole]
      exact sublist_append_left _ _
    have distinct : (artifactIdentities (artifacts.filter fun artifact =>
        decide (artifact.coverage ∩ requested ≠ ∅) && artifact.routes.any (·.eligible))).Nodup :=
      valid.artifactIdentities.sublist (filter_sublist.map _)
    exact apart (selectionKey_injective distinct (within.trans early) (inside.trans early)
      equal.symm)
  · intro before item after split same
    exact sustained.moves valid split (planMask_or_eq_iff.1 same)

theorem sortedArtifacts_of_sublist (inside : cover.Sublist (sortedArtifacts artifacts)) :
    sortedArtifacts cover = cover :=
  ((Search.pairwise_insertionSort_key artifactOrderKey artifacts).sublist inside).insertionSort_eq

/-- A search that is not cut off selects a cover whose initial parts are the least for what they
cover, and that is the least cover. -/
theorem selection_leastCover (requested : Finset String)
    (artifacts cover : List DirectArtifactOption)
    (valid : validateInputs requested artifacts = .ok ())
    (finished : (exactSearch requested (eligibleArtifacts requested artifacts)).2 = false)
    (sustained : SustainedCover requested artifacts cover) :
    selection requested artifacts = cover ∧
      LeastCover requested artifacts (selection requested artifacts) := by
  have accepted := validateInputs_iff.1 valid
  have kept := Search.search_keeps finished (sustained.sustained accepted) sustained.inside
  have full : Search.coverFrom (· ||| ·) (artifactMask requested) 0 cover = fullMask requested :=
    planMask_eq_fullMask_iff.2 sustained.covers
  have chosen : chosenArtifacts requested (eligibleArtifacts requested artifacts) = cover := by
    unfold chosenArtifacts
    rw [finished, ← full]
    unfold exactSearch
    rw [kept]
    rfl
  have selected : selection requested artifacts = cover := by
    unfold selection
    by_cases offered : eligibleArtifacts requested artifacts = []
    · have none := sustained.inside
      rw [offered] at none ⊢
      rw [eq_nil_of_sublist_nil none]
      rfl
    · rw [selectArtifacts_eq offered, chosen]
      exact sortedArtifacts_of_sublist sustained.inside
  rw [selected]
  exact ⟨rfl, sustained.leastCover⟩

/-- A cover is sustained when it is at each split of the artifacts and of itself. -/
theorem SustainedCover.of_splits {eligible : List DirectArtifactOption}
    (listed : eligibleArtifacts requested artifacts = eligible)
    (inside : cover ∈ eligible.sublists) (covers : coveredIssues requested cover = requested)
    (initial : ∀ size ∈ List.range (eligible.length + 1), ∀ count ∈ List.range (cover.length + 1),
      cover.take count ∈ (eligible.take size).sublists →
        ∀ other ∈ (eligible.take size).sublists,
          coveredIssues requested other = coveredIssues requested (cover.take count) →
            cover.drop count ∈ (eligible.drop size).sublists →
              selectionKey requested (cover.take count) ≤ selectionKey requested other) :
    SustainedCover requested artifacts cover := by
  refine ⟨listed ▸ mem_sublists.1 inside, covers, ?_⟩
  intro early late before after whole parts within rest other chosen same
  rw [listed] at whole
  have size : early.length ∈ List.range (eligible.length + 1) := by
    rw [whole, mem_range, length_append]
    omega
  have count : before.length ∈ List.range (cover.length + 1) := by
    rw [parts, mem_range, length_append]
    omega
  have least := initial early.length size before.length count
  rw [whole, parts, take_left, take_left, drop_left, drop_left] at least
  exact least (mem_sublists.2 within) other (mem_sublists.2 chosen) same
    (mem_sublists.2 rest)

/-- Overlapping artifacts, of which the search finds the least cover. -/
theorem overlappingOffer_leastCover :
    LeastCover {"1", "2", "3"} overlappingOffer (selection {"1", "2", "3"} overlappingOffer) := by
  have listed : eligibleArtifacts {"1", "2", "3"} overlappingOffer = overlappingOffer.take 2 := by
    decide +kernel
  have sustained : SustainedCover {"1", "2", "3"} overlappingOffer (overlappingOffer.take 2) :=
    .of_splits listed (by decide +kernel) (by decide +kernel) (by decide +kernel)
  exact (selection_leastCover _ _ _ (by decide +kernel) (by decide +kernel) sustained).2

/-- Two artifacts of a small rank, one of a larger rank that covers as much, and one of the
largest rank that is needed for the rest. -/
def rankedOffer : List DirectArtifactOption :=
  [offeredArtifact "left" {"1"} 4 [offeredRoute "a" true],
    offeredArtifact "right" {"2"} 4 [offeredRoute "b" true],
    offeredArtifact "both" {"1", "2"} 5 [offeredRoute "c" true],
    offeredArtifact "rest" {"3"} 10 [offeredRoute "d" true]]

/-- The search drops the artifact that covers as much as the first two, for its rank. -/
theorem rankedOffer_not_leastCover :
    validateInputs {"1", "2", "3"} rankedOffer = .ok () ∧
      (exactSearch {"1", "2", "3"} (eligibleArtifacts {"1", "2", "3"} rankedOffer)).2 = false ∧
        (∃ cover, LeastCover {"1", "2", "3"} rankedOffer cover) ∧
          ¬ LeastCover {"1", "2", "3"} rankedOffer (selection {"1", "2", "3"} rankedOffer) := by
  have listed : eligibleArtifacts {"1", "2", "3"} rankedOffer = rankedOffer := by decide +kernel
  have best : ∀ other ∈ rankedOffer.sublists,
      coveredIssues {"1", "2", "3"} other = {"1", "2", "3"} →
        selectionKey {"1", "2", "3"} (rankedOffer.drop 2) ≤
          selectionKey {"1", "2", "3"} other := by
    decide +kernel
  have least : LeastCover {"1", "2", "3"} rankedOffer (rankedOffer.drop 2) := by
    refine ⟨?_, by decide +kernel, ?_⟩
    · rw [listed]
      exact drop_sublist 2 rankedOffer
    · intro other inside covers
      rw [listed] at inside
      exact best other (mem_sublists.2 inside) covers
  refine ⟨by decide +kernel, by decide +kernel, ⟨_, least⟩, fun selected => ?_⟩
  have more : selectionKey {"1", "2", "3"} (rankedOffer.drop 2) <
      selectionKey {"1", "2", "3"} (selection {"1", "2", "3"} rankedOffer) := by
    decide +kernel
  exact absurd (selected.least _ least.inside least.covers) (not_le.2 more)

end Pullbox.Coverage
