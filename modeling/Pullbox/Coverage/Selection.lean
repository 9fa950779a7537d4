import Pullbox.Coverage.Masks

/-!
# What the selection covers

The exact search and the greedy selection both pick from the offered artifacts, and what they
pick covers every requested issue that the offered artifacts cover.
-/

namespace Pullbox.Coverage

open List

variable {requested : Finset String} {artifacts selected remaining : List DirectArtifactOption}

/-- Some of the artifacts cover what all of them do. -/
structure Selects (requested : Finset String) (artifacts chosen : List DirectArtifactOption) :
    Prop where
  subset : chosen ⊆ artifacts
  covers : coveredIssues requested chosen = coveredIssues requested artifacts

theorem Selects.of_subset_of_subset (subset : selected ⊆ artifacts)
    (covers : coveredIssues requested artifacts ⊆ coveredIssues requested selected) :
    Selects requested artifacts selected :=
  ⟨subset, Finset.Subset.antisymm (coveredIssues_mono subset) covers⟩

theorem coveredIssues_perm {first second : List DirectArtifactOption} (perm : first.Perm second) :
    coveredIssues requested first = coveredIssues requested second :=
  Finset.Subset.antisymm (coveredIssues_mono perm.subset) (coveredIssues_mono perm.symm.subset)

theorem Selects.perm {chosen sorted : List DirectArtifactOption}
    (selects : Selects requested artifacts chosen) (perm : sorted.Perm chosen) :
    Selects requested artifacts sorted :=
  ⟨fun _ inside => selects.subset (perm.subset inside),
    (coveredIssues_perm perm).trans selects.covers⟩

/-! ### The greedy selection -/

theorem greedyBest_none {covered : Nat}
    (none : greedyBest requested selected covered remaining = none) :
    ∀ artifact ∈ remaining, newBits requested covered artifact = 0 := by
  have empty := argmin_eq_none.1 none
  intro artifact inside
  by_contra new
  have kept : artifact ∈ remaining.filter fun artifact => newBits requested covered artifact ≠ 0 :=
    mem_filter.2 ⟨inside, by simpa using new⟩
  rw [empty] at kept
  cases kept

/-- What is selected and what remains are the artifacts. -/
structure GreedyState (artifacts selected remaining : List DirectArtifactOption) : Prop where
  subset : selected ⊆ artifacts
  left : remaining ⊆ artifacts
  split : ∀ artifact ∈ artifacts, artifact ∈ selected ∨ artifact ∈ remaining

theorem GreedyState.step {best : DirectArtifactOption}
    (state : GreedyState artifacts selected remaining) (inside : best ∈ remaining) :
    GreedyState artifacts (selected ++ [best]) (remaining.erase best) := by
  refine ⟨?_, ?_, ?_⟩
  · intro artifact member
    rcases mem_append.1 member with old | last
    · exact state.subset old
    · exact mem_singleton.1 last ▸ state.left inside
  · intro artifact member
    exact state.left (mem_of_mem_erase member)
  · intro artifact member
    rcases state.split artifact member with old | left
    · exact .inl (mem_append_left _ old)
    · by_cases same : artifact = best
      · exact .inl (mem_append_right _ (mem_singleton.2 same))
      · exact .inr ((mem_erase_of_ne same).2 left)

theorem greedyBoundedSelection_selects (state : GreedyState artifacts selected remaining) :
    Selects requested artifacts
      (greedyBoundedSelection requested selected (planMask requested selected) remaining) := by
  generalize size : remaining.length = count
  induction count using Nat.strong_induction_on generalizing selected remaining with
  | h count ih =>
    unfold greedyBoundedSelection
    split
    · rename_i full
      apply Selects.of_subset_of_subset state.subset
      rw [planMask_eq_fullMask_iff.1 full]
      exact coveredIssues_subset
    · split
      · rename_i none
        apply Selects.of_subset_of_subset state.subset
        intro issue inside
        obtain ⟨known, artifact, member, covers⟩ := mem_coveredIssues.1 inside
        rcases state.split artifact member with old | left
        · exact mem_coveredIssues.2 ⟨known, artifact, old, covers⟩
        · exact newBits_eq_zero.1 (greedyBest_none none artifact left)
            (Finset.mem_inter.2 ⟨covers, known⟩)
      · rename_i best found
        have inside := (greedyBest_mem found).1
        have positive := length_pos_of_mem inside
        rw [← planMask_concat]
        apply ih (remaining.erase best).length _ (state.step inside) rfl
        rw [length_erase_of_mem inside]
        omega

/-! ### The exact search -/

theorem exactSearch_sound (finished : (exactSearch requested artifacts).2 = false) :
    Search.Sound (· ||| ·) (artifactMask requested) 0 artifacts
      (exactSearch requested artifacts).1 :=
  Search.search_sound finished

theorem bestPartial_selects {states : Search.Plans Nat DirectArtifactOption}
    (sound : Search.Sound (· ||| ·) (artifactMask requested) 0 artifacts states) :
    Selects requested artifacts (bestPartial requested states) := by
  obtain ⟨whole, kept⟩ := Option.isSome_iff_exists.1 sound.whole
  have entry := Search.Dict.get_eq_some.1 kept
  unfold bestPartial
  split
  · rename_i none
    rw [argmin_eq_none.1 none] at entry
    cases entry
  · rename_i best found
    obtain ⟨mask, plan⟩ := best
    have inside := Search.Dict.get_eq_some.2 (argmin_mem found)
    have subset := (sound.sublist mask plan inside).subset
    have least := (Prod.Lex.le_iff.1 (le_of_mem_argmin entry found))
    have count : (coveredIssues requested artifacts).card ≤ bitCount mask := by
      rw [← planMask_bitCount, planMask]
      rcases least with less | ⟨same, _⟩
      · simp only [ofLex_toLex] at less
        omega
      · simp only [ofLex_toLex] at same
        omega
    rw [← sound.covers mask plan inside, planMask_bitCount] at count
    exact ⟨subset, Finset.eq_of_subset_of_card_le (coveredIssues_mono subset) count⟩

/-! ### Both -/

theorem sortedArtifacts_perm : (sortedArtifacts artifacts).Perm artifacts :=
  perm_insertionSort _ _

/-- What is selected, before it is sorted. -/
def chosenArtifacts (requested : Finset String) (artifacts : List DirectArtifactOption) :
    List DirectArtifactOption :=
  if (exactSearch requested artifacts).2 then greedyBoundedSelection requested [] 0 artifacts
  else ((exactSearch requested artifacts).1.get (fullMask requested)).getD
    (bestPartial requested (exactSearch requested artifacts).1)

theorem selectArtifacts_eq (offered : artifacts ≠ []) :
    selectArtifacts requested artifacts = sortedArtifacts (chosenArtifacts requested artifacts) := by
  unfold chosenArtifacts
  cases artifacts with
  | nil => exact absurd rfl offered
  | cons first rest =>
    unfold selectArtifacts
    simp only
    cases (exactSearch requested (first :: rest)).1.get (fullMask requested) with
    | none => rfl
    | some plan => rfl

theorem chosenArtifacts_selects :
    Selects requested artifacts (chosenArtifacts requested artifacts) := by
  unfold chosenArtifacts
  split
  · have start : GreedyState artifacts [] artifacts :=
      ⟨nil_subset _, List.Subset.refl _, fun _ inside => .inr inside⟩
    exact greedyBoundedSelection_selects start
  · rename_i finished
    have sound := exactSearch_sound (Bool.eq_false_iff.2 finished)
    cases full : (exactSearch requested artifacts).1.get (fullMask requested) with
    | none => exact bestPartial_selects sound
    | some plan =>
      have covers := planMask_eq_fullMask_iff.1 (sound.covers _ plan full)
      have selects : Selects requested artifacts plan := by
        apply Selects.of_subset_of_subset (sound.sublist _ plan full).subset
        rw [covers]
        exact coveredIssues_subset
      exact selects

theorem selectArtifacts_selects :
    Selects requested artifacts (selectArtifacts requested artifacts) := by
  by_cases offered : artifacts = []
  · subst offered
    exact ⟨List.Subset.refl _, rfl⟩
  · rw [selectArtifacts_eq offered]
    exact chosenArtifacts_selects.perm sortedArtifacts_perm

end Pullbox.Coverage
