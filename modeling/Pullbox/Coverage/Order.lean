import Pullbox.Coverage.Inputs
import Pullbox.Coverage.Soundness
import Pullbox.Search.Rename

/-!
# The order of the inputs

The planner sorts the artifacts and the routes of each by keys that end in their identities, and
the selection does not look at the routes. So the order of its inputs does not matter.
-/

namespace Pullbox.Coverage

open List

open Search (Dict)

variable {requested : Finset String} {artifacts first second : List DirectArtifactOption}
  {artifact other : DirectArtifactOption} {pinned : Option String}

/-- The same artifact with its routes in another order. -/
structure Reordered (artifact other : DirectArtifactOption) : Prop where
  routes : artifact.routes.Perm other.routes
  same : other = { artifact with routes := other.routes }

/-- The same artifacts in another order, and the routes of each in another order. -/
def Shuffled (first second : List DirectArtifactOption) : Prop :=
  ∃ middle, first.Perm middle ∧ List.Forall₂ Reordered middle second

/-! ### What is accepted -/

theorem Reordered.valid_iff (reordered : Reordered artifact other) :
    artifact.Valid ↔ other.Valid := by
  have routes : (∀ route ∈ artifact.routes, route.ValidRanks) ↔
      ∀ route ∈ other.routes, route.ValidRanks := by
    simp only [reordered.routes.mem_iff]
  obtain ⟨_, same⟩ := reordered
  generalize other.routes = moved at same routes
  subst same
  exact ⟨fun valid => ⟨valid.semanticRank, valid.qualityRank, valid.confidence,
      routes.1 valid.routes⟩,
    fun valid => ⟨valid.semanticRank, valid.qualityRank, valid.confidence,
      routes.2 valid.routes⟩⟩

theorem Reordered.identity (reordered : Reordered artifact other) :
    other.artifactIdentity = artifact.artifactIdentity := by
  rw [reordered.same]

theorem reordered_identities (reordered : List.Forall₂ Reordered first second) :
    artifactIdentities second = artifactIdentities first := by
  induction reordered with
  | nil => rfl
  | cons one _ ih =>
    unfold artifactIdentities at ih ⊢
    rw [map_cons, map_cons, ih, one.identity]

theorem reordered_routes (reordered : List.Forall₂ Reordered first second) :
    (offeredRoutes first).Perm (offeredRoutes second) := by
  induction reordered with
  | nil => exact .refl _
  | cons one _ ih => exact one.routes.append ih

theorem reordered_valid_iff (reordered : List.Forall₂ Reordered first second) :
    (∀ artifact ∈ first, artifact.Valid) ↔ ∀ artifact ∈ second, artifact.Valid := by
  induction reordered with
  | nil => exact Iff.rfl
  | cons one _ ih => rw [forall_mem_cons, forall_mem_cons, one.valid_iff, ih]

theorem Shuffled.valid_iff (shuffled : Shuffled first second) :
    ValidInputs requested first ↔ ValidInputs requested second := by
  obtain ⟨middle, perm, reordered⟩ := shuffled
  have identities : (artifactIdentities first).Nodup ↔ (artifactIdentities second).Nodup := by
    rw [reordered_identities reordered]
    exact (perm.map _).nodup_iff
  have routes : (routeIdentities (offeredRoutes first)).Nodup ↔
      (routeIdentities (offeredRoutes second)).Nodup :=
    (((perm.flatMap_right _).trans (reordered_routes reordered)).map _).nodup_iff
  have valid : (∀ artifact ∈ first, artifact.Valid) ↔ ∀ artifact ∈ second, artifact.Valid := by
    rw [← reordered_valid_iff reordered]
    simp only [perm.mem_iff]
  exact ⟨fun known => ⟨known.requested, identities.1 known.artifactIdentities,
      routes.1 known.routeIdentities, valid.1 known.artifacts⟩,
    fun known => ⟨known.requested, identities.2 known.artifactIdentities,
      routes.2 known.routeIdentities, valid.2 known.artifacts⟩⟩

/-! ### Keys -/

theorem routeOrderKey_identity {one two : DirectRouteOption}
    (same : routeOrderKey one = routeOrderKey two) : one.routeIdentity = two.routeIdentity := by
  unfold routeOrderKey at same
  simp only [toLex_inj, Prod.mk.injEq] at same
  exact same.2.2.2.2.2.2.2

theorem artifactOrderKey_identity (same : artifactOrderKey artifact = artifactOrderKey other) :
    artifact.artifactIdentity = other.artifactIdentity := by
  unfold artifactOrderKey at same
  simp only [toLex_inj, Prod.mk.injEq] at same
  exact same.2.2.2.2.2

theorem artifact_of_identity (distinct : (artifactIdentities artifacts).Nodup)
    (inside : artifact ∈ artifacts) (there : other ∈ artifacts)
    (same : artifact.artifactIdentity = other.artifactIdentity) : artifact = other :=
  inj_on_of_nodup_map distinct inside there same

theorem sortedRoutes_eq_of_perm {one two : List DirectRouteOption} (perm : one.Perm two)
    (distinct : (routeIdentities one).Nodup) : sortedRoutes one = sortedRoutes two := by
  apply Search.insertionSort_eq_of_perm perm
  intro route inside other there same
  exact inj_on_of_nodup_map distinct inside there (routeOrderKey_identity same)

theorem sortedArtifacts_eq_of_perm (perm : first.Perm second)
    (distinct : (artifactIdentities first).Nodup) :
    sortedArtifacts first = sortedArtifacts second := by
  apply Search.insertionSort_eq_of_perm perm
  intro artifact inside other there same
  exact artifact_of_identity distinct inside there (artifactOrderKey_identity same)

theorem sortedRoutes_sortedRoutes {routes : List DirectRouteOption} :
    sortedRoutes (sortedRoutes routes) = sortedRoutes routes :=
  (Search.pairwise_insertionSort_key routeOrderKey routes).insertionSort_eq

/-! ### Artifacts with their routes in order -/

/-- The artifact with its routes in the order of the planner. -/
def DirectArtifactOption.canonical (artifact : DirectArtifactOption) : DirectArtifactOption :=
  { artifact with routes := sortedRoutes artifact.routes }

theorem canonical_reordered : Reordered artifact artifact.canonical :=
  ⟨(perm_insertionSort _ _).symm, rfl⟩

theorem canonical_shuffled : Shuffled artifacts (artifacts.map (·.canonical)) := by
  refine ⟨artifacts, .refl _, ?_⟩
  induction artifacts with
  | nil => exact .nil
  | cons artifact rest ih => exact .cons canonical_reordered ih

theorem Reordered.canonical (reordered : Reordered artifact other)
    (distinct : (routeIdentities artifact.routes).Nodup) :
    artifact.canonical = other.canonical := by
  have routes := sortedRoutes_eq_of_perm reordered.routes distinct
  unfold DirectArtifactOption.canonical
  rw [reordered.same, ← routes]

theorem reordered_canonical (reordered : List.Forall₂ Reordered first second)
    (distinct : (routeIdentities (offeredRoutes first)).Nodup) :
    first.map (·.canonical) = second.map (·.canonical) := by
  induction reordered with
  | nil => rfl
  | @cons artifact other rest others one _ ih =>
    have split : routeIdentities (offeredRoutes (artifact :: rest)) =
        routeIdentities artifact.routes ++ routeIdentities (offeredRoutes rest) :=
      map_append
    rw [split] at distinct
    rw [map_cons, map_cons, one.canonical distinct.of_append_left,
      ih distinct.of_append_right]

/-- Inputs that only differ by their order are the same up to it, with their routes in order. -/
theorem Shuffled.canonical (shuffled : Shuffled first second)
    (valid : ValidInputs requested first) :
    (first.map (·.canonical)).Perm (second.map (·.canonical)) := by
  obtain ⟨middle, perm, reordered⟩ := shuffled
  have distinct : (routeIdentities (offeredRoutes middle)).Nodup :=
    ((perm.flatMap_right _).map _).nodup_iff.1 valid.routeIdentities
  rw [← reordered_canonical reordered distinct]
  exact perm.map _

/-! ### The selection does not look at the routes -/

theorem selectionKey_map_canonical {options : List DirectArtifactOption} :
    selectionKey requested (options.map (·.canonical)) = selectionKey requested options := by
  simp only [selectionKey, map_map, length_map]
  rfl

theorem selectionKey_canonical :
    selectionKey requested ∘ List.map (·.canonical) = selectionKey requested :=
  funext fun _ => selectionKey_map_canonical

theorem map_canonical_concat {options : List DirectArtifactOption} :
    options.map (·.canonical) ++ [artifact.canonical] =
      (options ++ [artifact]).map (·.canonical) := by
  rw [map_append, map_singleton]

theorem artifactMask_canonical :
    artifactMask requested ∘ (·.canonical) = artifactMask requested :=
  rfl

theorem exactSearch_canonical :
    exactSearch requested (artifacts.map (·.canonical)) =
      ((exactSearch requested artifacts).1.mapValues (List.map (·.canonical)),
        (exactSearch requested artifacts).2) := by
  have renamed : Search.search (selectionKey requested) (· ||| ·) (artifactMask requested)
      maxPlannerStates (artifacts.map (·.canonical))
        ((Dict.singleton 0 []).mapValues
          (List.map fun artifact : DirectArtifactOption => artifact.canonical)) = _ :=
    Search.search_rename (selectionKey requested) (· ||| ·) (artifactMask requested)
      fun artifact : DirectArtifactOption => artifact.canonical
  rw [selectionKey_canonical, artifactMask_canonical] at renamed
  exact renamed

theorem bestPartial_canonical {states : Search.Plans Nat DirectArtifactOption} :
    bestPartial requested (states.mapValues (List.map (·.canonical))) =
      (bestPartial requested states).map (·.canonical) := by
  unfold bestPartial Dict.mapValues
  simp only
  rw [Search.argmin_map]
  have key : ((fun entry : Nat × List DirectArtifactOption =>
        toLex ((requested.card : Int) - bitCount entry.1, selectionKey requested entry.2)) ∘
      fun entry : Nat × List DirectArtifactOption => (entry.1, entry.2.map (·.canonical))) =
      fun entry => toLex ((requested.card : Int) - bitCount entry.1,
        selectionKey requested entry.2) := by
    funext entry
    simp only [Function.comp_apply, selectionKey_map_canonical]
  rw [key]
  split
  · rename_i none
    rw [Option.map_eq_none_iff.1 none]
    rfl
  · rename_i entry found
    obtain ⟨best, here, rfl⟩ := Option.map_eq_some_iff.1 found
    rw [here]

theorem greedyBest_canonical {selected remaining : List DirectArtifactOption} {covered : Nat} :
    greedyBest requested (selected.map (·.canonical)) covered (remaining.map (·.canonical)) =
      (greedyBest requested selected covered remaining).map (·.canonical) := by
  unfold greedyBest
  rw [filter_map, Search.argmin_map]
  have key : ((fun artifact => toLex (-(newBits requested covered artifact : Int),
        selectionKey requested (selected.map (·.canonical) ++ [artifact]))) ∘
          fun artifact : DirectArtifactOption => artifact.canonical) =
      fun artifact => toLex (-(newBits requested covered artifact : Int),
        selectionKey requested (selected ++ [artifact])) := by
    funext artifact
    simp only [Function.comp_apply, map_canonical_concat, selectionKey_map_canonical]
    rfl
  rw [key]
  rfl

theorem greedyBoundedSelection_canonical {selected remaining : List DirectArtifactOption}
    {covered : Nat} (distinct : (artifactIdentities remaining).Nodup) :
    greedyBoundedSelection requested (selected.map (·.canonical)) covered
        (remaining.map (·.canonical)) =
      (greedyBoundedSelection requested selected covered remaining).map (·.canonical) := by
  generalize size : remaining.length = count
  induction count using Nat.strong_induction_on generalizing selected covered remaining with
  | h count ih =>
    rw [greedyBoundedSelection.eq_def, greedyBoundedSelection.eq_def requested selected]
    split
    · rfl
    · have best : greedyBest requested (selected.map (·.canonical)) covered
          (remaining.map (·.canonical)) = _ := greedyBest_canonical
      split
      · rename_i none
        rw [none] at best
        have absent := Option.map_eq_none_iff.1 best.symm
        split
        · rfl
        · rename_i found
          rw [found] at absent
          cases absent
      · rename_i renamed found
        rw [found] at best
        obtain ⟨artifact, here, rfl⟩ := Option.map_eq_some_iff.1 best.symm
        split
        · rename_i none
          rw [none] at here
          cases here
        · rename_i one again
          rw [again] at here
          cases here
          have inside := (greedyBest_mem again).1
          have positive := length_pos_of_mem inside
          have erased : (remaining.map (·.canonical)).erase artifact.canonical =
              (remaining.erase artifact).map (·.canonical) := by
            refine (Search.map_erase_of_injOn fun other there same => ?_).symm
            have identity : other.canonical.artifactIdentity =
                artifact.canonical.artifactIdentity := by rw [same]
            exact artifact_of_identity distinct there inside identity
          rw [erased, map_canonical_concat]
          refine ih (remaining.erase artifact).length ?_ ?_ rfl
          · rw [length_erase_of_mem inside]
            omega
          · exact distinct.sublist (erase_sublist.map _)

theorem sortedArtifacts_canonical :
    sortedArtifacts (artifacts.map (·.canonical)) =
      (sortedArtifacts artifacts).map (·.canonical) :=
  (map_insertionSort (fun one two => artifactOrderKey one ≤ artifactOrderKey two)
    (fun one two => artifactOrderKey one ≤ artifactOrderKey two) DirectArtifactOption.canonical
    artifacts fun _ _ _ _ => Iff.rfl).symm

theorem chosenArtifacts_canonical (distinct : (artifactIdentities artifacts).Nodup) :
    chosenArtifacts requested (artifacts.map (·.canonical)) =
      (chosenArtifacts requested artifacts).map (·.canonical) := by
  unfold chosenArtifacts
  rw [exactSearch_canonical]
  simp only
  split
  · have renamed : greedyBoundedSelection requested
        (([] : List DirectArtifactOption).map (·.canonical)) 0 (artifacts.map (·.canonical)) = _ :=
      greedyBoundedSelection_canonical distinct
    exact renamed
  · rw [Dict.get_mapValues, bestPartial_canonical]
    cases (exactSearch requested artifacts).1.get (fullMask requested) with
    | none => rfl
    | some plan => rfl

theorem selectArtifacts_canonical (distinct : (artifactIdentities artifacts).Nodup) :
    selectArtifacts requested (artifacts.map (·.canonical)) =
      (selectArtifacts requested artifacts).map (·.canonical) := by
  by_cases offered : artifacts = []
  · subst offered
    rfl
  · rw [selectArtifacts_eq offered, selectArtifacts_eq (by simpa using offered),
      chosenArtifacts_canonical distinct, sortedArtifacts_canonical]

/-! ### The plan does not depend on the order -/

theorem eligibleArtifacts_canonical :
    eligibleArtifacts requested (artifacts.map (·.canonical)) =
      (eligibleArtifacts requested artifacts).map (·.canonical) := by
  unfold eligibleArtifacts
  rw [filter_map, sortedArtifacts_canonical]
  congr 2
  apply filter_congr
  intro artifact _
  have routes : artifact.canonical.routes.any (·.eligible) = artifact.routes.any (·.eligible) := by
    rw [Bool.eq_iff_iff, any_eq_true, any_eq_true]
    simp only [DirectArtifactOption.canonical, mem_sortedRoutes]
  simp only [Function.comp_apply, routes]
  rfl

theorem eligibleArtifacts_distinct (distinct : (artifactIdentities artifacts).Nodup) :
    (artifactIdentities (eligibleArtifacts requested artifacts)).Nodup := by
  unfold eligibleArtifacts artifactIdentities
  rw [(sortedArtifacts_perm.map _).nodup_iff]
  exact distinct.sublist (filter_sublist.map _)

theorem eligibleArtifacts_eq_of_perm (perm : first.Perm second)
    (distinct : (artifactIdentities first).Nodup) :
    eligibleArtifacts requested first = eligibleArtifacts requested second :=
  sortedArtifacts_eq_of_perm (perm.filter _) (distinct.sublist (filter_sublist.map _))

theorem selection_canonical (distinct : (artifactIdentities artifacts).Nodup) :
    selection requested (artifacts.map (·.canonical)) =
      (selection requested artifacts).map (·.canonical) := by
  unfold selection
  rw [eligibleArtifacts_canonical,
    selectArtifacts_canonical (eligibleArtifacts_distinct distinct)]

theorem selection_eq_of_perm (perm : first.Perm second)
    (distinct : (artifactIdentities first).Nodup) :
    selection requested first = selection requested second := by
  unfold selection
  rw [eligibleArtifacts_eq_of_perm perm distinct]

theorem planArtifact_canonical : planArtifact pinned artifact.canonical =
    planArtifact pinned artifact := by
  unfold planArtifact pinnedRoute
  simp only [DirectArtifactOption.canonical, sortedRoutes_sortedRoutes]

/-- Inputs that only differ by their order have the same selection, up to the order of routes. -/
theorem Shuffled.selection (shuffled : Shuffled first second)
    (valid : ValidInputs requested first) :
    (selection requested first).map (·.canonical) =
      (selection requested second).map (·.canonical) := by
  have other := shuffled.valid_iff.1 valid
  have same : Shuffled first (first.map (·.canonical)) := canonical_shuffled
  have distinct := (same.valid_iff.1 valid).artifactIdentities
  rw [← selection_canonical valid.artifactIdentities,
    ← selection_canonical other.artifactIdentities,
    selection_eq_of_perm (shuffled.canonical valid) distinct]

/-- The plan of some selected artifacts. -/
def planSelection (requested : Finset String) (selected : List DirectArtifactOption)
    (pinned : Option String) : Except PlannerError DirectCoveragePlan := do
  let planned ← selected.mapM (planArtifact pinned)
  return {
    requested := requested
    selected := planned
    uncovered := requested \ coveredIssues requested selected
    complete := decide (requested \ coveredIssues requested selected = ∅)
    explanationCode :=
      if selected.any fun artifact => (pinnedRoute pinned artifact).any fun route => !route.eligible
      then .pinnedRouteIneligible
      else if requested \ coveredIssues requested selected ≠ ∅ then .incompleteCoverage
      else .completeCoverage
    pinnedRouteApplied := selected.any fun artifact =>
      (pinnedRoute pinned artifact).any (·.eligible) }

theorem planDirectCoverage_selection (valid : ValidInputs requested artifacts)
    (asked : requested ≠ ∅) :
    planDirectCoverage requested artifacts pinned =
      planSelection requested (selection requested artifacts) pinned := by
  unfold planDirectCoverage
  rw [validateInputs_iff.2 valid, if_neg asked]
  rfl

theorem pinnedRoute_canonical :
    pinnedRoute pinned artifact.canonical = pinnedRoute pinned artifact := by
  unfold pinnedRoute
  simp only [DirectArtifactOption.canonical, sortedRoutes_sortedRoutes]

theorem coveredIssues_canonical :
    coveredIssues requested (artifacts.map (·.canonical)) = coveredIssues requested artifacts := by
  ext issue
  simp only [mem_coveredIssues, mem_map, exists_exists_and_eq_and]
  exact Iff.rfl

theorem planSelection_canonical :
    planSelection requested (artifacts.map (·.canonical)) pinned =
      planSelection requested artifacts pinned := by
  have planned : (artifacts.map (·.canonical)).mapM (planArtifact pinned) =
      artifacts.mapM (planArtifact pinned) := by
    rw [mapM_map]
    congr 1
    funext artifact
    exact planArtifact_canonical
  unfold planSelection
  simp only [planned, coveredIssues_canonical, any_map, Function.comp_def,
    pinnedRoute_canonical]

/-- Inputs that only differ by the order of the artifacts, and of the routes of each, have the
same plans. -/
theorem planDirectCoverage_order_free (requested : Finset String)
    (first second : List DirectArtifactOption) (shuffled : Shuffled first second)
    (pinned : Option String) (plan : DirectCoveragePlan) :
    planDirectCoverage requested first pinned = .ok plan ↔
      planDirectCoverage requested second pinned = .ok plan := by
  by_cases valid : ValidInputs requested first
  · have other := shuffled.valid_iff.1 valid
    by_cases asked : requested = ∅
    · rw [planDirectCoverage_empty (validateInputs_iff.2 valid) asked,
        planDirectCoverage_empty (validateInputs_iff.2 other) asked]
    · rw [planDirectCoverage_selection valid asked, planDirectCoverage_selection other asked,
        ← planSelection_canonical, shuffled.selection valid, planSelection_canonical]
  · have other : ¬ ValidInputs requested second := fun known => valid (shuffled.valid_iff.2 known)
    have refused {artifacts : List DirectArtifactOption}
        (invalid : ¬ ValidInputs requested artifacts) :
        planDirectCoverage requested artifacts pinned ≠ .ok plan := by
      cases checked : validateInputs requested artifacts with
      | error error =>
        rw [planDirectCoverage_error checked]
        exact fun same => nomatch same
      | ok _ => exact absurd (validateInputs_iff.1 checked) invalid
    exact iff_of_false (refused valid) (refused other)

/-- The same offer in another order. -/
def shuffledOffer : List DirectArtifactOption :=
  [offeredArtifact "third" {"4"} 0 [offeredRoute "e" false],
    offeredArtifact "second" {"2", "3"} 0 [offeredRoute "d" true, offeredRoute "c" false],
    offeredArtifact "first" {"1", "2"} 0 [offeredRoute "b" true, offeredRoute "a" true]]

/-- The order in which the artifacts come does not matter. -/
theorem shuffledOffer_order_free :
    Shuffled overlappingOffer shuffledOffer ∧
      ∃ plan, planDirectCoverage {"1", "2", "3", "4"} overlappingOffer none = .ok plan ∧
        planDirectCoverage {"1", "2", "3", "4"} shuffledOffer none = .ok plan := by
  have swapped (one two : DirectRouteOption) : [one, two].Perm [two, one] :=
    List.Perm.swap two one []
  have shuffled : Shuffled overlappingOffer shuffledOffer :=
    ⟨overlappingOffer.reverse, (reverse_perm _).symm,
      .cons ⟨.refl _, rfl⟩ (.cons ⟨swapped _ _, rfl⟩ (.cons ⟨swapped _ _, rfl⟩ .nil))⟩
  have valid : validateInputs {"1", "2", "3", "4"} overlappingOffer = .ok () := by
    decide +kernel
  obtain ⟨plan, _, planned, _⟩ := planDirectCoverage_valid none valid
  exact ⟨shuffled, plan, planned,
    (planDirectCoverage_order_free _ _ _ shuffled none plan).1 planned⟩

end Pullbox.Coverage
