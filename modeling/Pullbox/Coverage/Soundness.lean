import Pullbox.Coverage.Selection

/-!
# What a plan promises

The artifacts of a plan are offered ones, each with a route that is eligible. A plan leaves
open exactly the requested issues that no offered artifact with an eligible route covers, and
a pin only changes the route of an artifact that is selected without it.
-/

namespace Pullbox.Coverage

open List

variable {requested : Finset String} {artifacts selected : List DirectArtifactOption}
  {artifact : DirectArtifactOption} {pinned : Option String} {items : List PlannedDirectArtifact}
  {error : PlannerError}

/-- An artifact as it is planned by one of its routes. -/
def DirectArtifactOption.plannedBy (artifact : DirectArtifactOption) (route : DirectRouteOption) :
    PlannedDirectArtifact where
  providerIdentity := artifact.providerIdentity
  providerCandidateId := artifact.providerCandidateId
  artifactIdentity := artifact.artifactIdentity
  coverage := artifact.coverage
  expectedSize := artifact.expectedSize
  orderedRoutes := sortedRoutes artifact.routes
  selectedRouteIdentity := route.routeIdentity

def DirectArtifactOption.HasSafeRoute (artifact : DirectArtifactOption) : Prop :=
  ∃ route ∈ artifact.routes, route.eligible = true

/-- An artifact is planned by a route of it that is eligible. -/
def PlannedFrom (artifact : DirectArtifactOption) (item : PlannedDirectArtifact) : Prop :=
  ∃ route ∈ artifact.routes, route.eligible = true ∧ item = artifact.plannedBy route

/-- What a planned artifact is credited with. -/
def PlannedDirectArtifact.credited (requested : Finset String) (item : PlannedDirectArtifact) :
    Finset String :=
  item.coverage ∩ requested

/-- What a pin makes of a planned artifact: another of its routes that are eligible, or nothing. -/
def Repinned (pinned : Option String) (base item : PlannedDirectArtifact) : Prop :=
  item = base ∨
    ∃ route ∈ base.orderedRoutes, route.eligible = true ∧ pinned = some route.routeIdentity ∧
      item = { base with selectedRouteIdentity := route.routeIdentity }

/-- What holds of every plan for its inputs. -/
structure SoundPlan (requested : Finset String) (artifacts : List DirectArtifactOption)
    (plan : DirectCoveragePlan) : Prop where
  planned : ∀ item ∈ plan.selected, ∃ artifact ∈ artifacts, PlannedFrom artifact item ∧
    item.credited requested ⊆ artifact.coverage ∧ item.credited requested ⊆ requested
  credited : ∀ issue, issue ∈ plan.uncovered ↔
    issue ∈ requested ∧ ∀ item ∈ plan.selected, issue ∉ item.credited requested
  uncovered : ∀ issue, issue ∈ plan.uncovered ↔
    issue ∈ requested ∧
      ∀ artifact ∈ artifacts, artifact.HasSafeRoute → issue ∉ artifact.coverage
  complete : plan.complete = decide (plan.uncovered = ∅)

/-- Two plans only differ by the routes that a pin chooses. -/
structure RepinnedPlan (pinned : Option String) (base plan : DirectCoveragePlan) : Prop where
  selected : List.Forall₂ (Repinned pinned) base.selected plan.selected
  uncovered : plan.uncovered = base.uncovered
  complete : plan.complete = base.complete

/-! ### The routes -/

theorem mem_sortedRoutes {routes : List DirectRouteOption} {route : DirectRouteOption} :
    route ∈ sortedRoutes routes ↔ route ∈ routes :=
  (perm_insertionSort _ routes).mem_iff

theorem pinnedRoute_spec {route : DirectRouteOption}
    (found : pinnedRoute pinned artifact = some route) :
    route ∈ artifact.routes ∧ pinned = some route.routeIdentity := by
  obtain ⟨identity, rfl, found⟩ := Option.bind_eq_some_iff.1 found
  have named : route.routeIdentity = identity := by simpa using List.find?_some found
  exact ⟨mem_sortedRoutes.1 (mem_of_find?_eq_some found), congrArg some named.symm⟩

/-- An artifact with a route that is eligible is planned by one, with and without a pin. -/
theorem planArtifact_spec (pinned : Option String) (safe : artifact.HasSafeRoute) :
    ∃ base item, planArtifact none artifact = .ok base ∧ planArtifact pinned artifact = .ok item ∧
      PlannedFrom artifact base ∧ PlannedFrom artifact item ∧ Repinned pinned base item := by
  obtain ⟨known, listed, eligible⟩ := safe
  have inside : known ∈ (sortedRoutes artifact.routes).filter (·.eligible) :=
    mem_filter.2 ⟨mem_sortedRoutes.2 listed, eligible⟩
  cases ordered : (sortedRoutes artifact.routes).filter (·.eligible) with
  | nil =>
    rw [ordered] at inside
    cases inside
  | cons first rest =>
    have head : first ∈ (sortedRoutes artifact.routes).filter (·.eligible) := by
      rw [ordered]
      exact mem_cons_self
    obtain ⟨firstListed, firstEligible⟩ := mem_filter.1 head
    have firstPlanned : PlannedFrom artifact (artifact.plannedBy first) :=
      ⟨first, mem_sortedRoutes.1 firstListed, firstEligible, rfl⟩
    have planned (pin : Option String) : planArtifact pin artifact =
        .ok (artifact.plannedBy
          (((pinnedRoute pin artifact).filter (·.eligible)).getD first)) := by
      unfold planArtifact
      simp only
      rw [ordered]
      rfl
    refine ⟨_, _, planned none, planned pinned, firstPlanned, ?_⟩
    cases chosen : (pinnedRoute pinned artifact).filter (·.eligible) with
    | none => exact ⟨firstPlanned, .inl rfl⟩
    | some route =>
      obtain ⟨found, safe⟩ := Option.filter_eq_some_iff.1 chosen
      obtain ⟨here, named⟩ := pinnedRoute_spec found
      exact ⟨⟨route, here, safe, rfl⟩,
        .inr ⟨route, mem_sortedRoutes.2 here, safe, named, rfl⟩⟩

/-- The same for all artifacts of a selection. -/
theorem mapM_planArtifact (pinned : Option String)
    (safe : ∀ artifact ∈ selected, artifact.HasSafeRoute) :
    ∃ base items, selected.mapM (planArtifact none) = .ok base ∧
      selected.mapM (planArtifact pinned) = .ok items ∧ List.Forall₂ PlannedFrom selected base ∧
        List.Forall₂ PlannedFrom selected items ∧ List.Forall₂ (Repinned pinned) base items := by
  induction selected with
  | nil => exact ⟨[], [], rfl, rfl, .nil, .nil, .nil⟩
  | cons artifact rest ih =>
    obtain ⟨first, item, plain, withPin, planned, pinnedPlan, repinned⟩ :=
      planArtifact_spec pinned (safe artifact mem_cons_self)
    obtain ⟨base, items, restPlain, restPin, restPlanned, restPinned, restRepinned⟩ :=
      ih fun artifact inside => safe artifact (mem_cons_of_mem _ inside)
    refine ⟨first :: base, item :: items, ?_, ?_, .cons planned restPlanned,
      .cons pinnedPlan restPinned, .cons repinned restRepinned⟩
    · rw [mapM_cons, plain, restPlain]
      rfl
    · rw [mapM_cons, withPin, restPin]
      rfl

theorem planned_mem (planned : List.Forall₂ PlannedFrom selected items) :
    ∀ item ∈ items, ∃ artifact ∈ selected, PlannedFrom artifact item := by
  induction planned with
  | nil => exact fun item inside => nomatch inside
  | cons one _ ih =>
    intro item inside
    rcases mem_cons.1 inside with rfl | later
    · exact ⟨_, mem_cons_self, one⟩
    · obtain ⟨artifact, listed, planned⟩ := ih item later
      exact ⟨artifact, mem_cons_of_mem _ listed, planned⟩

/-- A selection is credited with what it covers. -/
theorem planned_credited {issue : String}
    (planned : List.Forall₂ PlannedFrom selected items) :
    issue ∈ coveredIssues requested selected ↔ ∃ item ∈ items, issue ∈ item.credited requested := by
  induction planned with
  | nil => simp [coveredIssues]
  | @cons artifact item rest items one _ ih =>
    obtain ⟨route, _, _, rfl⟩ := one
    have unfolded : coveredIssues requested (artifact :: rest) =
        artifact.coverage ∩ requested ∪ coveredIssues requested rest := rfl
    rw [unfolded, Finset.mem_union, ih]
    simp only [mem_cons, exists_eq_or_imp]
    exact Iff.rfl

/-! ### The plan -/

/-- The artifacts that a plan selects. -/
def selection (requested : Finset String) (artifacts : List DirectArtifactOption) :
    List DirectArtifactOption :=
  selectArtifacts requested (eligibleArtifacts requested artifacts)

theorem mem_eligibleArtifacts :
    artifact ∈ eligibleArtifacts requested artifacts ↔
      artifact ∈ artifacts ∧ artifact.coverage ∩ requested ≠ ∅ ∧ artifact.HasSafeRoute := by
  unfold eligibleArtifacts DirectArtifactOption.HasSafeRoute
  rw [sortedArtifacts_perm.mem_iff, mem_filter]
  simp

theorem selection_safe :
    ∀ artifact ∈ selection requested artifacts, artifact ∈ artifacts ∧ artifact.HasSafeRoute := by
  intro artifact inside
  obtain ⟨listed, _, safe⟩ := mem_eligibleArtifacts.1 (selectArtifacts_selects.subset inside)
  exact ⟨listed, safe⟩

/-- A selection covers the requested issues that some artifact with an eligible route covers. -/
theorem mem_coveredIssues_selection {issue : String} :
    issue ∈ coveredIssues requested (selection requested artifacts) ↔
      issue ∈ requested ∧
        ∃ artifact ∈ artifacts, artifact.HasSafeRoute ∧ issue ∈ artifact.coverage := by
  rw [selection, selectArtifacts_selects.covers, mem_coveredIssues]
  refine and_congr_right fun known => ?_
  constructor
  · rintro ⟨artifact, inside, covers⟩
    obtain ⟨listed, _, safe⟩ := mem_eligibleArtifacts.1 inside
    exact ⟨artifact, listed, safe, covers⟩
  · rintro ⟨artifact, listed, safe, covers⟩
    have useful : artifact.coverage ∩ requested ≠ ∅ :=
      Finset.nonempty_iff_ne_empty.1 ⟨issue, Finset.mem_inter.2 ⟨covers, known⟩⟩
    exact ⟨artifact, mem_eligibleArtifacts.2 ⟨listed, useful, safe⟩, covers⟩

theorem planDirectCoverage_error (invalid : validateInputs requested artifacts = .error error) :
    planDirectCoverage requested artifacts pinned = .error error := by
  unfold planDirectCoverage
  rw [invalid]
  rfl

theorem planDirectCoverage_empty (valid : validateInputs requested artifacts = .ok ())
    (none : requested = ∅) :
    planDirectCoverage requested artifacts pinned =
      .ok
        { requested := requested, selected := [], uncovered := ∅, complete := true
          explanationCode := .nothingRequested, pinnedRouteApplied := false } := by
  unfold planDirectCoverage
  rw [valid, if_pos none]
  rfl

theorem planDirectCoverage_asked (valid : validateInputs requested artifacts = .ok ())
    (asked : requested ≠ ∅)
    (planned : (selection requested artifacts).mapM (planArtifact pinned) = .ok items) :
    ∃ plan, planDirectCoverage requested artifacts pinned = .ok plan ∧ plan.selected = items ∧
      plan.uncovered = requested \ coveredIssues requested (selection requested artifacts) ∧
        plan.complete = decide (plan.uncovered = ∅) := by
  unfold selection at planned
  unfold planDirectCoverage
  rw [valid, if_neg asked]
  simp only [bind, Except.bind, planned]
  exact ⟨_, rfl, rfl, rfl, rfl⟩

theorem validateRoutes_error {routes : List DirectRouteOption} {routeIds : List String}
    (invalid : validateRoutes routes routeIds = .error error) :
    error ≠ .indexError := by
  induction routes generalizing routeIds with
  | nil => cases invalid
  | cons route rest ih =>
    unfold validateRoutes at invalid
    split at invalid
    · cases invalid
      exact fun same => nomatch same
    · split at invalid
      · cases invalid
        exact fun same => nomatch same
      · exact ih invalid

theorem validateArtifacts_error {artifactIds routeIds : List String}
    (invalid : validateArtifacts artifacts artifactIds routeIds = .error error) :
    error ≠ .indexError := by
  induction artifacts generalizing artifactIds routeIds with
  | nil => cases invalid
  | cons artifact rest ih =>
    unfold validateArtifacts at invalid
    split at invalid
    · cases invalid
      exact fun same => nomatch same
    · split at invalid
      · cases invalid
        exact fun same => nomatch same
      · split at invalid
        · cases invalid
          exact fun same => nomatch same
        · split at invalid
          · rename_i routes
            cases invalid
            exact validateRoutes_error routes
          · exact ih invalid

theorem validateInputs_error
    (invalid : validateInputs requested artifacts = .error error) : error ≠ .indexError := by
  unfold validateInputs at invalid
  split at invalid
  · cases invalid
    exact fun same => nomatch same
  · exact validateArtifacts_error invalid

/-- Inputs that pass the validation get a sound plan, and a pin changes nothing but routes. -/
theorem planDirectCoverage_valid (pinned : Option String)
    (valid : validateInputs requested artifacts = .ok ()) :
    ∃ base plan, planDirectCoverage requested artifacts none = .ok base ∧
      planDirectCoverage requested artifacts pinned = .ok plan ∧
        SoundPlan requested artifacts plan ∧ RepinnedPlan pinned base plan := by
  by_cases none : requested = ∅
  · refine ⟨_, _, planDirectCoverage_empty valid none, planDirectCoverage_empty valid none, ?_,
      ⟨.nil, rfl, rfl⟩⟩
    subst none
    exact ⟨fun item inside => (nomatch inside), fun issue => by simp, fun issue => by simp, rfl⟩
  · obtain ⟨base, items, plain, withPin, _, planned, repinned⟩ :=
      mapM_planArtifact pinned fun artifact inside => (selection_safe artifact inside).2
    obtain ⟨first, firstPlan, firstSelected, firstUncovered, firstComplete⟩ :=
      planDirectCoverage_asked valid none plain
    obtain ⟨plan, found, selected, uncovered, complete⟩ :=
      planDirectCoverage_asked valid none withPin
    refine ⟨first, plan, firstPlan, found, ⟨?_, ?_, ?_, complete⟩, ⟨?_, ?_, ?_⟩⟩
    · intro item inside
      rw [selected] at inside
      obtain ⟨artifact, chosen, route, listed, eligible, rfl⟩ := planned_mem planned item inside
      exact ⟨artifact, (selection_safe artifact chosen).1, ⟨route, listed, eligible, rfl⟩,
        Finset.inter_subset_left, Finset.inter_subset_right⟩
    · intro issue
      rw [uncovered, selected, Finset.mem_sdiff, planned_credited planned]
      push Not
      exact Iff.rfl
    · intro issue
      rw [uncovered, Finset.mem_sdiff, mem_coveredIssues_selection]
      constructor
      · rintro ⟨known, open_⟩
        exact ⟨known, fun artifact listed safe covers =>
          open_ ⟨known, artifact, listed, safe, covers⟩⟩
      · rintro ⟨known, free⟩
        exact ⟨known, fun ⟨_, artifact, listed, safe, covers⟩ =>
          free artifact listed safe covers⟩
    · rw [selected, firstSelected]
      exact repinned
    · rw [uncovered, firstUncovered]
    · rw [complete, firstComplete, uncovered, firstUncovered]

/-- The planner never runs out of routes, and its plans are sound. -/
theorem planDirectCoverage_sound (requested : Finset String)
    (artifacts : List DirectArtifactOption) (pinned : Option String) :
    planDirectCoverage requested artifacts pinned ≠ .error .indexError ∧
      ∀ plan, planDirectCoverage requested artifacts pinned = .ok plan →
        SoundPlan requested artifacts plan ∧
          ∃ base, planDirectCoverage requested artifacts none = .ok base ∧
            RepinnedPlan pinned base plan := by
  cases valid : validateInputs requested artifacts with
  | error error =>
    rw [planDirectCoverage_error valid]
    refine ⟨fun same => validateInputs_error valid (Except.error.inj same), ?_⟩
    intro plan planned
    cases planned
  | ok _ =>
    obtain ⟨base, plan, plain, found, sound, repinned⟩ := planDirectCoverage_valid pinned valid
    rw [found]
    refine ⟨fun same => (nomatch same), ?_⟩
    rintro _ ⟨⟩
    exact ⟨sound, base, plain, repinned⟩

/-- A route of an offer, by its name and whether it is eligible. -/
def offeredRoute (identity : String) (eligible : Bool) : DirectRouteOption where
  routeIdentity := identity
  routeKind := .direct
  hostKind := .genericHttps
  transportRank := 0
  eligible := eligible
  eligibilityCode := if eligible then "eligible" else "host_unavailable"
  hostPreference := 0
  accountState := .healthy
  quotaRemaining := none
  resumable := true
  resolverRequired := false

/-- An artifact that a provider offers. -/
def offeredArtifact (identity : String) (coverage : Finset String) (semanticRank : Int)
    (routes : List DirectRouteOption) : DirectArtifactOption where
  providerIdentity := "provider"
  providerCandidateId := "candidate"
  artifactIdentity := identity
  coverage := coverage
  semanticRank := semanticRank
  qualityRank := 0
  expectedSize := some 1000
  providerConfidence := 1
  providerPriority := 0
  routes := routes

/-- Two overlapping artifacts, and one without an eligible route. -/
def overlappingOffer : List DirectArtifactOption :=
  [offeredArtifact "first" {"1", "2"} 0 [offeredRoute "a" true, offeredRoute "b" true],
    offeredArtifact "second" {"2", "3"} 0 [offeredRoute "c" false, offeredRoute "d" true],
    offeredArtifact "third" {"4"} 0 [offeredRoute "e" false]]

/-- A pinned route is used, and the issue that no artifact covers is said. -/
theorem overlappingOffer_sound :
    ∃ plan, planDirectCoverage {"1", "2", "3", "4"} overlappingOffer (some "b") = .ok plan ∧
      plan.selected.map (fun item => (item.artifactIdentity, item.selectedRouteIdentity)) =
        [("first", "b"), ("second", "d")] ∧ plan.uncovered = {"4"} ∧
          SoundPlan {"1", "2", "3", "4"} overlappingOffer plan := by
  have planned : (planDirectCoverage {"1", "2", "3", "4"} overlappingOffer (some "b")).toOption.map
      (fun plan => (plan.selected.map fun item =>
        (item.artifactIdentity, item.selectedRouteIdentity), plan.uncovered)) =
      some ([("first", "b"), ("second", "d")], {"4"}) := by
    decide +kernel
  cases found : planDirectCoverage {"1", "2", "3", "4"} overlappingOffer (some "b") with
  | error error =>
    rw [found] at planned
    cases planned
  | ok plan =>
    rw [found] at planned
    have read := Option.some.inj planned
    exact ⟨plan, rfl, congrArg Prod.fst read, congrArg Prod.snd read,
      ((planDirectCoverage_sound _ _ _).2 plan found).1⟩

/-- Whatever the pins and however far the search goes, more offers leave no issue uncovered that
fewer of them cover. -/
theorem uncovered_antitone {more : List DirectArtifactOption} {pin : Option String}
    {plan better : DirectCoveragePlan}
    (planned : planDirectCoverage requested artifacts pinned = .ok plan)
    (replanned : planDirectCoverage requested more pin = .ok better) (offers : artifacts ⊆ more) :
    better.uncovered ⊆ plan.uncovered ∧ (plan.complete = true → better.complete = true) := by
  have sound {offered : List DirectArtifactOption} {pin : Option String}
      {plan : DirectCoveragePlan} (planned : planDirectCoverage requested offered pin = .ok plan) :
      SoundPlan requested offered plan := by
    cases valid : validateInputs requested offered with
    | error error =>
      rw [planDirectCoverage_error valid] at planned
      cases planned
    | ok _ =>
      obtain ⟨_, _, _, found, sound, _⟩ := planDirectCoverage_valid pin valid
      exact Except.ok.inj (found.symm.trans planned) ▸ sound
  have fewer : better.uncovered ⊆ plan.uncovered := by
    intro issue open_
    obtain ⟨asked, free⟩ := ((sound replanned).uncovered issue).1 open_
    exact ((sound planned).uncovered issue).2
      ⟨asked, fun artifact listed => free artifact (offers listed)⟩
  refine ⟨fewer, fun complete => ?_⟩
  rw [(sound planned).complete, decide_eq_true_eq] at complete
  rw [(sound replanned).complete, decide_eq_true_eq]
  exact Finset.subset_empty.1 (complete ▸ fewer)

/-- One more artifact covers no less. -/
theorem uncovered_antitone_overlapping : ∃ plan better,
    planDirectCoverage {"1", "2"} overlappingOffer.tail none = .ok plan ∧
      planDirectCoverage {"1", "2"} overlappingOffer none = .ok better ∧
        better.uncovered ⊆ plan.uncovered := by
  obtain ⟨_, plan, _, planned, _⟩ :=
    @planDirectCoverage_valid {"1", "2"} overlappingOffer.tail none (by decide +kernel)
  obtain ⟨_, better, _, replanned, _⟩ :=
    @planDirectCoverage_valid {"1", "2"} overlappingOffer none (by decide +kernel)
  exact ⟨plan, better, planned, replanned,
    (uncovered_antitone planned replanned (tail_subset _)).1⟩

end Pullbox.Coverage
