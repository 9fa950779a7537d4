import Pullbox.Coverage.Planner

/-!
# The inputs that the planner accepts

The validation goes through the artifacts and their routes with the names it has seen. What it
accepts does not depend on their order.
-/

namespace Pullbox.Coverage

open List

variable {requested : Finset String} {artifacts : List DirectArtifactOption}

def DirectRouteOption.ValidRanks (route : DirectRouteOption) : Prop :=
  0 ≤ route.transportRank ∧ 0 ≤ route.hostPreference

/-- An artifact that passes the checks. -/
structure DirectArtifactOption.Valid (artifact : DirectArtifactOption) : Prop where
  semanticRank : 0 ≤ artifact.semanticRank
  qualityRank : 0 ≤ artifact.qualityRank
  confidence : 0 ≤ artifact.providerConfidence ∧ artifact.providerConfidence ≤ 1
  routes : ∀ route ∈ artifact.routes, route.ValidRanks

def routeIdentities (routes : List DirectRouteOption) : List String :=
  routes.map (·.routeIdentity)

def artifactIdentities (artifacts : List DirectArtifactOption) : List String :=
  artifacts.map (·.artifactIdentity)

def offeredRoutes (artifacts : List DirectArtifactOption) : List DirectRouteOption :=
  artifacts.flatMap (·.routes)

/-- Inputs that pass the checks. -/
structure ValidInputs (requested : Finset String) (artifacts : List DirectArtifactOption) :
    Prop where
  requested : ∀ value ∈ requested, value ≠ "" ∧ value.length ≤ 100
  artifactIdentities : (artifactIdentities artifacts).Nodup
  routeIdentities : (routeIdentities (offeredRoutes artifacts)).Nodup
  artifacts : ∀ artifact ∈ artifacts, artifact.Valid

theorem validateRoutes_iff {routes : List DirectRouteOption} {routeIds later : List String}
    (distinct : routeIds.Nodup) :
    validateRoutes routes routeIds = .ok later ↔
      later = (routeIdentities routes).reverse ++ routeIds ∧ later.Nodup ∧
        ∀ route ∈ routes, route.ValidRanks := by
  induction routes generalizing routeIds with
  | nil =>
    unfold validateRoutes routeIdentities
    constructor
    · rintro ⟨⟩
      exact ⟨rfl, distinct, fun route inside => (nomatch inside)⟩
    · rintro ⟨rfl, _, _⟩
      rfl
  | cons route rest ih =>
    have names : (routeIdentities (route :: rest)).reverse ++ routeIds =
        (routeIdentities rest).reverse ++ route.routeIdentity :: routeIds := by
      simp [routeIdentities]
    rw [names, validateRoutes]
    by_cases seen : route.routeIdentity ∈ routeIds
    · rw [if_pos seen]
      constructor
      · intro accepted
        cases accepted
      · rintro ⟨rfl, unique, _⟩
        have fresh := (nodup_cons.1 unique.of_append_right).1
        exact absurd seen fresh
    · rw [if_neg seen]
      by_cases negative : route.transportRank < 0 ∨ route.hostPreference < 0
      · rw [if_pos negative]
        constructor
        · intro accepted
          cases accepted
        · rintro ⟨_, _, ranks⟩
          have valid := ranks route mem_cons_self
          unfold DirectRouteOption.ValidRanks at valid
          omega
      · have valid : route.ValidRanks := by
          unfold DirectRouteOption.ValidRanks
          omega
        rw [if_neg negative, ih (nodup_cons.2 ⟨seen, distinct⟩), forall_mem_cons]
        simp [valid]

theorem validateArtifacts_iff {artifactIds routeIds : List String}
    (distinctArtifacts : artifactIds.Nodup) (distinctRoutes : routeIds.Nodup) :
    validateArtifacts artifacts artifactIds routeIds = .ok () ↔
      ((artifactIdentities artifacts).reverse ++ artifactIds).Nodup ∧
        ((routeIdentities (offeredRoutes artifacts)).reverse ++ routeIds).Nodup ∧
          ∀ artifact ∈ artifacts, artifact.Valid := by
  induction artifacts generalizing artifactIds routeIds with
  | nil =>
    unfold validateArtifacts
    exact ⟨fun _ => ⟨distinctArtifacts, distinctRoutes, fun artifact inside => (nomatch inside)⟩,
      fun _ => rfl⟩
  | cons artifact rest ih =>
    have names : (artifactIdentities (artifact :: rest)).reverse ++ artifactIds =
        (artifactIdentities rest).reverse ++ artifact.artifactIdentity :: artifactIds := by
      simp [artifactIdentities]
    have routeNames : (routeIdentities (offeredRoutes (artifact :: rest))).reverse ++ routeIds =
        (routeIdentities (offeredRoutes rest)).reverse ++
          ((routeIdentities artifact.routes).reverse ++ routeIds) := by
      simp [routeIdentities, offeredRoutes]
    rw [names, routeNames, validateArtifacts, forall_mem_cons]
    by_cases seen : artifact.artifactIdentity ∈ artifactIds
    · rw [if_pos seen]
      constructor
      · intro accepted
        cases accepted
      · rintro ⟨unique, _, _⟩
        exact absurd seen (nodup_cons.1 unique.of_append_right).1
    · rw [if_neg seen]
      by_cases negative : artifact.semanticRank < 0 ∨ artifact.qualityRank < 0
      · rw [if_pos negative]
        constructor
        · intro accepted
          cases accepted
        · rintro ⟨_, _, valid, _⟩
          have semantic := valid.semanticRank
          have quality := valid.qualityRank
          omega
      · rw [if_neg negative]
        by_cases confident : 0 ≤ artifact.providerConfidence ∧ artifact.providerConfidence ≤ 1
        · rw [if_neg (not_not_intro confident)]
          cases walked : validateRoutes artifact.routes routeIds with
          | error error =>
            constructor
            · intro accepted
              cases accepted
            · rintro ⟨_, unique, valid, _⟩
              have accepted := (validateRoutes_iff distinctRoutes).2
                ⟨rfl, unique.of_append_right, valid.routes⟩
              rw [walked] at accepted
              cases accepted
          | ok later =>
            obtain ⟨rfl, unique, ranks⟩ := (validateRoutes_iff distinctRoutes).1 walked
            have valid : artifact.Valid := ⟨by omega, by omega, confident, ranks⟩
            simp only
            rw [ih (nodup_cons.2 ⟨seen, distinctArtifacts⟩) unique]
            simp [valid]
        · rw [if_pos confident]
          constructor
          · intro accepted
            cases accepted
          · rintro ⟨_, _, valid, _⟩
            exact absurd valid.confidence confident

/-- The validation accepts exactly the valid inputs. -/
theorem validateInputs_iff :
    validateInputs requested artifacts = .ok () ↔ ValidInputs requested artifacts := by
  unfold validateInputs
  split
  · rename_i bad
    obtain ⟨value, inside, wrong⟩ := bad
    constructor
    · intro accepted
      cases accepted
    · intro valid
      obtain ⟨named, short⟩ := valid.requested value inside
      rcases wrong with empty | long
      · exact absurd empty named
      · omega
  · rename_i good
    push Not at good
    rw [validateArtifacts_iff nodup_nil nodup_nil, append_nil, append_nil,
      nodup_reverse, nodup_reverse]
    constructor
    · rintro ⟨artifactNames, routeNames, valid⟩
      exact ⟨good, artifactNames, routeNames, valid⟩
    · intro valid
      exact ⟨valid.artifactIdentities, valid.routeIdentities, valid.artifacts⟩

end Pullbox.Coverage
