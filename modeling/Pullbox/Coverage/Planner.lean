import Mathlib.Algebra.BigOperators.Group.Finset.Basic
import Mathlib.Data.List.MinMax
import Mathlib.Data.Nat.Bitwise
import Mathlib.Data.Prod.Lex
import Mathlib.Algebra.Order.Ring.Rat
import Mathlib.Data.String.Basic
import Pullbox.Direct.State
import Pullbox.Numeric.Double
import Pullbox.Search.Cover

/-!
# The planner of direct downloads

Which of the offered artifacts together cover the requested issues, and by which of its routes each
of them is transferred. The confidences are doubles and are summed as such; a plan lists its
artifacts where the code lists indices.
-/

namespace Pullbox.Coverage

open Direct (DirectArtifactRouteKind DirectArtifactHostKind)
open Numeric (sumDoubles)
open Search (Dict)

/-- `_MAX_PLANNER_STATES`. -/
def maxPlannerStates : Nat :=
  100000

inductive DirectHostAccountState where
  | notConfigured | unknown | healthy | authenticationRequired | quotaLimited | unavailable
deriving DecidableEq

/-- A route by which an artifact can be had. -/
structure DirectRouteOption where
  routeIdentity : String
  routeKind : DirectArtifactRouteKind
  hostKind : DirectArtifactHostKind
  transportRank : Int
  eligible : Bool
  eligibilityCode : String
  hostPreference : Int
  accountState : DirectHostAccountState
  quotaRemaining : Option Int
  resumable : Bool
  resolverRequired : Bool
deriving DecidableEq

/-- One offered artifact. Its confidence is a float, as a rational. -/
structure DirectArtifactOption where
  providerIdentity : String
  providerCandidateId : String
  artifactIdentity : String
  coverage : Finset String
  semanticRank : Int
  qualityRank : Int
  expectedSize : Option Int
  providerConfidence : Rat
  providerPriority : Int
  routes : List DirectRouteOption
deriving DecidableEq

/-- An artifact of a plan, with its routes. -/
structure PlannedDirectArtifact where
  providerIdentity : String
  providerCandidateId : String
  artifactIdentity : String
  coverage : Finset String
  expectedSize : Option Int
  orderedRoutes : List DirectRouteOption
  selectedRouteIdentity : String

/-- What a plan says of itself. -/
inductive ExplanationCode where
  | nothingRequested | pinnedRouteIneligible | incompleteCoverage | completeCoverage

def ExplanationCode.value : ExplanationCode → String
  | .nothingRequested => "nothing_requested"
  | .pinnedRouteIneligible => "pinned_route_ineligible"
  | .incompleteCoverage => "incomplete_coverage"
  | .completeCoverage => "complete_coverage"

/-- The selected artifacts, and what stays uncovered. -/
structure DirectCoveragePlan where
  requested : Finset String
  selected : List PlannedDirectArtifact
  uncovered : Finset String
  complete : Bool
  explanationCode : ExplanationCode
  pinnedRouteApplied : Bool

/-- What the planner raises. -/
inductive PlannerError where
  /-- `ValidationError`. -/
  | invalid (message : String)
  /-- `safe_routes[0]` of no routes. -/
  | indexError
deriving DecidableEq

/-! ### Validation -/

def validateRoutes : List DirectRouteOption → List String → Except PlannerError (List String)
  | [], routeIds => .ok routeIds
  | route :: rest, routeIds =>
    if route.routeIdentity ∈ routeIds then
      .error (.invalid "Direct route identities must be unique.")
    else if route.transportRank < 0 ∨ route.hostPreference < 0 then
      .error (.invalid "Direct route ranks cannot be negative.")
    else
      validateRoutes rest (route.routeIdentity :: routeIds)

def validateArtifacts :
    List DirectArtifactOption → List String → List String → Except PlannerError Unit
  | [], _, _ => .ok ()
  | artifact :: rest, artifactIds, routeIds =>
    if artifact.artifactIdentity ∈ artifactIds then
      .error (.invalid "Direct artifact identities must be unique.")
    else if artifact.semanticRank < 0 ∨ artifact.qualityRank < 0 then
      .error (.invalid "Direct artifact ranks cannot be negative.")
    else if ¬ (0 ≤ artifact.providerConfidence ∧ artifact.providerConfidence ≤ 1) then
      .error (.invalid "Direct provider confidence must be between zero and one.")
    else
      match validateRoutes artifact.routes routeIds with
      | .error error => .error error
      | .ok routeIds =>
        validateArtifacts rest (artifact.artifactIdentity :: artifactIds) routeIds

/-- `_validate_inputs`. -/
def validateInputs (requested : Finset String) (artifacts : List DirectArtifactOption) :
    Except PlannerError Unit :=
  if ∃ value ∈ requested, value = "" ∨ 100 < value.length then
    .error (.invalid "Requested coverage identifiers are invalid.")
  else
    validateArtifacts artifacts [] []

/-! ### Orders -/

def DirectHostAccountState.rank : DirectHostAccountState → Nat
  | .healthy | .notConfigured => 0
  | .unknown => 1
  | .quotaLimited => 2
  | .authenticationRequired => 3
  | .unavailable => 4

abbrev RouteOrderKey : Type :=
  Bool ×ₗ Int ×ₗ Int ×ₗ Nat ×ₗ Int ×ₗ Bool ×ₗ Bool ×ₗ String

/-- `_route_order_key`. -/
def routeOrderKey (route : DirectRouteOption) : RouteOrderKey :=
  toLex (!route.eligible, toLex (route.hostPreference, toLex (route.transportRank,
    toLex (route.accountState.rank, toLex (-(route.quotaRemaining.getD 0),
      toLex (!route.resumable, toLex (route.resolverRequired, route.routeIdentity)))))))

abbrev ArtifactOrderKey : Type :=
  Int ×ₗ Int ×ₗ Int ×ₗ String ×ₗ String ×ₗ String

/-- `_artifact_order_key`. -/
def artifactOrderKey (artifact : DirectArtifactOption) : ArtifactOrderKey :=
  toLex (artifact.semanticRank, toLex (artifact.qualityRank, toLex (artifact.providerPriority,
    toLex (artifact.providerIdentity, toLex (artifact.providerCandidateId,
      artifact.artifactIdentity)))))

def sortedRoutes (routes : List DirectRouteOption) : List DirectRouteOption :=
  routes.insertionSort fun first second => routeOrderKey first ≤ routeOrderKey second

def sortedArtifacts (artifacts : List DirectArtifactOption) : List DirectArtifactOption :=
  artifacts.insertionSort fun first second => artifactOrderKey first ≤ artifactOrderKey second

/-- `max`, of some ranks that are not empty. -/
def largest : List Int → Int
  | [] => 0
  | first :: rest => rest.foldl max first

abbrev SelectionKey : Type :=
  Int ×ₗ Int ×ₗ Int ×ₗ Int ×ₗ Nat ×ₗ Nat ×ₗ Int ×ₗ Rat ×ₗ Int ×ₗ List String

instance : Preorder (Int ×ₗ SelectionKey) :=
  (Prod.Lex.instLinearOrder Int SelectionKey).toPreorder

instance : DecidableLT (Int ×ₗ SelectionKey) :=
  (Prod.Lex.instLinearOrder Int SelectionKey).toDecidableLT

/-- The size that counts for an artifact. -/
def DirectArtifactOption.size (artifact : DirectArtifactOption) : Int :=
  artifact.expectedSize.getD (2 ^ 63)

/-- `_selection_key`. Its sum of confidences is that of floats, in the order of the options. -/
def selectionKey (requested : Finset String) (options : List DirectArtifactOption) :
    SelectionKey :=
  toLex (largest (options.map (·.semanticRank)), toLex ((options.map (·.semanticRank)).sum,
    toLex (largest (options.map (·.qualityRank)), toLex ((options.map (·.qualityRank)).sum,
      toLex (options.length, toLex ((options.map fun item => (item.coverage \ requested).card).sum,
        toLex ((options.map (·.size)).sum, toLex (-sumDoubles (options.map (·.providerConfidence)),
          toLex ((options.map (·.providerPriority)).sum,
            (options.map (·.artifactIdentity)).insertionSort (· ≤ ·))))))))))

/-! ### Selection -/

/-- The place of an issue in the sorted request. -/
def issuePosition (requested : Finset String) (issue : String) : Nat :=
  (requested.filter (· < issue)).card

/-- The bits of the requested issues that an artifact covers. -/
def artifactMask (requested : Finset String) (artifact : DirectArtifactOption) : Nat :=
  ∑ issue ∈ artifact.coverage ∩ requested, 1 <<< issuePosition requested issue

def fullMask (requested : Finset String) : Nat :=
  1 <<< requested.card - 1

/-- `bit_count`. -/
def bitCount (mask : Nat) : Nat :=
  (List.range (mask.log2 + 1)).countP mask.testBit

/-- The bits of an artifact that are not covered yet. -/
def newBits (requested : Finset String) (covered : Nat) (artifact : DirectArtifactOption) : Nat :=
  bitCount ((artifactMask requested artifact).ldiff covered)

/-- The next artifact of the greedy selection. -/
def greedyBest (requested : Finset String) (selected : List DirectArtifactOption) (covered : Nat)
    (remaining : List DirectArtifactOption) : Option DirectArtifactOption :=
  (remaining.filter fun artifact => newBits requested covered artifact ≠ 0).argmin fun artifact =>
    toLex (-(newBits requested covered artifact : Int),
      selectionKey requested (selected ++ [artifact]))

theorem greedyBest_mem {requested : Finset String} {selected remaining : List DirectArtifactOption}
    {covered : Nat} {best : DirectArtifactOption}
    (found : greedyBest requested selected covered remaining = some best) :
    best ∈ remaining ∧ newBits requested covered best ≠ 0 := by
  have inside := List.argmin_mem found
  simpa using List.mem_filter.1 inside

/-- `_greedy_bounded_selection`. -/
def greedyBoundedSelection (requested : Finset String) (selected : List DirectArtifactOption)
    (covered : Nat) (remaining : List DirectArtifactOption) : List DirectArtifactOption :=
  if covered = fullMask requested then selected
  else
    match _found : greedyBest requested selected covered remaining with
    | none => selected
    | some best =>
      greedyBoundedSelection requested (selected ++ [best])
        (covered ||| artifactMask requested best) (remaining.erase best)
termination_by remaining.length
decreasing_by
  have inside := (greedyBest_mem _found).1
  have positive := List.length_pos_of_mem inside
  rw [List.length_erase_of_mem inside]
  omega

/-- The states of the exact search, and whether its bound cut it off. -/
def exactSearch (requested : Finset String) (artifacts : List DirectArtifactOption) :
    Dict Nat (List DirectArtifactOption) × Bool :=
  Search.search (selectionKey requested) (· ||| ·) (artifactMask requested) maxPlannerStates
    artifacts (Dict.singleton 0 [])

/-- The best of the states, where none of them covers everything. -/
def bestPartial (requested : Finset String) (states : Dict Nat (List DirectArtifactOption)) :
    List DirectArtifactOption :=
  match states.entries.argmin fun entry =>
    toLex ((requested.card : Int) - bitCount entry.1, selectionKey requested entry.2) with
  | none => []
  | some entry => entry.2

/-- `_select_artifacts`. -/
def selectArtifacts (requested : Finset String) (artifacts : List DirectArtifactOption) :
    List DirectArtifactOption :=
  match artifacts with
  | [] => []
  | artifacts =>
    let (states, bounded) := exactSearch requested artifacts
    let chosen :=
      if bounded then greedyBoundedSelection requested [] 0 artifacts
      else
        match states.get (fullMask requested) with
        | some plan => plan
        | none => bestPartial requested states
    sortedArtifacts chosen

/-! ### The plan -/

/-- The artifacts that cover a requested issue and have a safe route. -/
def eligibleArtifacts (requested : Finset String) (artifacts : List DirectArtifactOption) :
    List DirectArtifactOption :=
  sortedArtifacts (artifacts.filter fun artifact =>
    decide (artifact.coverage ∩ requested ≠ ∅) && artifact.routes.any (·.eligible))

/-- The pinned route, if it is one of the artifact. -/
def pinnedRoute (pinned : Option String) (artifact : DirectArtifactOption) :
    Option DirectRouteOption :=
  pinned.bind fun identity =>
    (sortedRoutes artifact.routes).find? fun route => route.routeIdentity = identity

def planArtifact (pinned : Option String) (artifact : DirectArtifactOption) :
    Except PlannerError PlannedDirectArtifact :=
  let orderedRoutes := sortedRoutes artifact.routes
  match orderedRoutes.filter (·.eligible) with
  | [] => .error .indexError
  | safe :: _ =>
    let selectedRoute := ((pinnedRoute pinned artifact).filter (·.eligible)).getD safe
    .ok
      { providerIdentity := artifact.providerIdentity
        providerCandidateId := artifact.providerCandidateId
        artifactIdentity := artifact.artifactIdentity
        coverage := artifact.coverage
        expectedSize := artifact.expectedSize
        orderedRoutes := orderedRoutes
        selectedRouteIdentity := selectedRoute.routeIdentity }

/-- The requested issues that some artifacts cover. -/
def coveredIssues (requested : Finset String) (artifacts : List DirectArtifactOption) :
    Finset String :=
  artifacts.foldr (fun artifact covered => artifact.coverage ∩ requested ∪ covered) ∅

/-- `plan_direct_coverage`. -/
def planDirectCoverage (requested : Finset String) (artifacts : List DirectArtifactOption)
    (pinned : Option String) : Except PlannerError DirectCoveragePlan := do
  validateInputs requested artifacts
  if requested = ∅ then
    return {
      requested := requested
      selected := []
      uncovered := ∅
      complete := true
      explanationCode := .nothingRequested
      pinnedRouteApplied := false }
  let selectedOptions := selectArtifacts requested (eligibleArtifacts requested artifacts)
  let uncovered := requested \ coveredIssues requested selectedOptions
  let planned ← selectedOptions.mapM (planArtifact pinned)
  let pinApplied := selectedOptions.any fun artifact =>
    (pinnedRoute pinned artifact).any (·.eligible)
  let pinRejected := selectedOptions.any fun artifact =>
    (pinnedRoute pinned artifact).any fun route => !route.eligible
  return {
    requested := requested
    selected := planned
    uncovered := uncovered
    complete := decide (uncovered = ∅)
    explanationCode :=
      if pinRejected then .pinnedRouteIneligible
      else if uncovered ≠ ∅ then .incompleteCoverage
      else .completeCoverage
    pinnedRouteApplied := pinApplied }

end Pullbox.Coverage
