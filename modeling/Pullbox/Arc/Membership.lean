import Pullbox.Sql.Table
import Pullbox.Text.Characters

/-!
# Story arcs and their memberships

The rows that the story-arc service reads and writes: an arc, the ordered entries that it
lists, the issues these entries name, and the files placed for an entry.
-/

namespace Pullbox.Arc

inductive StoryArcSourceKind where
  | legacy | pullbox | mylar3 | folder | comicinfo | provider
deriving DecidableEq

inductive StoryArcLifecycle where
  | active | archived
deriving DecidableEq

inductive StoryArcResolutionState where
  | pending | resolved | missing | ambiguous | conflict | skipped
deriving DecidableEq

inductive StoryArcPlacementOwnership where
  | managed | referenced
deriving DecidableEq

/-- A row of `story_arcs`. -/
structure StoryArc where
  id : Nat
  name : String
  normalizedName : String
  description : Option String
  sourceKind : StoryArcSourceKind
  lifecycle : StoryArcLifecycle
  monitored : Bool
  searchMissing : Bool
  includeUpcoming : Bool
  syncEnabled : Bool
  revision : Int

/-- A value of the evidence of an entry, which is a JSON object. -/
inductive EvidenceValue where
  | null
  | boolean (value : Bool)
  | number (value : Rat)
  | text (value : String)
  | compound
deriving DecidableEq

/-- The keys of the evidence that decide something; `none` is a missing key. -/
structure Evidence where
  provider : Option EvidenceValue := none
  catalogReviewRequired : Option EvidenceValue := none
deriving DecidableEq

/-- A row of `issue_story_arcs`. -/
structure IssueStoryArc where
  id : Nat
  issueId : Option Nat
  storyArcId : Nat
  sequenceNumber : Int
  sourceOrdinal : Int
  resolutionState : StoryArcResolutionState
  sourceKind : StoryArcSourceKind
  sourceIssueId : Option String
  sourceIssueNumberText : Option String
  evidence : Evidence
  syncEligible : Bool
deriving DecidableEq

/-- What an arc reads of an issue. -/
structure Issue where
  id : Nat
  comicvineId : Option Int
  effectiveIssueNumberText : String

/-- What an arc reads of a placement. -/
structure StoryArcPlacement where
  id : Nat
  issueStoryArcId : Nat
  ownership : StoryArcPlacementOwnership

/-! ### Order review -/

/-- `provider_issue_identity`. -/
def providerIssueIdentity (member : IssueStoryArc) : Option String :=
  if member.sourceKind = .provider ∨ member.evidence.provider = some (.text "comicvine") then
    member.sourceIssueId
  else
    none

/-- `requires_order_review`. -/
def requiresOrderReview (member : IssueStoryArc) : Bool :=
  member.evidence.catalogReviewRequired == some (.boolean true)

/-- The number in front of a text, which the database reads as a truth value, is not zero. -/
def readsNonzero (text : String) : Bool :=
  let unsigned := match text.toList.dropWhile Text.isSpace with
    | '+' :: rest | '-' :: rest => rest
    | rest => rest
  let fraction := match unsigned.dropWhile Char.isDigit with
    | '.' :: rest => rest.takeWhile Char.isDigit
    | _ => []
  (unsigned.takeWhile Char.isDigit ++ fraction).any fun digit => digit ≠ '0'

/-- `order_review_filter`: the value as a boolean of the database, false if it is missing. -/
def orderReviewFilter (member : IssueStoryArc) : Bool :=
  match member.evidence.catalogReviewRequired with
  | none | some .null | some .compound => false
  | some (.boolean value) => value
  | some (.number value) => value ≠ 0
  | some (.text value) => readsNonzero value

theorem requiresOrderReview_filter {member : IssueStoryArc}
    (passes : orderReviewFilter member = false) : requiresOrderReview member = false := by
  unfold orderReviewFilter at passes
  unfold requiresOrderReview
  split at passes <;> simp_all

/-! ### The database -/

/-- The rows the service reads and writes. -/
structure Database where
  arcs : Sql.Table StoryArc StoryArc.id
  memberships : Sql.Table IssueStoryArc IssueStoryArc.id
  issues : Sql.Table Issue Issue.id
  placements : Sql.Table StoryArcPlacement StoryArcPlacement.id

namespace Database

variable {db : Database}

def setArc (db : Database) (id : Nat) (change : StoryArc → StoryArc)
    (keeps : ∀ arc, (change arc).id = arc.id) : Database :=
  { db with arcs := db.arcs.modify id change keeps }

def setMembership (db : Database) (id : Nat) (change : IssueStoryArc → IssueStoryArc)
    (keeps : ∀ member, (change member).id = member.id) : Database :=
  { db with memberships := db.memberships.modify id change keeps }

/-- `arc.revision += 1`, for the arcs of some identifiers. -/
def advanceRevisions (db : Database) (arcIds : List Nat) : Database :=
  { db with
    arcs := db.arcs.update (fun arc => decide (arc.id ∈ arcIds))
      (fun arc => { arc with revision := arc.revision + 1 }) fun _ => rfl }

/-- The entries of an arc. -/
def membersOf (db : Database) (arcId : Nat) : List IssueStoryArc :=
  db.memberships.rows.filter fun member => member.storyArcId = arcId

/-- What `_has_managed_placements` is asked about. -/
inductive PlacementScope where
  | arc (id : Nat)
  | membership (id : Nat)
  | issue (id : Nat)

def PlacementScope.covers : PlacementScope → IssueStoryArc → Bool
  | .arc id, member => member.storyArcId = id
  | .membership id, member => member.id = id
  | .issue id, member => member.issueId = some id

/-- `_has_managed_placements`. -/
def hasManagedPlacements (db : Database) (scope : PlacementScope) : Bool :=
  db.placements.rows.any fun placement =>
    placement.ownership == .managed &&
      (db.memberships.find placement.issueStoryArcId).any scope.covers

end Database

end Pullbox.Arc
