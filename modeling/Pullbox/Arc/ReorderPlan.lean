import Pullbox.Text.CanonicalJson

/-!
# The plan of a reorder and its payload

`services/story_arc_managed_reorder.py`: the plan of an adjacent move, the payload that a preview
token and the journal of a prepared reorder carry, and the reader that takes a payload back. A
dictionary is given by its entries in the order of its keys, which is the order that is compared
and digested.
-/

namespace Pullbox.Arc.ReorderPlan

open Text (Json FloatRepr canonical)

inductive ReorderDirection where
  | up | down

def ReorderDirection.value : ReorderDirection → String
  | .up => "up"
  | .down => "down"

/-- What a reordering does to a placement. -/
inductive ReorderAction where
  | rename | managedUnchanged | referencedDrift | referencedUnchanged | logicalReorder
deriving DecidableEq

def ReorderAction.value : ReorderAction → String
  | .rename => "rename"
  | .managedUnchanged => "managed_unchanged"
  | .referencedDrift => "referenced_drift"
  | .referencedUnchanged => "referenced_unchanged"
  | .logicalReorder => "logical_reorder"

/-- A dictionary of JSON values. -/
abbrev Dict := List (String × Json)

/-- `_MembershipPlan`. -/
structure MembershipPlan where
  membershipId : Int
  oldSequenceNumber : Int
  oldSourceOrdinal : Int
  newSequenceNumber : Int
  newSourceOrdinal : Int
deriving DecidableEq

/-- `_PlacementPlan`. -/
structure PlacementPlan where
  placementId : Int
  membershipId : Int
  ownership : String
  mode : String
  oldReadingOrder : Int
  newReadingOrder : Int
  oldPath : String
  newPath : String
  temporaryPath : Option String
  renderedPathAfter : String
  action : ReorderAction
  canonicalPath : Option String
  sourceFingerprint : Dict
  targetFingerprint : Dict
  placementState : Option String
  lastResultSnapshot : Dict

/-- `_SignedPlan`. -/
structure SignedPlan where
  storyArcId : Int
  selectedMembershipId : Int
  direction : ReorderDirection
  expectedRevision : Int
  operationToken : String
  planDigest : String
  destinationRoot : Option String
  memberships : List MembershipPlan
  placements : List PlacementPlan

/-- `_TOKEN_SCHEMA_VERSION`. -/
def tokenSchemaVersion : Int := 1

/-- `_MAX_PLACEMENTS_PER_ADJACENT_MOVE`. -/
def maxPlacementsPerAdjacentMove : Nat := 100

/-- `hashlib.sha256` of an ASCII text as hexadecimal digits, and the texts of floats. -/
structure Digester where
  floats : FloatRepr
  sha256 : List Char → String
  length_sha256 : ∀ text, (sha256 text).length = 64

/-! ### Writing -/

/-- A text or `None`. -/
def optionalText : Option String → Json
  | none => .null
  | some text => .text text

/-- `asdict`. -/
def MembershipPlan.asdict (plan : MembershipPlan) : Json :=
  .object
    [("membership_id", .integer plan.membershipId),
      ("new_sequence_number", .integer plan.newSequenceNumber),
      ("new_source_ordinal", .integer plan.newSourceOrdinal),
      ("old_sequence_number", .integer plan.oldSequenceNumber),
      ("old_source_ordinal", .integer plan.oldSourceOrdinal)]

/-- `asdict`. -/
def PlacementPlan.asdict (plan : PlacementPlan) : Json :=
  .object
    [("action", .text plan.action.value),
      ("canonical_path", optionalText plan.canonicalPath),
      ("last_result_snapshot", .object plan.lastResultSnapshot),
      ("membership_id", .integer plan.membershipId),
      ("mode", .text plan.mode),
      ("new_path", .text plan.newPath),
      ("new_reading_order", .integer plan.newReadingOrder),
      ("old_path", .text plan.oldPath),
      ("old_reading_order", .integer plan.oldReadingOrder),
      ("ownership", .text plan.ownership),
      ("placement_id", .integer plan.placementId),
      ("placement_state", optionalText plan.placementState),
      ("rendered_path_after", .text plan.renderedPathAfter),
      ("source_fingerprint", .object plan.sourceFingerprint),
      ("target_fingerprint", .object plan.targetFingerprint),
      ("temporary_path", optionalText plan.temporaryPath)]

/-- What is digested: everything but the operation token. -/
def core (storyArcId selectedMembershipId : Int) (direction : ReorderDirection)
    (expectedRevision : Int) (destinationRoot : Option String) (memberships : List MembershipPlan)
    (placements : List PlacementPlan) : Json :=
  .object
    [("destination_root", optionalText destinationRoot),
      ("direction", .text direction.value),
      ("expected_revision", .integer expectedRevision),
      ("memberships", .array (memberships.map MembershipPlan.asdict)),
      ("placements", .array (placements.map PlacementPlan.asdict)),
      ("selected_membership_id", .integer selectedMembershipId),
      ("story_arc_id", .integer storyArcId)]

/-- `_plan_digest`. -/
def planDigest (digester : Digester) (value : Json) : String :=
  digester.sha256 (canonical digester.floats value)

/-- A placement before its temporary path is derived. -/
def PlacementPlan.withoutTemporary (plan : PlacementPlan) : PlacementPlan :=
  { plan with temporaryPath := none }

/-- `semantic` of `_plan_from_payload`. -/
def SignedPlan.semantic (plan : SignedPlan) : Json :=
  core plan.storyArcId plan.selectedMembershipId plan.direction plan.expectedRevision
    plan.destinationRoot plan.memberships (plan.placements.map PlacementPlan.withoutTemporary)

/-- `_plan_to_payload`. -/
def planToPayload (plan : SignedPlan) : Json :=
  .object
    [("destination_root", optionalText plan.destinationRoot),
      ("direction", .text plan.direction.value),
      ("expected_revision", .integer plan.expectedRevision),
      ("memberships", .array (plan.memberships.map MembershipPlan.asdict)),
      ("operation_token", .text plan.operationToken),
      ("placements", .array (plan.placements.map PlacementPlan.asdict)),
      ("plan_digest", .text plan.planDigest),
      ("schema_version", .integer tokenSchemaVersion),
      ("selected_membership_id", .integer plan.selectedMembershipId),
      ("story_arc_id", .integer plan.storyArcId)]

/-! ### Reading -/

/-- What `_plan_from_payload` raises. -/
inductive PayloadError where
  | keyError (key : String)
  | typeError
  | valueError (message : String)
deriving DecidableEq

/-- `raw[key]`. -/
def item (entries : Dict) (key : String) : Except PayloadError Json :=
  match Json.get? entries key with
  | none => .error (.keyError key)
  | some value => .ok value

/-- `_positive_int`; a boolean is none. -/
def positiveInt : Json → Except PayloadError Int
  | .integer value =>
    if value < 1 then .error (.valueError "positive integer required") else .ok value
  | _ => .error (.valueError "positive integer required")

/-- `_nonnegative_int`; a boolean is none. -/
def nonnegativeInt : Json → Except PayloadError Int
  | .integer value =>
    if value < 0 then .error (.valueError "nonnegative integer required") else .ok value
  | _ => .error (.valueError "nonnegative integer required")

/-- `_string`. -/
def string : Json → Except PayloadError String
  | .text value => .ok value
  | _ => .error (.valueError "string required")

/-- `_fixed_string`. -/
def fixedString (length : Nat) (value : Json) : Except PayloadError String := do
  let result ← string value
  if result.length = length then
    .ok result
  else
    .error (.valueError "fixed string length required")

/-- A text or `None`, or an error with this message. -/
def optionalString (message : String) : Json → Except PayloadError (Option String)
  | .null => .ok none
  | .text value => .ok (some value)
  | _ => .error (.valueError message)

/-- `isinstance(value, dict)`. -/
def dict (message : String) : Json → Except PayloadError Dict
  | .object entries => .ok entries
  | _ => .error (.valueError message)

/-- A value among the texts of an enumeration; a container cannot be looked up in a set. -/
def oneOf {α : Type} (values : List α) (valueOf : α → String) (message : String) :
    Json → Except PayloadError α
  | .text text =>
    match values.find? fun value => valueOf value = text with
    | some value => .ok value
    | none => .error (.valueError message)
  | .array _ => .error .typeError
  | .object _ => .error .typeError
  | _ => .error (.valueError message)

def directions : List ReorderDirection :=
  [.up, .down]

def actions : List ReorderAction :=
  [.rename, .managedUnchanged, .referencedDrift, .referencedUnchanged, .logicalReorder]

def membershipKeys : List String :=
  ["membership_id", "new_sequence_number", "new_source_ordinal", "old_sequence_number",
    "old_source_ordinal"]

/-- `expected_keys` of `_placement_plan_from_raw`. -/
def placementKeys : List String :=
  ["action", "canonical_path", "last_result_snapshot", "membership_id", "mode", "new_path",
    "new_reading_order", "old_path", "old_reading_order", "ownership", "placement_id",
    "placement_state", "rendered_path_after", "source_fingerprint", "target_fingerprint",
    "temporary_path"]

/-- A dictionary with exactly these keys. -/
def dictWithKeys (keys : List String) (message : String) : Json → Except PayloadError Dict
  | .object entries =>
    if entries.map Prod.fst = keys then .ok entries else .error (.valueError message)
  | _ => .error (.valueError message)

/-- `_membership_plan_from_raw`. -/
def membershipPlanFromRaw (raw : Json) : Except PayloadError MembershipPlan := do
  let raw ← dictWithKeys membershipKeys "invalid membership plan" raw
  let membershipId ← positiveInt (← item raw "membership_id")
  let oldSequenceNumber ← nonnegativeInt (← item raw "old_sequence_number")
  let oldSourceOrdinal ← nonnegativeInt (← item raw "old_source_ordinal")
  let newSequenceNumber ← nonnegativeInt (← item raw "new_sequence_number")
  let newSourceOrdinal ← nonnegativeInt (← item raw "new_source_ordinal")
  .ok { membershipId, oldSequenceNumber, oldSourceOrdinal, newSequenceNumber, newSourceOrdinal }

/-- `_placement_plan_from_raw`. -/
def placementPlanFromRaw (raw : Json) : Except PayloadError PlacementPlan := do
  let raw ← dictWithKeys placementKeys "invalid placement plan" raw
  let action ← oneOf actions ReorderAction.value "invalid action" (← item raw "action")
  let temporaryPath ← optionalString "invalid temporary path" (← item raw "temporary_path")
  let canonicalPath ← optionalString "invalid canonical path" (← item raw "canonical_path")
  let sourceFingerprint ← dict "invalid fingerprint" (← item raw "source_fingerprint")
  let targetFingerprint ← dict "invalid fingerprint" (← item raw "target_fingerprint")
  let lastResultSnapshot ← dict "invalid fingerprint" (← item raw "last_result_snapshot")
  let placementState ← optionalString "invalid fingerprint" (← item raw "placement_state")
  let placementId ← nonnegativeInt (← item raw "placement_id")
  let membershipId ← positiveInt (← item raw "membership_id")
  let ownership ← string (← item raw "ownership")
  let mode ← string (← item raw "mode")
  let oldReadingOrder ← nonnegativeInt (← item raw "old_reading_order")
  let newReadingOrder ← nonnegativeInt (← item raw "new_reading_order")
  let oldPath ← string (← item raw "old_path")
  let newPath ← string (← item raw "new_path")
  let renderedPathAfter ← string (← item raw "rendered_path_after")
  .ok
    { placementId, membershipId, ownership, mode, oldReadingOrder, newReadingOrder, oldPath,
      newPath, temporaryPath, renderedPathAfter, action, canonicalPath, sourceFingerprint,
      targetFingerprint, placementState, lastResultSnapshot }

/-- A value that Python compares equal to the schema version. -/
def isSchemaVersion : Json → Bool
  | .integer value => value == tokenSchemaVersion
  | .boolean value => value
  | .real value => value == tokenSchemaVersion
  | _ => false

/-- The check on `raw.get("schema_version")`. -/
def checkSchema (raw : Dict) : Except PayloadError Unit :=
  if (Json.get? raw "schema_version").any isSchemaVersion then
    .ok ()
  else
    .error (.valueError "invalid schema")

/-- The items of a list with an accepted number of them. -/
def listOf (accepted : Nat → Bool) (message : String) : Json → Except PayloadError (List Json)
  | .array items =>
    if accepted items.length then .ok items else .error (.valueError message)
  | _ => .error (.valueError message)

/-- `_plan_from_payload` up to the digest. -/
def readPlan (raw : Json) : Except PayloadError SignedPlan := do
  let raw ← dict "invalid schema" raw
  checkSchema raw
  let membershipsRaw ← item raw "memberships"
  let placementsRaw ← item raw "placements"
  let membershipsRaw ← listOf (· == 2) "invalid memberships" membershipsRaw
  let placementsRaw ←
    listOf (fun count => count != 0 && decide (count ≤ maxPlacementsPerAdjacentMove + 2))
      "invalid placements" placementsRaw
  let memberships ← membershipsRaw.mapM membershipPlanFromRaw
  let placements ← placementsRaw.mapM placementPlanFromRaw
  let direction ← oneOf directions ReorderDirection.value "invalid direction" (← item raw "direction")
  let destinationRoot ← optionalString "invalid root" (← item raw "destination_root")
  let storyArcId ← positiveInt (← item raw "story_arc_id")
  let selectedMembershipId ← positiveInt (← item raw "selected_membership_id")
  let expectedRevision ← positiveInt (← item raw "expected_revision")
  let operationToken ← fixedString 32 (← item raw "operation_token")
  let planDigest ← fixedString 64 (← item raw "plan_digest")
  .ok
    { storyArcId, selectedMembershipId, direction, expectedRevision, operationToken, planDigest,
      destinationRoot, memberships, placements }

/-- `_plan_from_payload`. -/
def planFromPayload (digester : Digester) (raw : Json) : Except PayloadError SignedPlan := do
  let plan ← readPlan raw
  if planDigest digester plan.semantic = plan.planDigest then
    .ok plan
  else
    .error (.valueError "digest mismatch")

end Pullbox.Arc.ReorderPlan
