import Pullbox.Arc.Membership
import Pullbox.Durable.Session

/-!
# The story-arc service

Its operations, on the session of a caller that owns the transaction. What an operation wrote before
it raises stays in the session. Normalizing a name or a number is a given function; columns that no
operation reads are left out.
-/

namespace Pullbox.Arc

open Durable
open Durable.Session (refuseIf whenSome)

/-! ### Errors -/

/-- The operations that a managed placement refuses. -/
inductive ManagedRefusal where
  | rename | change | resolve | detach | reorder | remove

/-- What the service raises. -/
inductive StoryArcServiceError where
  | arcNotFound (id : Nat)
  | membershipNotFound (id : Nat)
  | issueNotFound (id : Nat)
  | blankName
  | longName
  | name (message : String)
  | orderValue (label : String)
  | sourceNumber (message : String)
  | staleRevision (expected current : Int)
  | managedPlacement (refusal : ManagedRefusal)
  | archivedFlags
  | archivedMemberships
  | missingSourceNumber
  | duplicateMembership (issueId arcId : Nat)
  | providerIdentity
  | incompleteOrder

def ManagedRefusal.message : ManagedRefusal → String
  | .rename => "Story-arc name cannot change while a managed placement exists"
  | .change => "Story-arc membership cannot change while a managed placement exists"
  | .resolve =>
    "Story-arc membership cannot resolve differently while a managed placement exists"
  | .detach => "Canonical issue cannot detach while a managed story-arc placement exists"
  | .reorder => "Story-arc memberships cannot reorder while a managed placement exists"
  | .remove => "Story-arc membership cannot be removed while a managed placement exists"

def StoryArcServiceError.message : StoryArcServiceError → String
  | .arcNotFound id => s!"Story arc {id} was not found"
  | .membershipNotFound id => s!"Story-arc membership {id} was not found"
  | .issueNotFound id => s!"Issue {id} was not found"
  | .blankName => "Story-arc name must not be blank"
  | .longName => "Story-arc name exceeds 500 characters"
  | .name message | .sourceNumber message => message
  | .orderValue label => s!"{label} must be a non-negative integer"
  | .staleRevision expected current =>
    s!"Story arc revision changed: expected {expected}, current {current}"
  | .managedPlacement refusal => refusal.message
  | .archivedFlags => "Archived story arcs cannot enable monitoring or sync"
  | .archivedMemberships => "Archived story arcs cannot change memberships"
  | .missingSourceNumber => "An unresolved story-arc entry requires an exact source issue number"
  | .duplicateMembership issueId arcId =>
    s!"Issue {issueId} already belongs to story arc {arcId}"
  | .providerIdentity =>
    "The selected issue does not match this member's exact provider identity"
  | .incompleteOrder => "Membership reorder must include every arc membership exactly once"

abbrev Service (α : Type) : Type :=
  Session StoryArcServiceError Database α

/-! ### Values -/

/-- The normal forms of names and of issue numbers, and the messages of values without one. -/
structure Naming (Number : Type) where
  normalizeStoryArcName : String → Except String String
  normalizeIssueNumberText : Number → Except String String

/-- A number given for an order; a boolean is refused. -/
inductive OrderValue where
  | int (value : Int)
  | bool (value : Bool)

variable {Number : Type} (naming : Naming Number)

/-- `" ".join(name.split())`. -/
def displayName (name : String) : String :=
  " ".intercalate
    (((name.toList.splitOnP Text.isSpace).filter fun word => word ≠ []).map String.ofList)

/-- `_display_name_and_key`. -/
def displayNameAndKey (name : String) : Except StoryArcServiceError (String × String) :=
  let display := displayName name
  if display = "" then .error .blankName
  else if 500 < display.length then .error .longName
  else
    match naming.normalizeStoryArcName display with
    | .ok normalized => .ok (display, normalized)
    | .error message => .error (.name message)

/-- `_validate_order_value`. -/
def validateOrderValue (value : OrderValue) (label : String) : Except StoryArcServiceError Int :=
  match value with
  | .int value => if value < 0 then .error (.orderValue label) else .ok value
  | .bool _ => .error (.orderValue label)

/-- `_normalize_source_issue_number`. -/
def normalizeSourceIssueNumber (value : Number) : Except StoryArcServiceError String :=
  match naming.normalizeIssueNumberText value with
  | .ok text => .ok text
  | .error message => .error (.sourceNumber message)

namespace Service

/-! ### Rows -/

/-- A value that was validated, or its error. -/
def ofExcept {α : Type} (given : Except StoryArcServiceError α) : Service α :=
  match given with
  | .ok value => pure value
  | .error error => throw error

/-- A row that must exist. -/
def require {α : Type} (row : Database → Option α) (error : StoryArcServiceError) : Service α := do
  match row (← get) with
  | some row => return row
  | none => throw error

/-- `_get_arc`. -/
def getArc (arcId : Nat) : Service StoryArc :=
  require (fun db => db.arcs.find arcId) (.arcNotFound arcId)

/-- `_get_active_arc`. -/
def getActiveArc (arcId : Nat) : Service StoryArc := do
  let arc ← getArc arcId
  refuseIf (arc.lifecycle = .archived) .archivedMemberships
  return arc

/-- `_get_membership`. -/
def getMembership (membershipId : Nat) : Service IssueStoryArc :=
  require (fun db => db.memberships.find membershipId) (.membershipNotFound membershipId)

def getIssue (issueId : Nat) : Service Issue :=
  require (fun db => db.issues.find issueId) (.issueNotFound issueId)

/-- `_assert_revision`. -/
def assertRevision (arc : StoryArc) (expected : Int) : Service PUnit :=
  refuseIf (arc.revision ≠ expected) (.staleRevision expected arc.revision)

/-- A managed placement refuses an operation. -/
def refuseManaged (scope : Database.PlacementScope) (refusal : ManagedRefusal) :
    Service PUnit := do
  refuseIf ((← get).hasManagedPlacements scope = true) (.managedPlacement refusal)

/-- `arc.revision += 1`. -/
def advanceRevision (arcId : Nat) : Service PUnit :=
  modify fun db => db.advanceRevisions [arcId]

def writeArc (arcId : Nat) (change : StoryArc → StoryArc)
    (keeps : ∀ arc, (change arc).id = arc.id) : Service PUnit :=
  modify fun db => db.setArc arcId change keeps

def writeMembership (membershipId : Nat) (change : IssueStoryArc → IssueStoryArc)
    (keeps : ∀ member, (change member).id = member.id) : Service PUnit :=
  modify fun db => db.setMembership membershipId change keeps

/-- The entries of an arc that are resolved. -/
def resolvedOf (arcId : Nat) (member : IssueStoryArc) : Bool :=
  decide (member.storyArcId = arcId) && decide (member.resolutionState = .resolved)

/-- `_set_membership_sync_eligibility`. -/
def setMembershipSyncEligibility (arcId : Nat) (enabled : Bool) : Service PUnit := do
  modify fun db =>
    { db with
      memberships := db.memberships.update (resolvedOf arcId)
        (fun member => { member with syncEligible := false }) fun _ => rfl }
  if enabled then
    modify fun db =>
      { db with
        memberships := db.memberships.update
          (fun member => resolvedOf arcId member && !orderReviewFilter member)
          (fun member => { member with syncEligible := true }) fun _ => rfl }

/-! ### Arcs -/

/-- The arguments of `create`. -/
structure CreateRequest where
  name : String
  description : Option String := none
  monitored : Bool := false
  searchMissing : Bool := false
  includeUpcoming : Bool := false
  syncEnabled : Bool := false
  sourceKind : StoryArcSourceKind := .pullbox

/-- The row of a new arc. -/
def CreateRequest.row (request : CreateRequest) (name normalizedName : String) (id : Nat) :
    StoryArc where
  id := id
  name := name
  normalizedName := normalizedName
  description := request.description
  sourceKind := request.sourceKind
  lifecycle := .active
  monitored := request.monitored
  searchMissing := request.searchMissing
  includeUpcoming := request.includeUpcoming
  syncEnabled := request.syncEnabled
  revision := 1

theorem CreateRequest.row_id (request : CreateRequest) (name normalizedName : String) (id : Nat) :
    (request.row name normalizedName id).id = id :=
  rfl

/-- `create`. -/
def create (request : CreateRequest) : Service PUnit := do
  let names ← ofExcept (displayNameAndKey naming request.name)
  modify fun db =>
    { db with arcs := db.arcs.insert (request.row names.1 names.2) (request.row_id names.1 names.2) }

/-- The fields that a request leaves unset are `none`. -/
structure UpdateRequest where
  expectedRevision : Int
  name : Option String := none
  description : Option (Option String) := none
  monitored : Option Bool := none
  searchMissing : Option Bool := none
  includeUpcoming : Option Bool := none
  syncEnabled : Option Bool := none

/-- The flags that a request gives are written. -/
def UpdateRequest.flagged (request : UpdateRequest) (arc : StoryArc) : StoryArc :=
  { arc with
    monitored := request.monitored.getD arc.monitored
    searchMissing := request.searchMissing.getD arc.searchMissing
    includeUpcoming := request.includeUpcoming.getD arc.includeUpcoming
    syncEnabled := request.syncEnabled.getD arc.syncEnabled }

theorem UpdateRequest.flagged_id (request : UpdateRequest) (arc : StoryArc) :
    (request.flagged arc).id = arc.id :=
  rfl

/-- A new name for an arc, which a managed placement refuses. -/
def rename (arc : StoryArc) (name : String) : Service PUnit := do
  let names ← ofExcept (displayNameAndKey naming name)
  let managed := (← get).hasManagedPlacements (.arc arc.id)
  refuseIf ((names.1 ≠ arc.name ∨ names.2 ≠ arc.normalizedName) ∧ managed = true)
    (.managedPlacement .rename)
  writeArc arc.id (fun arc => { arc with name := names.1, normalizedName := names.2 })
    fun _ => rfl

/-- `update`. -/
def update (arcId : Nat) (request : UpdateRequest) : Service PUnit := do
  let arc ← getArc arcId
  assertRevision arc request.expectedRevision
  whenSome request.name (rename naming arc)
  whenSome request.description fun description =>
    writeArc arcId (fun arc => { arc with description := description }) fun _ => rfl
  refuseIf
    (arc.lifecycle = .archived ∧
      some true ∈ [request.monitored, request.searchMissing, request.includeUpcoming,
        request.syncEnabled])
    .archivedFlags
  writeArc arcId request.flagged request.flagged_id
  whenSome request.syncEnabled (setMembershipSyncEligibility arcId)
  advanceRevision arcId

/-- `archive`. -/
def archive (arcId : Nat) (expectedRevision : Int) : Service PUnit := do
  let arc ← getArc arcId
  assertRevision arc expectedRevision
  if arc.lifecycle = .archived then
    return
  writeArc arcId
    (fun arc =>
      { arc with
        lifecycle := .archived
        monitored := false
        searchMissing := false
        includeUpcoming := false
        syncEnabled := false })
    fun _ => rfl
  setMembershipSyncEligibility arcId false
  advanceRevision arcId

/-! ### Memberships -/

/-- The arguments of `add_membership`. -/
structure AddRequest (Number : Type) where
  issueId : Option Nat
  sequenceNumber : OrderValue
  sourceIssueNumberText : Option Number := none
  sourceOrdinal : OrderValue := .int 0
  sourceKind : StoryArcSourceKind := .pullbox

/-- The entry that the request would repeat, if it is there already. -/
def AddRequest.repeats (arcId : Nat) (issueId : Option Nat) (sequenceNumber sourceOrdinal : Int)
    (exactNumber : String) (sourceKind : StoryArcSourceKind) (member : IssueStoryArc) : Bool :=
  decide (member.storyArcId = arcId) && decide (member.issueId = issueId) &&
    decide (member.sequenceNumber = sequenceNumber) &&
    decide (member.sourceOrdinal = sourceOrdinal) &&
    decide (member.sourceIssueNumberText = some exactNumber) &&
    decide (member.sourceKind = sourceKind)

/-- `_find_idempotent_or_duplicate_membership`; true if the entry is there already. -/
def findIdempotentOrDuplicateMembership (arcId : Nat) (issueId : Option Nat)
    (sequenceNumber sourceOrdinal : Int) (exactNumber : String)
    (sourceKind : StoryArcSourceKind) : Service Bool := do
  let db ← get
  let same := AddRequest.repeats arcId issueId sequenceNumber sourceOrdinal exactNumber sourceKind
  match issueId with
  | none => return db.memberships.rows.any same
  | some issueId =>
    match db.memberships.rows.find? fun member =>
      decide (member.storyArcId = arcId) && decide (member.issueId = some issueId) with
    | none => return false
    | some existing =>
      if same existing && decide (existing.resolutionState = .resolved) then
        return true
      else
        throw (.duplicateMembership issueId arcId)

/-- The number of an entry: the given one, or that of its issue. -/
def exactSourceNumber (given : Option Number) (issue : Option Issue) : Service String :=
  match given, issue with
  | some number, _ => ofExcept (normalizeSourceIssueNumber naming number)
  | none, some issue => pure issue.effectiveIssueNumberText
  | none, none => throw .missingSourceNumber

/-- The row of a new entry. -/
def newMembership (arc : StoryArc) (issueId : Option Nat) (sequenceNumber sourceOrdinal : Int)
    (exactNumber : String) (sourceKind : StoryArcSourceKind) (id : Nat) : IssueStoryArc where
  id := id
  issueId := issueId
  storyArcId := arc.id
  sequenceNumber := sequenceNumber
  sourceOrdinal := sourceOrdinal
  resolutionState := if issueId.isSome then .resolved else .missing
  sourceKind := sourceKind
  sourceIssueId := none
  sourceIssueNumberText := some exactNumber
  evidence := {}
  syncEligible := issueId.isSome && arc.syncEnabled

theorem newMembership_id (arc : StoryArc) (issueId : Option Nat)
    (sequenceNumber sourceOrdinal : Int) (exactNumber : String)
    (sourceKind : StoryArcSourceKind) (id : Nat) :
    (newMembership arc issueId sequenceNumber sourceOrdinal exactNumber sourceKind id).id = id :=
  rfl

/-- The issue that a request names must exist. -/
def getRequestedIssue : Option Nat → Service (Option Issue)
  | none => pure none
  | some issueId => do return some (← getIssue issueId)

/-- `add_membership`. -/
def addMembership (arcId : Nat) (request : AddRequest Number) : Service PUnit := do
  let arc ← getActiveArc arcId
  let sequenceNumber ← ofExcept (validateOrderValue request.sequenceNumber "sequence number")
  let sourceOrdinal ← ofExcept (validateOrderValue request.sourceOrdinal "source ordinal")
  let issue ← getRequestedIssue request.issueId
  let exactNumber ← exactSourceNumber naming request.sourceIssueNumberText issue
  let existing ← findIdempotentOrDuplicateMembership arcId request.issueId sequenceNumber
    sourceOrdinal exactNumber request.sourceKind
  if existing then
    return
  modify fun db =>
    { db with
      memberships := db.memberships.insert
        (newMembership arc request.issueId sequenceNumber sourceOrdinal exactNumber
          request.sourceKind)
        (newMembership_id arc request.issueId sequenceNumber sourceOrdinal exactNumber
          request.sourceKind) }
  advanceRevision arcId

/-- The arguments of `update_membership`; `none` leaves a value. -/
structure UpdateMembershipRequest (Number : Type) where
  sequenceNumber : Option OrderValue := none
  sourceOrdinal : Option OrderValue := none
  sourceIssueNumberText : Option Number := none
  intentionallySkipped : Option Bool := none

/-- A value is given for some field. -/
def UpdateMembershipRequest.requested (request : UpdateMembershipRequest Number) : Bool :=
  request.sequenceNumber.isSome || request.sourceOrdinal.isSome ||
    request.sourceIssueNumberText.isSome || request.intentionallySkipped.isSome

/-- Write a field of an entry, if a value is given and differs; true if it was written. -/
def changeField {α β : Type} [DecidableEq β] (member : IssueStoryArc) (given : Option α)
    (validate : α → Except StoryArcServiceError β) (field : IssueStoryArc → β)
    (write : β → IssueStoryArc → IssueStoryArc)
    (keeps : ∀ value member, (write value member).id = member.id) : Service Bool :=
  match given with
  | none => pure false
  | some value => do
      let value ← ofExcept (validate value)
      if field member ≠ value then
        writeMembership member.id (write value) (keeps value)
        return true
      else
        return false

/-- The state of an entry that is or is not skipped on purpose. -/
def nextState (member : IssueStoryArc) (skipped : Bool) : StoryArcResolutionState :=
  if skipped then .skipped else if member.issueId.isSome then .resolved else .missing

/-- The synchronization of an entry that is or is not skipped on purpose. -/
def nextEligibility (arc : StoryArc) (member : IssueStoryArc) (skipped : Bool) : Bool :=
  !skipped && member.issueId.isSome && arc.syncEnabled && !requiresOrderReview member

/-- Skip an entry, or take it back; true if its state changes. -/
def changeSkipped (arc : StoryArc) (member : IssueStoryArc) (given : Option Bool) :
    Service Bool :=
  match given with
  | none => pure false
  | some skipped =>
    if member.resolutionState ≠ nextState member skipped then do
      writeMembership member.id
        (fun row =>
          { row with
            resolutionState := nextState member skipped
            syncEligible := nextEligibility arc member skipped })
        fun _ => rfl
      return true
    else
      pure false

/-- `update_membership`. -/
def updateMembership (membershipId : Nat) (request : UpdateMembershipRequest Number) :
    Service PUnit := do
  let member ← getMembership membershipId
  let arc ← getActiveArc member.storyArcId
  let managed := (← get).hasManagedPlacements (.membership membershipId)
  refuseIf (request.requested = true ∧ managed = true) (.managedPlacement .change)
  let sequence ← changeField member request.sequenceNumber
    (fun value => validateOrderValue value "sequence number") IssueStoryArc.sequenceNumber
    (fun value row => { row with sequenceNumber := value }) fun _ _ => rfl
  let ordinal ← changeField member request.sourceOrdinal
    (fun value => validateOrderValue value "source ordinal") IssueStoryArc.sourceOrdinal
    (fun value row => { row with sourceOrdinal := value }) fun _ _ => rfl
  let number ← changeField member request.sourceIssueNumberText
    (fun value => (normalizeSourceIssueNumber naming value).map some)
    IssueStoryArc.sourceIssueNumberText
    (fun value row => { row with sourceIssueNumberText := value }) fun _ _ => rfl
  let skipped ← changeSkipped arc member request.intentionallySkipped
  if sequence || ordinal || number || skipped then
    advanceRevision arc.id

/-- `str(issue.comicvine_id)`. -/
def comicvineText (issue : Issue) : String :=
  match issue.comicvineId with
  | some id => toString id
  | none => "None"

/-- The entry as it is resolved to an issue. -/
def resolvedMembership (arc : StoryArc) (issue : Issue) (member : IssueStoryArc) :
    IssueStoryArc :=
  { member with
    issueId := some issue.id
    resolutionState := .resolved
    syncEligible := arc.syncEnabled
    evidence :=
      if requiresOrderReview member then
        { member.evidence with catalogReviewRequired := some (.boolean false) }
      else
        member.evidence
    sourceIssueNumberText :=
      member.sourceIssueNumberText.orElse fun _ => some issue.effectiveIssueNumberText }

theorem resolvedMembership_id (arc : StoryArc) (issue : Issue) (member : IssueStoryArc) :
    (resolvedMembership arc issue member).id = member.id :=
  rfl

/-- `resolve_membership`. -/
def resolveMembership (membershipId issueId : Nat) : Service PUnit := do
  let member ← getMembership membershipId
  let arc ← getActiveArc member.storyArcId
  let issue ← getIssue issueId
  whenSome (providerIssueIdentity member) fun providerId =>
    refuseIf (comicvineText issue ≠ providerId) .providerIdentity
  let db ← get
  refuseIf
    (∃ other ∈ db.memberships.rows,
      other.storyArcId = member.storyArcId ∧ other.issueId = some issueId ∧
        other.id ≠ member.id)
    (.duplicateMembership issueId member.storyArcId)
  if member.issueId = some issueId ∧ member.resolutionState = .resolved ∧
      requiresOrderReview member = false then
    return
  refuseManaged (.membership member.id) .resolve
  writeMembership member.id (resolvedMembership arc issue) (resolvedMembership_id arc issue)
  advanceRevision arc.id

/-! ### Missing issues -/

/-- The entry without its issue, which is deleted; its number stays that of the issue. -/
def detachedMembership (issue : Option Issue) (member : IssueStoryArc) : IssueStoryArc :=
  { member with
    issueId := none
    resolutionState :=
      if member.resolutionState = .skipped then member.resolutionState else .missing
    sourceIssueNumberText :=
      member.sourceIssueNumberText.orElse fun _ => issue.map Issue.effectiveIssueNumberText }

theorem detachedMembership_id (issue : Option Issue) (member : IssueStoryArc) :
    (detachedMembership issue member).id = member.id :=
  rfl

/-- Write the entries that a condition selects, and advance their arcs. -/
def writeMemberships (condition : IssueStoryArc → Bool) (write : IssueStoryArc → IssueStoryArc)
    (keeps : ∀ member, (write member).id = member.id) : Service PUnit :=
  modify fun db =>
    { db with memberships := db.memberships.update condition write keeps }.advanceRevisions
      ((db.memberships.rows.filter condition).map IssueStoryArc.storyArcId)

/-- `detach_deleted_issue`. -/
def detachDeletedIssue (issueId : Nat) : Service PUnit := do
  let db ← get
  let names := fun member : IssueStoryArc => decide (member.issueId = some issueId)
  if db.memberships.rows.any names = false then
    return
  refuseManaged (.issue issueId) .detach
  writeMemberships names (detachedMembership (db.issues.find issueId))
    (detachedMembership_id (db.issues.find issueId))

/-- An entry is resolved to an issue that is gone; `none` asks about every arc. -/
def missesIssue (arcId : Option Nat) (member : IssueStoryArc) : Bool :=
  decide (member.issueId = none) && decide (member.resolutionState = .resolved) &&
    arcId.all fun arcId => decide (member.storyArcId = arcId)

/-- `reconcile_missing_issue_references`. -/
def reconcileMissingIssueReferences (arcId : Option Nat) : Service PUnit :=
  writeMemberships (missesIssue arcId)
    (fun member => { member with resolutionState := .missing }) fun _ => rfl

/-! ### Order -/

/-- The entry at its place in an order. -/
def placedMembership (ordered : List Nat) (member : IssueStoryArc) : IssueStoryArc :=
  { member with sequenceNumber := ordered.idxOf member.id + 1 }

theorem placedMembership_id (ordered : List Nat) (member : IssueStoryArc) :
    (placedMembership ordered member).id = member.id :=
  rfl

/-- `reorder_memberships`. -/
def reorderMemberships (arcId : Nat) (ordered : List Nat) (expectedRevision : Int) :
    Service PUnit := do
  let arc ← getActiveArc arcId
  assertRevision arc expectedRevision
  refuseManaged (.arc arcId) .reorder
  let existing := ((← get).membersOf arcId).map IssueStoryArc.id
  refuseIf
    (¬ (ordered.Nodup ∧ (∀ id ∈ ordered, id ∈ existing) ∧ ∀ id ∈ existing, id ∈ ordered))
    .incompleteOrder
  modify fun db =>
    { db with
      memberships := db.memberships.update (fun member => decide (member.storyArcId = arcId))
        (placedMembership ordered) (placedMembership_id ordered) }
  advanceRevision arc.id

/-- `remove_membership`. -/
def removeMembership (membershipId : Nat) : Service PUnit := do
  let member ← getMembership membershipId
  let arc ← getActiveArc member.storyArcId
  refuseManaged (.membership member.id) .remove
  modify fun db =>
    { db with
      memberships := db.memberships.delete member.id
      placements := db.placements.deleteWhere fun placement =>
        decide (placement.issueStoryArcId = member.id) }
  advanceRevision arc.id

end Service

end Pullbox.Arc
