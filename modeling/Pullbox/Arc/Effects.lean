import Pullbox.Arc.Service

/-!
# What an operation of the story-arc service does

One lemma per operation: which rows it may have rewritten, added or deleted when it returns,
and what it may have left in the session when it raises.
-/

namespace Pullbox.Arc

open Durable Sql
open Durable.Session (Ends ends_bind ends_pure ends_throw ends_get ends_modify ends_refuseIf
  ends_whenSome)

/-- The entries and the arcs are rewritten in place, as two relations allow. -/
structure Rewritten (db : Database) (member : IssueStoryArc → IssueStoryArc → Prop)
    (arc : StoryArc → StoryArc → Prop) (after : Database) : Prop where
  memberships : db.memberships.Moves member after.memberships
  arcs : db.arcs.Moves arc after.arcs

/-- The arc, with its revision advanced if it is one of some arcs. -/
def advanced (arcIds : List Nat) (arc : StoryArc) : StoryArc :=
  if arc.id ∈ arcIds then { arc with revision := arc.revision + 1 } else arc

theorem rewritten_advanceRevisions {db : Database} {arcIds : List Nat} :
    Rewritten db (fun row last => last = row) (fun row last => last = advanced arcIds row)
      (db.advanceRevisions arcIds) where
  memberships := .refl fun _ _ => rfl
  arcs := Table.moves_of_rows rfl (fun _ => rfl) fun row _ => by
    simp [advanced]

/-! ### Exceptions -/

/-- The error is that of a stale revision or of a managed placement. -/
def StoryArcServiceError.Refuses : StoryArcServiceError → Prop
  | .staleRevision _ _ | .managedPlacement _ => True
  | _ => False

/-- The place and the number of an entry may be rewritten. -/
def Renumbered (row last : IssueStoryArc) : Prop :=
  last = { row with
    sequenceNumber := last.sequenceNumber
    sourceOrdinal := last.sourceOrdinal
    sourceIssueNumberText := last.sourceIssueNumberText }

theorem Renumbered.refl (row : IssueStoryArc) : Renumbered row row :=
  rfl

theorem Renumbered.trans {row middle last : IssueStoryArc} (first : Renumbered row middle)
    (second : Renumbered middle last) : Renumbered row last := by
  unfold Renumbered at *
  rw [second, first]

/-- The name and the description of an arc may be rewritten. -/
def Relabelled (row last : StoryArc) : Prop :=
  last = { row with
    name := last.name
    normalizedName := last.normalizedName
    description := last.description }

theorem Relabelled.refl (row : StoryArc) : Relabelled row row :=
  rfl

theorem Relabelled.trans {row middle last : StoryArc} (first : Relabelled row middle)
    (second : Relabelled middle last) : Relabelled row last := by
  unfold Relabelled at *
  rw [second, first]

/-- What an operation that raised leaves in the session. -/
structure Rejected (db : Database) (error : StoryArcServiceError) (after : Database) : Prop where
  unchanged : error.Refuses → after = db
  held : Rewritten db Renumbered Relabelled after

theorem rewritten_self {db : Database} : Rewritten db Renumbered Relabelled db where
  memberships := .refl fun row _ => .refl row
  arcs := .refl fun row _ => .refl row

variable {error : StoryArcServiceError}

/-- An operation that raised before it wrote. -/
theorem Rejected.same {db : Database} : Rejected db error db :=
  ⟨fun _ => rfl, rewritten_self⟩

namespace Service

variable {db : Database} {α : Type} {returns : α → Database → Prop}
  {raises : StoryArcServiceError → Database → Prop} {arcId membershipId : Nat} {Number : Type}
  {request : UpdateRequest} {naming : Naming Number}

/-! ### Rows -/

theorem ends_ofExcept {given : Except StoryArcServiceError α} :
    Ends (ofExcept given) db returns raises ↔
      (∀ value, given = .ok value → returns value db) ∧
        ∀ error, given = .error error → raises error db := by
  cases given with
  | ok value => simp [ofExcept, ends_pure]
  | error error => simp [ofExcept, ends_throw]

theorem ends_require {row : Database → Option α} :
    Ends (require row error) db returns raises ↔
      (∀ value, row db = some value → returns value db) ∧
        (row db = none → raises error db) := by
  rw [require, ends_bind, ends_get]
  cases row db with
  | none => simp [ends_throw]
  | some value => simp [ends_pure]

theorem ends_getArc {returns : StoryArc → Database → Prop} :
    Ends (getArc arcId) db returns raises ↔
      (∀ arc, db.arcs.find arcId = some arc → returns arc db) ∧
        (db.arcs.find arcId = none → raises (.arcNotFound arcId) db) :=
  ends_require

theorem ends_getActiveArc {returns : StoryArc → Database → Prop}
    (active : ∀ arc, db.arcs.find arcId = some arc → arc.lifecycle = .active → returns arc db)
    (rejected : ∀ error, ¬ error.Refuses → raises error db) :
    Ends (getActiveArc arcId) db returns raises := by
  rw [getActiveArc, ends_bind, ends_getArc]
  refine ⟨fun arc found => ?_, fun _ => rejected _ (by simp [StoryArcServiceError.Refuses])⟩
  rw [ends_bind, ends_refuseIf]
  refine ⟨fun _ => rejected _ (by simp [StoryArcServiceError.Refuses]), fun remains => ?_⟩
  rw [ends_pure]
  refine active arc found ?_
  cases lifecycle : arc.lifecycle with
  | active => rfl
  | archived => exact absurd lifecycle remains

theorem ends_getMembership {returns : IssueStoryArc → Database → Prop} :
    Ends (getMembership membershipId) db returns raises ↔
      (∀ member, db.memberships.find membershipId = some member → returns member db) ∧
        (db.memberships.find membershipId = none →
          raises (.membershipNotFound membershipId) db) :=
  ends_require

theorem ends_getIssue {issueId : Nat} {returns : Issue → Database → Prop} :
    Ends (getIssue issueId) db returns raises ↔
      (∀ issue, db.issues.find issueId = some issue → returns issue db) ∧
        (db.issues.find issueId = none → raises (.issueNotFound issueId) db) :=
  ends_require

theorem ends_refuseManaged {scope : Database.PlacementScope} {refusal : ManagedRefusal}
    {returns : PUnit → Database → Prop} :
    Ends (refuseManaged scope refusal) db returns raises ↔
      (db.hasManagedPlacements scope = true → raises (.managedPlacement refusal) db) ∧
        (db.hasManagedPlacements scope = false → returns ⟨⟩ db) := by
  rw [refuseManaged, ends_bind, ends_get, ends_refuseIf, Bool.not_eq_true]

theorem ends_writeArc {change : StoryArc → StoryArc}
    {keeps : ∀ arc, (change arc).id = arc.id} {returns : PUnit → Database → Prop} :
    Ends (writeArc arcId change keeps) db returns raises ↔
      returns ⟨⟩ (db.setArc arcId change keeps) :=
  Iff.rfl

theorem ends_writeMembership {change : IssueStoryArc → IssueStoryArc}
    {keeps : ∀ member, (change member).id = member.id} {returns : PUnit → Database → Prop} :
    Ends (writeMembership membershipId change keeps) db returns raises ↔
      returns ⟨⟩ (db.setMembership membershipId change keeps) :=
  Iff.rfl

theorem ends_advanceRevision {returns : PUnit → Database → Prop} :
    Ends (advanceRevision arcId) db returns raises ↔
      returns ⟨⟩ (db.advanceRevisions [arcId]) :=
  Iff.rfl

/-- The entry after `_set_membership_sync_eligibility`. -/
def eligibilityWritten (arcId : Nat) (enabled : Bool) (member : IssueStoryArc) :
    IssueStoryArc :=
  if resolvedOf arcId member then
    { member with syncEligible := enabled && !orderReviewFilter member }
  else
    member

theorem ends_setMembershipSyncEligibility {enabled : Bool}
    {returns : PUnit → Database → Prop}
    (written : ∀ after, after.arcs = db.arcs →
      db.memberships.Moves (fun row last => last = eligibilityWritten arcId enabled row)
        after.memberships → returns ⟨⟩ after) :
    Ends (setMembershipSyncEligibility arcId enabled) db returns raises := by
  rw [setMembershipSyncEligibility, ends_bind, ends_modify]
  cases enabled with
  | false =>
    refine written _ rfl (Table.moves_of_rows rfl (fun _ => rfl) fun row _ => ?_)
    simp [eligibilityWritten]
  | true =>
    let cleared : Database :=
      { db with
        memberships := db.memberships.update (resolvedOf arcId)
          (fun member => { member with syncEligible := false }) fun _ => rfl }
    have first : db.memberships.Moves
        (fun row last => last = eligibilityWritten arcId false row) cleared.memberships :=
      Table.moves_of_rows rfl (fun _ => rfl) fun row _ => by simp [eligibilityWritten]
    rw [if_pos rfl, ends_modify]
    refine written _ rfl (first.trans
      (Table.moves_of_rows rfl (fun _ => rfl) fun row _ => rfl) ?_)
    rintro row _ middle last rfl rfl
    by_cases resolved : resolvedOf arcId row = true
    · have still : resolvedOf arcId { row with syncEligible := false } = true := resolved
      have filter : orderReviewFilter { row with syncEligible := false } =
          orderReviewFilter row := rfl
      cases reviewed : orderReviewFilter row <;>
        simp [eligibilityWritten, resolved, still, filter, reviewed]
    · simp [eligibilityWritten, resolved]

/-! ### Arcs -/

/-- `create` adds one arc. -/
theorem create_ends {request : CreateRequest} :
    Ends (create naming request) db
      (fun _ after => ∃ name normalizedName, after =
        { db with
          arcs := db.arcs.insert (request.row name normalizedName)
            (request.row_id name normalizedName) })
      (Rejected db) := by
  rw [create, ends_bind, ends_ofExcept]
  exact ⟨fun names _ => ⟨names.1, names.2, rfl⟩, fun _ _ => .same⟩

/-- The arc may take the name. -/
def Renames {Number : Type} (naming : Naming Number) (db : Database) (arc : StoryArc)
    (name : String) : Prop :=
  ∃ names, displayNameAndKey naming name = .ok names ∧
    ((names.1 ≠ arc.name ∨ names.2 ≠ arc.normalizedName) →
      db.hasManagedPlacements (.arc arc.id) = false)

/-- An update is accepted that enables the synchronization. -/
def Enables {Number : Type} (naming : Naming Number) (db : Database) (arcId : Nat)
    (request : UpdateRequest) : Prop :=
  request.syncEnabled = some true ∧
    ∃ arc, db.arcs.find arcId = some arc ∧ arc.revision = request.expectedRevision ∧
      arc.lifecycle = .active ∧ ∀ name, request.name = some name → Renames naming db arc name

/-- The arc after an update, but for its name and its description. -/
def updatedArc (arcId : Nat) (request : UpdateRequest) (arc : StoryArc) : StoryArc :=
  if arc.id = arcId then { request.flagged arc with revision := arc.revision + 1 } else arc

theorem updatedArc_relabelled {row last : StoryArc}
    (labels : Relabelled row last) :
    Relabelled (updatedArc arcId request row) (updatedArc arcId request last) := by
  rw [labels]
  unfold updatedArc
  by_cases named : row.id = arcId
  · simp [named, Relabelled, UpdateRequest.flagged]
  · simp [named, Relabelled]

/-- The flags are written, and then the revision advances. -/
theorem advanced_flagged {row : StoryArc} :
    advanced [arcId] (if row.id = arcId then request.flagged row else row) =
      updatedArc arcId request row := by
  unfold advanced updatedArc
  by_cases named : row.id = arcId
  · simp [named, UpdateRequest.flagged]
  · simp [named]

/-- The entry after an update of its arc. -/
def updatedMember (arcId : Nat) (request : UpdateRequest) (member : IssueStoryArc) :
    IssueStoryArc :=
  match request.syncEnabled with
  | some enabled => eligibilityWritten arcId enabled member
  | none => member

/-- Only the names and the descriptions of arcs are written. -/
structure Labelled (db after : Database) : Prop where
  memberships : after.memberships = db.memberships
  arcs : db.arcs.Moves Relabelled after.arcs

theorem Labelled.held {after : Database} (labelled : Labelled db after) :
    Rewritten db Renumbered Relabelled after where
  memberships := by
    rw [labelled.memberships]
    exact .refl fun row _ => .refl row
  arcs := labelled.arcs

theorem Labelled.writeArc {mid : Database} (labelled : Labelled db mid)
    {change : StoryArc → StoryArc} (keeps : ∀ arc, (change arc).id = arc.id)
    (labels : ∀ row, Relabelled row (change row)) :
    Labelled db (mid.setArc arcId change keeps) where
  memberships := labelled.memberships
  arcs := by
    have written : mid.arcs.Moves Relabelled (mid.setArc arcId change keeps).arcs := by
      refine Table.moves_of_rows rfl keeps fun row _ => ?_
      split
      · exact labels row
      · exact .refl row
    exact labelled.arcs.trans written fun row _ middle last => Relabelled.trans

theorem Labelled.updated {mid after : Database} (labelled : Labelled db mid)
    (arcs : after.arcs = (mid.setArc arcId request.flagged request.flagged_id).arcs)
    (memberships : mid.memberships.Moves (fun row last => last = updatedMember arcId request row)
      after.memberships) :
    Rewritten db (fun row last => last = updatedMember arcId request row)
      (fun row last => Relabelled (updatedArc arcId request row) last)
      (after.advanceRevisions [arcId]) where
  memberships := by
    rw [labelled.memberships] at memberships
    exact memberships
  arcs := by
    have flagged : mid.arcs.Moves
        (fun row last => last = if row.id = arcId then request.flagged row else row)
        after.arcs := by
      rw [arcs]
      exact Table.moves_of_rows rfl (fun _ => rfl) fun _ _ => rfl
    have advance : after.arcs.Moves (fun row last => last = advanced [arcId] row)
        (after.advanceRevisions [arcId]).arcs := rewritten_advanceRevisions.arcs
    have whole : mid.arcs.Moves (fun row last => last = updatedArc arcId request row)
        (after.advanceRevisions [arcId]).arcs :=
      flagged.trans advance fun row _ middle last moved moved' => by
        rw [moved', moved, advanced_flagged]
    refine labelled.arcs.trans whole fun row _ middle last labels moved => ?_
    rw [moved]
    exact updatedArc_relabelled labels

/-- What `update` wrote when it returns. -/
structure Updated {Number : Type} (naming : Naming Number) (db : Database) (arcId : Nat)
    (request : UpdateRequest) (after : Database) : Prop where
  rewritten : Rewritten db (fun row last => last = updatedMember arcId request row)
    (fun row last => Relabelled (updatedArc arcId request row) last) after
  enables : request.syncEnabled = some true → Enables naming db arcId request

theorem rename_ends {arc : StoryArc} {name : String} :
    Ends (rename naming arc name) db
      (fun _ after => Renames naming db arc name ∧ Labelled db after)
      (fun error after => ¬ Renames naming db arc name ∧ Rejected db error after) := by
  rw [rename, ends_bind, ends_ofExcept]
  constructor
  · intro names named
    rw [ends_bind, ends_get, ends_bind, ends_refuseIf]
    constructor
    · rintro ⟨differs, managed⟩
      refine ⟨?_, .same⟩
      rintro ⟨others, otherwise, free⟩
      have same : names = others := Except.ok.inj (named.symm.trans otherwise)
      subst same
      rw [free differs] at managed
      cases managed
    · intro free
      have unlabelled : Labelled db db := ⟨rfl, .refl fun row _ => .refl row⟩
      refine ⟨⟨names, named, fun differs => ?_⟩, unlabelled.writeArc _ fun row => rfl⟩
      exact Bool.eq_false_iff.2 fun managed => free ⟨differs, managed⟩
  · intro error failed
    refine ⟨?_, .same⟩
    rintro ⟨names, named, _⟩
    rw [failed] at named
    cases named

/-- `update` writes one arc, and the synchronization of its entries when it is given. -/
theorem update_ends :
    Ends (update naming arcId request) db (fun _ => Updated naming db arcId request)
      (fun error after => ¬ Enables naming db arcId request ∧ Rejected db error after) := by
  rw [update, ends_bind, ends_getArc]
  constructor
  swap
  · intro missing
    refine ⟨?_, .same⟩
    rintro ⟨_, arc, found, _⟩
    rw [missing] at found
    cases found
  intro arc found
  have only : ∀ other, db.arcs.find arcId = some other → other = arc := fun other again =>
    Option.some.inj (again.symm.trans found)
  rw [ends_bind, assertRevision, ends_refuseIf]
  constructor
  · intro stale
    refine ⟨?_, .same⟩
    rintro ⟨_, other, again, current, _⟩
    exact stale (only other again ▸ current)
  intro current
  rw [ends_bind]
  have unlabelled : Labelled db db := ⟨rfl, .refl fun row _ => .refl row⟩
  have named : Ends (Session.whenSome request.name (rename naming arc)) db
      (fun _ mid => (∀ name, request.name = some name → Renames naming db arc name) ∧
        Labelled db mid)
      (fun error after => ¬ Enables naming db arcId request ∧ Rejected db error after) := by
    rw [ends_whenSome]
    refine ⟨fun none => ⟨by simp [none], unlabelled⟩, fun name given => ?_⟩
    refine rename_ends.mono (fun _ mid returned => ⟨?_, returned.2⟩) fun error mid raised =>
      ⟨?_, raised.2⟩
    · intro other again
      exact Option.some.inj (given.symm.trans again) ▸ returned.1
    · rintro ⟨_, other, again, _, _, free⟩
      exact raised.1 (only other again ▸ free name given)
  refine named.mono ?_ fun _ _ raised => raised
  rintro _ mid ⟨renames, labelled⟩
  rw [ends_bind]
  have described : Ends (Session.whenSome request.description fun description =>
      writeArc arcId (fun arc => { arc with description := description }) fun _ => rfl) mid
      (fun _ => Labelled db)
      (fun error after => ¬ Enables naming db arcId request ∧ Rejected db error after) := by
    rw [ends_whenSome]
    refine ⟨fun _ => labelled, fun description _ => ?_⟩
    exact labelled.writeArc _ fun row => rfl
  refine described.mono ?_ fun _ _ raised => raised
  intro _ mid labelled
  rw [ends_bind, ends_refuseIf]
  constructor
  · rintro ⟨archived, _⟩
    refine ⟨?_, fun refuses => False.elim refuses, labelled.held⟩
    rintro ⟨_, other, again, _, active, _⟩
    rw [only other again, archived] at active
    cases active
  intro flags
  rw [ends_bind, ends_writeArc, ends_bind]
  have written : Ends (Session.whenSome request.syncEnabled (setMembershipSyncEligibility arcId))
      (mid.setArc arcId request.flagged request.flagged_id)
      (fun _ after => Updated naming db arcId request (after.advanceRevisions [arcId]))
      (fun error after => ¬ Enables naming db arcId request ∧ Rejected db error after) := by
    rw [ends_whenSome]
    constructor
    · intro none
      refine ⟨labelled.updated rfl ?_, by simp [none]⟩
      refine .refl fun row _ => ?_
      simp [updatedMember, none]
    · intro enabled given
      refine ends_setMembershipSyncEligibility fun after arcs moves => ?_
      refine ⟨labelled.updated arcs ?_, fun enables => ⟨enables, arc, found, ?_, ?_, renames⟩⟩
      · have moved : mid.memberships.Moves
            (fun row last => last = eligibilityWritten arcId enabled row) after.memberships := moves
        simpa [updatedMember, given] using moved
      · simpa using current
      · cases lifecycle : arc.lifecycle with
        | active => rfl
        | archived =>
          exact absurd ⟨lifecycle, by simp [enables]⟩ flags
  exact written.mono (fun _ after updated => updated) fun _ _ raised => raised

/-- The arc after it was archived. -/
def archivedArc (arcId : Nat) (arc : StoryArc) : StoryArc :=
  if arc.id = arcId then
    { arc with
      lifecycle := .archived
      monitored := false
      searchMissing := false
      includeUpcoming := false
      syncEnabled := false
      revision := arc.revision + 1 }
  else
    arc

/-- `archive` writes one arc, which loses its synchronization, or nothing. -/
theorem archive_ends {expectedRevision : Int} :
    Ends (archive arcId expectedRevision) db
      (fun _ after => after = db ∨
        Rewritten db (fun row last => last = eligibilityWritten arcId false row)
          (fun row last => last = archivedArc arcId row) after)
      (Rejected db) := by
  rw [archive, ends_bind, ends_getArc]
  refine ⟨fun arc _ => ?_, fun _ => .same⟩
  rw [ends_bind, assertRevision, ends_refuseIf]
  refine ⟨fun _ => .same, fun _ => ?_⟩
  split
  · exact .inl rfl
  rw [ends_bind, ends_writeArc, ends_bind]
  refine ends_setMembershipSyncEligibility fun after arcs moves => .inr ⟨moves, ?_⟩
  have flagged : db.arcs.Moves (fun row last => last = if row.id = arcId then
      { row with
        lifecycle := .archived
        monitored := false
        searchMissing := false
        includeUpcoming := false
        syncEnabled := false }
      else row) after.arcs := by
    rw [arcs]
    exact Table.moves_of_rows rfl (fun _ => rfl) fun _ _ => rfl
  have advance : after.arcs.Moves (fun row last => last = advanced [arcId] row)
      (after.advanceRevisions [arcId]).arcs := rewritten_advanceRevisions.arcs
  refine flagged.trans advance fun row _ middle last moved moved' => ?_
  rw [moved', moved]
  unfold advanced archivedArc
  by_cases named : row.id = arcId
  · simp [named]
  · simp [named]

/-! ### Entries -/

/-- What `add_membership` added when it returns, if the entry was not there already. -/
structure Added (db : Database) (arcId : Nat) (issueId : Option Nat) (arc : StoryArc)
    (after : Database) : Prop where
  found : db.arcs.find arcId = some arc
  active : arc.lifecycle = .active
  single : ∀ id, issueId = some id → ∀ row ∈ db.memberships.rows, row.storyArcId = arcId →
    row.issueId ≠ some id
  inserted : ∃ sequenceNumber sourceOrdinal exactNumber sourceKind, after =
    { db with
      memberships := db.memberships.insert
        (newMembership arc issueId sequenceNumber sourceOrdinal exactNumber sourceKind)
        (newMembership_id arc issueId sequenceNumber sourceOrdinal exactNumber sourceKind)
      }.advanceRevisions [arcId]

theorem findIdempotentOrDuplicateMembership_ends {issueId : Option Nat}
    {sequenceNumber sourceOrdinal : Int} {exactNumber : String} {sourceKind : StoryArcSourceKind} :
    Ends (findIdempotentOrDuplicateMembership arcId issueId sequenceNumber sourceOrdinal
        exactNumber sourceKind) db
      (fun existing after => after = db ∧ (existing = false → ∀ id, issueId = some id →
        ∀ row ∈ db.memberships.rows, row.storyArcId = arcId → row.issueId ≠ some id))
      (Rejected db) := by
  rw [findIdempotentOrDuplicateMembership, ends_bind, ends_get]
  cases issueId with
  | none => exact ⟨rfl, fun _ id named => nomatch named⟩
  | some issueId =>
    simp only
    split
    · rename_i absent
      refine ⟨rfl, fun _ id named row member arc issue => ?_⟩
      have differs := List.find?_eq_none.1 absent row member
      simp_all
    · split
      · exact ⟨rfl, fun absent => nomatch absent⟩
      · exact .same

theorem getRequestedIssue_ends {issueId : Option Nat} :
    Ends (getRequestedIssue issueId) db (fun _ after => after = db) (Rejected db) := by
  cases issueId with
  | none => exact rfl
  | some issueId =>
    rw [getRequestedIssue, ends_bind, ends_getIssue]
    exact ⟨fun _ _ => rfl, fun _ => .same⟩

theorem exactSourceNumber_ends {given : Option Number}
    {issue : Option Issue} :
    Ends (exactSourceNumber naming given issue) db (fun _ after => after = db) (Rejected db) := by
  unfold exactSourceNumber
  split
  · rw [ends_ofExcept]
    exact ⟨fun _ _ => rfl, fun _ _ => .same⟩
  · exact rfl
  · exact .same

/-- `add_membership` adds one entry, which advances its arc, or nothing. -/
theorem addMembership_ends {request : AddRequest Number} :
    Ends (addMembership naming arcId request) db
      (fun _ after => after = db ∨ ∃ arc, Added db arcId request.issueId arc after)
      (Rejected db) := by
  rw [addMembership, ends_bind]
  refine ends_getActiveArc (fun arc found active => ?_) fun _ _ => .same
  rw [ends_bind, ends_ofExcept]
  refine ⟨fun sequenceNumber _ => ?_, fun _ _ => .same⟩
  rw [ends_bind, ends_ofExcept]
  refine ⟨fun sourceOrdinal _ => ?_, fun _ _ => .same⟩
  rw [ends_bind]
  refine getRequestedIssue_ends.mono ?_ fun _ _ raised => raised
  rintro issue _ rfl
  rw [ends_bind]
  refine exactSourceNumber_ends.mono ?_ fun _ _ raised => raised
  rintro exactNumber _ rfl
  rw [ends_bind]
  refine findIdempotentOrDuplicateMembership_ends.mono ?_ fun _ _ raised => raised
  rintro existing _ ⟨rfl, single⟩
  split
  · exact .inl rfl
  · rename_i absent
    exact .inr ⟨arc, found, active, single (Bool.eq_false_iff.2 absent), _, _, _, _, rfl⟩

/-- Some rows of one entry are written, as a relation allows, if anything is. -/
structure Written (db : Database) (membershipId : Nat)
    (relation : IssueStoryArc → IssueStoryArc → Prop) (changed : Bool) (after : Database) :
    Prop where
  arcs : after.arcs = db.arcs
  memberships : db.memberships.Moves
    (fun row last => last = row ∨ changed = true ∧ row.id = membershipId ∧ relation row last)
    after.memberships

theorem Written.none {relation : IssueStoryArc → IssueStoryArc → Prop} :
    Written db membershipId relation false db :=
  ⟨rfl, .refl fun _ _ => .inl rfl⟩

theorem Written.row {relation : IssueStoryArc → IssueStoryArc → Prop}
    {change : IssueStoryArc → IssueStoryArc} (keeps : ∀ member, (change member).id = member.id)
    (related : ∀ row ∈ db.memberships.rows, row.id = membershipId → relation row (change row)) :
    Written db membershipId relation true (db.setMembership membershipId change keeps) where
  arcs := rfl
  memberships := Table.moves_of_rows rfl keeps fun row member => by
    split
    · rename_i named
      exact .inr ⟨rfl, named, related row member named⟩
    · exact .inl rfl

/-- Two writes of one entry. -/
theorem Written.trans {mid after : Database}
    {first second whole : IssueStoryArc → IssueStoryArc → Prop} {changed changedNext : Bool}
    (written : Written db membershipId first changed mid)
    (next : Written mid membershipId second changedNext after)
    (left : ∀ row last, first row last → whole row last)
    (right : ∀ row last, second row last → whole row last)
    (both : ∀ row middle last, first row middle → second middle last → whole row last) :
    Written db membershipId whole (changed || changedNext) after where
  arcs := next.arcs.trans written.arcs
  memberships := by
    refine written.memberships.trans next.memberships ?_
    rintro row - middle last (rfl | ⟨changed, named, moved⟩)
      (rfl | ⟨changedNext, namedNext, movedNext⟩)
    · exact .inl rfl
    · exact .inr ⟨by simp [changedNext], namedNext, right _ _ movedNext⟩
    · exact .inr ⟨by simp [changed], named, left _ _ moved⟩
    · exact .inr ⟨by simp [changed], named, both _ _ _ moved movedNext⟩

theorem Written.rejected {mid : Database} {changed : Bool}
    (written : Written db membershipId Renumbered changed mid)
    (plain : ¬ error.Refuses) : Rejected db error mid where
  unchanged := fun refuses => absurd refuses plain
  held :=
    { memberships := written.memberships.mono fun row _ last moved => by
        rcases moved with rfl | ⟨_, _, renumbered⟩
        · exact .refl _
        · exact renumbered
      arcs := by
        rw [written.arcs]
        exact .refl fun row _ => .refl row }

theorem changeField_ends {β γ : Type} [DecidableEq γ] {member : IssueStoryArc}
    {given : Option β} {validate : β → Except StoryArcServiceError γ}
    {field : IssueStoryArc → γ} {write : γ → IssueStoryArc → IssueStoryArc}
    {keeps : ∀ value member, (write value member).id = member.id}
    (renumbers : ∀ value row, Renumbered row (write value row))
    (plain : ∀ value error, validate value = .error error → ¬ error.Refuses) :
    Ends (changeField member given validate field write keeps) db
      (fun changed => Written db member.id Renumbered changed)
      (fun error after => ¬ error.Refuses ∧ after = db) := by
  cases given with
  | none => exact .none
  | some value =>
    rw [changeField, ends_bind, ends_ofExcept]
    refine ⟨fun value _ => ?_, fun error failed => ⟨plain _ _ failed, rfl⟩⟩
    split
    · exact .row _ fun row _ _ => renumbers value row
    · exact .none

theorem validateOrderValue_plain {label : String} (value : OrderValue)
    (error : StoryArcServiceError) (failed : validateOrderValue value label = .error error) :
    ¬ error.Refuses := by
  unfold validateOrderValue at failed
  split at failed
  · split at failed
    · cases failed
      exact id
    · cases failed
  · cases failed
    exact id

theorem normalizeSourceIssueNumber_plain (value : Number) (error : StoryArcServiceError)
    (failed : (normalizeSourceIssueNumber naming value).map some = .error error) :
    ¬ error.Refuses := by
  unfold normalizeSourceIssueNumber at failed
  split at failed
  · cases failed
  · cases failed
    exact id

/-- The entry was skipped, or taken back. -/
def Skipped (arc : StoryArc) (member row last : IssueStoryArc) : Prop :=
  ∃ skipped, last =
    { row with
      resolutionState := nextState member skipped
      syncEligible := nextEligibility arc member skipped }

theorem changeSkipped_ends {arc : StoryArc} {member : IssueStoryArc} {given : Option Bool} :
    Ends (changeSkipped arc member given) db
      (fun changed => Written db member.id (Skipped arc member) changed) raises := by
  cases given with
  | none => exact .none
  | some skipped =>
    unfold changeSkipped
    simp only
    split
    · exact .row _ fun row _ _ => ⟨skipped, rfl⟩
    · exact .none

/-- What `update_membership` wrote to the entry. -/
def Reviewed (arc : StoryArc) (member row last : IssueStoryArc) : Prop :=
  ∃ middle, Renumbered row middle ∧ (last = middle ∨ Skipped arc member middle last)

/-- What an operation on one entry wrote when it returns. -/
structure Edited (db : Database) (membershipId : Nat)
    (relation : StoryArc → IssueStoryArc → IssueStoryArc → Prop) (member : IssueStoryArc)
    (arc : StoryArc) (after : Database) : Prop where
  found : db.memberships.find membershipId = some member
  arcFound : db.arcs.find member.storyArcId = some arc
  active : arc.lifecycle = .active
  rewritten : Rewritten db
    (fun row last => last = row ∨ row.id = membershipId ∧ relation arc row last)
    (fun row last => last = advanced [arc.id] row) after

/-- `update_membership` writes one entry, which advances its arc, or nothing. -/
theorem updateMembership_ends {request : UpdateMembershipRequest Number} :
    Ends (updateMembership naming membershipId request) db
      (fun _ after => (after.arcs = db.arcs ∧ after.memberships = db.memberships) ∨
        ∃ member arc, Edited db membershipId (fun arc => Reviewed arc member) member arc after)
      (Rejected db) := by
  rw [updateMembership, ends_bind, ends_getMembership]
  refine ⟨fun member found => ?_, fun _ => .same⟩
  rw [ends_bind]
  refine ends_getActiveArc (fun arc arcFound active => ?_) fun _ _ => .same
  rw [ends_bind, ends_get, ends_bind, ends_refuseIf]
  refine ⟨fun _ => .same, fun _ => ?_⟩
  rw [ends_bind]
  refine Ends.mono (changeField_ends ?_ validateOrderValue_plain) ?_ ?_
  · exact fun _ _ => rfl
  swap
  · rintro error _ ⟨_, rfl⟩
    exact .same
  intro sequence first written
  rw [ends_bind]
  refine Ends.mono (changeField_ends ?_ validateOrderValue_plain) ?_ ?_
  · exact fun _ _ => rfl
  swap
  · rintro error _ ⟨plain, rfl⟩
    exact written.rejected plain
  intro ordinal second next
  have written := written.trans next (fun _ _ => id) (fun _ _ => id) fun _ _ _ => .trans
  rw [ends_bind]
  refine Ends.mono (changeField_ends ?_ normalizeSourceIssueNumber_plain) ?_ ?_
  · exact fun _ _ => rfl
  swap
  · rintro error _ ⟨plain, rfl⟩
    exact written.rejected plain
  intro number third next
  have written := written.trans next (fun _ _ => id) (fun _ _ => id) fun _ _ _ => .trans
  rw [ends_bind]
  refine changeSkipped_ends.mono ?_ fun _ _ raised => raised
  intro skipped fourth next
  have whole : Written db member.id (Reviewed arc member) (sequence || ordinal || number || skipped)
      fourth :=
    written.trans next (fun row last moved => ⟨last, moved, .inl rfl⟩)
      (fun row last moved => ⟨row, .refl row, .inr moved⟩)
      fun row middle last moved skips => ⟨middle, moved, .inr skips⟩
  cases changed : sequence || ordinal || number || skipped with
  | false =>
    rw [changed] at whole
    refine .inl ⟨whole.arcs, whole.memberships.eq fun row _ last moved => ?_⟩
    rcases moved with same | ⟨changed, _⟩
    · exact same
    · cases changed
  | true =>
    rw [if_pos rfl, ends_advanceRevision]
    refine .inr ⟨member, arc, found, arcFound, active, ?_, ?_⟩
    · refine whole.memberships.mono fun row _ last moved => ?_
      rcases moved with same | ⟨_, named, moved⟩
      · exact .inl same
      · exact .inr ⟨named.trans (Table.key_of_find found), moved⟩
    · rw [← whole.arcs]
      exact rewritten_advanceRevisions.arcs

/-- What `resolve_membership` wrote when it returns, if the entry was not resolved already. -/
structure Resolved (db : Database) (membershipId issueId : Nat) (member : IssueStoryArc)
    (arc : StoryArc) (issue : Issue) (after : Database) : Prop where
  named : issue.id = issueId
  single : ∀ other ∈ db.memberships.rows, other.storyArcId = member.storyArcId →
    other.issueId = some issueId → other.id = member.id
  edited : Edited db membershipId (fun arc row last => last = resolvedMembership arc issue row)
    member arc after

/-- `resolve_membership` writes one entry, which advances its arc, or nothing. -/
theorem resolveMembership_ends {membershipId issueId : Nat} :
    Ends (resolveMembership membershipId issueId) db
      (fun _ after => after = db ∨
        ∃ member arc issue, Resolved db membershipId issueId member arc issue after)
      (Rejected db) := by
  rw [resolveMembership, ends_bind, ends_getMembership]
  refine ⟨fun member found => ?_, fun _ => .same⟩
  rw [ends_bind]
  refine ends_getActiveArc (fun arc arcFound active => ?_) fun _ _ => .same
  rw [ends_bind, ends_getIssue]
  refine ⟨fun issue issueFound => ?_, fun _ => .same⟩
  have provider : Ends (Session.whenSome (providerIssueIdentity member) fun providerId =>
      Session.refuseIf (comicvineText issue ≠ providerId) StoryArcServiceError.providerIdentity) db
      (fun _ after => after = db) (Rejected db) := by
    rw [ends_whenSome]
    refine ⟨fun _ => rfl, fun providerId _ => ?_⟩
    rw [ends_refuseIf]
    exact ⟨fun _ => .same, fun _ => rfl⟩
  rw [ends_bind]
  refine provider.mono ?_ fun _ _ raised => raised
  rintro _ _ rfl
  rw [ends_bind, ends_get, ends_bind, ends_refuseIf]
  refine ⟨fun _ => .same, fun fresh => ?_⟩
  split
  · exact .inl rfl
  rw [ends_bind, ends_refuseManaged]
  refine ⟨fun _ => .same, fun _ => ?_⟩
  rw [ends_bind, ends_writeMembership, ends_advanceRevision]
  have same : member.id = membershipId := Table.key_of_find found
  refine .inr ⟨member, arc, issue, Table.key_of_find issueFound, ?_, found, arcFound, active,
    ?_, ?_⟩
  · intro other inside together names
    by_contra differs
    exact fresh ⟨other, inside, together, names, differs⟩
  · refine Table.moves_of_rows rfl (resolvedMembership_id arc issue) fun row _ => ?_
    split
    · rename_i named
      exact .inr ⟨named.trans same, rfl⟩
    · exact .inl rfl
  · exact rewritten_advanceRevisions.arcs

/-! ### Missing issues -/

/-- The entries that a condition selects are written, and their arcs advance. -/
def WrittenWhere (db : Database) (condition : IssueStoryArc → Bool)
    (write : IssueStoryArc → IssueStoryArc) (after : Database) : Prop :=
  Rewritten db (fun row last => last = if condition row then write row else row)
    (fun row last =>
      last = advanced ((db.memberships.rows.filter condition).map IssueStoryArc.storyArcId) row)
    after

theorem writeMemberships_ends {condition : IssueStoryArc → Bool}
    {write : IssueStoryArc → IssueStoryArc} {keeps : ∀ member, (write member).id = member.id} :
    Ends (writeMemberships condition write keeps) db
      (fun _ => WrittenWhere db condition write) raises := by
  rw [writeMemberships, ends_modify]
  refine ⟨Table.moves_of_rows rfl keeps fun _ _ => rfl, ?_⟩
  exact rewritten_advanceRevisions.arcs

/-- The entry names the issue. -/
def namesIssue (issueId : Nat) (member : IssueStoryArc) : Bool :=
  decide (member.issueId = some issueId)

/-- `detach_deleted_issue` writes the entries of the issue, which advance their arcs. -/
theorem detachDeletedIssue_ends {issueId : Nat} :
    Ends (detachDeletedIssue issueId) db
      (fun _ after => WrittenWhere db (namesIssue issueId)
          (detachedMembership (db.issues.find issueId)) after ∧
        ∀ row ∈ db.memberships.rows, namesIssue issueId row = true →
          db.hasManagedPlacements (.issue issueId) = false)
      (fun error after => db.hasManagedPlacements (.issue issueId) = true ∧
        Rejected db error after) := by
  rw [detachDeletedIssue, ends_bind, ends_get]
  simp only
  split
  · rename_i absent
    have none : ∀ row ∈ db.memberships.rows, namesIssue issueId row = false := by
      intro row member
      rw [List.any_eq_false] at absent
      exact Bool.eq_false_iff.2 (absent row member)
    refine ⟨⟨.refl fun row member => ?_, .refl fun row _ => ?_⟩, fun row member names => ?_⟩
    · simp [none row member]
    · have empty : db.memberships.rows.filter (namesIssue issueId) = [] :=
        List.filter_eq_nil_iff.2 fun row member => by simp [none row member]
      simp [empty, advanced]
    · rw [none row member] at names
      cases names
  · rw [ends_bind, ends_refuseManaged]
    refine ⟨fun managed => ⟨managed, .same⟩, fun free => ?_⟩
    exact writeMemberships_ends.mono (fun _ _ written => ⟨written, fun _ _ _ => free⟩)
      fun _ _ raised => raised

theorem reconcileMissingIssueReferences_ends {arcId : Option Nat} :
    Ends (reconcileMissingIssueReferences arcId) db
      (fun _ => WrittenWhere db (missesIssue arcId)
        fun member => { member with resolutionState := .missing })
      (fun _ _ => False) :=
  writeMemberships_ends

/-! ### Order -/

/-- `reorder_memberships` writes the entries of one arc, which advances. -/
theorem reorderMemberships_ends {ordered : List Nat} {expectedRevision : Int} :
    Ends (reorderMemberships arcId ordered expectedRevision) db
      (fun _ => Rewritten db
        (fun row last => last =
          if row.storyArcId = arcId then placedMembership ordered row else row)
        (fun row last => last = advanced [arcId] row))
      (Rejected db) := by
  rw [reorderMemberships, ends_bind]
  refine ends_getActiveArc (fun arc found _ => ?_) fun _ _ => .same
  rw [ends_bind, assertRevision, ends_refuseIf]
  refine ⟨fun _ => .same, fun _ => ?_⟩
  rw [ends_bind, ends_refuseManaged]
  refine ⟨fun _ => .same, fun _ => ?_⟩
  rw [ends_bind, ends_get, ends_bind, ends_refuseIf]
  refine ⟨fun _ => .same, fun _ => ?_⟩
  rw [ends_bind, ends_modify, ends_advanceRevision]
  have named : arc.id = arcId := Table.key_of_find found
  refine ⟨Table.moves_of_rows rfl (placedMembership_id ordered) fun row _ => ?_, ?_⟩
  · simp
  · rw [named]
    exact rewritten_advanceRevisions.arcs

/-- What `remove_membership` wrote when it returns. -/
structure Removed (db : Database) (member : IssueStoryArc) (after : Database) : Prop where
  inside : member ∈ db.memberships.rows
  memberships : after.memberships = db.memberships.delete member.id
  arcs : db.arcs.Moves (fun row last => last = advanced [member.storyArcId] row) after.arcs

/-- `remove_membership` deletes one entry, which advances its arc. -/
theorem removeMembership_ends :
    Ends (removeMembership membershipId) db
      (fun _ after => ∃ member, Removed db member after) (Rejected db) := by
  rw [removeMembership, ends_bind, ends_getMembership]
  refine ⟨fun member found => ?_, fun _ => .same⟩
  rw [ends_bind]
  refine ends_getActiveArc (fun arc arcFound _ => ?_) fun _ _ => .same
  rw [ends_bind, ends_refuseManaged]
  refine ⟨fun _ => .same, fun _ => ?_⟩
  rw [ends_bind, ends_modify, ends_advanceRevision]
  refine ⟨member, Table.mem_of_find found, rfl, ?_⟩
  rw [← Table.key_of_find arcFound]
  exact rewritten_advanceRevisions.arcs

end Service

end Pullbox.Arc
