import Pullbox.Arc.Eligibility
import Pullbox.Durable.Reachable

/-!
# Runs of the story-arc service

Operations in any order, each of them in the session of a caller that may go on after an
exception or roll back to where the operation began. Between them issues and placements
change, and the issue of an entry may be deleted, which clears the reference to it.
-/

namespace Pullbox.Arc

open Durable
open Durable.Session (Ends)
open Database (Accepts Raises)

/-- The operations on arcs, with their arguments. -/
inductive Operation (Number : Type) where
  | create (request : Service.CreateRequest)
  | update (arcId : Nat) (request : Service.UpdateRequest)
  | archive (arcId : Nat) (expectedRevision : Int)
  | addMembership (arcId : Nat) (request : Service.AddRequest Number)
  | updateMembership (membershipId : Nat) (request : Service.UpdateMembershipRequest Number)
  | resolveMembership (membershipId issueId : Nat)
  | detachDeletedIssue (issueId : Nat)
  | reconcileMissingIssueReferences (arcId : Option Nat)
  | reorderMemberships (arcId : Nat) (ordered : List Nat) (expectedRevision : Int)
  | removeMembership (membershipId : Nat)

variable {Number : Type} (naming : Naming Number)

namespace Operation

def run : Operation Number → Service PUnit
  | .create request => Service.create naming request
  | .update arcId request => Service.update naming arcId request
  | .archive arcId expectedRevision => Service.archive arcId expectedRevision
  | .addMembership arcId request => Service.addMembership naming arcId request
  | .updateMembership membershipId request =>
    Service.updateMembership naming membershipId request
  | .resolveMembership membershipId issueId => Service.resolveMembership membershipId issueId
  | .detachDeletedIssue issueId => Service.detachDeletedIssue issueId
  | .reconcileMissingIssueReferences arcId => Service.reconcileMissingIssueReferences arcId
  | .reorderMemberships arcId ordered expectedRevision =>
    Service.reorderMemberships arcId ordered expectedRevision
  | .removeMembership membershipId => Service.removeMembership membershipId

/-- The operation marks no entry without an issue, and takes the issue of no marked one. -/
def Spares (db : Database) : Operation Number → Prop
  | .update arcId request => Service.SparesUpdate naming db arcId request
  | .detachDeletedIssue issueId =>
    db.hasManagedPlacements (.issue issueId) = false → db.SparesIssue issueId
  | _ => True

end Operation

/-- What happens to the database. -/
inductive Event (Number : Type) where
  /-- After an exception the caller may roll back. -/
  | call (operation : Operation Number) (rollsBack : Bool)
  /-- `ON DELETE SET NULL`. -/
  | issueDeleted (issueId : Nat)
  /-- The rest of the program writes issues and placements. -/
  | outside (issues : Sql.Table Issue Issue.id)
      (placements : Sql.Table StoryArcPlacement StoryArcPlacement.id)

/-- An issue is deleted, with the references to it. -/
def Database.deleteIssue (db : Database) (issueId : Nat) : Database :=
  { db with
    memberships := db.memberships.update (Service.namesIssue issueId)
      (fun member => { member with issueId := none }) fun _ => rfl
    issues := db.issues.delete issueId }

/-- The database after an event. -/
def Event.apply (event : Event Number) (db : Database) : Database :=
  match event with
  | .call operation rollsBack =>
    match (operation.run naming).run db with
    | .ok _ after => after
    | .error _ after => if rollsBack then db else after
  | .issueDeleted issueId => db.deleteIssue issueId
  | .outside issues placements => { db with issues := issues, placements := placements }

/-- One step of a run. -/
def Step (event : Event Number) (db after : Database) : Prop :=
  after = event.apply naming db

/-- An event after which every marked entry still has its issue. -/
def Event.Spares (event : Event Number) (db : Database) : Prop :=
  match event with
  | .call operation _ => operation.Spares naming db
  | .issueDeleted issueId => db.SparesIssue issueId
  | .outside _ _ => True

variable {naming} {db after : Database}

/-! ### One operation -/

/-- What an operation leaves when it returns. -/
structure Operation.Returned (naming : Naming Number) (operation : Operation Number)
    (db after : Database) : Prop where
  accepts : Accepts db after
  sound : db.Sound → (after.Sound ↔ operation.Spares naming db)

/-- What an operation leaves when it raises. -/
structure Operation.Raised (naming : Naming Number) (operation : Operation Number)
    (db : Database) (error : StoryArcServiceError) (after : Database) : Prop where
  rejected : Rejected db error after
  spares : operation.Spares naming db

theorem Database.Accepts.same (referenced : db.Referenced) (single : db.Single) :
    Accepts db db :=
  ⟨referenced, single, Database.raises_of_rows rfl⟩

/-- The arcs may have advanced, and no entry was written. -/
theorem Database.Accepts.of_tables (arcs : after.arcs = db.arcs)
    (memberships : after.memberships = db.memberships) (referenced : db.Referenced)
    (single : db.Single) : Accepts db after := by
  cases db
  cases after
  cases arcs
  cases memberships
  exact ⟨referenced, single, Database.raises_of_rows rfl⟩

theorem Database.Sound.of_tables (arcs : after.arcs = db.arcs)
    (memberships : after.memberships = db.memberships) (sound : db.Sound) : after.Sound := by
  cases db
  cases after
  cases arcs
  cases memberships
  exact sound

open Service in
/-- Every operation, by its own lemma. -/
theorem Operation.ends (operation : Operation Number) (referenced : db.Referenced)
    (single : db.Single) :
    Ends (operation.run naming) db (fun _ => operation.Returned naming db)
      (operation.Raised naming db) := by
  have same : Accepts db db := .same referenced single
  cases operation with
  | create request =>
    refine create_ends.mono ?_ fun _ _ rejected => ⟨rejected, trivial⟩
    rintro _ later ⟨name, normalizedName, created⟩
    exact ⟨created_accepts created referenced single,
      fun sound => iff_of_true (created_sound created sound) trivial⟩
  | update arcId request =>
    refine update_ends.mono ?_ ?_
    · intro _ later updated
      exact ⟨updated.accepts referenced single, updated.sound_iff referenced⟩
    · rintro error later ⟨refused, rejected⟩
      exact ⟨rejected, fun enables => absurd enables refused⟩
  | archive arcId expectedRevision =>
    refine archive_ends.mono ?_ fun _ _ rejected => ⟨rejected, trivial⟩
    rintro _ later (rfl | archived)
    · exact ⟨same, fun sound => iff_of_true sound trivial⟩
    · exact ⟨archived_accepts archived referenced single,
        fun sound => iff_of_true (archived_sound archived referenced sound) trivial⟩
  | addMembership arcId request =>
    refine addMembership_ends.mono ?_ fun _ _ rejected => ⟨rejected, trivial⟩
    rintro _ later (rfl | ⟨arc, added⟩)
    · exact ⟨same, fun sound => iff_of_true sound trivial⟩
    · exact ⟨added.accepts referenced single,
        fun sound => iff_of_true (added.sound sound) trivial⟩
  | updateMembership membershipId request =>
    refine updateMembership_ends.mono ?_ fun _ _ rejected => ⟨rejected, trivial⟩
    rintro _ later (⟨arcs, memberships⟩ | ⟨member, arc, edited⟩)
    · exact ⟨.of_tables arcs memberships referenced single,
        fun sound => iff_of_true (.of_tables arcs memberships sound) trivial⟩
    · exact ⟨reviewed_accepts edited referenced single,
        fun sound => iff_of_true (reviewed_sound edited referenced sound) trivial⟩
  | resolveMembership membershipId issueId =>
    refine resolveMembership_ends.mono ?_ fun _ _ rejected => ⟨rejected, trivial⟩
    rintro _ later (rfl | ⟨member, arc, issue, resolved⟩)
    · exact ⟨same, fun sound => iff_of_true sound trivial⟩
    · exact ⟨resolved.accepts referenced single,
        fun sound => iff_of_true (resolved.sound referenced sound) trivial⟩
  | detachDeletedIssue issueId =>
    refine detachDeletedIssue_ends.mono ?_ ?_
    · rintro _ later ⟨written, free⟩
      refine ⟨writtenWhere_accepts written (fun _ => rfl) (fun _ => .inr rfl) referenced single,
        fun sound => ?_⟩
      rw [detached_sound_iff written referenced sound]
      refine ⟨fun spares _ => spares, fun spares row inside names => ?_⟩
      have unmanaged := free row inside (by simp [namesIssue, names])
      exact spares unmanaged row inside names
    · rintro error later ⟨managed, rejected⟩
      refine ⟨rejected, fun free => ?_⟩
      rw [managed] at free
      cases free
  | reconcileMissingIssueReferences only =>
    refine reconcileMissingIssueReferences_ends.mono ?_ fun _ _ raised => raised.elim
    intro _ later written
    exact ⟨writtenWhere_accepts written (fun _ => rfl) (fun _ => .inl rfl) referenced single,
      fun sound => iff_of_true (reconciled_sound written referenced sound) trivial⟩
  | reorderMemberships arcId ordered expectedRevision =>
    refine reorderMemberships_ends.mono ?_ fun _ _ rejected => ⟨rejected, trivial⟩
    intro _ later reordered
    exact ⟨reordered_accepts reordered referenced single,
      fun sound => iff_of_true (reordered_sound reordered referenced sound) trivial⟩
  | removeMembership membershipId =>
    refine removeMembership_ends.mono ?_ fun _ _ rejected => ⟨rejected, trivial⟩
    rintro _ later ⟨member, removed⟩
    exact ⟨removed.accepts referenced single,
      fun sound => iff_of_true (removed.sound sound) trivial⟩

/-! ### Runs -/

/-- What holds between two events whatever they are. -/
structure Database.Linked (db : Database) : Prop where
  referenced : db.Referenced
  single : db.Single

/-- The rows a run starts with. -/
structure Database.Initial (db : Database) : Prop where
  linked : db.Linked
  sound : db.Sound

/-- An operation that raised left every entry with its arc, its issue and its mark. -/
theorem Rejected.linked {error : StoryArcServiceError} (rejected : Rejected db error after)
    (linked : db.Linked) : after.Linked where
  referenced := rejected.held.referenced linked.referenced fun row last moved => by rw [moved]
  single := rejected.held.single linked.single (fun row last moved => by rw [moved])
    fun row last moved => .inl (by rw [moved])

theorem Rejected.sound {error : StoryArcServiceError} (rejected : Rejected db error after)
    (linked : db.Linked) (sound : db.Sound) : after.Sound := by
  refine rejected.held.sound linked.referenced sound (fun row last moved => by rw [moved]) ?_
  intro row inside last moved eligible arc lastArc found arcMoved before
  rw [moved] at eligible ⊢
  rw [arcMoved]
  have fits := before eligible
  exact ⟨fits.resolved, fits.issue, fits.reviewed, fits.active, fits.enabled⟩

theorem deleteIssue_moves {issueId : Nat} :
    Rewritten db
      (fun row last => last =
        if Service.namesIssue issueId row = true then { row with issueId := none } else row)
      (fun row last => last = row) (db.deleteIssue issueId) where
  memberships := Sql.Table.moves_of_rows rfl (fun _ => rfl) fun _ _ => rfl
  arcs := .refl fun _ _ => rfl

theorem deleteIssue_linked {issueId : Nat} (linked : db.Linked) :
    (db.deleteIssue issueId).Linked where
  referenced := deleteIssue_moves.referenced linked.referenced fun row last moved => by
    rw [moved]
    split <;> rfl
  single := by
    refine deleteIssue_moves.single linked.single (fun row last moved => ?_) ?_
    · rw [moved]
      split <;> rfl
    · rintro row last rfl
      split
      · exact .inr rfl
      · exact .inl rfl

theorem deleteIssue_sound_iff {issueId : Nat} (linked : db.Linked) (sound : db.Sound) :
    (db.deleteIssue issueId).Sound ↔ db.SparesIssue issueId := by
  constructor
  · intro later row inside names
    have moves : db.memberships.Moves _ (db.deleteIssue issueId).memberships :=
      deleteIssue_moves.memberships
    obtain ⟨last, lastInside, _, moved⟩ := moves.target inside
    rw [if_pos (by simp [Service.namesIssue, names])] at moved
    subst moved
    by_contra marked
    obtain ⟨_, _, fits⟩ := later _ lastInside (by simpa using marked)
    exact absurd fits.issue (by simp)
  · intro spares
    refine deleteIssue_moves.sound linked.referenced sound (fun row last moved => ?_) ?_
    · rw [moved]
      split <;> rfl
    · rintro row inside last rfl eligible arc lastArc found rfl before
      by_cases names : Service.namesIssue issueId row = true
      · rw [if_pos names] at eligible
        have unmarked := spares row inside (of_decide_eq_true names)
        rw [unmarked] at eligible
        cases eligible
      · rw [if_neg names] at eligible ⊢
        exact before eligible

/-- A call returned, or it raised and its caller rolled back or went on. -/
theorem Event.call_cases (operation : Operation Number) (rollsBack : Bool) (linked : db.Linked) :
    operation.Returned naming db ((Event.call operation rollsBack).apply naming db) ∨
      ∃ error later, operation.Raised naming db error later ∧
        ((Event.call operation rollsBack).apply naming db = db ∨
          (Event.call operation rollsBack).apply naming db = later) := by
  have ends : Ends (operation.run naming) db _ _ :=
    operation.ends linked.referenced linked.single
  simp only [Event.apply]
  split
  · rename_i value later result
    exact .inl (ends.ok result)
  · rename_i error later result
    refine .inr ⟨error, later, ends.error result, ?_⟩
    cases rollsBack with
    | true => exact .inl rfl
    | false => exact .inr rfl

/-- Every event keeps the arcs of the entries, and their issues apart. -/
theorem Event.linked (event : Event Number) (linked : db.Linked) :
    (event.apply naming db).Linked := by
  cases event with
  | call operation rollsBack =>
    rcases Event.call_cases operation rollsBack linked with
      returned | ⟨error, later, raised, back | on⟩
    · exact ⟨returned.accepts.referenced, returned.accepts.single⟩
    · rw [back]
      exact linked
    · rw [on]
      exact raised.rejected.linked linked
  | issueDeleted issueId => exact deleteIssue_linked linked
  | outside issues placements => exact ⟨linked.referenced, linked.single⟩

/-- The marked entries stay sound exactly over the events that spare them. -/
theorem Event.sound_iff (event : Event Number) (linked : db.Linked) (sound : db.Sound) :
    (event.apply naming db).Sound ↔ event.Spares naming db := by
  cases event with
  | call operation rollsBack =>
    rcases Event.call_cases operation rollsBack linked with
      returned | ⟨error, later, raised, back | on⟩
    · exact returned.sound sound
    · rw [back]
      exact iff_of_true sound raised.spares
    · rw [on]
      exact iff_of_true (raised.rejected.sound linked sound) raised.spares
  | issueDeleted issueId => exact deleteIssue_sound_iff linked sound
  | outside issues placements => exact iff_of_true sound trivial

/-- The rows refer to one another as they should in every run. -/
theorem run_linked (run : Reachable Database.Initial (fun _ _ => True) (Step naming) db) :
    db.Linked := by
  refine run.invariant (fun _ initial => initial.linked) ?_
  rintro event before _ linked _ rfl
  exact event.linked linked

/-- What an operation does to the database it is called on. -/
structure Operation.Coherent (naming : Naming Number) (operation : Operation Number)
    (db : Database) : Prop where
  /-- The arcs of the entries that an accepted operation changes advance. -/
  raises : ∀ value after, (operation.run naming).run db = .ok value after → Raises db after
  /-- A stale revision or a managed placement refuses it before it writes. -/
  unchanged : ∀ error after, (operation.run naming).run db = .error error after →
    error.Refuses → after = db

/-- In every run no arc has two entries of one issue, an accepted change of entries advances
the revision, and a refusal changes nothing. As long as no issue of a marked entry is detached
or deleted, and no update enables an entry that is resolved to a deleted issue, the marked
entries are those that may be synchronized. -/
theorem memberships_sound :
    (∀ db, Reachable Database.Initial (fun _ _ => True) (Step naming) db →
      db.Single ∧ ∀ operation : Operation Number, operation.Coherent naming db) ∧
    ∀ db, Reachable Database.Initial (Event.Spares naming) (Step naming) db → db.Sound := by
  constructor
  · intro db run
    have linked := run_linked run
    refine ⟨linked.single, fun operation => ?_⟩
    have ends : Ends (operation.run naming) db _ _ :=
      operation.ends linked.referenced linked.single
    exact ⟨fun value after result => (ends.ok result).accepts.raises,
      fun error after result => (ends.error result).rejected.unchanged⟩
  · intro db run
    have held : db.Initial := by
      refine run.invariant (fun _ initial => initial) ?_
      rintro event before _ held spares rfl
      exact ⟨event.linked held.linked, (event.sound_iff held.linked held.sound).2 spares⟩
    exact held.sound

/-! ### Runs from an empty database -/

def emptyDatabase : Database where
  arcs := { rows := [], distinct := List.nodup_nil }
  memberships := { rows := [], distinct := List.nodup_nil }
  issues := { rows := [], distinct := List.nodup_nil }
  placements := { rows := [], distinct := List.nodup_nil }

/-- The database after some events. -/
def databaseAfter (naming : Naming Number) (events : List (Event Number)) : Database :=
  events.foldl (fun db event => event.apply naming db) emptyDatabase

theorem emptyDatabase_initial : emptyDatabase.Initial := by
  refine ⟨⟨fun member inside => ?_, fun first inside => ?_⟩, fun member inside => ?_⟩
  · cases inside
  · cases inside
  · cases inside

theorem databaseAfter_reachable {allowed : Event Number → Database → Prop}
    (events : List (Event Number)) (free : ∀ event ∈ events, ∀ db, allowed event db) :
    Reachable Database.Initial allowed (Step naming) (databaseAfter naming events) := by
  have onward (start : Database)
      (reached : Reachable Database.Initial allowed (Step naming) start) :
      Reachable Database.Initial allowed (Step naming)
        (events.foldl (fun db event => event.apply naming db) start) := by
    induction events generalizing start with
    | nil => exact reached
    | cons event rest ih =>
      refine ih (fun other inside => free other (List.mem_cons_of_mem _ inside)) _ ?_
      exact .next reached (free event List.mem_cons_self start) rfl
  exact onward emptyDatabase (.start emptyDatabase_initial)

/-- Names and numbers that are their own normal forms. -/
def plainNaming : Naming String where
  normalizeStoryArcName name := .ok name
  normalizeIssueNumberText number := .ok number

def sampleIssues : Sql.Table Issue Issue.id where
  rows := [{ id := 7, comicvineId := some 4000, effectiveIssueNumberText := "1" }]
  distinct := by simp

/-- An arc that is synchronized gets its first entry. -/
def enabledRun : List (Event String) :=
  [.outside sampleIssues emptyDatabase.placements,
    .call (.create { name := "civil war", syncEnabled := true }) true,
    .call (.addMembership 1 { issueId := some 7, sequenceNumber := .int 1 }) true]

/-- Enabling synchronization makes a membership eligible, and stays sound. -/
theorem memberships_sound_enabled :
    (databaseAfter plainNaming enabledRun).Sound ∧
      (databaseAfter plainNaming enabledRun).Single ∧
      ∃ member ∈ (databaseAfter plainNaming enabledRun).memberships.rows,
        member.syncEligible = true := by
  refine ⟨memberships_sound.2 _ (databaseAfter_reachable enabledRun ?_),
    (memberships_sound.1 _ (databaseAfter_reachable enabledRun fun _ _ _ => trivial)).1,
    by decide +kernel⟩
  intro event inside db
  simp only [enabledRun, List.mem_cons, List.not_mem_nil, or_false] at inside
  rcases inside with rfl | rfl | rfl <;> trivial

/-- The issue of the entry is detached, and the arc is archived. -/
def detachedRun : List (Event String) :=
  enabledRun ++ [.call (.detachDeletedIssue 7) true, .call (.archive 1 3) true]

/-- A marked entry of an archived arc has no issue. -/
theorem detached_marked :
    ∃ db, Reachable Database.Initial (fun _ _ => True) (Step plainNaming) db ∧ ¬ db.Sound := by
  refine ⟨databaseAfter plainNaming detachedRun,
    databaseAfter_reachable detachedRun fun _ _ _ => trivial, fun sound => ?_⟩
  have marked : ∃ member ∈ (databaseAfter plainNaming detachedRun).memberships.rows,
      member.syncEligible = true ∧ member.issueId = none := by decide +kernel
  obtain ⟨member, inside, eligible, none⟩ := marked
  obtain ⟨arc, _, fits⟩ := sound member inside eligible
  have issue := fits.issue
  rw [none] at issue
  cases issue

end Pullbox.Arc
