import Pullbox.Arc.ReorderPlanBuild

/-!
# What is read back of a plan that was built

Every part of a plan that `_build_plan` returns passes the checks of the reader, but for the places
of its memberships, which come from the database as they are. Where these are not negative the
payload of the plan is read back as the plan, and a payload that was altered is refused.
-/

namespace Pullbox.Arc.ReorderPlan

open List

open Durable (bind_eq_ok mapM_eq_ok_iff exists_left_of_forall₂)
open Migration (PolicyMode PlacementContext)
open Text (Json)

variable {machine : Machine} {tables : Tables} {request : MoveRequest} {plan : SignedPlan}
  {arc : StoryArc} {selected neighbour : IssueStoryArc} {membership : MembershipPlan}
  {one after : PlacementPlan} {plans : List PlacementPlan} {row : StoryArcPlacement}
  {rows : List StoryArcPlacement} {context : PlacementContext}

/-! ### Placements -/

/-- What is planned for a placement of a membership before the temporary paths are derived. -/
structure PlannedFor (membership : MembershipPlan) (one : PlacementPlan) : Prop where
  placementId : 0 ≤ one.placementId
  membershipId : one.membershipId = membership.membershipId
  oldReadingOrder : one.oldReadingOrder = membership.oldSequenceNumber
  newReadingOrder : one.newReadingOrder = membership.newSequenceNumber
  temporaryPath : one.temporaryPath = none

theorem placementPlanFromRow_ok {oldRendered newRendered canonicalPath : Option (List Char)}
    {mode : PolicyMode} {version : Option ℕ}
    (belongs : (row.membershipId : ℤ) = membership.membershipId)
    (built : machine.placementPlanFromRow row membership oldRendered newRendered canonicalPath mode
      version = .ok one) :
    PlannedFor membership one := by
  unfold Machine.placementPlanFromRow at built
  split at built
  · obtain rfl := Except.ok.inj built
    exact ⟨Int.natCast_nonneg _, belongs, rfl, rfl, rfl⟩
  · split at built
    · split at built
      · cases built
      · split at built
        · cases built
        · obtain ⟨_, -, built⟩ := bind_eq_ok.1 built
          obtain rfl := Except.ok.inj built
          exact ⟨Int.natCast_nonneg _, belongs, rfl, rfl, rfl⟩
    · cases built

theorem membershipPlacementPlans_ok
    (belong : ∀ row ∈ rows, (row.membershipId : ℤ) = membership.membershipId)
    (built : machine.membershipPlacementPlans arc context membership rows = .ok plans) :
    (∀ one ∈ plans, PlannedFor membership one) ∧ plans ≠ [] ∧ plans.length ≤ rows.length + 1 := by
  unfold Machine.membershipPlacementPlans at built
  split at built
  · obtain rfl := Except.ok.inj built
    refine ⟨?_, cons_ne_nil _ _, Nat.le_add_left _ _⟩
    intro one inside
    obtain rfl := mem_singleton.1 inside
    exact ⟨le_rfl, rfl, rfl, rfl, rfl⟩
  · rename_i some
    obtain ⟨oldRendered, -, built⟩ := bind_eq_ok.1 built
    obtain ⟨newRendered, -, built⟩ := bind_eq_ok.1 built
    have each := mapM_eq_ok_iff.1 built
    refine ⟨?_, ?_, each.length_eq.symm.le.trans (Nat.le_succ _)⟩
    · intro one inside
      obtain ⟨row, listed, planned⟩ := exists_left_of_forall₂ each inside
      exact placementPlanFromRow_ok (belong row listed) planned
    · rintro rfl
      exact some (forall₂_nil_right_iff.1 each)

/-- Rows that belong to one of two memberships. -/
theorem length_filter_add_le {first second : ℕ} (distinct : first ≠ second)
    (rows : List StoryArcPlacement) :
    (rows.filter (·.membershipId == first)).length +
      (rows.filter (·.membershipId == second)).length ≤ rows.length := by
  rw [length_eq_length_filter_add (l := rows) (·.membershipId == first)]
  refine Nat.add_le_add_left (List.Sublist.length_le (monotone_filter_right _ ?_)) _
  intro row
  simp only [beq_iff_eq, Bool.not_eq_eq_eq_not, Bool.not_true, beq_eq_false_iff_ne]
  rintro rfl
  exact distinct.symm

theorem buildPlacementPlans_ok (distinct : selected.id ≠ neighbour.id)
    (built : machine.buildPlacementPlans tables arc selected neighbour = .ok plans) :
    (∀ one ∈ plans, PlannedFor (membershipPlan selected neighbour) one ∨
      PlannedFor (membershipPlan neighbour selected) one) ∧
      plans ≠ [] ∧ plans.length ≤ maxPlacementsPerAdjacentMove + 2 := by
  unfold Machine.buildPlacementPlans at built
  simp only at built
  split at built
  · cases built
  · rename_i few
    obtain ⟨ofSelected, first, built⟩ := bind_eq_ok.1 built
    obtain ⟨ofNeighbour, second, built⟩ := bind_eq_ok.1 built
    obtain rfl := Except.ok.inj built
    have belong (id : ℕ) : ∀ row ∈ (placementRows tables [selected, neighbour]).filter
        (·.membershipId == id), (row.membershipId : ℤ) = id := by
      intro row inside
      exact congrArg _ (beq_iff_eq.1 (mem_filter.1 inside).2)
    obtain ⟨planned₁, some₁, length₁⟩ := membershipPlacementPlans_ok (belong selected.id) first
    obtain ⟨planned₂, -, length₂⟩ := membershipPlacementPlans_ok (belong neighbour.id) second
    refine ⟨?_, append_ne_nil_of_left_ne_nil some₁ _, ?_⟩
    · intro one inside
      exact (mem_append.1 inside).imp (planned₁ one) (planned₂ one)
    · have shared := length_filter_add_le distinct (placementRows tables [selected, neighbour])
      rw [length_append]
      omega

/-- Only the temporary path of a plan is derived. -/
theorem deriveTemporary_ok (derived : machine.deriveTemporary one = .ok after) :
    ∃ temporaryPath, after = { one with temporaryPath } := by
  unfold Machine.deriveTemporary at derived
  split at derived
  · obtain ⟨temporary, -, derived⟩ := bind_eq_ok.1 derived
    exact ⟨_, (Except.ok.inj derived).symm⟩
  · exact ⟨_, (Except.ok.inj derived).symm⟩

/-! ### Memberships -/

theorem before_irrefl (membership : IssueStoryArc) : before membership membership = false := by
  simp [before]

theorem mem_of_firstMembership {order : IssueStoryArc → IssueStoryArc → Bool}
    {memberships : List IssueStoryArc}
    (found : firstMembership order memberships = some neighbour) :
    neighbour ∈ memberships := by
  induction memberships with
  | nil => cases found
  | cons membership others ih =>
    unfold firstMembership at found
    split at found
    · obtain rfl := Option.some.inj found
      exact mem_cons_self
    · rename_i other first
      split at found
      · exact mem_cons_of_mem _ (ih (first.trans found))
      · obtain rfl := Option.some.inj found
        exact mem_cons_self

/-- The neighbour of a membership is another one. -/
theorem loadAdjacentMembership_ok {direction : ReorderDirection}
    (listed : selected ∈ tables.memberships.rows)
    (found : loadAdjacentMembership tables selected direction = some neighbour) :
    neighbour ∈ tables.memberships.rows ∧ selected.id ≠ neighbour.id := by
  have apart (inside : neighbour ∈ tables.memberships.rows) (other : selected ≠ neighbour) :
      selected.id ≠ neighbour.id :=
    fun same => other (inj_on_of_nodup_map tables.memberships.distinct listed inside same)
  cases direction with
  | up =>
    obtain ⟨inside, chosen⟩ := mem_filter.1 (mem_of_firstMembership found)
    refine ⟨inside, apart inside ?_⟩
    rintro rfl
    rw [before_irrefl, Bool.and_false] at chosen
    cases chosen
  | down =>
    obtain ⟨inside, chosen⟩ := mem_filter.1 (mem_of_firstMembership found)
    refine ⟨inside, apart inside ?_⟩
    rintro rfl
    rw [before_irrefl, Bool.and_false] at chosen
    cases chosen

theorem requestedArc_ok (found : requestedArc tables request = .ok arc) :
    (arc.id : ℤ) = request.storyArcId ∧ (arc.revision : ℤ) = request.expectedRevision := by
  unfold requestedArc at found
  split at found
  · cases found
  · rename_i known listed
    split at found
    · cases found
    · split at found
      · cases found
      · rename_i _ revision
        obtain rfl := Except.ok.inj found
        exact ⟨by simpa using List.find?_some listed, not_not.1 revision⟩

theorem requestedMemberships_ok
    (found : requestedMemberships tables request = .ok (selected, neighbour)) :
    (selected.id : ℤ) = request.membershipId ∧ selected.id ≠ neighbour.id := by
  unfold requestedMemberships at found
  split at found
  · cases found
  · rename_i known listed
    split at found
    · cases found
    · rename_i adjacent beside
      obtain ⟨rfl, rfl⟩ := Prod.mk.inj (Except.ok.inj found)
      have named : (known.id : ℤ) = request.membershipId ∧
          (known.storyArcId : ℤ) = request.storyArcId := by
        simpa using List.find?_some listed
      exact ⟨named.1, (loadAdjacentMembership_ok (mem_of_find?_eq_some listed) beside).2⟩

/-! ### Plans -/

/-- A plan that was built is put together from the rows that the request names. -/
structure BuiltFrom (machine : Machine) (request : MoveRequest) (plan : SignedPlan)
    (arc : StoryArc) (selected neighbour : IssueStoryArc) (plans : List PlacementPlan) : Prop where
  storyArcId : plan.storyArcId = arc.id
  expectedRevision : plan.expectedRevision = arc.revision
  selectedMembershipId : plan.selectedMembershipId = selected.id
  operationToken : plan.operationToken = machine.operationToken
  memberships :
    plan.memberships = [membershipPlan selected neighbour, membershipPlan neighbour selected]
  planned : ∀ one ∈ plans, PlannedFor (membershipPlan selected neighbour) one ∨
    PlannedFor (membershipPlan neighbour selected) one
  some : plans ≠ []
  few : plans.length ≤ maxPlacementsPerAdjacentMove + 2
  placements : List.Forall₂ (fun one after => machine.deriveTemporary one = .ok after) plans
    plan.placements
  digest : plan.planDigest = ReorderPlan.planDigest machine.digester
    (core plan.storyArcId plan.selectedMembershipId plan.direction plan.expectedRevision
      plan.destinationRoot plan.memberships plans)

theorem builtFrom (built : buildPlan machine tables request = .ok plan) :
    ∃ arc selected neighbour plans, BuiltFrom machine request plan arc selected neighbour plans := by
  obtain ⟨arc, foundArc, built₁⟩ := bind_eq_ok.1 built
  obtain ⟨⟨selected, neighbour⟩, foundBoth, built₂⟩ := bind_eq_ok.1 built₁
  obtain ⟨plans, planned, built₃⟩ := bind_eq_ok.1 built₂
  obtain ⟨placements, derived, built₄⟩ := bind_eq_ok.1 built₃
  obtain ⟨_, -, built₅⟩ := bind_eq_ok.1 built₄
  obtain ⟨_, -, built₆⟩ := bind_eq_ok.1 built₅
  obtain rfl := Except.ok.inj built₆
  obtain ⟨storyArcId, revision⟩ := requestedArc_ok foundArc
  obtain ⟨membershipId, distinct⟩ := requestedMemberships_ok foundBoth
  obtain ⟨every, some, few⟩ := buildPlacementPlans_ok distinct planned
  exact ⟨arc, selected, neighbour, plans,
    { storyArcId := storyArcId.symm
      expectedRevision := revision.symm
      selectedMembershipId := membershipId.symm
      operationToken := rfl
      memberships := rfl
      planned := every
      some
      few
      placements := mapM_eq_ok_iff.1 derived
      digest := rfl }⟩

/-- The places of the memberships of a plan are not negative. -/
def SignedPlan.Nonnegative (plan : SignedPlan) : Prop :=
  ∀ one ∈ plan.memberships, 0 ≤ one.oldSequenceNumber ∧ 0 ≤ one.oldSourceOrdinal

namespace BuiltFrom

/-- Without their temporary paths the placements are those that were digested. -/
theorem withoutTemporary
    (origin : BuiltFrom machine request plan arc selected neighbour plans) :
    plan.placements.map PlacementPlan.withoutTemporary = plans := by
  have planned (one : PlacementPlan) (inside : one ∈ plans) : one.temporaryPath = none := by
    rcases origin.planned one inside with first | second
    · exact first.temporaryPath
    · exact second.temporaryPath
  have each := ((forall₂_and_left _ _).2 ⟨planned, origin.placements⟩).flip
  rw [← forall₂_eq_eq_eq, forall₂_map_left_iff]
  refine each.imp fun after one known => ?_
  obtain ⟨none, derived⟩ := known
  obtain ⟨temporaryPath, rfl⟩ := deriveTemporary_ok derived
  rw [PlacementPlan.withoutTemporary, ← none]

/-- The digest of a plan is that of what its reader digests. -/
theorem digest_eq (origin : BuiltFrom machine request plan arc selected neighbour plans) :
    plan.planDigest = ReorderPlan.planDigest machine.digester plan.semantic := by
  rw [SignedPlan.semantic, origin.withoutTemporary]
  exact origin.digest

theorem storable (origin : BuiltFrom machine request plan arc selected neighbour plans)
    (nonnegative : plan.Nonnegative) : plan.Storable := by
  have places := nonnegative
  simp only [SignedPlan.Nonnegative, origin.memberships, forall_mem_cons] at places
  obtain ⟨⟨sequence₁, ordinal₁⟩, ⟨sequence₂, ordinal₂⟩, -⟩ := places
  have positive (membership : IssueStoryArc) : (1 : ℤ) ≤ membership.id :=
    Int.natCast_pos.2 membership.positive
  have lengths := origin.placements.length_eq
  exact
    { storyArcId := origin.storyArcId ▸ Int.natCast_pos.2 arc.positive
      selectedMembershipId := origin.selectedMembershipId ▸ positive selected
      expectedRevision := origin.expectedRevision ▸ Int.natCast_pos.2 arc.revised
      operationToken := origin.operationToken ▸ machine.length_operationToken
      planDigest := origin.digest ▸ machine.digester.length_sha256 _
      memberships := by rw [origin.memberships]; rfl
      placements := by
        intro none
        rw [none, length_nil, length_eq_zero_iff] at lengths
        exact origin.some lengths
      bounded := lengths ▸ origin.few
      everyMembership := by
        intro one inside
        rw [origin.memberships, mem_cons, mem_singleton] at inside
        rcases inside with rfl | rfl
        · exact ⟨positive selected, sequence₁, ordinal₁, sequence₂, ordinal₂⟩
        · exact ⟨positive neighbour, sequence₂, ordinal₂, sequence₁, ordinal₁⟩
      everyPlacement := by
        intro after inside
        obtain ⟨one, listed, derived⟩ := exists_left_of_forall₂ origin.placements inside
        obtain ⟨temporaryPath, rfl⟩ := deriveTemporary_ok derived
        rcases origin.planned one listed with planned | planned
        · exact ⟨planned.placementId, planned.membershipId ▸ positive selected,
            planned.oldReadingOrder ▸ sequence₁, planned.newReadingOrder ▸ sequence₂⟩
        · exact ⟨planned.placementId, planned.membershipId ▸ positive neighbour,
            planned.oldReadingOrder ▸ sequence₂, planned.newReadingOrder ▸ sequence₁⟩ }

end BuiltFrom

/-- A plan that was built for places that are not negative is read back from its payload, and a
payload that was altered in what the reorder depends on, temporary paths apart, is refused unless
the digest of what it says is that of the plan by accident. -/
theorem buildPlan_payload (built : buildPlan machine tables request = .ok plan)
    (nonnegative : plan.Nonnegative) :
    planFromPayload machine.digester (planToPayload plan) = .ok plan ∧
      ∀ payload, Altered plan payload →
        (∀ other, readPlan payload = .ok other →
          machine.digester.Separates other.semantic plan.semantic) →
        ∃ error, planFromPayload machine.digester payload = .error error := by
  obtain ⟨arc, selected, neighbour, plans, origin⟩ := builtFrom built
  refine ⟨planFromPayload_planToPayload (origin.storable nonnegative) origin.digest_eq, ?_⟩
  intro payload altered separate
  exact planFromPayload_altered origin.digest_eq altered separate

/-! ### A story arc with two memberships -/

/-- A membership of a story arc at this place. -/
def crisisEntry (id : ℕ) (positive : 0 < id) (place : ℤ) : IssueStoryArc where
  context :=
    { membershipId := id
      storyArcId := 1
      sequenceNumber := place
      issueNumberText := ['1']
      storyArcName := "Crisis".toList
      seriesName := "Wizard".toList
      publisherName := none
      issueTitle := none
      year := none
      seriesStartYear := none
      seriesEndYear := none
      libraryFileId := none
      canonicalPath := none
      extension := "cbz".toList }
  sourceOrdinal := 1
  positive

/-- A copy of the first issue. -/
def crisisCopy : StoryArcPlacement where
  id := 21
  membershipId := 11
  ownership := .managed
  mode := .copy
  placementPath := "/arcs/Crisis/001 - Wizard 1.cbz".toList
  renderedReadingOrder := some 1
  policySchemaVersion := some 1
  operationToken := none
  sourceFingerprint := [("size", .integer 3)]
  state := .current
  lastResult :=
    [("status", .text "complete"), ("target_fingerprint", .object [("size", .integer 3)])]

def crisisArc : StoryArc where
  id := 1
  archived := false
  revision := 1
  policySchemaVersion := some 1
  policy :=
    { mode := .copy
      destinationRoot := some "/arcs".toList
      folderTemplate := Naming.defaultStoryArcFolderTemplate
      fileTemplate := Naming.defaultStoryArcFileTemplate
      symlinkStyle := none }
  positive := Nat.one_pos
  revised := Nat.one_pos

/-- Two memberships one after the other, of which the first may have a placement. -/
def crisisTables (place : ℤ) (placement : Option StoryArcPlacement) : Tables where
  arcs := { rows := [crisisArc], distinct := nodup_singleton _ }
  memberships :=
    { rows := [crisisEntry 11 (by decide) place, crisisEntry 12 (by decide) (place + 1)]
      distinct := by
        show [11, 12].Nodup
        decide }
  placements :=
    { rows := placement.toList
      distinct := by cases placement <;> simp }
  libraryFiles := []

/-- The digests of the plans below, which differ in their lengths. -/
def crisisDigest (size : ℕ) : String :=
  if size = 1213 then "431fc318308f247c0dea15b31a455961e16cebe2448de377ab80950207d167e4"
  else if size = 1214 then "310211346458edae48d8b1600e4ac988118e586e3321ab7e2b55762c23f8008e"
  else "716dc2eb43c8eb8f36927941aeba8e07acdec1e44792756b8cd7f372fc7b091c"

def crisisMachine : Machine where
  digester :=
    { floats := .fraction
      sha256 := fun text => crisisDigest text.length
      length_sha256 := by
        intro text
        unfold crisisDigest
        split_ifs <;> decide }
  workingFolder := ['/']
  operationToken := "0123456789abcdef0123456789abcdef"
  length_operationToken := by decide
  pathExists path := path == crisisCopy.placementPath
  validateRemovalRepresentation _ _ := .ok ()
  matchesFingerprint _ _ := .ok true
  caseOnlyCollision _ := .ok none

def moveDown : MoveRequest where
  storyArcId := 1
  membershipId := 11
  direction := .down
  expectedRevision := 1

/-- The plan, and the lengths of what is digested of it and of one for a tenth revision. -/
theorem crisisPlan_built :
    ∃ plan, buildPlan crisisMachine (crisisTables 1 (some crisisCopy)) moveDown = .ok plan ∧
      plan.Nonnegative ∧ plan.expectedRevision = 1 ∧
        plan.placements.map PlacementPlan.temporaryPath =
          [some "/arcs/Crisis/.pullbox-story-arc-reorder-0123456789ab-21.tmp", none] ∧
        (Text.canonical .fraction plan.semantic).length = 1213 ∧
        (Text.canonical .fraction ({ plan with expectedRevision := 10 } : SignedPlan).semantic).length =
          1214 := by
  have evaluated :
      (buildPlan crisisMachine (crisisTables 1 (some crisisCopy)) moveDown).map
        (fun plan => (plan.memberships, plan.expectedRevision,
          plan.placements.map PlacementPlan.temporaryPath,
          (Text.canonical .fraction plan.semantic).length,
          (Text.canonical .fraction
            ({ plan with expectedRevision := 10 } : SignedPlan).semantic).length)) =
        .ok ([⟨11, 1, 1, 2, 1⟩, ⟨12, 2, 1, 1, 1⟩], 1,
          [some "/arcs/Crisis/.pullbox-story-arc-reorder-0123456789ab-21.tmp", none], 1213,
          1214) := by
    decide +kernel
  obtain ⟨plan, built, same⟩ := Durable.of_map_ok evaluated
  simp only [Prod.mk.injEq] at same
  refine ⟨plan, built, ?_, same.2⟩
  rw [SignedPlan.Nonnegative, same.1]
  decide

/-- A plan is read back from its payload, and not with another revision. -/
theorem crisisPlan_payload :
    ∃ plan, buildPlan crisisMachine (crisisTables 1 (some crisisCopy)) moveDown = .ok plan ∧
      planFromPayload crisisMachine.digester (planToPayload plan) = .ok plan ∧
      ∃ error, planFromPayload crisisMachine.digester
        (planToPayload { plan with expectedRevision := 10 }) = .error error := by
  obtain ⟨plan, built, nonnegative, revision, -, length, otherLength⟩ := crisisPlan_built
  obtain ⟨arc, selected, neighbour, plans, origin⟩ := builtFrom built
  have read : readPlan (planToPayload { plan with expectedRevision := 10 }) =
      .ok { plan with expectedRevision := 10 } :=
    readPlan_planToPayload { origin.storable nonnegative with
      expectedRevision := (by decide : (1 : ℤ) ≤ 10) }
  obtain ⟨back, refused⟩ := buildPlan_payload built nonnegative
  refine ⟨plan, built, back, refused _ ⟨rfl, "expected_revision", by decide, ?_⟩ ?_⟩
  · show some (Json.integer 10) ≠ some (Json.integer plan.expectedRevision)
    rw [revision]
    exact fun same => absurd (Json.integer.inj (Option.some.inj same)) (by decide)
  · intro other found digests
    obtain rfl := Except.ok.inj (found.symm.trans read)
    have same : crisisDigest 1214 = crisisDigest 1213 := by
      rw [← length, ← otherLength]
      exact digests
    exact absurd same (by decide)

/-- A plan for a place below zero is not read back, and a plan whose temporary path was changed to
that of another file is. -/
theorem crisisPlan_refused_and_changed :
    (∃ plan, buildPlan crisisMachine (crisisTables (-1) none) moveDown = .ok plan ∧
      planFromPayload crisisMachine.digester (planToPayload plan) =
        .error (.valueError "nonnegative integer required")) ∧
      ∃ plan other, buildPlan crisisMachine (crisisTables 1 (some crisisCopy)) moveDown = .ok plan ∧
        plan.placements.map PlacementPlan.temporaryPath =
          [some "/arcs/Crisis/.pullbox-story-arc-reorder-0123456789ab-21.tmp", none] ∧
        other.placements.map PlacementPlan.temporaryPath =
          [some "/arcs/Crisis/003 - Wizard 1.cbz", none] ∧
        planFromPayload crisisMachine.digester (planToPayload other) = .ok other := by
  constructor
  · have evaluated : (buildPlan crisisMachine (crisisTables (-1) none) moveDown).map
        (fun plan => (planFromPayload crisisMachine.digester (planToPayload plan)).map
          fun _ => ()) = .ok (.error (.valueError "nonnegative integer required")) := by
      decide +kernel
    obtain ⟨plan, built, refused⟩ := Durable.of_map_ok evaluated
    refine ⟨plan, built, ?_⟩
    cases read : planFromPayload crisisMachine.digester (planToPayload plan) with
    | error error =>
      rw [read] at refused
      exact congrArg Except.error (Except.error.inj refused)
    | ok other =>
      rw [read] at refused
      cases refused
  · obtain ⟨plan, built, nonnegative, -, paths, -, -⟩ := crisisPlan_built
    obtain ⟨arc, selected, neighbour, plans, origin⟩ := builtFrom built
    let elsewhere (one : PlacementPlan) : Option String :=
      one.temporaryPath.map fun _ => "/arcs/Crisis/003 - Wizard 1.cbz"
    refine ⟨plan, plan.withTemporaryPaths elsewhere, built, paths, ?_,
      planFromPayload_withTemporaryPaths (origin.storable nonnegative) origin.digest_eq elsewhere⟩
    have changed : (plan.withTemporaryPaths elsewhere).placements.map PlacementPlan.temporaryPath =
        (plan.placements.map PlacementPlan.temporaryPath).map
          (Option.map fun _ => "/arcs/Crisis/003 - Wizard 1.cbz") := by
      rw [SignedPlan.withTemporaryPaths, map_map, map_map]
      rfl
    rw [changed, paths]
    rfl

end Pullbox.Arc.ReorderPlan
