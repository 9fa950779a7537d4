import Pullbox.Arc.ReorderPlan
import Pullbox.Durable.Results

/-!
# Reading a payload back

A plan that satisfies what the reader checks is read back from its payload, and what is read from
any payload is written back as it stood there. Two payloads that are accepted under one digest
therefore differ in nothing that is digested.
-/

namespace Pullbox.Arc.ReorderPlan

open List

open Text (Json)
open Durable (bind_eq_ok mapM_eq_ok_iff)

variable {raw value : Json} {entries : Dict} {key text message : String} {number : Int}
  {plan other : SignedPlan} {digester : Digester}

/-! ### Scalars -/

theorem ok_bind {α β : Type} (found : α) (next : α → Except PayloadError β) :
    (Except.ok found >>= next) = next found :=
  rfl

theorem positiveInt_integer (positive : 1 ≤ number) :
    positiveInt (.integer number) = .ok number := by
  unfold positiveInt
  exact if_neg (Int.not_lt.2 positive)

theorem nonnegativeInt_integer (nonnegative : 0 ≤ number) :
    nonnegativeInt (.integer number) = .ok number := by
  unfold nonnegativeInt
  exact if_neg (Int.not_lt.2 nonnegative)

theorem optionalString_optionalText (value : Option String) :
    optionalString message (optionalText value) = .ok value := by
  cases value <;> rfl

theorem fixedString_text {length : Nat} (fixed : text.length = length) :
    fixedString length (.text text) = .ok text := by
  show (if text.length = length then Except.ok text else _) = _
  exact if_pos fixed

theorem positiveInt_ok (read : positiveInt value = .ok number) :
    value = .integer number ∧ 1 ≤ number := by
  cases value with
  | integer known =>
    simp only [positiveInt] at read
    split at read
    · cases read
    · rename_i positive
      obtain rfl := Except.ok.inj read
      exact ⟨rfl, Int.not_lt.1 positive⟩
  | null | boolean _ | real _ | text _ | array _ | object _ => cases read

theorem nonnegativeInt_ok (read : nonnegativeInt value = .ok number) :
    value = .integer number ∧ 0 ≤ number := by
  cases value with
  | integer known =>
    simp only [nonnegativeInt] at read
    split at read
    · cases read
    · rename_i nonnegative
      obtain rfl := Except.ok.inj read
      exact ⟨rfl, Int.not_lt.1 nonnegative⟩
  | null | boolean _ | real _ | text _ | array _ | object _ => cases read

theorem string_ok (read : string value = .ok text) : value = .text text := by
  cases value with
  | text known =>
    obtain rfl := Except.ok.inj read
    rfl
  | null | boolean _ | integer _ | real _ | array _ | object _ => cases read

theorem fixedString_ok {length : Nat} (read : fixedString length value = .ok text) :
    value = .text text ∧ text.length = length := by
  obtain ⟨known, isText, checked⟩ := bind_eq_ok.1 read
  split at checked
  · rename_i fixed
    obtain rfl := Except.ok.inj checked
    exact ⟨string_ok isText, fixed⟩
  · cases checked

theorem optionalString_ok {known : Option String}
    (read : optionalString message value = .ok known) :
    value = optionalText known := by
  cases value with
  | null | text _ =>
    obtain rfl := Except.ok.inj read
    rfl
  | boolean _ | integer _ | real _ | array _ | object _ => cases read

theorem dict_ok (read : dict message value = .ok entries) : value = .object entries := by
  cases value with
  | object known =>
    obtain rfl := Except.ok.inj read
    rfl
  | null | boolean _ | integer _ | real _ | text _ | array _ => cases read

theorem oneOf_ok {α : Type} {values : List α} {valueOf : α → String} {known : α}
    (read : oneOf values valueOf message value = .ok known) : value = .text (valueOf known) := by
  cases value with
  | text written =>
    simp only [oneOf] at read
    split at read
    · rename_i found
      obtain rfl := Except.ok.inj read
      have same := List.find?_some found
      exact congrArg Json.text (of_decide_eq_true same).symm
    · cases read
  | null | boolean _ | integer _ | real _ | array _ | object _ => cases read

theorem listOf_array {accepted : Nat → Bool} {items : List Json}
    (fits : accepted items.length = true) : listOf accepted message (.array items) = .ok items := by
  unfold listOf
  simp only [fits, if_true]

theorem listOf_ok {accepted : Nat → Bool} {items : List Json}
    (read : listOf accepted message value = .ok items) :
    value = .array items ∧ accepted items.length = true := by
  cases value with
  | array known =>
    simp only [listOf] at read
    split at read
    · rename_i fits
      obtain rfl := Except.ok.inj read
      exact ⟨rfl, fits⟩
    · cases read
  | null | boolean _ | integer _ | real _ | text _ | object _ => cases read

theorem dictWithKeys_ok {keys : List String}
    (read : dictWithKeys keys message value = .ok entries) :
    value = .object entries ∧ entries.map Prod.fst = keys := by
  cases value with
  | object known =>
    simp only [dictWithKeys] at read
    split at read
    · rename_i same
      obtain rfl := Except.ok.inj read
      exact ⟨rfl, same⟩
    · cases read
  | null | boolean _ | integer _ | real _ | text _ | array _ => cases read

theorem item_ok (found : item entries key = .ok value) : Json.get? entries key = some value := by
  unfold item at found
  split at found
  · cases found
  · rename_i known present
    obtain rfl := Except.ok.inj found
    exact present

/-- A field that was read, and the rest of the reading. -/
theorem field_ok {α β : Type} {reader : Json → Except PayloadError α}
    {next : α → Except PayloadError β} {out : β}
    (read : (do let value ← reader (← item entries key); next value) = .ok out) :
    ∃ value known, Json.get? entries key = some value ∧ reader value = .ok known ∧
      next known = .ok out := by
  obtain ⟨value, found, read⟩ := bind_eq_ok.1 read
  obtain ⟨known, here, rest⟩ := bind_eq_ok.1 read
  exact ⟨value, known, item_ok found, here, rest⟩

/-- Dictionaries with the same keys and the same values are the same. -/
theorem eq_of_get? {others : Dict} (keys : entries.map Prod.fst = others.map Prod.fst)
    (distinct : (others.map Prod.fst).Nodup)
    (values : ∀ entry ∈ others, Json.get? entries entry.1 = some entry.2) : entries = others := by
  induction others generalizing entries with
  | nil => exact map_eq_nil_iff.1 keys
  | cons entry others ih =>
    cases entries with
    | nil => cases keys
    | cons first rest =>
      obtain ⟨same, keys⟩ := List.cons.inj keys
      obtain ⟨absent, distinct⟩ := nodup_cons.1 distinct
      have head : some first.2 = some entry.2 := by
        rw [← values entry mem_cons_self, Json.get?,
          List.find?_cons_of_pos (by simpa using same), Option.map_some]
      have tail : rest = others := by
        refine ih keys distinct fun later inside => ?_
        rw [← values later (mem_cons_of_mem _ inside), Json.get?, Json.get?,
          List.find?_cons_of_neg]
        rw [decide_eq_true_eq, same]
        rintro equal
        exact absent (equal ▸ mem_map_of_mem inside)
      rw [tail, Prod.ext same (Option.some.inj head)]

/-! ### Lists -/

section Lists

variable {Item : Type} {read : Json → Except PayloadError Item} {write : Item → Json}
  {raws : List Json} {items : List Item}

theorem mapM_write (back : ∀ one ∈ items, read (write one) = .ok one) :
    (items.map write).mapM read = .ok items := by
  rw [mapM_eq_ok_iff, forall₂_map_left_iff]
  exact forall₂_same.2 back

theorem map_write_of_mapM (back : ∀ raw one, read raw = .ok one → raw = write one)
    (mapped : raws.mapM read = .ok items) : raws = items.map write := by
  rw [← forall₂_eq_eq_eq, forall₂_map_right_iff]
  exact (mapM_eq_ok_iff.1 mapped).imp back

end Lists

/-! ### Memberships -/

/-- What a membership plan has to satisfy to be read. -/
structure MembershipPlan.Storable (plan : MembershipPlan) : Prop where
  membershipId : 1 ≤ plan.membershipId
  oldSequenceNumber : 0 ≤ plan.oldSequenceNumber
  oldSourceOrdinal : 0 ≤ plan.oldSourceOrdinal
  newSequenceNumber : 0 ≤ plan.newSequenceNumber
  newSourceOrdinal : 0 ≤ plan.newSourceOrdinal

theorem membershipPlanFromRaw_asdict {plan : MembershipPlan} (storable : plan.Storable) :
    membershipPlanFromRaw plan.asdict = .ok plan := by
  obtain ⟨membershipId, oldSequence, oldOrdinal, newSequence, newOrdinal⟩ := storable
  show (do
    let membershipId ← positiveInt (.integer plan.membershipId)
    let oldSequenceNumber ← nonnegativeInt (.integer plan.oldSequenceNumber)
    let oldSourceOrdinal ← nonnegativeInt (.integer plan.oldSourceOrdinal)
    let newSequenceNumber ← nonnegativeInt (.integer plan.newSequenceNumber)
    let newSourceOrdinal ← nonnegativeInt (.integer plan.newSourceOrdinal)
    Except.ok (MembershipPlan.mk membershipId oldSequenceNumber oldSourceOrdinal newSequenceNumber
      newSourceOrdinal)) = _
  rw [positiveInt_integer membershipId, nonnegativeInt_integer oldSequence,
    nonnegativeInt_integer oldOrdinal, nonnegativeInt_integer newSequence,
    nonnegativeInt_integer newOrdinal]
  rfl

theorem membershipKeys_nodup : membershipKeys.Nodup := by
  decide

theorem placementKeys_nodup : placementKeys.Nodup := by
  decide

theorem membershipPlanFromRaw_ok {plan : MembershipPlan}
    (read : membershipPlanFromRaw raw = .ok plan) : raw = plan.asdict ∧ plan.Storable := by
  obtain ⟨entries, isDict, fields⟩ := bind_eq_ok.1 read
  obtain ⟨rfl, keys⟩ := dictWithKeys_ok isDict
  obtain ⟨_, membershipId, found₁, read₁, fields₁⟩ := field_ok fields
  obtain ⟨rfl, valid₁⟩ := positiveInt_ok read₁
  obtain ⟨_, oldSequence, found₂, read₂, fields₂⟩ := field_ok fields₁
  obtain ⟨rfl, valid₂⟩ := nonnegativeInt_ok read₂
  obtain ⟨_, oldOrdinal, found₃, read₃, fields₃⟩ := field_ok fields₂
  obtain ⟨rfl, valid₃⟩ := nonnegativeInt_ok read₃
  obtain ⟨_, newSequence, found₄, read₄, fields₄⟩ := field_ok fields₃
  obtain ⟨rfl, valid₄⟩ := nonnegativeInt_ok read₄
  obtain ⟨_, newOrdinal, found₅, read₅, fields₅⟩ := field_ok fields₄
  obtain ⟨rfl, valid₅⟩ := nonnegativeInt_ok read₅
  obtain rfl := Except.ok.inj fields₅
  refine ⟨congrArg Json.object (eq_of_get? keys membershipKeys_nodup ?_), ?_⟩
  · simp only [forall_mem_cons, found₁, found₂, found₃, found₄, found₅, true_and]
    exact fun entry inside => nomatch inside
  · exact ⟨valid₁, valid₂, valid₃, valid₄, valid₅⟩

/-! ### Placements -/

/-- What a placement plan has to satisfy to be read. -/
structure PlacementPlan.Storable (plan : PlacementPlan) : Prop where
  placementId : 0 ≤ plan.placementId
  membershipId : 1 ≤ plan.membershipId
  oldReadingOrder : 0 ≤ plan.oldReadingOrder
  newReadingOrder : 0 ≤ plan.newReadingOrder

theorem oneOf_actions (action : ReorderAction) :
    oneOf actions ReorderAction.value message (.text action.value) = .ok action := by
  cases action <;> rfl

theorem oneOf_directions (direction : ReorderDirection) :
    oneOf directions ReorderDirection.value message (.text direction.value) = .ok direction := by
  cases direction <;> rfl

theorem placementPlanFromRaw_asdict {plan : PlacementPlan} (storable : plan.Storable) :
    placementPlanFromRaw plan.asdict = .ok plan := by
  obtain ⟨placementId, membershipId, oldReadingOrder, newReadingOrder⟩ := storable
  show (do
    let action ← oneOf actions ReorderAction.value "invalid action" (.text plan.action.value)
    let temporaryPath ← optionalString "invalid temporary path" (optionalText plan.temporaryPath)
    let canonicalPath ← optionalString "invalid canonical path" (optionalText plan.canonicalPath)
    let placementState ← optionalString "invalid fingerprint" (optionalText plan.placementState)
    let placementId ← nonnegativeInt (.integer plan.placementId)
    let membershipId ← positiveInt (.integer plan.membershipId)
    let oldReadingOrder ← nonnegativeInt (.integer plan.oldReadingOrder)
    let newReadingOrder ← nonnegativeInt (.integer plan.newReadingOrder)
    Except.ok
      ({ plan with
          action, temporaryPath, canonicalPath, placementState, placementId, membershipId,
          oldReadingOrder, newReadingOrder } : PlacementPlan)) = _
  rw [oneOf_actions, optionalString_optionalText, optionalString_optionalText,
    optionalString_optionalText, nonnegativeInt_integer placementId,
    positiveInt_integer membershipId, nonnegativeInt_integer oldReadingOrder,
    nonnegativeInt_integer newReadingOrder]
  rfl

theorem placementPlanFromRaw_ok {plan : PlacementPlan}
    (read : placementPlanFromRaw raw = .ok plan) : raw = plan.asdict ∧ plan.Storable := by
  obtain ⟨entries, isDict, fields⟩ := bind_eq_ok.1 read
  obtain ⟨rfl, keys⟩ := dictWithKeys_ok isDict
  obtain ⟨_, action, found₁, read₁, fields₁⟩ := field_ok fields
  obtain rfl := oneOf_ok read₁
  obtain ⟨_, temporaryPath, found₂, read₂, fields₂⟩ := field_ok fields₁
  obtain rfl := optionalString_ok read₂
  obtain ⟨_, canonicalPath, found₃, read₃, fields₃⟩ := field_ok fields₂
  obtain rfl := optionalString_ok read₃
  obtain ⟨_, sourceFingerprint, found₄, read₄, fields₄⟩ := field_ok fields₃
  obtain rfl := dict_ok read₄
  obtain ⟨_, targetFingerprint, found₅, read₅, fields₅⟩ := field_ok fields₄
  obtain rfl := dict_ok read₅
  obtain ⟨_, lastResultSnapshot, found₆, read₆, fields₆⟩ := field_ok fields₅
  obtain rfl := dict_ok read₆
  obtain ⟨_, placementState, found₇, read₇, fields₇⟩ := field_ok fields₆
  obtain rfl := optionalString_ok read₇
  obtain ⟨_, placementId, found₈, read₈, fields₈⟩ := field_ok fields₇
  obtain ⟨rfl, valid₈⟩ := nonnegativeInt_ok read₈
  obtain ⟨_, membershipId, found₉, read₉, fields₉⟩ := field_ok fields₈
  obtain ⟨rfl, valid₉⟩ := positiveInt_ok read₉
  obtain ⟨_, ownership, found₁₀, read₁₀, fields₁₀⟩ := field_ok fields₉
  obtain rfl := string_ok read₁₀
  obtain ⟨_, mode, found₁₁, read₁₁, fields₁₁⟩ := field_ok fields₁₀
  obtain rfl := string_ok read₁₁
  obtain ⟨_, oldReadingOrder, found₁₂, read₁₂, fields₁₂⟩ := field_ok fields₁₁
  obtain ⟨rfl, valid₁₂⟩ := nonnegativeInt_ok read₁₂
  obtain ⟨_, newReadingOrder, found₁₃, read₁₃, fields₁₃⟩ := field_ok fields₁₂
  obtain ⟨rfl, valid₁₃⟩ := nonnegativeInt_ok read₁₃
  obtain ⟨_, oldPath, found₁₄, read₁₄, fields₁₄⟩ := field_ok fields₁₃
  obtain rfl := string_ok read₁₄
  obtain ⟨_, newPath, found₁₅, read₁₅, fields₁₅⟩ := field_ok fields₁₄
  obtain rfl := string_ok read₁₅
  obtain ⟨_, renderedPathAfter, found₁₆, read₁₆, fields₁₆⟩ := field_ok fields₁₅
  obtain rfl := string_ok read₁₆
  obtain rfl := Except.ok.inj fields₁₆
  refine ⟨congrArg Json.object (eq_of_get? keys placementKeys_nodup ?_), ?_⟩
  · simp only [forall_mem_cons, found₁, found₂, found₃, found₄, found₅, found₆, found₇, found₈,
      found₉, found₁₀, found₁₁, found₁₂, found₁₃, found₁₄, found₁₅, found₁₆, true_and]
    exact fun entry inside => nomatch inside
  · exact ⟨valid₈, valid₉, valid₁₂, valid₁₃⟩

/-! ### Plans -/

/-- What a plan has to satisfy to be read. -/
structure SignedPlan.Storable (plan : SignedPlan) : Prop where
  storyArcId : 1 ≤ plan.storyArcId
  selectedMembershipId : 1 ≤ plan.selectedMembershipId
  expectedRevision : 1 ≤ plan.expectedRevision
  operationToken : plan.operationToken.length = 32
  planDigest : plan.planDigest.length = 64
  memberships : plan.memberships.length = 2
  placements : plan.placements ≠ []
  bounded : plan.placements.length ≤ maxPlacementsPerAdjacentMove + 2
  everyMembership : ∀ one ∈ plan.memberships, one.Storable
  everyPlacement : ∀ one ∈ plan.placements, one.Storable

theorem readPlan_planToPayload (storable : plan.Storable) :
    readPlan (planToPayload plan) = .ok plan := by
  have two : listOf (· == 2) "invalid memberships"
      (.array (plan.memberships.map MembershipPlan.asdict)) =
        .ok (plan.memberships.map MembershipPlan.asdict) := by
    refine listOf_array ?_
    rw [length_map, storable.memberships]
    rfl
  have some : listOf (fun count => count != 0 && decide (count ≤ maxPlacementsPerAdjacentMove + 2))
      "invalid placements" (.array (plan.placements.map PlacementPlan.asdict)) =
        .ok (plan.placements.map PlacementPlan.asdict) := by
    refine listOf_array ?_
    rw [length_map, Bool.and_eq_true, bne_iff_ne, decide_eq_true_eq]
    exact ⟨fun none => storable.placements (length_eq_zero_iff.1 none), storable.bounded⟩
  have memberships := mapM_write fun one inside =>
    membershipPlanFromRaw_asdict (storable.everyMembership one inside)
  have placements := mapM_write fun one inside =>
    placementPlanFromRaw_asdict (storable.everyPlacement one inside)
  show (do
    let membershipsRaw ← listOf (· == 2) "invalid memberships"
      (.array (plan.memberships.map MembershipPlan.asdict))
    let placementsRaw ←
      listOf (fun count => count != 0 && decide (count ≤ maxPlacementsPerAdjacentMove + 2))
        "invalid placements" (.array (plan.placements.map PlacementPlan.asdict))
    let memberships ← membershipsRaw.mapM membershipPlanFromRaw
    let placements ← placementsRaw.mapM placementPlanFromRaw
    let direction ← oneOf directions ReorderDirection.value "invalid direction"
      (.text plan.direction.value)
    let destinationRoot ← optionalString "invalid root" (optionalText plan.destinationRoot)
    let storyArcId ← positiveInt (.integer plan.storyArcId)
    let selectedMembershipId ← positiveInt (.integer plan.selectedMembershipId)
    let expectedRevision ← positiveInt (.integer plan.expectedRevision)
    let operationToken ← fixedString 32 (.text plan.operationToken)
    let planDigest ← fixedString 64 (.text plan.planDigest)
    Except.ok
      ({ storyArcId, selectedMembershipId, direction, expectedRevision, operationToken,
         planDigest, destinationRoot, memberships, placements } : SignedPlan)) = _
  simp only [two, some, memberships, placements, ok_bind, oneOf_directions,
    optionalString_optionalText, positiveInt_integer storable.storyArcId,
    positiveInt_integer storable.selectedMembershipId,
    positiveInt_integer storable.expectedRevision, fixedString_text storable.operationToken,
    fixedString_text storable.planDigest]

/-- A plan is read back from its payload. -/
theorem planFromPayload_planToPayload (storable : plan.Storable)
    (digest : plan.planDigest = planDigest digester plan.semantic) :
    planFromPayload digester (planToPayload plan) = .ok plan := by
  unfold planFromPayload
  rw [readPlan_planToPayload storable]
  exact if_pos digest.symm

/-! ### Temporary paths -/

/-- A plan with other temporary paths. -/
def SignedPlan.withTemporaryPaths (plan : SignedPlan) (paths : PlacementPlan → Option String) :
    SignedPlan :=
  { plan with
    placements := plan.placements.map fun one => { one with temporaryPath := paths one } }

@[simp] theorem semantic_withTemporaryPaths (paths : PlacementPlan → Option String) :
    (plan.withTemporaryPaths paths).semantic = plan.semantic := by
  unfold SignedPlan.semantic SignedPlan.withTemporaryPaths
  rw [map_map]
  rfl

/-- The temporary paths of a plan are not digested, so other ones are read as well. -/
theorem planFromPayload_withTemporaryPaths (storable : plan.Storable)
    (digest : plan.planDigest = planDigest digester plan.semantic)
    (paths : PlacementPlan → Option String) :
    planFromPayload digester (planToPayload (plan.withTemporaryPaths paths)) =
      .ok (plan.withTemporaryPaths paths) := by
  refine planFromPayload_planToPayload ?_ (by rwa [semantic_withTemporaryPaths])
  exact
    { storable with
      placements := fun none => storable.placements (map_eq_nil_iff.1 none)
      bounded := by
        rw [SignedPlan.withTemporaryPaths, length_map]
        exact storable.bounded
      everyPlacement := by
        intro one inside
        obtain ⟨known, listed, rfl⟩ := mem_map.1 inside
        obtain ⟨placementId, membershipId, oldReadingOrder, newReadingOrder⟩ :=
          storable.everyPlacement known listed
        exact ⟨placementId, membershipId, oldReadingOrder, newReadingOrder⟩ }

/-! ### What a payload may not change -/

/-- The keys of a payload that the reorder depends on. -/
def affecting : List String :=
  ["destination_root", "direction", "expected_revision", "memberships", "placements",
    "selected_membership_id", "story_arc_id"]

/-- A placement in a payload but for its temporary path. -/
def withoutTemporary : Json → Json
  | .object entries =>
    .object (entries.map fun entry =>
      if entry.1 = "temporary_path" then (entry.1, .null) else entry)
  | raw => raw

/-- The placements in a payload but for their temporary paths. -/
def withoutTemporaries : Json → Json
  | .array items => .array (items.map withoutTemporary)
  | raw => raw

/-- What a payload says under a key, but for temporary paths. -/
def said (payload : Json) (key : String) : Option Json :=
  match payload with
  | .object entries =>
    (Json.get? entries key).map fun value =>
      if key = "placements" then withoutTemporaries value else value
  | _ => none

/-- What is digested of a plan under a key. -/
def SignedPlan.digested (plan : SignedPlan) (key : String) : Option Json :=
  match plan.semantic with
  | .object entries => Json.get? entries key
  | _ => none

theorem withoutTemporary_asdict (one : PlacementPlan) :
    withoutTemporary one.asdict = one.withoutTemporary.asdict := by
  simp [withoutTemporary, PlacementPlan.asdict, PlacementPlan.withoutTemporary, optionalText]

theorem withoutTemporaries_asdict (placements : List PlacementPlan) :
    withoutTemporaries (.array (placements.map PlacementPlan.asdict)) =
      .array ((placements.map PlacementPlan.withoutTemporary).map PlacementPlan.asdict) := by
  simp only [withoutTemporaries, map_map]
  refine congrArg Json.array (map_congr_left fun one _ => ?_)
  exact withoutTemporary_asdict one

/-- What was read from a payload is what the payload says. -/
theorem said_of_readPlan {payload : Json} (read : readPlan payload = .ok plan) :
    (∀ key ∈ affecting, said payload key = plan.digested key) ∧
      said payload "plan_digest" = some (.text plan.planDigest) := by
  obtain ⟨entries, isDict, checked⟩ := bind_eq_ok.1 read
  obtain rfl := dict_ok isDict
  obtain ⟨_, -, lists⟩ := bind_eq_ok.1 checked
  obtain ⟨_, found₁, lists₁⟩ := bind_eq_ok.1 lists
  obtain ⟨_, found₂, lists₂⟩ := bind_eq_ok.1 lists₁
  obtain ⟨memberships, isList₁, lists₃⟩ := bind_eq_ok.1 lists₂
  obtain ⟨rfl, -⟩ := listOf_ok isList₁
  obtain ⟨placements, isList₂, lists₄⟩ := bind_eq_ok.1 lists₃
  obtain ⟨rfl, -⟩ := listOf_ok isList₂
  obtain ⟨membershipPlans, read₁, lists₅⟩ := bind_eq_ok.1 lists₄
  obtain rfl := map_write_of_mapM (fun raw one same => (membershipPlanFromRaw_ok same).1) read₁
  obtain ⟨placementPlans, read₂, fields⟩ := bind_eq_ok.1 lists₅
  obtain rfl := map_write_of_mapM (fun raw one same => (placementPlanFromRaw_ok same).1) read₂
  obtain ⟨_, direction, found₃, read₃, fields₃⟩ := field_ok fields
  obtain rfl := oneOf_ok read₃
  obtain ⟨_, destinationRoot, found₄, read₄, fields₄⟩ := field_ok fields₃
  obtain rfl := optionalString_ok read₄
  obtain ⟨_, storyArcId, found₅, read₅, fields₅⟩ := field_ok fields₄
  obtain ⟨rfl, -⟩ := positiveInt_ok read₅
  obtain ⟨_, selected, found₆, read₆, fields₆⟩ := field_ok fields₅
  obtain ⟨rfl, -⟩ := positiveInt_ok read₆
  obtain ⟨_, revision, found₇, read₇, fields₇⟩ := field_ok fields₆
  obtain ⟨rfl, -⟩ := positiveInt_ok read₇
  obtain ⟨_, token, found₈, read₈, fields₈⟩ := field_ok fields₇
  obtain ⟨rfl, -⟩ := fixedString_ok read₈
  obtain ⟨_, digest, found₉, read₉, fields₉⟩ := field_ok fields₈
  obtain ⟨rfl, -⟩ := fixedString_ok read₉
  obtain rfl := Except.ok.inj fields₉
  constructor
  · simp only [affecting, forall_mem_cons, said, item_ok found₁, item_ok found₂, found₃, found₄,
      found₅, found₆, found₇, Option.map_some]
    refine ⟨rfl, rfl, rfl, rfl, ?_, rfl, rfl, fun key inside => nomatch inside⟩
    rw [if_pos trivial, withoutTemporaries_asdict]
    rfl
  · simp only [said, found₉, Option.map_some]
    rfl

/-- What a plan's own payload says is what is digested of the plan. -/
theorem said_planToPayload (plan : SignedPlan) :
    (∀ key ∈ affecting, said (planToPayload plan) key = plan.digested key) ∧
      said (planToPayload plan) "plan_digest" = some (.text plan.planDigest) := by
  constructor
  · simp only [affecting, forall_mem_cons]
    refine ⟨rfl, rfl, rfl, rfl, ?_, rfl, rfl, fun key inside => nomatch inside⟩
    show some (withoutTemporaries (.array (plan.placements.map PlacementPlan.asdict))) = _
    rw [withoutTemporaries_asdict]
    rfl
  · rfl

/-- Another payload under the digest of a plan that says something else about the reorder. -/
structure Altered (plan : SignedPlan) (payload : Json) : Prop where
  digest : said payload "plan_digest" = said (planToPayload plan) "plan_digest"
  changed : ∃ key ∈ affecting, said payload key ≠ said (planToPayload plan) key

/-- The two values do not have the same digest by accident. -/
def Digester.Separates (digester : Digester) (first second : Json) : Prop :=
  planDigest digester first = planDigest digester second →
    Text.canonical digester.floats first = Text.canonical digester.floats second

/-- A payload that was altered is refused. -/
theorem planFromPayload_altered {payload : Json}
    (digest : plan.planDigest = planDigest digester plan.semantic) (altered : Altered plan payload)
    (separate : ∀ other, readPlan payload = .ok other →
      digester.Separates other.semantic plan.semantic) :
    ∃ error, planFromPayload digester payload = .error error := by
  unfold planFromPayload
  cases read : readPlan payload with
  | error error => exact ⟨error, rfl⟩
  | ok other =>
    refine ⟨.valueError "digest mismatch", if_neg fun same => ?_⟩
    obtain ⟨told, itsDigest⟩ := said_of_readPlan read
    have digests : other.planDigest = plan.planDigest := by
      have texts := itsDigest.symm.trans (altered.digest.trans (said_planToPayload plan).2)
      exact Json.text.inj (Option.some.inj texts)
    have semantics : other.semantic = plan.semantic :=
      Text.canonical_injective (separate other read (by rw [same, digests, digest]))
    obtain ⟨key, inside, changed⟩ := altered.changed
    refine changed ?_
    rw [told key inside, (said_planToPayload plan).1 key inside, SignedPlan.digested,
      SignedPlan.digested, semantics]

end Pullbox.Arc.ReorderPlan
