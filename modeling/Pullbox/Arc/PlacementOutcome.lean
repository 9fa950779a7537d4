import Pullbox.Arc.PlacementFrame
import Pullbox.Arc.PlacementSteps

/-!
# What a placement leaves at its target

An entry that is there stays as it is. Where nothing was, a placement that returns leaves the
recorded artifact, and one that raises leaves nothing unless it fails after the link where the
cleanup does not reach, or in the cleanup itself. A removal takes an entry with the recorded
fingerprint only.
-/

namespace Pullbox.Arc.Placement

open Files (Disk)
open Durable (Session)
open Durable.Session

namespace PlacementRequest

variable {request : PlacementRequest} {folder after : Folder} {node : Node}
  {fingerprint : Fingerprint} {raises : PlacementError → Folder → Prop}
  {returns : PlacementResult → Folder → Prop}

/-! ### Where nothing is yet -/

/-- Nothing fails before the publication in the open folder. -/
structure Opens (request : PlacementRequest) (folder : Folder) : Prop where
  opened : request.fails .openParent = false
  uncancelled : request.fails .cancelInParent = false
  rechecked : request.fails .recheckFree = false
  alone : request.caseOnlyCollision folder = false

theorem ends_recheckFreeDestinationAt {returns : PUnit → Folder → Prop}
    (vacant : folder request.target = none) :
    Ends request.recheckFreeDestinationAt folder returns request.Left ↔
      (request.fails .recheckFree = false → request.caseOnlyCollision folder = false →
        returns ⟨⟩ folder) := by
  unfold recheckFreeDestinationAt
  rw [ends_bind, ends_attempt_vacant harmless_left vacant, ends_bind, ends_get, ends_bind,
    ends_refuseIf_vacant harmless_left vacant, ends_refuseIf_vacant harmless_left vacant, vacant]
  simp

/-- Up to the publication. -/
theorem ends_publishInParent_iff {returns : Fingerprint → Folder → Prop}
    (vacant : folder request.target = none) :
    Ends request.publishInParent folder returns request.Left ↔
      (request.Opens folder → Ends (request.publish >>= request.settle) folder
        (fun value after => (request.fails .closeParent = true → after request.target = none) ∧
          (request.fails .closeParent = false → returns value after)) request.Left) := by
  unfold publishInParent
  rw [ends_bind, ends_attempt_vacant harmless_left vacant, ends_closing, ends_bind,
    ends_attempt_vacant harmless_left vacant, ends_bind, ends_recheckFreeDestinationAt vacant]
  constructor
  · intro steps opens
    exact steps opens.opened opens.uncancelled opens.rechecked opens.alone
  · intro all opened uncancelled rechecked alone
    exact all ⟨opened, uncancelled, rechecked, alone⟩

/-- What failures after the link come to: the entry is recorded, or it is removed. -/
def Settles (request : PlacementRequest) (recorded : Prop) : Prop :=
  request.Bridges ∧ (request.Guards → request.fails .closeParent = false ∧ recorded) ∧
    (¬ request.Guards → request.Cleans)

theorem ends_publish_settle {returns : Fingerprint → Folder → Prop}
    (vacant : folder request.target = none) (proper : request.Proper node fingerprint) :
    Ends (request.publish >>= request.settle) folder
        (fun value after => (request.fails .closeParent = true → after request.target = none) ∧
          (request.fails .closeParent = false → returns value after)) request.Left ↔
      (request.Links folder → request.Settles (returns fingerprint (request.linked folder))) := by
  have here : request.linked folder request.target = some node :=
    linked_target.trans proper.published
  rw [ends_bind, ends_publish vacant]
  apply imp_congr_right
  intro _
  unfold Settles
  apply and_congr_right
  intro _
  rw [ends_settle proper here, here]
  apply and_congr_left
  intro _
  apply imp_congr_right
  intro _
  cases request.fails .closeParent <;> simp

/-- The steps of the call up to the link. -/
structure Publishes (request : PlacementRequest) (folder : Folder) : Prop where
  places : request.mode ≠ .referenceOnly
  styled : request.mode = .symlink ↔ request.symlinkStyle.isSome = true
  started : request.fails .cancelAtStart = false
  ready : request.preview folder = .ready
  admitted : request.refusal = none
  resolved : request.fails .resolveExisting = false
  alone : request.caseOnlyCollision folder = false
  owned : request.existingManaged.bind request.validateManagedEvidence = none
  journaled : request.fails .journalPrepared = false
  opens : request.Opens folder
  links : request.Links folder

theorem ends_resolveExistingTarget {returns : Option PlacementResult → Folder → Prop}
    (vacant : folder request.target = none) :
    Ends request.resolveExistingTarget folder returns request.Left ↔
      (request.fails .resolveExisting = false → request.caseOnlyCollision folder = false →
        returns none folder) := by
  unfold resolveExistingTarget
  rw [ends_bind, ends_attempt_vacant harmless_left vacant, ends_bind, ends_get, ends_bind,
    ends_refuseIf_vacant harmless_left vacant, vacant, ends_pure]
  simp

theorem ends_placeAnew {preview : Preview}
    (vacant : folder request.target = none) :
    Ends (request.placeAnew preview) folder returns request.Left ↔
      (preview = .ready → request.existingManaged.bind request.validateManagedEvidence = none →
        request.fails .journalPrepared = false →
        Ends request.publishInParent folder (fun value after =>
          (request.fails .journalPublished = true → after request.target = none) ∧
            (request.fails .journalPublished = false → returns (request.result .created value)
              after)) request.Left) := by
  unfold placeAnew
  cases preview with
  | ready =>
    cases request.existingManaged.bind request.validateManagedEvidence with
    | some error => simp [ends_throw, Left, vacant]
    | none =>
      simp only [forall_const]
      rw [ends_bind, ends_attempt_vacant harmless_left vacant, ends_bind]
      simp only [ends_bind, ends_attempt, ends_pure]
      rfl
  | blocked code => simp [ends_throw, Left, vacant]
  | noTarget code => simp [ends_throw, Left, vacant]
  | represented => simp [ends_throw, Left, vacant]

/-- What follows the checks that only read. -/
theorem ends_resolve_place (preview : Preview)
    (vacant : folder request.target = none) :
    Ends (do
        match ← request.resolveExistingTarget with
        | some result => pure result
        | none => request.placeAnew preview) folder returns request.Left ↔
      (request.fails .resolveExisting = false → request.caseOnlyCollision folder = false →
        preview = .ready → request.existingManaged.bind request.validateManagedEvidence = none →
        request.fails .journalPrepared = false →
        Ends request.publishInParent folder (fun value after =>
          (request.fails .journalPublished = true → after request.target = none) ∧
            (request.fails .journalPublished = false → returns (request.result .created value)
              after)) request.Left) := by
  rw [ends_bind, ends_resolveExistingTarget vacant]
  apply imp_congr_right
  intro _
  apply imp_congr_right
  intro _
  exact ends_placeAnew vacant

theorem ends_execute_iff (vacant : folder request.target = none)
    (nothing : request.mode = .referenceOnly → returns request.referenceOnlyResult folder) :
    Ends request.execute folder returns request.Left ↔
      (request.mode ≠ .referenceOnly →
        (request.mode = .symlink ↔ request.symlinkStyle.isSome = true) →
        request.fails .cancelAtStart = false → request.refusal = none →
        request.fails .resolveExisting = false → request.caseOnlyCollision folder = false →
        request.preview folder = .ready →
        request.existingManaged.bind request.validateManagedEvidence = none →
        request.fails .journalPrepared = false →
        Ends request.publishInParent folder (fun value after =>
          (request.fails .journalPublished = true → after request.target = none) ∧
            (request.fails .journalPublished = false → returns (request.result .created value)
              after)) request.Left) := by
  unfold execute
  rw [ends_bind, ends_refuseIf_vacant harmless_left vacant]
  by_cases places : request.mode = .referenceOnly
  · rw [if_pos places, ends_bind, ends_refuseIf_vacant harmless_left vacant, ends_pure]
    simp [places, nothing places]
  · rw [if_neg places, ends_bind, ends_attempt_vacant harmless_left vacant, ends_bind, ends_get]
    have styled : (¬ (request.mode = .symlink) ≠ (request.symlinkStyle.isSome = true)) ↔
        (request.mode = .symlink ↔ request.symlinkStyle.isSome = true) := by
      rw [ne_eq, not_not, eq_iff_iff]
    rw [styled]
    simp only [ne_eq, places, not_false_eq_true, forall_const]
    apply imp_congr_right
    intro _
    apply imp_congr_right
    intro _
    cases request.refusal with
    | some error => cases request.preview folder <;> simp [ends_throw, Left, vacant]
    | none =>
      simp only [forall_const]
      cases request.preview folder with
      | noTarget code => simp [ends_throw, Left, vacant]
      | blocked code =>
        exact ends_resolve_place _ vacant
      | ready =>
        exact ends_resolve_place _ vacant
      | represented =>
        exact ends_resolve_place _ vacant

/-- A call with a vacant target. -/
theorem ends_execute_vacant (vacant : folder request.target = none)
    (nothing : request.mode = .referenceOnly → returns request.referenceOnlyResult folder) :
    Ends request.execute folder returns request.Left ↔
      ∀ node fingerprint, request.Proper node fingerprint → request.Publishes folder →
        request.Settles (request.fails .journalPublished = false ∧
          returns (request.result .created fingerprint) (request.linked folder)) := by
  rw [ends_execute_iff vacant nothing]
  have recorded {node : Node} {fingerprint : Fingerprint}
      (proper : request.Proper node fingerprint) :
      ((request.fails .journalPublished = true → request.linked folder request.target = none) ∧
        (request.fails .journalPublished = false →
          returns (request.result .created fingerprint) (request.linked folder))) ↔
      request.fails .journalPublished = false ∧
        returns (request.result .created fingerprint) (request.linked folder) := by
    rw [linked_target, proper.published]
    cases request.fails .journalPublished <;> simp
  constructor
  · intro steps node fingerprint proper publishes
    have inParent := steps publishes.places publishes.styled publishes.started publishes.admitted
      publishes.resolved publishes.alone publishes.ready publishes.owned publishes.journaled
    rw [ends_publishInParent_iff vacant] at inParent
    have settles := (ends_publish_settle vacant proper).1 (inParent publishes.opens)
      publishes.links
    rw [recorded proper] at settles
    exact settles
  · intro all places styled started admitted resolved alone ready owned journaled
    rw [ends_publishInParent_iff vacant]
    intro opens
    by_cases links : request.Links folder
    · obtain ⟨node, fingerprint, proper⟩ := proper_of_links links
      rw [ends_publish_settle vacant proper, recorded proper]
      exact fun _ => all node fingerprint proper
        ⟨places, styled, started, ready, admitted, resolved, alone, owned, journaled, opens, links⟩
    · rw [ends_bind, ends_publish vacant]
      exact fun made => absurd made links

/-! ### Where something is already -/

theorem resolveNode_ok {result : PlacementResult} (made : request.resolveNode node = .ok result) :
    request.fingerprintTarget node = result.targetFingerprint := by
  unfold resolveNode at made
  cases taken : request.fingerprintTarget node with
  | none =>
    rw [taken] at made
    cases made
  | some fingerprint =>
    simp only [taken] at made
    repeat' split at made
    all_goals first
      | cases made
        rfl
      | cases made

/-- An entry at the target stays, whatever the call does. -/
theorem ends_execute_occupied (here : folder request.target = some node) :
    Ends request.execute folder
      (fun result after => after = folder ∧ (request.mode ≠ .referenceOnly →
        request.fingerprintTarget node = result.targetFingerprint))
      (fun _ after => after = folder) := by
  have resolved {preview : Preview} : Ends (do
        match ← request.resolveExistingTarget with
        | some result => pure result
        | none => request.placeAnew preview) folder
      (fun result after => after = folder ∧ (request.mode ≠ .referenceOnly →
        request.fingerprintTarget node = result.targetFingerprint))
      (fun _ after => after = folder) := by
    unfold resolveExistingTarget
    rw [ends_bind, ends_bind, ends_attempt]
    refine ⟨fun _ => rfl, fun _ => ?_⟩
    rw [ends_bind, ends_get, ends_bind, ends_refuseIf]
    refine ⟨fun _ => rfl, fun _ => ?_⟩
    simp only [here]
    cases made : request.resolveNode node with
    | error error => exact ends_throw.2 rfl
    | ok result => exact ends_pure.2 ⟨rfl, fun _ => resolveNode_ok made⟩
  unfold execute
  rw [ends_bind, ends_refuseIf]
  refine ⟨fun _ => rfl, fun _ => ?_⟩
  split
  · next reference =>
      rw [ends_bind, ends_refuseIf, ends_pure]
      exact ⟨fun _ => rfl, fun _ => ⟨rfl, fun places => absurd reference places⟩⟩
  · rw [ends_bind, ends_attempt]
    refine ⟨fun _ => rfl, fun _ => ?_⟩
    rw [ends_bind, ends_get]
    cases request.preview folder with
    | noTarget code => exact ends_throw.2 rfl
    | blocked code =>
      cases request.refusal with
      | some error => exact ends_throw.2 rfl
      | none => exact resolved
    | ready =>
      cases request.refusal with
      | some error => exact ends_throw.2 rfl
      | none => exact resolved
    | represented =>
      cases request.refusal with
      | some error => exact ends_throw.2 rfl
      | none => exact resolved

/-! ### What a placement leaves -/

/-- The plan once more, with evidence of its result. -/
def repeated (request : PlacementRequest) (evidence : ManagedEvidence)
    (fails : PlacementStep → Bool) : PlacementRequest :=
  { request with existingManaged := some evidence, fails := fails }

/-- What a returned result says of the target. -/
structure Recorded (request : PlacementRequest) (result : PlacementResult) (after : Folder) :
    Prop where
  stands : request.mode ≠ .referenceOnly → ∃ node, after request.target = some node ∧
    request.fingerprintTarget node = result.targetFingerprint
  again : ∀ creatingActionId evidence fails,
    ManagedEvidence.fromResult result creatingActionId = some evidence →
    Ends (request.repeated evidence fails).execute after
      (fun again last => last = after ∧ again.targetFingerprint = result.targetFingerprint)
      (fun _ last => last = after)

/-- What holds however a call ends: an entry that was at the target stays, other names stay, what
is returned is recorded, and what is raised leaves the target as it was. -/
def Lawful (request : PlacementRequest) (folder : Folder) : Prop :=
  Ends request.execute folder
    (fun result after => ((folder request.target).isSome → after = folder) ∧
      request.Recorded result after)
    (fun _ after => ((folder request.target).isSome → after = folder) ∧
      after request.target = folder request.target)

/-- With nothing at the target, no failure comes between the link and the cleanup's reach, in the
cleanup when it is called, or after it. -/
def Undisturbed (request : PlacementRequest) (folder : Folder) : Prop :=
  folder request.target = none → request.Publishes folder →
    request.Settles (request.fails .journalPublished = false)

/-- A result with managed evidence comes from a plan that places. -/
theorem recorded_of_node {result : PlacementResult} (here : after request.target = some node)
    (taken : request.mode ≠ .referenceOnly →
      request.fingerprintTarget node = result.targetFingerprint)
    (reference : request.mode = .referenceOnly → result.ownership = .referenced) :
    request.Recorded result after where
  stands places := ⟨node, here, taken places⟩
  again := by
    intro creatingActionId evidence fails made
    have places : request.mode ≠ .referenceOnly := by
      intro mode
      unfold ManagedEvidence.fromResult at made
      rw [reference mode] at made
      cases made
    have occupied : after (request.repeated evidence fails).target = some node := here
    refine (ends_execute_occupied occupied).mono ?_ fun _ _ same => same
    rintro again last ⟨same, found⟩
    exact ⟨same, (found places).symm.trans (taken places)⟩

theorem recorded_referenceOnly (mode : request.mode = .referenceOnly) :
    request.Recorded request.referenceOnlyResult after where
  stands places := absurd mode places
  again _ _ _ made := by cases made

/-- A mode that places nothing returns a reference. -/
theorem ends_execute_referenceOnly (mode : request.mode = .referenceOnly) :
    Ends request.execute folder
      (fun result after => after = folder ∧ result = request.referenceOnlyResult)
      (fun _ after => after = folder) := by
  unfold execute
  rw [ends_bind, ends_refuseIf]
  refine ⟨fun _ => rfl, fun _ => ?_⟩
  rw [if_pos mode, ends_bind, ends_refuseIf, ends_pure]
  exact ⟨fun _ => rfl, fun _ => ⟨rfl, rfl⟩⟩

theorem lawful_referenceOnly (mode : request.mode = .referenceOnly) :
    request.Lawful folder := by
  refine (ends_execute_referenceOnly mode).mono ?_ ?_
  · rintro result after ⟨rfl, rfl⟩
    exact ⟨fun _ => rfl, recorded_referenceOnly mode⟩
  · rintro error after rfl
    exact ⟨fun _ => rfl, rfl⟩

theorem lawful_occupied (places : request.mode ≠ .referenceOnly)
    (here : folder request.target = some node) : request.Lawful folder := by
  refine (ends_execute_occupied here).mono ?_ ?_
  · rintro result after ⟨rfl, taken⟩
    exact ⟨fun _ => rfl, recorded_of_node here taken fun mode => absurd mode places⟩
  · rintro error after rfl
    exact ⟨fun _ => rfl, rfl⟩

theorem lawful_vacant_iff (places : request.mode ≠ .referenceOnly)
    (vacant : folder request.target = none) :
    request.Lawful folder ↔
      (request.Publishes folder → request.Settles (request.fails .journalPublished = false)) := by
  have raises : (fun (_ : PlacementError) (after : Folder) =>
      ((folder request.target).isSome → after = folder) ∧
        after request.target = folder request.target) = request.Left := by
    funext error after
    simp [vacant, Left]
  have recorded {node : Node} {fingerprint : Fingerprint}
      (proper : request.Proper node fingerprint) :
      ((folder request.target).isSome → request.linked folder = folder) ∧
        request.Recorded (request.result .created fingerprint) (request.linked folder) := by
    refine ⟨by simp [vacant], ?_⟩
    exact recorded_of_node (linked_target.trans proper.published) (fun _ => proper.taken)
      fun mode => absurd mode places
  unfold Lawful
  rw [raises, ends_execute_vacant vacant fun mode => absurd mode places]
  constructor
  · intro all publishes
    obtain ⟨node, fingerprint, proper⟩ := proper_of_links publishes.links
    obtain ⟨bridges, guarded, unguarded⟩ := all node fingerprint proper publishes
    refine ⟨bridges, fun guards => ?_, unguarded⟩
    obtain ⟨closed, journaled, -⟩ := guarded guards
    exact ⟨closed, journaled⟩
  · intro all node fingerprint proper publishes
    obtain ⟨bridges, guarded, unguarded⟩ := all publishes
    refine ⟨bridges, fun guards => ?_, unguarded⟩
    obtain ⟨closed, journaled⟩ := guarded guards
    exact ⟨closed, journaled, recorded proper⟩

/-- A call leaves its target as it should exactly when no failure comes where the cleanup does not
reach. -/
theorem lawful_iff : request.Lawful folder ↔ request.Undisturbed folder := by
  unfold Undisturbed
  by_cases mode : request.mode = .referenceOnly
  · constructor
    · intro _ _ publishes
      exact absurd mode publishes.places
    · exact fun _ => lawful_referenceOnly mode
  · cases here : folder request.target with
    | none => simpa using lawful_vacant_iff mode here
    | some node =>
      constructor
      · intro _ vacant
        cases vacant
      · exact fun _ => lawful_occupied mode here

end PlacementRequest

/-! ### Removal -/

namespace RemovalRequest

variable {request : RemovalRequest} {folder : Folder} {step : RemovalStep}
  {raises : RemovalError → Folder → Prop}

/-- Nothing changes, or an entry with the recorded fingerprint is gone. -/
def Owned (request : RemovalRequest) (folder after : Folder) : Prop :=
  after = folder ∨ ∃ node, folder request.target = some node ∧
    request.fingerprintTargetAt request.canonicalPath node =
      some request.evidence.targetFingerprint ∧
    after = folder.write request.target none

theorem ends_attempt {returns : PUnit → Folder → Prop} :
    Ends (request.attempt step) folder returns raises ↔
      (request.fails step = true → raises (.failed step) folder) ∧
        (request.fails step = false → returns ⟨⟩ folder) := by
  unfold attempt
  rw [ends_refuseIf]
  simp

/-- A step that may fail while what it leaves is as it should be. -/
theorem ends_after {α : Type} {next : PUnit → Session RemovalError Folder α}
    {returns : α → Folder → Prop} (failed : raises (.failed step) folder)
    (later : Ends (next ⟨⟩) folder returns raises) :
    Ends (request.attempt step >>= next) folder returns raises := by
  rw [ends_bind, ends_attempt]
  exact ⟨fun _ => failed, fun _ => later⟩

theorem ends_unless {α : Type} {condition : Prop} [Decidable condition] {error : RemovalError}
    {next : PUnit → Session RemovalError Folder α} {returns : α → Folder → Prop}
    (failed : raises error folder) (later : ¬ condition → Ends (next ⟨⟩) folder returns raises) :
    Ends (refuseIf condition error >>= next) folder returns raises := by
  rw [ends_bind, ends_refuseIf]
  exact ⟨fun _ => failed, later⟩

theorem owned_refl : request.Owned folder folder :=
  .inl rfl

/-- An entry is removed if it has the recorded fingerprint. -/
theorem ends_removeNode {node : Node} (here : folder request.target = some node) :
    Ends (request.removeNode node) folder
      (fun _ after => after = folder.write request.target none ∧ request.Owned folder after)
      (fun _ after => request.Owned folder after) := by
  unfold removeNode
  refine ends_after owned_refl (ends_unless owned_refl fun same => ?_)
  have recorded : request.fingerprintTargetAt request.canonicalPath node =
      some request.evidence.targetFingerprint := by
    simpa [matchesEvidence] using same
  have gone : request.Owned folder (folder.write request.target none) :=
    .inr ⟨node, here, recorded, rfl⟩
  refine ends_unless owned_refl fun _ => ends_after owned_refl (ends_after owned_refl ?_)
  refine ends_after owned_refl ?_
  rw [ends_bind, ends_get]
  refine ends_unless owned_refl fun _ => ends_after owned_refl ?_
  rw [ends_bind, ends_modify]
  refine ends_after gone ?_
  rw [ends_attempt]
  exact ⟨fun _ => gone, fun _ => ⟨rfl, gone⟩⟩

/-- A removal takes nothing but an entry with the recorded fingerprint, however it ends. -/
theorem ends_remove : Ends request.remove folder
    (fun removed after => request.Owned folder after ∧
      (removed = true → after request.target = none) ∧ (removed = false → after = folder))
    (fun _ after => request.Owned folder after) := by
  have emptied : folder.write request.target none request.target = none := Disk.write_self none
  unfold remove
  refine ends_unless owned_refl fun _ => ?_
  cases request.refusal with
  | some error => exact ends_throw.2 owned_refl
  | none =>
    refine ends_after owned_refl ?_
    rw [ends_bind, ends_conclude, ends_bind, ends_get]
    cases here : folder request.target with
    | none =>
      refine ends_pure.2 (ends_after owned_refl (ends_pure.2 ?_))
      exact ends_pure.2 ⟨owned_refl, by simp, fun _ => rfl⟩
    | some node =>
      dsimp only
      rw [ends_bind]
      refine (ends_removeNode here).mono ?_ ?_
      · rintro - after ⟨rfl, gone⟩
        refine ends_pure.2 (ends_after gone (ends_pure.2 ?_))
        refine ends_after gone (ends_pure.2 ⟨gone, fun _ => emptied, by simp⟩)
      · intro error after gone
        exact ends_after gone (ends_throw.2 gone)

end RemovalRequest

/-! ### The service -/

/-- A placement leaves other names alone, and its target as it should exactly when no failure comes
where the cleanup does not reach; a removal takes nothing but an entry with the recorded
fingerprint. -/
theorem placement_lawful_iff (placement : PlacementRequest) (removal : RemovalRequest)
    (folder : Folder) :
    ((placement.Lawful folder ↔ placement.Undisturbed folder) ∧
      Ends placement.execute folder (fun _ after => placement.Frame folder after)
        (fun _ after => placement.Frame folder after)) ∧
    Ends removal.remove folder
      (fun removed after => removal.Owned folder after ∧
        (removed = true → after removal.target = none) ∧ (removed = false → after = folder))
      (fun _ after => removal.Owned folder after) := by
  refine ⟨⟨PlacementRequest.lawful_iff, ?_⟩, RemovalRequest.ends_remove⟩
  exact PlacementRequest.confined_execute folder folder PlacementRequest.frame_refl

/-! ### A hard link that cannot be looked at -/

/-- A hard link is made, and the `fstat` after it fails. -/
def unseen : PlacementRequest where
  sourcePath := "/library/1.cbz"
  source := { device := 1, inode := 7, modified := 5, bytes := [] }
  fileAt path :=
    if path = "/library/1.cbz" then some { device := 1, inode := 7, modified := 5, bytes := [] }
    else none
  resolve _ := none
  linkText _ := "/library/1.cbz"
  sha256 _ := "e3b0"
  device := 1
  caseOnlyCollision _ := false
  preview _ := .ready
  sourceIsThere := rfl
  issueStoryArcId := 1
  libraryFileId := some 1
  readingOrder := 1
  mode := .hardlink
  symlinkStyle := none
  adoptIdenticalExisting := false
  existingManaged := none
  targetPath := "/arcs/1.cbz"
  target := "1.cbz"
  temporary := ".pullbox-story-arc-0.tmp"
  newInode := 8
  now := 6
  refusal := none
  fails step := step == .statPublished
  apart := by decide

theorem publishes_unseen : unseen.Publishes fun _ => none where
  places := by decide
  styled := by decide
  started := rfl
  ready := rfl
  admitted := rfl
  resolved := rfl
  alone := rfl
  owned := rfl
  journaled := rfl
  opens := ⟨rfl, rfl, rfl, rfl⟩
  links := ⟨rfl, rfl, rfl, rfl⟩

/-- The call raises, and the link stays. -/
theorem not_lawful : ¬ ∀ (request : PlacementRequest) (folder : Folder), request.Lawful folder := by
  intro always
  obtain ⟨bridges, -⟩ := PlacementRequest.lawful_iff.1 (always unseen fun _ => none) rfl
    publishes_unseen
  exact absurd bridges.1 (by decide)

end Pullbox.Arc.Placement
