import Pullbox.Arc.Placement

/-!
# Which names a placement touches

The target and its temporary name, and no others, however the call ends.
-/

namespace Pullbox.Arc.Placement

open Files (Disk)
open Durable (Session)
open Durable.Session

namespace PlacementRequest

variable {request : PlacementRequest} {origin folder : Folder} {α β : Type} {entry : Option Node}
  {error : PlacementError} {step : PlacementStep}

/-- The names but for the target and the temporary one name what they did. -/
def Frame (request : PlacementRequest) (origin folder : Folder) : Prop :=
  ∀ name, name ≠ request.target → name ≠ request.temporary → folder name = origin name

theorem frame_refl : request.Frame folder folder :=
  fun _ _ _ => rfl

theorem Frame.target (frame : request.Frame origin folder) :
    request.Frame origin (folder.write request.target entry) := by
  intro name notTarget notTemporary
  rw [Disk.write_of_ne notTarget]
  exact frame name notTarget notTemporary

theorem Frame.temporary (frame : request.Frame origin folder) :
    request.Frame origin (folder.write request.temporary entry) := by
  intro name notTarget notTemporary
  rw [Disk.write_of_ne notTemporary]
  exact frame name notTarget notTemporary

/-- A session that touches no other name. -/
def Confined (request : PlacementRequest) (session : Act α) : Prop :=
  ∀ origin folder, request.Frame origin folder →
    Ends session folder (fun _ after => request.Frame origin after)
      (fun _ after => request.Frame origin after)

/-! ### How sessions compose -/

theorem confined_pure {value : α} : request.Confined (pure value) :=
  fun _ _ frame => frame

theorem confined_throw :
    request.Confined (throw error : Act α) :=
  fun _ _ frame => frame

theorem confined_get : request.Confined (get : Act Folder) :=
  fun _ _ frame => frame

theorem confined_target : request.Confined
    (modify fun folder => folder.write request.target entry : Act PUnit) :=
  fun _ _ frame => ends_modify.2 frame.target

theorem confined_temporary : request.Confined
    (modify fun folder => folder.write request.temporary entry : Act PUnit) :=
  fun _ _ frame => ends_modify.2 frame.temporary

theorem confined_refuseIf {condition : Prop} [Decidable condition] :
    request.Confined (refuseIf condition error) :=
  fun _ _ frame => ends_refuseIf.2 ⟨fun _ => frame, fun _ => frame⟩

theorem confined_attempt : request.Confined (request.attempt step) :=
  confined_refuseIf

theorem Confined.bind {first : Act α} {next : α → Act β} (confined : request.Confined first)
    (later : ∀ value, request.Confined (next value)) : request.Confined (first >>= next) := by
  intro origin folder frame
  rw [ends_bind]
  exact (confined origin folder frame).mono (fun value after held => later value origin after held)
    (fun _ _ held => held)

theorem Confined.conclude {body : Act α} {returned : α → Act β} {raised : PlacementError → Act β}
    (confined : request.Confined body) (returns : ∀ value, request.Confined (returned value))
    (raises : ∀ error, request.Confined (raised error)) :
    request.Confined (conclude body returned raised) := by
  intro origin folder frame
  rw [ends_conclude]
  exact (confined origin folder frame).mono
    (fun value after held => returns value origin after held)
    (fun error after held => raises error origin after held)

/-- After a step. -/
theorem confined_after {next : PUnit → Act α}
    (later : ∀ value, request.Confined (next value)) :
    request.Confined (request.attempt step >>= next) :=
  confined_attempt.bind later

theorem confined_unless {condition : Prop} [Decidable condition]
    {next : PUnit → Act α} (later : ∀ value, request.Confined (next value)) :
    request.Confined (refuseIf condition error >>= next) :=
  confined_refuseIf.bind later

theorem confined_reading {next : Folder → Act α} (later : ∀ value, request.Confined (next value)) :
    request.Confined (get >>= next) :=
  confined_get.bind later

theorem confined_closing {body : Act α} (confined : request.Confined body) :
    request.Confined (request.closing step body) :=
  confined.conclude (fun _ => confined_after fun _ => confined_pure)
    (fun _ => confined_after fun _ => confined_throw)

/-! ### The parts of a placement -/

theorem confined_link {node : Node} : request.Confined (request.link node) :=
  confined_after fun _ => confined_reading fun _ => confined_unless fun _ => confined_target

theorem confined_writeChunks {index : ℕ} {written : List UInt8} {chunks : List (List UInt8)} :
    request.Confined (request.writeChunks index written chunks) := by
  induction chunks generalizing index written with
  | nil => exact confined_pure
  | cons chunk rest ih =>
    exact confined_after fun _ => confined_after fun _ => confined_temporary.bind fun _ => ih

theorem confined_fillAndLink : request.Confined request.fillAndLink :=
  confined_writeChunks.bind fun _ => confined_after fun _ => confined_unless fun _ =>
    confined_after fun _ => confined_link.bind fun _ => confined_pure

theorem confined_dropTemporary {published : Bool} :
    request.Confined (request.dropTemporary published) := by
  unfold dropTemporary
  split
  · exact confined_pure
  · exact confined_after fun _ => confined_temporary

theorem confined_publishCopyAt : request.Confined request.publishCopyAt := by
  refine confined_after fun _ => confined_closing ?_
  refine confined_after fun _ => confined_unless fun _ => confined_after fun _ => ?_
  refine confined_reading fun _ => confined_unless fun _ => confined_temporary.bind fun _ => ?_
  refine confined_fillAndLink.conclude (fun _ => ?_) (fun _ => ?_)
  · exact confined_dropTemporary.bind fun _ => confined_after fun _ => confined_pure
  · exact confined_dropTemporary.bind fun _ => confined_throw

theorem confined_publishHardlinkAt : request.Confined request.publishHardlinkAt := by
  refine confined_after fun _ => confined_closing ?_
  refine confined_after fun _ => confined_unless fun _ => confined_unless fun _ => ?_
  exact confined_link.bind fun _ => confined_after fun _ => confined_pure

theorem confined_publishSymlinkAt {style : StoryArcSymlinkStyle} :
    request.Confined (request.publishSymlinkAt style) :=
  confined_after fun _ => confined_unless fun _ => confined_link.bind fun _ =>
    confined_after fun _ => confined_pure

theorem confined_publish : request.Confined request.publish := by
  unfold publish
  split
  · exact confined_publishCopyAt
  · exact confined_publishHardlinkAt
  · exact confined_publishSymlinkAt
  · exact confined_throw

theorem confined_validatePublishedTargetAt :
    request.Confined request.validatePublishedTargetAt := by
  refine confined_after fun _ => confined_reading fun folder => ?_
  cases folder request.target with
  | none => exact confined_throw
  | some node =>
    refine confined_unless fun _ => ?_
    cases request.fingerprintTargetAt (some request.sourcePath) node with
    | none => exact confined_throw
    | some fingerprint =>
      exact confined_unless fun _ => confined_unless fun _ => confined_pure

theorem confined_removeIfPublished {published : Published} :
    request.Confined (request.removeIfPublished published) := by
  refine confined_after fun _ => confined_after fun _ => confined_reading fun folder => ?_
  cases folder request.target with
  | none => exact confined_pure
  | some node =>
    dsimp only
    split
    · exact confined_pure
    · exact confined_after fun _ => confined_after fun _ => confined_target.bind fun _ =>
        confined_attempt

theorem confined_settle {published : Published} : request.Confined (request.settle published) := by
  refine Confined.conclude ?_ (fun _ => confined_pure) (fun _ => ?_)
  · exact confined_after fun _ => confined_validatePublishedTargetAt.bind fun _ =>
      confined_after fun _ => confined_after fun _ => confined_pure
  · exact (confined_removeIfPublished.conclude (fun _ => confined_pure)
      (fun _ => confined_pure)).bind fun _ => confined_throw

theorem confined_publishInParent : request.Confined request.publishInParent := by
  refine confined_after fun _ => confined_closing (confined_after fun _ => ?_)
  refine Confined.bind ?_ fun _ => confined_publish.bind fun _ => confined_settle
  exact confined_after fun _ => confined_reading fun _ => confined_unless fun _ =>
    confined_refuseIf

theorem confined_placeAnew {preview : Preview} :
    request.Confined (request.placeAnew preview) := by
  unfold placeAnew
  cases preview with
  | noTarget code => exact confined_throw
  | blocked code => exact confined_throw
  | represented => exact confined_throw
  | ready =>
    dsimp only
    cases request.existingManaged.bind request.validateManagedEvidence with
    | some error => exact confined_throw
    | none =>
      exact confined_after fun _ => confined_publishInParent.bind fun _ =>
        confined_after fun _ => confined_pure

theorem confined_resolveExistingTarget : request.Confined request.resolveExistingTarget := by
  refine confined_after fun _ => confined_reading fun folder => confined_unless fun _ => ?_
  cases folder request.target with
  | none => exact confined_pure
  | some node =>
    dsimp only
    cases request.resolveNode node with
    | ok result => exact confined_pure
    | error error => exact confined_throw

/-- A placement touches its target and its temporary name only. -/
theorem confined_execute : request.Confined request.execute := by
  refine confined_unless fun _ => ?_
  split
  · exact confined_unless fun _ => confined_pure
  · refine confined_after fun _ => confined_reading fun folder => ?_
    cases request.preview folder with
    | noTarget code => exact confined_throw
    | blocked | ready | represented =>
      cases request.refusal with
      | some error => exact confined_throw
      | none =>
        refine confined_resolveExistingTarget.bind fun found => ?_
        cases found with
        | some result => exact confined_pure
        | none => exact confined_placeAnew

end PlacementRequest

end Pullbox.Arc.Placement
