import Pullbox.Files.Moves

/-!
# Locating the files of an interrupted reorder

`services/story_arc_managed_reorder.py`: each managed placement of a reorder has an old, a
temporary and a new path and the fingerprint of its file. An interrupted move leaves two names of
one file; recovery keeps the one that lies furthest in its direction and unlinks the others. The
paths of the plan are normal; what lies outside them does not change on the way.
-/

namespace Pullbox.Arc.Reorder

open Files (Disk)

universe u v

inductive EntryKind where
  | regular
  | symlink
  | other
deriving DecidableEq

/-- What stands at a path. -/
structure DiskEntry where
  inode : ℕ
  kind : EntryKind

/-- `StoryArcPlacementMode`, but for logical placements. -/
inductive PlacementMode where
  | copy
  | hardlink
  | symlink

/-- The paths that one placement moves between. -/
structure PlacementPlan (Path : Type u) (Fingerprint : Type v) where
  placementId : ℕ
  mode : PlacementMode
  oldPath : Path
  newPath : Path
  temporaryPath : Option Path
  canonicalPath : Option Path
  targetFingerprint : Fingerprint

/-- Whether a recovery goes on or goes back. -/
inductive RecoveryPreference where
  | new
  | old

/-- Why an artifact cannot be located. -/
inductive RecoveryError where
  | unreadable
  | missing
  | contested
  | duplicateChanged
  | system

def RecoveryError.message : RecoveryError → Option String
  | .missing => some "Managed placement is missing or changed during recovery"
  | .contested => some "Two managed placements claim the same recovery artifact"
  | .duplicateChanged => some "Duplicate recovery artifact changed before reconciliation"
  | _ => none

/-- How the operating system answers `unlink` and the `fsync` of the folder. -/
inductive UnlinkAnswer where
  | done
  | refused
  | unsynced

/-- The fingerprints that are taken of entries, by path and beside the canonical file, if they can
be; the paths that pass the checks on the root, the spelling and the canonical file; and the
answers of the operating system to the unlinks, in order. -/
structure RecoverySystem (Path : Type u) (Fingerprint : Type v) where
  fingerprintTarget : Path → DiskEntry → Option Fingerprint
  fingerprintTargetAt : Option Path → Path → DiskEntry → Option Fingerprint
  admissible : Option Path → Path → Bool
  answer : ℕ → UnlinkAnswer

/-- An unlink that was made, with the tree before it. -/
structure Removal (Path : Type u) (Fingerprint : Type v) where
  item : PlacementPlan Path Fingerprint
  path : Path
  before : Disk Path DiskEntry

section Model

variable {Path : Type u} {Fingerprint : Type v} [DecidableEq Path] [DecidableEq Fingerprint]

namespace PlacementPlan

/-- The old, the temporary and the new path. -/
def paths (item : PlacementPlan Path Fingerprint) : List Path :=
  item.oldPath :: item.temporaryPath.toList ++ [item.newPath]

def preference (item : PlacementPlan Path Fingerprint) : RecoveryPreference → List Path
  | .new => item.newPath :: item.temporaryPath.toList ++ [item.oldPath]
  | .old => item.oldPath :: item.temporaryPath.toList ++ [item.newPath]

end PlacementPlan

/-- `_validate_removal_representation_at`. -/
def validRemoval (mode : PlacementMode) (kind : EntryKind) : Bool :=
  match mode with
  | .symlink => kind == .symlink
  | _ => kind == .regular

namespace RecoverySystem

variable (system : RecoverySystem Path Fingerprint)

/-- The fingerprint of what stands at a path. -/
def current (tree : Disk Path DiskEntry) (path : Path) : Option Fingerprint :=
  (tree path).bind (system.fingerprintTarget path)

/-- The checks of `_unlink_exact_duplicate`. -/
def exactDuplicate (item : PlacementPlan Path Fingerprint) (path : Path) (entry : DiskEntry) :
    Bool :=
  system.admissible item.canonicalPath path && validRemoval item.mode entry.kind &&
    system.fingerprintTargetAt item.canonicalPath path entry == some item.targetFingerprint

end RecoverySystem

/-- Where the loop over the placements stands. -/
structure Recovery (Path : Type u) (Fingerprint : Type v) where
  tree : Disk Path DiskEntry
  fingerprints : Path → Option Fingerprint
  locations : List (ℕ × Path)
  claimed : List Path
  removals : List (Removal Path Fingerprint)

namespace Recovery

/-- The recorded paths where the file of a placement was found. -/
def candidates (recovery : Recovery Path Fingerprint) (item : PlacementPlan Path Fingerprint) :
    List Path :=
  item.paths.filter fun path => recovery.fingerprints path = some item.targetFingerprint

/-- The unlinked name. -/
def unlink (recovery : Recovery Path Fingerprint) (item : PlacementPlan Path Fingerprint)
    (path : Path) : Recovery Path Fingerprint :=
  { recovery with
    tree := recovery.tree.write path none
    fingerprints := Function.update recovery.fingerprints path none
    removals := recovery.removals ++ [{ item, path, before := recovery.tree }] }

omit [DecidableEq Fingerprint] in
@[simp] theorem unlink_tree (recovery : Recovery Path Fingerprint)
    (item : PlacementPlan Path Fingerprint) (path : Path) :
    (recovery.unlink item path).tree = recovery.tree.write path none := rfl

omit [DecidableEq Fingerprint] in
@[simp] theorem unlink_fingerprints (recovery : Recovery Path Fingerprint)
    (item : PlacementPlan Path Fingerprint) (path : Path) :
    (recovery.unlink item path).fingerprints =
      Function.update recovery.fingerprints path none := rfl

omit [DecidableEq Fingerprint] in
@[simp] theorem unlink_removals (recovery : Recovery Path Fingerprint)
    (item : PlacementPlan Path Fingerprint) (path : Path) :
    (recovery.unlink item path).removals =
      recovery.removals ++ [{ item, path, before := recovery.tree }] := rfl

/-- `_unlink_exact_duplicate`. -/
def unlinkExactDuplicate (system : RecoverySystem Path Fingerprint)
    (item : PlacementPlan Path Fingerprint) (path : Path)
    (recovery : Recovery Path Fingerprint) : Recovery Path Fingerprint × Option RecoveryError :=
  match recovery.tree path with
  | none => (recovery, some .system)
  | some entry =>
    if system.exactDuplicate item path entry then
      match system.answer recovery.removals.length with
      | .done => (recovery.unlink item path, none)
      | .refused => (recovery, some .system)
      | .unsynced => (recovery.unlink item path, some .system)
    else (recovery, some .duplicateChanged)

/-- The candidates but for the selected one, one after the other. -/
def clear (system : RecoverySystem Path Fingerprint) (item : PlacementPlan Path Fingerprint)
    (selected : Path) :
    List Path → Recovery Path Fingerprint → Recovery Path Fingerprint × Option RecoveryError
  | [], recovery => (recovery, none)
  | duplicate :: rest, recovery =>
    if duplicate = selected then clear system item selected rest recovery
    else
      match unlinkExactDuplicate system item duplicate recovery with
      | (after, none) => clear system item selected rest after
      | (after, some error) => (after, some error)

/-- One placement of the loop. -/
def locate (system : RecoverySystem Path Fingerprint) (prefer : RecoveryPreference)
    (item : PlacementPlan Path Fingerprint) (recovery : Recovery Path Fingerprint) :
    Recovery Path Fingerprint × Option RecoveryError :=
  let candidates := recovery.candidates item
  match (item.preference prefer).find? fun path => candidates.contains path with
  | none => (recovery, some .missing)
  | some selected =>
    if recovery.claimed.contains selected then (recovery, some .contested)
    else
      match clear system item selected candidates recovery with
      | (after, some error) => (after, some error)
      | (after, none) =>
        ({ after with
          locations := after.locations ++ [(item.placementId, selected)]
          claimed := selected :: after.claimed }, none)

def locateAll (system : RecoverySystem Path Fingerprint) (prefer : RecoveryPreference) :
    List (PlacementPlan Path Fingerprint) → Recovery Path Fingerprint →
      Recovery Path Fingerprint × Option RecoveryError
  | [], recovery => (recovery, none)
  | item :: rest, recovery =>
    match locate system prefer item recovery with
    | (after, some error) => (after, some error)
    | (after, none) => locateAll system prefer rest after

/-- Before the loop: the fingerprints of what stands at the paths of the plan. -/
def start (system : RecoverySystem Path Fingerprint)
    (plans : List (PlacementPlan Path Fingerprint)) (tree : Disk Path DiskEntry) :
    Recovery Path Fingerprint where
  tree := tree
  fingerprints path :=
    if path ∈ plans.flatMap PlacementPlan.paths then system.current tree path else none
  locations := []
  claimed := []
  removals := []

end Recovery

/-- `_locate_managed_artifacts`: where the loop ends, and what it raises. -/
def locateManagedArtifacts (system : RecoverySystem Path Fingerprint) (prefer : RecoveryPreference)
    (plans : List (PlacementPlan Path Fingerprint)) (tree : Disk Path DiskEntry) :
    Recovery Path Fingerprint × Option RecoveryError :=
  let start := Recovery.start system plans tree
  if (plans.flatMap PlacementPlan.paths).any fun path =>
      (tree path).isSome && (system.current tree path).isNone then (start, some .unreadable)
  else Recovery.locateAll system prefer plans start

end Model

end Pullbox.Arc.Reorder
