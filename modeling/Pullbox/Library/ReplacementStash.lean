import Pullbox.Files.Moves

/-!
# Replaced files set aside

`core/file_ops.py`: the file that a registration replaces is moved aside before the new one is
placed. A registration that fails moves it back at once. One that succeeds leaves it to the hooks of
the session: the outermost commit discards what was set aside, the outermost rollback moves it back,
last in, first out. Within savepoints the hooks do nothing.
-/

namespace Pullbox.Library

open Files (Disk)

variable {Place Entry : Type}

/-- `_ReplacementStash`. -/
structure ReplacementStash (Place : Type) where
  libraryFile : Nat
  originalPath : Place
  stagedPath : Option Place
  stagedInTrash : Bool := false

/-- What the file system answers while a stash is restored: whether the file in the way can be
removed, and whether the original can be moved back. -/
structure RestoreAnswer where
  unlinks : Bool := true
  moves : Bool := true

/-- How a registration goes on once it knows what it replaces. -/
inductive RegistrationOutcome where
  /-- It fails before the replaced file is set aside. -/
  | notStaged
  /-- It fails after the file was moved and before its stash is known: the time of the file in the
  trash cannot be set, or the call is cancelled while the thread moves it. -/
  | stagingFailed
  /-- It fails after that, and the database keeps its transaction. -/
  | failed (answer : RestoreAnswer)
  /-- A flush fails, by which the session rolls its innermost transaction back. -/
  | flushFailed (answer : RestoreAnswer) (earlier : ℕ → RestoreAnswer)
  | registered

/-- A registration of a file: what it replaces, where that would be set aside, and what it then
writes and removes. -/
structure Registration (Place Entry : Type) where
  libraryFile : Nat
  /-- The path of the issue's library file, where it is to be replaced. -/
  replaces : Option Place
  preserveReplacedArtifact : Bool := false
  /-- Whether the new file is the replaced one itself. -/
  sameSource : Bool := false
  /-- Where the utility trash takes the file, if there is a trash folder. -/
  trashPath : Option Place := none
  /-- `_replacement_staging_path`. -/
  stagingPath : Place
  work : List (Place × Option Entry)
  /-- What the thread of a cancelled placement writes once the stash is restored. -/
  late : List (Place × Option Entry) := []
  outcome : RegistrationOutcome

variable [DecidableEq Place]

/-- Files written and removed, one after another. -/
def writeAll (work : List (Place × Option Entry)) (disk : Disk Place Entry) : Disk Place Entry :=
  work.foldl (fun disk one => disk.write one.1 one.2) disk

/-- `_stage_replacement_file`. -/
def stageReplacementFile (disk : Disk Place Entry) (registration : Registration Place Entry) :
    Disk Place Entry × Option (ReplacementStash Place) :=
  match registration.replaces with
  | none => (disk, none)
  | some originalPath =>
    let libraryFile := registration.libraryFile
    if registration.preserveReplacedArtifact then
      (disk, some { libraryFile, originalPath, stagedPath := none })
    else if disk originalPath = none then
      (disk, some { libraryFile, originalPath, stagedPath := none })
    else if registration.sameSource then
      (disk, some { libraryFile, originalPath, stagedPath := none })
    else
      match registration.trashPath with
      | some trash =>
        (disk.move ⟨originalPath, trash⟩,
          some { libraryFile, originalPath, stagedPath := some trash, stagedInTrash := true })
      | none =>
        (disk.move ⟨originalPath, registration.stagingPath⟩,
          some { libraryFile, originalPath, stagedPath := some registration.stagingPath })

/-- `_restore_replacement_stash_sync`, and whether it ends without an exception. The trash gives
nothing back to a place that is taken. -/
def restoreReplacementStash (stash : ReplacementStash Place) (answer : RestoreAnswer)
    (disk : Disk Place Entry) : Disk Place Entry × Bool :=
  match stash.stagedPath with
  | none => (disk, true)
  | some staged =>
    let cleared :=
      if (disk stash.originalPath).isSome && answer.unlinks then
        disk.write stash.originalPath none
      else disk
    if (cleared staged).isNone then (cleared, false)
    else if stash.stagedInTrash && (cleared stash.originalPath).isSome then (cleared, false)
    else if answer.moves then (cleared.move ⟨staged, stash.originalPath⟩, true)
    else (cleared, false)

/-- The stashes restored in turn; an exception ends it. -/
def restoreStashes (answers : ℕ → RestoreAnswer) :
    ℕ → List (ReplacementStash Place) → Disk Place Entry → Disk Place Entry
  | _, [], disk => disk
  | index, stash :: rest, disk =>
    let (after, made) := restoreReplacementStash stash (answers index) disk
    if made then restoreStashes answers (index + 1) rest after else after

/-- `_discard_replacement_stash_sync`, where the file can be removed. -/
def discardReplacementStash (stash : ReplacementStash Place) (disk : Disk Place Entry) :
    Disk Place Entry :=
  match stash.stagedPath with
  | none => disk
  | some staged => if stash.stagedInTrash then disk else disk.write staged none

/-- The stashes discarded in turn; an exception ends it. -/
def discardStashes (removes : ℕ → Bool) :
    ℕ → List (ReplacementStash Place) → Disk Place Entry → Disk Place Entry
  | _, [], disk => disk
  | index, stash :: rest, disk =>
    if removes index then
      discardStashes removes (index + 1) rest (discardReplacementStash stash disk)
    else disk

/-! ### Sessions -/

/-- A stash that awaits durability. What stood at the original path, and whether the savepoint of the
registration was rolled back, are only there to be told of. -/
structure Pending (Place Entry : Type) where
  stash : ReplacementStash Place
  content : Option Entry
  undone : Bool := false

/-- The files, the stashes of the transaction, and for each open savepoint, innermost first, how
many stashes there were when it was begun. -/
structure Session (Place Entry : Type) where
  disk : Disk Place Entry
  pending : List (Pending Place Entry) := []
  savepoints : List ℕ := []

namespace Session

variable (session : Session Place Entry)

def stashes : List (ReplacementStash Place) :=
  session.pending.map Pending.stash

/-- `_cleanup_deferred_replacement_stashes`. -/
def cleanupDeferredReplacementStashes (inNestedTransaction : Bool) (removes : ℕ → Bool) :
    Session Place Entry :=
  if inNestedTransaction then session
  else
    { session with disk := discardStashes removes 0 session.stashes session.disk, pending := [] }

/-- `_restore_deferred_replacement_stashes`. -/
def restoreDeferredReplacementStashes (inNestedTransaction : Bool) (answers : ℕ → RestoreAnswer) :
    Session Place Entry :=
  if inNestedTransaction then session
  else
    { session with
      disk := restoreStashes answers 0 session.stashes.reverse session.disk, pending := [] }

/-- The innermost transaction rolled back: a savepoint, or the transaction itself. -/
def rollbackInnermost (answers : ℕ → RestoreAnswer) : Session Place Entry :=
  match session.savepoints with
  | [] => session.restoreDeferredReplacementStashes false answers
  | mark :: outer =>
    let kept := session.restoreDeferredReplacementStashes true answers
    { kept with
      pending := kept.pending.take mark ++
        (kept.pending.drop mark).map fun one => { one with undone := true }
      savepoints := outer }

/-- The registration's own stash restored. -/
def restoreOwn (stash : Option (ReplacementStash Place)) (answer : RestoreAnswer) :
    Session Place Entry :=
  match stash with
  | none => session
  | some stash => { session with disk := (restoreReplacementStash stash answer session.disk).1 }

/-- A registration, from where the replaced file is set aside. The savepoint of the optional sync
work within it opens and ends before the stash is deferred, and its hooks do nothing. -/
def register (registration : Registration Place Entry) : Session Place Entry :=
  match registration.outcome with
  | .notStaged => session
  | .stagingFailed => { session with disk := (stageReplacementFile session.disk registration).1 }
  | .failed answer =>
    let (staged, stash) := stageReplacementFile session.disk registration
    let restored :=
      { session with disk := writeAll registration.work staged }.restoreOwn stash answer
    { restored with disk := writeAll registration.late restored.disk }
  | .flushFailed answer earlier =>
    let (staged, stash) := stageReplacementFile session.disk registration
    ({ session with disk := writeAll registration.work staged }.rollbackInnermost
      earlier).restoreOwn stash answer
  | .registered =>
    let (staged, stash) := stageReplacementFile session.disk registration
    let deferred := stash.toList.map fun stash =>
      { stash, content := session.disk stash.originalPath }
    { session with
      disk := writeAll registration.work staged
      pending := session.pending ++ deferred }

end Session

/-- One write of a session, or what ends it. -/
inductive SessionStep (Place Entry : Type) where
  | register (registration : Registration Place Entry)
  /-- Any other file that is written or removed. -/
  | write (place : Place) (entry : Option Entry)
  | beginNested
  | releaseNested
  | rollbackNested
  | commit (removes : ℕ → Bool)
  | rollback (answers : ℕ → RestoreAnswer)

/-- What a step makes of a session. A commit or rollback of the whole transaction ends its savepoints
first, and the hooks of these do nothing. -/
def Session.take (session : Session Place Entry) :
    SessionStep Place Entry → Session Place Entry
  | .register registration => session.register registration
  | .write place entry => { session with disk := session.disk.write place entry }
  | .beginNested =>
    { session with savepoints := session.pending.length :: session.savepoints }
  | .releaseNested => { session with savepoints := session.savepoints.tail }
  | .rollbackNested =>
    if session.savepoints = [] then session
    else session.rollbackInnermost fun _ => {}
  | .commit removes =>
    { session.cleanupDeferredReplacementStashes false removes with savepoints := [] }
  | .rollback answers =>
    { session.restoreDeferredReplacementStashes false answers with savepoints := [] }

/-- The place where a replaced file is set aside, which the code chooses free. -/
def Registration.asidePath (registration : Registration Place Entry) : Place :=
  registration.trashPath.getD registration.stagingPath

/-- What the code sees to before it sets a file aside. -/
def Allowed (session : Session Place Entry) : SessionStep Place Entry → Prop
  | .register registration => session.disk registration.asidePath = none
  | _ => True

/-- The sessions that steps which meet a condition lead to from a fresh one. -/
inductive Reached (condition : Session Place Entry → SessionStep Place Entry → Prop)
    (disk : Disk Place Entry) : Session Place Entry → Prop where
  | begun : Reached condition disk { disk }
  | step {session : Session Place Entry} {step : SessionStep Place Entry}
      (reached : Reached condition disk session) (allowed : Allowed session step)
      (meets : condition session step) : Reached condition disk (session.take step)

end Pullbox.Library
