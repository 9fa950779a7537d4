import Mathlib.Data.Int.Notation
import Pullbox.Files.Forest
import Pullbox.Files.Pure

/-!
# The utility trash

Files and folders are moved into the trash under names that are free there, and what was moved is
stamped with the time of the move. A clean-up walks the trash and deletes each file whose
modification time is older than the retention.
-/

namespace Pullbox.Utility.Trash

open Files

/-- A `datetime` can say the time, in microseconds. -/
def Dated (time : ℤ) : Prop :=
  -62135596800000000 ≤ time ∧ time < 253402300800000000

instance (time : ℤ) : Decidable (Dated time) :=
  inferInstanceAs (Decidable (_ ∧ _))

/-- What `datetime.now` returns. -/
abbrev Moment := { time : ℤ // Dated time }

abbrev Name := List Char

/-- A file in the trash: its `st_mtime`, when it was moved there, and whether it was stamped with
that time itself. -/
structure Trashed where
  modified : ℤ
  movedAt : ℤ
  stamped : Bool
deriving DecidableEq

abbrev Contents := Forest Name Trashed

/-! ### Moving into the trash -/

/-- `build_trash_destination`; the names of `relative_path` without an anchor. -/
def buildTrashDestination (sourceName : Name) (relativePath : Option (List Name)) : List Name :=
  match relativePath with
  | none => [sourceName]
  | some [] => [sourceName]
  | some relative => relative

/-- `f"{stem} ({counter}){suffix}"`. -/
def numbered (name : Name) (counter : ℕ) : Name :=
  let suffix := nameSuffix name
  let stem := name.take (name.length - suffix.length)
  stem ++ " (".toList ++ Nat.toDigits 10 counter ++ [')'] ++ suffix

/-- The first number that is not taken, among so many. -/
def firstFree (taken : ℕ → Bool) : ℕ → ℕ → ℕ
  | 0, counter => counter
  | more + 1, counter => if taken counter then firstFree taken more (counter + 1) else counter

/-- `_dedupe_destination_path`. A folder has no more numbered names than it has entries. -/
def dedupeDestinationPath (trash : Contents) (path : List Name) : List Name :=
  if trash.holds path then
    let name := path.getLastD []
    let entries := ((trash.folderAt path.dropLast).map fun folder => folder.names.length).getD 0
    let counter := firstFree (fun counter => trash.holds (path.dropLast ++ [numbered name counter]))
      entries 1
    path.dropLast ++ [numbered name counter]
  else path

/-- What was moved, after `os.utime` if that succeeds: a file is stamped itself, of a folder only
the folder. -/
def stamped (now : Moment) (utime : Bool) : Item Name ℤ → Item Name Trashed
  | .file modified => .file (if utime then ⟨now, now, true⟩ else ⟨modified, now, false⟩)
  | .folder inside => .folder (inside.map fun modified => ⟨modified, now, false⟩)

/-- `move_path_to_utility_trash`: the trash after it, and the destination if nothing is raised.
Where `os.utime` raises, the file or folder was moved already. -/
def movePathToUtilityTrash (now : Moment) (sourceName : Name) (relativePath : Option (List Name))
    (source : Item Name ℤ) (utime : Bool) (trash : Contents) : Contents × Option (List Name) :=
  let trashDest := dedupeDestinationPath trash (buildTrashDestination sourceName relativePath)
  match trash.put (stamped now utime source) trashDest with
  | none => (trash, none)
  | some after => (after, if utime then some trashDest else none)

/-! ### Cleaning up -/

def day : ℤ := 86400000000

def cutoff (now : Moment) (retentionDays : ℕ) : ℤ :=
  now - retentionDays * day

/-- One folder: its files in the order of their names, until one has a time without a date. -/
def retention (cutoff : ℤ) (files : List (Name × Trashed)) : Forest.Decision Name Trashed where
  drops name file := Dated file.modified ∧ ¬ cutoff < file.modified ∧
    ∀ other ∈ files, ¬ Dated other.2.modified → name < other.1
  ends := ∃ file ∈ files, ¬ Dated file.2.modified

/-- `cleanup_utility_trash_retention`, and whether it raises an error. -/
def cleanupUtilityTrashRetention (now : Moment) (retentionDays : ℕ) (trash : Contents) :
    Contents × Bool :=
  if Dated (cutoff now retentionDays) then trash.sweep (retention (cutoff now retentionDays))
  else (trash, true)

/-! ### Runs -/

/-- What happens to the trash. -/
inductive Event where
  | move (now : Moment) (sourceName : Name) (relativePath : Option (List Name))
      (source : Item Name ℤ) (utime : Bool)
  | cleanup (now : Moment) (retentionDays : ℕ)

def step (trash : Contents) : Event → Contents
  | .move now sourceName relativePath source utime =>
    (movePathToUtilityTrash now sourceName relativePath source utime trash).1
  | .cleanup now retentionDays => (cleanupUtilityTrashRetention now retentionDays trash).1

/-- Something holds of each event and the trash before it. -/
def Along (holds : Contents → Event → Prop) : Contents → List Event → Prop
  | _, [] => True
  | trash, event :: rest => holds trash event ∧ Along holds (step trash event) rest

/-! ### What is promised -/

/-- A move takes nothing away, and a clean-up takes the files that were moved to the trash longer
ago than the retention, and no other. -/
def Lawful (before : Contents) : Event → Prop
  | .move now sourceName relativePath source utime =>
    let moved := movePathToUtilityTrash now sourceName relativePath source utime before
    (∀ entry ∈ before.entries, entry ∈ moved.1.entries) ∧
      ∀ trashDest, moved.2 = some trashDest →
        ∀ own ∈ (stamped now utime source).entries,
          (trashDest ++ own.1, own.2) ∈ moved.1.entries
  | .cleanup now retentionDays =>
    let after := step before (.cleanup now retentionDays)
    ∀ place file, (place, some file) ∈ before.entries →
      ((place, some file) ∈ after.entries ↔ cutoff now retentionDays < file.movedAt)

end Pullbox.Utility.Trash
