import Pullbox.Durable.Log
import Pullbox.Text.Datetime

/-!
# The backup service

Archives of the database in the backup directory: they are created, restored, deleted and
cleaned up (`backup_service.py`). The files of the directory are kept by name. A restore is the
list of its durable steps, so that it can stop after any of them.

An instant is a number of microseconds. How an archive is packed and checked is left out: a file is
sound or it is not.
-/

namespace Pullbox.Backup

open Durable List Text

/-- A page of a database file. -/
abbrev Page : Type :=
  List UInt8

abbrev Database : Type :=
  LoggedStore Page

/-- The metadata of an archive, with `created_at` parsed. -/
structure BackupInfo where
  createdAt : Option Int
  backupType : String
deriving DecidableEq

/-- A file of the backup directory: the database in it, the metadata that can be read, whether it
passes the checks of a restore, and its modification time. -/
structure BackupFile where
  pages : List Page
  info : Option BackupInfo := none
  sound : Bool := false
  modifiedAt : Int := 0
deriving DecidableEq

/-- The database with its log, and the files of the backup folder. -/
structure BackupState where
  database : Database
  shm : Bool := false
  files : List Char → Option BackupFile := fun _ => none

/-! ### Names -/

/-- `strftime("%Y%m%d_%H%M%S")`. -/
def stamp (reading : Reading) : List Char :=
  padDigits 4 reading.year ++ padDigits 2 reading.month ++ padDigits 2 reading.day ++ ['_'] ++
    padDigits 2 reading.hour ++ padDigits 2 reading.minute ++ padDigits 2 reading.second

/-- `BACKUP_PREFIX`. -/
def backupPrefix : List Char :=
  "pullbox_backup_".toList

/-- `BACKUP_EXTENSION`. -/
def backupExtension : List Char :=
  ".zip".toList

/-- The name of an archive that is created at a reading of the local clock. -/
def backupName (reading : Reading) : List Char :=
  backupPrefix ++ stamp reading ++ backupExtension

/-- The name of the copy that a restore makes. -/
def safetyName (reading : Reading) : List Char :=
  "pullbox_pre_restore_".toList ++ stamp reading ++ ".db".toList

/-- The pattern of the archives. -/
def isBackupName (name : List Char) : Bool :=
  backupPrefix.isPrefixOf name && backupExtension.isSuffixOf name && !name.contains '/'

namespace BackupState

/-- `_is_valid_backup_path`, with the file. -/
def validBackup (state : BackupState) (name : List Char) : Option BackupFile :=
  if isBackupName name then state.files name else none

def putFile (state : BackupState) (name : List Char) (file : Option BackupFile) : BackupState :=
  { state with files := Function.update state.files name file }

/-! ### Creating -/

/-- How `create_backup` ends. -/
inductive CreateEnd where
  | created
  /-- The directory cannot be made. -/
  | noDirectory
  /-- An exception in the body, before or after the archive was opened for writing. What
  is not one of the exceptions that the body handles, or ends the process, keeps the file. -/
  | failed (opened handled : Bool)

/-- The archive of the database. -/
def archive (state : BackupState) (backupType : String) (now : Int) : BackupFile where
  pages := state.database.content
  info := some { createdAt := some now, backupType := backupType }
  sound := true
  modifiedAt := now

/-- `create_backup`; a file that was only begun is `unfinished`. -/
def createBackup (state : BackupState) (reading : Reading) (backupType : String) (now : Int)
    (unfinished : BackupFile) : CreateEnd → BackupState
  | .created => state.putFile (backupName reading) (some (state.archive backupType now))
  | .noDirectory => state
  | .failed opened handled =>
    let begun := if opened then state.putFile (backupName reading) (some unfinished) else state
    if handled then begun.putFile (backupName reading) none else begun

/-! ### Restoring -/

/-- The safety copy holds these pages of the main file so far. -/
def putSafety (name : List Char) (modifiedAt : Int) (pages : List Page) (state : BackupState) :
    BackupState :=
  state.putFile name (some { pages := pages, modifiedAt := modifiedAt })

def putMain (pages : List Page) (state : BackupState) : BackupState :=
  { state with database := { state.database with main := pages } }

/-- `unlink` of the log. The code unlinks `with_suffix(".db-wal")`, which is the log of a database
whose file is named `*.db`, as the default one is. -/
def removeLog (state : BackupState) : BackupState :=
  { state with database := { state.database with log := [], unfinished := [] } }

def removeShm (state : BackupState) : BackupState :=
  { state with shm := false }

/-- The durable steps of `restore_backup` on an archive that passes the checks: the main file is
copied, replaced in place, and the log and its index are removed. -/
def restoreSteps (state : BackupState) (archive : BackupFile) (reading : Reading)
    (modifiedAt : Int) : List (BackupState → BackupState) :=
  (copyStages state.database.main).map (putSafety (safetyName reading) modifiedAt) ++
    (copyStages archive.pages).map putMain ++ [removeLog, removeShm]

/-- `restore_backup`, which fails or dies after some of its durable steps if there are more. -/
def restoreBackup (state : BackupState) (name : List Char) (reading : Reading)
    (modifiedAt : Int) (steps : Nat) : BackupState :=
  match state.validBackup name with
  | none => state
  | some archive =>
    if archive.sound then
      runSteps ((state.restoreSteps archive reading modifiedAt).take steps) state
    else state

/-! ### Deleting -/

/-- `delete_backup`. -/
def deleteBackup (state : BackupState) (name : List Char) : BackupState :=
  match state.validBackup name with
  | none => state
  | some _ => state.putFile name none

/-- `_backup_created_timestamp`. -/
def createdTimestamp (file : BackupFile) : Int :=
  (file.info.bind BackupInfo.createdAt).getD file.modifiedAt

/-- A scheduled archive that is older than the retention period. -/
def due (retentionDays now : Int) (name : List Char) (file : BackupFile) : Bool :=
  isBackupName name && file.info.any (·.backupType = "scheduled") &&
    createdTimestamp file < now - retentionDays * 86400 * 1000000

/-- `cleanup_old_backups`. -/
def cleanupOldBackups (state : BackupState) (retentionDays now : Int) : BackupState :=
  { state with
    files := fun name => (state.files name).filter fun file => !due retentionDays now name file }

end BackupState

end Pullbox.Backup

/-!
## What a restore leaves of the database

A restore copies the main file alone and then writes over it while the log is still there. What
can be read from the database after each of its steps follows from the pages copied so far and
the log.
-/

namespace Pullbox.Backup

open Durable List Text

namespace BackupState

variable {state : BackupState} {archive : BackupFile} {reading : Reading} {modifiedAt : Int}
  {name : List Char} {steps : Nat}

/-- How many steps come before the first write to the live database. -/
def untouched (state : BackupState) : Nat :=
  state.database.main.length + 1

theorem putSafety_putSafety (name : List Char) (modifiedAt : Int) (first second : List Page)
    (state : BackupState) :
    putSafety name modifiedAt second (putSafety name modifiedAt first state) =
      putSafety name modifiedAt second state := by
  simp [putSafety, putFile]

theorem putMain_putMain (first second : List Page) (state : BackupState) :
    putMain second (putMain first state) = putMain second state :=
  rfl

/-- The last of the first stages of a copy. -/
theorem getLast?_take_copyStages (source : List Page) (count : Nat) :
    ((copyStages source).take (count + 1)).getLast? = some (source.take count) := by
  rw [List.getLast?_eq_getElem?, length_take, length_copyStages]
  by_cases short : count ≤ source.length
  · have last : min (count + 1) (source.length + 1) - 1 = count := by omega
    rw [last, List.getElem?_take, if_pos (by omega), copyStages_getElem? short]
  · have last : min (count + 1) (source.length + 1) - 1 = source.length := by omega
    rw [last, List.getElem?_take, if_pos (by omega), copyStages_getElem? le_rfl,
      take_of_length_le le_rfl, take_of_length_le (by omega)]

/-- The first steps copy the main file. -/
theorem restore_first {written : Nat} (early : written ≤ state.database.main.length) :
    runSteps ((state.restoreSteps archive reading modifiedAt).take (written + 1)) state =
      putSafety (safetyName reading) modifiedAt (state.database.main.take written) state := by
  rw [restoreSteps, append_assoc, take_append_of_le_length, ← map_take,
    runSteps_put _ (putSafety_putSafety _ _), getLast?_take_copyStages]
  rw [length_map, length_copyStages]
  omega

theorem restore_copying (early : steps ≤ state.untouched) :
    (runSteps ((state.restoreSteps archive reading modifiedAt).take steps) state).database =
      state.database := by
  cases steps with
  | zero => rfl
  | succ written =>
    rw [restore_first (Nat.le_of_succ_le_succ early)]
    rfl

/-- The state when the main file has been copied and nothing else was done. -/
def copied (state : BackupState) (reading : Reading) (modifiedAt : Int) : BackupState :=
  putSafety (safetyName reading) modifiedAt state.database.main state

/-- The steps after the safety copy. -/
def replaceSteps (archive : BackupFile) : List (BackupState → BackupState) :=
  (copyStages archive.pages).map putMain ++ [removeLog, removeShm]

theorem restore_after_copy (later : Nat) :
    runSteps ((state.restoreSteps archive reading modifiedAt).take (state.untouched + later)) state =
      runSteps ((replaceSteps archive).take later) (state.copied reading modifiedAt) := by
  have whole : runSteps ((copyStages state.database.main).map
      (putSafety (safetyName reading) modifiedAt)) state = state.copied reading modifiedAt := by
    have last := getLast?_take_copyStages state.database.main state.database.main.length
    rw [take_of_length_le (length_copyStages _).le, take_of_length_le le_rfl] at last
    rw [runSteps_put _ (putSafety_putSafety _ _), last]
    rfl
  have long : ((copyStages state.database.main).map
      (putSafety (safetyName reading) modifiedAt)).length = state.untouched := by
    rw [length_map, length_copyStages]
    rfl
  rw [restoreSteps, append_assoc, ← long, take_length_add_append, runSteps_append, whole]
  rfl

/-- While the backup is copied, the log is still there. -/
theorem replace_copying {written : Nat} (within : written ≤ archive.pages.length)
    (start : BackupState) :
    runSteps ((replaceSteps archive).take (written + 1)) start =
      putMain (archive.pages.take written) start := by
  rw [replaceSteps, take_append_of_le_length, ← map_take,
    runSteps_put _ putMain_putMain, getLast?_take_copyStages]
  rw [length_map, length_copyStages]
  omega

/-- When the backup is copied, the log is removed, and then its index. -/
theorem replace_finished {written : Nat} (beyond : archive.pages.length < written)
    (start : BackupState) :
    (runSteps ((replaceSteps archive).take (written + 1)) start).database =
        { main := archive.pages } ∧
      (runSteps ((replaceSteps archive).take (written + 1)) start).files = start.files := by
  obtain ⟨more, rfl⟩ := Nat.exists_eq_add_of_lt beyond
  have long : ((copyStages archive.pages).map putMain).length = archive.pages.length + 1 := by
    rw [length_map, length_copyStages]
  have whole : runSteps ((copyStages archive.pages).map putMain) start =
      putMain archive.pages start := by
    have last := getLast?_take_copyStages archive.pages archive.pages.length
    rw [take_of_length_le (length_copyStages _).le, take_of_length_le le_rfl] at last
    rw [runSteps_put _ putMain_putMain, last]
  have split : archive.pages.length + more + 1 + 1 =
      ((copyStages archive.pages).map putMain).length + (more + 1) := by omega
  rw [replaceSteps, split, take_length_add_append, runSteps_append, whole]
  cases more with
  | zero => exact ⟨rfl, rfl⟩
  | succ more =>
    rw [take_of_length_le (Nat.le_add_left 2 more)]
    exact ⟨rfl, rfl⟩

/-- What the database says after a restore is what it said or what the backup says, and once the
live files were written to, the safety copy holds all of what they said. -/
structure Recoverable (state after : BackupState) (archive : BackupFile) (safety : List Char)
    (touched : Prop) : Prop where
  content : after.database.content = state.database.content ∨
    after.database.content = archive.pages
  safetyCopy : touched → ∃ copy, after.files safety = some copy ∧
    copy.pages = state.database.content

/-- The restore stops before it writes to the live files; or the log holds nothing that the main
file lacks, and the log is gone already or leads from the pages copied so far to the old or the
new content. -/
def SafePoint (state : BackupState) (archive : BackupFile) (steps : Nat) : Prop :=
  steps ≤ state.untouched ∨
    (state.database.content = state.database.main ∧
      (state.untouched + archive.pages.length + 1 < steps ∨
        replay state.database.log (archive.pages.take (steps - state.untouched - 1)) =
          state.database.main ∨
        replay state.database.log (archive.pages.take (steps - state.untouched - 1)) =
          archive.pages))

/-- For every database, archive and point at which it stops, a restore is recoverable exactly when
that point is safe. -/
theorem restore_recoverable_iff (found : state.validBackup name = some archive)
    (sound : archive.sound = true) :
    Recoverable state (state.restoreBackup name reading modifiedAt steps) archive
        (safetyName reading) (state.untouched < steps) ↔ SafePoint state archive steps := by
  have same : state.restoreBackup name reading modifiedAt steps =
      runSteps ((state.restoreSteps archive reading modifiedAt).take steps) state := by
    simp only [restoreBackup, found, sound, if_true]
  rw [same]
  by_cases early : steps ≤ state.untouched
  · refine iff_of_true ?_ (.inl early)
    constructor
    · exact .inl (congrArg LoggedStore.content (restore_copying early))
    · intro touched
      exact absurd touched (not_lt.2 early)
  · obtain ⟨written, rfl⟩ := Nat.exists_eq_add_of_lt (not_le.1 early)
    rw [Nat.add_assoc, restore_after_copy]
    have index : state.untouched + (written + 1) - state.untouched - 1 = written := by omega
    -- The safety copy holds the main file, whatever was written since.
    have safety (after : BackupState) (files : after.files = (state.copied reading modifiedAt).files) :
        (∃ copy, after.files (safetyName reading) = some copy ∧
          copy.pages = state.database.content) ↔
        state.database.content = state.database.main := by
      have stored : after.files (safetyName reading) =
          some { pages := state.database.main, modifiedAt := modifiedAt } := by
        rw [files]
        exact Function.update_self _ _ _
      rw [stored]
      constructor
      · rintro ⟨copy, ⟨⟩, whole⟩
        exact whole.symm
      · intro whole
        exact ⟨_, rfl, whole.symm⟩
    by_cases within : written ≤ archive.pages.length
    · have after := replace_copying within (state.copied reading modifiedAt)
      have content : (putMain (archive.pages.take written)
          (state.copied reading modifiedAt)).database.content =
          replay state.database.log (archive.pages.take written) := rfl
      rw [after]
      constructor
      · rintro ⟨opened, kept⟩
        have whole := (safety (putMain (archive.pages.take written)
          (state.copied reading modifiedAt)) rfl).1 (kept (by omega))
        rw [content, whole] at opened
        refine .inr ⟨whole, .inr ?_⟩
        rw [index]
        exact opened
      · rintro (before | ⟨whole, late | opened⟩)
        · exact absurd before early
        · omega
        · rw [index] at opened
          constructor
          · rw [content, whole]
            exact opened
          · exact fun _ => (safety _ rfl).2 whole
    · obtain ⟨replaced, files⟩ := replace_finished (not_le.1 within)
        (state.copied reading modifiedAt)
      constructor
      · rintro ⟨-, kept⟩
        have whole := (safety _ files).1 (kept (by omega))
        exact .inr ⟨whole, .inl (by omega)⟩
      · rintro (before | ⟨whole, -⟩)
        · exact absurd before early
        · constructor
          · right
            rw [replaced]
            rfl
          · exact fun _ => (safety _ files).2 whole

/-- A database whose last commit is in the log only. -/
def uncheckpointed : BackupState where
  database := { main := [[1]], log := [{ frames := [(0, [2])], size := 1 }] }
  files := fun name =>
    if name = "pullbox_backup_20260801_030000.zip".toList then
      some { pages := [[3]], sound := true }
    else none

def atNoon : Reading where
  year := 2026
  month := 8
  day := 2
  hour := 12
  minute := 0
  second := 0
  microsecond := 0

/-- A database whose log holds no more than the main file. -/
def checkpointed : BackupState :=
  { uncheckpointed with
    database := { main := [[2]], log := [{ frames := [(0, [2])], size := 1 }] } }

/-- A restore of a checkpointed database is recoverable where it dies with the backup copied and
the log still there, and when it is finished. -/
theorem interrupted_copy_recoverable :
    Recoverable checkpointed
        (checkpointed.restoreBackup "pullbox_backup_20260801_030000.zip".toList atNoon 0 4)
        { pages := [[3]], sound := true } (safetyName atNoon) (checkpointed.untouched < 4) ∧
      Recoverable checkpointed
        (checkpointed.restoreBackup "pullbox_backup_20260801_030000.zip".toList atNoon 0 6)
        { pages := [[3]], sound := true } (safetyName atNoon) (checkpointed.untouched < 6) := by
  have found : checkpointed.validBackup "pullbox_backup_20260801_030000.zip".toList =
      some { pages := [[3]], sound := true } := by decide
  constructor
  · exact (restore_recoverable_iff found rfl).2 (.inr ⟨by decide, .inr (.inl (by decide))⟩)
  · exact (restore_recoverable_iff found rfl).2 (.inr ⟨by decide, .inl (by decide)⟩)

/-- A whole restore leaves a safety copy without the commit. -/
theorem safety_copy_lacks_log :
    ¬ ∀ (state : BackupState) (archive : BackupFile) (name : List Char) (reading : Reading)
      (modifiedAt : Int) (steps : Nat), state.validBackup name = some archive →
      archive.sound = true →
      Recoverable state (state.restoreBackup name reading modifiedAt steps) archive
        (safetyName reading) (state.untouched < steps) := by
  intro recoverable
  have kept := recoverable uncheckpointed { pages := [[3]], sound := true }
    "pullbox_backup_20260801_030000.zip".toList atNoon 0 6 (by decide) rfl
  obtain ⟨copy, stored, whole⟩ := kept.safetyCopy (by decide)
  have lacks : (uncheckpointed.restoreBackup "pullbox_backup_20260801_030000.zip".toList atNoon 0
      6).files (safetyName atNoon) = some { pages := [[1]] } := by decide +kernel
  rw [lacks] at stored
  cases stored
  revert whole
  decide

end BackupState

end Pullbox.Backup
