import Pullbox.Backup.Service
import Pullbox.Durable.Listing
import Pullbox.Durable.Reachable

/-!
# The archives over time

What is in the backup directory after any sequence of operations is compared with a shelf: each
archive and each pre-restore copy that was made stands on it, until it is deleted or its retention
ends. The names come from the local clock, which may repeat itself.
-/

namespace Pullbox.Backup

open Durable Text

/-- What happens to the directory; the application writes to the database in between. -/
inductive BackupEvent where
  | create (reading : Reading) (backupType : String) (now : Int) (unfinished : BackupFile)
      (ends : BackupState.CreateEnd)
  | restore (name : List Char) (reading : Reading) (modifiedAt : Int) (steps : Nat)
  | delete (name : List Char)
  | cleanup (retentionDays now : Int)
  | databaseChanged (database : Database) (shm : Bool)

namespace BackupState

variable {state : BackupState} {archive : BackupFile} {reading : Reading} {modifiedAt : Int}
  {name : List Char} {steps : Nat}

/-- The state after an event. -/
def after (state : BackupState) : BackupEvent → BackupState
  | .create reading backupType now unfinished ends =>
    state.createBackup reading backupType now unfinished ends
  | .restore name reading modifiedAt steps => state.restoreBackup name reading modifiedAt steps
  | .delete name => state.deleteBackup name
  | .cleanup retentionDays now => state.cleanupOldBackups retentionDays now
  | .databaseChanged database shm => { state with database := database, shm := shm }

/-- A restore gets as far as its safety copy. -/
def copies (state : BackupState) (name : List Char) (steps : Nat) : Bool :=
  (state.validBackup name).any BackupFile.sound && steps ≠ 0

/-- The safety copy after some of the steps of a restore. -/
def safetyCopy (state : BackupState) (modifiedAt : Int) (steps : Nat) : BackupFile where
  pages := state.database.main.take (steps - 1)
  modifiedAt := modifiedAt

/-- A restore changes the directory by its safety copy only. -/
theorem files_restoreBackup (state : BackupState) (name : List Char) (reading : Reading)
    (modifiedAt : Int) (steps : Nat) :
    (state.restoreBackup name reading modifiedAt steps).files =
      if state.copies name steps then
        Function.update state.files (safetyName reading) (some (state.safetyCopy modifiedAt steps))
      else state.files := by
  unfold restoreBackup copies
  cases found : state.validBackup name with
  | none => rfl
  | some archive =>
    by_cases sound : archive.sound = true
    · cases steps with
      | zero => simp [sound, runSteps]
      | succ written =>
        simp only [sound, Option.any_some, if_true, ne_eq, Nat.succ_ne_zero,
          not_false_eq_true, decide_true, Bool.and_self]
        by_cases early : written ≤ state.database.main.length
        · rw [restore_first early]
          rfl
        · obtain ⟨more, rfl⟩ := Nat.exists_eq_add_of_lt (not_le.1 early)
          have whole : state.safetyCopy modifiedAt
              (state.database.main.length + more + 1 + 1) =
                { pages := state.database.main, modifiedAt := modifiedAt } := by
            rw [safetyCopy, List.take_of_length_le (by omega)]
          have count : state.database.main.length + more + 1 + 1 =
              state.untouched + (more + 1) := by
            rw [untouched]
            omega
          rw [whole, count, restore_after_copy]
          by_cases within : more ≤ archive.pages.length
          · rw [replace_copying within]
            rfl
          · exact (replace_finished (not_le.1 within) _).2
    · simp [sound]

end BackupState

/-- The state with the shelf of what should be in the directory. -/
structure BackupTrace where
  state : BackupState
  shelf : List (List Char × BackupFile)

namespace BackupTrace

/-- What an operation does to the archives: one that succeeds adds one archive or removes what it
was asked to, and one that fails does nothing. -/
def nextShelf (trace : BackupTrace) : BackupEvent → List (List Char × BackupFile)
  | .create reading backupType now _ .created =>
    (backupName reading, trace.state.archive backupType now) :: trace.shelf
  | .create _ _ _ _ _ => trace.shelf
  | .restore name reading modifiedAt steps =>
    if trace.state.copies name steps then
      (safetyName reading, trace.state.safetyCopy modifiedAt steps) :: trace.shelf
    else trace.shelf
  | .delete name =>
    if isBackupName name then trace.shelf.filter fun entry => entry.1 ≠ name else trace.shelf
  | .cleanup retentionDays now =>
    trace.shelf.filter fun entry => !BackupState.due retentionDays now entry.1 entry.2
  | .databaseChanged _ _ => trace.shelf

def advance (trace : BackupTrace) (event : BackupEvent) : BackupTrace where
  state := trace.state.after event
  shelf := trace.nextShelf event

/-- The directory holds what is on the shelf, and nothing else. -/
def Agrees (trace : BackupTrace) : Prop :=
  Lists trace.state.files trace.shelf

/-- The name of the file that an operation makes is free, whether it succeeds or fails. -/
def Admitted (event : BackupEvent) (trace : BackupTrace) : Prop :=
  match event with
  | .create reading _ _ _ .created => trace.state.files (backupName reading) = none
  | .create _ _ _ _ .noDirectory => True
  | .create reading _ _ _ (.failed _ true) => trace.state.files (backupName reading) = none
  | .create _ _ _ _ (.failed false false) => True
  | .create reading _ _ unfinished (.failed true false) =>
    trace.state.files (backupName reading) = some unfinished
  | .restore name reading _ steps =>
    trace.state.copies name steps = true → trace.state.files (safetyName reading) = none
  | .delete _ | .cleanup _ _ | .databaseChanged _ _ => True

variable {trace : BackupTrace} {event : BackupEvent}

theorem Agrees.create (agrees : trace.Agrees) (reading : Reading) (backupType : String) (now : Int)
    (unfinished : BackupFile) (ends : BackupState.CreateEnd) :
    (trace.advance (.create reading backupType now unfinished ends)).Agrees ↔
      Admitted (.create reading backupType now unfinished ends) trace := by
  cases ends with
  | created => exact Lists.insert_iff agrees
  | noDirectory => exact iff_of_true agrees trivial
  | failed opened handled =>
    cases handled with
    | true =>
      have removed : (trace.advance (.create reading backupType now unfinished
          (.failed opened true))).state.files =
            Function.update trace.state.files (backupName reading) none := by
        cases opened with
        | true => exact Function.update_idem _ _ _
        | false => rfl
      unfold Agrees
      rw [removed]
      exact Lists.put_iff agrees
    | false =>
      cases opened with
      | true => exact Lists.put_iff agrees
      | false => exact iff_of_true agrees trivial

theorem Agrees.restore (agrees : trace.Agrees) (name : List Char) (reading : Reading)
    (modifiedAt : Int) (steps : Nat) :
    (trace.advance (.restore name reading modifiedAt steps)).Agrees ↔
      Admitted (.restore name reading modifiedAt steps) trace := by
  have files := BackupState.files_restoreBackup trace.state name reading modifiedAt steps
  change Lists (trace.state.restoreBackup name reading modifiedAt steps).files
    (trace.nextShelf (.restore name reading modifiedAt steps)) ↔ (_ = true → _)
  rw [files, nextShelf]
  by_cases copies : trace.state.copies name steps = true
  · simp only [copies, if_true, true_imp_iff]
    exact Lists.insert_iff agrees
  · simp only [copies, if_false, Bool.false_eq_true, false_imp_iff, iff_true]
    exact agrees

theorem Agrees.delete (agrees : trace.Agrees) (name : List Char) :
    (trace.advance (.delete name)).Agrees := by
  change Lists (trace.state.deleteBackup name).files (trace.nextShelf (.delete name))
  unfold BackupState.deleteBackup BackupState.validBackup nextShelf
  by_cases named : isBackupName name = true
  · simp only [named, if_true]
    cases found : trace.state.files name with
    | some file => exact Lists.erase agrees
    | none =>
      have same : Function.update trace.state.files name none = trace.state.files :=
        Lists.unique agrees ((Lists.put_iff agrees).2 found)
      rw [← same]
      exact Lists.erase agrees
  · simp only [named, if_false, Bool.false_eq_true]
    exact agrees

/-- After an operation the directory holds what it should exactly when the name was free. -/
theorem Agrees.advance_iff (agrees : trace.Agrees) :
    (trace.advance event).Agrees ↔ Admitted event trace := by
  cases event with
  | create reading backupType now unfinished ends =>
    exact agrees.create reading backupType now unfinished ends
  | restore name reading modifiedAt steps => exact agrees.restore name reading modifiedAt steps
  | delete name => exact iff_of_true (agrees.delete name) trivial
  | cleanup retentionDays now =>
    refine iff_of_true ?_ trivial
    exact Lists.filter agrees fun name file => !BackupState.due retentionDays now name file
  | databaseChanged database shm => exact iff_of_true agrees trivial

/-! ### Runs -/

/-- The states of the runs whose operations find their names free. -/
def Reached (trace : BackupTrace) : Prop :=
  Durable.Reachable Agrees Admitted (fun event trace after => trace.advance event = after) trace

/-- In every run whose operations find their names free, the directory holds the archives that
were made and not deleted or due, each once and unchanged, and every copy made before a restore.
An operation whose name is taken breaks this at once. -/
theorem reached_archives (reached : Reached trace) :
    trace.Agrees ∧ ∀ event, (trace.advance event).Agrees ↔ Admitted event trace := by
  have agrees : trace.Agrees := by
    refine Durable.Reachable.invariant reached (fun _ starts => starts) ?_
    rintro event trace _ agrees admitted rfl
    exact agrees.advance_iff.2 admitted
  exact ⟨agrees, fun event => agrees.advance_iff⟩

def emptyDirectory : BackupTrace where
  state := { database := { main := [[1]] } }
  shelf := []

def unfinishedArchive : BackupFile where
  pages := []

/-- A manual archive of noon. -/
def createAtNoon (second : Nat) (ends : BackupState.CreateEnd) : BackupEvent :=
  .create { BackupState.atNoon with second := second } "manual" 0 unfinishedArchive ends

theorem emptyDirectory_agrees : emptyDirectory.Agrees where
  once := List.nodup_nil
  entry := by
    intro name file
    exact ⟨nofun, nofun⟩

/-- Two archives are made a second apart, with one that fails between them; the first is restored
and deleted, and a clean-up of the scheduled ones follows. -/
theorem two_archives : ([createAtNoon 0 .created, createAtNoon 1 (.failed true true),
    createAtNoon 2 .created, .restore (backupName BackupState.atNoon) BackupState.atNoon 0 6,
    .delete (backupName BackupState.atNoon), .cleanup 30 3000000000000].foldl advance
      emptyDirectory).Agrees := by
  have started : Reached emptyDirectory := .start emptyDirectory_agrees
  have created := started.next (show Admitted (createAtNoon 0 .created) _ from rfl) rfl
  have failed := created.next (show Admitted (createAtNoon 1 (.failed true true)) _ by
    dsimp only [Admitted, createAtNoon]
    decide +kernel) rfl
  have second := failed.next (show Admitted (createAtNoon 2 .created) _ by
    dsimp only [Admitted, createAtNoon]
    decide +kernel) rfl
  have restored := second.next (show Admitted (.restore (backupName BackupState.atNoon)
      BackupState.atNoon 0 6) _ by
    dsimp only [Admitted]
    decide +kernel) rfl
  have deleted := restored.next (show Admitted (.delete (backupName BackupState.atNoon)) _
    from trivial) rfl
  exact (reached_archives (deleted.next (show Admitted (.cleanup 30 3000000000000) _
    from trivial) rfl)).1

/-- A second archive that fails within the second of the first one takes it along. -/
theorem failure_removes_archive :
    ¬ ∀ (events : List BackupEvent) (trace : BackupTrace), trace.Agrees →
      (events.foldl advance trace).Agrees := by
  intro agrees
  have kept := agrees [createAtNoon 0 .created, createAtNoon 0 (.failed false true)] emptyDirectory
    emptyDirectory_agrees
  have stored := (kept.entry (backupName BackupState.atNoon)
    (emptyDirectory.state.archive "manual" 0)).2 List.mem_cons_self
  have removed : (([createAtNoon 0 .created, createAtNoon 0 (.failed false true)].foldl advance
      emptyDirectory).state.files (backupName BackupState.atNoon)) = none := by decide +kernel
  cases removed.symm.trans stored

end BackupTrace

end Pullbox.Backup
