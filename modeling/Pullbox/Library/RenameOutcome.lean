import Pullbox.Library.RenameRows

/-!
# What a rename in the library browser leaves

A rename that is reported as made put the source under a vacant name and moved the rows at or
beneath it, and nothing else; one that is reported as failed left the folder and the rows as they
were. When this holds depends on what stands under the new name, on the rows that the pattern of
the folder selects besides those beneath it, and on the steps that are refused on the way.
-/

namespace Pullbox.Library.Rename

open Option

variable {system : FileSystem} {folder after : Folder} {source target temporary name : FileName}
  {grants : Grants} {granted : Bool} {one two : ℕ}

/-! ### Renames of the operating system -/

namespace FileSystem

theorem isSome_of_exists (found : system.exists folder name = true) : (folder name).isSome := by
  cases here : folder name with
  | none => simp [FileSystem.exists, system.absent folder name here] at found
  | some inode => rfl

theorem not_exists_of_vacant (vacant : folder name = none) :
    system.exists folder name = false := by
  simp [FileSystem.exists, system.absent folder name vacant]

/-- One inode is found under each of its names. -/
theorem exists_alike {other : FileName} (same : folder name = folder other) :
    system.exists folder name = system.exists folder other := by
  unfold FileSystem.exists
  rw [system.alike folder name other same]

theorem caseOnly_comm : system.caseOnly target source = system.caseOnly source target := by
  unfold caseOnly
  exact Bool.beq_comm

theorem caseOnly_self : system.caseOnly source source = true := by
  simp [caseOnly]

theorem rename_vacant (occupied : (folder source).isSome) (vacant : folder target = none) :
    system.rename folder source target granted =
      if granted then some (folder.move ⟨source, target⟩) else none := by
  obtain ⟨inode, here⟩ := isSome_iff_exists.1 occupied
  simp [rename, here, vacant]

/-- A rename onto another inode is refused or replaces it; one onto the same inode does nothing. -/
theorem rename_occupied (here : folder source = some one) (there : folder target = some two)
    (made : system.rename folder source target granted = some after) :
    one = two ∧ after = folder ∨ one ≠ two ∧ after = folder.move ⟨source, target⟩ := by
  simp only [rename, here, there] at made
  split at made
  · cases made
  · split at made
    · next same =>
        cases made
        exact .inl ⟨same, rfl⟩
    · next other =>
        split at made
        · cases made
          exact .inr ⟨other, rfl⟩
        · cases made

/-- A rename touches its two names. -/
theorem rename_of_ne (made : system.rename folder source target granted = some after)
    (notSource : name ≠ source) (notTarget : name ≠ target) : after name = folder name := by
  cases here : folder source with
  | none => simp [rename, here] at made
  | some one =>
    cases there : folder target with
    | none =>
      have occupied : (folder source).isSome := by
        rw [here]
        rfl
      rw [rename_vacant occupied there] at made
      split at made
      · cases made
        exact Files.Disk.move_of_ne notSource notTarget
      · cases made
    | some two =>
      rcases rename_occupied here there made with ⟨-, rfl⟩ | ⟨-, rfl⟩
      · rfl
      · exact Files.Disk.move_of_ne notSource notTarget

/-- What is not granted is not made. -/
theorem rename_refused : system.rename folder source target false = none := by
  unfold rename
  cases folder source <;> cases folder target <;> simp

end FileSystem

/-- `_rename_path` to a vacant name. -/
theorem renamePath_vacant (found : system.exists folder source = true)
    (apart : source ≠ target) (vacant : folder target = none)
    (free : folder temporary = none) (notSource : temporary ≠ source)
    (notTarget : temporary ≠ target) :
    renamePath system temporary source target grants folder =
      if grants.first = false then (folder, some (.incomplete false))
      else if system.caseOnly source target = true ∧ grants.second = false then
        (folder.move ⟨source, temporary⟩, some (.incomplete false))
      else (folder.move ⟨source, target⟩, none) := by
  have occupied := FileSystem.isSome_of_exists found
  have aside : folder.move ⟨source, temporary⟩ temporary = folder source :=
    Files.Disk.move_target notSource.symm
  have still : folder.move ⟨source, temporary⟩ target = none :=
    (Files.Disk.move_of_ne apart.symm notTarget.symm).trans vacant
  have second : system.rename (folder.move ⟨source, temporary⟩) temporary target grants.second =
      if grants.second then
        some ((folder.move ⟨source, temporary⟩).move ⟨temporary, target⟩) else none := by
    apply FileSystem.rename_vacant
    · rw [aside]
      exact occupied
    · exact still
  have gone : system.exists folder target = false := FileSystem.not_exists_of_vacant vacant
  rw [Files.Disk.move_via source target free notSource notTarget apart] at second
  unfold renamePath
  rw [FileSystem.rename_vacant occupied free, FileSystem.rename_vacant occupied vacant]
  obtain ⟨first, later⟩ := grants
  cases same : system.caseOnly source target <;> cases first <;> cases later <;>
    simp_all

/-- `_rename_path` touches its two names and the temporary one. -/
theorem renamePath_of_ne (notTemporary : name ≠ temporary) (notSource : name ≠ source)
    (notTarget : name ≠ target) :
    (renamePath system temporary source target grants folder).1 name = folder name := by
  unfold renamePath
  split
  · rfl
  split
  · rfl
  split
  · split
    · rfl
    · next first =>
        have kept := FileSystem.rename_of_ne first notSource notTemporary
        split
        · exact kept
        · next second =>
            exact (FileSystem.rename_of_ne second notTemporary notTarget).trans kept
  · split
    · rfl
    · next made => exact FileSystem.rename_of_ne made notSource notTarget

/-- `_rename_path` between names that differ in case, once the source is aside. -/
theorem renamePath_caseOnly (found : system.exists folder source = true)
    (same : system.caseOnly source target = true) (free : folder temporary = none)
    (first : grants.first = true) :
    renamePath system temporary source target grants folder =
      match system.rename (folder.move ⟨source, temporary⟩) temporary target grants.second with
      | none => (folder.move ⟨source, temporary⟩, some (.incomplete false))
      | some after => (after, none) := by
  have occupied := FileSystem.isSome_of_exists found
  unfold renamePath
  rw [FileSystem.rename_vacant occupied free, first]
  cases moved : system.rename (folder.move ⟨source, temporary⟩) temporary target grants.second with
  | none => simp [found, same, moved]
  | some after => simp [found, same, moved]

/-! ### The whole rename -/

/-- What a rename that is reported as made did. -/
structure Renamed (request : RenameRequest) (registry : Registry) (result : RenameResult) :
    Prop where
  vacant : request.source ≠ request.target → request.folder request.target = none
  arrived : result.folder request.target = request.folder request.source
  left : request.source ≠ request.target → result.folder request.source = none
  others : ∀ name, name ≠ request.source → name ≠ request.target →
    result.folder name = request.folder name
  series : List.Forall₂
    (SeriesMoved (request.system.path request.source) (request.system.path request.target))
    registry.series result.registry.series
  files : List.Forall₂
    (FileMoved (request.system.path request.source) (request.system.path request.target)
      (request.system.stat result.folder request.target))
    registry.files.rows result.registry.files.rows

/-- A rename is made as it should be, or nothing is changed. -/
def Faithful (request : RenameRequest) (registry : Registry) (result : RenameResult) : Prop :=
  match result.raised with
  | none => Renamed request registry result
  | some _ => result.folder = request.folder ∧ result.registry = registry

namespace RenameRequest

variable {request : RenameRequest} {registry synced : Registry}

/-- The folder with the source under its new name. -/
def renamed (request : RenameRequest) : Folder :=
  if request.source = request.target then request.folder
  else request.folder.move ⟨request.source, request.target⟩

/-- The rows that the kind of the rename selects. -/
def Selective (request : RenameRequest) (registry : Registry) : Prop :=
  let before := request.system.path request.source
  let later := request.system.path request.target
  match request.kind with
  | .file => FileSelective before later registry
  | .folder => FolderSelective before later registry

/-- The handler finds the renamed entry, and its own renames are granted. -/
def Recovers (request : RenameRequest) : Prop :=
  request.source = request.target ∨
    request.system.exists request.renamed request.target = true ∧
      request.undoGrants.first = true ∧
      (request.system.caseOnly request.source request.target = true →
        request.undoGrants.second = true)

/-- Once the rename is made, the rows are written as they should be, or it is taken back. -/
def Completes (request : RenameRequest) (registry : Registry) : Prop :=
  if (request.record request.renamed registry).isSome then request.Selective registry
  else request.Recovers

/-- The rows are rewritten as they should be exactly when only such rows are selected. -/
theorem sync_iff (made : request.sync folder registry = some synced) :
    (List.Forall₂
        (SeriesMoved (request.system.path request.source) (request.system.path request.target))
        registry.series synced.series ∧
      List.Forall₂
        (FileMoved (request.system.path request.source) (request.system.path request.target)
          (request.system.stat folder request.target))
        registry.files.rows synced.files.rows) ↔ request.Selective registry := by
  unfold sync at made
  unfold Selective
  cases kind : request.kind with
  | file =>
    simp only [kind] at made ⊢
    obtain ⟨series, files⟩ := rows_of_syncFileRecord made
    rw [series, files, List.forall₂_map_right_iff, List.forall₂_same, List.forall₂_same]
    simp only [seriesMoved_self_iff, fileMoved_refresh_iff]
    constructor
    · rintro ⟨seriesHold, filesHold⟩
      exact ⟨seriesHold, filesHold⟩
    · rintro ⟨seriesHold, filesHold⟩
      exact ⟨seriesHold, filesHold⟩
  | folder =>
    simp only [kind] at made ⊢
    obtain ⟨series, files⟩ := rows_of_syncFolderRecords made
    rw [rstripSlash_path, rstripSlash_path] at series files
    rw [series, files, List.forall₂_map_right_iff, List.forall₂_map_right_iff,
      List.forall₂_same, List.forall₂_same]
    simp only [seriesMoved_sync_iff path_ne_nil, fileMoved_sync_iff path_ne_nil]
    constructor
    · rintro ⟨seriesHold, filesHold⟩
      exact ⟨seriesHold, filesHold⟩
    · rintro ⟨seriesHold, filesHold⟩
      exact ⟨seriesHold, filesHold⟩

theorem sync_of_record (made : request.record folder registry = some synced) :
    request.sync folder registry = some synced := by
  unfold record at made
  split at made
  · exact made
  · cases made

/-! ### After the rename was made -/

/-- What follows once `_rename_path` returned. -/
def finish (request : RenameRequest) (registry : Registry) (folder : Folder) : RenameResult :=
  match request.record folder registry with
  | some synced => ⟨folder, synced, none⟩
  | none => ⟨(request.undo folder).1, registry, some (.incomplete (request.undo folder).2)⟩

theorem renameLibraryEntry_of_failed {error : RenameError}
    (permitted : request.isMutable = some true)
    (raised : renamePath request.system request.temporary request.source request.target
      request.grants request.folder = (folder, some error)) :
    renameLibraryEntry request registry = ⟨folder, registry, some error⟩ := by
  unfold renameLibraryEntry
  rw [permitted]
  simp only [raised]

theorem renameLibraryEntry_of_made (permitted : request.isMutable = some true)
    (made : renamePath request.system request.temporary request.source request.target
      request.grants request.folder = (folder, none)) :
    renameLibraryEntry request registry = request.finish registry folder := by
  unfold renameLibraryEntry finish
  rw [permitted]
  cases recorded : request.record folder registry with
  | none => simp [made, recorded]
  | some after => simp [made, recorded]

theorem faithful_failed {error : RenameError} :
    Faithful request registry ⟨folder, registry, some error⟩ ↔ folder = request.folder :=
  and_iff_left rfl

theorem finish_of_record (made : request.record folder registry = some synced) :
    request.finish registry folder = ⟨folder, synced, none⟩ := by
  unfold finish
  rw [made]

/-- After a failure all depends on the folder that the handler leaves. -/
theorem faithful_finish_of_unrecorded (failed : request.record folder registry = none) :
    Faithful request registry (request.finish registry folder) ↔
      (request.undo folder).1 = request.folder := by
  unfold finish
  rw [failed]
  exact faithful_failed

theorem temporary_fresh (request : RenameRequest) : request.folder request.temporary = none ∧
    request.temporary ≠ request.source ∧ request.temporary ≠ request.target :=
  request.fresh _ (by simp)

theorem undoTemporary_fresh (request : RenameRequest) :
    request.folder request.undoTemporary = none ∧
    request.undoTemporary ≠ request.source ∧ request.undoTemporary ≠ request.target :=
  request.fresh _ (by simp)

theorem renamed_target : request.renamed request.target = request.folder request.source := by
  unfold renamed
  split
  · next same => rw [same]
  · next apart =>
      have arrived : request.folder.move ⟨request.source, request.target⟩ request.target =
        request.folder request.source := Files.Disk.move_target apart
      exact arrived

theorem renamed_source (apart : request.source ≠ request.target) :
    request.renamed request.source = none := by
  unfold renamed
  rw [if_neg apart]
  exact Files.Disk.move_source

theorem renamed_of_ne (notSource : name ≠ request.source) (notTarget : name ≠ request.target) :
    request.renamed name = request.folder name := by
  unfold renamed
  split
  · rfl
  · exact Files.Disk.move_of_ne notSource notTarget

/-- The renamed folder is another one. -/
theorem renamed_ne (found : request.system.exists request.folder request.source = true)
    (apart : request.source ≠ request.target) : request.renamed ≠ request.folder := by
  intro same
  have occupied := FileSystem.isSome_of_exists found
  rw [← same, renamed_source apart] at occupied
  cases occupied

/-- The handler takes the name back exactly when it finds the entry and may rename it. -/
theorem undo_renamed_iff (found : request.system.exists request.folder request.source = true)
    (vacant : request.source ≠ request.target → request.folder request.target = none) :
    (request.undo request.renamed).1 = request.folder ↔ request.Recovers := by
  by_cases apart : request.source = request.target
  · have never : ¬ (request.system.exists request.renamed request.target = true ∧
        request.system.exists request.renamed request.source = false) := by
      rw [apart]
      simp
    unfold undo Recovers
    rw [if_neg never]
    simp [renamed, apart]
  · have gone : request.system.exists request.renamed request.source = false :=
      FileSystem.not_exists_of_vacant (renamed_source apart)
    have other := renamed_ne found apart
    obtain ⟨absent, notSource, notTarget⟩ := undoTemporary_fresh request
    have free : request.renamed request.undoTemporary = none :=
      (renamed_of_ne notSource notTarget).trans absent
    have back : request.renamed.move ⟨request.target, request.source⟩ = request.folder := by
      unfold renamed
      rw [if_neg apart]
      have undone : (request.folder.move ⟨request.source, request.target⟩).move
        ⟨request.target, request.source⟩ = request.folder := Files.Disk.move_move apart (vacant apart)
      exact undone
    have aside : request.renamed.move ⟨request.target, request.undoTemporary⟩ ≠
        request.folder := by
      intro same
      have emptied : request.renamed.move ⟨request.target, request.undoTemporary⟩ request.source =
          request.renamed request.source := Files.Disk.move_of_ne apart notSource.symm
      have occupied := FileSystem.isSome_of_exists found
      rw [← same, emptied, renamed_source apart] at occupied
      cases occupied
    unfold undo Recovers
    by_cases seen : request.system.exists request.renamed request.target = true
    · rw [if_pos ⟨seen, gone⟩,
        renamePath_vacant seen (Ne.symm apart) (renamed_source apart) free notTarget notSource,
        FileSystem.caseOnly_comm]
      obtain ⟨first, second⟩ := request.undoGrants
      cases first <;> cases second <;>
        cases request.system.caseOnly request.source request.target <;> simp_all
    · rw [if_neg fun both => seen both.1]
      simp [apart, seen, other]

/-- Once the source is under a vacant name, what is left is as it should be exactly when the
database writes the right rows or the handler takes the name back. -/
theorem faithful_finish_renamed
    (found : request.system.exists request.folder request.source = true)
    (vacant : request.source ≠ request.target → request.folder request.target = none) :
    Faithful request registry (request.finish registry request.renamed) ↔
      request.Completes registry := by
  unfold Completes
  cases made : request.record request.renamed registry with
  | none =>
    rw [faithful_finish_of_unrecorded made, undo_renamed_iff found vacant]
    simp
  | some synced =>
    have rows := sync_iff (sync_of_record made)
    rw [finish_of_record made, isSome_some, if_pos rfl, ← rows]
    constructor
    · intro holds
      exact ⟨holds.series, holds.files⟩
    · rintro ⟨series, files⟩
      exact {
        vacant := vacant
        arrived := renamed_target
        left := renamed_source
        others := fun name notSource notTarget => renamed_of_ne notSource notTarget
        series := series
        files := files }

/-! ### Renames onto an occupied name -/

/-- Nothing brings back what stood under the new name. -/
theorem not_faithful_finish_overwritten (apart : request.source ≠ request.target)
    (here : request.folder request.source = some one)
    (there : request.folder request.target = some two) (other : one ≠ two) :
    ¬ Faithful request registry (request.finish registry request.renamed) := by
  cases made : request.record request.renamed registry with
  | some synced =>
    rw [finish_of_record made]
    intro holds
    have vacant := holds.vacant apart
    rw [there] at vacant
    cases vacant
  | none =>
    rw [faithful_finish_of_unrecorded made]
    intro same
    have lost : (request.undo request.renamed).1 request.target ≠ some two := by
      have arrived : request.renamed request.target = request.folder request.source :=
        renamed_target
      have emptied {place : FileName} :
          request.renamed.move ⟨request.target, place⟩ request.target = none :=
        Files.Disk.move_source
      obtain ⟨absent, notSource, notTarget⟩ := undoTemporary_fresh request
      have free : request.renamed request.undoTemporary = none :=
        (renamed_of_ne notSource notTarget).trans absent
      have still : request.renamed request.target ≠ some two := by
        rw [arrived, here]
        exact fun same => other (Option.some.inj same)
      unfold undo
      split
      · next seen =>
          have steps : renamePath request.system request.undoTemporary request.target
              request.source request.undoGrants request.renamed = _ :=
            renamePath_vacant seen.1 (Ne.symm apart) (renamed_source apart) free notTarget
              notSource
          rw [steps]
          by_cases refused : request.undoGrants.first = false
          · rw [if_pos refused]
            exact still
          · rw [if_neg refused]
            by_cases stranded : request.system.caseOnly request.target request.source = true ∧
                request.undoGrants.second = false
            · rw [if_pos stranded]
              simp [emptied]
            · rw [if_neg stranded]
              simp [emptied]
      · exact still
    rw [same] at lost
    exact lost there

/-- A second name of the target's inode leaves the entry under its temporary name. -/
theorem not_faithful_finish_aside (apart : request.source ≠ request.target)
    (found : request.system.exists request.folder request.source = true)
    (taken : request.folder request.target ≠ none) :
    ¬ Faithful request registry
      (request.finish registry (request.folder.move ⟨request.source, request.temporary⟩)) := by
  cases made : request.record (request.folder.move ⟨request.source, request.temporary⟩)
      registry with
  | some synced =>
    rw [finish_of_record made]
    exact fun holds => taken (holds.vacant apart)
  | none =>
    rw [faithful_finish_of_unrecorded made]
    intro same
    obtain ⟨absent, notSource, notTarget⟩ := temporary_fresh request
    have stranded : request.folder.move ⟨request.source, request.temporary⟩ request.temporary =
      request.folder request.source := Files.Disk.move_target notSource.symm
    have kept : (request.undo (request.folder.move ⟨request.source, request.temporary⟩)).1
        request.temporary =
        request.folder.move ⟨request.source, request.temporary⟩ request.temporary := by
      unfold undo
      split
      · exact renamePath_of_ne request.drawn notTarget notSource
      · rfl
    have occupied := FileSystem.isSome_of_exists found
    rw [← stranded, ← kept, same, absent] at occupied
    cases occupied

/-- An entry that stays aside is missing under its name. -/
theorem aside_ne (found : request.system.exists request.folder request.source = true) :
    request.folder.move ⟨request.source, request.temporary⟩ ≠ request.folder := by
  intro same
  have emptied : request.folder.move ⟨request.source, request.temporary⟩ request.source = none :=
    Files.Disk.move_source
  have occupied := FileSystem.isSome_of_exists found
  rw [← same, emptied] at occupied
  cases occupied

/-! ### When a rename is safe -/

/-- Names that differ at most in case: once the first rename is made, the new name is vacant or the
old one, and the second is made. -/
def CaseSafe (request : RenameRequest) (registry : Registry) : Prop :=
  request.grants.first = true →
    (request.source ≠ request.target → request.folder request.target = none) ∧
      request.grants.second = true ∧ request.Completes registry

/-- Other names: what the rename is made onto is no entry that leads nowhere. -/
def PlainSafe (request : RenameRequest) (registry : Registry) : Prop :=
  request.system.exists request.folder request.target = false →
    (request.system.rename request.folder request.source request.target
      request.grants.first).isSome →
    request.folder request.target = none ∧ request.Completes registry

def Safe (request : RenameRequest) (registry : Registry) : Prop :=
  request.isMutable = some true →
    request.system.exists request.folder request.source = true →
    if request.system.caseOnly request.source request.target then request.CaseSafe registry
    else request.PlainSafe registry

/-- The way aside and back to a vacant name. -/
theorem rename_aside (found : request.system.exists request.folder request.source = true)
    (vacant : request.source ≠ request.target → request.folder request.target = none) :
    request.system.rename (request.folder.move ⟨request.source, request.temporary⟩)
      request.temporary request.target true = some request.renamed := by
  obtain ⟨absent, notSource, notTarget⟩ := temporary_fresh request
  have stranded : request.folder.move ⟨request.source, request.temporary⟩ request.temporary =
    request.folder request.source := Files.Disk.move_target notSource.symm
  have occupied : (request.folder.move ⟨request.source, request.temporary⟩
      request.temporary).isSome := by
    rw [stranded]
    exact FileSystem.isSome_of_exists found
  by_cases apart : request.source = request.target
  · have emptied : request.folder.move ⟨request.source, request.temporary⟩ request.target =
        none := by
      rw [← apart]
      exact Files.Disk.move_source
    have undone : (request.folder.move ⟨request.source, request.temporary⟩).move
      ⟨request.temporary, request.source⟩ = request.folder := Files.Disk.move_move notSource.symm absent
    rw [FileSystem.rename_vacant occupied emptied, if_pos rfl, ← apart, undone]
    unfold renamed
    rw [if_pos apart]
  · have still : request.folder.move ⟨request.source, request.temporary⟩ request.target = none :=
      (Files.Disk.move_of_ne (Ne.symm apart) notTarget.symm).trans (vacant apart)
    rw [FileSystem.rename_vacant occupied still, if_pos rfl,
      Files.Disk.move_via request.source request.target absent notSource notTarget apart]
    unfold renamed
    rw [if_neg apart]

/-- Between names that differ at most in case. -/
theorem faithful_caseOnly_iff (permitted : request.isMutable = some true)
    (found : request.system.exists request.folder request.source = true)
    (same : request.system.caseOnly request.source request.target = true) :
    Faithful request registry (renameLibraryEntry request registry) ↔
      request.CaseSafe registry := by
  obtain ⟨absent, notSource, notTarget⟩ := temporary_fresh request
  unfold CaseSafe
  cases first : request.grants.first with
  | false =>
    have raised : renamePath request.system request.temporary request.source request.target
        request.grants request.folder = (request.folder, some (.incomplete false)) := by
      unfold renamePath
      rw [first, FileSystem.rename_refused]
      simp [found, same]
    rw [renameLibraryEntry_of_failed permitted raised, faithful_failed]
    simp
  | true =>
    have steps := renamePath_caseOnly found same absent first
    have stranded {error : RenameError} : ¬ Faithful request registry
        ⟨request.folder.move ⟨request.source, request.temporary⟩, registry, some error⟩ :=
      fun holds => aside_ne found (faithful_failed.1 holds)
    cases second : request.grants.second with
    | false =>
      rw [second, FileSystem.rename_refused] at steps
      rw [renameLibraryEntry_of_failed permitted steps]
      simp [stranded]
    | true =>
      by_cases vacant : request.source ≠ request.target → request.folder request.target = none
      · rw [second, rename_aside found vacant] at steps
        rw [renameLibraryEntry_of_made permitted steps, faithful_finish_renamed found vacant]
        simp only [forall_const, true_and]
        exact (and_iff_right vacant).symm
      · obtain ⟨apart, taken⟩ := Classical.not_imp.1 vacant
        simp only [vacant, false_and, imp_false, not_true_eq_false, iff_false]
        obtain ⟨two, there⟩ := ne_none_iff_exists'.1 taken
        obtain ⟨one, here⟩ := isSome_iff_exists.1 (FileSystem.isSome_of_exists found)
        cases made : request.system.rename
            (request.folder.move ⟨request.source, request.temporary⟩) request.temporary
            request.target request.grants.second with
        | none =>
          rw [made] at steps
          rw [renameLibraryEntry_of_failed permitted steps]
          exact stranded
        | some after =>
          have asideHere : request.folder.move ⟨request.source, request.temporary⟩
              request.temporary = some one :=
            (Files.Disk.move_target notSource.symm).trans here
          have asideThere : request.folder.move ⟨request.source, request.temporary⟩
              request.target = some two :=
            (Files.Disk.move_of_ne (Ne.symm apart) notTarget.symm).trans there
          rw [made] at steps
          rw [renameLibraryEntry_of_made permitted steps]
          rcases FileSystem.rename_occupied asideHere asideThere made with
            ⟨-, rfl⟩ | ⟨other, rfl⟩
          · exact not_faithful_finish_aside apart found taken
          · rw [Files.Disk.move_via request.source request.target absent notSource notTarget apart]
            have moved : request.folder.move ⟨request.source, request.target⟩ =
                request.renamed := by
              unfold renamed
              rw [if_neg apart]
            rw [moved]
            exact not_faithful_finish_overwritten apart here there other

/-- Between names that differ in more. -/
theorem faithful_plain_iff (permitted : request.isMutable = some true)
    (found : request.system.exists request.folder request.source = true)
    (other : request.system.caseOnly request.source request.target = false) :
    Faithful request registry (renameLibraryEntry request registry) ↔
      request.PlainSafe registry := by
  have apart : request.source ≠ request.target := by
    intro same
    rw [← same, FileSystem.caseOnly_self] at other
    cases other
  have moved : request.folder.move ⟨request.source, request.target⟩ = request.renamed := by
    unfold renamed
    rw [if_neg apart]
  unfold PlainSafe
  cases seen : request.system.exists request.folder request.target with
  | true =>
    have raised : renamePath request.system request.temporary request.source request.target
        request.grants request.folder = (request.folder, some .taken) := by
      unfold renamePath
      simp [found, other, seen]
    rw [renameLibraryEntry_of_failed permitted raised, faithful_failed]
    simp
  | false =>
    cases made : request.system.rename request.folder request.source request.target
        request.grants.first with
    | none =>
      have raised : renamePath request.system request.temporary request.source request.target
          request.grants request.folder = (request.folder, some (.incomplete false)) := by
        unfold renamePath
        simp [found, other, seen, made]
      rw [renameLibraryEntry_of_failed permitted raised, faithful_failed]
      simp
    | some after =>
      have steps : renamePath request.system request.temporary request.source request.target
          request.grants request.folder = (after, none) := by
        unfold renamePath
        simp [found, other, seen, made]
      rw [renameLibraryEntry_of_made permitted steps]
      obtain ⟨one, here⟩ := isSome_iff_exists.1 (FileSystem.isSome_of_exists found)
      cases there : request.folder request.target with
      | none =>
        rw [FileSystem.rename_vacant (FileSystem.isSome_of_exists found) there] at made
        split at made
        · cases made
          rw [moved, faithful_finish_renamed found fun _ => there]
          simp
        · cases made
      | some two =>
        have different : one ≠ two := by
          rintro rfl
          have alike : request.system.exists request.folder request.source =
              request.system.exists request.folder request.target :=
            FileSystem.exists_alike (here.trans there.symm)
          rw [found, seen] at alike
          cases alike
        obtain ⟨same, -⟩ | ⟨-, rfl⟩ := FileSystem.rename_occupied here there made
        · exact absurd same different
        · rw [moved]
          simp only [reduceCtorEq, false_and, imp_false, isSome_some,
            not_true_eq_false, iff_false]
          exact not_faithful_finish_overwritten apart here there different

/-- A rename is made as it should be, or changes nothing, exactly when it is safe. -/
theorem renameLibraryEntry_faithful_iff :
    Faithful request registry (renameLibraryEntry request registry) ↔ request.Safe registry := by
  unfold Safe
  cases permitted : request.isMutable with
  | none =>
    unfold renameLibraryEntry
    rw [permitted]
    simp [faithful_failed]
  | some answer =>
    cases answer with
    | false =>
      unfold renameLibraryEntry
      rw [permitted]
      simp [faithful_failed]
    | true =>
      cases found : request.system.exists request.folder request.source with
      | false =>
        have raised : renamePath request.system request.temporary request.source
            request.target request.grants request.folder =
            (request.folder, some .gone) := if_pos found
        rw [renameLibraryEntry_of_failed permitted raised, faithful_failed]
        simp
      | true =>
        cases same : request.system.caseOnly request.source request.target with
        | true => simpa using faithful_caseOnly_iff permitted found same
        | false => simpa using faithful_plain_iff permitted found same

end RenameRequest

/-! ### A pattern that selects a sibling -/

def plainSystem : FileSystem where
  parent := ['/', 'l']
  kind _ := .folder false
  stat folder name := (folder name).map fun _ => { size := 0, modified := 0 }
  lower := List.map Char.toLower
  absent folder name vacant := by rw [vacant]; rfl
  alike folder one two same := by rw [same]

/-- The folder `a_b` beside `axb`. -/
def underscored : RenameRequest where
  system := plainSystem
  folder name := if name.text = ['a', '_', 'b'] then some 1
    else if name.text = ['a', 'x', 'b'] then some 2 else none
  source := ⟨['a', '_', 'b'], by decide⟩
  target := ⟨['c'], by decide⟩
  kind := .folder
  temporary := ⟨['.', '1'], by decide⟩
  undoTemporary := ⟨['.', '2'], by decide⟩
  isMutable := some true
  grants := { first := true, second := true }
  undoGrants := { first := true, second := true }
  queries := true
  commits := true
  fresh := by decide
  drawn := by decide

/-- One file in the sibling. -/
def siblingFile : Registry where
  series := []
  files := {
    rows := [{
      id := 1
      filePath := ['/', 'l', '/', 'a', 'x', 'b', '/', '1']
      fileName := ['1']
      fileSize := 0
      fileModifiedAt := 0 }]
    distinct := by decide
    unique := by decide }

/-- The file of the sibling is registered under the new name. -/
theorem rows_underscored :
    (renameLibraryEntry underscored siblingFile).raised = none ∧
      ((renameLibraryEntry underscored siblingFile).registry.files.rows.map
        LibraryFileRow.filePath) = [['/', 'l', '/', 'c', '/', '1']] := by
  decide +kernel

/-- A folder with an underscore takes along a file of another folder. -/
theorem not_faithful :
    ¬ ∀ request registry, Faithful request registry (renameLibraryEntry request registry) := by
  intro always
  obtain ⟨made, paths⟩ := rows_underscored
  have holds := always underscored siblingFile
  unfold Faithful at holds
  rw [made] at holds
  have moved := holds.files
  cases rows : (renameLibraryEntry underscored siblingFile).registry.files.rows with
  | nil =>
    rw [rows] at paths
    cases paths
  | cons next rest =>
    rw [rows] at paths moved
    have outside : ¬ AtOrBeneath (underscored.system.path underscored.source)
        ['/', 'l', '/', 'a', 'x', 'b', '/', '1'] := by decide
    have kept := ((List.forall₂_cons.1 moved).1).apart outside
    rw [kept] at paths
    simp at paths

end Pullbox.Library.Rename
