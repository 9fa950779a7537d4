import Pullbox.Import.MixedFolder

/-!
# Ownership after a mixed-folder correction

The resolutions are read from the rows before the action. Applied one after another they do
what they say as long as no file moves or drops a registration that another one uses; a
file whose issue another library file already has gives its own registration up for that one.
-/

namespace Pullbox.Import.MixedFolder

open List Option Sql

open Library (LibraryFile IssueStatus)

variable {before : Catalog} {resolutions done : List Resolution} {resolution other : Resolution}
  {progress : Progress} {id : Nat} {catalog : Catalog} {library : LibraryFile}
  {target : ResolvedTarget} {file : ImportedFile}

/-- The file is registered, but not to the issue it names. -/
def Resolution.Moves (resolution : Resolution) : Prop :=
  resolution.sourceLibraryFileId ≠ none ∧
    resolution.sourceIssueId ≠ some resolution.targetIssueId

instance (resolution : Resolution) : Decidable resolution.Moves :=
  inferInstanceAs (Decidable (_ ∧ _))

/-- The other library file that already has the issue. -/
def Resolution.replacement (resolution : Resolution) : Option Nat :=
  resolution.targetLibraryFileId.filter fun id => some id ≠ resolution.sourceLibraryFileId

/-- The registration that the file ends with. -/
def Resolution.registration (resolution : Resolution) : Option Nat :=
  if resolution.Moves then
    resolution.replacement.or resolution.sourceLibraryFileId
  else
    resolution.sourceLibraryFileId.or resolution.targetLibraryFileId

/-- No registration that one file moves or drops is another's, before or after. -/
def Apart (resolutions : List Resolution) : Prop :=
  ∀ resolution ∈ resolutions, resolution.Moves →
    ∀ other ∈ resolutions, other.fileId ≠ resolution.fileId →
      other.sourceLibraryFileId ≠ resolution.sourceLibraryFileId ∧
        other.targetLibraryFileId ≠ resolution.sourceLibraryFileId

instance (resolutions : List Resolution) : Decidable (Apart resolutions) :=
  inferInstanceAs (Decidable (∀ _ ∈ _, _))

/-- An issue whose status the action writes. -/
def Written (resolutions : List Resolution) (id : Nat) : Prop :=
  ∃ resolution ∈ resolutions, resolution.sourceIssueId = some id ∨
    resolution.targetIssueId = id ∧
      (resolution.sourceLibraryFileId ≠ none ∨ resolution.targetLibraryFileId ≠ none)

/-- A touched file that counts as owned refers to a library file of its issue. -/
def Refers (after : Catalog) (resolution : Resolution) : Prop :=
  ∀ file, after.files.find resolution.fileId = some file →
    file.status = .imported ∨ file.status = .alreadyOwned →
      ∃ id library, file.libraryFileId = some id ∧ after.libraryFiles.find id = some library ∧
        file.matchedIssueId = some resolution.targetIssueId ∧
          library.issueId = some resolution.targetIssueId

/-- An issue is owned if and only if some library file is registered to it. -/
def Catalog.OwnedIff (catalog : Catalog) (id : Nat) : Prop :=
  ∀ issue, catalog.issues.find id = some issue →
    (issue.status = .owned ↔ ∃ library ∈ catalog.libraryFiles.rows, library.issueId = some id)

/-- A library file that is still registered. -/
def Catalog.Registers (catalog : Catalog) (path : String) : Prop :=
  ∃ library ∈ catalog.libraryFiles.rows, library.filePath = path

/-- What a correction leaves of the ownership. -/
structure Coherent (before after : Catalog) (resolutions : List Resolution)
    (Released : LibraryFile → Prop) : Prop where
  refers : ∀ resolution ∈ resolutions, Refers after resolution
  owned : ∀ id, Written resolutions id → after.OwnedIff id
  kept : ∀ library ∈ before.libraryFiles.rows,
    after.Registers library.filePath ∨ Released library

/-- A registration given up for the library file that had the issue before, and still has it;
the file refers to it. -/
def GivenUp (before after : Catalog) (resolutions : List Resolution) (library : LibraryFile) :
    Prop :=
  ∃ resolution ∈ resolutions, resolution.sourceLibraryFileId = some library.id ∧
    ∃ owner ∈ before.libraryFiles.rows, owner.id ≠ library.id ∧
      owner.issueId = some resolution.targetIssueId ∧
        after.libraryFiles.find owner.id = some owner ∧
          ∃ file, after.files.find resolution.fileId = some file ∧
            file.libraryFileId = some owner.id

/-! ### What the resolutions are read from -/

/-- What a loaded resolution says about the rows before the action. -/
structure Loaded (before : Catalog) (resolution : Resolution) : Prop where
  file : before.files.find resolution.fileId ≠ none
  source : ∀ id, resolution.sourceLibraryFileId = some id →
    ∃ library, before.libraryFiles.find id = some library ∧
      library.issueId = resolution.sourceIssueId
  unregistered : resolution.sourceLibraryFileId = none → resolution.sourceIssueId = none
  target : ∀ id, resolution.targetLibraryFileId = some id →
    ∃ library, before.libraryFiles.find id = some library ∧
      library.issueId = some resolution.targetIssueId
  only : ∀ library ∈ before.libraryFiles.rows, library.issueId = some resolution.targetIssueId →
    resolution.targetLibraryFileId = some library.id

theorem mem_ownedFiles {issueId : Nat} :
    library ∈ ownedFiles before issueId ↔
      library ∈ before.libraryFiles.rows ∧ library.issueId = some issueId := by
  simp [ownedFiles]

theorem resolvedTarget_file {evidence : Evidence}
    (resolved : resolvedTarget evidence before file = some target) : target.file = file := by
  unfold resolvedTarget at resolved
  split_ifs at resolved
  obtain ⟨importSeries, _, resolved⟩ := bind_eq_some_iff.1 resolved
  split_ifs at resolved
  obtain ⟨⟨identity, number⟩, _, resolved⟩ := bind_eq_some_iff.1 resolved
  obtain ⟨series, _, resolved⟩ := bind_eq_some_iff.1 resolved
  split_ifs at resolved
  obtain ⟨issue, _, rfl⟩ := map_eq_some_iff.1 resolved
  rfl

theorem currentLibraryFile_find (current : currentLibraryFile before file = some library) :
    before.libraryFiles.find library.id = some library := by
  unfold currentLibraryFile at current
  split_ifs at current
  obtain ⟨found, _⟩ := filter_eq_some_iff.1 current
  obtain ⟨id, _, found⟩ := bind_eq_some_iff.1 found
  rwa [Table.key_of_find found]

theorem resolve_fileId {targets : List ResolvedTarget}
    (resolved : resolve before targets target = some resolution) :
    resolution.fileId = target.file.id := by
  unfold resolve at resolved
  split at resolved
  · split_ifs at resolved
    cases resolved
    rfl
  · cases resolved
    rfl
  · cases resolved

theorem resolve_loaded {targets : List ResolvedTarget}
    (member : target.file ∈ before.files.rows)
    (resolved : resolve before targets target = some resolution) :
    Loaded before resolution := by
  have sourced : ∀ id, (currentLibraryFile before target.file).map (·.id) = some id →
      ∃ library, before.libraryFiles.find id = some library ∧
        library.issueId = (currentLibraryFile before target.file).bind (·.issueId) := by
    intro id named
    obtain ⟨library, current, rfl⟩ := map_eq_some_iff.1 named
    exact ⟨library, currentLibraryFile_find current, by rw [current]; rfl⟩
  have unsourced : (currentLibraryFile before target.file).map (·.id) = none →
      (currentLibraryFile before target.file).bind (·.issueId) = none := by
    intro absent
    rw [map_eq_none_iff.1 absent]
    rfl
  have present : before.files.find target.file.id ≠ none := by
    rw [Table.find_key member]
    simp
  unfold resolve at resolved
  split at resolved
  · rename_i empty
    split_ifs at resolved
    cases resolved
    refine ⟨present, sourced, unsourced, nofun, ?_⟩
    intro library inside registered
    have owned := mem_ownedFiles.2 ⟨inside, registered⟩
    rw [empty] at owned
    cases owned
  · rename_i owner single
    cases resolved
    have owns := mem_ownedFiles.1 (single ▸ mem_singleton_self owner)
    refine ⟨present, sourced, unsourced, ?_, ?_⟩
    · intro id named
      cases named
      exact ⟨owner, Table.find_key owns.1, owns.2⟩
    · intro library inside registered
      have owned := mem_ownedFiles.2 ⟨inside, registered⟩
      rw [single] at owned
      rw [mem_singleton.1 owned]
      rfl
  · cases resolved

theorem keys_sublist {α β : Type} {choose : α → Option β} (key : α → Nat) (named : β → Nat)
    (same : ∀ row chosen, choose row = some chosen → named chosen = key row) (rows : List α) :
    ((rows.filterMap choose).map named).Sublist (rows.map key) := by
  induction rows with
  | nil => exact List.Sublist.refl _
  | cons row rest ih =>
    cases chosen : choose row with
    | none =>
      rw [filterMap_cons_none chosen]
      exact ih.cons _
    | some value =>
      rw [filterMap_cons_some chosen, map_cons, map_cons, same row value chosen]
      exact ih.cons_cons _

theorem loadMixedFolderResolutions_loaded {evidence : Evidence}
    (member : resolution ∈ loadMixedFolderResolutions evidence before) :
    Loaded before resolution := by
  obtain ⟨target, listed, resolved⟩ := mem_filterMap.1 member
  obtain ⟨file, inside, found⟩ := mem_filterMap.1 listed
  exact resolve_loaded ((resolvedTarget_file found).symm ▸ inside) resolved

/-- Each file is resolved once. -/
theorem loadMixedFolderResolutions_nodup (evidence : Evidence) (before : Catalog) :
    ((loadMixedFolderResolutions evidence before).map (·.fileId)).Nodup := by
  have resolutions : ((loadMixedFolderResolutions evidence before).map Resolution.fileId).Sublist
      ((resolvedTargets evidence before).map fun target => target.file.id) :=
    keys_sublist _ _ (fun _ _ => resolve_fileId) _
  have targets : ((resolvedTargets evidence before).map fun target => target.file.id).Sublist
      (before.files.rows.map ImportedFile.id) :=
    keys_sublist _ _ (fun _ _ resolved => congrArg ImportedFile.id (resolvedTarget_file resolved)) _
  exact before.files.distinct.sublist (resolutions.trans targets)

/-! ### One resolution -/

section Operations

variable (catalog : Catalog) (resolution : Resolution)

@[simp] theorem targetImportSeries_files :
    (catalog.targetImportSeries resolution).2.files = catalog.files := by
  unfold Catalog.targetImportSeries
  split <;> rfl

@[simp] theorem targetImportSeries_libraryFiles :
    (catalog.targetImportSeries resolution).2.libraryFiles = catalog.libraryFiles := by
  unfold Catalog.targetImportSeries
  split <;> rfl

@[simp] theorem targetImportSeries_issues :
    (catalog.targetImportSeries resolution).2.issues = catalog.issues := by
  unfold Catalog.targetImportSeries
  split <;> rfl

theorem statusAfterRelease_owned (issue : Issue) (remaining : Nat) :
    catalog.statusAfterRelease issue remaining = .owned ↔ remaining ≠ 0 := by
  unfold Catalog.statusAfterRelease
  split_ifs <;> simp_all

end Operations

section Release

variable (progress : Progress) (resolution : Resolution) (issue : Option Nat)

@[simp] theorem release_files :
    (progress.release resolution issue).catalog.files = progress.catalog.files := by
  unfold Progress.release
  split
  · rfl
  · split <;> rfl

@[simp] theorem release_libraryFiles :
    (progress.release resolution issue).catalog.libraryFiles = progress.catalog.libraryFiles := by
  unfold Progress.release
  split
  · rfl
  · split <;> rfl

/-- An issue that the file leaves counts as owned while files are left; no other issue
changes. -/
theorem release_issues :
    (∀ id issue, resolution.sourceIssueId = some id → id ≠ resolution.targetIssueId →
      (progress.release resolution resolution.sourceIssueId).catalog.issues.find id = some issue →
        (issue.status = .owned ↔
          (progress.release resolution resolution.sourceIssueId).ownerCounts id ≠ 0)) ∧
    (∀ id, (resolution.sourceIssueId = some id → id = resolution.targetIssueId) →
      (progress.release resolution resolution.sourceIssueId).catalog.issues.find id =
        progress.catalog.issues.find id) ∧
    (∀ id, (progress.release resolution resolution.sourceIssueId).catalog.issues.find id = none ↔
      progress.catalog.issues.find id = none) ∧
    ∀ id, progress.catalog.issues.find id ≠ none →
      (progress.release resolution resolution.sourceIssueId).ownerCounts id =
        if resolution.sourceIssueId = some id ∧ id ≠ resolution.targetIssueId then
          progress.ownerCounts id - 1
        else
          progress.ownerCounts id := by
  unfold Progress.release
  cases source : resolution.sourceIssueId with
  | none => simp
  | some id =>
    cases found : progress.catalog.issues.find id with
    | none =>
      simp only [bind_some, found]
      refine ⟨?_, by simp, by simp, ?_⟩
      · rintro other issue same _ present
        cases same
        simp [found] at present
      · intro other present
        rw [if_neg]
        rintro ⟨same, _⟩
        cases same
        exact present found
    | some previous =>
      have named : previous.id = id := Table.key_of_find found
      subst named
      simp only [bind_some, found]
      split_ifs with same
      · refine ⟨?_, fun _ _ => rfl, fun _ => Iff.rfl, ?_⟩
        · rintro other issue equal different
          cases equal
          exact absurd same different
        · intro other _
          rw [if_neg]
          rintro ⟨equal, different⟩
          cases equal
          exact different same
      · refine ⟨?_, ?_, ?_, ?_⟩
        · rintro other issue equal _ present
          cases equal
          simp only [Catalog.setIssueStatus, Table.find_modify_self, found,
            map_some, Option.some.injEq] at present
          subst present
          simp only [if_true]
          exact statusAfterRelease_owned _ _ _
        · intro other outside
          have different : other ≠ previous.id := by
            rintro rfl
            exact same (outside rfl)
          simp only [Catalog.setIssueStatus]
          rw [Table.find_modify_ne _ different]
        · intro other
          simp only [Catalog.setIssueStatus, Table.find_modify]
          split_ifs
          · rw [map_eq_none_iff]
          · exact Iff.rfl
        · intro other _
          by_cases equal : other = previous.id
          · subst equal
            simp [same]
          · have apart : ¬ (some previous.id = some other ∧
                other ≠ resolution.targetIssueId) := by
              rintro ⟨named, _⟩
              exact equal (Option.some.inj named).symm
            rw [if_neg apart]
            exact if_neg equal

end Release

/-- The library files after one resolution. -/
def Resolution.libraries (resolution : Resolution)
    (libraries : Sql.Table LibraryFile LibraryFile.id) : Sql.Table LibraryFile LibraryFile.id :=
  match resolution.sourceLibraryFileId with
  | none => libraries
  | some id =>
    if resolution.Moves then
      if resolution.replacement = none then
        libraries.modify id
          (fun library => { library with issueId := some resolution.targetIssueId }) fun _ => rfl
      else
        libraries.delete id
    else
      libraries

/-- A file that referred to the library file that one resolution dropped. -/
def Resolution.unlink (resolution : Resolution) (file : ImportedFile) : ImportedFile :=
  if resolution.Moves ∧ resolution.replacement ≠ none ∧
      file.libraryFileId = resolution.sourceLibraryFileId then
    { file with libraryFileId := none }
  else
    file

/-- Everything that one resolution does to files, registrations and issues. -/
structure Effect (resolution : Resolution) (before after : Progress) : Prop where
  file : ∃ file, after.catalog.files.find resolution.fileId = some file ∧
    file.matchedIssueId = some resolution.targetIssueId ∧
      (file.libraryFileId = resolution.registration ∧ resolution.registration ≠ none ∨
        resolution.registration = none ∧ file.status = .confirmed)
  files : ∀ id, id ≠ resolution.fileId →
    after.catalog.files.find id = (before.catalog.files.find id).map resolution.unlink
  libraries : after.catalog.libraryFiles = resolution.libraries before.catalog.libraryFiles
  owned : resolution.registration ≠ none → ∀ issue,
    after.catalog.issues.find resolution.targetIssueId = some issue → issue.status = .owned
  released : resolution.Moves → ∀ id, resolution.sourceIssueId = some id → ∀ issue,
    after.catalog.issues.find id = some issue →
      (issue.status = .owned ↔ after.ownerCounts id ≠ 0)
  issues : ∀ id, resolution.registration = none ∨ id ≠ resolution.targetIssueId →
    ¬ (resolution.Moves ∧ resolution.sourceIssueId = some id) →
      after.catalog.issues.find id = before.catalog.issues.find id
  found : ∀ id, after.catalog.issues.find id = none ↔ before.catalog.issues.find id = none
  counts : ∀ id, before.catalog.issues.find id ≠ none →
    after.ownerCounts id =
      if resolution.Moves ∧ resolution.sourceIssueId = some id then before.ownerCounts id - 1
      else before.ownerCounts id

/-- Setting the target issue owned. -/
theorem setIssueStatus_find (catalog : Catalog) (id other : Nat) (status : IssueStatus) :
    (catalog.setIssueStatus id status).issues.find other =
      if other = id then (catalog.issues.find other).map fun issue => { issue with status := status }
      else catalog.issues.find other := by
  rw [Catalog.setIssueStatus, Table.find_modify]

theorem setFile_find (catalog : Catalog) (importSeriesId : Nat) (status : ImportedFileStatus)
    (library : Option Nat → Option Nat) (different : id ≠ resolution.fileId) :
    (catalog.setFile resolution importSeriesId status library).files.find id =
      catalog.files.find id := by
  rw [Catalog.setFile, Table.find_modify_ne _ different]

theorem setFile_find_self (importSeriesId : Nat)
    (status : ImportedFileStatus) (library : Option Nat → Option Nat)
    (present : catalog.files.find resolution.fileId ≠ none) :
    ∃ file, (catalog.setFile resolution importSeriesId status library).files.find
        resolution.fileId = some file ∧
      file.matchedIssueId = some resolution.targetIssueId ∧ file.status = status ∧
        ∃ old, file.libraryFileId = library old := by
  obtain ⟨file, found⟩ := ne_none_iff_exists'.1 present
  rw [Catalog.setFile, Table.find_modify_self, found]
  exact ⟨_, rfl, rfl, rfl, file.libraryFileId, rfl⟩

theorem setIssueStatus_find_none (catalog : Catalog) (id other : Nat) (status : IssueStatus) :
    (catalog.setIssueStatus id status).issues.find other = none ↔
      catalog.issues.find other = none := by
  rw [setIssueStatus_find]
  split_ifs
  · exact map_eq_none_iff
  · exact Iff.rfl

theorem setIssueStatus_status {status : IssueStatus} {issue : Issue}
    (found : (catalog.setIssueStatus id status).issues.find id = some issue) :
    issue.status = status := by
  rw [setIssueStatus_find, if_pos rfl] at found
  obtain ⟨_, _, rfl⟩ := map_eq_some_iff.1 found
  rfl

theorem Resolution.unlink_of_stays (stays : ¬ resolution.Moves) (file : ImportedFile) :
    resolution.unlink file = file :=
  if_neg fun changed => stays changed.1

/-- A file that stays without a registration is confirmed for a retry. -/
theorem Effect.confirmed {importSeriesId : Nat} {retry : List Nat}
    (files : catalog.files = progress.catalog.files)
    (libraries : catalog.libraryFiles = progress.catalog.libraryFiles)
    (issues : catalog.issues = progress.catalog.issues)
    (present : progress.catalog.files.find resolution.fileId ≠ none)
    (source : resolution.sourceLibraryFileId = none)
    (target : resolution.targetLibraryFileId = none) :
    Effect resolution progress
      { progress with
        catalog := (catalog.setFile resolution importSeriesId .confirmed
          fun library => library).selectForImport importSeriesId
        retrySeriesIds := retry } := by
  have stays : ¬ resolution.Moves := fun moves => moves.1 source
  have unregistered : resolution.registration = none := by
    simp [Resolution.registration, stays, source, target]
  rw [← files] at present
  obtain ⟨file, found, matched, status, _⟩ :=
    setFile_find_self importSeriesId .confirmed (fun library => library) present
  constructor
  case file => exact ⟨file, found, matched, .inr ⟨unregistered, status⟩⟩
  case files =>
    intro id different
    have kept := setFile_find catalog importSeriesId .confirmed (fun library => library) different
    refine kept.trans ?_
    rw [files]
    cases progress.catalog.files.find id with
    | none => rfl
    | some file => rw [map_some, Resolution.unlink_of_stays stays]
  case libraries =>
    simp only [Resolution.libraries, source]
    exact libraries
  case owned => exact fun registered => absurd unregistered registered
  case released => exact fun moves => absurd moves stays
  case issues =>
    intro id _ _
    exact congrArg (Table.find · id) issues
  case found =>
    intro id
    exact iff_of_eq (congrArg (Table.find · id = none) issues)
  case counts =>
    intro id _
    rw [if_neg fun moves => stays moves.1]

/-- A file that stays without a registration of its own gets the one of its issue. -/
theorem Effect.owned_by {importSeriesId targetId : Nat}
    (files : catalog.files = progress.catalog.files)
    (libraries : catalog.libraryFiles = progress.catalog.libraryFiles)
    (issues : catalog.issues = progress.catalog.issues)
    (present : progress.catalog.files.find resolution.fileId ≠ none)
    (source : resolution.sourceLibraryFileId = none)
    (target : resolution.targetLibraryFileId = some targetId) :
    Effect resolution progress
      { progress with
        catalog := (catalog.setFile resolution importSeriesId .alreadyOwned
          fun _ => some targetId).setIssueStatus resolution.targetIssueId .owned } := by
  have stays : ¬ resolution.Moves := fun moves => moves.1 source
  have registered : resolution.registration = some targetId := by
    simp [Resolution.registration, stays, source, target]
  rw [← files] at present
  obtain ⟨file, found, matched, _, _, refers⟩ :=
    setFile_find_self importSeriesId .alreadyOwned (fun _ => some targetId) present
  have writes : ∀ id, ((catalog.setFile resolution importSeriesId .alreadyOwned
      fun _ => some targetId).issues.find id) = progress.catalog.issues.find id :=
    fun id => congrArg (Table.find · id) issues
  constructor
  case file =>
    exact ⟨file, found, matched, .inl ⟨refers.trans registered.symm, by simp [registered]⟩⟩
  case files =>
    intro id different
    have kept := setFile_find catalog importSeriesId .alreadyOwned (fun _ => some targetId)
      different
    refine kept.trans ?_
    rw [files]
    cases progress.catalog.files.find id with
    | none => rfl
    | some file => rw [map_some, Resolution.unlink_of_stays stays]
  case libraries =>
    simp only [Resolution.libraries, source]
    exact libraries
  case owned => exact fun _ issue present => setIssueStatus_status present
  case released => exact fun moves => absurd moves stays
  case issues =>
    intro id outside _
    have different := outside.resolve_left (by simp [registered])
    rw [setIssueStatus_find, if_neg different, writes]
  case found =>
    intro id
    rw [setIssueStatus_find_none, writes]
  case counts =>
    intro id _
    rw [if_neg fun moves => stays moves.1]

/-- A registered file ends with its registration, and the issue it leaves is released. -/
theorem Effect.registered
    (source : resolution.sourceLibraryFileId ≠ none)
    (found : catalog.files.find resolution.fileId = some file)
    (matched : file.matchedIssueId = some resolution.targetIssueId)
    (refers : file.libraryFileId = resolution.registration)
    (files : ∀ id, id ≠ resolution.fileId →
      catalog.files.find id = (progress.catalog.files.find id).map resolution.unlink)
    (libraries : catalog.libraryFiles = resolution.libraries progress.catalog.libraryFiles)
    (issues : catalog.issues = progress.catalog.issues) :
    Effect resolution progress
      (Progress.release
        { progress with catalog := catalog.setIssueStatus resolution.targetIssueId .owned }
        resolution resolution.sourceIssueId) := by
  obtain ⟨released, kept, present, counts⟩ := release_issues
    { progress with catalog := catalog.setIssueStatus resolution.targetIssueId .owned } resolution
  have writes : ∀ id, catalog.issues.find id = progress.catalog.issues.find id :=
    fun id => congrArg (Table.find · id) issues
  have leaves : ∀ id, resolution.Moves ∧ resolution.sourceIssueId = some id ↔
      resolution.sourceIssueId = some id ∧ id ≠ resolution.targetIssueId := by
    intro id
    constructor
    · rintro ⟨⟨_, different⟩, left⟩
      refine ⟨left, ?_⟩
      rintro rfl
      exact different left
    · rintro ⟨left, different⟩
      refine ⟨⟨source, ?_⟩, left⟩
      rw [left]
      exact fun same => different (Option.some.inj same)
  have owned : resolution.registration ≠ none := by
    unfold Resolution.registration
    cases named : resolution.sourceLibraryFileId with
    | none => exact absurd named source
    | some id => split_ifs <;> simp
  constructor
  case file =>
    refine ⟨file, ?_, matched, .inl ⟨refers, owned⟩⟩
    rw [release_files]
    exact found
  case files =>
    intro id different
    rw [release_files]
    exact files id different
  case libraries =>
    rw [release_libraryFiles]
    exact libraries
  case owned =>
    intro _ issue there
    rw [kept _ fun _ => rfl] at there
    exact setIssueStatus_status there
  case released =>
    intro moves id left issue there
    exact released id issue left ((leaves id).1 ⟨moves, left⟩).2 there
  case issues =>
    intro id outside stays
    have different := outside.resolve_left owned
    rw [kept id fun left => by_contra fun apart => stays ((leaves id).2 ⟨left, apart⟩),
      setIssueStatus_find, if_neg different, writes]
  case found =>
    intro id
    rw [present, setIssueStatus_find_none, writes]
  case counts =>
    intro id there
    have listed : (catalog.setIssueStatus resolution.targetIssueId .owned).issues.find id ≠ none := by
      rw [Ne, setIssueStatus_find_none, writes]
      exact there
    rw [counts id listed]
    exact if_congr (leaves id).symm rfl rfl

theorem Resolution.replacement_eq (source : resolution.sourceLibraryFileId = some id) :
    resolution.replacement = resolution.targetLibraryFileId.filter fun other => other ≠ id := by
  simp [replacement, source]

theorem deleteLibraryFile_find (catalog : Catalog) (id other : Nat) :
    (catalog.deleteLibraryFile id).files.find other =
      (catalog.files.find other).map fun file =>
        if file.libraryFileId = some id then { file with libraryFileId := none } else file := by
  rw [Catalog.deleteLibraryFile, Table.find_each]

theorem Resolution.unlink_eq (moves : resolution.Moves) (replaced : resolution.replacement ≠ none)
    (source : resolution.sourceLibraryFileId = some id) (file : ImportedFile) :
    resolution.unlink file =
      if file.libraryFileId = some id then { file with libraryFileId := none } else file := by
  simp [unlink, moves, replaced, source]

theorem Resolution.libraries_of_stays {libraries : Sql.Table LibraryFile LibraryFile.id}
    (stays : ¬ resolution.Moves) : resolution.libraries libraries = libraries := by
  unfold Resolution.libraries
  split
  · rfl
  · rw [if_neg stays]

/-- Another library file has the issue, and the one of the file is dropped. -/
theorem Effect.dropped (moves : resolution.Moves)
    (source : resolution.sourceLibraryFileId = some library.id)
    (replaced : resolution.replacement = some targetId)
    (there : (progress.catalog.targetImportSeries resolution).2.files.find
      resolution.fileId ≠ none) :
    Effect resolution progress
      (Progress.release
        { progress with
          catalog := (((progress.catalog.targetImportSeries resolution).2.setFile resolution
            (progress.catalog.targetImportSeries resolution).1 .alreadyOwned
              fun _ => some targetId).deleteLibraryFile library.id).setIssueStatus
                resolution.targetIssueId .owned }
        resolution resolution.sourceIssueId) := by
  have other := Resolution.replacement_eq source
  have different : targetId ≠ library.id := by
    simpa using (filter_eq_some_iff.1 (other.symm.trans replaced)).2
  have registered : resolution.registration = some targetId := by
    simp [Resolution.registration, moves, replaced]
  obtain ⟨file, written, matched, _, _, refers⟩ :=
    setFile_find_self (progress.catalog.targetImportSeries resolution).1 .alreadyOwned
      (fun _ => some targetId) there
  refine Effect.registered moves.1 ?_ matched (refers.trans registered.symm) ?_ ?_ ?_
  · rw [deleteLibraryFile_find, written, map_some, if_neg]
    rw [refers]
    exact fun same => different (Option.some.inj same)
  · intro id apart
    rw [deleteLibraryFile_find, setFile_find _ _ _ _ apart, targetImportSeries_files]
    have replaces : resolution.replacement ≠ none := by simp [replaced]
    exact map_congr fun file _ =>
      (Resolution.unlink_eq moves replaces source file).symm
  · simp [Resolution.libraries, source, moves, replaced, Catalog.deleteLibraryFile,
      Catalog.setFile]
  · exact targetImportSeries_issues _ _

/-- A resolution whose rows are there is applied. -/
theorem applyResolution_effect
    (present : progress.catalog.files.find resolution.fileId ≠ none)
    (sourced : ∀ id, resolution.sourceLibraryFileId = some id →
      ∃ library, progress.catalog.libraryFiles.find id = some library ∧
        library.issueId = resolution.sourceIssueId)
    (targeted : ∀ id, resolution.targetLibraryFileId = some id →
      progress.catalog.libraryFiles.find id ≠ none) :
    ∃ after, applyResolution resolution progress = some after ∧
      Effect resolution progress after := by
  unfold applyResolution
  simp only [targetImportSeries_files, targetImportSeries_libraryFiles, if_neg present]
  cases source : resolution.sourceLibraryFileId with
  | none =>
    cases target : resolution.targetLibraryFileId with
    | none =>
      refine ⟨_, rfl, ?_⟩
      exact Effect.confirmed (by simp) (by simp) (by simp) present source target
    | some targetId =>
      simp only [if_neg (targeted targetId target)]
      refine ⟨_, rfl, ?_⟩
      exact Effect.owned_by (by simp) (by simp) (by simp) present source target
  | some sourceId =>
    obtain ⟨library, found, issue⟩ := sourced sourceId source
    have named : library.id = sourceId := Table.key_of_find found
    subst named
    have untouched : ∀ status libraries id, id ≠ resolution.fileId →
        (((progress.catalog.targetImportSeries resolution).2.setFile resolution
          (progress.catalog.targetImportSeries resolution).1 status libraries).files.find id) =
            progress.catalog.files.find id := by
      intro status libraries id different
      rw [setFile_find _ _ _ _ different, targetImportSeries_files]
    have there : (progress.catalog.targetImportSeries resolution).2.files.find
        resolution.fileId ≠ none := by
      rwa [targetImportSeries_files]
    have sourced : resolution.sourceLibraryFileId ≠ none := by simp [source]
    simp only [found, bind_some]
    unfold Catalog.moveRegistration
    simp only [issue]
    split_ifs with settled
    · -- the registration is right already
      have stays : ¬ resolution.Moves := fun moves => moves.2 settled
      have registered : resolution.registration = some library.id := by
        simp [Resolution.registration, stays, source]
      obtain ⟨file, written, matched, _, _, refers⟩ :=
        setFile_find_self (progress.catalog.targetImportSeries resolution).1 .imported
          (fun _ => some library.id) there
      refine ⟨_, rfl, Effect.registered sourced written matched (refers.trans registered.symm)
        ?_ ?_ ?_⟩
      · intro id different
        rw [untouched _ _ id different]
        cases progress.catalog.files.find id with
        | none => rfl
        | some file => rw [map_some, Resolution.unlink_of_stays stays]
      · rw [Resolution.libraries_of_stays stays]
        exact targetImportSeries_libraryFiles _ _
      · exact targetImportSeries_issues _ _
    · have moves : resolution.Moves := ⟨sourced, settled⟩
      have other := Resolution.replacement_eq source
      rw [← other]
      cases replaced : resolution.replacement with
      | some targetId =>
        -- another library file has the issue
        have named : resolution.targetLibraryFileId = some targetId :=
          (filter_eq_some_iff.1 (other.symm.trans replaced)).1
        simp only [targetImportSeries_libraryFiles, if_neg (targeted targetId named)]
        exact ⟨_, rfl, Effect.dropped moves source replaced there⟩
      | none =>
        -- the registration moves to the issue
        have registered : resolution.registration = some library.id := by
          simp [Resolution.registration, moves, replaced, source]
        obtain ⟨file, written, matched, _, _, refers⟩ :=
          setFile_find_self (progress.catalog.targetImportSeries resolution).1 .imported
            (fun _ => some library.id) there
        refine ⟨_, rfl, Effect.registered sourced written matched
          (refers.trans registered.symm) ?_ ?_ ?_⟩
        · intro id apart
          refine (untouched .imported (fun _ => some library.id) id apart).trans ?_
          have kept : ∀ file, resolution.unlink file = file :=
            fun file => if_neg fun changed => changed.2.1 replaced
          cases progress.catalog.files.find id with
          | none => rfl
          | some file => rw [map_some, kept]
        · simp [Resolution.libraries, source, moves, replaced, Catalog.setLibraryIssue,
            Catalog.setFile]
        · exact targetImportSeries_issues _ _

/-! ### Resolutions one after another -/

theorem Resolution.registration_cases (registered : resolution.registration = some id) :
    resolution.sourceLibraryFileId = some id ∨ resolution.targetLibraryFileId = some id := by
  unfold registration at registered
  split_ifs at registered
  · rcases or_eq_some_iff.1 registered with replaced | ⟨_, source⟩
    · exact .inr (filter_eq_some_iff.1 replaced).1
    · exact .inl source
  · rcases or_eq_some_iff.1 registered with source | ⟨_, target⟩
    · exact .inl source
    · exact .inr target

/-- No file ends with a registration that another one moves or drops. -/
theorem Apart.registration (apart : Apart resolutions) (member : resolution ∈ resolutions)
    (moves : resolution.Moves) (otherMember : other ∈ resolutions)
    (different : other.fileId ≠ resolution.fileId) :
    other.registration ≠ resolution.sourceLibraryFileId := by
  intro same
  obtain ⟨id, source⟩ := ne_none_iff_exists'.1 moves.1
  obtain ⟨sources, targets⟩ := apart resolution member moves other otherMember different
  rcases Resolution.registration_cases (same.trans source) with named | named
  · exact sources (named.trans source.symm)
  · exact targets (named.trans source.symm)

/-- No file names an issue that another one leaves. -/
theorem Apart.released (apart : Apart resolutions)
    (loaded : ∀ resolution ∈ resolutions, Loaded before resolution)
    (once : (resolutions.map (·.fileId)).Nodup) (member : resolution ∈ resolutions)
    (moves : resolution.Moves) (left : resolution.sourceIssueId = some id)
    (otherMember : other ∈ resolutions) : other.targetIssueId ≠ id := by
  rintro rfl
  obtain ⟨sourceId, source⟩ := ne_none_iff_exists'.1 moves.1
  obtain ⟨library, found, registered⟩ := (loaded resolution member).source sourceId source
  have named : library.id = sourceId := Table.key_of_find found
  have target := (loaded other otherMember).only library (Table.mem_of_find found)
    (registered.trans left)
  by_cases same : other.fileId = resolution.fileId
  · rw [inj_on_of_nodup_map once otherMember member same] at left
    exact moves.2 left
  · exact (apart resolution member moves other otherMember same).2
      (by rw [target, source, named])

theorem Resolution.libraries_find_ne {libraries : Sql.Table LibraryFile LibraryFile.id}
    (outside : resolution.Moves → resolution.sourceLibraryFileId ≠ some id) :
    (resolution.libraries libraries).find id = libraries.find id := by
  unfold Resolution.libraries
  cases source : resolution.sourceLibraryFileId with
  | none => rfl
  | some sourceId =>
    simp only
    split_ifs with moves replaced
    · have different : id ≠ sourceId := fun same => outside moves (same ▸ source)
      rw [Table.find_modify_ne _ different]
    · have different : id ≠ sourceId := fun same => outside moves (same ▸ source)
      rw [Table.find_delete_ne different]
    · rfl

/-- The library file of a resolution that moves it or drops it. -/
theorem Resolution.libraries_find {libraries : Sql.Table LibraryFile LibraryFile.id}
    (moves : resolution.Moves) (source : resolution.sourceLibraryFileId = some id) :
    (resolution.libraries libraries).find id =
      if resolution.replacement = none then
        (libraries.find id).map fun library =>
          { library with issueId := some resolution.targetIssueId }
      else
        none := by
  simp only [Resolution.libraries, source, if_pos moves]
  split_ifs
  · rw [Table.find_modify_self]
  · rw [Table.find_delete, if_pos rfl]

/-- An issue that the file does not name loses the file if it had it. -/
theorem Resolution.libraries_count {libraries : Sql.Table LibraryFile LibraryFile.id}
    {sourceId id : Nat} (moves : resolution.Moves)
    (source : resolution.sourceLibraryFileId = some sourceId)
    (found : libraries.find sourceId = some library) (outside : resolution.targetIssueId ≠ id) :
    (resolution.libraries libraries).count (fun library => library.issueId == some id) +
        (if library.issueId = some id then 1 else 0) =
      libraries.count fun library => library.issueId == some id := by
  simp only [Resolution.libraries, source, if_pos moves]
  by_cases replaced : resolution.replacement = none
  · rw [if_pos replaced]
    have kept : ∀ row : LibraryFile,
        LibraryFile.id { row with issueId := some resolution.targetIssueId } =
          LibraryFile.id row := fun _ => rfl
    have counted := Table.count_modify kept found fun library => library.issueId == some id
    simpa [outside] using counted
  · rw [if_neg replaced]
    have counted := Table.count_delete found fun library => library.issueId == some id
    simpa using counted

/-- The rows after some of the resolutions. -/
structure Applied (before : Catalog) (resolutions done : List Resolution) (progress : Progress) :
    Prop where
  files : ∀ id, progress.catalog.files.find id = none ↔ before.files.find id = none
  touched : ∀ resolution ∈ done, ∃ file,
    progress.catalog.files.find resolution.fileId = some file ∧
      file.matchedIssueId = some resolution.targetIssueId ∧
        (file.libraryFileId = resolution.registration ∧ resolution.registration ≠ none ∨
          resolution.registration = none ∧ file.status = .confirmed)
  libraries : ∀ id, (∀ resolution ∈ done, resolution.Moves →
      resolution.sourceLibraryFileId ≠ some id) →
    progress.catalog.libraryFiles.find id = before.libraryFiles.find id
  moved : ∀ resolution ∈ done, resolution.Moves → ∀ id,
    resolution.sourceLibraryFileId = some id →
      progress.catalog.libraryFiles.find id =
        if resolution.replacement = none then
          (before.libraryFiles.find id).map fun library =>
            { library with issueId := some resolution.targetIssueId }
        else
          none
  owned : ∀ resolution ∈ done, resolution.registration ≠ none → ∀ issue,
    progress.catalog.issues.find resolution.targetIssueId = some issue → issue.status = .owned
  released : ∀ resolution ∈ done, resolution.Moves → ∀ id, resolution.sourceIssueId = some id →
    ∀ issue, progress.catalog.issues.find id = some issue →
      (issue.status = .owned ↔ progress.ownerCounts id ≠ 0)
  counts : ∀ id, (∀ resolution ∈ resolutions, resolution.targetIssueId ≠ id) →
    progress.catalog.issues.find id ≠ none →
      progress.ownerCounts id = progress.catalog.owners id

theorem Applied.initial (before : Catalog) (resolutions : List Resolution) :
    Applied before resolutions [] ⟨before, before.owners, []⟩ where
  files _ := Iff.rfl
  touched := nofun
  libraries _ _ := rfl
  moved := nofun
  owned := nofun
  released := nofun
  counts _ _ _ := rfl

section Step

variable {after : Progress} (apart : Apart resolutions)
  (loaded : ∀ resolution ∈ resolutions, Loaded before resolution)
  (once : (resolutions.map (·.fileId)).Nodup) (applied : Applied before resolutions done progress)
  (earlier : ∀ resolution ∈ done, resolution ∈ resolutions)
  (member : resolution ∈ resolutions)
  (fresh : ∀ other ∈ done, other.fileId ≠ resolution.fileId)
include apart applied earlier member fresh

/-- The library file that a resolution moves or drops is still as it was. -/
theorem Applied.source_untouched (source : resolution.sourceLibraryFileId = some id) :
    progress.catalog.libraryFiles.find id = before.libraryFiles.find id := by
  refine applied.libraries id ?_
  intro other inside moves same
  exact (apart other (earlier other inside) moves resolution member
    (fresh other inside).symm).1 (source.trans same.symm)

/-- The library file that already has the issue is still as it was. -/
theorem Applied.target_untouched (target : resolution.targetLibraryFileId = some id) :
    progress.catalog.libraryFiles.find id = before.libraryFiles.find id := by
  refine applied.libraries id ?_
  intro other inside moves same
  exact (apart other (earlier other inside) moves resolution member
    (fresh other inside).symm).2 (target.trans same.symm)

/-- A file that was treated keeps its end: its registration is not the one that is dropped. -/
theorem Applied.ends (effect : Effect resolution progress after) (inside : other ∈ done) :
    ∃ file, after.catalog.files.find other.fileId = some file ∧
      file.matchedIssueId = some other.targetIssueId ∧
        (file.libraryFileId = other.registration ∧ other.registration ≠ none ∨
          other.registration = none ∧ file.status = .confirmed) := by
  obtain ⟨file, found, matched, ends⟩ := applied.touched other inside
  refine ⟨resolution.unlink file, ?_, ?_, ?_⟩
  · rw [effect.files _ (fresh other inside), found]
    rfl
  · unfold Resolution.unlink
    split_ifs <;> exact matched
  · rcases ends with ⟨refers, registered⟩ | ⟨unregistered, status⟩
    · left
      refine ⟨?_, registered⟩
      unfold Resolution.unlink
      rw [if_neg]
      · exact refers
      · rintro ⟨moves, _, dropped⟩
        exact apart.registration member moves (earlier other inside) (fresh other inside)
          (refers.symm.trans dropped)
    · right
      refine ⟨unregistered, ?_⟩
      unfold Resolution.unlink
      split_ifs <;> exact status

include loaded

/-- The next resolution is applied. -/
theorem Applied.ready : ∃ after, applyResolution resolution progress = some after ∧
    Effect resolution progress after := by
  have read := loaded resolution member
  refine applyResolution_effect ?_ ?_ ?_
  · exact fun absent => read.file ((applied.files _).1 absent)
  · intro id source
    rw [applied.source_untouched apart earlier member fresh source]
    exact read.source id source
  · intro id target absent
    rw [applied.target_untouched apart earlier member fresh target] at absent
    obtain ⟨library, found, _⟩ := read.target id target
    rw [absent] at found
    cases found

/-- The count of an issue that no file ends with follows the registrations. -/
theorem Applied.counted (effect : Effect resolution progress after)
    (outside : ∀ resolution ∈ resolutions, resolution.targetIssueId ≠ id)
    (present : after.catalog.issues.find id ≠ none) :
    after.ownerCounts id = after.catalog.owners id := by
  have read := loaded resolution member
  have listed : progress.catalog.issues.find id ≠ none :=
    fun absent => present ((effect.found id).2 absent)
  have previous := applied.counts id outside listed
  rw [effect.counts id listed, Catalog.owners, effect.libraries]
  by_cases moves : resolution.Moves
  · obtain ⟨sourceId, source⟩ := ne_none_iff_exists'.1 moves.1
    obtain ⟨library, found, registered⟩ := read.source sourceId source
    rw [← applied.source_untouched apart earlier member fresh source] at found
    have counted := Resolution.libraries_count moves source found (outside resolution member)
    unfold Catalog.owners at previous
    rw [registered] at counted
    split_ifs with left
    · rw [if_pos left.2] at counted
      omega
    · rw [if_neg fun same => left ⟨moves, same⟩] at counted
      omega
  · rw [Resolution.libraries_of_stays moves, if_neg fun left => moves left.1]
    exact previous

include once

theorem Applied.step (effect : Effect resolution progress after) :
    Applied before resolutions (done ++ [resolution]) after := by
  have read := loaded resolution member
  have split : ∀ {other}, other ∈ done ++ [resolution] → other ∈ done ∨ other = resolution := by
    intro other inside
    simpa using inside
  constructor
  case files =>
    intro id
    by_cases same : id = resolution.fileId
    · subst same
      obtain ⟨file, found, _⟩ := effect.file
      simp [found, read.file]
    · rw [effect.files id same, map_eq_none_iff]
      exact applied.files id
  case touched =>
    intro other inside
    rcases split inside with inside | rfl
    · exact applied.ends apart earlier member fresh effect inside
    · exact effect.file
  case libraries =>
    intro id outside
    have here := outside resolution (by simp)
    rw [effect.libraries, Resolution.libraries_find_ne here]
    exact applied.libraries id fun other inside => outside other (mem_append_left _ inside)
  case moved =>
    intro other inside moves id source
    rw [effect.libraries]
    rcases split inside with inside | rfl
    · rw [Resolution.libraries_find_ne]
      · exact applied.moved other inside moves id source
      · intro moves' same
        exact (apart resolution member moves' other (earlier other inside)
          (fresh other inside)).1 (source.trans same.symm)
    · rw [Resolution.libraries_find moves source,
        applied.source_untouched apart earlier member fresh source]
  case owned =>
    intro other inside registered issue found
    rcases split inside with inside | rfl
    · by_cases written : resolution.registration ≠ none ∧
        other.targetIssueId = resolution.targetIssueId
      · rw [written.2] at found
        exact effect.owned written.1 issue found
      · have untouched : resolution.registration = none ∨
            other.targetIssueId ≠ resolution.targetIssueId := by
          by_cases unregistered : resolution.registration = none
          · exact .inl unregistered
          · exact .inr fun same => written ⟨unregistered, same⟩
        rw [effect.issues _ untouched] at found
        · exact applied.owned other inside registered issue found
        · rintro ⟨moves, left⟩
          exact apart.released loaded once member moves left (earlier other inside) rfl
    · exact effect.owned registered issue found
  case released =>
    intro other inside moves id left issue found
    by_cases again : resolution.Moves ∧ resolution.sourceIssueId = some id
    · exact effect.released again.1 id again.2 issue found
    · rcases split inside with inside | rfl
      · have different := apart.released loaded once (earlier other inside) moves left member
        rw [effect.issues id (.inr different.symm) again] at found
        rw [effect.counts id (by simp [found]), if_neg again]
        exact applied.released other inside moves id left issue found
      · exact absurd ⟨moves, left⟩ again
  case counts =>
    exact fun _ => applied.counted apart loaded earlier member fresh effect

end Step

theorem applyResolutions_applied (apart : Apart resolutions)
    (loaded : ∀ resolution ∈ resolutions, Loaded before resolution)
    (once : (resolutions.map (·.fileId)).Nodup) {rest : List Resolution}
    (applied : Applied before resolutions done progress) (whole : done ++ rest = resolutions) :
    ∃ after, applyResolutions rest progress = some after ∧
      Applied before resolutions resolutions after := by
  induction rest generalizing done progress with
  | nil =>
    rw [append_nil] at whole
    subst whole
    exact ⟨progress, rfl, applied⟩
  | cons resolution rest ih =>
    have earlier : ∀ other ∈ done, other ∈ resolutions := by
      intro other inside
      rw [← whole]
      exact mem_append_left _ inside
    have member : resolution ∈ resolutions := by
      rw [← whole]
      exact mem_append_right _ mem_cons_self
    have fresh : ∀ other ∈ done, other.fileId ≠ resolution.fileId := by
      rw [← whole, map_append, map_cons] at once
      intro other inside same
      exact (disjoint_of_nodup_append once) (mem_map_of_mem inside)
        (same ▸ mem_cons_self)
    obtain ⟨after, ran, effect⟩ := applied.ready apart loaded earlier member fresh
    have next := applied.step apart loaded once earlier member fresh effect
    obtain ⟨final, finished, all⟩ := ih next (by simpa using whole)
    exact ⟨final, by rw [applyResolutions, ran]; exact finished, all⟩

/-! ### The ownership afterwards -/

section Afterwards

variable (apart : Apart resolutions)
  (loaded : ∀ resolution ∈ resolutions, Loaded before resolution)
  (once : (resolutions.map (·.fileId)).Nodup)
  (applied : Applied before resolutions resolutions progress)
include apart once applied

/-- A registration that a file ends with, other than one it moved, is as it was. -/
theorem Applied.registration_untouched (member : resolution ∈ resolutions)
    (registered : resolution.registration = some id)
    (own : ¬ (resolution.Moves ∧ resolution.replacement = none)) :
    progress.catalog.libraryFiles.find id = before.libraryFiles.find id := by
  refine applied.libraries id ?_
  intro other otherMember moves source
  by_cases same : resolution.fileId = other.fileId
  · have equal := inj_on_of_nodup_map once member otherMember same
    subst equal
    obtain ⟨replacement, replaced⟩ := ne_none_iff_exists'.1 fun none => own ⟨moves, none⟩
    have ended : replacement = id := by
      simpa [Resolution.registration, moves, replaced] using registered
    have distinct := (filter_eq_some_iff.1 replaced).2
    simp [source, ended] at distinct
  · exact apart.registration otherMember moves member same (registered.trans source.symm)

include loaded

/-- The registration that a file ends with is one of the issue it names. -/
theorem Applied.registered (member : resolution ∈ resolutions)
    (registered : resolution.registration = some id) :
    ∃ library, progress.catalog.libraryFiles.find id = some library ∧
      library.issueId = some resolution.targetIssueId := by
  have read := loaded resolution member
  by_cases own : resolution.Moves ∧ resolution.replacement = none
  · obtain ⟨moves, replaced⟩ := own
    have source : resolution.sourceLibraryFileId = some id := by
      simpa [Resolution.registration, moves, replaced] using registered
    obtain ⟨library, found, _⟩ := read.source id source
    have moved := applied.moved resolution member moves id source
    rw [if_pos replaced, found, map_some] at moved
    exact ⟨_, moved, rfl⟩
  · rw [applied.registration_untouched apart once member registered own]
    by_cases moves : resolution.Moves
    · obtain ⟨replacement, replaced⟩ := ne_none_iff_exists'.1 fun none => own ⟨moves, none⟩
      have ended : replacement = id := by
        simpa [Resolution.registration, moves, replaced] using registered
      subst ended
      exact read.target replacement (filter_eq_some_iff.1 replaced).1
    · rw [Resolution.registration, if_neg moves] at registered
      rcases or_eq_some_iff.1 registered with source | ⟨_, target⟩
      · obtain ⟨library, found, issue⟩ := read.source id source
        have settled : resolution.sourceIssueId = some resolution.targetIssueId :=
          by_contra fun wrong => moves ⟨by simp [source], wrong⟩
        exact ⟨library, found, issue.trans settled⟩
      · exact read.target id target

theorem Applied.refers (member : resolution ∈ resolutions) :
    Refers progress.catalog resolution := by
  intro file found counted
  obtain ⟨touched, there, matched, ends⟩ := applied.touched resolution member
  rw [there] at found
  obtain rfl := Option.some.inj found
  rcases ends with ⟨refers, registered⟩ | ⟨_, confirmed⟩
  · obtain ⟨id, named⟩ := ne_none_iff_exists'.1 registered
    obtain ⟨library, present, issue⟩ := applied.registered apart loaded once member named
    exact ⟨id, library, refers.trans named, present, matched, issue⟩
  · simp [confirmed] at counted

theorem Applied.ownedIff (written : Written resolutions id) :
    progress.catalog.OwnedIff id := by
  intro issue found
  -- an issue that a registered file names
  have named : ∀ resolution ∈ resolutions, resolution.registration ≠ none →
      resolution.targetIssueId = id →
        (issue.status = .owned ↔
          ∃ library ∈ progress.catalog.libraryFiles.rows, library.issueId = some id) := by
    rintro resolution member registered rfl
    obtain ⟨registration, named⟩ := ne_none_iff_exists'.1 registered
    obtain ⟨library, present, issued⟩ := applied.registered apart loaded once member named
    exact iff_of_true (applied.owned resolution member registered issue found)
      ⟨library, Table.mem_of_find present, issued⟩
  have registered : ∀ resolution : Resolution,
      resolution.sourceLibraryFileId ≠ none ∨ resolution.targetLibraryFileId ≠ none →
        resolution.registration ≠ none := by
    intro resolution either
    unfold Resolution.registration
    split_ifs with moves
    · obtain ⟨source, there⟩ := ne_none_iff_exists'.1 moves.1
      simp [there]
    · cases source : resolution.sourceLibraryFileId with
      | some _ => simp
      | none => simpa [source] using either
  obtain ⟨resolution, member, left | ⟨target, either⟩⟩ := written
  · have source : resolution.sourceLibraryFileId ≠ none := by
      intro absent
      rw [(loaded resolution member).unregistered absent] at left
      cases left
    by_cases settled : resolution.targetIssueId = id
    · exact named resolution member (registered resolution (.inl source)) settled
    · -- an issue that a file left
      have moves : resolution.Moves := by
        refine ⟨source, ?_⟩
        rw [left]
        exact fun same => settled (Option.some.inj same).symm
      rw [applied.released resolution member moves id left issue found,
        applied.counts id (fun other inside => apart.released loaded once member moves left inside)
          (by simp [found]), ← Nat.pos_iff_ne_zero, Catalog.owners, Table.count_pos]
      simp
  · exact named resolution member (registered resolution either) target

theorem Applied.kept (listed : library ∈ before.libraryFiles.rows) :
    progress.catalog.Registers library.filePath ∨
      GivenUp before progress.catalog resolutions library := by
  have found := Table.find_key listed
  by_cases touched : ∃ resolution ∈ resolutions, resolution.Moves ∧
      resolution.sourceLibraryFileId = some library.id
  · obtain ⟨resolution, member, moves, source⟩ := touched
    have moved := applied.moved resolution member moves library.id source
    cases replaced : resolution.replacement with
    | none =>
      rw [if_pos replaced, found, map_some] at moved
      exact .inl ⟨_, Table.mem_of_find moved, rfl⟩
    | some ownerId =>
      right
      have registered : resolution.registration = some ownerId := by
        simp [Resolution.registration, moves, replaced]
      have kept := applied.registration_untouched apart once member registered
        (by simp [replaced])
      obtain ⟨target, distinct⟩ := filter_eq_some_iff.1 replaced
      obtain ⟨owner, present, issue⟩ := (loaded resolution member).target ownerId target
      have named : owner.id = ownerId := Table.key_of_find present
      subst named
      obtain ⟨file, there, _, ends⟩ := applied.touched resolution member
      refine ⟨resolution, member, source, owner, Table.mem_of_find present, ?_, issue,
        kept.trans present, file, there, ?_⟩
      · rintro same
        simp [source, same] at distinct
      · rcases ends with ⟨refers, _⟩ | ⟨unregistered, _⟩
        · exact refers.trans registered
        · simp [registered] at unregistered
  · left
    refine ⟨library, Table.mem_of_find ((applied.libraries library.id ?_).trans found), rfl⟩
    exact fun resolution member moves source => touched ⟨resolution, member, moves, source⟩

end Afterwards

/-- When no file moves or drops a registration that another one uses, the action ends with a
coherent ownership: what counts as owned refers to a library file of its issue, the issues it
writes are owned if and only if they have one, and a registration is only given up for the
library file that had the issue. -/
theorem applyMixedFolderResolutions_coherent (evidence : Evidence) (before : Catalog)
    (apart : Apart (loadMixedFolderResolutions evidence before)) :
    ∃ after, applyMixedFolderResolutions evidence before = some after ∧
      Coherent before after.catalog (loadMixedFolderResolutions evidence before)
        (GivenUp before after.catalog (loadMixedFolderResolutions evidence before)) := by
  have loaded : ∀ resolution ∈ loadMixedFolderResolutions evidence before,
      Loaded before resolution := fun _ => loadMixedFolderResolutions_loaded
  have once := loadMixedFolderResolutions_nodup evidence before
  obtain ⟨after, ran, applied⟩ :=
    applyResolutions_applied apart loaded once (Applied.initial before _) (nil_append _)
  refine ⟨after, ran, ?_, ?_, ?_⟩
  · exact fun resolution member => applied.refers apart loaded once member
  · exact fun id written => applied.ownedIff apart loaded once written
  · exact fun library listed => applied.kept apart loaded once listed

/-! ### Three series of one import -/

/-- The rows after the action; a failed one leaves them. -/
def corrected (evidence : Evidence) (catalog : Catalog) : Catalog :=
  ((applyMixedFolderResolutions evidence catalog).map (·.catalog)).getD catalog

/-- Each file names the series whose key is given, and the first issue there. -/
def namesSeries (named : List (Nat × String)) : Evidence where
  selected _ _ := true
  identity file := (named.lookup file.id).map fun title => ⟨title, some "1", none, none⟩
  normalize title := title

/-- Three series of one issue each, with files registered as given. -/
def imported (files : List ImportedFile) (libraryFiles : List LibraryFile)
    (keys : (files.map (·.id)).Nodup ∧ (libraryFiles.map (·.id)).Nodup) : Catalog where
  files := ⟨files, keys.1⟩
  importSeries := ⟨[⟨1, "saga", none, some 1, false⟩, ⟨2, "fables", none, some 2, false⟩,
    ⟨3, "bone", none, some 3, false⟩], by decide⟩
  libraryFiles := ⟨libraryFiles, keys.2⟩
  issues := ⟨[⟨1, 1, none, "1", .owned⟩, ⟨2, 2, none, "1", .owned⟩,
    ⟨3, 3, none, "1", .wanted⟩], by decide⟩
  series := ⟨[⟨1, "saga", none, true⟩, ⟨2, "fables", none, true⟩, ⟨3, "bone", none, true⟩],
    by decide⟩

/-- A file of the first series that belongs to the second. -/
def strayFile : ImportedFile := ⟨1, 1, "/comics/saga/fables 1.cbz", .imported, false, some 1, some 11⟩

def strayLibraryFile : LibraryFile := ⟨11, "/comics/saga/fables 1.cbz", .referenced, some 1⟩

/-- The second series has a file of the third. -/
def chained : Catalog :=
  imported
    [strayFile, ⟨2, 2, "/comics/fables/bone 1.cbz", .imported, false, some 2, some 12⟩]
    [strayLibraryFile, ⟨12, "/comics/fables/bone 1.cbz", .referenced, some 2⟩]
    (by decide)

/-- The second series has its file. -/
def owned : Catalog :=
  imported [strayFile]
    [strayLibraryFile, ⟨12, "/comics/fables/fables 1.cbz", .managed, some 2⟩] (by decide)

/-- Three files in the folder of the first series: one that belongs to the second series, which has
its file, one that belongs to the third, which has none, and one of the second series that is not
registered. -/
def strays : Catalog :=
  imported
    [strayFile, ⟨2, 1, "/comics/saga/bone 1.cbz", .imported, false, some 1, some 13⟩,
      ⟨3, 1, "/comics/saga/fables 1 (copy).cbz", .noMatch, false, none, none⟩]
    [strayLibraryFile, ⟨12, "/comics/fables/fables 1.cbz", .managed, some 2⟩,
      ⟨13, "/comics/saga/bone 1.cbz", .referenced, some 1⟩]
    (by decide)

def straysNamed : Evidence :=
  namesSeries [(1, "fables"), (2, "bone"), (3, "fables")]

/-- Of three files that are corrected at once, two lose their place: one gives its registration up
for that of its issue, and one is registered to its issue. -/
theorem applyMixedFolderResolutions_coherent_strays :
    ((loadMixedFolderResolutions straysNamed strays).map fun resolution =>
        (resolution.fileId, decide resolution.Moves, resolution.replacement)) =
          [(1, true, some 12), (2, true, none), (3, false, some 12)] ∧
      ∃ after, applyMixedFolderResolutions straysNamed strays = some after ∧
        Coherent strays after.catalog (loadMixedFolderResolutions straysNamed strays)
          (GivenUp strays after.catalog (loadMixedFolderResolutions straysNamed strays)) :=
  ⟨by decide, applyMixedFolderResolutions_coherent straysNamed strays (by decide)⟩

/-- In a chain the first file ends with the registration that the second one moves. And a file
whose issue has another library file is no longer registered itself. -/
theorem corrected_incoherent :
    ¬ Coherent chained (corrected (namesSeries [(1, "fables"), (2, "bone")]) chained)
        (loadMixedFolderResolutions (namesSeries [(1, "fables"), (2, "bone")]) chained)
        (fun _ => False) ∧
      ¬ Coherent owned (corrected (namesSeries [(1, "fables")]) owned)
        (loadMixedFolderResolutions (namesSeries [(1, "fables")]) owned) (fun _ => False) := by
  constructor
  · intro coherent
    have ended : (corrected (namesSeries [(1, "fables"), (2, "bone")]) chained).files.find 1 =
        some ⟨1, 2, "/comics/saga/fables 1.cbz", .alreadyOwned, false, some 2, some 12⟩ := by
      decide
    have moved : (corrected (namesSeries [(1, "fables"), (2, "bone")]) chained).libraryFiles.find
        12 = some ⟨12, "/comics/fables/bone 1.cbz", .referenced, some 3⟩ := by decide
    obtain ⟨id, library, refers, found, _, issue⟩ :=
      coherent.refers ⟨1, 1, 2, 2, some 12, some 11, some 1⟩ (by decide) _ ended (.inr rfl)
    obtain rfl := Option.some.inj refers
    obtain rfl := Option.some.inj (moved.symm.trans found)
    exact absurd issue (by decide)
  · intro coherent
    have gone : ∀ library ∈ (corrected (namesSeries [(1, "fables")]) owned).libraryFiles.rows,
        library.filePath ≠ strayLibraryFile.filePath := by decide
    rcases coherent.kept strayLibraryFile (by decide) with ⟨library, listed, same⟩ | released
    · exact gone library listed same
    · exact released

end Pullbox.Import.MixedFolder
