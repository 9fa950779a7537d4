import Pullbox.Library.Delete

/-!
# What a library deletion may touch

A deletion is confined when it stays with its target, on disk and in the rows. It is,
however the disk answers, exactly when the rows it selects are the ones at or beneath the
target and none of them shares an issue or a place with a row that must stay.
-/

namespace Pullbox.Library

open Files List

variable {locate : Locate} {request : DeleteRequest} {store : LibraryStore} {catalog : Catalog}
  {disk after : Disk} {file : LibraryFile} {place : List Name}

/-- A path at or beneath the target. -/
def Beneath (locate : Locate) (target path : String) : Prop :=
  locate target <+: locate path

instance (locate : Locate) (target path : String) : Decidable (Beneath locate target path) :=
  inferInstanceAs (Decidable (_ <+: _))

/-- An issue that counts as owned. -/
def Catalog.Owned (catalog : Catalog) (id : Nat) : Prop :=
  ∃ issue, catalog.issues id = some issue ∧ issue.status = .owned

/-- What a deletion may change, when it ends and when it fails. -/
structure Confined (locate : Locate) (target : String) (before : LibraryStore)
    (answer : Except DeleteError LibraryDeleteOutcome × LibraryStore) : Prop where
  disk : ∀ place, Tree.Lost before.disk answer.2.disk place → locate target <+: place
  referenced : ∀ file ∈ before.catalog.files, file.storageMode = .referenced →
    ¬ Tree.Lost before.disk answer.2.disk (locate file.filePath)
  files : ∀ outcome, answer.1 = .ok outcome → ∀ file, file ∈ answer.2.catalog.files ↔
    file ∈ before.catalog.files ∧ ¬ Beneath locate target file.filePath
  series : ∀ outcome, answer.1 = .ok outcome → ∀ id, answer.2.catalog.series id =
    (before.catalog.series id).map fun series =>
      if series.path.any fun path => decide (Beneath locate target path) then
        { series with path := none }
      else
        series
  owned : ∀ id, before.catalog.Owned id →
    (∃ file ∈ answer.2.catalog.files, file.issueId = some id) → answer.2.catalog.Owned id
  failed : ∀ error, answer.1 = .error error → answer.2.catalog = before.catalog

/-- The rows that a deletion selects are the right ones. -/
structure Selective (locate : Locate) (request : DeleteRequest) (store : LibraryStore) :
    Prop where
  /-- The pattern finds the files at or beneath the target. -/
  files : ∀ file ∈ store.catalog.files,
    selects request.target request.kind file.filePath = true ↔
      Beneath locate request.target file.filePath
  /-- The series that are cleared are the ones at or beneath the target. -/
  series : ∀ id series path, store.catalog.series id = some series → series.path = some path →
    (request.clears store.catalog path = true ↔ Beneath locate request.target path)
  /-- An owned issue loses all its files or none. -/
  issues : ∀ id, store.catalog.Owned id → ∀ file ∈ request.trackedFiles store.catalog,
    file.issueId = some id → ∀ other ∈ store.catalog.files, other.issueId = some id →
      other ∈ request.trackedFiles store.catalog
  /-- No managed file that is removed on its own is the place of a referenced one, or above
  it. -/
  apart : request.referencedFiles store.catalog ≠ [] →
    ∀ managed ∈ request.managedFiles store.catalog, store.disk (locate managed.filePath) ≠ none →
      ∀ other ∈ store.catalog.files, other.storageMode = .referenced →
        store.disk (locate other.filePath) ≠ none →
          ¬ locate managed.filePath <+: locate other.filePath

/-! ### What the pattern finds -/

/-! ### What a deletion loses -/

theorem DeleteRequest.removePath_lost {path : String}
    (lost : Tree.Lost disk (request.removePath locate path disk).2 place) :
    locate path <+: place := by
  unfold removePath at lost
  split at lost
  · exact absurd lost (Tree.not_lost_self _ _)
  · split at lost
    · exact Tree.without_lost lost
    · exact Tree.without_lost lost

/-- A removal never makes an entry appear. -/
theorem DeleteRequest.removePath_absent {path : String}
    (absent : disk place = none) : (request.removePath locate path disk).2 place = none := by
  unfold removePath
  split
  · exact absent
  · split
    · exact Tree.without_eq_none absent (locate path) fun _ => false
    · exact Tree.without_eq_none absent (locate path) _

/-- The managed files that are removed lose only their own places. -/
theorem DeleteRequest.removeManaged_lost {files : List LibraryFile}
    (lost : Tree.Lost disk (request.removeManaged locate files disk).2 place) :
    ∃ file ∈ files, disk (locate file.filePath) ≠ none ∧ locate file.filePath <+: place := by
  induction files generalizing disk with
  | nil => exact absurd lost (Tree.not_lost_self _ _)
  | cons file rest ih =>
    unfold removeManaged at lost
    split at lost
    · obtain ⟨other, member, present, above⟩ := ih lost
      exact ⟨other, mem_cons_of_mem _ member, present, above⟩
    · rename_i present
      have first : ∀ {place}, Tree.Lost disk (request.removePath locate file.filePath disk).2
          place → locate file.filePath <+: place := removePath_lost
      have absent : ∀ {place}, disk place = none →
          (request.removePath locate file.filePath disk).2 place = none := removePath_absent
      generalize request.removePath locate file.filePath disk = removal at lost first absent
      obtain ⟨result, between⟩ := removal
      cases result with
      | error error => exact ⟨file, mem_cons_self, present, first lost⟩
      | ok trashPath =>
        have split : Tree.Lost disk between place ∨
            Tree.Lost between (request.removeManaged locate rest between).2 place := by
          refine Tree.Lost.split ⟨lost.1, ?_⟩ between
          have gone := lost.2
          simp only at gone
          split at gone <;> simp_all
        rcases split with head | tail
        · exact ⟨file, mem_cons_self, present, first head⟩
        · obtain ⟨other, member, found, above⟩ := ih tail
          refine ⟨other, mem_cons_of_mem _ member, ?_, above⟩
          intro missing
          exact found (absent missing)

/-! ### A disk that does what it is asked -/

/-- Every removal is done. -/
def DeleteRequest.Smooth (request : DeleteRequest) : Prop :=
  ∀ path, ∃ trashPath, request.removal path = .done trashPath

theorem DeleteRequest.removePath_smooth (smooth : request.Smooth) {path : String}
    (present : disk (locate path) ≠ none) :
    ∃ trashPath, request.removePath locate path disk =
      (.ok trashPath, disk.without (locate path) fun _ => false) := by
  obtain ⟨trashPath, answer⟩ := smooth path
  unfold removePath
  rw [if_neg present, answer]
  exact ⟨_, rfl⟩

/-- Once every removal is done, nothing is left at or beneath a managed file. -/
theorem DeleteRequest.removeManaged_smooth (smooth : request.Smooth)
    (files : List LibraryFile) (disk : Disk) :
    (∃ viaTrash, (request.removeManaged locate files disk).1 = .ok viaTrash) ∧
      (∀ place, disk place = none → (request.removeManaged locate files disk).2 place = none) ∧
      ∀ file ∈ files, disk (locate file.filePath) ≠ none → ∀ place,
        locate file.filePath <+: place →
          (request.removeManaged locate files disk).2 place = none := by
  induction files generalizing disk with
  | nil => exact ⟨⟨false, rfl⟩, fun _ absent => absent, nofun⟩
  | cons file rest ih =>
    by_cases missing : disk (locate file.filePath) = none
    · obtain ⟨result, absent, beneath⟩ := ih disk
      rw [removeManaged, if_pos missing]
      refine ⟨result, absent, ?_⟩
      intro other member present
      rcases mem_cons.1 member with rfl | member
      · exact absurd missing present
      · exact beneath other member present
    · obtain ⟨trashPath, removed⟩ := removePath_smooth smooth missing
      obtain ⟨⟨viaTrash, result⟩, absent, beneath⟩ :=
        ih (disk.without (locate file.filePath) fun _ => false)
      have final : request.removeManaged locate (file :: rest) disk =
          (.ok request.trash, (request.removeManaged locate rest
            (disk.without (locate file.filePath) fun _ => false)).2) := by
        rw [removeManaged, if_neg missing, removed]
        simp only
        generalize request.removeManaged locate rest
          (disk.without (locate file.filePath) fun _ => false) = removal at result
        obtain ⟨answer, between⟩ := removal
        cases result
        rfl
      rw [final]
      refine ⟨⟨_, rfl⟩, fun place gone => absent place (Tree.without_eq_none gone _ _), ?_⟩
      intro other member present place above
      rcases mem_cons.1 member with rfl | member
      · exact absent place (Tree.without_beneath disk above)
      · cases found : disk.without (locate file.filePath) (fun _ => false)
            (locate other.filePath) with
        | none =>
          -- the file went with an entry above it
          have swept : locate file.filePath <+: locate other.filePath :=
            Tree.without_lost ⟨present, found⟩
          exact absent place (Tree.without_beneath disk (swept.trans above))
        | some entry => exact beneath other member (by simp [found]) place above

/-! ### The rows of a finished deletion -/

theorem DeleteRequest.mem_trackedFiles :
    file ∈ request.trackedFiles catalog ↔
      file ∈ catalog.files ∧ selects request.target request.kind file.filePath = true :=
  mem_filter

theorem DeleteRequest.mem_managedFiles :
    file ∈ request.managedFiles catalog ↔
      file ∈ request.trackedFiles catalog ∧ file.storageMode = .managed := by
  simp [managedFiles]

theorem DeleteRequest.mem_referencedFiles :
    file ∈ request.referencedFiles catalog ↔
      file ∈ request.trackedFiles catalog ∧ file.storageMode = .referenced := by
  simp [referencedFiles]

theorem DeleteRequest.mem_forget_files :
    file ∈ (request.forget catalog).files ↔
      file ∈ catalog.files ∧ file ∉ request.trackedFiles catalog := by
  simp [forget]

theorem Catalog.statusAfterLibraryFileRemoved_ne_owned (catalog : Catalog) (issue : Issue) :
    catalog.statusAfterLibraryFileRemoved issue ≠ .owned := by
  unfold statusAfterLibraryFileRemoved
  split_ifs <;> simp

/-- An issue is owned afterwards when it was and lost no file. -/
theorem DeleteRequest.forget_owned {id : Nat} : (request.forget catalog).Owned id ↔
    catalog.Owned id ∧ ∀ file ∈ request.trackedFiles catalog, file.issueId ≠ some id := by
  constructor
  · rintro ⟨issue, found, owned⟩
    obtain ⟨before, present, rfl⟩ := Option.map_eq_some_iff.1 found
    split_ifs at owned with touched
    · exact absurd owned (catalog.statusAfterLibraryFileRemoved_ne_owned before)
    · refine ⟨⟨before, present, owned⟩, ?_⟩
      intro file member named
      exact touched (any_eq_true.2 ⟨file, member, by simp [named]⟩)
  · rintro ⟨⟨issue, present, owned⟩, untouched⟩
    refine ⟨issue, ?_, owned⟩
    simp only [forget, present, Option.map_some]
    rw [if_neg]
    intro touched
    obtain ⟨file, member, named⟩ := any_eq_true.1 touched
    exact untouched file member (by simpa using named)

/-! ### The whole deletion -/

/-- A deletion that ends forgets its rows; one that fails leaves them. -/
theorem deleteLibraryEntry_rows (notRoot : request.kind ≠ .root) :
    (∃ outcome, (deleteLibraryEntry request locate store).1 = .ok outcome ∧
      (deleteLibraryEntry request locate store).2.catalog = request.forget store.catalog) ∨
    ∃ error, (deleteLibraryEntry request locate store).1 = .error error ∧
      (deleteLibraryEntry request locate store).2.catalog = store.catalog := by
  unfold deleteLibraryEntry
  rw [if_neg notRoot]
  split
  · split
    · exact .inr ⟨_, rfl, rfl⟩
    · exact .inl ⟨_, rfl, rfl⟩
  · split
    · exact .inr ⟨_, rfl, rfl⟩
    · exact .inl ⟨_, rfl, rfl⟩

/-- The disk of a deletion: the target is removed, or its managed files one by one. -/
theorem deleteLibraryEntry_disk (notRoot : request.kind ≠ .root) :
    (deleteLibraryEntry request locate store).2.disk =
      if request.referencedFiles store.catalog = [] then
        (request.removePath locate request.target store.disk).2
      else
        (request.removeManaged locate (request.managedFiles store.catalog) store.disk).2 := by
  unfold deleteLibraryEntry
  rw [if_neg notRoot]
  simp only [List.isEmpty_iff]
  split
  · split <;> simp_all
  · split <;> simp_all

/-- What a deletion loses is beneath its target, or beneath a managed file it removes. -/
theorem deleteLibraryEntry_lost (notRoot : request.kind ≠ .root)
    (lost : Tree.Lost store.disk (deleteLibraryEntry request locate store).2.disk place) :
    request.referencedFiles store.catalog = [] ∧ locate request.target <+: place ∨
    request.referencedFiles store.catalog ≠ [] ∧
      ∃ managed ∈ request.managedFiles store.catalog,
        store.disk (locate managed.filePath) ≠ none ∧ locate managed.filePath <+: place := by
  rw [deleteLibraryEntry_disk notRoot] at lost
  split at lost
  · rename_i whole
    exact .inl ⟨whole, DeleteRequest.removePath_lost lost⟩
  · rename_i mixed
    exact .inr ⟨mixed, DeleteRequest.removeManaged_lost lost⟩

/-- On a disk that does what it is asked, the deletion of an existing target ends. -/
theorem deleteLibraryEntry_smooth (notRoot : request.kind ≠ .root) (smooth : request.Smooth)
    (present : store.disk (locate request.target) ≠ none) :
    ∃ outcome, (deleteLibraryEntry request locate store).1 = .ok outcome := by
  unfold deleteLibraryEntry
  rw [if_neg notRoot]
  split
  · obtain ⟨trashPath, removed⟩ := DeleteRequest.removePath_smooth smooth present
    rw [removed]
    exact ⟨_, rfl⟩
  · have finished : ∃ viaTrash, (request.removeManaged locate
        (request.managedFiles store.catalog) store.disk).1 = .ok viaTrash :=
      (DeleteRequest.removeManaged_smooth smooth _ _).1
    obtain ⟨viaTrash, removed⟩ := finished
    split
    · simp_all
    · exact ⟨_, rfl⟩

/-- A selective deletion is confined, whatever the disk answers. -/
theorem Selective.confined (selective : Selective locate request store)
    (notRoot : request.kind ≠ .root) :
    Confined locate request.target store (deleteLibraryEntry request locate store) := by
  have tracked : ∀ file ∈ store.catalog.files, file ∈ request.trackedFiles store.catalog ↔
      Beneath locate request.target file.filePath := by
    intro file member
    rw [DeleteRequest.mem_trackedFiles, and_iff_right member]
    exact selective.files file member
  have ended : ∀ {outcome}, (deleteLibraryEntry request locate store).1 = .ok outcome →
      (deleteLibraryEntry request locate store).2.catalog = request.forget store.catalog := by
    intro outcome ok
    rcases deleteLibraryEntry_rows notRoot with ⟨_, _, rows⟩ | ⟨_, failed, _⟩
    · exact rows
    · exact absurd (ok.symm.trans failed) nofun
  constructor
  case disk =>
    intro place lost
    rcases deleteLibraryEntry_lost notRoot lost with ⟨_, above⟩ | ⟨_, managed, member, _, above⟩
    · exact above
    · have inside := (DeleteRequest.mem_managedFiles.1 member).1
      have listed := (DeleteRequest.mem_trackedFiles.1 inside).1
      exact ((tracked managed listed).1 inside).trans above
  case referenced =>
    intro file member mode lost
    rcases deleteLibraryEntry_lost notRoot lost with
      ⟨whole, above⟩ | ⟨mixed, managed, removed, present, above⟩
    · have found := DeleteRequest.mem_referencedFiles.2 ⟨(tracked file member).2 above, mode⟩
      simp [whole] at found
    · exact selective.apart mixed managed removed present file member mode lost.1 above
  case files =>
    intro outcome ok file
    rw [ended ok, DeleteRequest.mem_forget_files]
    constructor
    · rintro ⟨member, untracked⟩
      exact ⟨member, fun beneath => untracked ((tracked file member).2 beneath)⟩
    · rintro ⟨member, outside⟩
      exact ⟨member, fun inside => outside ((tracked file member).1 inside)⟩
  case series =>
    intro outcome ok id
    rw [ended ok]
    cases found : store.catalog.series id with
    | none => simp [DeleteRequest.forget, found]
    | some series =>
      cases named : series.path with
      | none => simp [DeleteRequest.forget, found, named]
      | some path =>
        have same := selective.series id series path found named
        simp [DeleteRequest.forget, found, named, same]
  case owned =>
    intro id owned remains
    rcases @deleteLibraryEntry_rows locate request store notRoot with
      ⟨_, _, rows⟩ | ⟨_, _, rows⟩
    · rw [rows] at remains ⊢
      obtain ⟨other, member, named⟩ := remains
      obtain ⟨listed, untracked⟩ := DeleteRequest.mem_forget_files.1 member
      refine DeleteRequest.forget_owned.2 ⟨owned, fun file inside shared => ?_⟩
      exact untracked (selective.issues id owned file inside shared other listed named)
    · rwa [rows]
  case failed =>
    intro error failed
    rcases @deleteLibraryEntry_rows locate request store notRoot with
      ⟨_, ok, _⟩ | ⟨_, _, rows⟩
    · exact absurd (ok.symm.trans failed) nofun
    · exact rows

/-- A deletion that ends and stays confined was selective. -/
theorem Confined.selective
    (confined : Confined locate request.target store (deleteLibraryEntry request locate store))
    (notRoot : request.kind ≠ .root) (smooth : request.Smooth)
    (present : store.disk (locate request.target) ≠ none) :
    Selective locate request store := by
  obtain ⟨outcome, ok⟩ := deleteLibraryEntry_smooth notRoot smooth present
  have rows : (deleteLibraryEntry request locate store).2.catalog =
      request.forget store.catalog := by
    rcases @deleteLibraryEntry_rows locate request store notRoot with ⟨_, _, rows⟩ | ⟨_, failed, _⟩
    · exact rows
    · exact absurd (ok.symm.trans failed) nofun
  constructor
  case files =>
    intro file member
    have kept := confined.files outcome ok file
    rw [rows, DeleteRequest.mem_forget_files, DeleteRequest.mem_trackedFiles] at kept
    by_cases beneath : Beneath locate request.target file.filePath <;> simp_all
  case series =>
    intro id series path found named
    have cleared := confined.series outcome ok id
    rw [rows] at cleared
    simp only [DeleteRequest.forget, found, named, Option.map_some, Option.any_some,
      decide_eq_true_eq, Option.some.injEq] at cleared
    have renamed : ({ series with path := none } : Series) ≠ series := by
      intro same
      rw [← same] at named
      cases named
    split_ifs at cleared with inside beneath beneath
    · exact iff_of_true inside beneath
    · exact absurd cleared renamed
    · exact absurd cleared.symm renamed
    · exact iff_of_false inside beneath
  case issues =>
    intro id owned file inside named other listed shared
    by_contra untracked
    have remains : other ∈ (request.forget store.catalog).files :=
      DeleteRequest.mem_forget_files.2 ⟨listed, untracked⟩
    have still := confined.owned id owned (by rw [rows]; exact ⟨other, remains, shared⟩)
    rw [rows] at still
    exact (DeleteRequest.forget_owned.1 still).2 file inside named
  case apart =>
    intro mixed managed removed exists_managed other listed mode exists_other above
    refine confined.referenced other listed mode ⟨exists_other, ?_⟩
    rw [deleteLibraryEntry_disk notRoot, if_neg mixed]
    obtain ⟨_, _, beneath⟩ := DeleteRequest.removeManaged_smooth smooth
      (request.managedFiles store.catalog) store.disk
    exact beneath managed removed exists_managed _ above

/-- A deletion stays confined to an existing target, however the disk answers, if and only
if it is selective. -/
theorem deleteLibraryEntry_confined_iff (locate : Locate) (request : DeleteRequest)
    (store : LibraryStore) (notRoot : request.kind ≠ .root)
    (present : store.disk (locate request.target) ≠ none) :
    (∀ removal, Confined locate request.target store
      (deleteLibraryEntry { request with removal := removal } locate store)) ↔
        Selective locate request store := by
  constructor
  · intro confined
    have smooth : DeleteRequest.Smooth { request with removal := fun path => .done path } :=
      fun path => ⟨path, rfl⟩
    have selective : Selective locate { request with removal := fun path => .done path } store :=
      Confined.selective (confined _) notRoot smooth present
    exact ⟨selective.files, selective.series, selective.issues, selective.apart⟩
  · rintro ⟨files, series, issues, apart⟩ removal
    have selective : Selective locate { request with removal := removal } store :=
      ⟨files, series, issues, apart⟩
    exact selective.confined notRoot

/-! ### Two folders -/

/-- The place of an absolute path where no directory is a link. -/
def resolvePath (path : String) : List Name :=
  (path.toList.splitOn '/').foldl (fun place name =>
    if name = [] ∨ name = ['.'] then place
    else if name = ['.', '.'] then place.dropLast
    else place ++ [name]) []

/-- A disk of the given entries. -/
def diskOf (entries : List (String × EntryKind)) : Disk := fun place =>
  (entries.find? fun entry => resolvePath entry.1 == place).map (·.2)

/-- A managed file of issue 1 in one folder and a referenced file in another. -/
def twoFolders : LibraryStore where
  catalog :=
    { files :=
        [⟨1, "/comics/SagaX/Saga 1.cbz", .managed, some 1⟩,
          ⟨2, "/comics/Saga_/Saga 2.cbz", .referenced, some 2⟩]
      issues := fun id => if id = 1 ∨ id = 2 then some ⟨7, false, .owned⟩ else none
      series := fun id => if id = 7 then some ⟨some "/comics/SagaX", true⟩ else none }
  disk := diskOf
    [("/comics/SagaX", .directory), ("/comics/SagaX/Saga 1.cbz", .file),
      ("/comics/Saga_", .directory), ("/comics/Saga_/Saga 2.cbz", .file)]

/-- The deletion of a folder of `twoFolders`, without a trash. -/
def deleteFolder (target : String) : DeleteRequest where
  target := target
  kind := .folder
  trash := false
  removal path := .done path

theorem deleteFolder_selective :
    Selective resolvePath (deleteFolder "/comics/SagaX") twoFolders := by
  constructor
  · decide
  · intro id series path found named
    simp only [twoFolders, Option.ite_none_right_eq_some, Option.some.injEq] at found
    obtain ⟨rfl, rfl⟩ := found
    cases named
    decide
  · intro id _ file inside named other listed shared
    simp only [twoFolders, mem_cons, not_mem_nil, or_false] at listed
    rcases listed with rfl | rfl
    · decide
    · cases shared
      revert file
      decide
  · intro mixed
    exact absurd (by decide) mixed

/-- The deletion of the folder without a wildcard in its name is confined. -/
theorem deleteLibraryEntry_confined_SagaX :
    Selective resolvePath (deleteFolder "/comics/SagaX") twoFolders ∧
      ∀ removal, Confined resolvePath "/comics/SagaX" twoFolders
        (deleteLibraryEntry { deleteFolder "/comics/SagaX" with removal := removal }
          resolvePath twoFolders) :=
  ⟨deleteFolder_selective,
    (deleteLibraryEntry_confined_iff resolvePath (deleteFolder "/comics/SagaX") twoFolders
      (by decide) (by decide)).2 deleteFolder_selective⟩

/-- Deleting the folder whose name has a wildcard deletes the file of the other one. -/
theorem deleteLibraryEntry_unconfined : ¬ Confined resolvePath "/comics/Saga_" twoFolders
    (deleteLibraryEntry (deleteFolder "/comics/Saga_") resolvePath twoFolders) := by
  intro confined
  have lost : Tree.Lost twoFolders.disk
      (deleteLibraryEntry (deleteFolder "/comics/Saga_") resolvePath twoFolders).2.disk
      (resolvePath "/comics/SagaX/Saga 1.cbz") := by
    constructor
    · decide
    · decide
  exact absurd (confined.disk _ lost) (by decide)

end Pullbox.Library
