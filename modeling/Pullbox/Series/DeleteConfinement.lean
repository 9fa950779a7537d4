import Pullbox.Series.Delete

/-!
# What a series deletion may break

A deletion stays with its series when no library root, no referenced file and no file of
another series loses its path. It does when none of its folders and none of its own files
stands on such a path.
-/

namespace Pullbox.Series

open Files List

variable {request : DeleteRequest} {store : Store} {series : SeriesRow} {host : Host}
  {catalog : Catalog} {seriesId : Nat} {start disk : Disk} {path : Path} {place : Place}
  {folders : List Path}

/-- The paths that the deletion of a series must not break. -/
inductive Protected (host : Host) (catalog : Catalog) (seriesId : Nat) : Path → Prop
  | root {root : LibraryRoot} (listed : root ∈ catalog.roots) :
      Protected host catalog seriesId (host.expanded root.path)
  | referenced {file : LibraryFile} (listed : file ∈ catalog.files)
      (mode : file.storageMode = .referenced) :
      Protected host catalog seriesId (host.path file.filePath)
  | other {file : LibraryFile} {issue owner : Nat} (listed : file ∈ catalog.files)
      (registered : file.issueId = some issue) (owned : catalog.issues issue = some owner)
      (different : owner ≠ seriesId) :
      Protected host catalog seriesId (host.path file.filePath)

/-- A path that led somewhere and no longer does: its entry or one on the way to it is gone. -/
def Broken (before after : Disk) (path : Path) : Prop :=
  before.find path ≠ none ∧ after.find path = none

/-- Nothing protected is broken. -/
def Confined (host : Host) (catalog : Catalog) (seriesId : Nat) (before after : Disk) : Prop :=
  ∀ path, Protected host catalog seriesId path → ¬ Broken before after path

/-- Taking away a place, with everything beneath it, breaks nothing protected. -/
def Harmless (host : Host) (catalog : Catalog) (seriesId : Nat) (disk : Disk) (place : Place) :
    Prop :=
  Confined host catalog seriesId disk (disk.without place fun _ => false)

/-- The folders of a series and its files are where nothing else is. -/
structure Placed (request : DeleteRequest) (store : Store) (series : SeriesRow) : Prop where
  /-- A folder without a registered referenced file is no library root, nor above one, and
  stands on the path of no protected file. -/
  folders : ∀ folder ∈ request.folderPaths store series,
    store.catalog.referencedLibraryFilesForTarget store.disk folder = [] →
      ∀ place, store.disk.entry folder = some place →
        Harmless request.host store.catalog request.seriesId store.disk place
  /-- A managed file stands on the path of no protected one. -/
  files : ∀ file ∈ store.catalog.linkedFiles request.seriesId, file.storageMode = .managed →
    store.disk.isFile (request.host.path file.filePath) = true →
      ∀ place, store.disk.entry (request.host.path file.filePath) = some place →
        Harmless request.host store.catalog request.seriesId store.disk place

/-- The request to delete a series with its folders. -/
def DeleteRequest.withFolder (request : DeleteRequest) (trash : Bool)
    (removal : Path → RemovalAnswer) : DeleteRequest :=
  { request with deleteFolder := true, trash := trash, removal := removal }

/-! ### Removals -/

theorem RemovalAnswer.leaves_within (answer : RemovalAnswer) (disk : Disk) (place : Place) :
    Tree.Within (answer.leaves disk place) disk := by
  cases answer <;> exact Tree.without_within _ _ _

theorem DeleteRequest.takes_entry (taken : request.takes disk path = some place) :
    disk.entry path = some place := by
  unfold takes at taken
  split_ifs at taken
  exact taken

/-- A disk of a deletion that has broken nothing so far. -/
structure Spares (host : Host) (catalog : Catalog) (seriesId : Nat) (start disk : Disk) :
    Prop where
  within : Tree.Within disk start
  confined : Confined host catalog seriesId start disk

theorem Spares.refl (start : Disk) : Spares host catalog seriesId start start where
  within := .refl start
  confined _ _ broken := broken.1 broken.2

/-- A harmless removal breaks nothing, whatever the disk answers. -/
theorem Spares.leaves (spares : Spares host catalog seriesId start disk)
    (harmless : Harmless host catalog seriesId start place) (answer : RemovalAnswer) :
    Spares host catalog seriesId start (answer.leaves disk place) where
  within := (answer.leaves_within disk place).trans spares.within
  confined := by
    intro path protectedPath broken
    have present : disk.find path ≠ none := fun absent =>
      spares.confined path protectedPath ⟨broken.1, absent⟩
    have spared : (start.without place fun _ => false).find path ≠ none := fun absent =>
      harmless path protectedPath ⟨broken.1, absent⟩
    cases answer with
    | done => exact Tree.find_without spares.within _ present spared broken.2
    | denied kept => exact Tree.find_without spares.within kept present spared broken.2
    | failed conflict kept => exact Tree.find_without spares.within kept present spared broken.2

/-- What every removal keeps, the removal of the folders keeps. -/
theorem DeleteRequest.removeFolders_rule {motive : Disk → Prop}
    (kept : ∀ folder ∈ folders, catalog.referencedLibraryFilesForTarget start folder = [] →
      ∀ disk place, motive disk → disk.entry folder = some place →
        motive ((request.removal folder).leaves disk place))
    (initial : motive disk) :
    motive (request.removeFolders catalog start folders disk).2 := by
  induction folders generalizing disk with
  | nil => exact initial
  | cons folder rest ih =>
    have later : ∀ {disk}, motive disk →
        motive (request.removeFolders catalog start rest disk).2 :=
      ih fun other member => kept other (mem_cons_of_mem _ member)
    unfold removeFolders
    split_ifs with referenced
    · exact later initial
    · have removed : motive (request.removeFolder folder disk).2 := by
        unfold removeFolder
        cases taken : request.takes disk folder with
        | none => exact initial
        | some place =>
          exact kept folder mem_cons_self (not_not.1 referenced) disk place initial
            (takes_entry taken)
      split
      · rename_i answered
        rwa [answered] at removed
      · rename_i answered
        rw [answered] at removed
        exact later removed

/-- What every removal keeps, the removal of the files keeps. -/
theorem DeleteRequest.removeFiles_rule {motive : Disk → Prop} {skipped : Path → Bool}
    {files : List LibraryFile}
    (kept : ∀ file ∈ files, file.storageMode = .managed → ∀ disk place, motive disk →
      disk.isFile (request.host.path file.filePath) = true →
        disk.entry (request.host.path file.filePath) = some place →
          motive ((request.removal (request.host.path file.filePath)).leaves disk place))
    (initial : motive disk) : motive (request.removeFiles skipped files disk) := by
  induction files generalizing disk with
  | nil => exact initial
  | cons file rest ih =>
    have later : ∀ {disk}, motive disk → motive (request.removeFiles skipped rest disk) :=
      ih fun other member => kept other (mem_cons_of_mem _ member)
    simp only [removeFiles]
    split_ifs with passed
    · exact later initial
    · simp only [not_or, Bool.not_eq_true, Bool.not_eq_false] at passed
      obtain ⟨managed, _, here⟩ := passed
      split
      · exact later initial
      · rename_i place there
        refine later (kept file mem_cons_self ?_ disk place initial here there)
        cases mode : file.storageMode with
        | managed => rfl
        | referenced => exact absurd mode managed

/-! ### Deletions that break nothing -/

/-- The linked files that go to the trash with their folder. -/
def DeleteRequest.skipped (request : DeleteRequest) (store : Store) (series : SeriesRow) :
    Path → Bool :=
  insideMoved store.disk (request.folderPaths store series)
    (request.movedFolderKeys store.catalog store.disk (request.folderPaths store series))

theorem DeleteRequest.skipped_permanent (permanent : request.trash = false) :
    request.skipped store series = fun _ => false := by
  funext path
  simp [skipped, movedFolderKeys, permanent, insideMoved]

/-- The disk of a deletion with its folders: the folders, then the files if no error came. -/
theorem delete_disk (request : DeleteRequest)
    (found : store.catalog.series request.seriesId = some series)
    (folder : request.deleteFolder = true) {error : Option DeleteError}
    (removed : request.removeFolders store.catalog store.disk
      (request.folderPaths store series) store.disk = (error, disk)) :
    (delete request store).2.disk =
      if error = none then
        request.removeFiles (request.skipped store series)
          (store.catalog.linkedFiles request.seriesId) disk
      else
        disk := by
  unfold delete
  rw [found]
  simp only [folder, removed, Bool.or_true, if_true]
  cases error with
  | none => rfl
  | some error => rfl

/-- The deletion of a series that is placed apart breaks nothing, whatever the disk
answers. -/
theorem Placed.confined (placed : Placed request store series)
    (found : store.catalog.series request.seriesId = some series) (trash : Bool)
    (removal : Path → RemovalAnswer) :
    Confined request.host store.catalog request.seriesId store.disk
      (delete (request.withFolder trash removal) store).2.disk := by
  have folders : Spares request.host store.catalog request.seriesId store.disk
      ((request.withFolder trash removal).removeFolders store.catalog store.disk
        (request.folderPaths store series) store.disk).2 := by
    refine DeleteRequest.removeFolders_rule ?_ (Spares.refl store.disk)
    intro folder member unreferenced disk place spares there
    exact spares.leaves (placed.folders folder member unreferenced place
      (Tree.entry_mono spares.within there)) _
  have disk : _ = ite _ _ _ :=
    delete_disk (request.withFolder trash removal) found rfl rfl
  rw [disk]
  split_ifs
  · refine (DeleteRequest.removeFiles_rule (motive := Spares request.host store.catalog
      request.seriesId store.disk) ?_ folders).confined
    intro file member managed disk place spares here there
    exact spares.leaves (placed.files file member managed (Tree.isFile_mono spares.within here)
      place (Tree.entry_mono spares.within there)) _
  · exact folders.confined

/-! ### Deletions that break something -/

/-- A disk that removes what is at one path and refuses the rest. -/
def only (path other : Path) : RemovalAnswer :=
  if other = path then .done else .denied fun _ => true

theorem DeleteRequest.removeFolders_within (folders : List Path) (disk : Disk) :
    Tree.Within (request.removeFolders catalog start folders disk).2 disk := by
  refine removeFolders_rule (motive := fun left => Tree.Within left disk) ?_
    (Tree.Within.refl disk)
  intro _ _ _ before place within _
  exact (RemovalAnswer.leaves_within _ before place).trans within

theorem DeleteRequest.removeFiles_within (skipped : Path → Bool) (files : List LibraryFile)
    (disk : Disk) : Tree.Within (request.removeFiles skipped files disk) disk := by
  refine removeFiles_rule (motive := fun left => Tree.Within left disk) ?_ (Tree.Within.refl disk)
  intro _ _ _ before place within _ _
  exact (RemovalAnswer.leaves_within _ before place).trans within

/-- Directories that the disk refuses to remove stay, and the deletion goes on. -/
theorem DeleteRequest.removeFolder_denied
    (plain : disk.isLink path = false) {target : Path} (different : path ≠ target) :
    (request.withFolder false (only target)).removeFolder path disk = (none, disk) := by
  unfold removeFolder
  cases taken : (request.withFolder false (only target)).takes disk path with
  | none => rfl
  | some place =>
    simp [withFolder, only, different, RemovalAnswer.stops, RemovalAnswer.leaves, plain,
      Tree.without_all_kept]

/-- A directory that the disk removes is gone. -/
theorem DeleteRequest.removeFolder_done (directory : disk.isDirectory path = true)
    (there : disk.entry path = some place) :
    (request.withFolder false (only path)).removeFolder path disk =
      (none, disk.without place fun _ => false) := by
  have taken : (request.withFolder false (only path)).takes disk path = some place := by
    simp [takes, withFolder, directory, there]
  unfold removeFolder
  rw [taken]
  simp [withFolder, only, RemovalAnswer.stops, RemovalAnswer.leaves]

/-- Where all folders are directories, one of them can go alone. -/
theorem DeleteRequest.removeFolders_only (request : DeleteRequest)
    {folder : Path}
    (directories : ∀ folder ∈ folders, start.isDirectory folder = true ∧
      start.isLink folder = false)
    (member : folder ∈ folders)
    (unreferenced : catalog.referencedLibraryFilesForTarget start folder = [])
    (there : start.entry folder = some place) :
    Tree.Within ((request.withFolder false (only folder)).removeFolders catalog start folders
      start).2 (start.without place fun _ => false) := by
  induction folders with
  | nil => cases member
  | cons head rest ih =>
    obtain ⟨directory, plain⟩ := directories head mem_cons_self
    by_cases same : head = folder
    · subst same
      unfold removeFolders
      rw [if_neg (not_not.2 unreferenced), removeFolder_done directory there]
      exact removeFolders_within rest _
    · have later := ih (fun other inside => directories other (mem_cons_of_mem _ inside))
        ((mem_cons.1 member).resolve_left (Ne.symm same))
      unfold removeFolders
      split_ifs
      · exact later
      · rw [removeFolder_denied plain same]
        exact later

/-- Where all folders are directories, they can all stay. -/
theorem DeleteRequest.removeFolders_none (request : DeleteRequest) (catalog : Catalog)
    {target : Path}
    (directories : ∀ folder ∈ folders, start.isDirectory folder = true ∧
      start.isLink folder = false)
    (apart : target ∉ folders) :
    (request.withFolder false (only target)).removeFolders catalog start folders start =
      (none, start) := by
  induction folders with
  | nil => rfl
  | cons head rest ih =>
    obtain ⟨different, others⟩ := not_or.1 (mt mem_cons.2 apart)
    have plain := (directories head mem_cons_self).2
    have later := ih (fun other inside => directories other (mem_cons_of_mem _ inside))
      others
    unfold removeFolders
    split_ifs
    · exact later
    · rw [removeFolder_denied plain (Ne.symm different)]
      exact later

/-- One managed file can go alone. -/
theorem DeleteRequest.removeFiles_only {files : List LibraryFile} {file : LibraryFile}
    (member : file ∈ files) (managed : file.storageMode = .managed)
    (here : start.isFile (request.host.path file.filePath) = true)
    (there : start.entry (request.host.path file.filePath) = some place) :
    Tree.Within ((request.withFolder false (only (request.host.path file.filePath))).removeFiles
      (fun _ => false) files start) (start.without place fun _ => false) := by
  induction files with
  | nil => cases member
  | cons head rest ih =>
    have host : (request.withFolder false (only (request.host.path file.filePath))).host =
      request.host := rfl
    simp only [removeFiles, host, Bool.false_eq_true, false_or]
    split_ifs with passed
    · refine ih ((mem_cons.1 member).resolve_left ?_)
      rintro rfl
      simp [managed, here] at passed
    · by_cases same : request.host.path head.filePath = request.host.path file.filePath
      · rw [same, there]
        simpa [withFolder, only, RemovalAnswer.leaves] using removeFiles_within _ rest _
      · have inside : file ∈ rest := by
          refine (mem_cons.1 member).resolve_left ?_
          rintro rfl
          exact same rfl
        split
        · exact ih inside
        · simpa [withFolder, only, same, RemovalAnswer.leaves, Tree.without_all_kept] using
            ih inside

/-- What is gone with a place breaks what the place broke. -/
theorem Confined.harmless {after : Disk}
    (confined : Confined host catalog seriesId start after)
    (gone : Tree.Within after (start.without place fun _ => false)) :
    Harmless host catalog seriesId start place := by
  rintro path protectedPath ⟨present, absent⟩
  exact confined path protectedPath ⟨present, Tree.find_eq_none gone absent⟩

/-- A deletion of a series whose folders are directories breaks something, unless the series
is placed apart. -/
theorem Placed.of_confined (found : store.catalog.series request.seriesId = some series)
    (directories : ∀ folder ∈ request.folderPaths store series,
      store.disk.isDirectory folder = true ∧ store.disk.isLink folder = false)
    (confined : ∀ trash removal, Confined request.host store.catalog request.seriesId store.disk
      (delete (request.withFolder trash removal) store).2.disk) :
    Placed request store series := by
  constructor
  case folders =>
    intro folder member unreferenced place there
    have gone := request.removeFolders_only directories member
      unreferenced there
    refine (confined false (only folder)).harmless ?_
    rw [delete_disk (request.withFolder false (only folder)) found rfl rfl]
    split_ifs
    · exact (DeleteRequest.removeFiles_within _ _ _).trans gone
    · exact gone
  case files =>
    intro file member managed here place there
    have apart : request.host.path file.filePath ∉ request.folderPaths store series := by
      intro listed
      have both := (directories _ listed).1
      simp [Tree.isDirectory_of_isFile here] at both
    have stayed := request.removeFolders_none store.catalog directories apart
    refine (confined false (only (request.host.path file.filePath))).harmless ?_
    rw [delete_disk (request.withFolder false
      (only (request.host.path file.filePath))) found rfl stayed, if_pos rfl,
      DeleteRequest.skipped_permanent rfl]
    exact DeleteRequest.removeFiles_only member managed here there

/-- A deletion of a series with its folders, to the trash or for good, breaks nothing
protected when the series is placed apart; and only then, where its folders are
directories. -/
theorem delete_confined (request : DeleteRequest) (store : Store) (series : SeriesRow)
    (found : store.catalog.series request.seriesId = some series) :
    (Placed request store series → ∀ trash removal,
      Confined request.host store.catalog request.seriesId store.disk
        (delete (request.withFolder trash removal) store).2.disk) ∧
    ((∀ folder ∈ request.folderPaths store series,
        store.disk.isDirectory folder = true ∧ store.disk.isLink folder = false) →
      (∀ trash removal, Confined request.host store.catalog request.seriesId store.disk
        (delete (request.withFolder trash removal) store).2.disk) →
      Placed request store series) :=
  ⟨fun placed trash removal => placed.confined found trash removal,
    fun directories confined => Placed.of_confined found directories confined⟩

/-! ### Two series in one library root -/

instance (before after : Disk) (path : Path) : Decidable (Broken before after path) :=
  inferInstanceAs (Decidable (_ ∧ _))

/-- A library root with a folder of one series and a file of another beside it. -/
def shelf : Disk := fun place =>
  ([("/comics", .directory), ("/comics/Saga", .directory), ("/comics/Saga/Saga 1.cbz", .file),
      ("/comics/Fables 1.cbz", .file)].find? fun entry =>
    steps (String.toList entry.1) == place.map Step.name).map (·.2)

/-- The rows of the shelf, with series 7 in its folder and series 8 in the root itself. -/
def shelved (recorded : Option String) : Store where
  catalog :=
    { roots := [⟨1, "/comics"⟩]
      series := fun id =>
        if id = 7 then some ⟨recorded, none, some 1⟩
        else if id = 8 then some ⟨none, none, some 1⟩
        else none
      issues := fun id => if id = 1 then some 7 else if id = 2 then some 8 else none
      files :=
        [⟨1, "/comics/Saga/Saga 1.cbz", .managed, some 1⟩,
          ⟨2, "/comics/Fables 1.cbz", .managed, some 2⟩] }
  disk := shelf

/-- The deletion of a series of the shelf whose folder the naming template does not find. -/
def deletion (seriesId : Nat) : DeleteRequest where
  seriesId := seriesId
  deleteFiles := false
  deleteFolder := true
  trash := false
  folderPathOverride := none
  host :=
    { path := fun text => steps text.toList
      expanded := fun text => steps text.toList
      folderName := some "Unknown".toList
      listing := ["Saga".toList, "Fables 1.cbz".toList] }
  removal _ := .done

/-- What the deletion of series 7 must not break. -/
theorem protected_shelved {recorded : Option String} {path : Path}
    (protectedPath : Protected (deletion 7).host (shelved recorded).catalog 7 path) :
    path ∈ [steps "/comics".toList, steps "/comics/Fables 1.cbz".toList] := by
  cases protectedPath with
  | root listed =>
    cases mem_singleton.1 listed
    exact mem_cons_self
  | referenced listed mode =>
    simp only [shelved, mem_cons, not_mem_nil, or_false] at listed
    rcases listed with rfl | rfl
    · cases mode
    · cases mode
  | other listed registered owned different =>
    simp only [shelved, mem_cons, not_mem_nil, or_false] at listed
    rcases listed with rfl | rfl
    · cases registered
      cases owned
      exact absurd rfl different
    · exact mem_cons_of_mem _ mem_cons_self

theorem shelved_placed :
    Placed (deletion 7) (shelved (some "/comics/Saga")) ⟨some "/comics/Saga", none, some 1⟩ := by
  constructor
  case folders =>
    intro folder member _ place there
    have only : (deletion 7).folderPaths (shelved (some "/comics/Saga"))
        ⟨some "/comics/Saga", none, some 1⟩ = [steps "/comics/Saga".toList] := by decide
    rw [only, mem_singleton] at member
    subst member
    have here : place = ["comics".toList, "Saga".toList] :=
      Option.some.inj (there.symm.trans (by decide))
    subst here
    intro path protectedPath
    have spared : ∀ path ∈ [steps "/comics".toList, steps "/comics/Fables 1.cbz".toList],
        ¬ Broken shelf (shelf.without ["comics".toList, "Saga".toList] fun _ => false) path := by
      decide +kernel
    exact spared path (protected_shelved protectedPath)
  case files =>
    intro file member _ _ place there
    have only : (shelved (some "/comics/Saga")).catalog.linkedFiles 7 =
        [⟨1, "/comics/Saga/Saga 1.cbz", .managed, some 1⟩] := by decide
    have owned : file ∈ (shelved (some "/comics/Saga")).catalog.linkedFiles 7 := member
    rw [only, mem_singleton] at owned
    subst owned
    have here : place = ["comics".toList, "Saga".toList, "Saga 1.cbz".toList] :=
      Option.some.inj (there.symm.trans (by decide))
    subst here
    intro path protectedPath
    have spared : ∀ path ∈ [steps "/comics".toList, steps "/comics/Fables 1.cbz".toList],
        ¬ Broken shelf (shelf.without ["comics".toList, "Saga".toList, "Saga 1.cbz".toList]
          fun _ => false) path := by
      decide +kernel
    exact spared path (protected_shelved protectedPath)

/-- The deletion of the series in its folder stays with it. -/
theorem delete_confined_shelved :
    Confined (deletion 7).host (shelved (some "/comics/Saga")).catalog 7 shelf
      (delete ((deletion 7).withFolder true fun _ => .done)
        (shelved (some "/comics/Saga"))).2.disk :=
  (delete_confined (deletion 7) (shelved (some "/comics/Saga"))
    ⟨some "/comics/Saga", none, some 1⟩ rfl).1 shelved_placed true fun _ => .done

/-- The deletion of the series in the library root takes the root with it, and the file of the
other series, to the trash or for good. -/
theorem delete_unconfined :
    ¬ Confined (deletion 8).host (shelved none).catalog 8 shelf
        (delete ((deletion 8).withFolder false fun _ => .done) (shelved none)).2.disk ∧
      ¬ Confined (deletion 8).host (shelved none).catalog 8 shelf
        (delete ((deletion 8).withFolder true fun _ => .done) (shelved none)).2.disk := by
  constructor
  · intro confined
    have root : Protected (deletion 8).host (shelved none).catalog 8
        ((deletion 8).host.expanded "/comics") :=
      @Protected.root _ _ _ ⟨1, "/comics"⟩ (by decide)
    have broken : Broken shelf
        (delete ((deletion 8).withFolder false fun _ => .done) (shelved none)).2.disk
        (steps "/comics".toList) := by decide +kernel
    exact confined _ root broken
  · intro confined
    have other : Protected (deletion 8).host (shelved none).catalog 8
        ((deletion 8).host.path "/comics/Saga/Saga 1.cbz") :=
      @Protected.other _ _ _ ⟨1, "/comics/Saga/Saga 1.cbz", .managed, some 1⟩ 1 7
        (by decide) (by decide) (by decide) (by decide)
    have broken : Broken shelf
        (delete ((deletion 8).withFolder true fun _ => .done) (shelved none)).2.disk
        (steps "/comics/Saga/Saga 1.cbz".toList) := by decide +kernel
    exact confined _ other broken

end Pullbox.Series
