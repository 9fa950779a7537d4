import Pullbox.Library.Rename

/-!
# Rows of renamed entries

The series and library files registered at or beneath a path, and how they are to be rewritten
when it changes. The rewriting of the source does so exactly when the rows that it selects besides
these would stay what they are.
-/

namespace Pullbox.Library.Rename

open List

def AtOrBeneath (start path : List Char) : Prop :=
  path = start ∨ start ++ ['/'] <+: path

instance (start path : List Char) : Decidable (AtOrBeneath start path) :=
  inferInstanceAs (Decidable (path = start ∨ start ++ ['/'] <+: path))

/-- A series row whose path is at or beneath the old one has its beginning replaced. -/
structure SeriesMoved (before after : List Char) (row next : SeriesRow) : Prop where
  beneath : ∀ path, row.path = some path → AtOrBeneath before path →
    next = { row with path := some (slice before after path) }
  apart : (∀ path, row.path = some path → ¬ AtOrBeneath before path) → next = row

/-- A library file whose path is at or beneath the old one has its beginning replaced; the row of
the renamed file itself may be measured anew. -/
structure FileMoved (before after : List Char) (stat : Option FileStat)
    (row next : LibraryFileRow) : Prop where
  id : next.id = row.id
  beneath : AtOrBeneath before row.filePath → next.filePath = slice before after row.filePath ∧
    next.fileName = Files.PurePath.finalName (slice before after row.filePath)
  measured : next.fileSize = row.fileSize ∧ next.fileModifiedAt = row.fileModifiedAt ∨
    row.filePath = before ∧
      stat = some { size := next.fileSize, modified := next.fileModifiedAt }
  apart : ¬ AtOrBeneath before row.filePath → next = row

variable {system : FileSystem} {name : FileName} {start before later path : List Char}
  {stat : Option FileStat} {registry synced : Registry} {row : LibraryFileRow}

theorem slice_self : slice before later before = later := by
  simp [slice]

theorem ne_nil_of_atOrBeneath (something : start ≠ []) (beneath : AtOrBeneath start path) :
    path ≠ [] := by
  rcases beneath with rfl | ⟨rest, rfl⟩
  · exact something
  · simp

/-- The pattern selects what is beneath. -/
theorem selects_of_atOrBeneath (beneath : AtOrBeneath start path) : selects start path = true := by
  unfold selects
  rw [Bool.or_eq_true]
  rcases beneath with rfl | ⟨rest, rfl⟩
  · exact .inl (beq_self_eq_true _)
  · right
    have pattern : start ++ ['/', '%'] = (start ++ ['/']) ++ ['%'] := by simp
    rw [pattern, Sql.like_append_percent]
    exact ⟨start ++ ['/'], rest, rfl, Sql.like_self _⟩

theorem rstripSlash_path : rstripSlash (system.path name) = system.path name := by
  obtain ⟨nonempty, plain⟩ := name.proper
  unfold rstripSlash FileSystem.path
  rw [rdropWhile_eq_self_iff]
  intro some
  have last : (system.parent ++ '/' :: name.text).getLast some = name.text.getLast nonempty := by
    rw [getLast_append_of_ne_nil, getLast_cons nonempty]
    exact cons_ne_nil _ _
  rw [last]
  intro slash
  have here : name.text.getLast nonempty = '/' := by simpa using slash
  exact plain (here ▸ getLast_mem nonempty)

theorem path_ne_nil : system.path name ≠ [] := by
  simp [FileSystem.path]

/-- The rows that `_sync_folder_records` may write without harm: each is beneath, or is what it
would be rewritten to. -/
structure FolderSelective (before later : List Char) (registry : Registry) : Prop where
  series : ∀ row ∈ registry.series, ∀ path, row.path = some path → path ≠ [] →
    selects before path = true → AtOrBeneath before path ∨ slice before later path = path
  files : ∀ row ∈ registry.files.rows, row.filePath ≠ [] → selects before row.filePath = true →
    AtOrBeneath before row.filePath ∨ row.sync before later = row

/-- No row that `_sync_file_record` passes over is registered beneath the file. -/
structure FileSelective (before later : List Char) (registry : Registry) : Prop where
  series : ∀ row ∈ registry.series, ∀ path, row.path = some path → AtOrBeneath before path →
    slice before later path = path
  files : ∀ row ∈ registry.files.rows, before ++ ['/'] <+: row.filePath →
    row.sync before later = row

theorem rows_of_syncFileRecord (made : syncFileRecord before later stat registry = some synced) :
    synced.series = registry.series ∧ synced.files.rows = registry.files.rows.map fun row =>
      if row.filePath = before then row.refresh later stat else row := by
  unfold syncFileRecord at made
  split at made
  · next none =>
      cases made
      refine ⟨rfl, ?_⟩
      have others : ∀ row ∈ registry.files.rows, row.filePath ≠ before := by
        simpa using none
      refine ((map_congr_left fun row member => ?_).trans (map_id _)).symm
      rw [if_neg (others row member)]
      rfl
  · next row found =>
      obtain ⟨files, written, rfl⟩ := Option.map_eq_some_iff.1 made
      refine ⟨rfl, ?_⟩
      have inside := mem_of_find?_eq_some found
      have here : row.filePath = before := by simpa using List.find?_some found
      rw [Sql.UniqueTable.rows_of_write written]
      apply map_congr_left
      intro other member
      have same : other.id = (row.refresh later stat).id ↔ other.filePath = before := by
        constructor
        · intro named
          have itself : other = row :=
            inj_on_of_nodup_map registry.files.distinct member inside named
          rw [itself, here]
        · intro there
          exact registry.files.unique other member row inside before (congrArg some there)
            (congrArg some here)
      by_cases there : other.filePath = before
      · have itself : other = row :=
          inj_on_of_nodup_map registry.files.distinct member inside (same.2 there)
        rw [if_pos there, if_pos (same.2 there), itself]
      · rw [if_neg there, if_neg fun named => there (same.1 named)]

theorem mem_selectedFiles {files : LibraryFiles} {id : ℕ} : id ∈ selectedFiles before files ↔
    ∃ row ∈ files.rows, selects before row.filePath = true ∧ row.filePath ≠ [] ∧ row.id = id := by
  simp [selectedFiles, Sorting.mem_sortOn, and_assoc]

theorem nodup_selectedFiles (files : LibraryFiles) : (selectedFiles before files).Nodup := by
  unfold selectedFiles
  rw [Sorting.sortOn, (perm_insertionSort _ _).nodup_iff]
  exact files.distinct.sublist (filter_sublist.map _)

theorem rows_of_syncFolderRecords
    (made : syncFolderRecords before later registry = some synced) :
    synced.series = registry.series.map (SeriesRow.sync (rstripSlash before) (rstripSlash later)) ∧
      synced.files.rows = registry.files.rows.map fun row =>
        if selects (rstripSlash before) row.filePath = true ∧ row.filePath ≠ [] then
          row.sync (rstripSlash before) (rstripSlash later)
        else row := by
  unfold syncFolderRecords at made
  obtain ⟨files, written, rfl⟩ := Option.map_eq_some_iff.1 made
  refine ⟨rfl, ?_⟩
  have keeps (row : LibraryFileRow) :
      (row.sync (rstripSlash before) (rstripSlash later)).id = row.id := rfl
  rw [Sql.UniqueTable.rows_of_writeAll_map keeps (nodup_selectedFiles _) written]
  apply map_congr_left
  intro row member
  have named : row.id ∈ selectedFiles (rstripSlash before) registry.files ↔
      selects (rstripSlash before) row.filePath = true ∧ row.filePath ≠ [] := by
    rw [mem_selectedFiles]
    constructor
    · rintro ⟨other, inside, selected, something, same⟩
      rw [← inj_on_of_nodup_map registry.files.distinct inside member same]
      exact ⟨selected, something⟩
    · rintro ⟨selected, something⟩
      exact ⟨row, member, selected, something, rfl⟩
  simp only [named]

/-- A series row is rewritten as it is to be, or is not to be rewritten and is not. -/
theorem seriesMoved_sync_iff {series : SeriesRow} (something : before ≠ []) :
    SeriesMoved before later series (series.sync before later) ↔
      ∀ path, series.path = some path → path ≠ [] → selects before path = true →
        AtOrBeneath before path ∨ slice before later path = path := by
  obtain ⟨id, _ | path⟩ := series
  · simp only [reduceCtorEq, false_implies, implies_true, iff_true]
    exact ⟨by simp, fun _ => rfl⟩
  · by_cases selected : selects before path = true ∧ path ≠ []
    · have written : SeriesRow.sync before later ⟨id, some path⟩ =
          ⟨id, some (slice before later path)⟩ := if_pos selected
      rw [written]
      constructor
      · intro moved other same _ _
        obtain rfl := Option.some.inj same
        by_cases beneath : AtOrBeneath before path
        · exact .inl beneath
        · right
          have kept := moved.apart fun other same => Option.some.inj same ▸ beneath
          simpa using kept
      · intro holds
        constructor
        · intro other same _
          obtain rfl := Option.some.inj same
          rfl
        · intro apart
          rcases holds path rfl selected.2 selected.1 with beneath | same
          · exact absurd beneath (apart path rfl)
          · rw [same]
    · have kept : SeriesRow.sync before later ⟨id, some path⟩ = ⟨id, some path⟩ := if_neg selected
      have outside : ¬ AtOrBeneath before path := fun beneath =>
        selected ⟨selects_of_atOrBeneath beneath, ne_nil_of_atOrBeneath something beneath⟩
      rw [kept]
      constructor
      · intro _ other same nonempty chosen
        obtain rfl := Option.some.inj same
        exact absurd ⟨chosen, nonempty⟩ selected
      · intro _
        constructor
        · intro other same beneath
          exact absurd (Option.some.inj same ▸ beneath) outside
        · exact fun _ => rfl

theorem fileMoved_sync_iff (something : before ≠ []) :
    FileMoved before later stat row
        (if selects before row.filePath = true ∧ row.filePath ≠ [] then row.sync before later
          else row) ↔
      (row.filePath ≠ [] → selects before row.filePath = true →
        AtOrBeneath before row.filePath ∨ row.sync before later = row) := by
  by_cases selected : selects before row.filePath = true ∧ row.filePath ≠ []
  · rw [if_pos selected]
    constructor
    · intro moved _ _
      by_cases beneath : AtOrBeneath before row.filePath
      · exact .inl beneath
      · exact .inr (moved.apart beneath)
    · intro holds
      constructor
      · rfl
      · exact fun _ => ⟨rfl, rfl⟩
      · exact .inl ⟨rfl, rfl⟩
      · exact fun apart => (holds selected.2 selected.1).resolve_left apart
  · rw [if_neg selected]
    have outside : ¬ AtOrBeneath before row.filePath := fun beneath =>
      selected ⟨selects_of_atOrBeneath beneath, ne_nil_of_atOrBeneath something beneath⟩
    constructor
    · intro _ nonempty chosen
      exact absurd ⟨chosen, nonempty⟩ selected
    · intro _
      constructor
      · rfl
      · exact fun beneath => absurd beneath outside
      · exact .inl ⟨rfl, rfl⟩
      · exact fun _ => rfl

theorem fileMoved_refresh_iff :
    FileMoved before later stat row
        (if row.filePath = before then row.refresh later stat else row) ↔
      (before ++ ['/'] <+: row.filePath → row.sync before later = row) := by
  by_cases itself : row.filePath = before
  · rw [if_pos itself]
    constructor
    · rintro - ⟨rest, longer⟩
      rw [itself] at longer
      have lengths := congrArg List.length longer
      simp at lengths
    · intro _
      constructor
      · rfl
      · intro _
        rw [itself, slice_self]
        exact ⟨rfl, rfl⟩
      · cases stat with
        | none => exact .inl ⟨rfl, rfl⟩
        | some measure => exact .inr ⟨itself, rfl⟩
      · exact fun apart => absurd (.inl itself) apart
  · rw [if_neg itself]
    constructor
    · intro moved beneath
      obtain ⟨path, named⟩ := moved.beneath (.inr beneath)
      unfold LibraryFileRow.sync
      rw [← named, ← path]
    · intro holds
      constructor
      · rfl
      · intro beneath
        have same := holds (beneath.resolve_left itself)
        exact ⟨(congrArg LibraryFileRow.filePath same).symm,
          (congrArg LibraryFileRow.fileName same).symm⟩
      · exact .inl ⟨rfl, rfl⟩
      · exact fun _ => rfl

theorem seriesMoved_self_iff {series : SeriesRow} : SeriesMoved before later series series ↔
    ∀ path, series.path = some path → AtOrBeneath before path → slice before later path = path := by
  constructor
  · intro moved path here beneath
    have kept := congrArg SeriesRow.path (moved.beneath path here beneath)
    exact Option.some.inj (kept.symm.trans here)
  · intro holds
    constructor
    · intro path here beneath
      rw [holds path here beneath, ← here]
    · exact fun _ => rfl

end Pullbox.Library.Rename
