import Pullbox.Import.MisplacedSources

/-!
# What the restoration checks and registers

The files that are moved stand at their sources and have free destinations. Registering them one
after the other succeeds only if their destinations are distinct.
-/

namespace Pullbox.Import.MisplacedSources

open Files List RecommendedConflicts Sql

variable {Entry : Type} {paths : Paths Entry} {faults : Faults Entry} {world : World Entry}
  {file : ImportedFile} {context : RestoreContext} {before rest : List RestoreContext}
  {tables after : Tables} {entry : Entry}

/-! ### What was checked -/

theorem free_of_available {sourceLexical destinationLexical source destination : String}
    (available : unavailableReason paths world.disk tables sourceLexical destinationLexical source
      destination = "") : world.disk destination = none := by
  unfold unavailableReason at available
  cases here : world.disk destination with
  | none => rfl
  | some entry =>
    simp only [here, Option.isSome_some, if_true] at available
    split at available
    · contradiction
    · split at available
      · contradiction
      · exact absurd available (by decide)

/-- What holds of a file that passed the checks. -/
structure Loaded (paths : Paths Entry) (world : World Entry) (file : ImportedFile)
    (context : CleanupContext) : Prop where
  file : context.file = file
  library : world.tables.library.find context.libraryFile.id = some context.libraryFile
  resolved : paths.resolve (paths.expanduser context.libraryFile.filePath) = some context.source
  occupied : (world.disk context.source).isSome
  vacant : ∀ destination, context.destination = some destination →
    context.unavailableReason = "" → world.disk destination = none

theorem occupied_of_signature {place : String} {signature : Signature}
    (signed : buildFileIdentitySignature paths world.disk place = some signature) :
    (world.disk place).isSome := by
  unfold buildFileIdentitySignature at signed
  obtain ⟨entry, here, -⟩ := Option.bind_eq_some_iff.1 signed
  rw [here]
  rfl

theorem loaded_of_ok {context : CleanupContext}
    (loaded : loadRestoreContext paths world file = .ok context) :
    Loaded paths world file context := by
  have key {id : ℕ} {row : LibraryFile} (found : world.tables.library.find id = some row) :
      world.tables.library.find row.id = some row :=
    Table.find_key (Table.mem_of_find found)
  have resolved {path source registered : String} (found : paths.resolve path = some registered)
      (same : registered = source) : paths.resolve path = some source := same ▸ found
  unfold loadRestoreContext at loaded
  simp only [bind, Except.bind, pure, Except.pure, throw, throwThe, MonadExceptOf.throw] at loaded
  repeat' split at loaded
  all_goals cases loaded
  · constructor
    · rfl
    · exact key ‹world.tables.library.find _ = some _›
    · exact resolved ‹paths.resolve _ = some _› (not_not.1 ‹¬ _ ≠ _›)
    · exact occupied_of_signature ‹_›
    · rintro _ ⟨⟩
  · constructor
    · rfl
    · exact key ‹world.tables.library.find _ = some _›
    · exact resolved ‹paths.resolve _ = some _› (not_not.1 ‹¬ _ ≠ _›)
    · exact occupied_of_signature ‹_›
    · rintro _ ⟨⟩ available
      exact free_of_available available

/-- What holds of each file that is moved. -/
structure Checked (paths : Paths Entry) (world : World Entry) (context : RestoreContext) :
    Prop where
  file : world.tables.files.find context.file.id = some context.file
  library : world.tables.library.find context.libraryFile.id = some context.libraryFile
  resolved : paths.resolve (paths.expanduser context.libraryFile.filePath) = some context.source
  occupied : (world.disk context.source).isSome
  vacant : world.disk context.destination = none

/-- How a file comes to be moved. -/
theorem ready_of_load (loaded : (loadRestoreContext paths world file).toOption.bind ready =
    some context) : context.file = file ∧ (file ∈ world.tables.files.rows →
      Checked paths world context) := by
  obtain ⟨cleanup, ok, made⟩ := Option.bind_eq_some_iff.1 loaded
  have facts : Loaded paths world file cleanup := by
    apply loaded_of_ok
    cases result : loadRestoreContext paths world file with
    | error message =>
      rw [result] at ok
      cases ok
    | ok value =>
      rw [result] at ok
      cases ok
      rfl
  unfold ready at made
  split at made
  · cases made
  · rename_i destination there
    split at made
    · cases made
    · rename_i available
      cases made
      refine ⟨facts.file, fun listed => ?_⟩
      constructor
      · rw [facts.file]
        exact Table.find_key listed
      · exact facts.library
      · exact facts.resolved
      · exact facts.occupied
      · exact facts.vacant destination there (not_not.1 available)

theorem mem_scope : file ∈ scope world.tables ↔
    file ∈ world.tables.files.rows ∧ inScope world.tables file = true := by
  unfold scope
  rw [Sorting.mem_sortOn, mem_filter]

theorem checked_of_mem (inside : context ∈ (loadVerifiedRestoreContexts paths world).1) :
    Checked paths world context := by
  obtain ⟨file, listed, loaded⟩ := mem_filterMap.1 inside
  exact (ready_of_load loaded).2 (mem_scope.1 listed).1

/-- Every file is moved once. -/
theorem nodup_files (paths : Paths Entry) (world : World Entry) :
    ((loadVerifiedRestoreContexts paths world).1.map (·.file.id)).Nodup := by
  have files : (loadVerifiedRestoreContexts paths world).1.map (·.file) =
      (scope world.tables).filter fun file =>
        ((loadRestoreContext paths world file).toOption.bind ready).isSome := by
    unfold loadVerifiedRestoreContexts
    rw [map_filterMap, ← filterMap_eq_filter]
    apply filterMap_congr
    intro file _
    cases loaded : (loadRestoreContext paths world file).toOption.bind ready with
    | none =>
      simp only [Option.guard, loaded]
      rfl
    | some context =>
      simp only [Option.guard, loaded, Option.map_some, (ready_of_load loaded).1]
      rfl
  have ids : ((scope world.tables).map ImportedFile.id).Nodup := by
    unfold scope
    have sorted : (Sorting.sortOn ImportedFile.id
        (world.tables.files.rows.filter (inScope world.tables))).Perm
          (world.tables.files.rows.filter (inScope world.tables)) := perm_insertionSort _ _
    rw [(sorted.map ImportedFile.id).nodup_iff]
    exact world.tables.files.distinct.sublist (filter_sublist.map _)
  have same : (loadVerifiedRestoreContexts paths world).1.map (·.file.id) =
      ((loadVerifiedRestoreContexts paths world).1.map (·.file)).map ImportedFile.id := by
    rw [map_map]
    rfl
  rw [same, files]
  exact ids.sublist (filter_sublist.map _)

/-! ### Registering the files -/

/-- The rows that one file's registration writes. -/
structure Registered (context : RestoreContext) (tables after : Tables) : Prop where
  file : (after.files.find context.file.id).map ImportedFile.filePath =
    (tables.files.find context.file.id).map fun _ => context.destination
  otherFile : ∀ id ≠ context.file.id, after.files.find id = tables.files.find id
  library : (after.library.find context.libraryFile.id).map LibraryFile.filePath =
    some context.destination
  otherLibrary : ∀ id ≠ context.libraryFile.id, after.library.find id = tables.library.find id
  unused : ∀ id ≠ context.libraryFile.id, ∀ row, tables.library.find id = some row →
    row.filePath ≠ context.destination

theorem registered_of_update
    (updated : updateRestoreRegistration paths context entry tables = some after) :
    Registered context tables after := by
  unfold updateRestoreRegistration at updated
  simp only [Option.bind_eq_bind, Option.bind_eq_some_iff, Option.pure_def,
    Option.some.injEq] at updated
  obtain ⟨signature, -, row, found, library, written, rfl⟩ := updated
  have named := Table.key_of_find found
  constructor
  · simp only [Table.find_modify_self, Option.map_map]
    rfl
  · intro id apart
    apply Table.find_modify_ne
    · intro file
      rfl
    · exact apart
  · simp only [UniqueTable.find_of_write written]
    rw [if_pos named.symm, found]
    rfl
  · intro id apart
    simp only [UniqueTable.find_of_write written]
    rw [if_neg]
    exact fun same => apart (same.trans named)
  · intro id apart other otherFound same
    have clash := UniqueTable.write_isSome_iff.1 (Option.isSome_iff_exists.2 ⟨library, written⟩)
    refine clash ⟨other, Table.mem_of_find otherFound, ?_, Option.some_ne_none _, ?_⟩
    · rw [Table.key_of_find otherFound]
      exact fun equal => apart (equal.trans named)
    · exact congrArg some same

/-- The rows after these files were registered one after the other, with the entries they have
before the first move. -/
def registerAll (paths : Paths Entry) (world : World Entry) (contexts : List RestoreContext) :
    Option Tables :=
  contexts.foldlM (fun tables context => (world.disk context.source).bind fun entry =>
    updateRestoreRegistration paths context entry tables) world.tables

theorem registerAll_append_singleton :
    registerAll paths world (before ++ [context]) =
      (registerAll paths world before).bind fun tables =>
        (world.disk context.source).bind fun entry =>
          updateRestoreRegistration paths context entry tables := by
  unfold registerAll
  rw [foldlM_append]
  simp

theorem registerAll_of_append (registered : (registerAll paths world (before ++ rest)).isSome) :
    (registerAll paths world before).isSome := by
  unfold registerAll at registered
  rw [foldlM_append] at registered
  exact Option.isSome_of_isSome_bind registered

/-- Files from different places have different library rows. -/
theorem nodup_library (checked : ∀ context ∈ before, Checked paths world context)
    (once : (before.map RestoreContext.source).Nodup) :
    (before.map (·.libraryFile.id)).Nodup := by
  apply List.Nodup.map_on _ once.of_map
  intro one oneIn two twoIn same
  apply inj_on_of_nodup_map once oneIn twoIn
  have row : one.libraryFile = two.libraryFile := by
    have found := (checked one oneIn).library
    rw [same, (checked two twoIn).library] at found
    exact (Option.some.inj found).symm
  have resolved := (checked one oneIn).resolved
  rw [row, (checked two twoIn).resolved] at resolved
  exact (Option.some.inj resolved).symm

/-- Each registered file has its library row at its destination. -/
theorem library_of_registerAll (once : (before.map (·.libraryFile.id)).Nodup)
    (registered : registerAll paths world before = some tables) (inside : context ∈ before) :
    (tables.library.find context.libraryFile.id).map LibraryFile.filePath =
      some context.destination := by
  induction before using List.reverseRecOn generalizing tables with
  | nil => cases inside
  | append_singleton before last ih =>
    rw [registerAll_append_singleton] at registered
    obtain ⟨middle, earlier, written⟩ := Option.bind_eq_some_iff.1 registered
    obtain ⟨entry, -, updated⟩ := Option.bind_eq_some_iff.1 written
    have step := registered_of_update updated
    rw [map_append, nodup_append] at once
    obtain inEarlier | here := mem_append.1 inside
    · rw [step.otherLibrary]
      · exact ih once.1 earlier inEarlier
      · exact once.2.2 _ (mem_map_of_mem inEarlier) _ (mem_singleton_self _)
    · rw [mem_singleton.1 here]
      exact step.library

/-- Registering files keeps the rows that there are. -/
theorem isSome_file_of_registerAll (registered : registerAll paths world before = some tables)
    (id : ℕ) : (tables.files.find id).isSome = (world.tables.files.find id).isSome := by
  induction before using List.reverseRecOn generalizing tables with
  | nil =>
    cases registered
    rfl
  | append_singleton before last ih =>
    rw [registerAll_append_singleton] at registered
    obtain ⟨middle, earlier, written⟩ := Option.bind_eq_some_iff.1 registered
    obtain ⟨entry, -, updated⟩ := Option.bind_eq_some_iff.1 written
    have step := registered_of_update updated
    by_cases same : id = last.file.id
    · subst same
      have kept := congrArg Option.isSome step.file
      rw [Option.isSome_map, Option.isSome_map] at kept
      rw [kept, ih earlier]
    · rw [step.otherFile id same, ih earlier]

/-- Each registered file has its row at its destination. -/
theorem file_of_registerAll (checked : ∀ context ∈ before, Checked paths world context)
    (once : (before.map (·.file.id)).Nodup)
    (registered : registerAll paths world before = some tables) (inside : context ∈ before) :
    (tables.files.find context.file.id).map ImportedFile.filePath = some context.destination := by
  induction before using List.reverseRecOn generalizing tables with
  | nil => cases inside
  | append_singleton before last ih =>
    rw [registerAll_append_singleton] at registered
    obtain ⟨middle, earlier, written⟩ := Option.bind_eq_some_iff.1 registered
    obtain ⟨entry, -, updated⟩ := Option.bind_eq_some_iff.1 written
    have step := registered_of_update updated
    rw [map_append, nodup_append] at once
    obtain inEarlier | here := mem_append.1 inside
    · rw [step.otherFile]
      · exact ih (fun other otherIn => checked other (mem_append_left _ otherIn)) once.1
          earlier inEarlier
      · exact once.2.2 _ (mem_map_of_mem inEarlier) _ (mem_singleton_self _)
    · have there := isSome_file_of_registerAll earlier last.file.id
      rw [(checked last (by simp)).file] at there
      obtain ⟨row, found⟩ := Option.isSome_iff_exists.1 there
      rw [mem_singleton.1 here, step.file, found]
      rfl

/-- Registered files have different destinations. -/
theorem distinct_of_registerAll (once : (before.map (·.libraryFile.id)).Nodup)
    (registered : (registerAll paths world before).isSome) :
    (before.map RestoreContext.destination).Nodup := by
  induction before using List.reverseRecOn with
  | nil => exact nodup_nil
  | append_singleton before last ih =>
    obtain ⟨tables, written⟩ := Option.isSome_iff_exists.1 registered
    rw [registerAll_append_singleton] at written
    obtain ⟨middle, earlier, written⟩ := Option.bind_eq_some_iff.1 written
    obtain ⟨entry, -, updated⟩ := Option.bind_eq_some_iff.1 written
    rw [map_append, nodup_append] at once ⊢
    refine ⟨ih once.1 (registerAll_of_append registered), nodup_singleton _, ?_⟩
    rintro _ inside _ here same
    obtain ⟨other, otherIn, rfl⟩ := mem_map.1 inside
    rw [mem_singleton.1 here] at same
    have there := library_of_registerAll once.1 earlier otherIn
    obtain ⟨row, found, path⟩ := Option.map_eq_some_iff.1 there
    apply (registered_of_update updated).unused other.libraryFile.id _ row found
    · exact path.trans same
    · exact once.2.2 _ (mem_map_of_mem otherIn) _ (mem_singleton_self _)

end Pullbox.Import.MisplacedSources
