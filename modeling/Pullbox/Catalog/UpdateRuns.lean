import Mathlib.Data.String.Basic
import Pullbox.Catalog.Update
import Pullbox.Durable.Reachable
import Pullbox.Durable.Results

/-!
# Runs of the catalog update

The files of the generations are valid throughout, the active reference names one of them, and
no step takes away what a reference needs. A run of the update keeps this at each of its steps;
whole histories follow as long as no operation outlives its run.
-/

namespace Pullbox.Catalog

open Durable Option Text

/-- A file of a generation: a weekly base or a patched version. -/
def Path.Generation (path : Path) : Prop :=
  path.directory = .bases ∨ path.directory = .versions

/-- A reference names a file of its version. -/
def Reference.Names (reference : Reference) : Prop :=
  reference.path = ⟨.bases, reference.version⟩ ∨ reference.path = ⟨.versions, reference.version⟩

/-- The content passes the validation for the version. -/
def Validated (engine : Engine) (content : ByteArray) (version : String) : Prop :=
  ∃ manifest, validateSnapshot engine content version = .ok manifest

/-- Generations and references are valid. -/
structure Sound (engine : Engine) (root : Root) : Prop where
  generations : ∀ path file, path.Generation → root.files path = some file →
    Validated engine file.content path.name
  named : ∀ reference, root.active = some reference ∨ root.previous = some reference →
    reference.Names
  present : ∀ reference, root.active = some reference → (root.files reference.path).isSome

/-- A step of the volume. -/
structure Step (engine : Engine) (before after : Root) : Prop where
  sound : Sound engine after
  newer : ∀ reference, before.active = some reference →
    ∃ next, after.active = some next ∧ reference.version ≤ next.version
  spared : ∀ path ∈ keptPaths before, (before.files path).isSome → (after.files path).isSome

/-- What every step of a run does to a sound volume. -/
def Keeps (engine : Engine) (before after : Root) : Prop :=
  Sound engine before → Step engine before after

variable {engine : Engine} {root before middle after : Root} {path : Path} {reference : Reference}

theorem Reference.Names.generation (names : reference.Names) :
    reference.path.Generation := by
  rcases names with same | same
  · exact .inl (congrArg Path.directory same)
  · exact .inr (congrArg Path.directory same)

theorem mem_keptPaths : path ∈ keptPaths root ↔
    ∃ reference, (root.active = some reference ∨ root.previous = some reference) ∧
      (path = reference.path ∨ path = ⟨.bases, reference.baseVersion⟩) := by
  simp only [keptPaths, List.mem_flatMap, List.mem_cons, List.not_mem_nil, or_false]
  constructor
  · rintro ⟨_, rfl | rfl, found⟩
    · cases active : root.active with
      | none => simp [active] at found
      | some reference => exact ⟨reference, .inl rfl, by simpa [active] using found⟩
    · cases previous : root.previous with
      | none => simp [previous] at found
      | some reference => exact ⟨reference, .inr rfl, by simpa [previous] using found⟩
  · rintro ⟨reference, active | previous, found⟩
    · exact ⟨_, .inl rfl, by simpa [active] using found⟩
    · exact ⟨_, .inr rfl, by simpa [previous] using found⟩

/-- What is kept is a file of a generation. -/
theorem Sound.generation_of_kept (sound : Sound engine root)
    (kept : path ∈ keptPaths root) : path.Generation := by
  obtain ⟨reference, refers, rfl | rfl⟩ := mem_keptPaths.1 kept
  · exact (sound.named reference refers).generation
  · exact .inl rfl

/-! ## Steps outside the generations -/

/-- Only staged files and downloads change. -/
structure Private (before after : Root) : Prop where
  active : after.active = before.active
  previous : after.previous = before.previous
  files : ∀ path : Path, path.Generation → after.files path = before.files path

theorem Private.refl (root : Root) : Private root root :=
  ⟨rfl, rfl, fun _ _ => rfl⟩

theorem Private.trans (first : Private before middle) (second : Private middle after) :
    Private before after :=
  ⟨second.active.trans first.active, second.previous.trans first.previous,
    fun path generation => (second.files path generation).trans (first.files path generation)⟩

theorem Private.sound (apart : Private before after) (sound : Sound engine before) :
    Sound engine after := by
  constructor
  · intro path file generation found
    rw [apart.files path generation] at found
    exact sound.generations path file generation found
  · intro reference refers
    rw [apart.active, apart.previous] at refers
    exact sound.named reference refers
  · intro reference active
    rw [apart.active] at active
    rw [apart.files _ (sound.named reference (.inl active)).generation]
    exact sound.present reference active

/-- A step may be followed by one outside the generations. -/
theorem Step.then_private (step : Step engine before middle) (sound : Sound engine before)
    (apart : Private middle after) : Step engine before after := by
  constructor
  · exact apart.sound step.sound
  · intro reference active
    obtain ⟨next, later, newer⟩ := step.newer reference active
    exact ⟨next, apart.active.trans later, newer⟩
  · intro path kept found
    rw [apart.files path (sound.generation_of_kept kept)]
    exact step.spared path kept found

theorem Keeps.refl (root : Root) : Keeps engine root root :=
  fun sound => ⟨sound, fun reference active => ⟨reference, active, le_refl _⟩, fun _ _ found => found⟩

theorem Private.keeps (apart : Private before after) : Keeps engine before after :=
  fun sound => (Keeps.refl before sound).then_private sound apart

theorem unlink_self : (root.unlink path).files path = none :=
  Function.update_self _ _ _

theorem unlink_of_ne {path other : Path} (different : other ≠ path) :
    (root.unlink path).files other = root.files other :=
  Function.update_of_ne different _ _

theorem private_put (apart : ¬ path.Generation) (file : File) :
    Private root (root.put path file) := by
  refine ⟨rfl, rfl, ?_⟩
  intro other generation
  have different : other ≠ path := by
    rintro rfl
    exact apart generation
  exact Function.update_of_ne different _ _

theorem private_unlink (apart : ¬ path.Generation) :
    Private root (root.unlink path) := by
  refine ⟨rfl, rfl, ?_⟩
  intro other generation
  have different : other ≠ path := by
    rintro rfl
    exact apart generation
  exact unlink_of_ne different

theorem private_append (apart : ¬ path.Generation) (chunk : ByteArray) (now : Rat) :
    Private root (root.append path chunk now) := by
  unfold Root.append
  cases root.files path with
  | none => exact private_put apart _
  | some file => exact private_put apart _

theorem not_generation_staging (name : String) : ¬ (⟨.staging, name⟩ : Path).Generation := by
  simp [Path.Generation]

theorem not_generation_downloads (name : String) : ¬ (⟨.downloads, name⟩ : Path).Generation := by
  simp [Path.Generation]

/-! ## Operations outside the generations -/

variable {α β : Type} {circumstances : Circumstances} {stage target : Path} {completed : Bool}
  {now : Rat}

/-- The operation changes only staged files and downloads. -/
def Apart (engine : Engine) (task : Run α) : Prop :=
  ∀ root, task.Keeps (Keeps engine) (fun _ after => Private root after) root

theorem apart_pure (value : α) : Apart engine (pure value : Run α) :=
  fun root => Private.refl root

theorem apart_raise (message : String) : Apart engine (Task.raise message : Run α) :=
  fun _ => trivial

theorem apart_ofResult (result : Checked α) : Apart engine (Task.ofResult result : Run α) :=
  fun root => Task.keeps_ofResult fun _ _ => Private.refl root

theorem apart_read (look : Root → α) : Apart engine (Task.read look : Run α) :=
  fun root => Task.keeps_read (Keeps.refl root) (Private.refl root)

theorem apart_finished (value : α) : Apart engine (Task.finished value : Run α) :=
  fun root => Task.keeps_finished (Keeps.refl root) (Private.refl root)

theorem apart_change {update : Root → Root} (apart : ∀ root, Private root (update root)) :
    Apart engine (Task.change update : Run PUnit) :=
  fun root => Task.keeps_change (Keeps.refl root) (apart root).keeps (apart root)

theorem Apart.bind {first : Run α} {next : α → Run β} (apart : Apart engine first)
    (rest : ∀ value, Apart engine (next value)) : Apart engine (first >>= next) := by
  intro root
  refine Task.keeps_bind_of _ (apart root) ?_
  intro value middle begun
  exact Task.keeps_mono (rest value middle) fun _ _ ended => begun.trans ended

theorem apart_writeChunks (outside : ¬ path.Generation) (size : Int) (now : Rat)
    (broken : Bool) (offset : Int) (chunks : List ByteArray) :
    Apart engine (writeChunks path size now broken offset chunks) := by
  induction chunks generalizing offset with
  | nil =>
    unfold writeChunks
    split_ifs
    · exact apart_raise _
    · exact apart_finished _
  | cons chunk rest ih =>
    unfold writeChunks
    split_ifs
    · exact apart_raise _
    · refine (apart_change fun root => private_append outside chunk now).bind fun _ => ?_
      exact (apart_finished _).bind fun _ => ih _

theorem apart_resumeOffset (outside : ¬ path.Generation) (size : Int) :
    Apart engine (resumeOffset path size) := by
  refine (apart_read _).bind fun found => ?_
  split_ifs
  · exact (apart_change fun root => private_unlink outside).bind fun _ => apart_pure _
  · exact apart_pure _

theorem apart_receive (outside : ¬ path.Generation) (size : Int) (answer : Download)
    (offset : Int) : Apart engine (receive path size answer offset) := by
  unfold receive
  split_ifs
  · cases answer.response with
    | none => exact apart_raise _
    | some response =>
      refine (apart_ofResult _).bind fun start => ?_
      split_ifs
      · refine (apart_change fun root => private_put outside _).bind fun _ => ?_
        exact apart_writeChunks outside _ _ _ _ _
      · exact apart_writeChunks outside _ _ _ _ _
  · exact apart_pure _

theorem apart_checkDownload (outside : ¬ path.Generation) (artifact : Artifact) :
    Apart engine (checkDownload engine artifact path) := by
  refine (apart_read _).bind fun sound => (apart_finished _).bind fun _ => ?_
  split_ifs
  · exact apart_pure _
  · exact (apart_change fun root => private_unlink outside).bind fun _ => apart_raise _

theorem apart_download (artifact : Artifact) (answer : Download) :
    Apart engine (download engine artifact answer) := by
  have outside := not_generation_downloads artifact.sha256
  refine (apart_resumeOffset outside _).bind fun offset => (apart_finished _).bind fun _ => ?_
  refine (apart_receive outside _ _ _).bind fun _ => ?_
  exact (apart_checkDownload outside _).bind fun _ => apart_pure _

theorem apart_writeUnpacked {output : Path} (outside : ¬ output.Generation) (now : Rat)
    (total : Nat) (chunks : List ByteArray) :
    Apart engine (writeUnpacked output now total chunks) := by
  induction chunks generalizing total with
  | nil => exact apart_pure _
  | cons chunk rest ih =>
    unfold writeUnpacked
    split_ifs
    · exact apart_raise _
    · exact (apart_change fun root => private_append outside chunk now).bind fun _ => ih _

theorem apart_decompress (archive : Path) {output : Path} (outside : ¬ output.Generation)
    (now : Rat) : Apart engine (decompress engine archive output now) := by
  refine (apart_read _).bind fun content => (apart_read _).bind fun taken => ?_
  split
  · refine (apart_change fun root => private_put outside _).bind fun _ => ?_
    refine (apart_writeUnpacked outside _ _ _).bind fun _ => (apart_ofResult _).bind fun _ => ?_
    exact apart_finished _
  · exact apart_raise _

/-! ## Validation and activation -/

/-- A file that is accepted was there and is valid. -/
theorem validateFile_keeps {readable : Bool} {version : String}
    {returns : Checked (List (String × Json)) → Root → Prop}
    (holds : ∀ result, (∀ manifest, result = .ok manifest → ∃ file, root.files path = some file ∧
      validateSnapshot engine file.content version = .ok manifest) → returns result root) :
    (validateFile engine readable path version).Keeps (Keeps engine) returns root := by
  refine ⟨Keeps.refl root, Keeps.refl root, Keeps.refl root, holds _ ?_⟩
  intro manifest accepted
  dsimp only at accepted
  split at accepted
  · rename_i file found
    exact ⟨file, found, accepted⟩
  · obtain ⟨_, _, failed⟩ := bind_eq_ok.1 accepted
    cases failed

/-- The output of a patch is valid. -/
theorem validated_of_patch {base patch output : ByteArray} {baseVersion targetVersion : String}
    (applied : applyCatalogPatch engine base patch baseVersion targetVersion = .ok output) :
    Validated engine output targetVersion := by
  obtain ⟨_, _, applied⟩ := bind_eq_ok.1 applied
  split at applied
  · cases applied
  · obtain ⟨_, _, applied⟩ := bind_eq_ok.1 applied
    split_ifs at applied
    obtain ⟨built, _, applied⟩ := bind_eq_ok.1 applied
    obtain ⟨result, valid, applied⟩ := bind_eq_ok.1 applied
    split_ifs at applied
    cases applied
    exact ⟨result, valid⟩

/-- The generations grow; the references stay. -/
structure Grown (engine : Engine) (before after : Root) : Prop where
  sound : Sound engine after
  active : after.active = before.active
  previous : after.previous = before.previous
  files : ∀ path : Path, path.Generation → (before.files path).isSome →
    (after.files path).isSome

theorem Grown.trans (first : Grown engine before middle) (second : Grown engine middle after) :
    Grown engine before after :=
  ⟨second.sound, second.active.trans first.active, second.previous.trans first.previous,
    fun path generation found => second.files path generation (first.files path generation found)⟩

theorem Private.grown (apart : Private before after) (sound : Sound engine before) :
    Grown engine before after := by
  refine ⟨apart.sound sound, apart.active, apart.previous, ?_⟩
  intro path generation found
  rw [apart.files path generation]
  exact found

theorem Grown.step (grown : Grown engine before after) (sound : Sound engine before) :
    Step engine before after := by
  refine ⟨grown.sound, ?_, ?_⟩
  · intro reference active
    exact ⟨reference, grown.active.trans active, le_refl _⟩
  · intro path kept found
    exact grown.files path (sound.generation_of_kept kept) found

/-- A valid staged file becomes a file of a generation. -/
theorem grown_replace {file : File} (sound : Sound engine root)
    (staged : ¬ stage.Generation) (found : root.files stage = some file)
    (valid : Validated engine file.content target.name) :
    Grown engine root (root.replace stage target) ∧
      ((root.replace stage target).files target).isSome := by
  have here (path : Path) : (root.replace stage target).files path =
      if path = target then some file else if path = stage then none else root.files path := by
    simp [Root.replace, found, Root.put, Root.unlink, Function.update_apply]
  have apart {path : Path} (generation : path.Generation) : path ≠ stage := by
    rintro rfl
    exact staged generation
  have active : (root.replace stage target).active = root.active := by
    simp [Root.replace, found, Root.put, Root.unlink]
  have previous : (root.replace stage target).previous = root.previous := by
    simp [Root.replace, found, Root.put, Root.unlink]
  have stays (path : Path) (generation : path.Generation) (isFile : (root.files path).isSome) :
      ((root.replace stage target).files path).isSome := by
    rw [here, if_neg (apart generation)]
    split_ifs
    · rfl
    · exact isFile
  refine ⟨⟨⟨?_, ?_, ?_⟩, active, previous, stays⟩, by rw [here, if_pos rfl]; rfl⟩
  · intro path other generation same
    rw [here, if_neg (apart generation)] at same
    split_ifs at same with isTarget
    · cases same
      exact isTarget ▸ valid
    · exact sound.generations path other generation same
  · rw [active, previous]
    exact sound.named
  · intro reference isActive
    rw [active] at isActive
    exact stays _ (sound.named reference (.inl isActive)).generation
      (sound.present reference isActive)

theorem activateFile_keeps (sound : Sound engine root)
    (staged : ¬ stage.Generation)
    (valid : ∃ file, root.files stage = some file ∧ Validated engine file.content target.name) :
    (activateFile stage target).Keeps (Keeps engine)
      (fun _ after => Grown engine root after ∧ (after.files target).isSome) root := by
  obtain ⟨file, found, valid⟩ := valid
  obtain ⟨grown, isFile⟩ := grown_replace sound staged found valid
  refine Task.keeps_bind.2 (Task.keeps_read (Keeps.refl root) ?_)
  rw [if_pos (by rw [found]; rfl)]
  refine Task.keeps_bind.2 (Task.keeps_change (Keeps.refl root) (grown.step) ?_)
  exact Task.keeps_finished (Keeps.refl _) ⟨grown, isFile⟩

/-! ## Building the generations -/

theorem releases_private {release : Root → Root} (apart : ∀ root, Private root (release root))
    (before after : Root) (kept : Keeps engine before after) :
    Keeps engine before (release after) :=
  fun sound => (kept sound).then_private sound (apart after)

/-- After an operation outside the generations. -/
theorem Apart.then {first : Run α} {next : α → Run β} {returns : β → Root → Prop}
    (apart : Apart engine first)
    (rest : ∀ value after, Private root after → (next value).Keeps (Keeps engine) returns after) :
    (first >>= next).Keeps (Keeps engine) returns root :=
  Task.keeps_bind_of _ (apart root) rest

theorem applyPatch_keeps {base patch output : Path} {baseVersion targetVersion : String}
    (outside : ¬ output.Generation) :
    (applyPatch engine base patch output baseVersion targetVersion now).Keeps (Keeps engine)
      (fun _ after => Private root after ∧ ∃ file, after.files output = some file ∧
        Validated engine file.content targetVersion) root := by
  refine Task.keeps_bind.2 (Task.keeps_read (Keeps.refl root) ?_)
  split
  · rename_i base patch _
    refine Task.keeps_bind.2 (Task.keeps_ofResult ?_)
    intro result applied
    have copied : Private root (root.put output ⟨base.content, now⟩) := private_put outside _
    have written : Private root ((root.put output ⟨base.content, now⟩).put output ⟨result, now⟩) :=
      copied.trans (private_put outside _)
    refine Task.keeps_bind.2 (Task.keeps_change (Keeps.refl root) copied.keeps ?_)
    refine Task.keeps_bind.2 (Task.keeps_change (Keeps.refl _) (private_put outside _).keeps ?_)
    refine Task.keeps_finished (Keeps.refl _) ⟨written, ⟨result, now⟩, ?_, ?_⟩
    · simp [Root.put]
    · exact validated_of_patch applied
  · trivial

/-- A validated staged file is activated, and the staged files are released. -/
theorem stageFile_keeps {build : Run Unit} {release : Root → Root}
    (sound : Sound engine root) (outside : ¬ stage.Generation) (inside : target.Generation)
    (apart : ∀ root, Private root (release root))
    (builds : build.Keeps (Keeps engine) (fun _ after => Private root after ∧
      ∃ file, after.files stage = some file ∧ Validated engine file.content target.name) root) :
    (Task.ensure release (build >>= fun _ => activateFile stage target)).Keeps (Keeps engine)
      (fun _ after => Grown engine root after ∧ (after.files target).isSome) root := by
  refine Task.keeps_ensure (releases_private apart) Keeps.refl ?_
  refine Task.keeps_bind_of _ builds ?_
  rintro _ built ⟨begun, valid⟩
  refine Task.keeps_mono (activateFile_keeps (begun.sound sound) outside valid) ?_
  rintro _ after ⟨grown, isFile⟩
  refine ⟨((begun.grown sound).trans grown).trans ((apart after).grown grown.sound), ?_⟩
  rw [(apart after).files target inside]
  exact isFile

theorem stageBase_keeps {archive stage : Path} {version : String}
    (outside : ¬ stage.Generation) :
    (stageBase engine archive stage version now).Keeps (Keeps engine)
      (fun _ after => Private root after ∧ ∃ file, after.files stage = some file ∧
        Validated engine file.content version) root := by
  refine (apart_decompress archive outside now).then fun _ unpacked begun => ?_
  refine Task.keeps_bind.2 (validateFile_keeps fun result accepts => ?_)
  refine Task.keeps_bind.2 (Task.keeps_ofResult fun manifest accepted => ?_)
  obtain ⟨file, found, valid⟩ := accepts manifest accepted
  exact ⟨begun, file, found, manifest, valid⟩

theorem stagePatch_keeps {archive base unpacked stage : Path} {baseVersion version : String}
    (apart : ¬ unpacked.Generation) (outside : ¬ stage.Generation) :
    (stagePatch engine archive base unpacked stage baseVersion version now).Keeps (Keeps engine)
      (fun _ after => Private root after ∧ ∃ file, after.files stage = some file ∧
        Validated engine file.content version) root := by
  refine (apart_decompress archive apart now).then fun _ opened begun => ?_
  refine Task.keeps_mono (applyPatch_keeps outside) ?_
  rintro _ after ⟨written, valid⟩
  exact ⟨begun.trans written, valid⟩

/-- What building a file of a generation does. -/
structure Built (engine : Engine) (before : Root) (target : Path) (after : Root) : Prop where
  grown : Grown engine before after
  present : (after.files target).isSome

theorem fetchBase_keeps {artifact : Artifact}
    (sound : Sound engine root) :
    (fetchBase engine circumstances artifact).Keeps (Keeps engine)
      (fun target after => target = ⟨.bases, artifact.version⟩ ∧ Built engine root target after)
      root := by
  refine (apart_download artifact circumstances.fullDownload).then fun archive fetched begun => ?_
  have outside := not_generation_staging circumstances.baseStage
  refine Task.keeps_bind_of _ (stageFile_keeps (begun.sound sound) outside (.inl rfl)
    (fun root => private_unlink outside) (stageBase_keeps outside)) ?_
  rintro _ after ⟨grown, isFile⟩
  exact ⟨rfl, (begun.grown sound).trans grown, isFile⟩

theorem snapshot_keeps {artifact : Artifact}
    (sound : Sound engine root) :
    (snapshot engine circumstances artifact).Keeps (Keeps engine)
      (fun target after => target = ⟨.bases, artifact.version⟩ ∧ Built engine root target after)
      root := by
  refine Task.keeps_bind.2 (Task.keeps_read (Keeps.refl root) ?_)
  split_ifs with present
  · refine Task.keeps_bind.2 (validateFile_keeps fun result accepts => ?_)
    cases result with
    | ok manifest => exact ⟨rfl, (Private.refl root).grown sound, present⟩
    | error message => exact fetchBase_keeps sound
  · exact fetchBase_keeps sound

theorem fetchPatch_keeps {base : Path} {full patch : Artifact}
    (sound : Sound engine root) :
    (fetchPatch engine circumstances base full patch).Keeps (Keeps engine)
      (fun target after => target = ⟨.versions, patch.version⟩ ∧ Built engine root target after)
      root := by
  refine (apart_download patch circumstances.patchDownload).then fun archive fetched begun => ?_
  have apart := not_generation_staging circumstances.patchStage
  have outside := not_generation_staging circumstances.outputStage
  refine Task.keeps_bind_of _ (stageFile_keeps (begun.sound sound) outside (.inr rfl)
    (fun root => (private_unlink apart).trans (private_unlink outside))
    (stagePatch_keeps apart outside)) ?_
  rintro _ after ⟨grown, isFile⟩
  exact ⟨rfl, (begun.grown sound).trans grown, isFile⟩

/-- The file of the latest version is a file of a generation under that version. -/
theorem latestFile_keeps {publication : Signed}
    (sound : Sound engine root) :
    (latestFile engine circumstances publication).Keeps (Keeps engine)
      (fun target after => (target = ⟨.bases, publication.latestVersion⟩ ∨
        target = ⟨.versions, publication.latestVersion⟩) ∧ Built engine root target after)
      root := by
  refine Task.keeps_bind_of _ (snapshot_keeps sound) ?_
  rintro base middle ⟨rfl, built⟩
  split
  · rename_i patch found
    refine Task.keeps_mono (fetchPatch_keeps built.grown.sound) ?_
    rintro target after ⟨rfl, rebuilt⟩
    rw [(Publication.latestPatch_spec found).1] at rebuilt ⊢
    exact ⟨.inr rfl, built.grown.trans rebuilt.grown, rebuilt.present⟩
  · rename_i found
    rw [← publication.latest_eq found]
    rw [← publication.latest_eq found] at built
    exact ⟨.inl rfl, built⟩

/-! ## The references -/

/-- A good earlier reference is kept. -/
theorem step_previous (sound : Sound engine root)
    (names : reference.Names) : Step engine root { root with previous := some reference } := by
  refine ⟨⟨sound.generations, ?_, sound.present⟩, ?_, fun _ _ found => found⟩
  · rintro other (active | previous)
    · exact sound.named other (.inl active)
    · cases previous
      exact names
  · intro other active
    exact ⟨other, active, le_refl _⟩

/-- A reference that is not older becomes active. -/
theorem step_active (sound : Sound engine root) (names : reference.Names)
    (present : (root.files reference.path).isSome)
    (newer : ∀ other, root.active = some other → other.version ≤ reference.version) :
    Step engine root { root with active := some reference } := by
  refine ⟨⟨sound.generations, ?_, ?_⟩, ?_, fun _ _ found => found⟩
  · rintro other (active | previous)
    · cases active
      exact names
    · exact sound.named other (.inr previous)
  · rintro _ ⟨⟩
    exact present
  · intro other active
    exact ⟨reference, rfl, newer other active⟩

theorem keepPrevious_keeps {active : Option Reference} (sound : Sound engine root)
    (names : ∀ reference, active = some reference → reference.Names) :
    (keepPrevious active).Keeps (Keeps engine) (fun _ after => Sound engine after ∧
      after.active = root.active ∧ after.files = root.files) root := by
  cases active with
  | none => exact ⟨sound, rfl, rfl⟩
  | some reference =>
    have step := step_previous sound (names reference rfl)
    refine Task.keeps_bind.2 (Task.keeps_change (Keeps.refl root) (fun _ => step) ?_)
    exact Task.keeps_finished (Keeps.refl _) ⟨step.sound, rfl, rfl⟩

theorem install_keeps {publication : Signed}
    {active : Option Reference} (sound : Sound engine root)
    (names : ∀ reference, active = some reference → reference.Names)
    (newer : ∀ other, root.active = some other → other.version ≤ publication.latestVersion) :
    (install engine circumstances publication active).Keeps (Keeps engine)
      (fun _ after => Sound engine after) root := by
  refine Task.keeps_bind_of _ (latestFile_keeps sound) ?_
  rintro target middle ⟨isLatest, built⟩
  refine Task.keeps_bind.2 (validateFile_keeps fun result _ => ?_)
  refine Task.keeps_bind.2 (Task.keeps_ofResult fun manifest _ => ?_)
  refine Task.keeps_bind_of _ (keepPrevious_keeps built.grown.sound names) ?_
  rintro _ kept ⟨keptSound, sameActive, sameFiles⟩
  have present : (kept.files target).isSome := by
    rw [sameFiles]
    exact built.present
  have notOlder (other : Reference) (isActive : kept.active = some other) :
      other.version ≤ publication.latestVersion := by
    rw [sameActive, built.grown.active] at isActive
    exact newer other isActive
  have step (cutoff : Json) : Step engine kept { kept with
      active := some ⟨publication.latestVersion, publication.fullSnapshot.version, target, cutoff⟩ } :=
    step_active keptSound isLatest present notOlder
  refine Task.keeps_bind.2 (Task.keeps_change (Keeps.refl _) (fun _ => step _) ?_)
  refine Task.keeps_bind.2 (Task.keeps_finished (Keeps.refl _) ?_)
  exact (step _).sound

/-- An active version that is not current is not newer than the publication. -/
theorem checkActive_keeps {latest : String} {returns : Bool × Option Reference → Root → Prop}
    (current : returns (true, some reference) root)
    (older : reference.version ≤ latest → returns (false, some reference) root)
    (broken : reference.version ≤ latest → returns (false, none) root) :
    (checkActive engine circumstances latest reference).Keeps (Keeps engine) returns root := by
  unfold checkActive
  by_cases notOlder : latest ≤ reference.version
  · rw [if_pos notOlder]
    refine Task.keeps_bind.2 (Task.keeps_ofResult fun _ _ => ?_)
    split
    · refine Task.keeps_bind.2 (validateFile_keeps fun result _ => ?_)
      cases result with
      | ok manifest => exact current
      | error message =>
        by_cases newer : latest < reference.version
        · simp only [if_pos newer, Task.keeps_raise]
        · simp only [if_neg newer]
          exact broken (not_lt.1 newer)
    · trivial
  · rw [if_neg notOlder]
    exact older (le_of_not_ge notOlder)

theorem update_keeps (sound : Sound engine root) :
    (update engine circumstances).Keeps (Keeps engine) (fun _ after => Sound engine after)
      root := by
  refine Task.keeps_bind.2 (Task.keeps_ofResult fun publication _ => ?_)
  refine Task.keeps_bind.2 (Task.keeps_finished (Keeps.refl root) ?_)
  refine Task.keeps_bind.2 (Task.keeps_read (Keeps.refl root) ?_)
  cases active : root.active with
  | none => exact install_keeps sound nofun (by simp [active])
  | some reference =>
    have names := sound.named reference (.inl active)
    have onlyActive (older : reference.version ≤ publication.latestVersion) (other : Reference)
        (isActive : root.active = some other) : other.version ≤ publication.latestVersion := by
      rw [active] at isActive
      cases isActive
      exact older
    refine Task.keeps_bind.2 (checkActive_keeps sound ?_ ?_)
    · intro older
      refine install_keeps sound ?_ (onlyActive older)
      rintro _ ⟨⟩
      exact names
    · intro older
      exact install_keeps sound nofun (onlyActive older)

/-! ## Clean-up -/

/-- One visited entry, which is not kept. -/
theorem step_visit {keep : List Path}
    (sound : Sound engine root) (keeps : keptPaths root ⊆ keep) :
    Step engine root (visit keep completed now path root) ∧
      keptPaths (visit keep completed now path root) ⊆ keep := by
  unfold visit
  split
  · exact ⟨Keeps.refl root sound, keeps⟩
  · rename_i file found
    split_ifs with removed
    · have spared (other : Path) (kept : other ∈ keptPaths root)
          (isFile : (root.files other).isSome) : ((root.unlink path).files other).isSome := by
        have different : other ≠ path := by
          rintro rfl
          have generation := sound.generation_of_kept kept
          rcases removed.2 with staged | ⟨downloaded, _⟩ | ⟨_, dropped⟩
          · rcases generation with base | version
            · rw [staged] at base
              cases base
            · rw [staged] at version
              cases version
          · rcases generation with base | version
            · rw [downloaded] at base
              cases base
            · rw [downloaded] at version
              cases version
          · exact dropped (keeps kept)
        rw [unlink_of_ne different]
        exact isFile
      refine ⟨⟨⟨?_, sound.named, ?_⟩, ?_, spared⟩, keeps⟩
      · intro other file generation same
        by_cases isPath : other = path
        · rw [isPath, unlink_self] at same
          cases same
        · rw [unlink_of_ne isPath] at same
          exact sound.generations other file generation same
      · intro reference active
        exact spared reference.path (mem_keptPaths.2 ⟨reference, .inl active, .inl rfl⟩)
          (sound.present reference active)
      · intro reference active
        exact ⟨reference, active, le_refl _⟩
    · exact ⟨Keeps.refl root sound, keeps⟩

theorem sweep_keeps {keep : List Path} {now : Path → Rat} (paths : List Path)
    (sound : Sound engine root) (keeps : keptPaths root ⊆ keep) :
    (sweep keep completed now paths).Keeps (Keeps engine) (fun _ after => Sound engine after)
      root := by
  induction paths generalizing root with
  | nil => exact sound
  | cons path rest ih =>
    obtain ⟨step, kept⟩ := step_visit sound keeps
    refine Task.keeps_bind.2 (Task.keeps_change (Keeps.refl root) (fun _ => step) ?_)
    exact ih step.sound kept

theorem cleanup_keeps {cleaning : Cleaning} (sound : Sound engine root) :
    (cleanup cleaning completed).Keeps (Keeps engine) (fun _ after => Sound engine after)
      root := by
  refine Task.keeps_bind.2 (Task.keeps_read (Keeps.refl root) ?_)
  refine Task.keeps_bind_of _ (sweep_keeps _ sound (List.Subset.refl _)) ?_
  intro _ after swept
  exact Task.keeps_finished (Keeps.refl after) swept

theorem sync_keeps (sound : Sound engine root) :
    (sync engine circumstances).Keeps (Keeps engine) (fun _ _ => True) root := by
  refine Task.keeps_bind_of _ (cleanup_keeps sound) ?_
  intro _ cleaned first
  refine Task.keeps_bind.2 (Task.keeps_finished (Keeps.refl _) ?_)
  refine Task.keeps_bind_of _ (update_keeps first) ?_
  intro changed updated second
  refine Task.keeps_bind_of _ (cleanup_keeps second) ?_
  intro _ after _
  exact Task.keeps_bind.2 (Task.keeps_finished (Keeps.refl _) trivial)

/-! ## Histories -/

/-- The tasks that take the lock are runs of the update. -/
def OfSync (engine : Engine) (event : HostEvent Root String Bool) : Prop :=
  ∀ task, event = .start task → ∃ circumstances, task = sync engine circumstances

/-- The hosts that histories of admitted events reach from an empty volume. -/
abbrev History (admitted : HostEvent Root String Bool → Prop) : Host Root String Bool → Prop :=
  Reachable (fun host => host = { durable := {} }) (fun event _ => admitted event)
    (fun event host after => host.handle event = some after)

theorem sound_empty : Sound engine {} := by
  constructor <;> simp

/-- A sound volume with a run that keeps it so. -/
structure Steady (engine : Engine) (host : Host Root String Bool) : Prop where
  sound : Sound engine host.durable
  orderly : Host.Orderly (Keeps engine) host

/-- An event of the update does to a steady host what a step of a run does. -/
theorem Steady.next {host after : Host Root String Bool} {event : HostEvent Root String Bool}
    (steady : Steady engine host) (ofSync : OfSync engine event) (finishes : event ≠ .abandon)
    (handled : host.handle event = some after) :
    Steady engine after ∧ Step engine host.durable after.durable := by
  have starts (task : Task Root String Bool) (begins : event = .start task) :
      task.Keeps (Keeps engine) (fun _ _ => True) host.durable := by
    obtain ⟨circumstances, rfl⟩ := ofSync task begins
    exact sync_keeps steady.sound
  obtain ⟨orderly, keeps⟩ := steady.orderly.handle Keeps.refl starts finishes handled
  have step := keeps steady.sound
  exact ⟨⟨step.sound, orderly⟩, step⟩

/-- Histories without abandoned steps keep the volume sound. -/
theorem History.steady {host : Host Root String Bool}
    (history : History (fun event => OfSync engine event ∧ event ≠ .abandon) host) :
    Steady engine host := by
  apply Reachable.invariant history
  · rintro _ rfl
    exact ⟨sound_empty, rfl, nofun⟩
  · rintro event host after steady ⟨ofSync, finishes⟩ handled
    exact (steady.next ofSync finishes handled).1

/-- In a history that leaves no operation behind, the active reference names a file that is
valid for its version; no event makes the active version older, and none takes away a file that
a reference needs. -/
theorem catalog_activation {host : Host Root String Bool}
    (history : History (fun event => OfSync engine event ∧ event ≠ .abandon) host) :
    (∀ reference, host.durable.active = some reference →
      ∃ file, host.durable.files reference.path = some file ∧
        Validated engine file.content reference.version) ∧
    ∀ event after, OfSync engine event → event ≠ .abandon → host.handle event = some after →
      (∀ reference, host.durable.active = some reference →
        ∃ next, after.durable.active = some next ∧ reference.version ≤ next.version) ∧
      ∀ path ∈ keptPaths host.durable, (host.durable.files path).isSome →
        (after.durable.files path).isSome := by
  have steady := History.steady history
  have sound := steady.sound
  constructor
  · intro reference active
    obtain ⟨file, found⟩ := isSome_iff_exists.1 (sound.present reference active)
    have names := sound.named reference (.inl active)
    have valid := sound.generations _ file names.generation found
    have version : reference.path.name = reference.version := by
      rcases names with same | same <;> rw [same]
    rw [version] at valid
    exact ⟨file, found, valid⟩
  · intro event after ofSync finishes handled
    have step := (steady.next ofSync finishes handled).2
    exact ⟨step.newer, step.spared⟩

/-! ## A run that is cancelled twice -/

/-- A snapshot without rows. -/
def emptySnapshot (version cutoff : String) : Database where
  header := { applicationId := 0x50424332, userVersion := 1, integrityCheck := "ok", objects := [] }
  foreignKeyViolation := false
  manifest :=
    [("format_id", .text "pullbox-catalog-v2"), ("schema_version", .text "1"),
      ("compatibility_version", .text "pullbox-only"), ("application_id", .integer 0x50424332),
      ("dataset_version", .text version), ("source_cutoff_at", .text cutoff),
      ("counts", .object (CatalogTable.all.map fun table => (table.name, .integer 0))),
      ("content_sha256", .text "empty")]
  rows _ := []
  fts := []

/-- An engine that knows two weekly snapshots, by the sizes of their files. -/
def weeklyEngine : Engine where
  readDatabase content :=
    match content.size with
    | 1 => some (emptySnapshot "20260913T050000Z" "2026-09-13T05:00:00+00:00")
    | 2 => some (emptySnapshot "20260920T050000Z" "2026-09-20T05:00:00+00:00")
    | _ => none
  readPatch _ := none
  commit _ _ := none
  fileSha256 content := if content.size = 1 then "first" else "second"
  logicalHash _ := "empty"
  stamp cutoff :=
    if cutoff.text? = some "2026-09-13T05:00:00+00:00" then some "20260913T050000Z"
    else if cutoff.text? = some "2026-09-20T05:00:00+00:00" then some "20260920T050000Z"
    else none
  decompress content := ([content], .ok ())

/-- A publication of a weekly snapshot. -/
def weekly (version sha256 : String) (size : Int) : Signed where
  latestVersion := version
  fullSnapshot := { version, downloadPath := "", sha256, sizeBytes := size }
  snapshots := []
  patches := []
  lineage := by constructor <;> simp [newest]
  available := by simp

/-- A run that meets the publication and the archive. -/
def weeklyRun (publication : Signed) (archive : ByteArray) : Circumstances where
  publication := .ok publication
  before := { listed := fun _ => [], now := fun _ => 0 }
  after := { listed := fun _ => [], now := fun _ => 0 }
  fullDownload := { response := some { status := 200, chunks := [archive] }, now := 0 }
  patchDownload := { response := none, now := 0 }
  baseStage := "catalog-base"
  patchStage := "catalog-patch"
  outputStage := "catalog-output"
  now := 0

def firstRun : Circumstances :=
  weeklyRun (weekly "20260913T050000Z" "first" 1) ⟨#[0]⟩

def secondRun : Circumstances :=
  weeklyRun (weekly "20260920T050000Z" "second" 2) ⟨#[0, 0]⟩

/-- The first run is cancelled twice while it makes its version active, and the second run makes
a newer version active. -/
def overtaken : List (HostEvent Root String Bool) :=
  [.start (sync weeklyEngine firstRun)] ++ List.replicate 27 .tick ++
    [.abandon, .start (sync weeklyEngine secondRun)] ++ List.replicate 33 .tick

theorem ofSync_overtaken : ∀ event ∈ overtaken, OfSync weeklyEngine event := by
  intro event member task starts
  subst starts
  simp only [overtaken, List.mem_append, List.mem_cons, List.mem_replicate, List.not_mem_nil,
    or_false, HostEvent.start.injEq, reduceCtorEq, and_false, false_or] at member
  rcases member with rfl | rfl
  · exact ⟨firstRun, rfl⟩
  · exact ⟨secondRun, rfl⟩

/-- The operation that was left behind puts the older version back. -/
theorem left_behind_goes_back :
    ¬ ∀ (engine : Engine) (host : Host Root String Bool), History (OfSync engine) host →
      ∀ event after, OfSync engine event → host.handle event = some after →
        ∀ reference, host.durable.active = some reference →
          ∃ next, after.durable.active = some next ∧ reference.version ≤ next.version := by
  intro never
  have newest : ((overtaken.foldlM Host.handle { durable := {} }).bind fun host =>
      host.durable.active.map Reference.version) = some "20260920T050000Z" := by decide +kernel
  have back : ((overtaken.foldlM Host.handle { durable := {} }).bind fun host =>
      (host.handle (.drift 0)).bind fun after => after.durable.active.map Reference.version) =
      some "20260913T050000Z" := by decide +kernel
  obtain ⟨host, ran, shown⟩ := bind_eq_some_iff.1 newest
  obtain ⟨reference, active, version⟩ := map_eq_some_iff.1 shown
  rw [ran, bind_some] at back
  obtain ⟨after, handled, shown⟩ := bind_eq_some_iff.1 back
  obtain ⟨older, activeAfter, olderVersion⟩ := map_eq_some_iff.1 shown
  have history : History (OfSync weeklyEngine) host :=
    Reachable.run (.start rfl) (fun event member _ => ofSync_overtaken event member) ran
  obtain ⟨next, activeNext, newer⟩ :=
    never weeklyEngine host history (.drift 0) after nofun handled reference active
  rw [activeAfter] at activeNext
  cases activeNext
  rw [version, olderVersion] at newer
  exact absurd newer (by decide)

/-- The second run starts when the first has ended. -/
def undisturbed : List (HostEvent Root String Bool) :=
  [.start (sync weeklyEngine firstRun)] ++ List.replicate 33 .tick ++
    [.start (sync weeklyEngine secondRun)] ++ List.replicate 35 .tick

theorem admitted_undisturbed :
    ∀ event ∈ undisturbed, OfSync weeklyEngine event ∧ event ≠ .abandon := by
  intro event member
  simp only [undisturbed, List.mem_append, List.mem_cons, List.mem_replicate, List.not_mem_nil,
    or_false] at member
  rcases member with ((rfl | ⟨_, rfl⟩) | rfl) | ⟨_, rfl⟩
  · refine ⟨?_, by simp⟩
    rintro _ ⟨⟩
    exact ⟨firstRun, rfl⟩
  · exact ⟨by rintro _ ⟨⟩, by simp⟩
  · refine ⟨?_, by simp⟩
    rintro _ ⟨⟩
    exact ⟨secondRun, rfl⟩
  · exact ⟨by rintro _ ⟨⟩, by simp⟩

/-- The newer version is active and valid after two undisturbed runs, and the older one is what it
replaced. -/
theorem catalog_activation_undisturbed :
    ∃ (host : Host Root String Bool) (reference older : Reference),
      reference.version = "20260920T050000Z" ∧ host.durable.active = some reference ∧
        (∃ file, host.durable.files reference.path = some file ∧
          Validated weeklyEngine file.content reference.version) ∧
        older.version = "20260913T050000Z" ∧ host.durable.previous = some older := by
  have done : ((undisturbed.foldlM Host.handle { durable := {} }).bind fun host =>
      host.durable.active.bind fun reference => host.durable.previous.map fun older =>
        (reference.version, older.version)) =
      some ("20260920T050000Z", "20260913T050000Z") := by decide +kernel
  obtain ⟨host, ran, shown⟩ := bind_eq_some_iff.1 done
  obtain ⟨reference, active, shown⟩ := bind_eq_some_iff.1 shown
  obtain ⟨older, previous, versions⟩ := map_eq_some_iff.1 shown
  have history : History (fun event => OfSync weeklyEngine event ∧ event ≠ .abandon) host :=
    Reachable.run (.start rfl) (fun event member _ => admitted_undisturbed event member) ran
  exact ⟨host, reference, older, congrArg Prod.fst versions, active,
    (catalog_activation history).1 reference active, congrArg Prod.snd versions, previous⟩

end Pullbox.Catalog
