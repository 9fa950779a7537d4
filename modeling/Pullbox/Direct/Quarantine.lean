import Pullbox.Direct.State

/-!
# The artifact quarantine

One directory per artifact attempt, holding at most the partial payload and final
files named after the artifact. `finalize` renames the partial file to its detected
suffix and refuses to replace a final file that is already there; `cleanup` removes
the directory and swallows every failure to do so.
-/

namespace Pullbox.Direct

/-- File content. -/
abbrev Content := List UInt8

/-- The regular files of one workspace directory. -/
abbrev Directory := QuarantineEntry → Option Content

/-- A directory with nothing in it. -/
def Directory.empty : Directory := fun _ => none

/-- Workspace directories by artifact id; `none` is a directory that does not exist. -/
abbrev Workspaces := Nat → Option Directory

/-- The file at a name of an artifact's workspace. -/
def Workspaces.file (workspaces : Workspaces) (artifactId : Nat) (entry : QuarantineEntry) :
    Option Content :=
  (workspaces artifactId).bind (· entry)

/-- Replace one workspace. -/
def Workspaces.set (workspaces : Workspaces) (artifactId : Nat) (directory : Option Directory) :
    Workspaces :=
  fun other => if other = artifactId then directory else workspaces other

/-- Set or remove one file of a workspace; nothing happens without its directory. -/
def Workspaces.put (workspaces : Workspaces) (artifactId : Nat) (entry : QuarantineEntry)
    (content : Option Content) : Workspaces :=
  workspaces.set artifactId <| (workspaces artifactId).map fun directory name =>
    if name = entry then content else directory name

/-- `DirectArtifactQuarantine.prepare`: the directory exists afterwards. -/
def Workspaces.prepare (workspaces : Workspaces) (artifactId : Nat) : Workspaces :=
  workspaces.set artifactId (some ((workspaces artifactId).getD Directory.empty))

/-- The persisted error of the quarantine: class `safety` always. -/
structure DirectArtifactValidationError where
  code : String
  message : String
  retryable : Bool := false
  intervention : Bool := true
  safetyBlock : Option SafetyReview := none

/-- `_unsafe_quarantine_error`. -/
def unsafeQuarantineError : DirectArtifactValidationError where
  code := "unsafe_quarantine_destination"
  message := "The direct artifact path is outside its safe quarantine."

/-- `_unsupported_type_error`. -/
def unsupportedTypeError : DirectArtifactValidationError where
  code := "artifact_file_type_unsupported"
  message := "The downloaded artifact is not a supported comic file."

/-- The header of the payload could not be read. -/
def unreadableQuarantineError : DirectArtifactValidationError where
  code := "artifact_quarantine_unreadable"
  message := "Pullbox could not inspect the quarantined artifact."
  retryable := true
  intervention := false

/-- The rename to the final name, or the mode change after it, failed. -/
def unwritableQuarantineError : DirectArtifactValidationError where
  code := "artifact_quarantine_unwritable"
  message := "Pullbox could not finalize the quarantined artifact."

/-- `_missing_quarantine_error`. -/
def missingQuarantineError : DirectArtifactValidationError where
  code := "artifact_quarantine_missing"
  message := "The quarantined artifact is missing or no longer safe to use."

/-- `Path(hint).suffix.lower()`: the last dot of the last component, neither first nor last. -/
def hintSuffix (filenameHint : Option String) : List Char :=
  let name := (((filenameHint.getD "").toList.reverse.dropWhile (· = '/')).takeWhile (· ≠ '/'))
  let extension := name.takeWhile (· ≠ '.')
  let stem := name.drop (extension.length + 1)
  if extension = [] ∨ stem = [] then [] else '.' :: extension.reverse.map Char.toLower

/-- `_detect_comic_suffix` on a readable payload; `none` is the unsupported-type error. -/
def detectComicSuffix (content : Content) (filenameHint : Option String) :
    Option ComicSuffix :=
  let header := content.take 512
  if [0x50, 0x4B, 0x03, 0x04].isPrefixOf header then
    some (if hintSuffix filenameHint = ['.', 'e', 'p', 'u', 'b'] then .epub else .cbz)
  else if [0x52, 0x61, 0x72, 0x21, 0x1A, 0x07].isPrefixOf header then
    some .cbr
  else if [0x37, 0x7A, 0xBC, 0xAF, 0x27, 0x1C].isPrefixOf header then
    some .cb7
  else if [0x25, 0x50, 0x44, 0x46].isPrefixOf header then
    some .pdf
  else if 262 ≤ header.length ∧ (header.drop 257).take 5 = [0x75, 0x73, 0x74, 0x61, 0x72] then
    some .cbt
  else
    none

/-- What `run_safety_checks` says about a finalized artifact. -/
inductive SafetyVerdict where
  | safe
  | resourceBlock (review : SafetyReview)
  | rejected

/-- Everything `validate_direct_artifact` learns about a finalized artifact. -/
structure ValidationChecks where
  /-- The suffix is among the allowed extensions. -/
  allowed : Bool
  safety : SafetyVerdict
  corrupt : Bool
  separablePack : Bool
  /-- The final `stat` of the file answers. -/
  stat : Bool

/-- A resource limit was exceeded; the user may allow it once. -/
def safetyReviewError (review : SafetyReview) : DirectArtifactValidationError where
  code := "artifact_resource_safety_review"
  message := "The downloaded artifact exceeds configured resource safety limits " ++
    "and requires an explicit allow-once review."
  safetyBlock := some review

/-- The safety engine refused the file. -/
def safetyRejectedError : DirectArtifactValidationError where
  code := "artifact_safety_rejected"
  message := "The downloaded artifact failed Pullbox file safety checks."
  intervention := false

/-- The file is corrupt and not a pack of separate issues. -/
def integrityError : DirectArtifactValidationError where
  code := "artifact_integrity_failed"
  message := "The downloaded artifact failed Pullbox integrity checks."

/-- The file could not be read after every check passed. -/
def unreadableArtifactError : DirectArtifactValidationError where
  code := "artifact_quarantine_unreadable"
  message := "Pullbox could not read the quarantined artifact."
  retryable := true
  intervention := false

/-- `validate_direct_artifact`. -/
def validateDirectArtifact (checks : ValidationChecks) :
    Except DirectArtifactValidationError Unit :=
  if checks.allowed = false then
    .error unsupportedTypeError
  else
    match checks.safety with
    | .resourceBlock review => .error (safetyReviewError review)
    | .rejected => .error safetyRejectedError
    | .safe =>
      if checks.corrupt ∧ checks.separablePack = false then
        .error integrityError
      else if checks.stat = false then
        .error unreadableArtifactError
      else
        .ok ()

/-- Every check passes, but the file cannot be read at the end. -/
def ValidationChecks.Unreadable (checks : ValidationChecks) : Prop :=
  checks.allowed = true ∧ checks.safety = .safe ∧
    (checks.corrupt = true → checks.separablePack = true) ∧ checks.stat = false

/-- The one rejection that asks for a retry. -/
theorem validateDirectArtifact_retryable {checks : ValidationChecks}
    {rejection : DirectArtifactValidationError}
    (rejected : validateDirectArtifact checks = .error rejection) :
    rejection.retryable = true ↔ checks.Unreadable := by
  obtain ⟨allowed, safety, corrupt, separablePack, stat⟩ := checks
  unfold ValidationChecks.Unreadable
  cases safety <;> cases allowed <;> cases corrupt <;> cases separablePack <;> cases stat <;>
    simp_all [validateDirectArtifact] <;> subst rejected <;> rfl

/-- How the file system answers the calls of one `finalize`. -/
structure FinalizeIo where
  readable : Bool
  replaceable : Bool
  chmodable : Bool

/-- The checks `finalize` makes before its rename. -/
def finalizeTarget (directory : Option Directory) (filenameHint : Option String)
    (io : FinalizeIo) : Except DirectArtifactValidationError ComicSuffix :=
  match directory with
  | none => .error unsafeQuarantineError
  | some entries =>
    match entries .payloadPart with
    | none => .error unsafeQuarantineError
    | some content =>
      if content = [] then
        .error unsafeQuarantineError
      else if io.readable = false then
        .error unreadableQuarantineError
      else
        match detectComicSuffix content filenameHint with
        | none => .error unsupportedTypeError
        | some suffix =>
          if (entries (.artifact suffix)).isSome then
            .error unsafeQuarantineError
          else if io.replaceable = false then
            .error unwritableQuarantineError
          else
            .ok suffix

/-- `os.replace(partial, final_path)`. -/
def Directory.rename (directory : Directory) (suffix : ComicSuffix) : Directory := fun name =>
  if name = .payloadPart then none
  else if name = .artifact suffix then directory .payloadPart
  else directory name

/-- The rename in one workspace. -/
def Workspaces.rename (workspaces : Workspaces) (artifactId : Nat) (suffix : ComicSuffix) :
    Workspaces :=
  workspaces.set artifactId ((workspaces artifactId).map (·.rename suffix))

/-- How `shutil.rmtree` of a workspace ends: an error leaves some of the entries behind. -/
inductive RemovalOutcome where
  | removed
  | failed (survives : QuarantineEntry → Bool)

/-- `DirectArtifactQuarantine.cleanup`: a failed removal is swallowed. -/
def Workspaces.cleanup (workspaces : Workspaces) (artifactId : Nat)
    (outcome : RemovalOutcome) : Workspaces :=
  match outcome with
  | .removed => workspaces.set artifactId none
  | .failed survives =>
    workspaces.set artifactId <| (workspaces artifactId).map fun directory name =>
      if survives name then directory name else none

/-- A cleanup that ends like this removes an entry. -/
def RemovalOutcome.Removes : RemovalOutcome → QuarantineEntry → Prop
  | .removed, _ => True
  | .failed survives, entry => survives entry = false

/-- Some final file is present in the workspace of an artifact. -/
def Workspaces.HasFinal (workspaces : Workspaces) (artifactId : Nat) : Prop :=
  ∃ suffix, (workspaces.file artifactId (.artifact suffix)).isSome

/-- Every final file of the changed quarantine was there before. -/
def Workspaces.AddsNoFinal (workspaces changed : Workspaces) : Prop :=
  ∀ id suffix, (changed.file id (.artifact suffix)).isSome →
    (workspaces.file id (.artifact suffix)).isSome

section

variable (workspaces : Workspaces) (artifactId other : Nat) (entry name : QuarantineEntry)

@[simp] theorem Workspaces.set_same (directory : Option Directory) :
    workspaces.set artifactId directory artifactId = directory := by
  simp [Workspaces.set]

@[simp] theorem Workspaces.file_prepare :
    (workspaces.prepare artifactId).file other entry = workspaces.file other entry := by
  unfold Workspaces.file Workspaces.prepare Workspaces.set
  split
  · subst other
    cases workspaces artifactId <;> simp [Directory.empty]
  · rfl

theorem Workspaces.file_put (content : Option Content) :
    (workspaces.put artifactId entry content).file other name =
      if other = artifactId ∧ name = entry then (workspaces artifactId).bind fun _ => content
      else workspaces.file other name := by
  unfold Workspaces.file Workspaces.put Workspaces.set
  by_cases same : other = artifactId
  · subst same
    cases workspaces other <;> by_cases named : name = entry <;> simp [named]
  · simp [same]

theorem Workspaces.file_cleanup_other (outcome : RemovalOutcome) (distinct : other ≠ artifactId) :
    (workspaces.cleanup artifactId outcome).file other entry = workspaces.file other entry := by
  cases outcome <;> simp [Workspaces.cleanup, Workspaces.file, Workspaces.set, distinct]

theorem Workspaces.file_cleanup_removes {outcome : RemovalOutcome}
    (removes : outcome.Removes entry) :
    (workspaces.cleanup artifactId outcome).file artifactId entry = none := by
  cases outcome with
  | removed => simp [Workspaces.cleanup, Workspaces.file]
  | failed survives =>
    have gone : survives entry = false := removes
    cases existing : workspaces artifactId <;>
      simp [Workspaces.cleanup, Workspaces.file, existing, gone]

/-- The rename adds no final file but its own. -/
theorem Workspaces.file_rename_isSome {suffix found : ComicSuffix}
    (present : ((workspaces.rename artifactId suffix).file other (.artifact found)).isSome) :
    other = artifactId ∧ found = suffix ∨ (workspaces.file other (.artifact found)).isSome := by
  by_cases same : other = artifactId
  · subst same
    by_cases named : found = suffix
    · exact .inl ⟨rfl, named⟩
    · right
      cases existing : workspaces other with
      | none => simp [Workspaces.rename, Workspaces.file, existing] at present
      | some directory =>
        simpa [Workspaces.rename, Workspaces.file, existing, Directory.rename, named] using present
  · right
    simpa [Workspaces.rename, Workspaces.file, Workspaces.set, same] using present

/-- Cleaning up never creates a file, whatever it manages to remove. -/
theorem Workspaces.file_cleanup_isSome (outcome : RemovalOutcome)
    (present : ((workspaces.cleanup artifactId outcome).file other entry).isSome) :
    (workspaces.file other entry).isSome := by
  by_cases same : other = artifactId
  · subst same
    cases outcome with
    | removed => simp [Workspaces.cleanup, Workspaces.file] at present
    | failed survives =>
      cases existing : workspaces other with
      | none => simp [Workspaces.cleanup, Workspaces.file, existing] at present
      | some directory =>
        by_cases kept : survives entry
        · simpa [Workspaces.cleanup, Workspaces.file, existing, kept] using present
        · simp [Workspaces.cleanup, Workspaces.file, existing, kept] at present
  · rwa [workspaces.file_cleanup_other artifactId other entry outcome same] at present

theorem Workspaces.addsNoFinal_prepare : workspaces.AddsNoFinal (workspaces.prepare artifactId) :=
  fun _ _ present => by simpa using present

theorem Workspaces.addsNoFinal_cleanup (outcome : RemovalOutcome) :
    workspaces.AddsNoFinal (workspaces.cleanup artifactId outcome) :=
  fun _ _ => workspaces.file_cleanup_isSome _ _ _ _

theorem Workspaces.addsNoFinal_put (content : Option Content)
    (partialOrNone : entry = .payloadPart ∨ content = none) :
    workspaces.AddsNoFinal (workspaces.put artifactId entry content) := by
  intro id suffix present
  rw [Workspaces.file_put] at present
  split at present
  · rename_i changed
    rcases partialOrNone with rfl | rfl
    · cases changed.2
    · cases existing : workspaces artifactId <;> simp [existing] at present
  · exact present

end

/-- A complete payload of a recognised type finalizes unless a final file is in the way
or the file system refuses. -/
theorem finalizeTarget_ok {directory : Directory} {filenameHint : Option String}
    {io : FinalizeIo} {content : Content} {suffix : ComicSuffix}
    (complete : directory .payloadPart = some content) (nonempty : content ≠ [])
    (recognised : detectComicSuffix content filenameHint = some suffix)
    (free : directory (.artifact suffix) = none)
    (readable : io.readable = true) (replaceable : io.replaceable = true) :
    finalizeTarget (some directory) filenameHint io = .ok suffix := by
  simp [finalizeTarget, complete, nonempty, recognised, free, readable, replaceable]

end Pullbox.Direct
