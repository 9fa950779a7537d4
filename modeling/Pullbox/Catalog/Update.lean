import Pullbox.Catalog.Database
import Pullbox.Durable.Task

/-!
# Catalog updates

One run of the update (`service.py`, `retention.py`, `storage.py`): it cleans up, fetches the
publication, takes or rebuilds the weekly base, applies the latest patch, and makes the result
active once it is validated. A run is a task whose steps are the changes of the data volume. Errors
of the volume and of the connection can end it at any step. Free-space checks are among those
errors; the status shown is left out.
-/

namespace Pullbox.Catalog

open Durable Text

/-- The folders beneath the root. -/
inductive Directory where
  | staging
  | downloads
  | bases
  | versions
deriving DecidableEq

/-- A file of the catalog, by its directory and its name without the suffix. -/
structure Path where
  directory : Directory
  name : String
deriving DecidableEq

structure File where
  content : ByteArray
  modifiedAt : Rat

/-- What `active.json` and `previous.json` hold. -/
structure Reference where
  version : String
  baseVersion : String
  path : Path
  sourceCutoffAt : Json

/-- The data volume. -/
structure Root where
  active : Option Reference := none
  previous : Option Reference := none
  files : Path → Option File := fun _ => none

namespace Root

def put (root : Root) (path : Path) (file : File) : Root :=
  { root with files := Function.update root.files path (some file) }

/-- `unlink(missing_ok=True)`. -/
def unlink (root : Root) (path : Path) : Root :=
  { root with files := Function.update root.files path none }

/-- `os.replace`. -/
def replace (root : Root) (source target : Path) : Root :=
  match root.files source with
  | some file => (root.unlink source).put target file
  | none => root

/-- Write at the end of a file. -/
def append (root : Root) (path : Path) (chunk : ByteArray) (now : Rat) : Root :=
  match root.files path with
  | some file => root.put path ⟨file.content ++ chunk, now⟩
  | none => root.put path ⟨chunk, now⟩

end Root

/-- A run, which returns whether it changed anything, or the message of its error. -/
abbrev Run (α : Type) : Type :=
  Task Root String α

/-- The message for an error of the connection or of the volume. -/
def downloadFailed : String :=
  "Catalog download failed. Check the API connection and available disk space, then retry."

/-! ## Clean-up -/

/-- The entries of each directory as they are listed, and the clock as each is visited. -/
structure Cleaning where
  listed : Directory → List String
  now : Path → Rat

/-- The paths that are kept whatever their age. -/
def keptPaths (root : Root) : List Path :=
  [root.active, root.previous].flatMap fun reference =>
    reference.elim [] fun reference => [reference.path, ⟨.bases, reference.baseVersion⟩]

/-- The name has the format of the directory. -/
def owned (path : Path) : Bool :=
  match path.directory with
  | .staging => path.name.toList.all fun char => within 'a' 'z' char ∨ within 'A' 'Z' char ∨
      within '0' '9' char ∨ char ∈ ['_', '-', '.']
  | .downloads => isSha256 path.name
  | .bases | .versions =>
    match path.name.toList with
    | [y₁, y₂, y₃, y₄, m₁, m₂, d₁, d₂, 'T', h₁, h₂, n₁, n₂, s₁, s₂, 'Z'] =>
      [y₁, y₂, y₃, y₄, m₁, m₂, d₁, d₂, h₁, h₂, n₁, n₂, s₁, s₂].all isDigit
    | _ => false

/-- One entry of a directory is visited. -/
def visit (keep : List Path) (completed : Bool) (now : Rat) (path : Path) (root : Root) : Root :=
  match root.files path with
  | none => root
  | some file =>
    if owned path ∧ (path.directory = .staging ∨ path.directory = .downloads ∧ completed ∨
        file.modifiedAt < now - 2 * 86400 ∧ path ∉ keep) then root.unlink path
    else root

def sweep (keep : List Path) (completed : Bool) (now : Path → Rat) : List Path → Run Unit
  | [] => pure ()
  | path :: rest => do
      Task.change (visit keep completed (now path) path)
      sweep keep completed now rest

/-- `cleanup`. -/
def cleanup (cleaning : Cleaning) (completed : Bool) : Run Unit := do
  let keep ← Task.read keptPaths
  sweep keep completed cleaning.now
    ([Directory.staging, .downloads, .bases, .versions].flatMap fun directory =>
      (cleaning.listed directory).map (Path.mk directory))
  Task.finished ()

/-! ## Downloads -/

/-- The answer to a download; `broken` ends it early. -/
structure DownloadResponse where
  status : Nat
  contentRange : Option String := none
  chunks : List ByteArray := []
  broken : Bool := false

/-- The response to a download, if there is one, and the clock of its writes. -/
structure Download where
  response : Option DownloadResponse
  now : Rat

/-- The chunks of a response, up to the signed size. -/
def writeChunks (path : Path) (size : Int) (now : Rat) (broken : Bool) :
    Int → List ByteArray → Run Unit
  | _, [] => if broken then Task.raise downloadFailed else Task.finished ()
  | offset, chunk :: rest =>
    if size < offset + chunk.size then Task.raise "Catalog download exceeded its signed size."
    else do
      Task.change fun root => root.append path chunk now
      Task.finished ()
      writeChunks path size now broken (offset + chunk.size) rest

/-- Where a response starts to write. -/
def startOffset (response : DownloadResponse) (offset size : Int) : Checked Int :=
  if response.status = 206 then
    if response.contentRange ≠
        some ("bytes " ++ toString offset ++ "-" ++ toString (size - 1) ++ "/" ++ toString size)
    then .error "Catalog resume response is invalid. Retry the download."
    else .ok offset
  else if response.status = 200 then .ok 0
  else if 200 ≤ response.status ∧ response.status < 300 then
    .error "Catalog download response is invalid."
  else .error downloadFailed

/-- The size of what is there of a download; too much is thrown away. -/
def resumeOffset (path : Path) (size : Int) : Run Int := do
  let found ← Task.read fun root : Root =>
    (root.files path).elim 0 fun file => (file.content.size : Int)
  if size < found then do
    Task.change fun root : Root => root.unlink path
    pure 0
  else pure found

/-- What a response adds to a download: a whole one replaces what is there. -/
def receive (path : Path) (size : Int) (answer : Download) (offset : Int) : Run Unit :=
  if offset < size then
    match answer.response with
    | none => Task.raise downloadFailed
    | some response => do
        let start ← Task.ofResult (startOffset response offset size)
        if start = 0 then do
          Task.change fun root : Root => root.put path ⟨.empty, answer.now⟩
          writeChunks path size answer.now response.broken start response.chunks
        else writeChunks path size answer.now response.broken start response.chunks
  else pure ()

/-- A download that is not what was signed is thrown away. -/
def checkDownload (engine : Engine) (artifact : Artifact) (path : Path) : Run Unit := do
  let sound ← Task.read fun root : Root => (root.files path).any fun file =>
    file.content.size = artifact.sizeBytes ∧ engine.fileSha256 file.content = artifact.sha256
  Task.finished ()
  if sound then pure ()
  else do
    Task.change fun root : Root => root.unlink path
    Task.raise "Catalog download checksum failed. Retry the download."

/-- `_download`. -/
def download (engine : Engine) (artifact : Artifact) (answer : Download) : Run Path := do
  let path : Path := ⟨.downloads, artifact.sha256⟩
  let offset ← resumeOffset path artifact.sizeBytes
  Task.finished ()
  receive path artifact.sizeBytes answer offset
  checkDownload engine artifact path
  pure path

/-! ## Snapshots -/

/-- `validate_snapshot` of a file, which may not be readable. -/
def validateFile (engine : Engine) (readable : Bool) (path : Path) (version : String) :
    Run (Checked (List (String × Json))) := do
  let result ← Task.read fun root : Root =>
    match root.files path, readable with
    | some file, true => validateSnapshot engine file.content version
    | _, _ => (validVersion version).bind fun _ =>
      .error "Catalog database could not be validated. Retry the download."
  Task.finished result

/-- `MAX_DATABASE_BYTES`. -/
def maxDatabaseBytes : Nat :=
  4 * 1024 ^ 3

/-- The chunks of an archive, up to the supported size. -/
def writeUnpacked (output : Path) (now : Rat) : Nat → List ByteArray → Run Unit
  | _, [] => pure ()
  | total, chunk :: rest =>
    if maxDatabaseBytes < total + chunk.size then
      Task.raise "Catalog exceeds the supported storage size."
    else do
      Task.change fun root => root.append output chunk now
      writeUnpacked output now (total + chunk.size) rest

/-- `decompress` into a file that is new. -/
def decompress (engine : Engine) (archive output : Path) (now : Rat) : Run Unit := do
  let content ← Task.read fun root : Root => (root.files archive).map File.content
  let taken ← Task.read fun root : Root => (root.files output).isSome
  match content, taken with
  | some content, false => do
      Task.change fun root : Root => root.put output ⟨.empty, now⟩
      writeUnpacked output now 0 (engine.decompress content).1
      Task.ofResult (engine.decompress content).2
      Task.finished ()
  | _, _ => Task.raise downloadFailed

/-- `activate_file`. -/
def activateFile (stage target : Path) : Run Unit := do
  let staged ← Task.read fun root : Root => (root.files stage).isSome
  if staged then do
    Task.change fun root : Root => root.replace stage target
    Task.finished ()
  else Task.raise downloadFailed

/-- What a run meets: the publication that `_manifest` returned or its error, the two clean-ups,
the downloads, which files can be read, the names of its staged files and the clock of its
writes. -/
structure Circumstances where
  publication : Checked Signed
  before : Cleaning
  after : Cleaning
  fullDownload : Download
  patchDownload : Download
  activeReadable : Bool := true
  baseReadable : Bool := true
  baseStage : String
  patchStage : String
  outputStage : String
  now : Rat

/-- A staged base, which is validated. -/
def stageBase (engine : Engine) (archive stage : Path) (version : String) (now : Rat) :
    Run Unit := do
  decompress engine archive stage now
  let result ← validateFile engine true stage version
  let _ ← Task.ofResult result
  pure ()

/-- A weekly base from its archive. -/
def fetchBase (engine : Engine) (circumstances : Circumstances) (artifact : Artifact) :
    Run Path := do
  let target : Path := ⟨.bases, artifact.version⟩
  let stage : Path := ⟨.staging, circumstances.baseStage⟩
  let archive ← download engine artifact circumstances.fullDownload
  Task.ensure (fun root => root.unlink stage) do
    stageBase engine archive stage artifact.version circumstances.now
    activateFile stage target
  pure target

/-- `_snapshot`. -/
def snapshot (engine : Engine) (circumstances : Circumstances) (artifact : Artifact) :
    Run Path := do
  let target : Path := ⟨.bases, artifact.version⟩
  let present ← Task.read fun root : Root => (root.files target).isSome
  if present then do
    let result ← validateFile engine circumstances.baseReadable target artifact.version
    match result with
    | .ok _ => pure target
    | .error _ => fetchBase engine circumstances artifact
  else fetchBase engine circumstances artifact

/-- `apply_catalog_patch` on files: the output starts as a copy of the base. -/
def applyPatch (engine : Engine) (base patch output : Path) (baseVersion targetVersion : String)
    (now : Rat) : Run Unit := do
  let contents ← Task.read fun root : Root => (root.files base, root.files patch)
  match contents with
  | (some base, some patch) => do
      let result ← Task.ofResult
        (applyCatalogPatch engine base.content patch.content baseVersion targetVersion)
      Task.change fun root : Root => root.put output ⟨base.content, now⟩
      Task.change fun root : Root => root.put output ⟨result, now⟩
      Task.finished ()
  | _ => Task.raise "Catalog patch could not be applied. Retry the update."

/-- A staged version, which is the base with the unpacked patch. -/
def stagePatch (engine : Engine) (archive base unpacked stage : Path)
    (baseVersion version : String) (now : Rat) : Run Unit := do
  decompress engine archive unpacked now
  applyPatch engine base unpacked stage baseVersion version now

/-- The latest version from the base and its patch. -/
def fetchPatch (engine : Engine) (circumstances : Circumstances) (base : Path)
    (full patch : Artifact) : Run Path := do
  let target : Path := ⟨.versions, patch.version⟩
  let unpacked : Path := ⟨.staging, circumstances.patchStage⟩
  let stage : Path := ⟨.staging, circumstances.outputStage⟩
  let archive ← download engine patch circumstances.patchDownload
  Task.ensure (fun root => (root.unlink unpacked).unlink stage) do
    stagePatch engine archive base unpacked stage full.version patch.version circumstances.now
    activateFile stage target
  pure target

/-! ## The update -/

/-- Whether the active version is current; a broken reference is dropped. -/
def checkActive (engine : Engine) (circumstances : Circumstances) (latest : String)
    (reference : Reference) : Run (Bool × Option Reference) :=
  if latest ≤ reference.version then do
    let _ ← Task.ofResult (validVersion reference.version)
    if reference.path ∈ [(⟨.bases, reference.version⟩ : Path), ⟨.versions, reference.version⟩] then do
      let result ←
        validateFile engine circumstances.activeReadable reference.path reference.version
      match result with
      | .ok _ => pure (true, some reference)
      | .error _ =>
        if latest < reference.version then
          Task.raise
            "The API has an older catalog. The installed version was not replaced."
        else pure (false, none)
    else Task.raise "Catalog active file is invalid. Check the data volume."
  else pure (false, some reference)

/-- The file of the latest version. -/
def latestFile (engine : Engine) (circumstances : Circumstances) (publication : Signed) :
    Run Path := do
  let base ← snapshot engine circumstances publication.fullSnapshot
  match publication.latestPatch with
  | some patch => fetchPatch engine circumstances base publication.fullSnapshot patch
  | none => pure base

/-- The earlier reference is kept where there was a good one. -/
def keepPrevious : Option Reference → Run Unit
  | some active => do
      Task.change fun root : Root => { root with previous := some active }
      Task.finished ()
  | none => pure ()

/-- What follows when the active version is not current. -/
def install (engine : Engine) (circumstances : Circumstances) (publication : Signed)
    (active : Option Reference) : Run Bool := do
  let target ← latestFile engine circumstances publication
  let result ← validateFile engine true target publication.latestVersion
  let manifest ← Task.ofResult result
  keepPrevious active
  Task.change fun root : Root => { root with
    active := some
      { version := publication.latestVersion
        baseVersion := publication.fullSnapshot.version
        path := target
        sourceCutoffAt := field manifest "source_cutoff_at" } }
  Task.finished ()
  pure true

/-- `_update`. -/
def update (engine : Engine) (circumstances : Circumstances) : Run Bool := do
  let publication ← Task.ofResult circumstances.publication
  Task.finished ()
  let active ← Task.read Root.active
  match active with
  | some reference => do
      let checked ← checkActive engine circumstances publication.latestVersion reference
      if checked.1 then pure false else install engine circumstances publication checked.2
  | none => install engine circumstances publication none

/-- `sync` under its lock. -/
def sync (engine : Engine) (circumstances : Circumstances) : Run Bool := do
  cleanup circumstances.before false
  Task.finished ()
  let changed ← update engine circumstances
  cleanup circumstances.after true
  Task.finished ()
  pure changed

end Pullbox.Catalog
