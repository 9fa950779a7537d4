import Pullbox.Durable.Session
import Pullbox.Files.Moves

/-!
# Placements of story arcs

`services/story_arc_placement_service.py`: a library file appears in the folder of a story arc as
a copy, a hard link or a symbolic link, and is removed again while it is the recorded one. The
folder of the target is its names with what they name. Each step may fail; what is read outside
the folder stays the same during a call.
-/

namespace Pullbox.Arc.Placement

open Files (Disk)
open Durable (Session)
open Durable.Session (refuseIf conclude)

/-! ### Files and fingerprints -/

/-- A regular file. -/
structure FileNode where
  device : ℕ
  inode : ℕ
  modified : ℕ
  bytes : List UInt8

/-- What stands at a path, with its identity. -/
inductive Node where
  | file (file : FileNode)
  | symlink (device inode modified : ℕ) (text : String)
  | other (device inode : ℕ)

abbrev Folder := Disk String Node

/-- A regular file, with the hash of its content. -/
structure FileFingerprint where
  size : ℕ
  modified : ℕ
  device : ℕ
  inode : ℕ
  sha256 : String
deriving DecidableEq

/-- What was published, and what it led to. -/
inductive Fingerprint where
  | regular (content : FileFingerprint)
  | symlink (text : String) (device inode modified : ℕ) (content : FileFingerprint)
deriving DecidableEq

def Fingerprint.content : Fingerprint → FileFingerprint
  | .regular content => content
  | .symlink _ _ _ _ content => content

inductive NodeKind where
  | file
  | symlink
  | other
deriving DecidableEq

/-- `_publication_stat_identity`. -/
structure StatIdentity where
  kind : NodeKind
  device : ℕ
  inode : ℕ
  size : ℕ
  modified : ℕ
deriving DecidableEq

def Node.identity : Node → StatIdentity
  | .file regular =>
    { kind := .file, device := regular.device, inode := regular.inode,
      size := regular.bytes.length, modified := regular.modified }
  | .symlink device inode modified text =>
    { kind := .symlink, device, inode, size := text.length, modified }
  | .other device inode => { kind := .other, device, inode, size := 0, modified := 0 }

/-! ### Plans, results and evidence -/

/-- How an issue is placed in an arc's folder. -/
inductive StoryArcPlacementMode where
  | copy
  | hardlink
  | symlink
  | referenceOnly
deriving DecidableEq

inductive StoryArcSymlinkStyle where
  | absolute
  | relative
deriving DecidableEq

inductive Ownership where
  | managed
  | referenced
deriving DecidableEq

inductive ResultState where
  | created
  | idempotent
  | referencedExisting
  | referenceOnly
deriving DecidableEq

/-- The steps of a placement that may fail: each use of the operating system, each question
whether the call is cancelled, and each record of the journal. -/
inductive PlacementStep where
  | cancelAtStart
  | resolveExisting
  | journalPrepared
  | openParent
  | cancelInParent
  | recheckFree
  | openSource
  | statSource
  | createTemporary
  | cancelBeforeChunk (index : ℕ)
  | writeChunk (index : ℕ)
  | finishTemporary
  | cancelBeforeLink
  | resolveLink
  | link
  | unlinkTemporary
  | statPublished
  | closeFiles
  | parentStable
  | validatePublished
  | syncParent
  | parentStillStable
  | cleanupStat
  | cleanupRead
  | cleanupRestat
  | cleanupUnlink
  | cleanupSync
  | closeParent
  | journalPublished
deriving DecidableEq

/-- Why a placement fails. -/
inductive PlacementError where
  | failed (step : PlacementStep)
  | unsupported
  | refused (code : String)
  | modeChanged
  | targetUnavailable
  | previewNotReady
  | notManaged
  | membershipMismatch
  | destinationMismatch
  | sourceFingerprintMismatch
  | fingerprintMismatch
  | identicalUnconfirmed
  | differentContent
  | caseOnly
  | destinationExists
  | sourceChanged
  | temporaryNameUnavailable
  | crossDevice
  | symlinkTargetMismatch
  | publishValidationFailed

/-- What `preview_story_arc_placement` finds in the folder. -/
inductive Preview where
  | noTarget (code : String)
  | blocked (code : String)
  | ready
  | represented

/-- What the row of a managed placement records. -/
structure ManagedEvidence where
  issueStoryArcId : ℕ
  placementPath : String
  mode : StoryArcPlacementMode
  ownership : Ownership
  symlinkStyle : Option StoryArcSymlinkStyle
  sourceFingerprint : FileFingerprint
  targetFingerprint : Fingerprint
  creatingActionId : Option ℕ

/-- What a placement returns. -/
structure PlacementResult where
  issueStoryArcId : ℕ
  libraryFileId : Option ℕ
  state : ResultState
  targetPath : Option String
  mode : StoryArcPlacementMode
  ownership : Ownership
  symlinkStyle : Option StoryArcSymlinkStyle
  renderedReadingOrder : ℕ
  sourceFingerprint : Option FileFingerprint
  targetFingerprint : Option Fingerprint

/-- `ManagedStoryArcPlacementEvidence.from_result`; `none` for what is not managed. -/
def ManagedEvidence.fromResult (result : PlacementResult) (creatingActionId : ℕ) :
    Option ManagedEvidence :=
  match result.ownership, result.targetPath, result.sourceFingerprint,
    result.targetFingerprint with
  | .managed, some targetPath, some sourceFingerprint, some targetFingerprint =>
    some {
      issueStoryArcId := result.issueStoryArcId
      placementPath := targetPath
      mode := result.mode
      ownership := result.ownership
      symlinkStyle := result.symlinkStyle
      sourceFingerprint
      targetFingerprint
      creatingActionId := some creatingActionId }
  | _, _, _, _ => none

/-- The surroundings of a placement: the canonical source, the files that paths lead to, where the
text of a link in the folder leads, and what is found in the folder before anything is made. -/
structure Surroundings where
  sourcePath : String
  source : FileNode
  fileAt : String → Option FileNode
  resolve : String → Option String
  linkText : StoryArcSymlinkStyle → String
  sha256 : List UInt8 → String
  device : ℕ
  caseOnlyCollision : Folder → Bool
  preview : Folder → Preview
  sourceIsThere : fileAt sourcePath = some source

/-- A call of `execute_story_arc_placement`. `refusal` is raised by the checks of the source, the
root, the spelling of the target and the preparation; the new inode and its time are those that
the operating system gives. -/
structure PlacementRequest extends Surroundings where
  issueStoryArcId : ℕ
  libraryFileId : Option ℕ
  readingOrder : ℕ
  mode : StoryArcPlacementMode
  symlinkStyle : Option StoryArcSymlinkStyle
  adoptIdenticalExisting : Bool
  existingManaged : Option ManagedEvidence
  targetPath : String
  target : String
  temporary : String
  newInode : ℕ
  now : ℕ
  refusal : Option PlacementError
  fails : PlacementStep → Bool
  apart : temporary ≠ target

abbrev Act (α : Type) : Type :=
  Session PlacementError Folder α

/-- `_stat_matches_fingerprint`. -/
def statMatchesFingerprint (file : FileNode) (fingerprint : FileFingerprint) : Bool :=
  file.device == fingerprint.device && file.inode == fingerprint.inode &&
    file.bytes.length == fingerprint.size && file.modified == fingerprint.modified

namespace Surroundings

variable (around : Surroundings)

/-- `_fingerprint_regular`. -/
def fingerprintFile (file : FileNode) : FileFingerprint where
  size := file.bytes.length
  modified := file.modified
  device := file.device
  inode := file.inode
  sha256 := around.sha256 file.bytes

def sourceFingerprint : FileFingerprint :=
  around.fingerprintFile around.source

/-- `_fingerprint_target`. -/
def fingerprintTarget : Node → Option Fingerprint
  | .file file => some (.regular (around.fingerprintFile file))
  | .symlink device inode modified text =>
    ((around.resolve text).bind around.fileAt).map fun file =>
      .symlink text device inode modified (around.fingerprintFile file)
  | .other _ _ => none

/-- `_fingerprint_target_at`. -/
def fingerprintTargetAt (canonicalPath : Option String) : Node → Option Fingerprint
  | .file file => some (.regular (around.fingerprintFile file))
  | .symlink device inode modified text =>
    canonicalPath.bind fun canonical =>
      if around.resolve text = some canonical then
        (around.fileAt canonical).map fun file =>
          .symlink text device inode modified (around.fingerprintFile file)
      else none
  | .other _ _ => none

/-- `_validate_existing_representation`. -/
def existingRepresentation (mode : StoryArcPlacementMode) (style : Option StoryArcSymlinkStyle) :
    Node → Bool
  | .symlink _ _ _ text =>
    mode == .symlink && around.resolve text == some around.sourcePath &&
      (style == some .absolute) == (text.toList.head? == some '/')
  | .file file =>
    mode != .symlink && (mode != .hardlink ||
      file.device == around.source.device && file.inode == around.source.inode)
  | .other _ _ => false

/-- `_validate_existing_representation_at`. -/
def representation (mode : StoryArcPlacementMode) (style : Option StoryArcSymlinkStyle) :
    Node → Bool
  | .symlink _ _ _ text => mode == .symlink && style.map around.linkText == some text
  | .file file =>
    mode != .symlink && (mode != .hardlink ||
      file.device == around.sourceFingerprint.device &&
        file.inode == around.sourceFingerprint.inode)
  | .other _ _ => false

/-- `os.path.samefile`, of the target and the source. -/
def samefile : Node → Bool
  | .file file => file.device == around.source.device && file.inode == around.source.inode
  | .symlink _ _ _ text =>
    match (around.resolve text).bind around.fileAt with
    | some file => file.device == around.source.device && file.inode == around.source.inode
    | none => false
  | .other _ _ => false

/-- `_target_content_matches_source`. -/
def targetContentMatchesSource : Node → Bool
  | .symlink _ _ _ text => around.resolve text == some around.sourcePath
  | .file file =>
    file.bytes.length == around.sourceFingerprint.size &&
      around.sha256 file.bytes == around.sourceFingerprint.sha256
  | .other _ _ => false

end Surroundings

/-- `_PublishedTarget`. -/
structure Published where
  identity : StatIdentity
  sha256 : Option String
  linkText : Option String

/-- The pieces of a file as they are read, `size` bytes each. -/
def readChunks (size : ℕ) : ℕ → List UInt8 → List (List UInt8)
  | 0, _ => []
  | _ + 1, [] => []
  | fuel + 1, bytes => bytes.take size :: readChunks size fuel (bytes.drop size)

/-- `_COPY_CHUNK_BYTES`. -/
def copyChunkBytes : ℕ := 1024 * 1024

namespace PlacementRequest

variable (request : PlacementRequest)

/-- A step that may fail. -/
def attempt (step : PlacementStep) : Act PUnit :=
  refuseIf (request.fails step = true) (.failed step)

/-! ### What stands at the target already -/

def result (state : ResultState) (fingerprint : Fingerprint) : PlacementResult where
  issueStoryArcId := request.issueStoryArcId
  libraryFileId := request.libraryFileId
  state := state
  targetPath := some request.targetPath
  mode := if state = .referencedExisting then .referenceOnly else request.mode
  ownership := if state = .referencedExisting then .referenced else .managed
  symlinkStyle := if state = .referencedExisting then none else request.symlinkStyle
  renderedReadingOrder := request.readingOrder
  sourceFingerprint := some request.sourceFingerprint
  targetFingerprint := some fingerprint

/-- `_validate_managed_evidence`. -/
def validateManagedEvidence (evidence : ManagedEvidence) : Option PlacementError :=
  if evidence.ownership ≠ .managed ∨ evidence.mode = .referenceOnly ∨
      evidence.creatingActionId = none then
    some .notManaged
  else if evidence.issueStoryArcId ≠ request.issueStoryArcId then some .membershipMismatch
  else if evidence.placementPath ≠ request.targetPath then some .destinationMismatch
  else if evidence.mode ≠ request.mode ∨ evidence.symlinkStyle ≠ request.symlinkStyle then
    some .modeChanged
  else if evidence.sourceFingerprint ≠ request.sourceFingerprint then
    some .sourceFingerprintMismatch
  else none

/-- What a target that is there already comes to. -/
def resolveNode (node : Node) : Except PlacementError PlacementResult :=
  match request.fingerprintTarget node with
  | none => .error .fingerprintMismatch
  | some fingerprint =>
    match request.existingManaged with
    | some evidence =>
      match request.validateManagedEvidence evidence with
      | some error => .error error
      | none =>
        if fingerprint ≠ evidence.targetFingerprint then .error .fingerprintMismatch
        else if request.existingRepresentation request.mode request.symlinkStyle node then
          .ok (request.result .idempotent fingerprint)
        else .error .fingerprintMismatch
    | none =>
      if request.samefile node || request.targetContentMatchesSource node then
        if request.adoptIdenticalExisting then
          .ok (request.result .referencedExisting fingerprint)
        else .error .identicalUnconfirmed
      else .error .differentContent

/-- `_resolve_existing_target`. -/
def resolveExistingTarget : Act (Option PlacementResult) := do
  request.attempt .resolveExisting
  let folder ← get
  refuseIf (request.caseOnlyCollision folder = true) .caseOnly
  match folder request.target with
  | none => pure none
  | some node =>
    match request.resolveNode node with
    | .ok result => pure (some result)
    | .error error => throw error

/-! ### Publication -/

/-- `os.link` and `os.symlink`: the new entry, unless the name is taken. -/
def link (node : Node) : Act PUnit := do
  request.attempt .link
  let folder ← get
  refuseIf ((folder request.target).isSome) .destinationExists
  modify fun folder => folder.write request.target (some node)

/-- The file that a copy is written to. -/
def temporaryFile (bytes : List UInt8) : FileNode where
  device := request.device
  inode := request.newInode
  modified := request.source.modified
  bytes := bytes

/-- The loop over the pieces of the source. -/
def writeChunks : ℕ → List UInt8 → List (List UInt8) → Act PUnit
  | _, _, [] => pure ⟨⟩
  | index, written, chunk :: rest => do
      request.attempt (.cancelBeforeChunk index)
      request.attempt (.writeChunk index)
      modify fun folder => folder.write request.temporary
        (some (.file (request.temporaryFile (written ++ chunk))))
      writeChunks (index + 1) (written ++ chunk) rest

/-- The temporary file, written and linked to its name. -/
def fillAndLink : Act Published := do
  let bytes := request.source.bytes
  let copied := (readChunks copyChunkBytes bytes.length bytes).flatten
  request.writeChunks 0 [] (readChunks copyChunkBytes bytes.length bytes)
  request.attempt .finishTemporary
  refuseIf (copied.length ≠ request.sourceFingerprint.size ∨
    request.sha256 copied ≠ request.sourceFingerprint.sha256 ∨
    statMatchesFingerprint request.source request.sourceFingerprint = false)
    .sourceChanged
  request.attempt .cancelBeforeLink
  request.link (.file (request.temporaryFile copied))
  pure {
    identity := Node.identity (.file (request.temporaryFile copied))
    sha256 := some (request.sha256 copied)
    linkText := none }

/-- The temporary name goes; once the target is published it may stay. -/
def dropTemporary (published : Bool) : Act PUnit := do
  if published ∧ request.fails .unlinkTemporary = true then pure ⟨⟩
  else do
    request.attempt .unlinkTemporary
    modify fun folder => folder.write request.temporary none

/-- Files are closed whether a session returns or raises. -/
def closing {α : Type} (step : PlacementStep) (body : Act α) : Act α :=
  conclude body (fun value => do request.attempt step; pure value)
    (fun error => do request.attempt step; throw error)

/-- `_publish_copy_at`. -/
def publishCopyAt : Act Published := do
  request.attempt .openSource
  request.closing .closeFiles do
    request.attempt .statSource
    refuseIf (statMatchesFingerprint request.source request.sourceFingerprint = false)
      .sourceChanged
    request.attempt .createTemporary
    let folder ← get
    refuseIf ((folder request.temporary).isSome) .temporaryNameUnavailable
    modify fun folder => folder.write request.temporary (some (.file (request.temporaryFile [])))
    conclude request.fillAndLink
      (fun published => do
        request.dropTemporary true
        request.attempt .statPublished
        pure published)
      (fun error => do
        request.dropTemporary false
        throw error)

/-- `_publish_hardlink_at`. -/
def publishHardlinkAt : Act Published := do
  request.attempt .openSource
  request.closing .closeFiles do
    request.attempt .statSource
    refuseIf (statMatchesFingerprint request.source request.sourceFingerprint = false)
      .sourceChanged
    refuseIf (request.source.device ≠ request.device) .crossDevice
    request.link (.file request.source)
    request.attempt .statPublished
    pure {
      identity := Node.identity (.file request.source)
      sha256 := some request.sourceFingerprint.sha256
      linkText := none }

/-- The symbolic link that is made. -/
def symlinkNode (style : StoryArcSymlinkStyle) : Node :=
  .symlink request.device request.newInode request.now (request.linkText style)

/-- `_publish_symlink_at`. -/
def publishSymlinkAt (style : StoryArcSymlinkStyle) : Act Published := do
  request.attempt .resolveLink
  refuseIf (request.resolve (request.linkText style) ≠ some request.sourcePath)
    .symlinkTargetMismatch
  request.link (request.symlinkNode style)
  request.attempt .statPublished
  pure {
    identity := (request.symlinkNode style).identity
    sha256 := none
    linkText := some (request.linkText style) }

def publish : Act Published :=
  match request.mode, request.symlinkStyle with
  | .copy, _ => request.publishCopyAt
  | .hardlink, _ => request.publishHardlinkAt
  | .symlink, some style => request.publishSymlinkAt style
  | _, _ => throw .unsupported

/-! ### Validation and cleanup -/

/-- `_validate_published_target_at`. -/
def validatePublishedTargetAt : Act Fingerprint := do
  request.attempt .validatePublished
  let folder ← get
  match folder request.target with
  | none => throw .fingerprintMismatch
  | some node =>
    refuseIf (request.representation request.mode request.symlinkStyle node = false)
      .fingerprintMismatch
    match request.fingerprintTargetAt (some request.sourcePath) node with
    | none => throw .fingerprintMismatch
    | some fingerprint =>
      refuseIf (fingerprint.content.sha256 ≠ request.sourceFingerprint.sha256)
        .publishValidationFailed
      refuseIf (request.mode = .symlink ∧ fingerprint.content ≠ request.sourceFingerprint)
        .sourceChanged
      pure fingerprint

/-- Whether the target is what was published. -/
def isPublished (published : Published) (node : Node) : Bool :=
  node.identity == published.identity &&
    match published.linkText, node with
    | some text, .symlink _ _ _ found => found == text
    | none, .file file => some (request.sha256 file.bytes) == published.sha256
    | _, _ => false

/-- The body of `_remove_created_target_at`. -/
def removeIfPublished (published : Published) : Act PUnit := do
  request.attempt .cleanupStat
  request.attempt .cleanupRead
  let folder ← get
  match folder request.target with
  | none => pure ⟨⟩
  | some node =>
    if request.isPublished published node = false then pure ⟨⟩
    else do
      request.attempt .cleanupRestat
      request.attempt .cleanupUnlink
      modify fun folder => folder.write request.target none
      request.attempt .cleanupSync

/-- `_remove_created_target_at`: its own failures are passed over. -/
def removeCreatedTargetAt (published : Published) : Act PUnit :=
  conclude (request.removeIfPublished published) (fun _ => pure ⟨⟩) (fun _ => pure ⟨⟩)

/-- What follows the publication while the folder is open. -/
def settle (published : Published) : Act Fingerprint :=
  conclude
    (do
      request.attempt .parentStable
      let fingerprint ← request.validatePublishedTargetAt
      request.attempt .syncParent
      request.attempt .parentStillStable
      pure fingerprint)
    pure
    (fun error => do
      request.removeCreatedTargetAt published
      throw error)

/-- `_recheck_free_destination_at`. -/
def recheckFreeDestinationAt : Act PUnit := do
  request.attempt .recheckFree
  let folder ← get
  refuseIf (request.caseOnlyCollision folder = true) .caseOnly
  refuseIf ((folder request.target).isSome) .destinationExists

/-! ### The whole placement -/

def referenceOnlyResult : PlacementResult where
  issueStoryArcId := request.issueStoryArcId
  libraryFileId := request.libraryFileId
  state := .referenceOnly
  targetPath := none
  mode := .referenceOnly
  ownership := .referenced
  symlinkStyle := none
  renderedReadingOrder := request.readingOrder
  sourceFingerprint := none
  targetFingerprint := none

/-- The folder opened, the target published and validated, the folder closed. -/
def publishInParent : Act Fingerprint := do
  request.attempt .openParent
  request.closing .closeParent do
    request.attempt .cancelInParent
    request.recheckFreeDestinationAt
    let published ← request.publish
    request.settle published

/-- What follows when nothing stands at the target. -/
def placeAnew (preview : Preview) : Act PlacementResult := do
  match preview with
  | .blocked code => throw (.refused code)
  | .noTarget code => throw (.refused code)
  | .represented => throw .previewNotReady
  | .ready => do
      match request.existingManaged.bind request.validateManagedEvidence with
      | some error => throw error
      | none => do
          request.attempt .journalPrepared
          let fingerprint ← request.publishInParent
          request.attempt .journalPublished
          pure (request.result .created fingerprint)

/-- `execute_story_arc_placement`. -/
def execute : Act PlacementResult := do
  refuseIf ((request.mode = .symlink) ≠ (request.symlinkStyle.isSome = true)) .unsupported
  if request.mode = .referenceOnly then do
    refuseIf (request.existingManaged.isSome) .modeChanged
    pure request.referenceOnlyResult
  else do
    request.attempt .cancelAtStart
    let folder ← get
    match request.preview folder with
    | .noTarget code => throw (.refused code)
    | preview => do
        match request.refusal with
        | some error => throw error
        | none => do
            match ← request.resolveExistingTarget with
            | some result => pure result
            | none => request.placeAnew preview

end PlacementRequest

/-! ### Removal -/

/-- The steps of a removal that may fail. -/
inductive RemovalStep where
  | openParent
  | inspect
  | journalPrepared
  | parentStable
  | inspectAgain
  | unlink
  | syncParent
  | parentStillStable
  | closeParent
  | journalRemoved

/-- Why a removal fails. -/
inductive RemovalError where
  | failed (step : RemovalStep)
  | refused (code : String)
  | notManaged
  | fingerprintMismatch

/-- A call of `remove_managed_story_arc_placement`. `refusal` is raised by the checks of the root
and of the spelling of the target. -/
structure RemovalRequest extends Surroundings where
  evidence : ManagedEvidence
  target : String
  canonicalPath : Option String
  refusal : Option RemovalError
  fails : RemovalStep → Bool

/-- `_validate_removal_representation_at`. -/
def removalRepresentation (mode : StoryArcPlacementMode) (node : Node) : Bool :=
  node.identity.kind == if mode = .symlink then .symlink else .file

namespace RemovalRequest

variable (request : RemovalRequest)

def attempt (step : RemovalStep) : Session RemovalError Folder PUnit :=
  refuseIf (request.fails step = true) (.failed step)

/-- Whether the recorded fingerprint is that of an entry. -/
def matchesEvidence (node : Node) : Bool :=
  request.fingerprintTargetAt request.canonicalPath node ==
    some request.evidence.targetFingerprint

/-- The removal of an entry that is there. -/
def removeNode (node : Node) : Session RemovalError Folder PUnit := do
  request.attempt .inspect
  refuseIf (request.matchesEvidence node = false) .fingerprintMismatch
  refuseIf (removalRepresentation request.evidence.mode node = false) .fingerprintMismatch
  request.attempt .journalPrepared
  request.attempt .parentStable
  request.attempt .inspectAgain
  let folder ← get
  refuseIf ((folder request.target).any request.matchesEvidence = false) .fingerprintMismatch
  request.attempt .unlink
  modify fun folder => folder.write request.target none
  request.attempt .syncParent
  request.attempt .parentStillStable

/-- `remove_managed_story_arc_placement`; whether an entry was removed. -/
def remove : Session RemovalError Folder Bool := do
  refuseIf (request.evidence.ownership ≠ .managed ∨ request.evidence.mode = .referenceOnly ∨
    request.evidence.creatingActionId = none) .notManaged
  match request.refusal with
  | some error => throw error
  | none => do
      request.attempt .openParent
      let removed ← conclude
        (do
          let folder ← get
          match folder request.target with
          | none => pure false
          | some node => do
              request.removeNode node
              pure true)
        (fun removed => do request.attempt .closeParent; pure removed)
        (fun error => do request.attempt .closeParent; throw error)
      if removed then request.attempt .journalRemoved
      pure removed

end RemovalRequest

end Pullbox.Arc.Placement
