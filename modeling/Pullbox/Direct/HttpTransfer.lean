import Pullbox.Async.Loop
import Pullbox.Direct.ContentRange
import Pullbox.Files.Tiling

/-!
# One HTTP transfer and its result

`HttpArtifactTransport.transfer` as a function of what its environment answers: each request is
answered with a head, the parts of a body that were read and how it ended, and a refreshed target
where one is asked for. The partial file is kept as its pieces, each with the place in the object
that its response gave it.

The file is open without a buffer, and nobody looks at the count that a write returns: a chunk may
be written in part and is counted whole. A write that raises ends the body. A progress callback
returns.
-/

namespace Pullbox.Direct

open Async (Pass loop)
open Files (Piece contents)

/-! ### Errors -/

/-- A failed transfer, with its class. -/
structure ArtifactTransferError where
  code : String
  message : String
  failureClass : DirectArtifactFailureClass
  retryable : Bool
  intervention : Bool
deriving DecidableEq

/-- A passing trouble of the host: it may be tried again, and nobody has to step in. -/
def transientHostError (code message : String) : ArtifactTransferError where
  code := code
  message := message
  failureClass := .transientHost
  retryable := true
  intervention := false

/-- A refusal that is about this machine: it is not tried again, and somebody has to step in. -/
def safetyError (code message : String) : ArtifactTransferError where
  code := code
  message := message
  failureClass := .safety
  retryable := false
  intervention := true

/-- `_artifact_host_unavailable_error`. -/
def artifactHostUnavailableError : ArtifactTransferError :=
  transientHostError "artifact_host_unavailable" "The artifact host is temporarily unavailable."

/-- `_object_changed_error`. -/
def objectChangedError : ArtifactTransferError :=
  transientHostError "artifact_object_changed" "The remote artifact changed during transfer."

/-- `_timeout_error`. -/
def timeoutError (code : String) : ArtifactTransferError :=
  transientHostError code "The artifact transfer stopped making progress."

def urlExpiredError : ArtifactTransferError :=
  transientHostError "artifact_url_expired" "The artifact URL expired and must be resolved again."

/-- `_http_status_error`. -/
def httpStatusError (statusCode : Nat) : ArtifactTransferError :=
  if statusCode ∈ expiredUrlStatuses then
    urlExpiredError
  else if statusCode = 429 then
    transientHostError "artifact_host_rate_limited" "The artifact host is temporarily rate limited."
  else
    { code := "artifact_host_download_failed"
      message := "The artifact host did not return a downloadable file."
      failureClass := .permanentMirror
      retryable := decide (500 ≤ statusCode ∧ statusCode < 600)
      intervention := decide (statusCode < 500) }

def unsafeDestinationError : ArtifactTransferError :=
  safetyError "unsafe_quarantine_destination" "The artifact destination is outside its safe quarantine."

/-- `open_quarantine_file` could not open its file. -/
def unwritableDestinationError : ArtifactTransferError :=
  safetyError "artifact_quarantine_unwritable"
    "Pullbox could not write to its direct-download quarantine."

def quarantineWriteFailedError : ArtifactTransferError :=
  safetyError "artifact_quarantine_write_failed"
    "Pullbox could not finish writing to its direct-download quarantine."

def artifactTooLargeError : ArtifactTransferError :=
  safetyError "artifact_too_large" "The artifact exceeds the configured transfer size limit."

def diskSpaceUnavailableError : ArtifactTransferError :=
  safetyError "artifact_disk_space_unavailable" "Pullbox could not verify quarantine disk space."

def diskSpaceInsufficientError : ArtifactTransferError :=
  safetyError "artifact_disk_space_insufficient"
    "The direct-download quarantine does not have enough free space."

def checksumInvalidError : ArtifactTransferError where
  code := "artifact_checksum_invalid"
  message := "The artifact provider returned an unsupported checksum."
  failureClass := .permanentMirror
  retryable := false
  intervention := true

def checksumMismatchError : ArtifactTransferError :=
  transientHostError "artifact_checksum_mismatch"
    "The downloaded artifact did not match its expected checksum."

/-- What a transfer raises. -/
inductive TransferFailure where
  | error (error : ArtifactTransferError)
  | cancelled
  | paused (checkpoint : HttpTransferCheckpoint)
  | osError
  /-- The task is shut down, or an exception came through that the transport does not know. -/
  | unhandled

/-! ### Targets, limits and checks -/

/-- A resolved transfer with what only the transport reads of it. -/
structure HttpSource extends ResolvedTransfer where
  hostKind : DirectArtifactHostKind
  expiresAt : Option Instant := none
  /-- `filename_from_url`. -/
  urlFilename : Option String := none
deriving DecidableEq

/-- The limits of `ArtifactTransferPolicy` and what its constructor has checked. -/
structure HttpTransferPolicy extends ArtifactTransferPolicy where
  maxArtifactBytes : Nat := 10 * 1024 ^ 4
  minFreeBytes : Nat := 256 * 1024 ^ 2
  rangeRequestBytes_pos : 0 < rangeRequestBytes := by decide
  checksumRangeRequestBytes_pos : 0 < checksumRangeRequestBytes := by decide

/-- `_is_expired`. -/
def HttpSource.isExpired (source : HttpSource) (now : Instant) : Bool :=
  source.expiresAt.any fun expiresAt => decide (expiresAt ≤ now)

/-- `validate_expected_size`; a size is no negative number. -/
def validateExpectedSize (size : Option Nat) (policy : HttpTransferPolicy) :
    Except TransferFailure Unit :=
  if size.any fun size => decide (policy.maxArtifactBytes < size) then
    .error (.error artifactTooLargeError)
  else
    .ok ()

/-- `check_disk_budget`; `free` is what the disk answers. -/
def checkDiskBudget (free expectedSize : Option Nat) (existingSize : Nat)
    (policy : HttpTransferPolicy) : Except TransferFailure Nat :=
  match free with
  | none => .error (.error diskSpaceUnavailableError)
  | some free =>
    if free < expectedSize.getD 0 - existingSize + policy.minFreeBytes then
      .error (.error diskSpaceInsufficientError)
    else
      .ok free

/-- The supported algorithms and the length of their digests. -/
def expectedLengths : List (List Char × Nat) :=
  [("md5".toList, 32), ("sha256".toList, 64)]

/-- `parse_checksum`. -/
def parseChecksum : Option String → Except TransferFailure (Option (List Char × List Char))
  | none => .ok none
  | some value =>
    match partition ':' ((Text.strip value.toList).map Char.toLower) with
    | none => .error (.error checksumInvalidError)
    | some (algorithm, expected) =>
      if expectedLengths.lookup algorithm = some expected.length ∧
          expected.all (fun char => decide (char ∈ "0123456789abcdef".toList)) then
        .ok (some (algorithm, expected))
      else
        .error (.error checksumInvalidError)

/-- `hashlib`: the digest of content by the name of an algorithm, in lower-case hexadecimal. -/
abbrev Digests := List Char → Content → List Char

/-- `verify_checksum` up to the removal of a file that does not match. -/
def verifyChecksum (digests : Digests) (content : Content) (checksum : Option String) :
    Except TransferFailure Unit :=
  match parseChecksum checksum with
  | .error failure => .error failure
  | .ok none => .ok ()
  | .ok (some (algorithm, expected)) =>
    if digests algorithm content = expected then .ok () else .error (.error checksumMismatchError)

/-- What asking for a refreshed target gives. -/
inductive Refresh where
  /-- There is no callback to ask. -/
  | missing
  | failed (error : ArtifactTransferError)
  | answered (source : HttpSource)
  | unhandled
deriving DecidableEq

/-- `_refresh_or_raise`. -/
def Refresh.orRaise : Refresh → Except TransferFailure HttpSource
  | .missing => .error (.error urlExpiredError)
  | .failed error => .error (.error error)
  | .answered source => .ok source
  | .unhandled => .error .unhandled

/-- `_validate_refreshed_identity`. -/
def validateRefreshedIdentity (original refreshed : HttpSource) : Except TransferFailure Unit := do
  let _ ← parseChecksum refreshed.checksum
  if refreshedIdentity original.toResolvedTransfer refreshed.toResolvedTransfer
      (decide (original.hostKind = refreshed.hostKind)) then
    .ok ()
  else
    .error (.error objectChangedError)

/-- A refreshed target that may take the place of the original. -/
def takeRefreshed (policy : HttpTransferPolicy) (original refreshed : HttpSource) :
    Except TransferFailure HttpSource := do
  validateRefreshedIdentity original refreshed
  validateExpectedSize refreshed.expectedSize policy
  .ok refreshed

/-! ### What the environment answers -/

/-- The partial file: its pieces in their order. -/
abbrev PartialFile := Option (List (Piece UInt8))

/-- A part of a body as it was read, the free disk space where that is asked for, and how many of
its bytes the write takes, where it does not take all. -/
structure BodyChunk where
  bytes : Content
  free : Option Nat := none
  written : Option Nat := none

/-- What reaches the file. -/
def BodyChunk.stored (chunk : BodyChunk) : Content :=
  chunk.bytes.take (chunk.written.getD chunk.bytes.length)

/-- How reading or writing a body is broken off. -/
inductive BodyFailure where
  | idleTimeout | totalTimeout | unavailable | cancelled | paused | osError | unhandled

/-- The answer to one request. -/
structure Exchange where
  /-- `_open_response`; `none` where its time is over. -/
  opened : Except (Option TransferFailure) HttpResponse
  /-- The quarantine file can be opened. -/
  writable : Bool := true
  /-- The free disk space before the body is read. -/
  free : Option Nat := none
  body : List BodyChunk := []
  /-- What ends the body after these chunks; `none` is its end. -/
  ending : Option BodyFailure := none
  refresh : Refresh := .missing

/-- What the transport returns or raises, and the partial file it leaves. -/
structure TransferEnd where
  outcome : Except TransferFailure ArtifactTransferResult
  file : PartialFile

/-- Raise and leave the partial file as it is. -/
def raised (failure : TransferFailure) (file : PartialFile) : TransferEnd :=
  ⟨.error failure, file⟩

/-- `open_quarantine_file`: the pieces that are still there once the file is open. -/
def openQuarantineFile (file : PartialFile) (append : Bool) : List (Piece UInt8) :=
  if append then file.getD [] else []

/-- What a broken body raises, with the checkpoint a pause hands out. -/
def BodyFailure.failure (checkpoint : HttpTransferCheckpoint) : BodyFailure → TransferFailure
  | .idleTimeout => .error (timeoutError "artifact_transfer_idle_timeout")
  | .totalTimeout => .error (timeoutError "artifact_transfer_total_timeout")
  | .unavailable => .error artifactHostUnavailableError
  | .cancelled => .cancelled
  | .paused => .paused checkpoint
  | .osError => .osError
  | .unhandled => .unhandled

/-- `_can_retry_range_failure`. -/
def TransferFailure.canRetry (failure : TransferFailure) (resolved : ResolvedTransfer)
    (retries : Nat) (policy : HttpTransferPolicy) : Bool :=
  match failure with
  | .error classified =>
    decide (classified.code ∈ ["artifact_host_unavailable", "artifact_transfer_idle_timeout"]) &&
      classified.retryable && canRetryRangeFailure resolved retries policy.toArtifactTransferPolicy
  | _ => false

/-- The end of a body: none of its chunks is left. -/
def endOfBody (ending : Option BodyFailure) (checkpoint : HttpTransferCheckpoint)
    (good : Bool) (transferred : Nat) : Except TransferFailure Nat :=
  match ending with
  | some broken => .error (broken.failure checkpoint)
  | none => if good then .ok transferred else .error (.error objectChangedError)

/-! ### Bodies -/

/-- What the two loops over a body have in common: `place` is where the next byte stands in the
object, `refuse` what is raised instead of writing a chunk, and `full` whether no more is read. -/
def receive (refuse : Nat → BodyChunk → Option TransferFailure) (full : Nat → Bool)
    (atEnd : Nat → Except TransferFailure Nat) :
    Nat → Nat → List (Piece UInt8) → List BodyChunk →
      Except TransferFailure Nat × List (Piece UInt8)
  | transferred, _, pieces, [] => (atEnd transferred, pieces)
  | transferred, place, pieces, chunk :: rest =>
    if chunk.bytes = [] then
      receive refuse full atEnd transferred place pieces rest
    else
      match refuse transferred chunk with
      | some failure => (.error failure, pieces)
      | none =>
        let next := transferred + chunk.bytes.length
        let written := pieces ++ [⟨place, chunk.stored⟩]
        if full next then
          (.ok next, written)
        else
          receive refuse full atEnd next (place + chunk.bytes.length) written rest

/-- `_stream_bounded_response`. -/
def streamBoundedResponse (exchange : Exchange) (response : HttpResponse) (file : PartialFile)
    (rangeStart rangeEnd total : Nat) (validator : Validator) :
    Except TransferFailure Nat × PartialFile :=
  if exchange.writable then
    let checkpoint (transferred : Nat) : HttpTransferCheckpoint :=
      { bytesTransferred := transferred
        expectedSize := some total
        etag := validator.etag
        lastModified := validator.lastModified }
    let refuse (transferred : Nat) (chunk : BodyChunk) : Option TransferFailure :=
      if rangeEnd + 1 < transferred + chunk.bytes.length then
        some (.error objectChangedError)
      else
        none
    -- a finite range is complete once every promised byte is present
    let full (transferred : Nat) : Bool := decide (transferred = rangeEnd + 1)
    let atEnd (transferred : Nat) : Except TransferFailure Nat :=
      endOfBody exchange.ending (checkpoint transferred) (full transferred) transferred
    let (outcome, pieces) := receive refuse full atEnd rangeStart response.firstByte
      (openQuarantineFile file (decide (0 < rangeStart))) exchange.body
    (outcome, some pieces)
  else
    (.error (.error unwritableDestinationError), file)

/-- What `_stream_response` raises instead of writing a chunk; the ceiling is there where the size
is unknown. -/
def refuseChunk (policy : HttpTransferPolicy) (ceiling : Option Nat) (transferred : Nat)
    (chunk : BodyChunk) : Option TransferFailure :=
  let next := transferred + chunk.bytes.length
  if policy.maxArtifactBytes < next then
    some (.error artifactTooLargeError)
  else
    match ceiling with
    | none => none
    | some ceiling =>
      if ceiling < next then
        some (.error diskSpaceInsufficientError)
      else
        match checkDiskBudget chunk.free (some next) transferred policy with
        | .error failure => some failure
        | .ok _ => none

/-- `_stream_response`. -/
def streamResponse (policy : HttpTransferPolicy) (exchange : Exchange) (response : HttpResponse)
    (source : HttpSource) (file : PartialFile) (resumeOffset : Nat) :
    Except TransferFailure ArtifactTransferResult × PartialFile :=
  let expected := (response.total resumeOffset).orElse fun _ => source.expectedSize
  match validateExpectedSize expected policy with
  | .error failure => (.error failure, file)
  | .ok _ =>
    if source.expectedSize.isSome && expected.isSome && source.expectedSize != expected then
      (.error (.error objectChangedError), file)
    else
      match checkDiskBudget exchange.free expected resumeOffset policy with
      | .error failure => (.error failure, file)
      | .ok freeAtStart =>
        let ceiling :=
          if expected.isNone then some (resumeOffset + (freeAtStart - policy.minFreeBytes))
          else none
        let etag := orElse response.etag source.etag
        let lastModified := orElse response.lastModified source.lastModified
        if exchange.writable then
          let atEnd (transferred : Nat) : Except TransferFailure Nat :=
            endOfBody exchange.ending ⟨transferred, expected, etag, lastModified⟩
              (expected.all fun expected => decide (transferred = expected)) transferred
          let (outcome, pieces) := receive (refuseChunk policy ceiling) (fun _ => false) atEnd
            resumeOffset response.firstByte
            (openQuarantineFile file (decide (0 < resumeOffset))) exchange.body
          match outcome with
          | .error failure => (.error failure, some pieces)
          | .ok transferred =>
            (.ok
              { bytesTransferred := transferred
                expectedSize := expected
                etag := etag
                lastModified := lastModified
                filenameHint :=
                  orElse response.filename (orElse source.filenameHint source.urlFilename) },
              some pieces)
        else
          (.error (.error unwritableDestinationError), file)

/-! ### One response for the whole object -/

/-- The variables of `_transfer_with_response_recovery`. -/
structure ResponseRecovery where
  active : HttpSource
  checkpoint : Option HttpTransferCheckpoint
  resumeOffset : Nat
  refreshed : Bool
  restartedBadRange : Bool
  streamRetries : Nat
  file : PartialFile

/-- The body of a response that is taken, and what follows from its failure. -/
def recoverStream (policy : HttpTransferPolicy) (state : ResponseRecovery) (exchange : Exchange)
    (response : HttpResponse) (resumeOffset : Nat) : Pass ResponseRecovery TransferEnd :=
  match streamResponse policy exchange response state.active state.file resumeOffset with
  | (.ok result, file) => .done ⟨.ok result, file⟩
  | (.error failure, file) =>
    if !state.active.preferSingleResponse ||
        !failure.canRetry state.active.toResolvedTransfer state.streamRetries policy then
      .done (raised failure file)
    else
      let partialSize := (contents (file.getD [])).length
      if partialSize < resumeOffset ∨
          (state.active.expectedSize.any fun size => decide (size < partialSize)) = true then
        .done (raised (.error objectChangedError) file)
      else
        let checkpoint : HttpTransferCheckpoint :=
          { bytesTransferred := partialSize
            expectedSize := state.active.expectedSize
            etag := orElse response.etag state.active.etag
            lastModified := orElse response.lastModified state.active.lastModified }
        .again { state with
          checkpoint := some checkpoint
          resumeOffset :=
            eligibleResumeOffset state.active.toResolvedTransfer (some checkpoint)
          streamRetries := state.streamRetries + 1
          file := file }

/-- One pass of `_transfer_with_response_recovery`. -/
def recoverResponse (policy : HttpTransferPolicy) (resolved : HttpSource)
    (state : ResponseRecovery) (exchange : Exchange) : Pass ResponseRecovery TransferEnd :=
  match exchange.opened with
  | .error none =>
    .done (raised (.error (timeoutError "artifact_transfer_total_timeout")) state.file)
  | .error (some failure) => .done (raised failure state.file)
  | .ok response =>
    if response.statusCode ∈ expiredUrlStatuses ∧ exchange.refresh ≠ .missing then
      if state.refreshed then
        .done (raised (.error (httpStatusError response.statusCode)) state.file)
      else
        match exchange.refresh.orRaise.bind (takeRefreshed policy resolved) with
        | .error failure => .done (raised failure state.file)
        | .ok active =>
          .again { state with
            active := active
            resumeOffset := eligibleResumeOffset active.toResolvedTransfer state.checkpoint
            refreshed := true }
    else if 0 < state.resumeOffset ∧
        response.validPartial state.resumeOffset state.checkpoint = false then
      if response.statusCode = 200 then
        recoverStream policy state exchange response 0
      else if state.restartedBadRange = false then
        .again { state with resumeOffset := 0, restartedBadRange := true }
      else
        .done (raised (.error objectChangedError) state.file)
    else if state.resumeOffset = 0 ∧ response.statusCode ≠ 200 then
      .done (raised (.error (httpStatusError response.statusCode)) state.file)
    else
      recoverStream policy state exchange response state.resumeOffset

/-- `_transfer_with_response_recovery`. -/
def transferWithResponseRecovery (policy : HttpTransferPolicy) (resolved : HttpSource)
    (checkpoint : Option HttpTransferCheckpoint) (file : PartialFile) (answers : List Exchange) :
    Option TransferEnd :=
  loop (fun _ => none) (recoverResponse policy resolved)
    { active := resolved
      checkpoint := checkpoint
      resumeOffset := eligibleResumeOffset resolved.toResolvedTransfer checkpoint
      refreshed := false
      restartedBadRange := false
      streamRetries := 0
      file := file }
    answers

/-! ### Bounded ranges -/

/-- The variables of `_transfer_bounded_ranges`. -/
structure BoundedRanges where
  active : HttpSource
  transferred : Nat
  validator : Validator
  filename : Option String
  rangeRetries : Nat
  file : PartialFile

/-- `_refresh_range_source`. -/
def refreshedRangeSource (policy : HttpTransferPolicy) (original active : HttpSource) :
    Refresh → Except TransferFailure HttpSource
  | .missing => .ok active
  | .failed error => if error.retryable then .ok active else .error (.error error)
  | .answered refreshed => takeRefreshed policy original refreshed
  | .unhandled => .error .unhandled

/-- Another attempt at a range, on a refreshed source. -/
def retryRange (policy : HttpTransferPolicy) (resolved : HttpSource) (state : BoundedRanges)
    (refresh : Refresh) : Pass BoundedRanges TransferEnd :=
  match refreshedRangeSource policy resolved state.active refresh with
  | .error failure => .done (raised failure state.file)
  | .ok active => .again { state with active := active, rangeRetries := state.rangeRetries + 1 }

/-- One pass of `_transfer_bounded_ranges`, for the range up to `rangeEnd`. -/
def transferRange (policy : HttpTransferPolicy) (resolved : HttpSource) (total rangeEnd : Nat)
    (state : BoundedRanges) (exchange : Exchange) : Pass BoundedRanges TransferEnd :=
  match exchange.opened with
  | .error failure =>
    let error := failure.getD (.error artifactHostUnavailableError)
    if error.canRetry resolved.toResolvedTransfer state.rangeRetries policy then
      retryRange policy resolved state exchange.refresh
    else
      .done (raised error state.file)
  | .ok response =>
    if response.statusCode ∈ expiredUrlStatuses then
      if exchange.refresh = .missing ∨ policy.rangeStallRetries ≤ state.rangeRetries then
        .done (raised (.error (httpStatusError response.statusCode)) state.file)
      else
        retryRange policy resolved state exchange.refresh
    else if response.statusCode = 200 then
      -- a host that stops honoring ranges is still safe to use from byte zero
      let (outcome, file) := streamResponse policy exchange response state.active state.file 0
      .done ⟨outcome, file⟩
    else if response.validBounded state.transferred rangeEnd total state.validator = false then
      .done (raised (.error objectChangedError) state.file)
    else
      let validator : Validator :=
        ⟨orElse response.etag state.validator.etag,
          orElse response.lastModified state.validator.lastModified⟩
      let taken : BoundedRanges :=
        { state with
          validator := validator
          filename := orElse response.filename state.filename }
      match streamBoundedResponse exchange response state.file state.transferred rangeEnd total
          validator with
      | (.ok transferred, file) =>
        .again { taken with transferred := transferred, rangeRetries := 0, file := file }
      | (.error failure, file) =>
        if failure.canRetry resolved.toResolvedTransfer state.rangeRetries policy then
          let partialSize := (contents (file.getD [])).length
          if partialSize < state.transferred ∨ rangeEnd + 1 < partialSize then
            .done (raised (.error objectChangedError) file)
          else
            retryRange policy resolved { taken with transferred := partialSize, file := file }
              exchange.refresh
        else
          .done (raised failure file)

/-- The last byte that the next range asks for. -/
def rangeEnd (policy : HttpTransferPolicy) (resolved : HttpSource) (total transferred : Nat) : Nat :=
  min (total - 1)
    (transferred + rangeRequestBytes resolved.toResolvedTransfer policy.toArtifactTransferPolicy - 1)

/-- The loop is over once everything is there. -/
def rangesOver (total : Nat) (state : BoundedRanges) : Option TransferEnd :=
  if state.transferred < total then
    none
  else
    some
      { outcome := .ok
          { bytesTransferred := state.transferred
            expectedSize := some total
            etag := state.validator.etag
            lastModified := state.validator.lastModified
            filenameHint := state.filename }
        file := state.file }

/-- `_transfer_bounded_ranges` of a known size. -/
def transferBoundedRanges (policy : HttpTransferPolicy) (resolved : HttpSource) (total : Nat)
    (checkpoint : Option HttpTransferCheckpoint) (file : PartialFile) (answers : List Exchange) :
    Option TransferEnd :=
  loop (rangesOver total)
    (fun state exchange =>
      transferRange policy resolved total (rangeEnd policy resolved total state.transferred) state
        exchange)
    { active := resolved
      transferred := eligibleResumeOffset resolved.toResolvedTransfer checkpoint
      validator := resolved.validator
      filename := orElse resolved.filenameHint resolved.urlFilename
      rangeRetries := 0
      file := file }
    answers

/-! ### A transfer -/

/-- The arguments of `transfer` and what it finds when it starts. -/
structure HttpTransfer where
  source : HttpSource
  checkpoint : Option HttpTransferCheckpoint
  /-- The regular file at the destination. -/
  existing : Option Content
  /-- The destination is confined to its root and is no link. -/
  confined : Bool := true
  free : Option Nat
  now : Instant
  /-- What a target that has expired already is refreshed to. -/
  refresh : Refresh := .missing

/-- `_validate_checkpoint`. -/
def validateCheckpoint (existing : Option Content) :
    Option HttpTransferCheckpoint → Except TransferFailure Unit
  | none => .ok ()
  | some checkpoint =>
    if existing.map List.length = some checkpoint.bytesTransferred then
      .ok ()
    else
      .error (.error objectChangedError)

/-- `validate_quarantine_file`. -/
def validateQuarantineFile (confined : Bool) (existing : Option Content) (allowExisting : Bool) :
    Except TransferFailure Unit :=
  if confined && (existing.isNone || allowExisting) then
    .ok ()
  else
    .error (.error unsafeDestinationError)

namespace HttpTransfer

/-- The partial file that a transfer finds: its bytes begin the object. -/
def found (transfer : HttpTransfer) : PartialFile :=
  transfer.existing.map fun content => [⟨0, content⟩]

/-- `transfer` up to its first request: the target it goes to. -/
def prepare (policy : HttpTransferPolicy) (transfer : HttpTransfer) :
    Except TransferFailure HttpSource := do
  validateQuarantineFile transfer.confined transfer.existing transfer.checkpoint.isSome
  validateExpectedSize transfer.source.expectedSize policy
  let _ ← parseChecksum transfer.source.checksum
  validateCheckpoint transfer.existing transfer.checkpoint
  let _ ← checkDiskBudget transfer.free transfer.source.expectedSize
    ((transfer.checkpoint.map (·.bytesTransferred)).getD 0) policy
  if transfer.source.isExpired transfer.now then
    transfer.refresh.orRaise.bind (takeRefreshed policy transfer.source)
  else
    .ok transfer.source

/-- The requests of a transfer. -/
def download (policy : HttpTransferPolicy) (transfer : HttpTransfer) (active : HttpSource)
    (answers : List Exchange) : Option TransferEnd :=
  match active.expectedSize with
  | some total =>
    if useBoundedRanges active.toResolvedTransfer policy.toArtifactTransferPolicy then
      transferBoundedRanges policy active total transfer.checkpoint transfer.found answers
    else
      transferWithResponseRecovery policy active transfer.checkpoint transfer.found answers
  | none =>
    transferWithResponseRecovery policy active transfer.checkpoint transfer.found answers

/-- The handlers of `transfer`: which failures remove the partial file. -/
def settle : TransferFailure → PartialFile → TransferEnd
  | .cancelled, _ => raised .cancelled none
  | .paused checkpoint, file => raised (.paused checkpoint) file
  | .error error, file => raised (.error error) (if error.retryable then file else none)
  | .osError, _ => raised (.error quarantineWriteFailedError) none
  | .unhandled, file => raised .unhandled file

/-- `transfer`; `none` as long as more answers are needed. -/
def run (policy : HttpTransferPolicy) (digests : Digests) (transfer : HttpTransfer)
    (answers : List Exchange) : Option TransferEnd :=
  match transfer.prepare policy with
  | .error failure => some (raised failure transfer.found)
  | .ok active =>
    (transfer.download policy active answers).map fun last =>
      match last.outcome with
      | .error failure => settle failure last.file
      | .ok result =>
        match verifyChecksum digests (contents (last.file.getD [])) active.checksum with
        | .ok _ => ⟨.ok result, last.file⟩
        | .error failure => raised failure none

end HttpTransfer

end Pullbox.Direct
