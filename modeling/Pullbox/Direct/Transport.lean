import Mathlib.Algebra.Group.Nat.Defs
import Pullbox.Direct.Transfer

/-!
# The HTTP transport of one artifact

The decisions of the transport (how far a partial file may be resumed, whether a response
continues it, when a broken stream is taken up again) and a transfer as steps: a target is
entered and its checkpoint recovered, requests are answered, chunks are written, and the
attempt ends or the process dies. The partial file remembers under which validator each of
its parts was downloaded: the one its response reported, or else the one that was known of the
target.
-/

namespace Pullbox.Direct

/-- What identifies a remote object. -/
structure Validator where
  etag : Option String
  lastModified : Option String
deriving DecidableEq

def ResolvedTransfer.validator (resolved : ResolvedTransfer) : Validator :=
  ⟨resolved.etag, resolved.lastModified⟩

/-- The limits of `ArtifactTransferPolicy` a decision below depends on. -/
structure ArtifactTransferPolicy where
  rangeRequestBytes : Nat := 8 * 1024 ^ 2
  checksumRangeRequestBytes : Nat := 1024 ^ 2
  rangeStallRetries : Nat := 8

/-- A `Content-Range` header: its start where it begins with `bytes <start>-`, its end where
it has the full form, the total after its slash. -/
structure ContentRange where
  start : Option Nat
  stop : Option Nat
  total : Option Nat
deriving DecidableEq

/-- The head of a response; a content length is missing, malformed or a number. -/
structure TransferResponse where
  statusCode : Nat
  etag : Option String := none
  lastModified : Option String := none
  contentRange : Option ContentRange := none
  contentLength : Option (Option Nat) := none

/-- `_EXPIRED_URL_STATUSES`. -/
def expiredUrlStatuses : List Nat := [401, 403, 410]

/-- Python `left or right` of optional strings. -/
def orElse (left right : Option String) : Option String :=
  if truthy left then left else right

/-! ### Decisions -/

/-- `_range_request_bytes`. -/
def rangeRequestBytes (resolved : ResolvedTransfer) (policy : ArtifactTransferPolicy) : Nat :=
  if truthy resolved.checksum && !(truthy resolved.etag || truthy resolved.lastModified) then
    min policy.rangeRequestBytes policy.checksumRangeRequestBytes
  else
    policy.rangeRequestBytes

/-- `_use_bounded_ranges`. -/
def useBoundedRanges (resolved : ResolvedTransfer) (policy : ArtifactTransferPolicy) : Bool :=
  !resolved.preferSingleResponse && resolved.rangeSupported &&
    resolved.expectedSize.any fun size => decide (rangeRequestBytes resolved policy < size)

/-- `validator_matches` of `_eligible_resume_offset`. -/
def validatorMatches (resolved : ResolvedTransfer) (checkpoint : HttpTransferCheckpoint) : Bool :=
  truthy checkpoint.etag && checkpoint.etag == resolved.etag ||
    truthy checkpoint.lastModified && checkpoint.lastModified == resolved.lastModified

/-- `checksum_protected` of `_eligible_resume_offset`. -/
def checksumProtected (resolved : ResolvedTransfer) (checkpoint : HttpTransferCheckpoint) :
    Bool :=
  truthy resolved.checksum && resolved.expectedSize.isSome &&
    checkpoint.expectedSize == resolved.expectedSize

/-- `_eligible_resume_offset`. -/
def eligibleResumeOffset (resolved : ResolvedTransfer) :
    Option HttpTransferCheckpoint → Nat
  | none => 0
  | some checkpoint =>
    if resolved.rangeSupported &&
        (validatorMatches resolved checkpoint || checksumProtected resolved checkpoint) then
      checkpoint.bytesTransferred
    else
      0

/-- A transfer is taken up again from its beginning or from its checkpoint. -/
theorem eligibleResumeOffset_cases (resolved : ResolvedTransfer)
    (checkpoint : Option HttpTransferCheckpoint) :
    eligibleResumeOffset resolved checkpoint = 0 ∨
      ∃ kept, checkpoint = some kept ∧
        eligibleResumeOffset resolved checkpoint = kept.bytesTransferred := by
  cases checkpoint with
  | none => exact .inl rfl
  | some kept =>
    simp only [eligibleResumeOffset]
    split
    · exact .inr ⟨kept, rfl, rfl⟩
    · exact .inl rfl

/-- Two header values that are both present and differ. -/
def contradicts (known answered : Option String) : Bool :=
  truthy known && truthy answered && known != answered

/-- `_valid_partial_response`. -/
def validPartialResponse (response : TransferResponse) (resumeOffset : Nat) :
    Option HttpTransferCheckpoint → Bool
  | none => false
  | some checkpoint =>
    response.statusCode == 206 &&
      (response.contentRange.bind (·.start)) == some resumeOffset &&
      !contradicts checkpoint.etag response.etag &&
      !contradicts checkpoint.lastModified response.lastModified

/-- `_valid_bounded_response`. -/
def validBoundedResponse (response : TransferResponse) (rangeStart rangeEnd total : Nat)
    (validator : Validator) : Bool :=
  response.statusCode == 206 &&
    response.contentRange == some ⟨some rangeStart, some rangeEnd, some total⟩ &&
    (response.contentLength.all fun length => length == some (rangeEnd - rangeStart + 1)) &&
    !contradicts validator.etag response.etag &&
    !contradicts validator.lastModified response.lastModified

/-- What a response reports of its object, and otherwise what was known of it. -/
def TransferResponse.validator (response : TransferResponse) (known : Validator) : Validator :=
  ⟨orElse response.etag known.etag, orElse response.lastModified known.lastModified⟩

/-- `_response_total`. -/
def responseTotal (response : TransferResponse) (resumeOffset : Nat) : Option Nat :=
  (response.contentRange.bind (·.total)).orElse fun _ =>
    (response.contentLength.bind id).map (resumeOffset + ·)

/-- `_can_retry_range_failure` of a broken or idle stream. -/
def canRetryRangeFailure (resolved : ResolvedTransfer) (retries : Nat)
    (policy : ArtifactTransferPolicy) : Bool :=
  truthy resolved.checksum && decide (retries < policy.rangeStallRetries)

/-- `_validate_refreshed_identity`; the host is compared by the caller. -/
def refreshedIdentity (original refreshed : ResolvedTransfer) (sameHost : Bool) : Bool :=
  sameHost &&
    (original.expectedSize.isNone || refreshed.expectedSize == original.expectedSize) &&
    (!truthy original.checksum || refreshed.checksum == original.checksum) &&
    (!original.rangeSupported || refreshed.rangeSupported)

/-- Whether `_http_status_error` lets the download be tried again. -/
def retryableStatus (status : Nat) : Bool :=
  decide (status ∈ expiredUrlStatuses) || status == 429 || decide (500 ≤ status ∧ status < 600)

/-! ### A transfer -/

/-- Bytes of the partial file and the validator they were downloaded under. -/
structure Segment where
  validator : Validator
  bytes : Content

/-- The bytes of a partial file. -/
def bytesOf (segments : List Segment) : Content :=
  segments.flatMap (·.bytes)

/-- `_transfer_bounded_ranges` or `_transfer_with_response_recovery`. -/
inductive TransferMode where
  | bounded | single
deriving DecidableEq

/-- The variables of a transfer between two responses. -/
structure TransferRun where
  resolved : ResolvedTransfer
  active : ResolvedTransfer
  checkpoint : Option HttpTransferCheckpoint
  mode : TransferMode
  /-- `resume_offset`, or `transferred` of the bounded loop. -/
  offset : Nat
  refreshed : Bool
  restartedBadRange : Bool
  retries : Nat
  /-- `etag` and `last_modified` of the bounded loop. -/
  validator : Validator
deriving DecidableEq

/-- The variables of an open response body. -/
structure TransferStream where
  /-- The last byte of a bounded range. -/
  rangeEnd : Option Nat
  expected : Option Nat
  transferred : Nat
  validator : Validator
deriving DecidableEq

/-- Where the transfer of the artifact stands. -/
inductive TransferPhase where
  | idle
  /-- `_enter_downloading` committed this target. -/
  | entered (resolved : ResolvedTransfer)
  /-- The checkpoint is recovered. -/
  | ready (resolved : ResolvedTransfer) (checkpoint : Option HttpTransferCheckpoint)
  | requesting (run : TransferRun)
  | streaming (run : TransferRun) (stream : TransferStream)
deriving DecidableEq

/-- The artifact row and partial file, which last, and the transfer of this process. -/
structure TransportSystem where
  artifact : DirectArtifactAttempt
  partialFile : Option (List Segment)
  phase : TransferPhase

/-- One step of a transfer, or what befalls it. -/
inductive TransportEvent where
  | enter (resolved : ResolvedTransfer)
  | recover
  /-- The transport starts, on an expired target after a refresh. -/
  | start (refreshed : Option (ResolvedTransfer × Bool))
  | respond (response : TransferResponse)
  /-- An expired URL is answered by a refresh; `none` where that failed for now. -/
  | renew (refreshed : Option (ResolvedTransfer × Bool))
  /-- A chunk is read; the write may take fewer bytes than it has. -/
  | chunk (bytes : Content) (written : Option Nat := none)
  /-- A progress callback stores the size it knows. -/
  | report (total : Option Nat)
  /-- The body, or the range, ended. -/
  | complete
  /-- The host went away or idle while a request or a body was open. -/
  | breakOff (refreshed : Option (ResolvedTransfer × Bool))
  | fail (retryable : Bool)
  | pause | cancel | crash
  /-- A transfer over the bridge, which starts from nothing. -/
  | bridge (bytes : Content)
  | finalize (suffix : ComicSuffix) (result : ArtifactTransferResult)
  | discard

namespace TransportSystem

variable (dates : HttpDates) (policy : ArtifactTransferPolicy)

/-- The parts of the partial file, in their order. -/
def segments (system : TransportSystem) : List Segment :=
  system.partialFile.getD []

/-- The end of an attempt by an error: only a retryable one keeps the partial file. -/
def failed (system : TransportSystem) (retryable : Bool) : TransportSystem :=
  { system with
    partialFile := if retryable then system.partialFile else none
    phase := .idle }

/-- `transfer` up to its first request. -/
def begin (system : TransportSystem) (active : ResolvedTransfer)
    (checkpoint : Option HttpTransferCheckpoint) : TransportSystem :=
  { system with
    phase := .requesting
      { resolved := active
        active := active
        checkpoint := checkpoint
        mode := if useBoundedRanges active policy then .bounded else .single
        offset := eligibleResumeOffset active checkpoint
        refreshed := false
        restartedBadRange := false
        retries := 0
        validator := active.validator } }

/-- `_refresh_range_source`: the target the bounded loop goes on with. -/
def refreshRangeSource (run : TransferRun) :
    Option (ResolvedTransfer × Bool) → Option ResolvedTransfer
  | none => some run.active
  | some (refreshed, sameHost) =>
    if refreshedIdentity run.resolved refreshed sameHost then some refreshed else none

/-- `open_quarantine_file` and the stream it is written from. -/
def opened (system : TransportSystem) (run : TransferRun) (offset : Nat) (rangeEnd : Option Nat)
    (expected : Option Nat) (validator : Validator) : TransportSystem :=
  { system with
    partialFile := some (if 0 < offset then system.segments else [])
    phase := .streaming run
      { rangeEnd := rangeEnd
        expected := expected
        transferred := offset
        validator := validator } }

/-- `_stream_response` up to its first chunk. -/
def streamResponse (system : TransportSystem) (run : TransferRun) (response : TransferResponse)
    (offset : Nat) : TransportSystem :=
  let expected := (responseTotal response offset).orElse fun _ => run.active.expectedSize
  if run.active.expectedSize.isSome && expected.isSome && run.active.expectedSize != expected then
    system.failed true
  else
    system.opened { run with offset := offset } offset none expected
      (response.validator run.active.validator)

/-- A response of `_transfer_with_response_recovery`. -/
def respondSingle (system : TransportSystem) (run : TransferRun) (response : TransferResponse) :
    TransportSystem :=
  if 0 < run.offset ∧ validPartialResponse response run.offset run.checkpoint = false then
    if response.statusCode = 200 then
      system.streamResponse run response 0
    else if run.restartedBadRange = false then
      { system with phase := .requesting { run with offset := 0, restartedBadRange := true } }
    else
      system.failed true
  else if run.offset = 0 ∧ response.statusCode ≠ 200 then
    system.failed (retryableStatus response.statusCode)
  else
    system.streamResponse run response run.offset

/-- A response of `_transfer_bounded_ranges`. -/
def respondBounded (system : TransportSystem) (run : TransferRun) (total : Nat)
    (response : TransferResponse) : TransportSystem :=
  let rangeEnd := min (total - 1) (run.offset + rangeRequestBytes run.resolved policy - 1)
  if response.statusCode = 200 then
    -- a host that ignores ranges: the whole object from byte zero
    system.streamResponse run response 0
  else if validBoundedResponse response run.offset rangeEnd total run.validator = false then
    system.failed true
  else
    let validator := response.validator run.validator
    system.opened { run with validator := validator } run.offset (some rangeEnd) (some total)
      validator

/-- A body that broke off in the bounded loop. -/
def breakOffBounded (system : TransportSystem) (run : TransferRun) (position : Nat)
    (refreshed : Option (ResolvedTransfer × Bool)) : TransportSystem :=
  if canRetryRangeFailure run.resolved run.retries policy = false then
    system.failed true
  else
    match refreshRangeSource run refreshed with
    | none => system.failed true
    | some active =>
      { system with
        phase := .requesting
          { run with active := active, offset := position, retries := run.retries + 1 } }

/-- A body that broke off in the response recovery: the partial file becomes the checkpoint
of the next request. -/
def breakOffSingle (system : TransportSystem) (run : TransferRun) (stream : TransferStream) :
    TransportSystem :=
  let size := (bytesOf system.segments).length
  if !run.active.preferSingleResponse || !canRetryRangeFailure run.active run.retries policy then
    system.failed true
  else if size < run.offset ∨
      (run.active.expectedSize.any fun expected => decide (expected < size)) = true then
    system.failed true
  else
    let checkpoint : HttpTransferCheckpoint :=
      { bytesTransferred := size
        expectedSize := run.active.expectedSize
        etag := stream.validator.etag
        lastModified := stream.validator.lastModified }
    { system with
      phase := .requesting
        { run with
          checkpoint := some checkpoint
          offset := eligibleResumeOffset run.active (some checkpoint)
          retries := run.retries + 1 } }

/-- One event; `none` where it cannot happen. -/
def apply (system : TransportSystem) : TransportEvent → Option TransportSystem
  | .enter resolved =>
    if system.phase = .idle then
      some { system with
        artifact := system.artifact.enterDownloading dates resolved
        phase := .entered resolved }
    else
      none
  | .recover =>
    match system.phase with
    | .entered resolved =>
      let recovered := recoverHttpCheckpoint dates (system.partialFile.map bytesOf)
        system.artifact resolved
      some
        { artifact :=
            { system.artifact with bytesTransferred := recovered.bytesTransferred }
          partialFile := if recovered.removePartial then none else system.partialFile
          phase := .ready resolved recovered.checkpoint }
    | _ => none
  | .start refreshed =>
    match system.phase, refreshed with
    | .ready resolved checkpoint, none => some (system.begin policy resolved checkpoint)
    | .ready resolved checkpoint, some (active, sameHost) =>
      if refreshedIdentity resolved active sameHost then
        some (system.begin policy active checkpoint)
      else
        some (system.failed true)
    | _, _ => none
  | .respond response =>
    match system.phase with
    | .requesting run =>
      if response.statusCode ∈ expiredUrlStatuses then
        none
      else
        match run.mode, run.resolved.expectedSize with
        | .single, _ => some (system.respondSingle run response)
        | .bounded, some total =>
          if run.offset < total then
            some (system.respondBounded policy run total response)
          else
            none
        | .bounded, none => none
    | _ => none
  | .renew refreshed =>
    match system.phase with
    | .requesting run =>
      match run.mode with
      | .single =>
        match refreshed with
        | none => some (system.failed true)
        | some (active, sameHost) =>
          if run.refreshed = false ∧
              refreshedIdentity run.resolved active sameHost = true then
            some { system with
              phase := .requesting
                { run with
                  active := active
                  offset := eligibleResumeOffset active run.checkpoint
                  refreshed := true } }
          else
            some (system.failed true)
      | .bounded =>
        if run.retries < policy.rangeStallRetries then
          match refreshRangeSource run refreshed with
          | none => some (system.failed true)
          | some active =>
            some { system with
              phase := .requesting
                { run with active := active, retries := run.retries + 1 } }
        else
          some (system.failed true)
    | _ => none
  | .chunk bytes written =>
    match system.phase with
    | .streaming run stream =>
      let transferred := stream.transferred + bytes.length
      if bytes = [] then
        some system
      else if stream.rangeEnd.any fun last => decide (last + 1 < transferred) then
        some (system.failed true)
      else
        let stored := bytes.take (written.getD bytes.length)
        some { system with
          partialFile := some (system.segments ++ [⟨stream.validator, stored⟩])
          phase := .streaming run { stream with transferred := transferred } }
    | _ => none
  | .report total =>
    match system.phase with
    | .requesting _ | .streaming _ _ =>
      some { system with artifact := { system.artifact with expectedSize := total } }
    | _ => none
  | .complete =>
    match system.phase with
    | .streaming run stream =>
      match stream.rangeEnd with
      | some last =>
        if stream.transferred = last + 1 then
          some { system with
            phase := .requesting
              { run with offset := stream.transferred, retries := 0 } }
        else
          some (system.failed true)
      | none =>
        if stream.expected.all fun expected => decide (stream.transferred = expected) then
          some { system with phase := .idle }
        else
          some (system.failed true)
    | .requesting run =>
      -- the bounded loop is over
      if run.mode = .bounded ∧
          (run.resolved.expectedSize.any fun total => decide (total ≤ run.offset)) = true then
        some { system with phase := .idle }
      else
        none
    | _ => none
  | .breakOff refreshed =>
    match system.phase with
    | .requesting run =>
      match run.mode with
      | .single => some (system.failed true)
      | .bounded => some (system.breakOffBounded policy run run.offset refreshed)
    | .streaming run stream =>
      match stream.rangeEnd with
      | none =>
        match run.mode with
        | .single => some (system.breakOffSingle policy run stream)
        | .bounded => some (system.failed true)
      | some last =>
        let size := (bytesOf system.segments).length
        if size < run.offset ∨ last + 1 < size then
          some (system.failed true)
        else
          some (system.breakOffBounded policy run size refreshed)
    | _ => none
  | .fail retryable => some (system.failed retryable)
  | .pause =>
    match system.phase with
    | .streaming _ stream =>
      some
        { artifact :=
            { system.artifact with
              bytesTransferred := stream.transferred
              expectedSize := stream.expected
              etag := stream.validator.etag
              lastModifiedAt := dates.parseLastModified stream.validator.lastModified }
          partialFile := system.partialFile
          phase := .idle }
    | _ => none
  | .cancel => some (system.failed false)
  | .crash => some { system with phase := .idle }
  | .bridge bytes =>
    if system.phase = .idle then
      some
        { artifact :=
            { system.artifact with
              bytesTransferred := 0
              etag := none
              lastModifiedAt := none }
          partialFile := some [⟨⟨none, none⟩, bytes⟩]
          phase := .idle }
    else
      none
  | .finalize suffix result =>
    if system.phase = .idle then
      some
        { artifact := system.artifact.finalized dates suffix result
          partialFile := none
          phase := .idle }
    else
      none
  | .discard =>
    if system.phase = .idle then some { system with partialFile := none } else none

end TransportSystem

/-- The step relation of a transfer. -/
def TransportStep (dates : HttpDates) (policy : ArtifactTransferPolicy) (event : TransportEvent)
    (system after : TransportSystem) : Prop :=
  system.apply dates policy event = some after

end Pullbox.Direct
