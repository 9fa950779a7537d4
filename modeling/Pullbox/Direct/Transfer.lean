import Pullbox.Direct.Quarantine

/-!
# What a transfer reads from and writes to the artifact row

The resolved target of a host, the resumable checkpoint, and the two places where the
coordinator moves a remote validator (entity tag, modification date) between them and
the artifact row.
-/

namespace Pullbox.Direct

inductive ArtifactTransferProtocol where
  | https | megaBridge
deriving DecidableEq

/-- The fields of a resolved transfer the coordinator and the transport decide on. -/
structure ResolvedTransfer where
  expectedSize : Option Nat := none
  checksum : Option String := none
  etag : Option String := none
  lastModified : Option String := none
  filenameHint : Option String := none
  rangeSupported : Bool := false
  preferSingleResponse : Bool := false
  transportProtocol : ArtifactTransferProtocol := .https
deriving DecidableEq

/-- Persistable identity and byte state of one partial HTTP transfer. -/
structure HttpTransferCheckpoint where
  bytesTransferred : Nat
  expectedSize : Option Nat
  etag : Option String
  lastModified : Option String
deriving DecidableEq

/-- What a transfer returns. -/
structure ArtifactTransferResult where
  bytesTransferred : Nat
  expectedSize : Option Nat
  etag : Option String
  lastModified : Option String
  filenameHint : Option String

/-- `_parse_last_modified` and `_format_last_modified`: how HTTP dates reach the row and
come back. Nothing is assumed about them. -/
structure HttpDates where
  parse : String → Option Instant
  format : Instant → String

/-- `_parse_last_modified` of an optional header. -/
def HttpDates.parseLastModified (dates : HttpDates) (value : Option String) : Option Instant :=
  value.bind fun text => if text = "" then none else dates.parse text

/-- `_format_last_modified` of an optional row value. -/
def HttpDates.formatLastModified (dates : HttpDates) (value : Option Instant) : Option String :=
  value.map dates.format

/-- Python truth of an optional string. -/
def truthy (value : Option String) : Bool :=
  match value with
  | none => false
  | some text => text ≠ ""

/-- The row fields `_enter_downloading` overwrites with the newly resolved target. -/
def DirectArtifactAttempt.enterDownloading (artifact : DirectArtifactAttempt)
    (dates : HttpDates) (resolved : ResolvedTransfer) : DirectArtifactAttempt :=
  { artifact with
    quarantinePath := some .payloadPart
    expectedSize := resolved.expectedSize.orElse fun _ => artifact.expectedSize
    etag := resolved.etag
    lastModifiedAt := dates.parseLastModified resolved.lastModified }

/-- The row fields recorded once the payload carries its final name. -/
def DirectArtifactAttempt.finalized (artifact : DirectArtifactAttempt) (dates : HttpDates)
    (suffix : ComicSuffix) (result : ArtifactTransferResult) : DirectArtifactAttempt :=
  { artifact with
    quarantinePath := some (.artifact suffix)
    bytesTransferred := result.bytesTransferred
    expectedSize := result.expectedSize
    etag := result.etag
    lastModifiedAt := dates.parseLastModified result.lastModified }

/-- What `_recover_http_checkpoint` decides: the bytes recorded on the row, whether the
partial file is removed, and the checkpoint handed to the transport. -/
structure RecoveredCheckpoint where
  bytesTransferred : Nat
  removePartial : Bool
  checkpoint : Option HttpTransferCheckpoint

/-- `identity_protected` of `_recover_http_checkpoint`. -/
def identityProtected (artifact : DirectArtifactAttempt) (resolved : ResolvedTransfer) : Bool :=
  truthy artifact.etag || artifact.lastModifiedAt.isSome ||
    (resolved.rangeSupported && truthy resolved.checksum && resolved.expectedSize.isSome &&
      artifact.expectedSize == resolved.expectedSize)

/-- `_recover_http_checkpoint` for a partial file that is missing or regular. -/
def recoverHttpCheckpoint (dates : HttpDates) (partialFile : Option Content)
    (artifact : DirectArtifactAttempt) (resolved : ResolvedTransfer) : RecoveredCheckpoint :=
  match partialFile with
  | none => ⟨0, false, none⟩
  | some content =>
    if content = [] ∨ identityProtected artifact resolved = false then
      ⟨0, true, none⟩
    else
      ⟨content.length, false,
        some
          { bytesTransferred := content.length
            expectedSize := artifact.expectedSize
            etag := artifact.etag
            lastModified := dates.formatLastModified artifact.lastModifiedAt }⟩

end Pullbox.Direct
