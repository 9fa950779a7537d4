import Pullbox.Text.Datetime
import Pullbox.Text.Json

/-!
# The signed publication

The publisher is verified before any download coordinates are accepted (`contract.py`). A
publication that is accepted carries its lineage: the latest version is the full snapshot or a
patch of it.
-/

namespace Pullbox.Catalog

open Text

/-- `MAX_MANIFEST_BYTES`. -/
def maxManifestBytes : Nat :=
  1024 * 1024

/-- `MAX_ARTIFACT_BYTES`. -/
def maxArtifactBytes : Int :=
  2 * 1024 ^ 3

/-- The message of a `CatalogError`. -/
abbrev Checked (α : Type) : Type :=
  Except String α

/-- A file that the index offers. -/
structure Artifact where
  version : String
  downloadPath : String
  sha256 : String
  sizeBytes : Int
  baseVersion : Option String := none

/-- The index that is downloaded. -/
structure Publication where
  latestVersion : String
  fullSnapshot : Artifact
  snapshots : List Artifact
  patches : List Artifact

def Publication.latestPatch (publication : Publication) : Option Artifact :=
  publication.patches.find? fun patch =>
    patch.version = publication.latestVersion ∧
      patch.baseVersion = some publication.fullSnapshot.version

/-! ## Versions -/

def isDigit (char : Char) : Bool :=
  (digitValue char).isSome

def within (low high char : Char) : Bool :=
  low ≤ char ∧ char ≤ high

/-- `strptime` of a text of the right shape: its directives take ASCII digits first, and the day
has to exist. -/
def strptime (year month day hour minute second : List Char) : Bool :=
  (month.head? = some '1' ∧ month.getLast?.any (within '0' '2') ∨
    month.head? = some '0' ∧ month.getLast?.any (within '1' '9')) ∧
  (day.head? = some '3' ∧ day.getLast?.any (within '0' '1') ∨ day.head?.any (within '1' '2') ∨
    day.head? = some '0' ∧ day.getLast?.any (within '1' '9')) ∧
  (hour.head? = some '2' ∧ hour.getLast?.any (within '0' '3') ∨ hour.head?.any (within '0' '1')) ∧
  minute.head?.any (within '0' '5') ∧ second.head?.any (within '0' '5') ∧
  1 ≤ decimalValue year ∧ decimalValue day ≤ daysInMonth (decimalValue year) (decimalValue month)

/-- `valid_version` of a text. -/
def validVersion (value : String) : Checked Unit :=
  match value.toList with
  | [y₁, y₂, y₃, y₄, m₁, m₂, d₁, d₂, 'T', h₁, h₂, n₁, n₂, s₁, s₂, 'Z'] =>
    if [y₁, y₂, y₃, y₄, m₁, m₂, d₁, d₂, h₁, h₂, n₁, n₂, s₁, s₂].all isDigit then
      if strptime [y₁, y₂, y₃, y₄] [m₁, m₂] [d₁, d₂] [h₁, h₂] [n₁, n₂] [s₁, s₂] then .ok ()
      else .error "Catalog version is invalid."
    else .error "Catalog version is not supported. Update Pullbox and try again."
  | _ => .error "Catalog version is not supported. Update Pullbox and try again."

/-- `valid_version`. -/
def versionOf (value : Json) : Checked String :=
  match value.text? with
  | some version => (validVersion version).map fun _ => version
  | none => .error "Catalog version is not supported. Update Pullbox and try again."

/-! ## Artifacts -/

/-- `_object`. -/
def objectOf (value : Json) : Checked (List (String × Json)) :=
  match value.object? with
  | some entries => .ok entries
  | none => .error "Catalog manifest is invalid."

/-- `get` of an object, with `None` for a missing key. -/
def field (entries : List (String × Json)) (key : String) : Json :=
  (Json.get? entries key).getD .null

/-- `SHA256`. -/
def isSha256 (text : String) : Bool :=
  text.toList.length = 64 ∧ text.toList.all fun char => within '0' '9' char ∨ within 'a' 'f' char

/-- `_artifact`. -/
def artifactOf (value : Json) (patch : Bool) : Checked Artifact := do
  let item ← objectOf value
  let version ← versionOf (field item (if patch then "target_version" else "version"))
  let base ← if patch then (versionOf (field item "base_version")).map some else .ok none
  let path :=
    match base with
    | some base => "/api/v2/catalog/patches/" ++ base ++ "/" ++ version
    | none => "/api/v2/catalog/snapshots/" ++ version
  match (field item "download_path").text?, (field item "sha256").text?, field item "size_bytes"
  with
  | some given, some checksum, .integer size =>
    if given ≠ path ∨ ¬ isSha256 checksum ∨ ¬ (0 < size ∧ size ≤ maxArtifactBytes) ∨
        base.any (version ≤ ·) then
      .error "Catalog artifact information is invalid."
    else
      .ok { version, downloadPath := path, sha256 := checksum, sizeBytes := size,
            baseVersion := base }
  | _, _, _ => .error "Catalog artifact information is invalid."

/-! ## The lineage -/

/-- `max` of versions. -/
def newest (first : String) (others : List String) : String :=
  others.foldl (fun best version => if best < version then version else best) first

/-- The rules that a publication has to follow. -/
structure Lineage (publication : Publication) : Prop where
  coordinates : ((publication.fullSnapshot :: publication.snapshots ++ publication.patches).map
    Artifact.downloadPath).Nodup
  older : ∀ item ∈ publication.snapshots, item.version < publication.fullSnapshot.version
  bases : ∀ item ∈ publication.patches, item.baseVersion ∈
    (publication.fullSnapshot :: publication.snapshots).map fun entry => some entry.version
  branches : ∀ item ∈ publication.patches,
    item.baseVersion ≠ some publication.fullSnapshot.version →
      item.version < publication.fullSnapshot.version
  latest : publication.latestVersion =
    newest publication.fullSnapshot.version (publication.patches.map Artifact.version)

instance (publication : Publication) : Decidable (Lineage publication) :=
  decidable_of_iff
    (((publication.fullSnapshot :: publication.snapshots ++ publication.patches).map
        Artifact.downloadPath).Nodup ∧
      (∀ item ∈ publication.snapshots, item.version < publication.fullSnapshot.version) ∧
      (∀ item ∈ publication.patches, item.baseVersion ∈
        (publication.fullSnapshot :: publication.snapshots).map fun entry =>
          some entry.version) ∧
      (∀ item ∈ publication.patches,
        item.baseVersion ≠ some publication.fullSnapshot.version →
          item.version < publication.fullSnapshot.version) ∧
      publication.latestVersion =
        newest publication.fullSnapshot.version (publication.patches.map Artifact.version))
    ⟨fun ⟨coordinates, older, bases, branches, latest⟩ =>
      ⟨coordinates, older, bases, branches, latest⟩,
     fun ⟨coordinates, older, bases, branches, latest⟩ =>
      ⟨coordinates, older, bases, branches, latest⟩⟩

/-- A publication that was accepted. -/
structure Signed extends Publication where
  lineage : Lineage toPublication
  available : latestVersion ≠ fullSnapshot.version → toPublication.latestPatch ≠ none

/-- Without a patch the full snapshot is the latest version. -/
theorem Signed.latest_eq (publication : Signed) (none : publication.latestPatch = none) :
    publication.latestVersion = publication.fullSnapshot.version := by
  by_contra different
  exact publication.available different none

/-- The latest patch leads from the full snapshot to the latest version. -/
theorem Publication.latestPatch_spec {publication : Publication} {patch : Artifact}
    (found : publication.latestPatch = some patch) :
    patch.version = publication.latestVersion ∧
      patch.baseVersion = some publication.fullSnapshot.version := by
  simpa using List.find?_some found

/-! ## Verification -/

/-- The readers and keys of `verify_manifest`: `json.loads`, the canonical bytes of a payload
(`none` for a `ValueError`), the digest, and the check of an encoded signature by a known key,
with the message of its failure. -/
structure Trust where
  reader : JsonReader
  canonical : List (String × Json) → Option ByteArray
  sha256 : ByteArray → String
  keys : List String
  verify : String → String → ByteArray → Checked Unit

/-- The artifacts of a list under a key; a missing one is empty. -/
def artifactsOf (payload : List (String × Json)) (key : String) : Checked (List Json) :=
  match ((Json.get? payload key).getD (.array [])).array? with
  | some items => .ok items
  | none => .error "Catalog manifest is invalid."

/-- What `verify_manifest` does after the signature of the payload is verified. -/
def publicationOf (payload : List (String × Json)) : Checked Signed := do
  if (field payload "format_id").text? ≠ some "pullbox-catalog-v2-publication" ∨
      (field payload "schema_version").text? ≠ some "1" then
    .error "Catalog format is not supported. Update Pullbox and try again."
  let full ← artifactOf (field payload "full_snapshot") false
  let snapshotsRaw ← artifactsOf payload "snapshots"
  let patchesRaw ← artifactsOf payload "patches"
  let snapshots ← snapshotsRaw.mapM fun item => artifactOf item false
  let patches ← patchesRaw.mapM fun item => artifactOf item true
  let latest ← versionOf (field payload "latest_version")
  let publication : Publication := ⟨latest, full, snapshots, patches⟩
  if lineage : Lineage publication then
    if available : latest ≠ full.version → publication.latestPatch ≠ none then
      .ok { toPublication := publication, lineage, available }
    else .error "Catalog latest update is unavailable."
  else .error "Catalog update lineage is invalid."

/-- `verify_manifest`. -/
def verifyManifest (trust : Trust) (raw : ByteArray) : Checked Signed := do
  if maxManifestBytes < raw.size then .error "Catalog manifest is too large."
  let some document := trust.reader.loads raw | .error "Catalog manifest is invalid."
  let document ← objectOf document
  let payload ← objectOf (field document "payload")
  let signature ← objectOf (field document "signature")
  let some keyId := (field signature "key_id").text?
    | .error "Unknown catalog signing key. Update Pullbox and try again."
  if keyId ∉ trust.keys then
    .error "Unknown catalog signing key. Update Pullbox and try again."
  let some canonical := trust.canonical payload | .error "Catalog manifest is invalid."
  if (field signature "algorithm").text? ≠ some "Ed25519" ∨
      (field signature "payload_sha256").text? ≠ some (trust.sha256 canonical) then
    .error "Catalog signature verification failed."
  let some encoded := (field signature "value").text?
    | .error "Catalog signature verification failed."
  trust.verify keyId encoded canonical
  publicationOf payload

/-- A manifest that is accepted has at most the allowed size. -/
theorem size_of_verified {trust : Trust} {raw : ByteArray} {publication : Signed}
    (verified : verifyManifest trust raw = .ok publication) : raw.size ≤ maxManifestBytes := by
  by_contra large
  rw [verifyManifest, if_pos (Nat.lt_of_not_le large)] at verified
  cases verified

end Pullbox.Catalog
