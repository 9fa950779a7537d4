import Mathlib.Algebra.GroupWithZero.Nat
import Pullbox.Reader.PageNames

/-!
# Pages of a comic archive

The members of an archive are checked against the limits of the reader, the page names among them
are put in order, and each page is read by its name and prepared for the browser. What the archive
and image libraries do is given.
-/

namespace Pullbox.Reader

inductive PageSourceErrorCode where
  | missingFile | unsupportedFormat | formatMismatch | corruptSource | emptySource
  | pageOutOfRange | resourceLimit | rendererUnavailable
deriving DecidableEq

/-- What reading an archive raises. -/
structure PageSourceError where
  code : PageSourceErrorCode
  message : String
deriving DecidableEq

/-- What is raised: a page source error, or an exception that nothing caught. -/
inductive Failure where
  | pageSource (error : PageSourceError)
  | valueError
  | keyError
  | decoder
deriving DecidableEq

/-- The limits of an archive. -/
structure ReaderResourceLimits where
  maxEntries : ℕ := 10000
  maxPageBytes : ℕ := 128 * 1024 * 1024
  maxTotalUncompressedBytes : ℕ := 4 * 1024 * 1024 * 1024
  maxCompressionRatio : ℕ := 250
  compressionRatioMinBytes : ℕ := 4 * 1024 * 1024
  maxImagePixels : ℕ := 80000000
  maxImageEntries : ℕ := 5000
  maxMemberPathChars : ℕ := 1024
  maxMemberDepth : ℕ := 32
  maxRenditionWidth : ℕ := 2560
  maxRenditionHeight : ℕ := 4096

abbrev Data := List UInt8

/-- A member of an archive, and the bytes it has, if they can be read. -/
structure ArchiveMember where
  name : Name
  size : ℕ
  compressedSize : Option ℕ
  isRegularFile : Bool
  isLink : Bool
  bytes : Option Data

/-- An archive: its members in their order, if they can be listed. -/
structure Archive where
  listed : Bool
  members : List ArchiveMember

/-! ### Pillow -/

/-- What Pillow raises: a `DecompressionBombError`, an `OSError`, or anything else. -/
inductive DecodeError where
  | decompressionBomb
  | os
  | other

/-- What is read of an image. -/
structure Image where
  width : ℕ
  height : ℕ
  format : String
  orientation : ℕ
  animated : Bool

/-- Opening an image, verifying it, and saving its rendition for a media type. -/
structure Renderer where
  openImage : Data → Except DecodeError Image
  verify : Data → Except DecodeError Unit
  normalize : String → Data → Except DecodeError Data

/-- The clauses around the decoding. -/
def decodeFailure : DecodeError → Failure
  | .decompressionBomb => .pageSource ⟨.resourceLimit,
      "This comic page has too many pixels to open safely."⟩
  | .os => .pageSource ⟨.corruptSource, "Pullbox could not decode this comic page."⟩
  | .other => .decoder

def expectedFormat : String → Option String
  | "image/jpeg" => some "JPEG"
  | "image/png" => some "PNG"
  | "image/webp" => some "WEBP"
  | "image/gif" => some "GIF"
  | "image/bmp" => some "BMP"
  | "image/tiff" => some "TIFF"
  | _ => none

/-- `_delivery_media_type`. -/
def deliveryMediaType (name : Name) : String :=
  let mediaType := (mediaTypeForName name).getD "application/octet-stream"
  if mediaType = "image/bmp" ∨ mediaType = "image/tiff" then "image/jpeg" else mediaType

def needsNormalization (limits : ReaderResourceLimits) (sourceMediaType : String)
    (image : Image) : Bool :=
  sourceMediaType = "image/bmp" || sourceMediaType = "image/tiff" ||
    some image.format ≠ expectedFormat sourceMediaType || image.orientation ≠ 1 ||
    image.animated || image.width > limits.maxRenditionWidth ||
    image.height > limits.maxRenditionHeight

/-- `_prepare_image_payload`: the media type and the bytes for the browser. -/
def prepareImagePayload (limits : ReaderResourceLimits) (renderer : Renderer) (name : Name)
    (data : Data) : Except Failure (String × Data) :=
  let sourceMediaType := (mediaTypeForName name).getD "application/octet-stream"
  match renderer.openImage data with
  | .error error => .error (decodeFailure error)
  | .ok image =>
    if image.width * image.height > limits.maxImagePixels then
      .error (.pageSource ⟨.resourceLimit, "This comic page has too many pixels to open safely."⟩)
    else if needsNormalization limits sourceMediaType image then
      match renderer.normalize sourceMediaType data with
      | .error error => .error (decodeFailure error)
      | .ok normalizedData =>
        if normalizedData.length > limits.maxPageBytes then
          .error (.pageSource ⟨.resourceLimit,
            "This normalized comic page is too large to open safely."⟩)
        else .ok (deliveryMediaType name, normalizedData)
    else
      match renderer.verify data with
      | .error error => .error (decodeFailure error)
      | .ok () => .ok (sourceMediaType, data)

/-! ### Opening an archive -/

/-- The checks of one member. -/
def checkMember (limits : ReaderResourceLimits) (member : ArchiveMember) :
    Option PageSourceError :=
  let name := normalized member.name
  if unsafePath name then some ⟨.corruptSource, "This comic contains an unsafe archive entry."⟩
  else if name.length > limits.maxMemberPathChars ∨
      (parts name).length > limits.maxMemberDepth then
    some ⟨.resourceLimit,
      "This comic contains an archive path beyond the configured safety limit."⟩
  else none

def regular (member : ArchiveMember) : Bool :=
  member.isRegularFile && !member.isLink

/-- The checks before the names are put in order. -/
def checkMembers (limits : ReaderResourceLimits) (archive : Archive) : Option PageSourceError :=
  if !archive.listed then
    some ⟨.corruptSource, "Pullbox could not read this comic archive."⟩
  else if archive.members.length > limits.maxEntries then
    some ⟨.resourceLimit, "This comic contains too many archive entries to open safely."⟩
  else
    match archive.members.findSome? (checkMember limits) with
    | some error => some error
    | none =>
      if ((archive.members.filter regular).map ArchiveMember.size).sum >
          limits.maxTotalUncompressedBytes then
        some ⟨.resourceLimit, "This comic expands beyond the configured safety limit."⟩
      else none

/-- A page that is large and unusually compressed. -/
def overCompressed (limits : ReaderResourceLimits) (pages : List Name) (member : ArchiveMember) :
    Bool :=
  match member.compressedSize with
  | none => false
  | some compressed =>
    normalized member.name ∈ pages && limits.compressionRatioMinBytes ≤ member.size &&
      member.size > limits.maxCompressionRatio * max 1 compressed

/-- The checks after it. -/
def checkPages (limits : ReaderResourceLimits) (archive : Archive) (pages : List Name) :
    Option PageSourceError :=
  if pages.length > limits.maxImageEntries then
    some ⟨.resourceLimit, "This comic contains too many image pages to open safely."⟩
  else if (archive.members.filter regular).any (overCompressed limits pages) then
    some ⟨.resourceLimit, "This comic contains a large, unusually compressed page that " ++
      "Pullbox will not open safely."⟩
  else if pages = [] then
    some ⟨.emptySource, "Pullbox could not find readable pages in this file."⟩
  else none

/-- A page by its place. -/
structure PageDescriptor where
  index : ℕ
  name : Name
  mediaType : String
deriving DecidableEq

/-- `ArchivePageSource.__init__`: its pages. -/
def archivePageSource (limits : ReaderResourceLimits) (fold : Folding) (archive : Archive) :
    Except Failure (List PageDescriptor) :=
  match checkMembers limits archive with
  | some error => .error (.pageSource error)
  | none =>
    match canonicalPageNames fold ((archive.members.filter regular).map ArchiveMember.name) with
    | none => .error .valueError
    | some names =>
      match checkPages limits archive names with
      | some error => .error (.pageSource error)
      | none => .ok (names.mapIdx fun index name => ⟨index, name, deliveryMediaType name⟩)

/-! ### Reading a page -/

/-- The member of a name, in a dictionary of the members and in the libraries: the last one. -/
def memberNamed (archive : Archive) (name : Name) : Option ArchiveMember :=
  archive.members.reverse.find? fun member => member.name = name

/-- `ArchiveReader.read_file`, with what its errors become; of a member that there is. -/
def readFile (limits : ReaderResourceLimits) (member : ArchiveMember) : Except Failure Data :=
  match member.bytes with
  | none => .error (.pageSource ⟨.corruptSource, "Pullbox could not read this comic page."⟩)
  | some data =>
    if data.length > limits.maxPageBytes then
      .error (.pageSource ⟨.resourceLimit, "This comic page is too large to open safely."⟩)
    else .ok data

/-- A page with its bytes. -/
structure PagePayload where
  index : ℕ
  mediaType : String
  data : Data
deriving DecidableEq

/-- The rendition of the page of a name. -/
def readNamed (limits : ReaderResourceLimits) (renderer : Renderer) (archive : Archive)
    (name : Name) : Except Failure (String × Data) :=
  match memberNamed archive name with
  | none => .error .keyError
  | some member =>
    if member.size > limits.maxPageBytes then
      .error (.pageSource ⟨.resourceLimit, "This comic page is too large to open safely."⟩)
    else
      match readFile limits member with
      | .error failure => .error failure
      | .ok data => prepareImagePayload limits renderer name data

/-- `read_page`. -/
def readPage (limits : ReaderResourceLimits) (renderer : Renderer) (archive : Archive)
    (pages : List PageDescriptor) (index : ℤ) : Except Failure PagePayload :=
  if index < 0 then
    .error (.pageSource ⟨.pageOutOfRange,
      "The requested comic page is outside the available range."⟩)
  else
    match pages[index.toNat]? with
    | none => .error (.pageSource ⟨.pageOutOfRange,
        "The requested comic page is outside the available range."⟩)
    | some descriptor =>
      (readNamed limits renderer archive descriptor.name).map fun rendition =>
        ⟨index.toNat, rendition.1, rendition.2⟩

/-! ### What is promised -/

/-- The members that are pages: regular, not hidden, and images by name. -/
def pageMembers (archive : Archive) : List ArchiveMember :=
  (archive.members.filter regular).filter fun member => (pageName member.name).isSome

/-- Nothing but a page source error is raised. -/
def Safe {Value : Type} : Except Failure Value → Prop
  | .ok _ => True
  | .error (.pageSource _) => True
  | .error _ => False

/-- A page shows its member: what is delivered is made of the bytes of the member. -/
def Shows (limits : ReaderResourceLimits) (renderer : Renderer) (archive : Archive)
    (pages : List PageDescriptor) (page : PageDescriptor) (member : ArchiveMember) : Prop :=
  page.name = normalized member.name ∧ ∀ payload,
    readPage limits renderer archive pages page.index = .ok payload →
      ∃ data, member.bytes = some data ∧
        prepareImagePayload limits renderer page.name data = .ok (payload.mediaType, payload.data)

/-- What holds of an archive that was opened. -/
structure Opened (limits : ReaderResourceLimits) (fold : Folding) (renderer : Renderer)
    (archive : Archive) (pages : List PageDescriptor) : Prop where
  safe : ∀ index, Safe (readPage limits renderer archive pages index)
  shows : ∃ behind : List ArchiveMember, behind.Perm (pageMembers archive) ∧
    List.Forall₂ (Shows limits renderer archive pages) pages behind
  order : ∀ members, members.Perm archive.members → ∀ others,
    archivePageSource limits fold { archive with members } = .ok others →
      others.map PageDescriptor.name = pages.map PageDescriptor.name

/-- What holds of an archive that is read. -/
structure Reads (limits : ReaderResourceLimits) (fold : Folding) (renderer : Renderer)
    (archive : Archive) : Prop where
  safe : Safe (archivePageSource limits fold archive)
  opened : ∀ pages, archivePageSource limits fold archive = .ok pages →
    Opened limits fold renderer archive pages

end Pullbox.Reader
