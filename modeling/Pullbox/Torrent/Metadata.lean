import Pullbox.Text.Decimal

/-!
# Torrent descriptors

`core/torrent_metadata.py`: a scanner walks over the bencoded bytes of a descriptor by position and
finds where the value of `info` stands; its bytes are hashed as they are.
-/

namespace Pullbox.Torrent

open Text.Bytes (ord isDigit decimalValue)

/-- The `ValueError`s of the scanner. -/
inductive TorrentError where
  | notDictionary
  | duplicateInfo
  | truncatedDescriptor
  | missingInfo
  | invalidNesting
  | unterminatedInteger
  | invalidInteger
  | invalidValue
  | unterminatedCollection
  | invalidByteString
  | invalidLength
  | truncatedByteString

def TorrentError.message : TorrentError → String
  | .notDictionary => "torrent descriptor must be a dictionary"
  | .duplicateInfo => "torrent descriptor has duplicate info dictionaries"
  | .truncatedDescriptor => "torrent descriptor is truncated or has trailing data"
  | .missingInfo => "torrent descriptor has no info dictionary"
  | .invalidNesting => "invalid bencode nesting"
  | .unterminatedInteger => "unterminated bencoded integer"
  | .invalidInteger => "invalid bencoded integer"
  | .invalidValue => "invalid bencoded value"
  | .unterminatedCollection => "unterminated bencoded collection"
  | .invalidByteString => "invalid bencoded byte string"
  | .invalidLength => "invalid bencoded byte-string length"
  | .truncatedByteString => "truncated bencoded byte string"

/-- A position behind another one. -/
abbrev After (index : Nat) :=
  {stop : Nat // index < stop}

/-- `content[start:stop]`. -/
def slice (content : List UInt8) (start stop : Nat) : List UInt8 :=
  (content.take stop).drop start

/-- `content.find(byte, start)`. -/
def find (content : List UInt8) (byte : UInt8) (start : Nat) : Option {place : Nat // start ≤ place} :=
  ((content.drop start).findIdx? (· == byte)).map fun offset =>
    ⟨start + offset, Nat.le_add_right start offset⟩

/-- What `_parse_bencoded_bytes` accepts as a length. -/
def isLength (rawLength : List UInt8) : Bool :=
  !(rawLength == [] || !rawLength.all isDigit ||
    (1 < rawLength.length && rawLength.head? == some (ord '0')))

/-- What `_skip_bencoded_value` accepts between the letters of an integer. -/
def isInteger (value : List UInt8) : Bool :=
  let digits := if value.head? == some (ord '-') then value.drop 1 else value
  !(digits == [] || !digits.all isDigit ||
    (1 < digits.length && digits.head? == some (ord '0')) || value == [ord '-', ord '0'])

/-- `_parse_bencoded_bytes`. A length of more than 4300 digits, which `int` refuses with a
`ValueError` of its own, is past the end of all bytes. -/
def parseBencodedBytes (content : List UInt8) (index : Nat) :
    Except TorrentError (List UInt8 × After index) :=
  match find content (ord ':') index with
  | none => .error .invalidByteString
  | some ⟨colon, later⟩ =>
    let rawLength := slice content index colon
    if isLength rawLength then
      let start := colon + 1
      let stop := start + decimalValue rawLength
      if content.length < stop then .error .truncatedByteString
      else .ok (slice content start stop, ⟨stop, by omega⟩)
    else
      .error .invalidLength

/-- The key of an entry is passed over, where there is one. -/
def skipKey (content : List UInt8) (keyed : Bool) (cursor : Nat) :
    Except TorrentError {value : Nat // cursor ≤ value} :=
  if keyed then
    (parseBencodedBytes content cursor).map fun parsed => ⟨parsed.2.1, Nat.le_of_lt parsed.2.2⟩
  else
    .ok ⟨cursor, Nat.le_refl cursor⟩

mutual

/-- `_skip_bencoded_value`. -/
def skipBencodedValue (content : List UInt8) (index depth : Nat) :
    Except TorrentError (After index) :=
  if outside : 100 < depth ∨ content.length ≤ index then
    .error .invalidNesting
  else
    let marker := content.getD index 0
    if isDigit marker then
      (parseBencodedBytes content index).map Prod.snd
    else if marker = ord 'i' then
      match find content (ord 'e') (index + 1) with
      | none => .error .unterminatedInteger
      | some ⟨stop, later⟩ =>
        if isInteger (slice content (index + 1) stop) then .ok ⟨stop + 1, by omega⟩
        else .error .invalidInteger
    else if marker = ord 'l' ∨ marker = ord 'd' then
      (skipItems content (marker == ord 'd') (index + 1) depth).map fun stop =>
        ⟨stop.1, by have := stop.2; omega⟩
    else
      .error .invalidValue
termination_by 2 * (content.length - index)

/-- The loop over the items of a list or the entries of a dictionary. -/
def skipItems (content : List UInt8) (keyed : Bool) (cursor depth : Nat) :
    Except TorrentError (After cursor) :=
  if outside : content.length ≤ cursor then
    .error .unterminatedCollection
  else if content.getD cursor 0 = ord 'e' then
    .ok ⟨cursor + 1, Nat.lt_succ_self cursor⟩
  else do
    let ⟨value, later⟩ ← skipKey content keyed cursor
    let ⟨next, further⟩ ← skipBencodedValue content value (depth + 1)
    let ⟨stop, last⟩ ← skipItems content keyed next depth
    .ok ⟨stop, by omega⟩
termination_by 2 * (content.length - cursor) + 1

end

/-- The loop of `_top_level_info_span`: where it ends, and where `info` stands. -/
def scanEntries (content : List UInt8) (index : Nat) (infoSpan : Option (Nat × Nat)) :
    Except TorrentError (Nat × Option (Nat × Nat)) :=
  if content.length ≤ index then
    .ok (index, infoSpan)
  else if content.getD index 0 = ord 'e' then
    .ok (index, infoSpan)
  else do
    let ⟨key, valueStart, _⟩ ← parseBencodedBytes content index
    let ⟨next, _⟩ ← skipBencodedValue content valueStart 1
    if key = "info".toList.map ord then
      if infoSpan.isSome then .error .duplicateInfo
      else scanEntries content next (some (valueStart, next))
    else
      scanEntries content next infoSpan
termination_by content.length - index

/-- `_top_level_info_span`. -/
def topLevelInfoSpan (content : List UInt8) : Except TorrentError (Nat × Nat) :=
  if content.head? = some (ord 'd') then do
    let (index, infoSpan) ← scanEntries content 1 none
    if content.length ≤ index ∨ content.getD index 0 ≠ ord 'e' ∨ index + 1 ≠ content.length then
      .error .truncatedDescriptor
    else
      match infoSpan with
      | none => .error .missingInfo
      | some span => if content.getD span.1 0 = ord 'd' then .ok span else .error .missingInfo
  else
    .error .notDictionary

/-- `torrent_info_hashes`, by the two hash functions. -/
def torrentInfoHashes {Digest : Type} (sha1 sha256 : List UInt8 → Digest) (content : List UInt8) :
    Except TorrentError (List Digest) :=
  (topLevelInfoSpan content).map fun span =>
    let info := slice content span.1 span.2
    [sha1 info, sha256 info]

end Pullbox.Torrent
