import Pullbox.Files.Pure
import Pullbox.Text.Percent
import Pullbox.Text.Words

/-!
# The MEGA bridge

The host writes one request to the bridge, a process of its own, and reads a line for each event.
The process, its time limits and the MEGA library are left out.
-/

namespace Pullbox.Mega

open Files Nat Text

/-- The bytes of a text. -/
def utf8 (text : List Char) : List UInt8 :=
  (encode text).data.toList

/-- The text of bytes, if they are UTF-8. -/
def fromUtf8 (raw : List UInt8) : Option (List Char) :=
  decode ⟨raw.toArray⟩

/-- The bytes of ASCII. -/
def ascii (text : List Char) : List UInt8 :=
  text.map Bytes.ord

/-! ## The request -/

/-- `_PROTOCOL_HEADER`, without its line feed. -/
def protocolHeader : List Char :=
  "PULLBOX_MEGA_BRIDGE 1".toList

/-- `_MAX_REQUEST_FIELD_BYTES` of the host and `kMaxFieldBytes` of the bridge. -/
def maxRequestFieldBytes : Nat :=
  16 * 1024

/-- `_validate_request_field`, which raises. -/
def validRequestField (value : List Char) (allowEmpty : Bool) : Bool :=
  (allowEmpty || utf8 value != []) && (utf8 value).length ≤ maxRequestFieldBytes &&
    !value.contains (Char.ofNat 0)

/-- `lengths` of `_send_request`. -/
def lengthsLine (link session destination : List UInt8) : List Char :=
  "DOWNLOAD ".toList ++ toDigits 10 link.length ++ ' ' :: toDigits 10 session.length ++
    ' ' :: toDigits 10 destination.length

/-- What `_send_request` writes. -/
def sendRequest (publicLink session destination : List Char) : List UInt8 :=
  let linkBytes := utf8 publicLink
  let sessionBytes := utf8 session
  let destinationBytes := utf8 destination
  ascii protocolHeader ++ [10] ++ ascii (lengthsLine linkBytes sessionBytes destinationBytes) ++
    [10] ++ linkBytes ++ sessionBytes ++ destinationBytes

/-- What the bridge reads of a request. -/
structure BridgeRequest where
  link : List UInt8
  accountSession : List UInt8
  destination : List UInt8

/-- `std::getline`, which fails where nothing is left. -/
def getline (stream : List UInt8) : Option (List UInt8 × List UInt8) :=
  if stream = [] then none
  else some (stream.takeWhile (· ≠ 10), (stream.dropWhile (· ≠ 10)).drop 1)

/-- White space between the fields that `>>` reads. -/
def isFieldSpace (byte : UInt8) : Bool :=
  byte = 32 ∨ 9 ≤ byte ∧ byte ≤ 13

/-- What `>>` reads of a line until it fails. -/
def lineFields (line : List UInt8) : List (List UInt8) :=
  (line.splitOnP isFieldSpace).filter (· ≠ [])

def parseSize (raw : List UInt8) : Option Nat :=
  if raw = [] ∨ 10 < raw.length ∨ raw.all Bytes.isDigit = false then none
  else if maxRequestFieldBytes < Bytes.decimalValue raw then none
  else some (Bytes.decimalValue raw)

def readExact (length : Nat) (stream : List UInt8) : Option (List UInt8 × List UInt8) :=
  if length ≤ stream.length then some (stream.take length, stream.drop length) else none

def readBridgeRequest (stream : List UInt8) : Option BridgeRequest := do
  let (header, stream) ← getline stream
  if header ≠ ascii protocolHeader then none
  else
    let (line, stream) ← getline stream
    match lineFields line with
    | [operation, linkLengthRaw, sessionLengthRaw, destinationLengthRaw] =>
      if operation ≠ ascii "DOWNLOAD".toList then none
      else
        let linkLength ← parseSize linkLengthRaw
        if linkLength = 0 then none
        else
          let sessionLength ← parseSize sessionLengthRaw
          let destinationLength ← parseSize destinationLengthRaw
          if destinationLength = 0 then none
          else
            let (link, stream) ← readExact linkLength stream
            let (accountSession, stream) ← readExact sessionLength stream
            let (destination, _) ← readExact destinationLength stream
            if 0 ∈ link ∨ 0 ∈ accountSession ∨ 0 ∈ destination then none
            else
              some {
                link := link
                accountSession := accountSession
                destination := destination }
    | _ => none

/-! ## The lines of the bridge -/

def emitLine (value : List Char) : List UInt8 :=
  ascii value ++ [10]

/-- The `META` line of `transferNode`. -/
def metaLine (size : Nat) (name : List UInt8) : List UInt8 :=
  emitLine ("META ".toList ++ toDigits 10 size ++ ' ' :: hexEncode name)

/-- The line of `onTransferUpdate`. -/
def progressLine (transferred total : Nat) : List UInt8 :=
  emitLine ("PROGRESS ".toList ++ toDigits 10 transferred ++ ' ' :: toDigits 10 total)

/-- The `COMPLETE` line of `transferNode`. -/
def completeLine (bytes : Nat) (name : List UInt8) : List UInt8 :=
  emitLine ("COMPLETE ".toList ++ toDigits 10 bytes ++ ' ' :: hexEncode name)

/-- A boolean as the bridge writes it. -/
def flag (value : Bool) : List Char :=
  if value then ['1'] else ['0']

/-- `emitError`. -/
def errorLine (code : List Char) (retryable intervention : Bool) : List UInt8 :=
  emitLine ("ERROR ".toList ++ code ++ ' ' :: flag retryable ++ ' ' :: flag intervention)

/-- The errors of the MEGA library that the bridge tells apart. -/
inductive MegaError where
  | overQuota | badSession | access | noEntry | key | badArguments | tooMany | tooManyConnections
  | internal | again | other

/-- `errorCodeFor`. -/
def errorCodeFor (error : MegaError) (accountSession : Bool) : List Char :=
  match error with
  | .overQuota => "mega_quota_exceeded".toList
  | .badSession => "mega_session_expired".toList
  | .access =>
    if accountSession then "mega_auth_required".toList else "mega_link_unavailable".toList
  | .noEntry => "mega_link_unavailable".toList
  | .key | .badArguments => "mega_link_invalid".toList
  | .tooMany | .tooManyConnections => "mega_rate_limited".toList
  | .internal | .again | .other => "mega_host_unavailable".toList

def isRetryable : MegaError → Bool
  | .overQuota | .tooMany | .tooManyConnections | .internal | .again => true
  | _ => false

def isIntervention : MegaError → Bool
  | .badSession | .access | .noEntry | .key | .badArguments => true
  | _ => false

/-- The errors that the bridge reports. -/
inductive BridgeFailure where
  | host (error : MegaError) (accountSession : Bool)
  | requestTimeout | linkInvalid | linkUnavailable | folderAmbiguous | internal | cancelled
  | outputMissing | protocolError | destinationInvalid | cacheUnavailable

namespace BridgeFailure

def code : BridgeFailure → List Char
  | host error accountSession => errorCodeFor error accountSession
  | requestTimeout => "mega_request_timeout".toList
  | linkInvalid => "mega_link_invalid".toList
  | linkUnavailable => "mega_link_unavailable".toList
  | folderAmbiguous => "mega_folder_ambiguous".toList
  | internal => "mega_bridge_internal".toList
  | cancelled => "mega_transfer_cancelled".toList
  | outputMissing => "mega_bridge_output_missing".toList
  | protocolError => "mega_bridge_protocol_error".toList
  | destinationInvalid => "mega_bridge_destination_invalid".toList
  | cacheUnavailable => "mega_bridge_cache_unavailable".toList

def retryable : BridgeFailure → Bool
  | host error _ => isRetryable error
  | requestTimeout | internal | outputMissing | cacheUnavailable => true
  | _ => false

def intervention : BridgeFailure → Bool
  | host error _ => isIntervention error
  | linkInvalid | linkUnavailable | folderAmbiguous | protocolError | destinationInvalid => true
  | _ => false

/-- The line of one failure. -/
def line (failure : BridgeFailure) : List UInt8 :=
  errorLine failure.code failure.retryable failure.intervention

end BridgeFailure

/-! ## Events -/

/-- What the host reads of a line of the bridge. -/
inductive BridgeEvent where
  | metadata (size : Nat) (filename : Option (List Char))
  | progress (current total : Nat)
  | complete (size : Nat) (filename : Option (List Char))
  | error (code : List Char) (retryable intervention : Bool)
deriving DecidableEq

/-- What follows the last slash, as `safe_filename` reads it. -/
def lastComponent (name : List Char) : List Char :=
  strip (PurePath.finalName name)

/-- A name that `safe_filename` refuses. -/
def unusableName (name : List Char) : Bool :=
  name = [] ∨ name = ['.'] ∨ name = ['.', '.'] ∨ 255 < name.length ∨
    name.any fun char => char.toNat < 32 ∨ char.toNat = 127

/-- `safe_filename`. -/
def safeFilename (rawName : List Char) : Option (List Char) :=
  let name := lastComponent
    ((strip (unquote rawName)).map fun char => if char = '\\' then '/' else char)
  if unusableName name then none else some name

/-- `_decode_filename`, which raises a `ValueError`. -/
def decodeFilename (value : List Char) : Option (Option (List Char)) :=
  if 510 < value.length ∨ value.length % 2 ≠ 0 then none
  else do
    let raw ← fromHex value
    let decoded ← fromUtf8 raw
    some (safeFilename decoded)

/-- The digits that `int` reads at most. -/
def maxIntegerDigits : Nat :=
  4300

/-- Ten tebibytes. -/
def maxEventSize : Nat :=
  10 * 1024 ^ 4

/-- `_positive_integer`, which raises a `ValueError`. -/
def positiveInteger (value : List Char) : Option Nat :=
  if value = [] ∨ value.all Char.isDigit = false then none
  else if maxIntegerDigits < value.length then none
  else if maxEventSize < ofDigitChars 10 value 0 then none
  else some (ofDigitChars 10 value 0)

def isCodeTail (char : Char) : Bool :=
  'a' ≤ char ∧ char ≤ 'z' ∨ '0' ≤ char ∧ char ≤ '9' ∨ char = '_'

/-- `_ERROR_CODE`. -/
def isErrorCode : List Char → Bool
  | [] => false
  | first :: rest => 'a' ≤ first ∧ first ≤ 'z' ∧ rest.length ≤ 99 ∧ rest.all isCodeTail

/-- `_parse_event` of what is between white space. -/
def parseParts : List (List Char) → Option BridgeEvent
  | [event, first, second] =>
    if event = "META".toList then do
      let size ← positiveInteger first
      let filename ← decodeFilename second
      some (.metadata size filename)
    else if event = "PROGRESS".toList then do
      let current ← positiveInteger first
      let total ← positiveInteger second
      if total < current then none else some (.progress current total)
    else if event = "COMPLETE".toList then do
      let size ← positiveInteger first
      let filename ← decodeFilename second
      some (.complete size filename)
    else none
  | [event, code, retryable, intervention] =>
    if event = "ERROR".toList ∧ isErrorCode code = true then
      if retryable ∉ [['0'], ['1']] ∨ intervention ∉ [['0'], ['1']] then none
      else some (.error code (retryable = ['1']) (intervention = ['1']))
    else none
  | _ => none

/-- `_parse_event`, which raises a protocol error. -/
def parseEvent (rawLine : List UInt8) : Option BridgeEvent :=
  if rawLine.all (· < 128) then parseParts (words (strip (rawLine.map Bytes.chr))) else none

end Pullbox.Mega
