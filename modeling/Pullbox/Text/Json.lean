import Mathlib.Data.Rat.Floor
import Pullbox.Text.Characters

/-!
# JSON values as `json.loads` returns them

An object keeps the last value of each key; the conversions are those of the built-in types.
-/

namespace Text

open List Nat Option

/-- The values of JSON. -/
inductive Json where
  | null
  | boolean (value : Bool)
  | integer (value : Int)
  | real (value : Rat)
  | text (value : String)
  | array (items : List Json)
  | object (entries : List (String × Json))

/-- The integer that digits spell, with single underscores between them. -/
def magnitude (digits : List Char) : Option Nat :=
  let separated := digits.splitOn '_'
  if separated.all (fun part => part ≠ [] ∧ part.all (fun char => (digitValue char).isSome)) then
    some (decimalValue separated.flatten)
  else none

/-- `int` of a text, or `none` for a `ValueError`. -/
def intOfText (text : List Char) : Option Int :=
  match strip text with
  | '-' :: digits => (magnitude digits).map fun value => -(value : Int)
  | '+' :: digits => (magnitude digits).map Int.ofNat
  | digits => (magnitude digits).map Int.ofNat

namespace Json

/-- `bool`. -/
def truthy : Json → Bool
  | .null => false
  | .boolean value => value
  | .integer value => value ≠ 0
  | .real value => value ≠ 0
  | .text value => value ≠ ""
  | .array items => !items.isEmpty
  | .object entries => !entries.isEmpty

/-- `int`, or `none` for a `TypeError` or `ValueError`. -/
def int? : Json → Option Int
  | .boolean value => some (if value then 1 else 0)
  | .integer value => some value
  | .real value => some (if 0 ≤ value then ⌊value⌋ else ⌈value⌉)
  | .text value => intOfText value.toList
  | .null | .array _ | .object _ => none

/-- `str`; `repr` is that of the floats, lists and dictionaries. -/
def str (repr : Json → String) : Json → String
  | .null => "None"
  | .boolean value => if value then "True" else "False"
  | .integer value => toString value
  | .text value => value
  | value => repr value

/-- `isinstance(value, str)`. -/
def text? : Json → Option String
  | .text value => some value
  | _ => none

/-- `isinstance(value, list)`. -/
def array? : Json → Option (List Json)
  | .array items => some items
  | _ => none

def object? : Json → Option (List (String × Json))
  | .object entries => some entries
  | _ => none

/-- `get`. -/
def get? (entries : List (String × Json)) (key : String) : Option Json :=
  (entries.find? fun entry => entry.1 = key).map Prod.snd

/-- `entries[key] = value`. -/
def setEntry (entries : List (String × Json)) (key : String) (value : Json) :
    List (String × Json) :=
  if entries.any fun entry => entry.1 = key then
    entries.map fun entry => if entry.1 = key then (key, value) else entry
  else entries ++ [(key, value)]

end Json

end Text

/-!
## JSON texts

What `json.dump` writes for an object of texts, with all but the printable ASCII characters
escaped, and a reader of the texts without fractions and exponents. The reader returns what was
written.
-/

namespace Text

open List Nat Option

/-- Four hexadecimal digits. -/
def hex4 (unit : Nat) : List Char :=
  [unit / 4096 % 16, unit / 256 % 16, unit / 16 % 16, unit % 16].map digitChar

/-- A character as `ensure_ascii` writes it: beyond the basic plane it takes two units. -/
def escape (char : Char) : List Char :=
  if char = '"' then ['\\', '"']
  else if char = '\\' then ['\\', '\\']
  else if char = '\n' then ['\\', 'n']
  else if char = '\r' then ['\\', 'r']
  else if char = '\t' then ['\\', 't']
  else if char = '\x0c' then ['\\', 'f']
  else if char = '\x08' then ['\\', 'b']
  else if ' ' ≤ char ∧ char ≤ '~' then [char]
  else if char.toNat < 0x10000 then '\\' :: 'u' :: hex4 char.toNat
  else
    '\\' :: 'u' :: hex4 (0xd800 + (char.toNat - 0x10000) / 0x400) ++
      '\\' :: 'u' :: hex4 (0xdc00 + (char.toNat - 0x10000) % 0x400)

def quoted (text : List Char) : List Char :=
  '"' :: text.flatMap escape ++ ['"']

/-- A text, or `null`. -/
def scalar : Option String → List Char
  | none => ['n', 'u', 'l', 'l']
  | some text => quoted text.toList

def member (entry : String × Option String) : List Char :=
  quoted entry.1.toList ++ ':' :: scalar entry.2

def members : List (String × Option String) → List Char
  | [] => []
  | [entry] => member entry
  | entry :: next :: rest => member entry ++ ',' :: members (next :: rest)

/-- `json.dump` with `separators=(",", ":")` of the entries in this order. -/
def dumps (entries : List (String × Option String)) : List Char :=
  '{' :: members entries ++ ['}']

/-- The entries as the reader returns them. -/
def ofEntries (entries : List (String × Option String)) : List (String × Json) :=
  entries.map fun entry => (entry.1, entry.2.elim .null Json.text)

/-! ## Reading -/

def skipSpace (text : List Char) : List Char :=
  text.dropWhile fun char => char = ' ' ∨ char = '\t' ∨ char = '\n' ∨ char = '\r'

def hexValue (char : Char) : Option Nat :=
  if '0' ≤ char ∧ char ≤ '9' then some (char.toNat - '0'.toNat)
  else if 'a' ≤ char ∧ char ≤ 'f' then some (char.toNat - 'a'.toNat + 10)
  else if 'A' ≤ char ∧ char ≤ 'F' then some (char.toNat - 'A'.toNat + 10)
  else none

def readHex4 : List Char → Option (Nat × List Char)
  | first :: second :: third :: fourth :: rest => do
      let first ← hexValue first
      let second ← hexValue second
      let third ← hexValue third
      let fourth ← hexValue fourth
      some (((first * 16 + second) * 16 + third) * 16 + fourth, rest)
  | _ => none

/-- The unit after `\u`, with the one that follows it where both are one character. -/
def readUnits (text : List Char) : Option (Char × List Char) := do
  let (unit, rest) ← readHex4 text
  if 0xd800 ≤ unit ∧ unit < 0xdc00 then
    match rest with
    | '\\' :: 'u' :: rest => do
        let (low, rest) ← readHex4 rest
        if 0xdc00 ≤ low ∧ low < 0xe000 then
          some (Char.ofNat (0x10000 + (unit - 0xd800) * 0x400 + (low - 0xdc00)), rest)
        else none
    | _ => none
  else if 0xdc00 ≤ unit ∧ unit < 0xe000 then none
  else some (Char.ofNat unit, rest)

/-- What follows a backslash. -/
def readEscape : List Char → Option (Char × List Char)
  | '"' :: rest => some ('"', rest)
  | '\\' :: rest => some ('\\', rest)
  | '/' :: rest => some ('/', rest)
  | 'b' :: rest => some ('\x08', rest)
  | 'f' :: rest => some ('\x0c', rest)
  | 'n' :: rest => some ('\n', rest)
  | 'r' :: rest => some ('\r', rest)
  | 't' :: rest => some ('\t', rest)
  | 'u' :: rest => readUnits rest
  | _ => none

/-- The characters up to the closing quote. -/
def readText : Nat → List Char → Option (List Char × List Char)
  | 0, _ => none
  | _ + 1, [] => none
  | fuel + 1, char :: rest =>
    if char = '"' then some ([], rest)
    else if char = '\\' then do
      let (char, rest) ← readEscape rest
      let (chars, rest) ← readText fuel rest
      some (char :: chars, rest)
    else if char < ' ' then none
    else do
      let (chars, rest) ← readText fuel rest
      some (char :: chars, rest)

/-- The digits of an integer, which no fraction or exponent may follow. -/
def readInteger (text : List Char) : Option (Int × List Char) :=
  let digits := text.takeWhile Char.isDigit
  let rest := text.dropWhile Char.isDigit
  if digits = [] ∨ digits.head? = some '0' ∧ digits ≠ ['0'] then none
  else if rest.head? ∈ [some '.', some 'e', some 'E'] then none
  else some (decimalValue digits, rest)

/-- A key with its colon. -/
def readKey (fuel : Nat) : List Char → Option (String × List Char)
  | '"' :: rest => do
      let (key, rest) ← readText fuel rest
      match skipSpace rest with
      | ':' :: rest => some (String.ofList key, rest)
      | _ => none
  | _ => none

mutual

def readValue : Nat → List Char → Option (Json × List Char)
  | 0, _ => none
  | fuel + 1, '"' :: rest => do
      let (text, rest) ← readText fuel rest
      some (.text (String.ofList text), rest)
  | fuel + 1, '{' :: rest =>
    match skipSpace rest with
    | '}' :: rest => some (.object [], rest)
    | rest => do
        let (entries, rest) ← readMembers fuel rest
        some (.object (entries.foldl (fun entries entry =>
          Json.setEntry entries entry.1 entry.2) []), rest)
  | fuel + 1, '[' :: rest =>
    match skipSpace rest with
    | ']' :: rest => some (.array [], rest)
    | rest => do
        let (items, rest) ← readItems fuel rest
        some (.array items, rest)
  | _ + 1, 'n' :: 'u' :: 'l' :: 'l' :: rest => some (.null, rest)
  | _ + 1, 't' :: 'r' :: 'u' :: 'e' :: rest => some (.boolean true, rest)
  | _ + 1, 'f' :: 'a' :: 'l' :: 's' :: 'e' :: rest => some (.boolean false, rest)
  | _ + 1, '-' :: rest => do
      let (value, rest) ← readInteger rest
      some (.integer (-value), rest)
  | _ + 1, rest => do
      let (value, rest) ← readInteger rest
      some (.integer value, rest)

/-- Members up to the closing brace. -/
def readMembers : Nat → List Char → Option (List (String × Json) × List Char)
  | 0, _ => none
  | fuel + 1, rest => do
      let (key, rest) ← readKey fuel rest
      let (value, rest) ← readValue fuel (skipSpace rest)
      match skipSpace rest with
      | '}' :: rest => some ([(key, value)], rest)
      | ',' :: rest => do
          let (entries, rest) ← readMembers fuel (skipSpace rest)
          some ((key, value) :: entries, rest)
      | _ => none

/-- Items up to the closing bracket. -/
def readItems : Nat → List Char → Option (List Json × List Char)
  | 0, _ => none
  | fuel + 1, rest => do
      let (item, rest) ← readValue fuel rest
      match skipSpace rest with
      | ']' :: rest => some ([item], rest)
      | ',' :: rest => do
          let (items, rest) ← readItems fuel (skipSpace rest)
          some (item :: items, rest)
      | _ => none

end

/-- `json.loads`. -/
def loads (text : List Char) : Option Json := do
  let (value, rest) ← readValue (text.length + 4) (skipSpace text)
  if skipSpace rest = [] then some value else none

/-! ## Reading what was written -/

theorem hexValue_digitChar {digit : Nat} (bound : digit < 16) :
    hexValue (digitChar digit) = some digit := by
  have all : ∀ digit < 16, hexValue (digitChar digit) = some digit := by decide
  exact all digit bound

theorem readHex4_hex4 {unit : Nat} (bound : unit < 0x10000) (rest : List Char) :
    readHex4 (hex4 unit ++ rest) = some (unit, rest) := by
  have digit (value : Nat) : hexValue (digitChar (value % 16)) = some (value % 16) :=
    hexValue_digitChar (mod_lt _ (by decide))
  have whole : ((unit / 4096 % 16 * 16 + unit / 256 % 16) * 16 + unit / 16 % 16) * 16 +
      unit % 16 = unit := by
    omega
  simp [hex4, readHex4, digit, whole]

/-- A character of the basic plane is one unit. -/
theorem readUnits_basic {char : Char} (basic : char.toNat < 0x10000) (rest : List Char) :
    readUnits (hex4 char.toNat ++ rest) = some (char, rest) := by
  have valid : char.toNat < 0xd800 ∨ 0xdfff < char.toNat ∧ char.toNat < 0x110000 := char.valid
  have high : ¬ (0xd800 ≤ char.toNat ∧ char.toNat < 0xdc00) := by omega
  have low : ¬ (0xdc00 ≤ char.toNat ∧ char.toNat < 0xe000) := by omega
  simp [readUnits, readHex4_hex4 basic, high, low]

/-- A character beyond the basic plane is two units. -/
theorem readUnits_astral {char : Char} {code : Nat} (bound : code < 0x100000)
    (astral : 0x10000 + code = char.toNat) (rest : List Char) :
    readUnits (hex4 (0xd800 + code / 0x400) ++
      '\\' :: 'u' :: (hex4 (0xdc00 + code % 0x400) ++ rest)) = some (char, rest) := by
  have high : 0xd800 ≤ 0xd800 + code / 0x400 ∧ 0xd800 + code / 0x400 < 0xdc00 := by omega
  have low : 0xdc00 ≤ 0xdc00 + code % 0x400 ∧ 0xdc00 + code % 0x400 < 0xe000 := by omega
  have whole : 0x10000 + (0xd800 + code / 0x400 - 0xd800) * 0x400 +
      (0xdc00 + code % 0x400 - 0xdc00) = char.toNat := by
    omega
  have first := readHex4_hex4 (show 0xd800 + code / 0x400 < 0x10000 by omega)
    ('\\' :: 'u' :: (hex4 (0xdc00 + code % 0x400) ++ rest))
  have second := readHex4_hex4 (show 0xdc00 + code % 0x400 < 0x10000 by omega) rest
  rw [readUnits, first]
  simp only [bind_eq_bind, bind_some]
  rw [if_pos high]
  simp only [second, bind_some]
  rw [if_pos low, whole, Char.ofNat_toNat]

/-- One escaped character is read as that character. -/
theorem readText_escape (fuel : Nat) (char : Char) (rest : List Char) :
    readText (fuel + 1) (escape char ++ rest) =
      (readText fuel rest).map fun read => (char :: read.1, read.2) := by
  have short (letter : Char) (text : List Char)
      (reads : readEscape (letter :: text) = some (char, rest)) :
      readText (fuel + 1) ('\\' :: letter :: text) =
        (readText fuel rest).map fun read => (char :: read.1, read.2) := by
    rw [readText, if_neg (by decide), if_pos rfl, reads]
    simp only [bind_eq_bind, bind_some]
    cases readText fuel rest <;> rfl
  unfold escape
  split_ifs with quote backslash newline carriage tab feed back printable basic
  · exact short '"' rest (quote.symm ▸ rfl)
  · exact short '\\' rest (backslash.symm ▸ rfl)
  · exact short 'n' rest (newline.symm ▸ rfl)
  · exact short 'r' rest (carriage.symm ▸ rfl)
  · exact short 't' rest (tab.symm ▸ rfl)
  · exact short 'f' rest (feed.symm ▸ rfl)
  · exact short 'b' rest (back.symm ▸ rfl)
  · have plain : ¬ char < ' ' := Char.not_lt.2 printable.1
    rw [singleton_append, readText]
    simp only [quote, backslash, plain, if_false]
    cases readText fuel rest <;> rfl
  · exact short 'u' _ (readUnits_basic basic rest)
  · have valid : char.toNat < 0xd800 ∨ 0xdfff < char.toNat ∧ char.toNat < 0x110000 := char.valid
    have pair := readUnits_astral (show char.toNat - 0x10000 < 0x100000 by omega)
      (show 0x10000 + (char.toNat - 0x10000) = char.toNat by omega) rest
    simp only [cons_append, append_assoc]
    exact short 'u' _ pair

variable {fuel : Nat} {text : List Char}

/-- The fuel is one step for each character and one for the closing quote. -/
theorem readText_quoted (text : List Char) (enough : text.length < fuel)
    (rest : List Char) :
    readText fuel (text.flatMap escape ++ '"' :: rest) = some (text, rest) := by
  induction text generalizing fuel with
  | nil =>
    obtain ⟨fuel, rfl⟩ := exists_eq_succ_of_ne_zero (ne_zero_of_lt enough)
    rfl
  | cons char text ih =>
    obtain ⟨fuel, rfl⟩ := exists_eq_succ_of_ne_zero (ne_zero_of_lt enough)
    rw [flatMap_cons, append_assoc, readText_escape, ih (lt_of_succ_lt_succ enough)]
    rfl

theorem length_le_escaped (text : List Char) : text.length ≤ (text.flatMap escape).length := by
  induction text with
  | nil => exact le_refl 0
  | cons char text ih =>
    have one : 1 ≤ (escape char).length := by
      unfold escape
      split_ifs <;> simp
    rw [flatMap_cons, length_append, length_cons]
    omega

theorem readValue_scalar (value : Option String)
    (enough : (scalar value).length < fuel) (rest : List Char) :
    readValue fuel (scalar value ++ rest) = some (value.elim .null Json.text, rest) := by
  obtain ⟨fuel, rfl⟩ := exists_eq_succ_of_ne_zero (ne_zero_of_lt enough)
  cases value with
  | none => rfl
  | some text =>
    have whole := length_le_escaped text.toList
    simp only [scalar, quoted, cons_append, length_cons, length_append] at enough
    simp only [scalar, quoted, cons_append, append_assoc, nil_append,
      readValue, readText_quoted text.toList (show text.toList.length < fuel by omega) rest]
    simp

theorem skipSpace_of_head {char : Char} (rest : List Char)
    (mark : ¬ (char = ' ' ∨ char = '\t' ∨ char = '\n' ∨ char = '\r')) :
    skipSpace (char :: rest) = char :: rest := by
  simp only [skipSpace, dropWhile_cons, decide_eq_true_eq, if_neg mark]

/-- A value starts with a character that is no space. -/
theorem skipSpace_scalar (value : Option String) (rest : List Char) :
    skipSpace (scalar value ++ rest) = scalar value ++ rest := by
  cases value with
  | none => rfl
  | some text => exact skipSpace_of_head _ (by decide)

theorem readKey_quoted (key : String) (enough : key.toList.length < fuel)
    (rest : List Char) :
    readKey fuel (quoted key.toList ++ ':' :: rest) = some (key, rest) := by
  have colon : skipSpace (':' :: rest) = ':' :: rest := skipSpace_of_head rest (by decide)
  simp only [quoted, cons_append, append_assoc, nil_append, readKey,
    readText_quoted key.toList enough, bind_eq_bind, bind_some, colon,
    String.ofList_toList]

theorem readMembers_last {key : String} {value : Json}
    {middle rest : List Char} (keyRead : readKey fuel text = some (key, middle))
    (valueRead : readValue fuel (skipSpace middle) = some (value, '}' :: rest)) :
    readMembers (fuel + 1) text = some ([(key, value)], rest) := by
  have brace : skipSpace ('}' :: rest) = '}' :: rest := skipSpace_of_head rest (by decide)
  simp only [readMembers, keyRead, bind_eq_bind, bind_some, valueRead, brace]

theorem readMembers_more {key : String} {value : Json}
    {entries : List (String × Json)} {middle rest after : List Char}
    (keyRead : readKey fuel text = some (key, middle))
    (valueRead : readValue fuel (skipSpace middle) = some (value, ',' :: rest))
    (more : readMembers fuel (skipSpace rest) = some (entries, after)) :
    readMembers (fuel + 1) text = some ((key, value) :: entries, after) := by
  have comma : skipSpace (',' :: rest) = ',' :: rest := skipSpace_of_head rest (by decide)
  simp only [readMembers, keyRead, bind_eq_bind, bind_some, valueRead, comma, more]

theorem skipSpace_members (entry : String × Option String)
    (entries : List (String × Option String)) (rest : List Char) :
    skipSpace (members (entry :: entries) ++ rest) = members (entry :: entries) ++ rest := by
  cases entries with
  | nil => exact skipSpace_of_head _ (by decide)
  | cons next entries => exact skipSpace_of_head _ (by decide)

/-- Members are read up to the closing brace. -/
theorem readMembers_members (entry : String × Option String)
    (entries : List (String × Option String))
    (enough : (members (entry :: entries)).length < fuel) (rest : List Char) :
    readMembers fuel (members (entry :: entries) ++ '}' :: rest) =
      some (ofEntries (entry :: entries), rest) := by
  induction entries generalizing entry fuel with
  | nil =>
    obtain ⟨fuel, rfl⟩ := exists_eq_succ_of_ne_zero (ne_zero_of_lt enough)
    have whole := length_le_escaped entry.1.toList
    simp only [members, member, quoted, cons_append, length_cons,
      length_append] at enough
    rw [members, member, append_assoc, cons_append]
    apply readMembers_last (readKey_quoted entry.1 (by omega) _)
    rw [skipSpace_scalar]
    exact readValue_scalar entry.2 (by omega) _
  | cons next entries ih =>
    obtain ⟨fuel, rfl⟩ := exists_eq_succ_of_ne_zero (ne_zero_of_lt enough)
    have whole := length_le_escaped entry.1.toList
    simp only [members, member, quoted, cons_append, length_cons,
      length_append] at enough
    rw [members, member, append_assoc, append_assoc, cons_append, cons_append]
    apply readMembers_more (readKey_quoted entry.1 (by omega) _)
    · rw [skipSpace_scalar]
      exact readValue_scalar entry.2 (by omega) _
    · rw [skipSpace_members]
      exact ih next (by omega)

/-- Entries under new keys are appended. -/
theorem foldl_setEntry (entries before : List (String × Json))
    (distinct : ((before ++ entries).map Prod.fst).Nodup) :
    entries.foldl (fun entries entry => Json.setEntry entries entry.1 entry.2) before =
      before ++ entries := by
  induction entries generalizing before with
  | nil => simp
  | cons entry entries ih =>
    have fresh : ¬ before.any (fun other => other.1 = entry.1) = true := by
      intro found
      obtain ⟨other, member, same⟩ := any_eq_true.1 found
      rw [map_append, nodup_append] at distinct
      exact distinct.2.2 other.1 (mem_map_of_mem member) entry.1 (by simp)
        (of_decide_eq_true same)
    rw [foldl_cons, Json.setEntry, if_neg fresh, ih _ (by simpa using distinct)]
    simp

theorem readValue_object {text tail rest : List Char}
    {entries : List (String × Json)} (start : skipSpace text = '"' :: tail)
    (read : readMembers fuel ('"' :: tail) = some (entries, rest))
    (distinct : (entries.map Prod.fst).Nodup) :
    readValue (fuel + 1) ('{' :: text) = some (.object entries, rest) := by
  have whole := foldl_setEntry entries [] distinct
  rw [readValue, start]
  split
  · rename_i same
    exact absurd (List.cons.inj same).1 (by decide)
  · simp only [read, bind_eq_bind, bind_some, whole, nil_append]

/-- What was written is read back. -/
theorem loads_dumps {entries : List (String × Option String)}
    (distinct : (entries.map Prod.fst).Nodup) :
    loads (dumps entries) = some (.object (ofEntries entries)) := by
  cases entries with
  | nil => rfl
  | cons entry entries =>
    have keys : ((ofEntries (entry :: entries)).map Prod.fst).Nodup := by
      simpa [ofEntries, Function.comp_def] using distinct
    have start : skipSpace (dumps (entry :: entries)) = dumps (entry :: entries) :=
      skipSpace_of_head _ (by decide)
    obtain ⟨tail, shape⟩ :
        ∃ tail, members (entry :: entries) ++ ['}'] = '"' :: tail := by
      cases entries with
      | nil => exact ⟨_, rfl⟩
      | cons next entries => exact ⟨_, rfl⟩
    have inner : skipSpace (members (entry :: entries) ++ ['}']) = '"' :: tail := by
      rw [skipSpace_members, shape]
    have read : readMembers ((dumps (entry :: entries)).length + 3) ('"' :: tail) =
        some (ofEntries (entry :: entries), []) := by
      rw [← shape]
      apply readMembers_members
      simp only [dumps, cons_append, length_cons, length_append]
      omega
    have value := readValue_object inner read keys
    rw [loads, start, dumps, cons_append]
    rw [dumps, cons_append] at value
    rw [value]
    rfl

/-- The bytes of a text. -/
def encode (text : List Char) : ByteArray :=
  (String.ofList text).toUTF8

/-- `decode`, which raises a `UnicodeDecodeError` on anything but UTF-8. -/
def decode (bytes : ByteArray) : Option (List Char) :=
  (String.fromUTF8? bytes).map String.toList

theorem decode_encode (text : List Char) : decode (encode text) = some text := by
  have valid : (String.ofList text).toUTF8.IsValidUTF8 := (String.ofList text).isValidUTF8
  rw [decode, encode, String.fromUTF8?, dif_pos valid, map_some]
  exact congrArg some (String.toList_ofList)

theorem encode_of_decode {bytes : ByteArray}
    (decoded : decode bytes = some text) : encode text = bytes := by
  obtain ⟨string, found, rfl⟩ := map_eq_some_iff.1 decoded
  unfold String.fromUTF8? at found
  split at found
  · cases found
    simp [encode, String.fromUTF8]
  · cases found

theorem size_encode_append (first second : List Char) :
    (encode (first ++ second)).size = (encode first).size + (encode second).size := by
  simp [encode, String.ofList_append]

theorem size_encode_singleton (char : Char) : (encode [char]).size = char.utf8Size := by
  simp [encode, utf8Encode_singleton]

theorem size_encode_replicate (count : Nat) (char : Char) :
    (encode (List.replicate count char)).size = count * char.utf8Size := by
  induction count with
  | zero => simp [encode]
  | succ count ih =>
    rw [replicate_succ, ← singleton_append, size_encode_append, ih,
      size_encode_singleton]
    ring

theorem length_le_size_encode (text : List Char) : text.length ≤ (encode text).size := by
  induction text with
  | nil => exact zero_le _
  | cons char text ih =>
    have some := char.utf8Size_pos
    rw [← singleton_append, size_encode_append, size_encode_singleton,
      length_append, length_singleton]
    omega

theorem size_encode_le (text : List Char) : (encode text).size ≤ 4 * text.length := by
  induction text with
  | nil => exact zero_le _
  | cons char text ih =>
    have most := char.utf8Size_le_four
    rw [← singleton_append, size_encode_append, size_encode_singleton, length_append,
      length_singleton]
    omega

/-- `json.loads` of bytes, which also reads reals and other encodings. -/
structure JsonReader where
  loads : ByteArray → Option Json
  loads_dumps : ∀ entries : List (String × Option String), (entries.map Prod.fst).Nodup →
    loads (encode (dumps entries)) = some (.object (ofEntries entries))

/-- The reader of UTF-8 without reals. -/
def JsonReader.plain : JsonReader where
  loads bytes := (decode bytes).bind Text.loads
  loads_dumps entries distinct := by
    rw [decode_encode, bind_some, Text.loads_dumps distinct]

end Text
