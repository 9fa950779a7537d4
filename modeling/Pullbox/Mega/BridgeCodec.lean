import Pullbox.Mega.Bridge

/-!
# The two sides of the MEGA bridge agree

What the host writes is what the bridge reads, and what the bridge writes is what the host reads, up
to the limits that the host sets.
-/

namespace Pullbox.Mega

open Files List Nat Text

variable {raw stream : List UInt8} {text value : List Char} {char : Char} {number : Nat}

/-! ### Bytes -/

theorem utf8_eq_flatMap : utf8 text = text.flatMap String.utf8EncodeChar := by
  have bytes : encode text = List.utf8Encode text := String.toByteArray_ofList
  rw [utf8, bytes, List.utf8Encode, toList_data_toByteArray]

theorem fromUtf8_utf8 : fromUtf8 (utf8 text) = some text := by
  unfold fromUtf8 utf8
  rw [Array.toArray_toList]
  exact decode_encode text

theorem utf8_of_fromUtf8 (read : fromUtf8 raw = some text) : utf8 text = raw := by
  unfold utf8
  rw [encode_of_decode read]

/-- Only the null character has a null byte. -/
theorem zero_mem_utf8EncodeChar : 0 ∈ String.utf8EncodeChar char ↔ char = Char.ofNat 0 := by
  have small : char.val.toNat < 0x110000 := by
    have := char.valid
    simp only [UInt32.isValidChar, Nat.isValidChar] at this
    omega
  have byte (code : Nat) : 0 = UInt8.ofNat code ↔ code % 256 = 0 := by
    rw [← UInt8.toNat_inj, UInt8.toNat_ofNat']
    exact eq_comm
  have null : char = Char.ofNat 0 ↔ char.val.toNat = 0 := Char.toNat_inj.symm
  rw [null]
  unfold String.utf8EncodeChar
  dsimp only
  split
  · simp only [mem_cons, not_mem_nil, or_false, byte]
    omega
  · split
    · simp only [mem_cons, not_mem_nil, or_false, byte]
      omega
    · split
      · simp only [mem_cons, not_mem_nil, or_false, byte]
        omega
      · simp only [mem_cons, not_mem_nil, or_false, byte]
        omega

theorem zero_mem_utf8 : 0 ∈ utf8 text ↔ Char.ofNat 0 ∈ text := by
  rw [utf8_eq_flatMap, mem_flatMap]
  constructor
  · rintro ⟨char, inside, zero⟩
    rwa [← zero_mem_utf8EncodeChar.1 zero]
  · intro inside
    exact ⟨_, inside, zero_mem_utf8EncodeChar.2 rfl⟩

/-- A field that the host lets through. -/
theorem validRequestField_iff {allowEmpty : Bool} :
    validRequestField value allowEmpty = true ↔
      (allowEmpty = true ∨ utf8 value ≠ []) ∧ (utf8 value).length ≤ maxRequestFieldBytes ∧
        0 ∉ utf8 value := by
  simp [validRequestField, zero_mem_utf8, and_assoc]

/-! ### The request -/

theorem getline_append {line : List UInt8} (whole : 10 ∉ line) :
    getline (line ++ 10 :: stream) = some (line, stream) := by
  have inside : ∀ byte ∈ line, decide (byte ≠ 10) = true := by
    intro byte member
    rw [decide_eq_true_eq]
    rintro rfl
    exact whole member
  unfold getline
  rw [if_neg (by simp), takeWhile_append_of_pos inside, dropWhile_append_of_pos inside]
  simp

theorem readExact_append {field : List UInt8} :
    readExact field.length (field ++ stream) = some (field, stream) := by
  unfold readExact
  rw [if_pos (by simp), take_left, drop_left]

theorem isFieldSpace_of_isDigit {byte : UInt8} (digit : Bytes.isDigit byte = true) :
    isFieldSpace byte = false := by
  have bounds := Bytes.isDigit_iff.1 digit
  unfold isFieldSpace
  rw [decide_eq_false_iff_not, ← UInt8.toNat_inj, UInt8.le_iff_toNat_le, UInt8.le_iff_toNat_le]
  simp
  omega

/-- The sizes of fields are read up to the largest that a field may have. -/
theorem parseSize_decimal :
    parseSize (Bytes.decimal number) =
      if maxRequestFieldBytes < number then none else some number := by
  have digits : (Bytes.decimal number).all Bytes.isDigit = true :=
    all_eq_true.2 fun byte inside => Bytes.isDigit_of_mem_decimal inside
  have length : (Bytes.decimal number).length ≤ 10 ↔ number < 10 ^ 10 := by
    unfold Bytes.decimal
    rw [length_map]
    exact length_toDigits_le_iff (by decide) (by decide)
  unfold parseSize
  rw [Bytes.decimalValue_decimal, digits]
  by_cases long : 10 < (Bytes.decimal number).length
  · have large : maxRequestFieldBytes < number := by
      unfold maxRequestFieldBytes
      omega
    rw [if_pos (.inr (.inl long)), if_pos large]
  · rw [if_neg (by simp [Bytes.decimal_ne_nil, Nat.not_lt.1 long])]

theorem ascii_append {first second : List Char} :
    ascii (first ++ second) = ascii first ++ ascii second :=
  map_append

theorem ascii_toDigits : ascii (toDigits 10 number) = Bytes.decimal number :=
  rfl

theorem ascii_space : ascii [' '] = [32] := by
  decide

theorem ascii_cons_space : ascii (' ' :: text) = 32 :: ascii text := by
  rw [← singleton_append, ascii_append, ascii_space, singleton_append]

theorem ascii_lengthsLine {link session destination : List UInt8} :
    ascii (lengthsLine link session destination) =
      ascii "DOWNLOAD".toList ++ 32 :: (Bytes.decimal link.length ++
        32 :: (Bytes.decimal session.length ++ 32 :: Bytes.decimal destination.length)) := by
  have start : ascii "DOWNLOAD ".toList = ascii "DOWNLOAD".toList ++ [32] := by decide
  unfold lengthsLine
  simp only [ascii_append, start, ascii_cons_space, ascii_toDigits, append_assoc,
    cons_append, nil_append]

theorem lineFields_lengthsLine {link session destination : List UInt8} :
    lineFields (ascii (lengthsLine link session destination)) =
      [ascii "DOWNLOAD".toList, Bytes.decimal link.length, Bytes.decimal session.length,
        Bytes.decimal destination.length] := by
  have plain (number : Nat) : ∀ byte ∈ Bytes.decimal number, isFieldSpace byte = false :=
    fun byte inside => isFieldSpace_of_isDigit (Bytes.isDigit_of_mem_decimal inside)
  have operation : ∀ byte ∈ ascii "DOWNLOAD".toList, isFieldSpace byte = false :=
    Text.forall_mem_of_all (by decide)
  have inhabited : ascii "DOWNLOAD".toList ≠ [] := by decide
  unfold lineFields
  rw [ascii_lengthsLine, splitOnP_append_cons_of_forall_mem operation _ rfl,
    splitOnP_append_cons_of_forall_mem (plain _) _ rfl,
    splitOnP_append_cons_of_forall_mem (plain _) _ rfl, splitOnP_eq_singleton (plain _)]
  generalize ascii "DOWNLOAD".toList = word at inhabited
  simp [inhabited, Bytes.decimal_ne_nil]

/-- The bridge reads the bytes of a request whose fields pass the host's check, and refuses any
other. The host itself applies the check to the link and the session; that the destination meets
it is seen to by the bridge alone. -/
theorem readBridgeRequest_sendRequest (publicLink session destination : List Char) :
    readBridgeRequest (sendRequest publicLink session destination) =
      if validRequestField publicLink false = true ∧ validRequestField session true = true ∧
          validRequestField destination false = true then
        some {
          link := utf8 publicLink
          accountSession := utf8 session
          destination := utf8 destination }
      else none := by
  have header : 10 ∉ ascii protocolHeader := by decide
  have stream : sendRequest publicLink session destination =
      ascii protocolHeader ++ 10 :: (ascii (lengthsLine (utf8 publicLink) (utf8 session)
        (utf8 destination)) ++ 10 :: (utf8 publicLink ++ (utf8 session ++
          (utf8 destination ++ [])))) := by
    unfold sendRequest
    simp only [append_assoc, cons_append, nil_append, append_nil]
  have line : 10 ∉ ascii (lengthsLine (utf8 publicLink) (utf8 session) (utf8 destination)) := by
    have digits (number : Nat) : 10 ∉ Bytes.decimal number := fun inside =>
      absurd (Bytes.isDigit_of_mem_decimal inside) (by decide)
    have operation : 10 ∉ ascii "DOWNLOAD".toList := by decide
    rw [ascii_lengthsLine]
    simp only [mem_append, mem_cons, digits, operation, or_false, false_or]
    decide
  rw [stream]
  unfold readBridgeRequest
  simp only [getline_append header, getline_append line, lineFields_lengthsLine,
    Option.bind_eq_bind, Option.bind_some, ne_eq, not_true_eq_false, if_false, parseSize_decimal]
  simp only [validRequestField_iff]
  generalize utf8 publicLink = link, utf8 session = account, utf8 destination = place
  by_cases linkFits : link.length ≤ maxRequestFieldBytes
  case neg =>
    rw [if_pos (Nat.lt_of_not_le linkFits), Option.bind_none]
    exact (if_neg fun valid => linkFits valid.1.2.1).symm
  rw [if_neg (Nat.not_lt.2 linkFits), Option.bind_some]
  by_cases linkEmpty : link = []
  · rw [if_pos (by rw [linkEmpty]; rfl)]
    exact (if_neg (by simp [linkEmpty])).symm
  rw [if_neg (by rwa [length_eq_zero_iff])]
  by_cases accountFits : account.length ≤ maxRequestFieldBytes
  case neg =>
    rw [if_pos (Nat.lt_of_not_le accountFits), Option.bind_none]
    exact (if_neg fun valid => accountFits valid.2.1.2.1).symm
  rw [if_neg (Nat.not_lt.2 accountFits), Option.bind_some]
  by_cases placeFits : place.length ≤ maxRequestFieldBytes
  case neg =>
    rw [if_pos (Nat.lt_of_not_le placeFits), Option.bind_none]
    exact (if_neg fun valid => placeFits valid.2.2.2.1).symm
  rw [if_neg (Nat.not_lt.2 placeFits), Option.bind_some]
  by_cases placeEmpty : place = []
  · rw [if_pos (by rw [placeEmpty]; rfl)]
    exact (if_neg (by simp [placeEmpty])).symm
  rw [if_neg (by rwa [length_eq_zero_iff])]
  simp only [readExact_append, Option.bind_some]
  by_cases null : 0 ∈ link ∨ 0 ∈ account ∨ 0 ∈ place
  · rw [if_pos null, if_neg]
    rintro ⟨⟨-, -, linkPlain⟩, ⟨-, -, accountPlain⟩, -, -, placePlain⟩
    rcases null with inside | inside | inside
    · exact linkPlain inside
    · exact accountPlain inside
    · exact placePlain inside
  · obtain ⟨linkPlain, null⟩ := not_or.1 null
    obtain ⟨accountPlain, placePlain⟩ := not_or.1 null
    rw [if_neg (by simp [linkPlain, accountPlain, placePlain]), if_pos]
    exact ⟨⟨.inr linkEmpty, linkFits, linkPlain⟩, ⟨.inl trivial, accountFits, accountPlain⟩,
      .inr placeEmpty, placeFits, placePlain⟩

/-! ### The events -/

/-- What stands between white space on a line. -/
def IsWord (word : List Char) : Prop :=
  word ≠ [] ∧ ∀ char ∈ word, isSpace char = false ∧ char.toNat < 128

/-- The host finds the words of a line. -/
theorem parseEvent_emitLine {several : List (List Char)}
    (proper : ∀ word ∈ several, IsWord word) :
    parseEvent (emitLine (unwords several)) = parseParts several := by
  have plain : ∀ char ∈ unwords several, char.toNat < 128 := by
    intro char inside
    rcases mem_unwords inside with rfl | inside
    · decide
    · obtain ⟨word, member, here⟩ := mem_flatten.1 inside
      exact ((proper word member).2 char here).2
  have bytes : (emitLine (unwords several)).all (· < 128) = true := by
    unfold emitLine ascii
    rw [all_append, all_map, Bool.and_eq_true]
    refine ⟨all_eq_true.2 fun char inside => ?_, by decide⟩
    have small := plain char inside
    have same : (Bytes.ord char).toNat = char.toNat := mod_eq_of_lt (by omega)
    rw [Function.comp_apply, decide_eq_true_eq, UInt8.lt_iff_toNat_lt, same]
    exact small
  have line : (emitLine (unwords several)).map Bytes.chr = unwords several ++ ['\n'] := by
    unfold emitLine ascii
    rw [map_append, map_map]
    refine congrArg₂ (· ++ ·) ?_ (by decide)
    refine (map_congr_left fun char inside => ?_).trans (map_id _)
    have small := plain char inside
    exact Bytes.chr_ord (by omega)
  have feed : ∀ char ∈ ['\n'], isSpace char = true :=
    Text.forall_mem_of_all (by decide)
  unfold parseEvent
  rw [if_pos bytes, line, words_strip, words, wordsFrom_spaces feed]
  refine congrArg parseParts (words_unwords fun word member => ?_)
  exact ⟨(proper word member).1, fun char inside => ((proper word member).2 char inside).1⟩

theorem isWord_toDigits : IsWord (toDigits 10 number) := by
  refine ⟨toDigits_ne_nil, fun char inside => ?_⟩
  have bounds := Char.isDigit_iff_toNat.1
    (isDigit_of_mem_toDigits (by decide) (by decide) inside)
  have : '0'.toNat = 48 ∧ '9'.toNat = 57 := ⟨rfl, rfl⟩
  refine ⟨?_, by omega⟩
  simp [isSpace]
  omega

theorem isWord_hexEncode (named : raw ≠ []) : IsWord (hexEncode raw) := by
  refine ⟨fun empty => named ?_, fun char inside =>
    ⟨hexEncode_visible inside, hexEncode_ascii inside⟩⟩
  have length := @length_hexEncode raw
  rw [empty, length_nil] at length
  exact length_eq_zero_iff.1 (by omega)

theorem positiveInteger_toDigits :
    positiveInteger (toDigits 10 number) =
      if maxEventSize < number then none else some number := by
  have digits : (toDigits 10 number).all Char.isDigit = true :=
    all_eq_true.2 fun char inside =>
      isDigit_of_mem_toDigits (by decide) (by decide) inside
  unfold positiveInteger
  rw [digits, ofDigitChars_ten_toDigits, if_neg (by simp [toDigits_ne_nil])]
  by_cases large : maxEventSize < number
  · rw [if_pos large]
    split <;> rfl
  · have short : (toDigits 10 number).length ≤ 14 :=
      (length_toDigits_le_iff (by decide) (by decide)).2
        (by unfold maxEventSize at large; omega)
    rw [if_neg (by unfold maxIntegerDigits; omega)]

theorem decodeFilename_hexEncode :
    decodeFilename (hexEncode raw) =
      if 255 < raw.length then none else (fromUtf8 raw).map safeFilename := by
  unfold decodeFilename
  rw [length_hexEncode, fromHex_hexEncode]
  by_cases long : 255 < raw.length
  · rw [if_pos (.inl (by omega)), if_pos long]
  · rw [if_neg (by omega), if_neg long]
    cases read : fromUtf8 raw <;> simp [read]

section Parts

variable {first second third : List Char}

theorem parseParts_metadata :
    parseParts ["META".toList, first, second] =
      (positiveInteger first).bind fun size =>
        (decodeFilename second).map fun filename => .metadata size filename := by
  unfold parseParts
  dsimp only
  rw [if_pos rfl]
  cases positiveInteger first <;> cases decodeFilename second <;> rfl

theorem parseParts_progress :
    parseParts ["PROGRESS".toList, first, second] =
      (positiveInteger first).bind fun current =>
        (positiveInteger second).bind fun total =>
          if total < current then none else some (.progress current total) := by
  unfold parseParts
  dsimp only
  rw [if_neg (by decide), if_pos rfl]
  rfl

theorem parseParts_complete :
    parseParts ["COMPLETE".toList, first, second] =
      (positiveInteger first).bind fun size =>
        (decodeFilename second).map fun filename => .complete size filename := by
  unfold parseParts
  dsimp only
  rw [if_neg (by decide), if_neg (by decide), if_pos rfl]
  cases positiveInteger first <;> cases decodeFilename second <;> rfl

theorem parseParts_error :
    parseParts ["ERROR".toList, first, second, third] =
      if isErrorCode first = true ∧ second ∈ [['0'], ['1']] ∧ third ∈ [['0'], ['1']] then
        some (.error first (second = ['1']) (third = ['1']))
      else none := by
  unfold parseParts
  dsimp only
  by_cases form : isErrorCode first = true
  · rw [if_pos ⟨rfl, form⟩]
    by_cases flags : second ∈ [['0'], ['1']] ∧ third ∈ [['0'], ['1']]
    · rw [if_neg fun either => either.elim (· flags.1) (· flags.2), if_pos ⟨form, flags⟩]
    · rw [if_pos (not_and_or.1 flags), if_neg fun all => flags all.2]
  · rw [if_neg fun both => form both.2, if_neg fun all => form all.1]

end Parts

/-- An event with a size and a name. -/
theorem parseEvent_named {event : List Char} {size : Nat} (word : IsWord event)
    (named : raw ≠ []) :
    parseEvent (emitLine (unwords [event, toDigits 10 size, hexEncode raw])) =
      parseParts [event, toDigits 10 size, hexEncode raw] := by
  refine parseEvent_emitLine fun other member => ?_
  simp only [mem_cons, not_mem_nil, or_false] at member
  rcases member with rfl | rfl | rfl
  · exact word
  · exact isWord_toDigits
  · exact isWord_hexEncode named

theorem isWord_meta : IsWord "META".toList :=
  ⟨by decide, Text.forall_mem_of_all (by decide)⟩

theorem isWord_progress : IsWord "PROGRESS".toList :=
  ⟨by decide, Text.forall_mem_of_all (by decide)⟩

theorem isWord_complete : IsWord "COMPLETE".toList :=
  ⟨by decide, Text.forall_mem_of_all (by decide)⟩

theorem isWord_error : IsWord "ERROR".toList :=
  ⟨by decide, Text.forall_mem_of_all (by decide)⟩

/-- A size and a name are read within their limits. -/
theorem sizeAndName {size : Nat} (build : Nat → Option (List Char) → BridgeEvent) :
    ((positiveInteger (toDigits 10 size)).bind fun size =>
        (decodeFilename (hexEncode raw)).map (build size)) =
      if maxEventSize < size ∨ 255 < raw.length then none
      else (fromUtf8 raw).map fun name => build size (safeFilename name) := by
  rw [positiveInteger_toDigits, decodeFilename_hexEncode]
  by_cases large : maxEventSize < size
  · rw [if_pos large, Option.bind_none]
    exact (if_pos (.inl large)).symm
  · rw [if_neg large, Option.bind_some]
    by_cases long : 255 < raw.length
    · rw [if_pos long, Option.map_none]
      exact (if_pos (.inr long)).symm
    · rw [if_neg long, Option.map_map, if_neg (not_or.2 ⟨large, long⟩)]
      rfl

/-- The line that names the file and its size is read back within the limits. -/
theorem parseEvent_metaLine {size : Nat} (named : raw ≠ []) :
    parseEvent (metaLine size raw) =
      if maxEventSize < size ∨ 255 < raw.length then none
      else (fromUtf8 raw).map fun name => .metadata size (safeFilename name) := by
  have words := @parseEvent_named raw _ size isWord_meta named
  refine Eq.trans words ?_
  rw [parseParts_metadata]
  exact sizeAndName BridgeEvent.metadata

theorem parseEvent_completeLine {size : Nat} (named : raw ≠ []) :
    parseEvent (completeLine size raw) =
      if maxEventSize < size ∨ 255 < raw.length then none
      else (fromUtf8 raw).map fun name => .complete size (safeFilename name) := by
  have words := @parseEvent_named raw _ size isWord_complete named
  refine Eq.trans words ?_
  rw [parseParts_complete]
  exact sizeAndName BridgeEvent.complete

theorem parseEvent_progressLine {transferred total : Nat} :
    parseEvent (progressLine transferred total) =
      if maxEventSize < total ∨ total < transferred then none
      else some (.progress transferred total) := by
  have words : parseEvent (emitLine (unwords
      ["PROGRESS".toList, toDigits 10 transferred, toDigits 10 total])) =
        parseParts ["PROGRESS".toList, toDigits 10 transferred, toDigits 10 total] := by
    refine parseEvent_emitLine fun other member => ?_
    simp only [mem_cons, not_mem_nil, or_false] at member
    rcases member with rfl | rfl | rfl
    · exact isWord_progress
    · exact isWord_toDigits
    · exact isWord_toDigits
  refine Eq.trans words ?_
  rw [parseParts_progress, positiveInteger_toDigits, positiveInteger_toDigits]
  by_cases beyond : maxEventSize < total ∨ total < transferred
  · have refused : ∀ current : Nat, current = transferred →
        ((if maxEventSize < total then none else some total).bind fun total =>
          if total < current then none else some (.progress current total)) =
            (none : Option BridgeEvent) := by
      rintro current rfl
      split
      · rfl
      · rename_i fits
        exact if_pos (beyond.resolve_left fits)
    rw [if_pos beyond]
    split
    · rfl
    · exact refused _ rfl
  · obtain ⟨fits, ordered⟩ := not_or.1 beyond
    have fitsToo : ¬maxEventSize < transferred := by omega
    rw [if_neg beyond, if_neg fits, if_neg fitsToo]
    exact if_neg ordered

theorem isWord_of_isErrorCode {code : List Char} (form : isErrorCode code = true) :
    IsWord code := by
  have letter {char : Char} (inside : isCodeTail char = true) :
      isSpace char = false ∧ char.toNat < 128 := by
    have cases := of_decide_eq_true inside
    rcases cases with ⟨above, below⟩ | ⟨above, below⟩ | rfl
    · have low : 97 ≤ char.toNat := Char.le_def.1 above
      have high : char.toNat ≤ 122 := Char.le_def.1 below
      exact ⟨by simp [isSpace]; omega, by omega⟩
    · have low : 48 ≤ char.toNat := Char.le_def.1 above
      have high : char.toNat ≤ 57 := Char.le_def.1 below
      exact ⟨by simp [isSpace]; omega, by omega⟩
    · decide
  cases code with
  | nil => cases form
  | cons first rest =>
    obtain ⟨above, below, -, tail⟩ := of_decide_eq_true form
    refine ⟨cons_ne_nil _ _, fun char inside => letter ?_⟩
    rcases mem_cons.1 inside with rfl | inside
    · exact decide_eq_true (.inl ⟨above, below⟩)
    · exact all_eq_true.1 tail char inside

theorem parseEvent_errorLine {code : List Char} {retryable intervention : Bool}
    (form : isErrorCode code = true) :
    parseEvent (errorLine code retryable intervention) =
      some (.error code retryable intervention) := by
  have words : parseEvent (emitLine (unwords
      ["ERROR".toList, code, flag retryable, flag intervention])) =
        parseParts ["ERROR".toList, code, flag retryable, flag intervention] := by
    refine parseEvent_emitLine fun other member => ?_
    simp only [mem_cons, not_mem_nil, or_false] at member
    rcases member with rfl | rfl | rfl | rfl
    · exact isWord_error
    · exact isWord_of_isErrorCode form
    · cases retryable <;> exact ⟨by decide, Text.forall_mem_of_all (by decide)⟩
    · cases intervention <;> exact ⟨by decide, Text.forall_mem_of_all (by decide)⟩
  have line : errorLine code retryable intervention = emitLine (unwords
      ["ERROR".toList, code, flag retryable, flag intervention]) := by
    unfold errorLine
    refine congrArg emitLine ?_
    simp [unwords]
  have flags (value : Bool) :
      flag value ∈ [['0'], ['1']] ∧ (flag value = ['1'] ↔ value = true) := by
    cases value <;> decide
  rw [line, words, parseParts_error,
    if_pos ⟨form, (flags retryable).1, (flags intervention).1⟩]
  simp [flags]

/-- Every failure of the bridge reaches the host as it is. -/
theorem parseEvent_line (failure : BridgeFailure) :
    parseEvent failure.line =
      some (.error failure.code failure.retryable failure.intervention) := by
  refine parseEvent_errorLine ?_
  cases failure with
  | host error accountSession => cases error <;> cases accountSession <;> decide
  | _ => decide

/-! ### Names -/

/-- A name that `safe_filename` leaves as it is. -/
def PlainName (name : List Char) : Prop :=
  unquote name = name ∧ strip name = name ∧ '/' ∉ name ∧ '\\' ∉ name ∧ unusableName name = false

theorem map_slash_eq (plain : '\\' ∉ text) :
    (text.map fun char => if char = '\\' then '/' else char) = text := by
  refine (map_congr_left fun char inside => if_neg ?_).trans (map_id _)
  rintro rfl
  exact plain inside

theorem safeFilename_iff (name : List Char) : safeFilename name = some name ↔ PlainName name := by
  constructor
  · intro same
    unfold safeFilename at same
    dsimp only at same
    split at same
    · cases same
    · rename_i usable
      have same := Option.some.inj same
      rw [same] at usable
      unfold lastComponent at same
      have first := unquote_shorter name
      have second : (strip (unquote name)).Sublist (unquote name) := strip_sublist
      generalize slashed : ((strip (unquote name)).map fun char =>
        if char = '\\' then '/' else char) = changed at same
      have third : changed.length = (strip (unquote name)).length := by
        rw [← slashed, length_map]
      have fourth : (PurePath.finalName changed).Sublist changed := by
        rcases PurePath.finalName_cases changed with empty | piece
        · rw [empty]
          exact nil_sublist _
        · exact sublist_of_mem_splitOnP piece
      have fifth : (strip (PurePath.finalName changed)).Sublist (PurePath.finalName changed) :=
        strip_sublist
      have lengths := And.intro second.length_le (And.intro fourth.length_le fifth.length_le)
      rw [same] at lengths fifth
      have decoded : unquote name = name := by
        rcases first with same | shorter
        · exact same
        · omega
      rw [decoded] at second third slashed lengths
      have stripped : strip name = name := second.eq_of_length (by omega)
      have final : name = PurePath.finalName changed := fifth.eq_of_length (by omega)
      have whole : PurePath.finalName changed = changed := fourth.eq_of_length (by omega)
      have plain : '/' ∉ name := by
        rcases PurePath.finalName_cases changed with empty | piece
        · rw [final, empty]
          exact not_mem_nil
        · rw [final]
          exact not_mem_of_mem_splitOnP piece
      refine ⟨decoded, stripped, plain, fun back => plain ?_, by simpa using usable⟩
      rw [stripped] at slashed
      rw [final, whole, ← slashed]
      exact mem_map.2 ⟨'\\', back, if_pos rfl⟩
  · rintro ⟨decoded, stripped, plain, forward, usable⟩
    have named : PurePath.IsName name := by
      have refused := of_decide_eq_false usable
      exact ⟨fun empty => refused (.inl empty), fun dot => refused (.inr (.inl dot)),
        fun dots => refused (.inr (.inr (.inl dots))), plain⟩
    have final : PurePath.finalName name = name := by
      unfold PurePath.finalName
      rw [PurePath.parse_name named]
      rfl
    unfold safeFilename lastComponent
    dsimp only
    rw [decoded, stripped, map_slash_eq forward, final, stripped, if_neg (by simp [usable])]

/-! ### The form of a line -/

/-- Digits that spell a number. -/
def Spells (digits : List Char) (number : Nat) : Prop :=
  digits ≠ [] ∧ (∀ char ∈ digits, char.isDigit = true) ∧ digits.length ≤ maxIntegerDigits ∧
    ofDigitChars 10 digits 0 = number

/-- Digits of either case that spell a name. -/
def SpellsName (digits name : List Char) : Prop :=
  digits.map Char.toLower = hexEncode (utf8 name) ∧ (utf8 name).length ≤ 255

/-- The words of a line for an event. -/
inductive EventForm : List (List Char) → BridgeEvent → Prop
  | metadata {digits hex name : List Char} {size : Nat} (spelled : Spells digits size)
      (fits : size ≤ maxEventSize) (named : SpellsName hex name) :
      EventForm ["META".toList, digits, hex] (.metadata size (safeFilename name))
  | progress {first second : List Char} {current total : Nat} (begun : Spells first current)
      (whole : Spells second total) (ordered : current ≤ total) (fits : total ≤ maxEventSize) :
      EventForm ["PROGRESS".toList, first, second] (.progress current total)
  | complete {digits hex name : List Char} {size : Nat} (spelled : Spells digits size)
      (fits : size ≤ maxEventSize) (named : SpellsName hex name) :
      EventForm ["COMPLETE".toList, digits, hex] (.complete size (safeFilename name))
  | error {code : List Char} (form : isErrorCode code = true) (retryable intervention : Bool) :
      EventForm ["ERROR".toList, code, flag retryable, flag intervention]
        (.error code retryable intervention)

theorem positiveInteger_iff :
    positiveInteger value = some number ↔ Spells value number ∧ number ≤ maxEventSize := by
  unfold positiveInteger Spells
  by_cases digits : value = [] ∨ value.all Char.isDigit = false
  · rw [if_pos digits]
    constructor
    · intro read
      cases read
    · rintro ⟨⟨inhabited, all, -⟩, -⟩
      rcases digits with empty | other
      · exact absurd empty inhabited
      · exact absurd (all_eq_true.2 all) (by rw [other]; exact Bool.false_ne_true)
  · obtain ⟨inhabited, all⟩ := not_or.1 digits
    have all : ∀ char ∈ value, char.isDigit = true :=
      all_eq_true.1 (Bool.not_eq_false _ ▸ all)
    rw [if_neg digits]
    by_cases long : maxIntegerDigits < value.length
    · rw [if_pos long]
      constructor
      · intro read
        cases read
      · rintro ⟨⟨-, -, short, -⟩, -⟩
        omega
    · rw [if_neg long]
      by_cases large : maxEventSize < ofDigitChars 10 value 0
      · rw [if_pos large]
        constructor
        · intro read
          cases read
        · rintro ⟨⟨-, -, -, rfl⟩, fits⟩
          omega
      · rw [if_neg large, Option.some.injEq]
        constructor
        · rintro rfl
          exact ⟨⟨inhabited, all, by omega, rfl⟩, by omega⟩
        · rintro ⟨⟨-, -, -, same⟩, -⟩
          exact same

theorem decodeFilename_iff (visible : ∀ char ∈ value, isSpace char = false)
    {filename : Option (List Char)} :
    decodeFilename value = some filename ↔
      ∃ name, SpellsName value name ∧ filename = safeFilename name := by
  have visible : ∀ char ∈ value, isAsciiSpace char = false := by
    intro char inside
    cases space : isAsciiSpace char with
    | false => rfl
    | true => rw [← isSpace_of_isAsciiSpace space, visible char inside]
  unfold decodeFilename
  by_cases length : 510 < value.length ∨ value.length % 2 ≠ 0
  · rw [if_pos length]
    constructor
    · intro read
      cases read
    · rintro ⟨name, ⟨spelled, short⟩, -⟩
      have same := congrArg List.length spelled
      rw [length_map, length_hexEncode] at same
      omega
  · rw [if_neg length]
    simp only [Option.bind_eq_bind, Option.bind_eq_some_iff, Option.some.injEq]
    constructor
    · rintro ⟨raw, read, name, decoded, same⟩
      have spelled := (fromHex_iff visible).1 read
      have sizes := congrArg List.length spelled
      rw [length_map, length_hexEncode] at sizes
      refine ⟨name, ⟨?_, ?_⟩, same.symm⟩
      · rw [utf8_of_fromUtf8 decoded]
        exact spelled
      · rw [utf8_of_fromUtf8 decoded]
        omega
    · rintro ⟨name, ⟨spelled, -⟩, same⟩
      exact ⟨utf8 name, (fromHex_iff visible).2 spelled, name, fromUtf8_utf8, same.symm⟩

/-- A flag is read as it is written. -/
theorem mem_flags : value ∈ [['0'], ['1']] ↔ ∃ set : Bool, value = flag set := by
  constructor
  · intro inside
    simp only [mem_cons, not_mem_nil, or_false] at inside
    rcases inside with rfl | rfl
    · exact ⟨false, rfl⟩
    · exact ⟨true, rfl⟩
  · rintro ⟨set, rfl⟩
    cases set <;> decide

theorem flag_eq_one {set : Bool} : decide (flag set = ['1']) = set := by
  cases set <;> decide

/-- Exactly the lines of the given form are read. -/
theorem parseParts_iff {parts : List (List Char)} {event : BridgeEvent}
    (visible : ∀ word ∈ parts, ∀ char ∈ word, isSpace char = false) :
    parseParts parts = some event ↔ EventForm parts event := by
  constructor
  · intro read
    have whole := read
    unfold parseParts at read
    split at read
    · rename_i word first second
      have visible := visible second (by simp)
      split at read
      · rename_i same
        rw [same, parseParts_metadata] at whole
        obtain ⟨size, spelled, filename, named, rfl⟩ := by
          simpa only [Option.bind_eq_some_iff, Option.map_eq_some_iff] using whole
        obtain ⟨name, spelling, rfl⟩ := (decodeFilename_iff visible).1 named
        obtain ⟨spelled, fits⟩ := positiveInteger_iff.1 spelled
        rw [same]
        exact .metadata spelled fits spelling
      · split at read
        · rename_i same
          rw [same, parseParts_progress] at whole
          obtain ⟨current, begun, total, ended, ordered⟩ := by
            simpa only [Option.bind_eq_some_iff] using whole
          split at ordered
          · cases ordered
          · cases ordered
            obtain ⟨begun, -⟩ := positiveInteger_iff.1 begun
            obtain ⟨ended, fits⟩ := positiveInteger_iff.1 ended
            rw [same]
            exact .progress begun ended (by omega) fits
        · split at read
          · rename_i same
            rw [same, parseParts_complete] at whole
            obtain ⟨size, spelled, filename, named, rfl⟩ := by
              simpa only [Option.bind_eq_some_iff, Option.map_eq_some_iff] using whole
            obtain ⟨name, spelling, rfl⟩ := (decodeFilename_iff visible).1 named
            obtain ⟨spelled, fits⟩ := positiveInteger_iff.1 spelled
            rw [same]
            exact .complete spelled fits spelling
          · cases read
    · rename_i word code second third
      split at read
      · rename_i both
        rw [both.1, parseParts_error] at whole
        split at whole
        · rename_i all
          obtain ⟨form, first, last⟩ := all
          obtain ⟨retryable, rfl⟩ := mem_flags.1 first
          obtain ⟨intervention, rfl⟩ := mem_flags.1 last
          rw [flag_eq_one, flag_eq_one] at whole
          rw [both.1, ← Option.some.inj whole]
          exact .error form retryable intervention
        · cases whole
      · cases read
    · cases read
  · intro form
    cases form with
    | metadata spelled fits named =>
      rw [parseParts_metadata, positiveInteger_iff.2 ⟨spelled, fits⟩, Option.bind_some,
        (decodeFilename_iff (visible _ (by simp))).2 ⟨_, named, rfl⟩, Option.map_some]
    | progress begun whole ordered fits =>
      rw [parseParts_progress, positiveInteger_iff.2 ⟨begun, by omega⟩, Option.bind_some,
        positiveInteger_iff.2 ⟨whole, fits⟩, Option.bind_some, if_neg (by omega)]
    | complete spelled fits named =>
      rw [parseParts_complete, positiveInteger_iff.2 ⟨spelled, fits⟩, Option.bind_some,
        (decodeFilename_iff (visible _ (by simp))).2 ⟨_, named, rfl⟩, Option.map_some]
    | error form retryable intervention =>
      rw [parseParts_error, if_pos ⟨form, mem_flags.2 ⟨_, rfl⟩, mem_flags.2 ⟨_, rfl⟩⟩,
        flag_eq_one, flag_eq_one]

/-- The lines that the host reads are the ASCII ones of a known form. -/
theorem parseEvent_iff {event : BridgeEvent} :
    parseEvent raw = some event ↔
      (∀ byte ∈ raw, byte < 128) ∧ EventForm (words (raw.map Bytes.chr)) event := by
  have visible : ∀ word ∈ words (raw.map Bytes.chr), ∀ char ∈ word, isSpace char = false :=
    fun word member =>
      (mem_wordsFrom_proper (fun _ inside => absurd inside not_mem_nil) member).2
  unfold parseEvent
  rw [words_strip]
  by_cases plain : raw.all (· < 128) = true
  · rw [if_pos plain, parseParts_iff visible]
    refine (and_iff_right fun byte inside => ?_).symm
    exact of_decide_eq_true (all_eq_true.1 plain byte inside)
  · rw [if_neg plain]
    constructor
    · intro read
      cases read
    · rintro ⟨small, -⟩
      exact absurd (all_eq_true.2 fun byte inside => decide_eq_true (small byte inside)) plain

/-! ### Agreement -/

/-- The bridge reads the bytes of every request whose three fields pass the host's check of the
link and the session, and refuses any other.
Within the limits of the host, it reads back the sizes, the errors and the names of the bridge, of
which it keeps what `safe_filename` makes of them; it reads no line of another form. -/
theorem bridge_agrees :
    (∀ publicLink session destination : List Char,
      readBridgeRequest (sendRequest publicLink session destination) =
        if validRequestField publicLink false = true ∧ validRequestField session true = true ∧
            validRequestField destination false = true then
          some {
            link := utf8 publicLink
            accountSession := utf8 session
            destination := utf8 destination }
        else none) ∧
    (∀ (size : Nat) (name : List Char), name ≠ [] →
      parseEvent (metaLine size (utf8 name)) =
        (if maxEventSize < size ∨ 255 < (utf8 name).length then none
        else some (.metadata size (safeFilename name))) ∧
      parseEvent (completeLine size (utf8 name)) =
        (if maxEventSize < size ∨ 255 < (utf8 name).length then none
        else some (.complete size (safeFilename name)))) ∧
    (∀ name : List Char, safeFilename name = some name ↔ PlainName name) ∧
    (∀ transferred total : Nat, parseEvent (progressLine transferred total) =
      if maxEventSize < total ∨ total < transferred then none
      else some (.progress transferred total)) ∧
    (∀ failure : BridgeFailure, parseEvent failure.line =
      some (.error failure.code failure.retryable failure.intervention)) ∧
    ∀ (raw : List UInt8) (event : BridgeEvent), parseEvent raw = some event ↔
      (∀ byte ∈ raw, byte < 128) ∧ EventForm (words (raw.map Bytes.chr)) event := by
  refine ⟨readBridgeRequest_sendRequest, fun size name named => ?_, safeFilename_iff,
    fun transferred total => parseEvent_progressLine, parseEvent_line,
    fun raw event => parseEvent_iff⟩
  have bytes : utf8 name ≠ [] := by
    intro empty
    have read := @fromUtf8_utf8 name
    rw [empty] at read
    exact named (Option.some.inj (read.symm.trans (@fromUtf8_utf8 [])))
  rw [parseEvent_metaLine bytes, parseEvent_completeLine bytes, fromUtf8_utf8]
  exact ⟨rfl, rfl⟩

/-- A name with a space is read back as it is. -/
theorem bridge_agrees_on_a_name :
    parseEvent (metaLine 5 (utf8 "a b".toList)) = some (.metadata 5 (some "a b".toList)) := by
  have line := (bridge_agrees.2.1 5 "a b".toList (by decide)).1
  rw [if_neg (by rw [utf8_eq_flatMap]; decide)] at line
  rw [line, (bridge_agrees.2.2.1 "a b".toList).2]
  unfold PlainName
  decide

/-- A name with a slash is not read back. -/
theorem name_with_slash_shortened :
    parseEvent (metaLine 5 (utf8 ['a', '/', 'b'])) = some (.metadata 5 (some ['b'])) := by
  have bytes : utf8 ['a', '/', 'b'] = [97, 47, 98] := by
    rw [utf8_eq_flatMap]
    decide
  have line := @parseEvent_metaLine (utf8 ['a', '/', 'b']) 5 (by rw [bytes]; decide)
  rw [line, fromUtf8_utf8, if_neg (by rw [bytes]; decide), Option.map_some]
  decide

end Pullbox.Mega
