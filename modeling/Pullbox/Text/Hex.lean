import Pullbox.Text.Json

/-!
# Hexadecimal text

Two lower-case digits are written for each byte, and digits of either case are read.
-/

namespace Text

open List Nat

variable {raw : List UInt8} {text : List Char} {char : Char} {byte : UInt8} {digit : Nat}

/-- The two digits of a byte. -/
def hexByte (byte : UInt8) : List Char :=
  [digitChar (byte.toNat / 16), digitChar (byte.toNat % 16)]

/-- Two lower-case digits for each byte. -/
def hexEncode (raw : List UInt8) : List Char :=
  raw.flatMap hexByte

/-- The white space of ASCII, as C has it. -/
def isAsciiSpace (char : Char) : Bool :=
  char = ' ' ∨ 9 ≤ char.toNat ∧ char.toNat ≤ 13

/-- `bytes.fromhex`, which skips white space in front of a byte. -/
def fromHex : List Char → Option (List UInt8)
  | [] => some []
  | [char] => if isAsciiSpace char then some [] else none
  | first :: second :: rest =>
    if isAsciiSpace first then fromHex (second :: rest)
    else do
      let high ← hexValue first
      let low ← hexValue second
      let others ← fromHex rest
      some (UInt8.ofNat (16 * high + low) :: others)

/-! ### Digits -/

/-- The digits of ASCII are those whose lower case is written. -/
theorem hexValue_ascii : ∀ code < 128, hexValue (Char.ofNat code) =
    (List.range 16).find? fun digit => (Char.ofNat code).toLower = digitChar digit := by
  decide

theorem digitChar_injective : ∀ first < 16, ∀ second < 16,
    digitChar first = digitChar second → first = second := by
  decide

theorem digitChar_ascii : ∀ digit < 16, (digitChar digit).toNat < 128 := by
  decide

theorem toLower_digitChar : ∀ digit < 16, (digitChar digit).toLower = digitChar digit := by
  decide

theorem digitChar_visible : ∀ digit < 16, isSpace (digitChar digit) = false := by
  decide

theorem toLower_of_not_ascii (beyond : 128 ≤ char.toNat) : char.toLower = char := by
  unfold Char.toLower
  refine dif_neg fun upper => ?_
  have bound : char.toNat ≤ 90 := UInt32.le_iff_toNat_le.1 upper.2
  omega

theorem hexValue_of_not_ascii (beyond : 128 ≤ char.toNat) : hexValue char = none := by
  have above (bound : Char) (low : bound.toNat < 128) : ¬char ≤ bound := by
    intro below
    have : char.toNat ≤ bound.toNat := Char.le_def.1 below
    omega
  unfold hexValue
  rw [if_neg fun both => above '9' (by decide) both.2,
    if_neg fun both => above 'f' (by decide) both.2,
    if_neg fun both => above 'F' (by decide) both.2]

/-- A digit is read by its lower case. -/
theorem hexValue_iff :
    hexValue char = some digit ↔ digit < 16 ∧ char.toLower = digitChar digit := by
  by_cases ascii : char.toNat < 128
  · have table := hexValue_ascii char.toNat ascii
    rw [Char.ofNat_toNat] at table
    rw [table]
    constructor
    · intro found
      have listed := mem_range.1 (mem_of_find?_eq_some found)
      exact ⟨listed, by simpa using List.find?_some found⟩
    · rintro ⟨small, same⟩
      cases found : (List.range 16).find? fun digit => char.toLower = digitChar digit with
      | none =>
        have nowhere := List.find?_eq_none.1 found digit (mem_range.2 small)
        exact absurd (by simpa using same) nowhere
      | some other =>
        have listed := mem_range.1 (mem_of_find?_eq_some found)
        have written : char.toLower = digitChar other := by
          simpa using List.find?_some found
        rw [digitChar_injective digit small other listed (same.symm.trans written)]
  · have beyond : 128 ≤ char.toNat := by omega
    rw [hexValue_of_not_ascii beyond, toLower_of_not_ascii beyond]
    constructor
    · intro found
      cases found
    · rintro ⟨small, rfl⟩
      have := digitChar_ascii digit small
      omega

/-! ### Bytes -/

@[simp]
theorem hexEncode_nil : hexEncode [] = [] :=
  rfl

@[simp]
theorem hexEncode_cons : hexEncode (byte :: raw) = hexByte byte ++ hexEncode raw :=
  rfl

theorem length_hexEncode : (hexEncode raw).length = 2 * raw.length := by
  induction raw with
  | nil => rfl
  | cons byte raw ih =>
    rw [hexEncode_cons, length_append, ih, length_cons]
    simp only [hexByte, length_cons, length_nil]
    omega

theorem high_lt : byte.toNat / 16 < 16 := by
  have := byte.toNat_lt
  omega

theorem mem_hexEncode (inside : char ∈ hexEncode raw) :
    ∃ digit < 16, char = digitChar digit := by
  obtain ⟨byte, -, here⟩ := mem_flatMap.1 inside
  rcases mem_cons.1 here with rfl | here
  · exact ⟨_, high_lt, rfl⟩
  · rw [mem_singleton] at here
    exact ⟨_, mod_lt _ (by decide), here⟩

theorem hexEncode_ascii (inside : char ∈ hexEncode raw) : char.toNat < 128 := by
  obtain ⟨digit, small, rfl⟩ := mem_hexEncode inside
  exact digitChar_ascii digit small

theorem hexEncode_visible (inside : char ∈ hexEncode raw) : isSpace char = false := by
  obtain ⟨digit, small, rfl⟩ := mem_hexEncode inside
  exact digitChar_visible digit small

theorem map_toLower_hexEncode : (hexEncode raw).map Char.toLower = hexEncode raw := by
  refine (map_congr_left fun char inside => ?_).trans (map_id _)
  obtain ⟨digit, small, rfl⟩ := mem_hexEncode inside
  exact toLower_digitChar digit small

/-- Two digits are the halves of one byte. -/
theorem halves_iff {high low : Nat} (above : high < 16) (below : low < 16) :
    UInt8.ofNat (16 * high + low) = byte ↔
      byte.toNat / 16 = high ∧ byte.toNat % 16 = low := by
  have whole : (UInt8.ofNat (16 * high + low)).toNat = 16 * high + low :=
    mod_eq_of_lt (by omega)
  rw [← UInt8.toNat_inj, whole]
  have := byte.toNat_lt
  omega

/-- Without white space, what is read is what the lower case was written for. -/
theorem fromHex_iff (visible : ∀ char ∈ text, isAsciiSpace char = false) :
    fromHex text = some raw ↔ text.map Char.toLower = hexEncode raw := by
  induction text using fromHex.induct generalizing raw with
  | case1 =>
    cases raw with
    | nil => simp [fromHex]
    | cons byte raw => simp [fromHex, hexByte]
  | case2 char space => simp [visible char] at space
  | case3 char space =>
    cases raw with
    | nil => simp [fromHex, space]
    | cons byte raw => simp [fromHex, space, hexByte]
  | case4 first second rest space => simp [visible first] at space
  | case5 first second rest space ih =>
    have later : ∀ char ∈ rest, isAsciiSpace char = false := fun char inside =>
      visible char (mem_cons_of_mem _ (mem_cons_of_mem _ inside))
    rw [fromHex, if_neg space]
    simp only [Option.bind_eq_bind, Option.bind_eq_some_iff, Option.some.injEq]
    cases raw with
    | nil => simp
    | cons byte raw =>
      rw [map_cons, map_cons, hexEncode_cons, hexByte]
      constructor
      · rintro ⟨high, highRead, low, lowRead, others, read, same⟩
        obtain ⟨whole, rfl⟩ := List.cons.inj same
        obtain ⟨above, highSame⟩ := hexValue_iff.1 highRead
        obtain ⟨below, lowSame⟩ := hexValue_iff.1 lowRead
        obtain ⟨rfl, rfl⟩ := (halves_iff above below).1 whole
        rw [highSame, lowSame, (ih later).1 read]
        rfl
      · intro same
        obtain ⟨highSame, same⟩ := List.cons.inj same
        obtain ⟨lowSame, same⟩ := List.cons.inj same
        have below : byte.toNat % 16 < 16 := mod_lt _ (by decide)
        refine ⟨_, hexValue_iff.2 ⟨high_lt, highSame⟩, _, hexValue_iff.2 ⟨below, lowSame⟩,
          raw, (ih later).2 same, ?_⟩
        rw [(halves_iff high_lt below).2 ⟨rfl, rfl⟩]

/-- White space of ASCII is white space. -/
theorem isSpace_of_isAsciiSpace (space : isAsciiSpace char = true) : isSpace char = true := by
  rcases of_decide_eq_true space with rfl | ⟨above, below⟩
  · decide
  · simp [isSpace, above, below]

theorem fromHex_hexEncode : fromHex (hexEncode raw) = some raw := by
  refine (fromHex_iff fun char inside => ?_).2 map_toLower_hexEncode
  cases space : isAsciiSpace char with
  | false => rfl
  | true => rw [← isSpace_of_isAsciiSpace space, hexEncode_visible inside]

end Text
