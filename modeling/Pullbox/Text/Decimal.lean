import Mathlib.Data.List.Induction
import Pullbox.Text.Characters

/-!
# Decimal numbers

A number is written in one way: its digits without a zero in front. Characters below 256 and their
bytes.
-/

namespace Text

open List Nat

variable {digits text : List Char} {number : Nat}

/-- What stands before the first separator. -/
theorem takeWhile_of_not_mem {separator : Char} {left right : List Char}
    (absent : separator ∉ left) :
    (left ++ separator :: right).takeWhile (· ≠ separator) = left := by
  rw [takeWhile_append_of_pos]
  · simp
  · intro char inside
    simp only [decide_eq_true_eq]
    rintro rfl
    exact absent inside

/-! ### Decimal numbers -/

/-- Digits, at least one, without a zero in front of others. -/
def isCanonical (digits : List Char) : Bool :=
  digits != [] && digits.all Char.isDigit && !(1 < digits.length && digits.head? == some '0')

theorem isCanonical_iff :
    isCanonical digits = true ↔
      digits ≠ [] ∧ (∀ char ∈ digits, char.isDigit = true) ∧
        (1 < digits.length → digits.head? ≠ some '0') := by
  simp [isCanonical, and_assoc, imp_iff_not_or]

/-- The value of a digit. -/
theorem digitChar_of_isDigit {char : Char} (digit : char.isDigit = true) :
    ∃ value < 10, value.digitChar = char := by
  have bounds : 48 ≤ char.toNat ∧ char.toNat ≤ 57 := Char.isDigit_iff_toNat.1 digit
  refine ⟨char.toNat - 48, by omega, ?_⟩
  apply Char.toNat_inj.1
  have code := toNat_digitChar_of_lt_ten (show char.toNat - 48 < 10 by omega)
  rw [code]
  omega

theorem ofDigitChars_pos (digit : ∀ char ∈ digits, char.isDigit = true) (inhabited : digits ≠ [])
    (first : digits.head? ≠ some '0') : 0 < ofDigitChars 10 digits 0 := by
  cases digits with
  | nil => exact absurd rfl inhabited
  | cons char rest =>
    obtain ⟨value, small, rfl⟩ := digitChar_of_isDigit (digit char mem_cons_self)
    have positive : 0 < value := by
      rcases Nat.eq_zero_or_pos value with rfl | positive
      · exact absurd rfl first
      · exact positive
    rw [ofDigitChars_cons_digitChar_of_lt_ten small, ofDigitChars_eq_ofDigitChars_zero]
    have : 0 < 10 ^ rest.length * (10 * 0 + value) :=
      Nat.mul_pos (Nat.pow_pos (by decide)) (by omega)
    omega

/-- Digits without a zero in front are those of their value. -/
theorem toDigits_ofDigitChars (canonical : isCanonical digits = true) :
    toDigits 10 (ofDigitChars 10 digits 0) = digits := by
  induction digits using List.reverseRecOn with
  | nil => cases canonical
  | append_singleton before last ih =>
    obtain ⟨-, digit, first⟩ := isCanonical_iff.1 canonical
    obtain ⟨value, small, rfl⟩ := digitChar_of_isDigit (digit last (by simp))
    by_cases alone : before = []
    · subst alone
      rw [nil_append, ofDigitChars_cons_digitChar_of_lt_ten small, ofDigitChars_nil,
        Nat.mul_zero, Nat.zero_add, Nat.toDigits_of_lt_base small]
    · have leads : before.head? ≠ some '0' := by
        intro zero
        have longer : 1 < (before ++ [value.digitChar]).length := by
          have := length_pos_iff.2 alone
          simp
          omega
        refine first longer ?_
        rw [List.head?_append, zero]
        rfl
      have digitBefore : ∀ char ∈ before, char.isDigit = true := fun char inside =>
        digit char (mem_append_left _ inside)
      have positive := ofDigitChars_pos digitBefore alone leads
      have same := ih (isCanonical_iff.2 ⟨alone, digitBefore, fun _ => leads⟩)
      rw [ofDigitChars_append, ofDigitChars_cons_digitChar_of_lt_ten small,
        ofDigitChars_nil, ← toDigits_append_toDigits (by decide) positive small, same,
        Nat.toDigits_of_lt_base small]

theorem toDigits_head? (positive : 0 < number) : (toDigits 10 number).head? ≠ some '0' := by
  induction number using Nat.strongRecOn with
  | ind number ih =>
    by_cases small : number < 10
    · rw [Nat.toDigits_of_lt_base small]
      intro zero
      have same : number.digitChar = '0' := Option.some.inj zero
      have code := toNat_digitChar_of_lt_ten small
      rw [same] at code
      have : '0'.toNat = 48 := rfl
      omega
    · intro zero
      rw [toDigits_of_base_le (by decide) (by omega), List.head?_append] at zero
      refine ih (number / 10) (by omega) (by omega) ?_
      cases head : (toDigits 10 (number / 10)).head? with
      | none => exact absurd (List.head?_eq_none_iff.1 head) toDigits_ne_nil
      | some char =>
        rw [head] at zero
        exact zero

/-- A number has no zero in front. -/
theorem isCanonical_toDigits : isCanonical (toDigits 10 number) = true := by
  refine isCanonical_iff.2 ⟨toDigits_ne_nil, ?_, ?_⟩
  · intro char inside
    exact isDigit_of_mem_toDigits (by decide) (by decide) inside
  · intro longer
    rcases Nat.eq_zero_or_pos number with rfl | positive
    · simp at longer
    · exact toDigits_head? positive

/-- The digits that `toDigits` writes are the first row of the decimal digits. -/
theorem digitValue_of_isDigit {char : Char} (digit : char.isDigit = true) :
    digitValue char = some (char.toNat - 48) := by
  have bounds : 48 ≤ char.toNat ∧ char.toNat ≤ 57 := Char.isDigit_iff_toNat.1 digit
  have row : (decide (48 ≤ char.toNat) && decide (char.toNat < 48 + 10)) = true := by
    simp only [Bool.and_eq_true, decide_eq_true_eq]
    omega
  have found : decimalZeros.find? (fun start => start ≤ char.toNat && char.toNat < start + 10) =
      some 48 := by
    unfold decimalZeros
    exact List.find?_cons_of_pos row
  unfold digitValue
  rw [found, Option.map_some]

theorem decimalValue_of_isDigit (plain : ∀ char ∈ digits, char.isDigit = true) :
    decimalValue digits = ofDigitChars 10 digits 0 := by
  rw [decimalValue, ofDigitChars_eq_foldl]
  refine foldl_ext _ _ _ fun value char inside => ?_
  rw [digitValue_of_isDigit (plain char inside), Option.getD_some]
  rfl

@[simp]
theorem decimalValue_toDigits : decimalValue (toDigits 10 number) = number := by
  rw [decimalValue_of_isDigit fun char inside =>
    isDigit_of_mem_toDigits (by decide) (by decide) inside]
  exact ofDigitChars_ten_toDigits

/-- Only letters are folded to letters. -/
theorem toLower_eq {char plain : Char} (low : plain.toNat < 97) (same : char.toLower = plain) :
    char = plain := by
  unfold Char.toLower at same
  split at same
  · rename_i upper
    have least : 65 ≤ char.val.toNat := UInt32.le_iff_toNat_le.1 upper.1
    have most : char.val.toNat ≤ 90 := UInt32.le_iff_toNat_le.1 upper.2
    have moved : (char.val + 32).toNat = plain.toNat := congrArg Char.toNat same
    rw [UInt32.toNat_add] at moved
    have distance : (32 : UInt32).toNat = 32 := rfl
    omega
  · exact same

/-- Folded text that begins without a letter began with the same text. -/
theorem prefix_of_map_toLower {low : List Char} (plain : ∀ char ∈ low, char.toNat < 97)
    (front : low <+: text.map Char.toLower) : low <+: text := by
  induction low generalizing text with
  | nil => exact nil_prefix
  | cons char low ih =>
    cases text with
    | nil => exact absurd (prefix_nil.1 front) (cons_ne_nil _ _)
    | cons first rest =>
      rw [map_cons, cons_prefix_cons] at front
      have same := toLower_eq (plain char mem_cons_self) front.1.symm
      refine cons_prefix_cons.2 ⟨same.symm, ?_⟩
      exact ih (fun other inside => plain other (mem_cons_of_mem _ inside)) front.2

end Text

/-! ### Bytes -/

namespace Text.Bytes

open List Nat

variable {byte : UInt8} {raw : List UInt8} {number : Nat}

/-- The byte of an ASCII character. -/
def ord (char : Char) : UInt8 :=
  char.toNat.toUInt8

/-- A number as bytes. -/
def decimal (number : Nat) : List UInt8 :=
  (toDigits 10 number).map ord

/-- The character of a byte. -/
def chr (byte : UInt8) : Char :=
  Char.ofNat byte.toNat

/-- A byte that `isdigit` accepts. -/
def isDigit (byte : UInt8) : Bool :=
  48 ≤ byte && byte ≤ 57

theorem toNat_chr : (chr byte).toNat = byte.toNat := by
  have small := byte.toNat_lt
  have valid : byte.toNat.isValidChar := .inl (by omega)
  unfold chr Char.ofNat
  rw [dif_pos valid]
  rfl

@[simp]
theorem ord_chr : ord (chr byte) = byte := by
  unfold ord
  rw [toNat_chr]
  exact UInt8.ofNat_toNat

theorem chr_ord {char : Char} (ascii : char.toNat < 256) : chr (ord char) = char := by
  unfold chr ord
  have same : char.toNat.toUInt8.toNat = char.toNat := mod_eq_of_lt ascii
  rw [same, Char.ofNat_toNat]

theorem isDigit_iff : isDigit byte = true ↔ 48 ≤ byte.toNat ∧ byte.toNat ≤ 57 := by
  simp [isDigit, UInt8.le_iff_toNat_le]

theorem isDigit_chr : (chr byte).isDigit = isDigit byte := by
  rw [Bool.eq_iff_iff, isDigit_iff, Char.isDigit_iff_toNat, toNat_chr]
  rfl

theorem isDigit_of_mem_decimal (inside : byte ∈ decimal number) : isDigit byte = true := by
  obtain ⟨char, digit, rfl⟩ := mem_map.1 inside
  have bounds := isDigit_of_mem_toDigits (by decide) (by decide) digit
  have small := Char.isDigit_iff_toNat.1 bounds
  rw [← isDigit_chr, chr_ord (by have : '9'.toNat = 57 := rfl; omega)]
  exact bounds

theorem map_chr_decimal : (decimal number).map chr = toDigits 10 number := by
  unfold decimal
  rw [map_map]
  refine map_congr_left (fun char digit => ?_) |>.trans (map_id _)
  have bounds := isDigit_of_mem_toDigits (by decide) (by decide) digit
  have small := Char.isDigit_iff_toNat.1 bounds
  exact chr_ord (by have : '9'.toNat = 57 := rfl; omega)

/-- The number that digits spell. -/
def decimalValue (digits : List UInt8) : Nat :=
  ofDigitChars 10 (digits.map chr) 0

@[simp]
theorem decimalValue_decimal : decimalValue (decimal number) = number := by
  unfold decimalValue
  rw [map_chr_decimal, ofDigitChars_ten_toDigits]

theorem decimal_ne_nil : decimal number ≠ [] := by
  simp [decimal, toDigits_ne_nil]

/-- Digits, at least one, without a zero in front of others. -/
def isCanonical (digits : List UInt8) : Bool :=
  Text.isCanonical (digits.map chr)

theorem isCanonical_decimal : isCanonical (decimal number) = true := by
  unfold isCanonical
  rw [map_chr_decimal]
  exact isCanonical_toDigits

theorem decimal_decimalValue (canonical : isCanonical raw = true) :
    decimal (decimalValue raw) = raw := by
  unfold decimal decimalValue
  rw [toDigits_ofDigitChars canonical, map_map]
  refine map_congr_left (fun byte _ => ?_) |>.trans (map_id _)
  exact ord_chr

end Text.Bytes
