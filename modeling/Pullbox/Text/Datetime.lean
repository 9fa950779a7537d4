import Mathlib.Data.List.Basic
import Mathlib.Tactic.Ring

/-!
# Readings of the clock in UTC and their text

A reading by its fields, as `datetime` keeps it, an hour later, and the texts that `isoformat`
writes and `fromisoformat` reads back.
-/

namespace Text

open Nat

/-- The last `width` decimal digits of a number. -/
def padDigits : Nat → Nat → List Char
  | 0, _ => []
  | width + 1, number => digitChar (number / 10 ^ width % 10) :: padDigits width number

/-- Read exactly `width` digits after the ones that make up `value`. -/
def readDigits : Nat → Nat → List Char → Option (Nat × List Char)
  | 0, value, text => some (value, text)
  | _ + 1, _, [] => none
  | width + 1, value, char :: rest =>
    if char.isDigit then readDigits width (10 * value + (char.toNat - 48)) rest else none

theorem digitChar_reads : ∀ digit < 10,
    (digitChar digit).isDigit = true ∧ (digitChar digit).toNat - 48 = digit := by
  decide

theorem readDigits_padDigits (width value number : Nat) (rest : List Char) :
    readDigits width value (padDigits width number ++ rest) =
      some (value * 10 ^ width + number % 10 ^ width, rest) := by
  induction width generalizing value with
  | zero => simp [readDigits, padDigits, mod_one]
  | succ width ih =>
    obtain ⟨digit, same⟩ := digitChar_reads (number / 10 ^ width % 10) (mod_lt _ (by decide))
    rw [padDigits, List.cons_append, readDigits, if_pos digit, same, ih, mod_pow_succ]
    congr 2
    ring

theorem readDigits_of_lt {width number : Nat} (bound : number < 10 ^ width) (rest : List Char) :
    readDigits width 0 (padDigits width number ++ rest) = some (number, rest) := by
  rw [readDigits_padDigits, mod_eq_of_lt bound, zero_mul, zero_add]

/-- A text that starts with the character, without it. -/
def expect (char : Char) : List Char → Option (List Char)
  | [] => none
  | first :: rest => if first = char then some rest else none

/-- Numbers of fixed widths, each after its mark. -/
def writeFields : List (Char × Nat) → List Nat → List Char
  | (mark, width) :: fields, number :: numbers =>
    mark :: padDigits width number ++ writeFields fields numbers
  | _, _ => []

def readFields : List (Char × Nat) → List Char → Option (List Nat × List Char)
  | [], text => some ([], text)
  | (mark, width) :: fields, text => do
      let (number, text) ← readDigits width 0 (← expect mark text)
      let (numbers, text) ← readFields fields text
      some (number :: numbers, text)

theorem readFields_writeFields {fields : List (Char × Nat)} {numbers : List Nat}
    (fit : List.Forall₂ (fun field number => number < 10 ^ field.2) fields numbers)
    (rest : List Char) :
    readFields fields (writeFields fields numbers ++ rest) = some (numbers, rest) := by
  induction fit with
  | nil => rfl
  | @cons field number fields numbers bound _ ih =>
    obtain ⟨mark, width⟩ := field
    simp only [writeFields, readFields, List.cons_append, List.append_assoc, expect, if_true]
    simp only [Option.bind_eq_bind, Option.bind_some, readDigits_of_lt bound, ih]

def leapYear (year : Nat) : Bool :=
  year % 4 == 0 && (year % 100 != 0 || year % 400 == 0)

def daysInMonth (year month : Nat) : Nat :=
  if month = 2 then if leapYear year then 29 else 28
  else if month = 4 ∨ month = 6 ∨ month = 9 ∨ month = 11 then 30
  else 31

theorem daysInMonth_bounds (year month : Nat) :
    28 ≤ daysInMonth year month ∧ daysInMonth year month ≤ 31 := by
  unfold daysInMonth
  split_ifs <;> omega

/-- The parts of a written time. -/
structure Reading where
  year : Nat
  month : Nat
  day : Nat
  hour : Nat
  minute : Nat
  second : Nat
  microsecond : Nat

/-- The parts are within their ranges. -/
structure Reading.Valid (reading : Reading) : Prop where
  year : 1 ≤ reading.year ∧ reading.year ≤ 9999
  month : 1 ≤ reading.month ∧ reading.month ≤ 12
  day : 1 ≤ reading.day ∧ reading.day ≤ daysInMonth reading.year reading.month
  hour : reading.hour < 24
  minute : reading.minute < 60
  second : reading.second < 60
  microsecond : reading.microsecond < 1000000

instance (reading : Reading) : Decidable reading.Valid :=
  decidable_of_iff
    ((1 ≤ reading.year ∧ reading.year ≤ 9999) ∧ (1 ≤ reading.month ∧ reading.month ≤ 12) ∧
      (1 ≤ reading.day ∧ reading.day ≤ daysInMonth reading.year reading.month) ∧
      reading.hour < 24 ∧ reading.minute < 60 ∧ reading.second < 60 ∧
      reading.microsecond < 1000000)
    ⟨fun ⟨year, month, day, hour, minute, second, microsecond⟩ =>
      ⟨year, month, day, hour, minute, second, microsecond⟩,
    fun valid => ⟨valid.year, valid.month, valid.day, valid.hour, valid.minute, valid.second,
      valid.microsecond⟩⟩

/-- A `datetime` in UTC. -/
structure Datetime extends Reading where
  valid : toReading.Valid

namespace Datetime

/-- The reading as a `datetime`, if there is such a day and time of day. -/
def ofReading (reading : Reading) : Option Datetime :=
  if valid : reading.Valid then some ⟨reading, valid⟩ else none

theorem ofReading_toReading (time : Datetime) : ofReading time.toReading = some time :=
  dif_pos time.valid

/-- The start of the day that follows. -/
def nextDay (reading : Reading) : Reading :=
  let start := { reading with hour := 0 }
  if reading.day < daysInMonth reading.year reading.month then
    { start with day := reading.day + 1 }
  else if reading.month < 12 then { start with month := reading.month + 1, day := 1 }
  else { start with year := reading.year + 1, month := 1, day := 1 }

/-- `+ timedelta(hours=1)`, or `none` where it raises an `OverflowError`. -/
def plusHour (time : Datetime) : Option Datetime :=
  if time.hour < 23 then ofReading { time.toReading with hour := time.hour + 1 }
  else ofReading (nextDay time.toReading)

/-- The fields after the year. -/
def fields : List (Char × Nat) :=
  [('-', 2), ('-', 2), ('T', 2), (':', 2), (':', 2)]

def utcOffset : List Char := ['+', '0', '0', ':', '0', '0']

/-- `isoformat`. -/
def isoformat (time : Datetime) : List Char :=
  let fraction := if time.microsecond = 0 then [] else writeFields [('.', 6)] [time.microsecond]
  padDigits 4 time.year ++
    (writeFields fields [time.month, time.day, time.hour, time.minute, time.second] ++
      (fraction ++ utcOffset))

/-- The microseconds and what follows them. -/
def readFraction (text : List Char) : Option (List Nat × List Char) :=
  if text.head? = some '.' then readFields [('.', 6)] text else some ([0], text)

/-- `fromisoformat`, for the texts that `isoformat` writes, with UTC's offset or none. -/
def fromisoformat (text : List Char) : Option Datetime := do
  let (year, text) ← readDigits 4 0 text
  let (numbers, text) ← readFields fields text
  let (fraction, offset) ← readFraction text
  match numbers, fraction with
  | [month, day, hour, minute, second], [microsecond] =>
    if offset = [] ∨ offset = utcOffset then
      ofReading ⟨year, month, day, hour, minute, second, microsecond⟩
    else none
  | _, _ => none

theorem readFraction_write {microsecond : Nat} (bound : microsecond < 10 ^ 6) :
    readFraction ((if microsecond = 0 then [] else writeFields [('.', 6)] [microsecond]) ++
      utcOffset) = some ([microsecond], utcOffset) := by
  by_cases whole : microsecond = 0
  · subst whole
    rfl
  · have marked : (writeFields [('.', 6)] [microsecond] ++ utcOffset).head? = some '.' := rfl
    rw [if_neg whole, readFraction, if_pos marked]
    exact readFields_writeFields (.cons bound .nil) utcOffset

theorem fields_fit (time : Datetime) :
    List.Forall₂ (fun field number => number < 10 ^ field.2) fields
      [time.month, time.day, time.hour, time.minute, time.second] := by
  have days := daysInMonth_bounds time.year time.month
  have month := time.valid.month
  have day := time.valid.day
  have hour := time.valid.hour
  have minute := time.valid.minute
  have second := time.valid.second
  refine .cons ?_ (.cons ?_ (.cons ?_ (.cons ?_ (.cons ?_ .nil))))
  all_goals
    change _ < 100
    omega

theorem fromisoformat_isoformat (time : Datetime) :
    fromisoformat time.isoformat = some time := by
  have inYear : time.year < 10 ^ 4 := lt_succ_of_le time.valid.year.2
  have inMicrosecond : time.microsecond < 10 ^ 6 := time.valid.microsecond
  simp only [fromisoformat, isoformat, readDigits_of_lt inYear, Option.bind_eq_bind,
    Option.bind_some, readFields_writeFields (fields_fit time), readFraction_write inMicrosecond,
    or_true, if_true]
  exact ofReading_toReading time

end Datetime

end Text
