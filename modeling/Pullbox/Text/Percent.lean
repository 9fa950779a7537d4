import Mathlib.Data.List.SplitBy
import Pullbox.Text.Decimal
import Pullbox.Text.Hex

/-!
# Percent-encoded text

The bytes behind percent signs, read as UTF-8 with a replacement character in place of what is not
UTF-8.
-/

namespace Text

open List

variable {raw : List UInt8} {text : List Char} {char : Char} {byte : Nat}

/-- A character of which some bytes are read. -/
structure Pending where
  code : Nat
  missing : Nat
  lower : Nat := 0x80
  upper : Nat := 0xbf

def replacement : Char :=
  Char.ofNat 0xfffd

/-- A byte where no character has begun. -/
def leadByte (byte : Nat) : List Char × Option Pending :=
  if byte < 0x80 then ([Char.ofNat byte], none)
  else if 0xc2 ≤ byte ∧ byte ≤ 0xdf then ([], some { code := byte - 0xc0, missing := 1 })
  else if 0xe0 ≤ byte ∧ byte ≤ 0xef then
    ([], some {
      code := byte - 0xe0
      missing := 2
      lower := if byte = 0xe0 then 0xa0 else 0x80
      upper := if byte = 0xed then 0x9f else 0xbf })
  else if 0xf0 ≤ byte ∧ byte ≤ 0xf4 then
    ([], some {
      code := byte - 0xf0
      missing := 3
      lower := if byte = 0xf0 then 0x90 else 0x80
      upper := if byte = 0xf4 then 0x8f else 0xbf })
  else ([replacement], none)

/-- A byte that continues a character, or breaks it off. -/
def decodeByte : Option Pending → Nat → List Char × Option Pending
  | none, byte => leadByte byte
  | some pending, byte =>
    if pending.lower ≤ byte ∧ byte ≤ pending.upper then
      let code := pending.code * 64 + (byte - 0x80)
      if pending.missing = 1 then ([Char.ofNat code], none)
      else ([], some { code := code, missing := pending.missing - 1 })
    else (replacement :: (leadByte byte).1, (leadByte byte).2)

/-- `decode` with `errors="replace"`. -/
def decodeReplacing : Option Pending → List UInt8 → List Char
  | none, [] => []
  | some _, [] => [replacement]
  | pending, byte :: rest =>
    (decodeByte pending byte.toNat).1 ++ decodeReplacing (decodeByte pending byte.toNat).2 rest

/-- The byte that two digits spell. -/
def percentByte (first second : Char) : Option UInt8 := do
  let high ← hexValue first
  let low ← hexValue second
  some (UInt8.ofNat (16 * high + low))

/-- The bytes of ASCII, where two digits after a percent sign are one byte. -/
def unquoteBytes : List Char → List UInt8
  | [] => []
  | [char] => [Bytes.ord char]
  | [char, last] => [Bytes.ord char, Bytes.ord last]
  | char :: first :: second :: rest =>
    match percentByte first second with
    | some byte =>
      if char = '%' then byte :: unquoteBytes rest
      else Bytes.ord char :: unquoteBytes (first :: second :: rest)
    | none => Bytes.ord char :: unquoteBytes (first :: second :: rest)

def isAscii (char : Char) : Bool :=
  char.toNat < 0x80

/-- A run of ASCII, or of other characters. -/
def unquoteRun (run : List Char) : List Char :=
  if run.all isAscii then decodeReplacing none (unquoteBytes run) else run

/-- `urllib.parse.unquote`. -/
def unquote (text : List Char) : List Char :=
  if '%' ∈ text then
    (text.splitBy fun first second => isAscii first == isAscii second).flatMap unquoteRun
  else text

/-! ### Lengths -/

/-- A byte gives at most one character more than those it leaves begun. -/
theorem length_leadByte : (leadByte byte).1.length + (leadByte byte).2.toList.length = 1 := by
  unfold leadByte
  repeat' split
  all_goals rfl

theorem length_decodeByte {pending : Option Pending} :
    (decodeByte pending byte).1.length + (decodeByte pending byte).2.toList.length ≤
      pending.toList.length + 1 := by
  cases pending with
  | none => exact Nat.le_of_eq (by rw [decodeByte, length_leadByte]; rfl)
  | some pending =>
    rw [decodeByte]
    split
    · split
      · simp
      · simp
    · have lead : (leadByte byte).1.length + (leadByte byte).2.toList.length = 1 :=
        length_leadByte
      simp only [length_cons, Option.toList_some, length_nil]
      omega

theorem length_decodeReplacing {pending : Option Pending} :
    (decodeReplacing pending raw).length ≤ pending.toList.length + raw.length := by
  induction raw generalizing pending with
  | nil => cases pending <;> simp [decodeReplacing]
  | cons byte raw ih =>
    have here := @length_decodeByte byte.toNat pending
    have later := @ih (decodeByte pending byte.toNat).2
    rw [decodeReplacing, length_append, length_cons]
    omega

/-- ASCII is read as it is. -/
theorem decodeReplacing_ascii (ascii : ∀ char ∈ text, isAscii char = true) :
    decodeReplacing none (text.map Bytes.ord) = text := by
  induction text with
  | nil => rfl
  | cons char text ih =>
    have small : char.toNat < 0x80 := of_decide_eq_true (ascii char mem_cons_self)
    have same : (Bytes.ord char).toNat = char.toNat := Nat.mod_eq_of_lt (by omega)
    have lead : decodeByte none (Bytes.ord char).toNat = ([char], none) := by
      rw [decodeByte, leadByte, same, if_pos small, Char.ofNat_toNat]
    rw [map_cons, decodeReplacing, lead,
      ih fun other inside => ascii other (mem_cons_of_mem _ inside)]
    rfl

/-- Percent signs either stand for bytes or are their own. -/
theorem unquoteBytes_shorter :
    unquoteBytes text = text.map Bytes.ord ∨ (unquoteBytes text).length < text.length := by
  have longer (char : Char) {rest : List Char}
      (ih : unquoteBytes rest = rest.map Bytes.ord ∨ (unquoteBytes rest).length < rest.length) :
      Bytes.ord char :: unquoteBytes rest = (char :: rest).map Bytes.ord ∨
        (Bytes.ord char :: unquoteBytes rest).length < (char :: rest).length := by
    rcases ih with same | shorter
    · exact .inl (by rw [same]; rfl)
    · exact .inr (by simpa using shorter)
  fun_induction unquoteBytes text with
  | case1 => exact .inl rfl
  | case2 char => exact .inl rfl
  | case3 char last => exact .inl rfl
  | case4 first second rest byte read ih =>
    refine .inr ?_
    have : (unquoteBytes rest).length ≤ rest.length := by
      rcases ih with same | shorter
      · rw [same, length_map]
      · omega
    simp only [length_cons]
    omega
  | case5 char first second rest byte read other ih => exact longer char ih
  | case6 char first second rest unread ih => exact longer char ih

theorem unquoteRun_shorter (run : List Char) :
    unquoteRun run = run ∨ (unquoteRun run).length < run.length := by
  unfold unquoteRun
  split
  · rename_i ascii
    rcases @unquoteBytes_shorter run with same | shorter
    · rw [same, decodeReplacing_ascii (all_eq_true.1 ascii)]
      exact .inl rfl
    · have decoded := @length_decodeReplacing (unquoteBytes run) none
      simp only [Option.toList_none, length_nil] at decoded
      exact .inr (by omega)
  · exact .inl rfl

theorem flatMap_shorter {runs : List (List Char)} {change : List Char → List Char}
    (shorter : ∀ run, change run = run ∨ (change run).length < run.length) :
    runs.flatMap change = runs.flatten ∨ (runs.flatMap change).length < runs.flatten.length := by
  induction runs with
  | nil => exact .inl rfl
  | cons run runs ih =>
    rw [flatMap_cons, flatten_cons, length_append, length_append]
    rcases shorter run with same | less
    · rcases ih with rest | rest
      · exact .inl (by rw [same, rest])
      · exact .inr (by rw [same]; omega)
    · refine .inr ?_
      have : (runs.flatMap change).length ≤ runs.flatten.length := by
        rcases ih with rest | rest
        · rw [rest]
        · omega
      omega

/-- A text that `unquote` changes becomes shorter. -/
theorem unquote_shorter (text : List Char) :
    unquote text = text ∨ (unquote text).length < text.length := by
  unfold unquote
  split
  · have whole := @flatMap_shorter
      (text.splitBy fun first second => isAscii first == isAscii second) _ unquoteRun_shorter
    rwa [flatten_splitBy] at whole
  · exact .inl rfl

end Text
