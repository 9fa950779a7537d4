import Mathlib.Data.List.Basic

/-!
# Characters and stripped text

Which characters count as white space and as decimal digits, and text without the white
space around it.
-/

namespace Text

/-- Texts are compared character by character. -/
instance lawfulText : LawfulBEq (List Char) := inferInstance

/-- What is checked of each item of a list holds of them; a bounded check decides it where one
over all characters would not end. -/
theorem forall_mem_of_all {Item : Type*} {items : List Item} {good : Item → Prop}
    [DecidablePred good] (all : items.all (fun item => good item) = true) :
    ∀ item ∈ items, good item :=
  fun item inside => of_decide_eq_true (List.all_eq_true.1 all item inside)

/-- A character that `isspace` accepts. -/
def isSpace (char : Char) : Bool :=
  let code := char.toNat
  (9 ≤ code && code ≤ 13) || (28 ≤ code && code ≤ 32) || code == 0x85 || code == 0xa0 ||
    code == 0x1680 || (0x2000 ≤ code && code ≤ 0x200a) || code == 0x2028 || code == 0x2029 ||
    code == 0x202f || code == 0x205f || code == 0x3000

def rstripWhile (drop : Char → Bool) (text : List Char) : List Char :=
  (text.reverse.dropWhile drop).reverse

/-- `strip`. -/
def strip (text : List Char) : List Char :=
  rstripWhile isSpace (text.dropWhile isSpace)

/-- The zeros of the decimal digits; the other nine of each row follow. -/
def decimalZeros : List Nat :=
  [0x30, 0x660, 0x6f0, 0x7c0, 0x966, 0x9e6, 0xa66, 0xae6, 0xb66, 0xbe6, 0xc66, 0xce6, 0xd66,
    0xde6, 0xe50, 0xed0, 0xf20, 0x1040, 0x1090, 0x17e0, 0x1810, 0x1946, 0x19d0, 0x1a80, 0x1a90,
    0x1b50, 0x1bb0, 0x1c40, 0x1c50, 0xa620, 0xa8d0, 0xa900, 0xa9d0, 0xa9f0, 0xaa50, 0xabf0,
    0xff10, 0x104a0, 0x10d30, 0x11066, 0x110f0, 0x11136, 0x111d0, 0x112f0, 0x11450, 0x114d0,
    0x11650, 0x116c0, 0x11730, 0x118e0, 0x11950, 0x11c50, 0x11d50, 0x11da0, 0x11f50, 0x16a60,
    0x16ac0, 0x16b50, 0x1d7ce, 0x1d7d8, 0x1d7e2, 0x1d7ec, 0x1d7f6, 0x1e140, 0x1e2f0, 0x1e4f0,
    0x1e950, 0x1fbf0]

/-- The value of a decimal digit. -/
def digitValue (char : Char) : Option Nat :=
  (decimalZeros.find? fun start => start ≤ char.toNat && char.toNat < start + 10).map
    (char.toNat - ·)

/-- The number that decimal digits spell. -/
def decimalValue (digits : List Char) : Nat :=
  digits.foldl (fun value digit => 10 * value + (digitValue digit).getD 0) 0

end Text
