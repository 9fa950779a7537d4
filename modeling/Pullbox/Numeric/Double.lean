import Mathlib.Data.Int.Log
import Mathlib.Data.Rat.Floor

/-!
# Binary floating point

Doubles as the rationals they stand for. An operation computes the exact value and takes the nearest
double: 53 significant bits, none of them below the least subnormal one, and of two that are equally
near the one whose last bit is even. Sums are compensated: what each addition lost is added up beside
the sum and joins it at the end.

Overflow is left out, and so is the sign of zero: the values here stay far below the largest double.
What can be read from outside may also be infinite or no number at all.
-/

namespace Numeric

/-- The nearest integer, and the even one of two. -/
def roundHalfEven (value : Rat) : Int :=
  let rest := value - ⌊value⌋
  if rest < 1 / 2 then ⌊value⌋
  else if 1 / 2 < rest then ⌊value⌋ + 1
  else if ⌊value⌋ % 2 = 0 then ⌊value⌋
  else ⌊value⌋ + 1

variable {value : Rat}

theorem roundHalfEven_nonneg (nonneg : 0 ≤ value) : 0 ≤ roundHalfEven value := by
  have floor : 0 ≤ ⌊value⌋ := Int.floor_nonneg.2 nonneg
  unfold roundHalfEven
  dsimp only
  split_ifs <;> omega

theorem roundHalfEven_le {bound : Int} (within : value ≤ bound) :
    roundHalfEven value ≤ bound := by
  have floor : ⌊value⌋ ≤ bound := by
    have below : (⌊value⌋ : Rat) ≤ bound := (Int.floor_le value).trans within
    exact_mod_cast below
  -- A value that is rounded up is not an integer.
  have up (half : ¬ value - ⌊value⌋ < 1 / 2) : ⌊value⌋ + 1 ≤ bound := by
    by_contra above
    have same : ⌊value⌋ = bound := by omega
    rw [same] at half
    linarith
  unfold roundHalfEven
  dsimp only
  split_ifs with low high even
  · exact floor
  · exact up low
  · exact floor
  · exact up low

/-- The exponent of the last bit of the doubles around a value. -/
def lastPlace (value : Rat) : Int :=
  max (Int.log 2 |value| - 52) (-1074)

/-- The double nearest to a value. -/
def roundDouble (value : Rat) : Rat :=
  roundHalfEven (value / 2 ^ lastPlace value) * 2 ^ lastPlace value

theorem roundDouble_nonneg (nonneg : 0 ≤ value) : 0 ≤ roundDouble value := by
  have unit : (0 : Rat) < 2 ^ lastPlace value := zpow_pos (by norm_num) _
  have rounded : (0 : Rat) ≤ roundHalfEven (value / 2 ^ lastPlace value) := by
    exact_mod_cast roundHalfEven_nonneg (div_nonneg nonneg unit.le)
  exact mul_nonneg rounded unit.le

/-- Up to the largest integers of 53 bits, the last bit is at most that of one. -/
theorem lastPlace_nonpos {bound : Nat} (nonneg : 0 ≤ value) (within : value ≤ bound)
    (exact : bound < 2 ^ 53) : lastPlace value ≤ 0 := by
  unfold lastPlace
  rw [abs_of_nonneg nonneg]
  have small : Int.log 2 value < 53 := by
    rcases nonneg.eq_or_lt with zero | positive
    · rw [← zero, Int.log_zero_right]
      decide
    · rw [← Int.lt_zpow_iff_log_lt (by decide) positive]
      refine within.trans_lt ?_
      exact_mod_cast exact
  omega

/-- Rounding does not pass an integer that is a double. -/
theorem roundDouble_le {bound : Nat} (nonneg : 0 ≤ value) (within : value ≤ bound)
    (exact : bound < 2 ^ 53) : roundDouble value ≤ bound := by
  obtain ⟨places, known⟩ := Int.exists_eq_neg_ofNat (lastPlace_nonpos nonneg within exact)
  have unit : (0 : Rat) < 2 ^ lastPlace value := zpow_pos (by norm_num) _
  have whole : ((bound * 2 ^ places : Nat) : Rat) * 2 ^ lastPlace value = bound := by
    rw [known, zpow_neg, zpow_natCast]
    push_cast
    field_simp
  have scaled : roundHalfEven (value / 2 ^ lastPlace value) ≤ (bound * 2 ^ places : Nat) := by
    apply roundHalfEven_le
    rw [div_le_iff₀ unit]
    exact_mod_cast within.trans_eq whole.symm
  have cast : (roundHalfEven (value / 2 ^ lastPlace value) : Rat) ≤
      ((bound * 2 ^ places : Nat) : Rat) := by
    exact_mod_cast scaled
  calc roundDouble value
      ≤ ((bound * 2 ^ places : Nat) : Rat) * 2 ^ lastPlace value :=
        mul_le_mul_of_nonneg_right cast unit.le
    _ = bound := whole

/-! ### Sums -/

/-- A running sum, and what rounding lost of it. -/
structure CompensatedSum where
  total : Rat := 0
  lost : Rat := 0

/-- One more term. What is lost is what the lesser of the two did not bring into the total. -/
def CompensatedSum.add (sum : CompensatedSum) (term : Rat) : CompensatedSum :=
  let total := roundDouble (sum.total + term)
  let lost :=
    if |term| ≤ |sum.total| then roundDouble (roundDouble (sum.total - total) + term)
    else roundDouble (roundDouble (term - total) + sum.total)
  { total := total
    lost := roundDouble (sum.lost + lost) }

/-- The sum of doubles, from the first to the last. -/
def sumDoubles (terms : List Rat) : Rat :=
  let sum := terms.foldl CompensatedSum.add {}
  roundDouble (sum.total + sum.lost)

/-- A `float` that is read from outside. -/
inductive Double where
  | finite (value : Rat)
  | infinity
  | negInfinity
  | nan
deriving DecidableEq

end Numeric
