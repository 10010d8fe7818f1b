import Mathlib.Algebra.Order.Field.Power
import Mathlib.Data.Rat.Cast.Order
import Mathlib.Tactic.NormNum
import Mathlib.Tactic.Positivity
import Mathlib.Tactic.Ring
import Ussd.Decimal.Binary64

/-! # The numbers that doubles are

A finite double is a rational number, and doubles are compared like their numbers. A whole number
below `wholeLimit` is a double itself. A larger one is rounded, but nothing rounds below the limit, so
that a comparison with a small whole number survives the rounding. -/

namespace Ussd

namespace Binary64

/-! ## Values and their order -/

/-- The number that a finite double is. -/
def finiteValue (negative : Bool) (mantissa : Nat) (exponent : Int) : ℚ :=
  (signed negative mantissa : ℚ) * 2 ^ exponent

def value? : Binary64 → Option ℚ
  | .finite negative mantissa exponent => some (finiteValue negative mantissa exponent)
  | _ => none

theorem signed_mul (negative : Bool) (left right : Nat) :
    signed negative (left * right) = signed negative left * right := by
  cases negative with
  | false => simp [signed]
  | true => simp [signed]

/-- In a unit that is fine enough, a finite double is a whole number. -/
theorem signed_scaled (negative : Bool) (mantissa : Nat) {exponent unit : Int}
    (fine : unit ≤ exponent) :
    ((signed negative (mantissa * Nat.pow 2 (exponent - unit).toNat) : Int) : ℚ) * 2 ^ unit =
      finiteValue negative mantissa exponent := by
  have shift : ((exponent - unit).toNat : Int) = exponent - unit :=
    Int.toNat_of_nonneg (Int.sub_nonneg_of_le fine)
  have split : (2 : ℚ) ^ exponent = 2 ^ (exponent - unit).toNat * 2 ^ unit := by
    rw [← zpow_natCast, shift, ← zpow_add₀ two_ne_zero, Int.sub_add_cancel]
  rw [finiteValue, split, signed_mul, Nat.pow_eq]
  push_cast
  ring

theorem lt_finite_iff (leftNegative : Bool) (leftMantissa : Nat) (leftExponent : Int)
    (rightNegative : Bool) (rightMantissa : Nat) (rightExponent : Int) :
    (Binary64.finite leftNegative leftMantissa leftExponent).lt
        (.finite rightNegative rightMantissa rightExponent) = true ↔
      finiteValue leftNegative leftMantissa leftExponent <
        finiteValue rightNegative rightMantissa rightExponent := by
  have positive : (0 : ℚ) < 2 ^ min leftExponent rightExponent := by positivity
  rw [← signed_scaled leftNegative leftMantissa (min_le_left leftExponent rightExponent),
    ← signed_scaled rightNegative rightMantissa (min_le_right leftExponent rightExponent),
    mul_lt_mul_iff_of_pos_right positive, Int.cast_lt]
  exact decide_eq_true_iff

theorem lt_iff_value_lt {left right : Binary64} {leftValue rightValue : ℚ}
    (isLeft : left.value? = some leftValue) (isRight : right.value? = some rightValue) :
    left.lt right = true ↔ leftValue < rightValue := by
  cases left with
  | nan => cases isLeft
  | infinite negative => cases isLeft
  | finite negative mantissa exponent =>
      cases right with
      | nan => cases isRight
      | infinite otherNegative => cases isRight
      | finite otherNegative otherMantissa otherExponent =>
          cases isLeft
          cases isRight
          exact lt_finite_iff negative mantissa exponent otherNegative otherMantissa otherExponent

/-! ## Rounding whole numbers -/

/-- The whole numbers below this are doubles. -/
def wholeLimit : Nat := 2 ^ 53

theorem roundQuotient_one (value : Nat) : roundQuotient value 1 = value := by
  simp [roundQuotient, Nat.mod_one]

theorem div_le_roundQuotient (numerator denominator : Nat) :
    numerator / denominator ≤ roundQuotient numerator denominator := by
  unfold roundQuotient
  dsimp only
  split
  · exact Nat.le_refl _
  · split
    · exact Nat.le_succ _
    · split
      · exact Nat.le_refl _
      · exact Nat.le_succ _

theorem floorLog2_one {value : Nat} (positive : value ≠ 0) : floorLog2 value 1 = value.log2 := by
  have isOne : Nat.log2 1 = 0 := by decide
  have power : 2 ^ value.log2 ≤ value := Nat.log2_self_le positive
  simp [floorLog2, scaleByTwo, isOne, power]

/-- What a whole number is rounded to. -/
inductive RoundedFrom (whole : Nat) : Binary64 → Prop
  | same {double : Binary64} (small : whole < wholeLimit)
      (isWhole : double.value? = some (whole : ℚ)) : RoundedFrom whole double
  | large {double : Binary64} {value : ℚ} (big : wholeLimit ≤ whole)
      (isValue : double.value? = some value) (large : (wholeLimit : ℚ) ≤ value) :
      RoundedFrom whole double
  | overflow (big : wholeLimit ≤ whole) : RoundedFrom whole (.infinite false)

/-- A small number is scaled up to 53 bits, and nothing is lost. -/
theorem ofRatio_of_lt {whole : Nat} (positive : whole ≠ 0) (small : whole < wholeLimit) :
    ∃ shift : Nat, ofRatio false whole 1 = .finite false (whole * 2 ^ shift) (-shift) := by
  have atMost : whole.log2 ≤ 52 := Nat.lt_succ_iff.mp ((Nat.log2_lt positive).mpr small)
  rcases Nat.exists_eq_add_of_le atMost with ⟨shift, isShift⟩
  have exponent : max leastExponent (floorLog2 whole 1 - 52) = -(shift : Int) := by
    rw [floorLog2_one positive, leastExponent]
    omega
  have bits : whole * 2 ^ shift < 0x20000000000000 := by
    have below : whole < 2 ^ (whole.log2 + 1) := Nat.lt_log2_self
    have total : 2 ^ (whole.log2 + 1) * 2 ^ shift = 0x20000000000000 := by
      rw [← pow_add, show whole.log2 + 1 + shift = 53 by omega]
      norm_num
    exact total ▸ Nat.mul_lt_mul_of_pos_right below (Nat.two_pow_pos shift)
  have inRange : ¬greatestExponent < -(shift : Int) := by rw [greatestExponent]; omega
  refine ⟨shift, ?_⟩
  simp only [ofRatio, positive, if_false, exponent, scaleByTwo, neg_neg, Int.toNat_natCast,
    Int.toNat_neg_natCast, Nat.pow_eq, Nat.pow_zero, Nat.mul_one, roundQuotient_one, bits, if_true,
    inRange]

/-- A large number keeps its 53 highest bits, or these are rounded up. -/
theorem roundedFrom_ofRatio_of_le {whole : Nat} (big : wholeLimit ≤ whole) :
    RoundedFrom whole (ofRatio false whole 1) := by
  have positive : whole ≠ 0 := Nat.pos_iff_ne_zero.mp (lt_of_lt_of_le (by decide) big)
  have atLeast : 53 ≤ whole.log2 := by
    rw [← not_lt, Nat.log2_lt positive, not_lt]
    exact big
  rcases Nat.exists_eq_add_of_le atLeast with ⟨more, isMore⟩
  have exponent : max leastExponent (floorLog2 whole 1 - 52) = ((more + 1 : Nat) : Int) := by
    rw [floorLog2_one positive, leastExponent]
    omega
  have highest : 2 ^ 52 ≤ roundQuotient whole (2 ^ (more + 1)) := by
    refine le_trans ?_ (div_le_roundQuotient whole (2 ^ (more + 1)))
    rw [Nat.le_div_iff_mul_le (Nat.two_pow_pos _), ← pow_add,
      show 52 + (more + 1) = whole.log2 by omega]
    exact Nat.log2_self_le positive
  have largeEnough (mantissa : Nat) (enough : 2 ^ 52 ≤ mantissa) {exponent : Int}
      (further : 1 ≤ exponent) : (wholeLimit : ℚ) ≤ finiteValue false mantissa exponent := by
    have wide : ((2 : ℚ) ^ 52) ≤ mantissa := by exact_mod_cast enough
    have doubled : (2 : ℚ) ≤ 2 ^ exponent := by
      simpa using zpow_le_zpow_right₀ (one_le_two (α := ℚ)) further
    calc (wholeLimit : ℚ) = 2 ^ 52 * 2 := by norm_num [wholeLimit]
      _ ≤ mantissa * 2 ^ exponent := mul_le_mul wide doubled (by norm_num) (Nat.cast_nonneg _)
      _ = finiteValue false mantissa exponent := by simp [finiteValue, signed]
  simp only [ofRatio, positive, if_false, exponent, scaleByTwo, neg_neg, Int.toNat_natCast,
    Int.toNat_neg_natCast, Nat.pow_eq, Nat.pow_zero, Nat.mul_one, Nat.one_mul]
  split
  · split
    · exact .overflow big
    · exact .large big rfl (largeEnough _ highest (by omega))
  · split
    · exact .overflow big
    · exact .large big rfl (largeEnough _ (by norm_num) (by omega))

theorem roundedFrom_ofRatio {whole : Nat} (positive : whole ≠ 0) :
    RoundedFrom whole (ofRatio false whole 1) := by
  rcases Nat.lt_or_ge whole wholeLimit with small | big
  · rcases ofRatio_of_lt positive small with ⟨shift, isRounded⟩
    rw [isRounded]
    refine .same small (congrArg some ?_)
    simp [finiteValue, signed]
  · exact roundedFrom_ofRatio_of_le big

/-- A numeral without a fraction is rounded like the number that it denotes, however long it is. -/
theorem roundedFrom_ofDecimal (whole : Nat) : RoundedFrom whole (ofDecimal false whole 0) := by
  by_cases isZero : whole = 0
  · subst isZero
    exact .same (by decide) (by simp [ofDecimal, zero, value?, finiteValue, signed])
  · have length : 0 < decimalLength whole := List.length_pos_iff.mpr Nat.toDigits_ne_nil
    simp only [ofDecimal, isZero, if_false, Int.zero_add]
    split
    · rename_i long
      refine .overflow (Nat.le_of_not_lt fun small => ?_)
      have short : decimalLength whole ≤ 16 :=
        (Nat.length_toDigits_le_iff (by decide) (by decide)).mpr (lt_trans small (by decide))
      omega
    · split
      · omega
      · simpa using roundedFrom_ofRatio isZero

/-! ## Comparisons with small whole numbers -/

/-- The double is a whole number, and one that is small enough to be told from its neighbours. -/
def IsSmallWhole (double : Binary64) (whole : Int) : Prop :=
  double.value? = some (whole : ℚ) ∧ whole.natAbs < wholeLimit

variable {whole : Nat} {rounded bound : Binary64} {limit : Int}

theorem IsSmallWhole.lt_infinite (isBound : bound.IsSmallWhole limit) :
    bound.lt (.infinite false) = true ∧ (Binary64.infinite false).lt bound = false := by
  cases bound with
  | nan => cases isBound.1
  | infinite negative => cases isBound.1
  | finite negative mantissa exponent => exact ⟨rfl, rfl⟩

theorem IsSmallWhole.lt_wholeLimit (isBound : bound.IsSmallWhole limit) :
    (limit : ℚ) < wholeLimit := by
  have small := isBound.2
  have below : limit < (wholeLimit : Int) := by omega
  exact_mod_cast below

theorem RoundedFrom.lt_iff (isRounded : RoundedFrom whole rounded)
    (isBound : bound.IsSmallWhole limit) : rounded.lt bound = true ↔ (whole : Int) < limit := by
  have below := isBound.lt_wholeLimit
  have small := isBound.2
  cases isRounded with
  | same _ isWhole =>
      rw [lt_iff_value_lt isWhole isBound.1]
      exact_mod_cast Iff.rfl
  | large big isValue large =>
      rw [lt_iff_value_lt isValue isBound.1]
      exact iff_of_false (not_lt_of_ge (below.le.trans large)) (by omega)
  | overflow big =>
      rw [isBound.lt_infinite.2]
      exact iff_of_false (by simp) (by omega)

theorem RoundedFrom.gt_iff (isRounded : RoundedFrom whole rounded)
    (isBound : bound.IsSmallWhole limit) : bound.lt rounded = true ↔ limit < (whole : Int) := by
  have below := isBound.lt_wholeLimit
  have small := isBound.2
  cases isRounded with
  | same _ isWhole =>
      rw [lt_iff_value_lt isBound.1 isWhole]
      exact_mod_cast Iff.rfl
  | large big isValue large =>
      rw [lt_iff_value_lt isBound.1 isValue]
      exact iff_of_true (below.trans_le large) (by omega)
  | overflow big =>
      rw [isBound.lt_infinite.1]
      exact iff_of_true rfl (by omega)

end Binary64

end Ussd
