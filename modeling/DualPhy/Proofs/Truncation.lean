import DualPhy.Binary64
import Mathlib.Data.Rat.Floor
import Mathlib.Data.Sign.Basic
import Mathlib.Tactic.FieldSimp
import Mathlib.Tactic.NormNum

/-!
# Truncation to whole numbers

What a bit pattern stands for is read off its three fields: a rational number, an infinity or a
NaN. That is all that truncation depends on: a number is cut toward zero and kept within the
signed 64-bit integers. So a larger number never gives a smaller integer.
-/

namespace DualPhy

/-! ## Numbers cut toward zero -/

/-- The whole number with the sign of a number and the largest absolute value that does not
exceed that of the number. -/
def towardZero (number : ℚ) : ℤ := SignType.sign number * ⌊|number|⌋

/-- The signed 64-bit integer nearest to a whole number. -/
def clampToInt64 (whole : ℤ) : ℤ := max (-2 ^ 63) (min whole (2 ^ 63 - 1))

theorem towardZero_of_nonneg {number : ℚ} (nonneg : 0 ≤ number) :
    towardZero number = ⌊number⌋ := by
  rcases nonneg.eq_or_lt with rfl | positive
  · simp [towardZero]
  · simp [towardZero, sign_pos positive, abs_of_pos positive]

theorem towardZero_neg (number : ℚ) : towardZero (-number) = -towardZero number := by
  rw [towardZero, Left.sign_neg, abs_neg, SignType.coe_neg, neg_mul, towardZero]

theorem towardZero_intCast (whole : ℤ) : towardZero whole = whole := by
  rw [towardZero, ← Int.cast_abs, Int.floor_intCast, sign_intCast]
  exact sign_mul_abs whole

theorem towardZero_of_abs_lt_one {number : ℚ} (small : |number| < 1) :
    towardZero number = 0 := by
  rw [towardZero, Int.floor_eq_zero_iff.mpr ⟨abs_nonneg number, small⟩, mul_zero]

/-- A quotient of natural numbers is cut as their division does, whatever its sign. -/
theorem towardZero_quotient (negative : Bool) (numerator denominator : Nat) :
    towardZero ((if negative then -1 else 1) * (numerator / denominator)) =
      (if negative then -1 else 1) * (numerator / denominator : Nat) := by
  have positive : towardZero (numerator / denominator) = (numerator / denominator : Nat) := by
    rw [towardZero_of_nonneg (by positivity)]
    exact Rat.floor_natCast_div_natCast numerator denominator
  cases negative <;> simp [towardZero_neg, positive]

theorem towardZero_mono {first second : ℚ} (ordered : first ≤ second) :
    towardZero first ≤ towardZero second := by
  have nonneg : ∀ number : ℚ, 0 ≤ number → 0 ≤ towardZero number := by
    intro number above
    rw [towardZero_of_nonneg above]
    exact Int.floor_nonneg.mpr above
  have mono : ∀ first second : ℚ, 0 ≤ first → first ≤ second →
      towardZero first ≤ towardZero second := by
    intro first second above ordered
    rw [towardZero_of_nonneg above, towardZero_of_nonneg (above.trans ordered)]
    exact Int.floor_le_floor ordered
  rcases le_total 0 first with above | under
  · exact mono first second above ordered
  -- below zero the order is that of the absolute values, turned round
  · rcases le_total 0 second with otherAbove | otherUnder
    · have mirrored := nonneg (-first) (neg_nonneg.mpr under)
      rw [towardZero_neg] at mirrored
      exact (neg_nonneg.mp mirrored).trans (nonneg second otherAbove)
    · have mirrored := mono (-second) (-first) (neg_nonneg.mpr otherUnder) (neg_le_neg ordered)
      rw [towardZero_neg, towardZero_neg] at mirrored
      exact neg_le_neg_iff.mp mirrored

theorem clampToInt64_of_le {whole : ℤ} (large : 2 ^ 63 ≤ whole) :
    clampToInt64 whole = 2 ^ 63 - 1 := by
  rw [clampToInt64]
  omega

theorem clampToInt64_of_ge {whole : ℤ} (large : whole ≤ -2 ^ 63) :
    clampToInt64 whole = -2 ^ 63 := by
  rw [clampToInt64]
  omega

theorem clampToInt64_mono {first second : ℤ} (ordered : first ≤ second) :
    clampToInt64 first ≤ clampToInt64 second :=
  max_le_max_left _ (min_le_min_right _ ordered)

theorem bounds_clampToInt64 (whole : ℤ) :
    -2 ^ 63 ≤ clampToInt64 whole ∧ clampToInt64 whole ≤ 2 ^ 63 - 1 :=
  ⟨le_max_left _ _, max_le (by decide) (min_le_right _ _)⟩

namespace Binary64

/-! ## What a bit pattern stands for -/

/-- What a bit pattern can stand for. -/
inductive Meaning
  /-- Not a number. -/
  | nan
  /-- One of the two infinities. -/
  | infinity (negative : Bool)
  /-- A rational number. -/
  | number (value : ℚ)

/-- The sign bit. -/
def signBit (bits : UInt64) : Bool := bits.toNat.testBit 63

/-- The eleven bits behind it. -/
def exponentBits (bits : UInt64) : Nat := bits.toNat / 2 ^ 52 % 2 ^ 11

/-- The fifty-two bits behind these. -/
def fractionBits (bits : UInt64) : Nat := bits.toNat % 2 ^ 52

/-- What a bit pattern stands for. The leading bit of the significand is not written; it is zero
under the smallest exponent and one under the others. -/
def meaning (bits : UInt64) : Meaning :=
  let sign : ℚ := if signBit bits then -1 else 1
  if exponentBits bits = 2047 then
    if fractionBits bits = 0 then .infinity (signBit bits) else .nan
  else if exponentBits bits = 0 then
    .number (sign * (fractionBits bits / 2 ^ 52 * 2 ^ (-1022 : ℤ)))
  else .number (sign * ((1 + fractionBits bits / 2 ^ 52) * 2 ^ (exponentBits bits - 1023 : ℤ)))

theorem negative_ofBits (bits : UInt64) : (ofBits bits).negative = signBit bits := by
  have below := bits.toNat_lt
  simp only [ofBits, signBit, Nat.testBit_eq_decide_div_mod_eq, decide_eq_decide]
  omega

theorem exponentField_ofBits (bits : UInt64) :
    (ofBits bits).exponentField = exponentBits bits := by
  simp only [ofBits, exponentField, exponentBits, fractionSize]
  omega

theorem fractionField_ofBits (bits : UInt64) :
    (ofBits bits).fractionField = fractionBits bits := by
  simp only [ofBits, fractionField, fractionBits, fractionSize]
  omega

/-- The finite values are those without the largest exponent. -/
theorem isFinite_iff (value : Binary64) :
    value.isFinite = true ↔ value.exponentField ≠ 2047 := by
  have below := value.magnitude.isLt
  rw [isFinite, decide_eq_true_eq]
  simp only [infiniteMagnitude, exponentField, fractionSize]
  omega

/-- The NaNs are the values with the largest exponent and a fraction. -/
theorem isNaN_iff (value : Binary64) :
    value.isNaN = true ↔ value.exponentField = 2047 ∧ value.fractionField ≠ 0 := by
  have below := value.magnitude.isLt
  rw [isNaN, decide_eq_true_eq]
  simp only [infiniteMagnitude, exponentField, fractionField, fractionSize]
  omega

/-- The infinities are the values with the largest exponent and no fraction. -/
theorem isInfinite_iff (value : Binary64) :
    value.isInfinite = true ↔ value.exponentField = 2047 ∧ value.fractionField = 0 := by
  have below := value.magnitude.isLt
  simp only [isInfinite, infiniteMagnitude, exponentField, fractionField, fractionSize,
    beq_iff_eq]
  omega

theorem twoPow_eq_pow (exponent : Nat) : twoPow exponent = 2 ^ exponent := rfl

/-- The units of a bit pattern give the absolute value that its fields stand for. -/
theorem units_div_twoPow (bits : UInt64) :
    ((ofBits bits).units : ℚ) / (twoPow unitExponent : ℚ) =
      if exponentBits bits = 0 then (fractionBits bits : ℚ) / 2 ^ 52 * 2 ^ (-1022 : ℤ)
      else (1 + (fractionBits bits : ℚ) / 2 ^ 52) * 2 ^ (exponentBits bits - 1023 : ℤ) := by
  have power : ∀ raised : Nat, (2 : ℚ) ^ ((raised : ℤ) - unitExponent) =
      2 ^ raised / 2 ^ unitExponent :=
    fun raised => zpow_natCast_sub_natCast₀ two_ne_zero raised unitExponent
  rw [units, significand, scale, exponentField_ofBits, fractionField_ofBits, twoPow_eq_pow,
    twoPow_eq_pow]
  split
  case isTrue subnormal =>
    have lowest : (-1022 : ℤ) = (52 : Nat) - unitExponent := rfl
    rw [subnormal, lowest, power]
    simp only [Nat.zero_sub, pow_zero, mul_one, Nat.cast_pow, Nat.cast_ofNat]
    field_simp
  case isFalse normal =>
    obtain ⟨exponent, raised⟩ := Nat.exists_eq_succ_of_ne_zero normal
    have shifted : ((exponent + 1 : Nat) - 1023 : ℤ) = (exponent + 52 : Nat) - unitExponent := by
      rw [unitExponent]
      omega
    rw [raised, Nat.succ_eq_add_one, shifted, power, pow_add, fractionSize]
    simp only [Nat.add_sub_cancel, Nat.cast_mul, Nat.cast_add, Nat.cast_pow, Nat.cast_ofNat]
    field_simp
    norm_num

/-- A bit pattern without the largest exponent stands for a number. -/
theorem meaning_of_finite {bits : UInt64} (finite : exponentBits bits ≠ 2047) :
    meaning bits = .number ((if signBit bits then -1 else 1) *
      ((ofBits bits).units / twoPow unitExponent)) := by
  rw [units_div_twoPow, meaning, if_neg finite]
  split <;> rfl

theorem units_div_of_subnormal {bits : UInt64} (subnormal : exponentBits bits = 0) :
    (ofBits bits).units / twoPow unitExponent = 0 := by
  have wide : 2 ^ 52 < 2 ^ unitExponent := Nat.pow_lt_pow_right Nat.one_lt_two (by decide)
  rw [units, significand, scale, exponentField_ofBits, fractionField_ofBits, if_pos subnormal,
    subnormal, Nat.zero_sub, twoPow_zero, mul_one, twoPow_eq_pow]
  exact Nat.div_eq_of_lt (Nat.lt_trans (Nat.mod_lt _ (by decide)) wide)

/-! ## Truncation -/

namespace Meaning

/-- The integer for what a bit pattern stands for. -/
def toInt64 : Meaning → ℤ
  | .nan => 0
  | .infinity true => -2 ^ 63
  | .infinity false => 2 ^ 63 - 1
  | .number value => clampToInt64 (towardZero value)

/-- The order of numbers and infinities. A NaN has no place in it. -/
inductive AtMost : Meaning → Meaning → Prop
  /-- Numbers are ordered as usual. -/
  | numbers {first second : ℚ} (ordered : first ≤ second) :
      AtMost (.number first) (.number second)
  /-- The negative infinity lies below every number. -/
  | lowest (value : ℚ) : AtMost (.infinity true) (.number value)
  /-- The positive infinity lies above every number. -/
  | highest (value : ℚ) : AtMost (.number value) (.infinity false)
  /-- The infinities are ordered by their signs. -/
  | infinities : AtMost (.infinity true) (.infinity false)
  /-- An infinity is at most itself. -/
  | same (negative : Bool) : AtMost (.infinity negative) (.infinity negative)

/-- What is no larger gives no larger integer. -/
theorem AtMost.toInt64_le
    {first second : Meaning}
    (ordered : first.AtMost second) :
    first.toInt64 ≤ second.toInt64 := by
  cases ordered with
  | numbers ordered => exact clampToInt64_mono (towardZero_mono ordered)
  | lowest value => exact (bounds_clampToInt64 _).1
  | highest value => exact (bounds_clampToInt64 _).2
  | infinities => decide
  | same negative => exact le_rfl

end Meaning

theorem truncate_of_isFinite {value : Binary64} (finite : value.isFinite = true) :
    value.truncate = clampToInt64 ((if value.negative then -1 else 1) *
      (value.units / twoPow unitExponent : Nat)) := by
  have below := (isFinite_iff value).mp finite
  have number : value.isNaN = false := by
    rw [← Bool.not_eq_true, isNaN_iff]
    exact fun nan => below nan.1
  have bounded : value.isInfinite = false := by
    rw [← Bool.not_eq_true, isInfinite_iff]
    exact fun infinite => below infinite.1
  have size : twoPow 63 = 2 ^ 63 := rfl
  rw [truncate, number, bounded, clampToInt64, size]
  generalize value.units / twoPow unitExponent = whole
  cases value.negative
  case false =>
    simp only [Bool.false_eq_true, if_false, one_mul]
    omega
  case true =>
    simp only [Bool.false_eq_true, if_false, if_true, neg_one_mul]
    omega

/-- Truncation depends on what a bit pattern stands for. -/
theorem truncate_ofBits (bits : UInt64) : (ofBits bits).truncate = (meaning bits).toInt64 := by
  by_cases largest : exponentBits bits = 2047
  · by_cases whole : fractionBits bits = 0
    · have infinite : (ofBits bits).isInfinite = true := by
        rw [isInfinite_iff, exponentField_ofBits, fractionField_ofBits]
        exact ⟨largest, whole⟩
      have number : (ofBits bits).isNaN = false := by
        rw [← Bool.not_eq_true, isNaN_iff, fractionField_ofBits]
        exact fun nan => nan.2 whole
      rw [meaning, if_pos largest, if_pos whole, truncate, number, infinite, negative_ofBits]
      cases signBit bits <;> rfl
    · have nan : (ofBits bits).isNaN = true := by
        rw [isNaN_iff, exponentField_ofBits, fractionField_ofBits]
        exact ⟨largest, whole⟩
      rw [meaning, if_pos largest, if_neg whole, truncate, if_pos nan, Meaning.toInt64]
  · have finite : (ofBits bits).isFinite = true := by
      rw [isFinite_iff, exponentField_ofBits]
      exact largest
    rw [meaning_of_finite largest, truncate_of_isFinite finite, negative_ofBits, Meaning.toInt64,
      towardZero_quotient]

theorem truncate_of_subnormal {bits : UInt64} (subnormal : exponentBits bits = 0) :
    (ofBits bits).truncate = 0 := by
  have finite : (ofBits bits).isFinite = true := by
    rw [isFinite_iff, exponentField_ofBits, subnormal]
    decide
  rw [truncate_of_isFinite finite, units_div_of_subnormal subnormal, Nat.cast_zero, mul_zero]
  decide

/-- Truncation gives zero for a NaN and the bounds of the signed 64-bit integers for the
infinities. A number gives the whole number of its sign whose absolute value is that of the number
without its fraction, clamped to these bounds: zero for the subnormal numbers and all others
between minus one and one, and a bound for what lies on it or beyond. So a larger number never
gives a smaller integer. -/
theorem truncation_follows_meaning (bits : UInt64) :
    (meaning bits = .nan → (ofBits bits).truncate = 0) ∧
      (meaning bits = .infinity false → (ofBits bits).truncate = 2 ^ 63 - 1) ∧
      (meaning bits = .infinity true → (ofBits bits).truncate = -2 ^ 63) ∧
      (∀ number, meaning bits = .number number →
        (ofBits bits).truncate = clampToInt64 (towardZero number) ∧
        (|number| < 1 → (ofBits bits).truncate = 0) ∧
        (2 ^ 63 ≤ number → (ofBits bits).truncate = 2 ^ 63 - 1) ∧
        (number ≤ -2 ^ 63 → (ofBits bits).truncate = -2 ^ 63)) ∧
      (exponentBits bits = 0 → (ofBits bits).truncate = 0) ∧
      ∀ other, (meaning bits).AtMost (meaning other) →
        (ofBits bits).truncate ≤ (ofBits other).truncate := by
  rw [truncate_ofBits]
  refine ⟨fun nan => ?_, fun above => ?_, fun below => ?_, fun number standsFor => ?_,
    fun subnormal => ?_, fun other ordered => ?_⟩
  · rw [nan, Meaning.toInt64]
  · rw [above, Meaning.toInt64]
  · rw [below, Meaning.toInt64]
  · rw [standsFor, Meaning.toInt64]
    refine ⟨rfl, fun small => ?_, fun large => ?_, fun large => ?_⟩
    · rw [towardZero_of_abs_lt_one small]
      decide
    · have whole := towardZero_intCast (2 ^ 63)
      rw [Int.cast_pow, Int.cast_ofNat] at whole
      exact clampToInt64_of_le (whole ▸ towardZero_mono large)
    · have whole := towardZero_intCast (-2 ^ 63)
      rw [Int.cast_neg, Int.cast_pow, Int.cast_ofNat] at whole
      exact clampToInt64_of_ge (whole ▸ towardZero_mono large)
  · rw [← truncate_ofBits, truncate_of_subnormal subnormal]
  · rw [truncate_ofBits]
    exact ordered.toInt64_le

/-- The largest number below the bound is sent as it is. The bound itself is no signed 64-bit
integer and is sent as the largest one. A NaN and the zero with a minus sign are sent as zero. -/
theorem truncation_follows_meaning_at_bound :
    let below : UInt64 := 0x43DFFFFFFFFFFFFF
    let bound : UInt64 := 0x43E0000000000000
    let nan : UInt64 := 0xFFF0000000000001
    let negativeZero : UInt64 := 0x8000000000000000
    meaning below = .number (2 ^ 63 - 1024) ∧ meaning bound = .number (2 ^ 63) ∧
      meaning nan = .nan ∧ meaning negativeZero = .number 0 ∧
      (ofBits below).truncate = 2 ^ 63 - 1024 ∧
      (ofBits bound).truncate = 2 ^ 63 - 1 ∧
      (ofBits below).truncate ≤ (ofBits bound).truncate ∧
      (ofBits nan).truncate = 0 ∧
      (ofBits negativeZero).truncate = 0 := by
  intro below bound nan negativeZero
  have belowFields : exponentBits below = 1085 ∧ fractionBits below = 2 ^ 52 - 1 ∧
      signBit below = false := by decide
  have boundFields : exponentBits bound = 1086 ∧ fractionBits bound = 0 ∧
      signBit bound = false := by decide
  have nanFields : exponentBits nan = 2047 ∧ fractionBits nan = 1 := by decide
  have zeroFields : exponentBits negativeZero = 0 ∧ fractionBits negativeZero = 0 := by decide
  have belowMeans : meaning below = .number (2 ^ 63 - 1024) := by
    norm_num [meaning, belowFields]
  have boundMeans : meaning bound = .number (2 ^ 63) := by norm_num [meaning, boundFields]
  have nanMeans : meaning nan = .nan := by simp [meaning, nanFields]
  have zeroMeans : meaning negativeZero = .number 0 := by simp [meaning, zeroFields]
  have ordered : (meaning below).AtMost (meaning bound) := by
    rw [belowMeans, boundMeans]
    exact .numbers (by norm_num)
  obtain ⟨-, -, -, belowNumber, -, mono⟩ := truncation_follows_meaning below
  obtain ⟨-, -, -, boundNumber, -, -⟩ := truncation_follows_meaning bound
  obtain ⟨-, -, -, zeroNumber, -, -⟩ := truncation_follows_meaning negativeZero
  refine ⟨belowMeans, boundMeans, nanMeans, zeroMeans, ?_,
    (boundNumber _ boundMeans).2.2.1 le_rfl, mono bound ordered,
    (truncation_follows_meaning nan).1 nanMeans,
    (zeroNumber 0 zeroMeans).2.1 (by norm_num)⟩
  have whole := towardZero_intCast (2 ^ 63 - 1024)
  rw [Int.cast_sub, Int.cast_pow, Int.cast_ofNat, Int.cast_ofNat] at whole
  rw [(belowNumber _ belowMeans).1, whole]
  decide

end Binary64
end DualPhy
