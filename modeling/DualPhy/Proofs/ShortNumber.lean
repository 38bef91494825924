import DualPhy.Json.Lexeme
import DualPhy.Proofs.NumberText

/-!
# Short numbers

The conversion in use applies the power of ten in binary64. If both the coefficient and
the power are binary64 values, all but the last operation are exact, and the one rounding
that is left is the right one. This covers every number of at most fifteen digits that is
neither very large nor very small.
-/

namespace DualPhy
namespace Binary64

/-! ## Exact values -/

/-- Rounding to a whole number depends on the ratio only. -/
theorem nearestWhole_scale
    {factor : Nat}
    (positive : 0 < factor)
    (numerator denominator : Nat) :
    nearestWhole (factor * numerator) (factor * denominator) =
      nearestWhole numerator denominator := by
  have remainder : 2 * (factor * (numerator % denominator)) =
      factor * (2 * (numerator % denominator)) := Nat.mul_left_comm _ _ _
  simp only [nearestWhole, Nat.mul_div_mul_left _ _ positive, Nat.mul_mod_mul_left, remainder,
    Nat.mul_lt_mul_left positive]

/-- Rounding depends on the ratio only. -/
theorem nearest_scale
    (negative : Bool)
    {factor : Nat}
    (positive : 0 < factor)
    (numerator denominator : Nat) :
    nearest negative (factor * numerator) (factor * denominator) =
      nearest negative numerator denominator := by
  simp only [nearest, nearestMagnitude, Nat.mul_div_mul_left _ _ positive, Nat.mul_assoc,
    nearestWhole_scale positive]

/-- The units of a value whose magnitude counts a significand from the start of a
binade. -/
theorem units_eq
    {value : Binary64}
    {significand scale : Nat}
    (magnitude : value.magnitude.val = scale * fractionSize + significand)
    (upper : significand < 2 * fractionSize)
    (normal : scale = 0 ∨ fractionSize ≤ significand) :
    value.units = significand * twoPow scale := by
  have own := value.magnitude_eq
  have ownUpper := value.significand_lt
  have ownNormal : value.scale = 0 ∨ fractionSize ≤ value.significand := by
    rcases Nat.eq_zero_or_pos value.scale with zero | positive
    · exact .inl zero
    · exact .inr (le_significand positive)
  unfold fractionSize at *
  obtain ⟨sameScale, sameSignificand⟩ :
      value.scale = scale ∧ value.significand = significand := by
    omega
  rw [units, sameScale, sameSignificand]

/-- A value is its own rounding, if its significand has a leading bit. -/
theorem units_nearest_of_normal
    (negative : Bool)
    {significand scale : Nat}
    (lower : fractionSize ≤ significand)
    (upper : significand < 2 * fractionSize)
    (finite : scale < 2046) :
    (nearest negative (significand * twoPow scale) 1).units = significand * twoPow scale := by
  have step : binade (significand * twoPow scale / 1) = scale := by
    rw [Nat.div_one]
    apply binade_eq
    · exact .inr (Nat.mul_le_mul_right _ lower)
    · exact Nat.mul_lt_mul_of_pos_right upper (twoPow_pos _)
  have whole : nearestWhole (significand * twoPow scale) (1 * twoPow scale) = significand := by
    rw [Nat.one_mul]
    have width := twoPow_pos scale
    apply nearestWhole_eq width <;> omega
  have magnitude : nearestMagnitude (significand * twoPow scale) 1 =
      scale * fractionSize + significand := by
    simp only [nearestMagnitude, step, whole]
  apply units_eq _ upper (.inr lower)
  rw [nearest, magnitude]
  apply Nat.min_eq_left
  unfold infiniteMagnitude fractionSize at *
  omega

/-- A natural number below `2 ^ 53` times a power of two is a binary64 value. -/
theorem units_nearest_of_lt
    (negative : Bool)
    {number scale : Nat}
    (positive : 0 < number)
    (small : number < twoPow 53)
    (above : 52 ≤ scale)
    (below : scale < 2046) :
    (nearest negative (number * twoPow scale) 1).units = number * twoPow scale := by
  have log : number.log2 < 53 := (Nat.log2_lt positive.ne').mpr small
  -- The number is moved up until its leading bit is the one of a significand.
  obtain ⟨shift, room⟩ : ∃ shift, shift + number.log2 = 52 := ⟨52 - number.log2, by omega⟩
  obtain ⟨rest, split⟩ : ∃ rest, scale = shift + rest := ⟨scale - shift, by omega⟩
  have lower : fractionSize ≤ number * twoPow shift := by
    calc fractionSize = twoPow number.log2 * twoPow shift := by
          rw [← twoPow_add, Nat.add_comm, room]
          rfl
      _ ≤ number * twoPow shift := Nat.mul_le_mul_right _ (Nat.log2_self_le positive.ne')
  have upper : number * twoPow shift < 2 * fractionSize := by
    calc number * twoPow shift
        < twoPow (number.log2 + 1) * twoPow shift :=
          Nat.mul_lt_mul_of_pos_right Nat.lt_log2_self (twoPow_pos _)
      _ = 2 * fractionSize := by
          rw [← twoPow_add, show number.log2 + 1 + shift = 53 by omega]
          rfl
  rw [split, twoPow_add, ← Nat.mul_assoc]
  exact units_nearest_of_normal negative lower upper (by omega)

/-- The product of two natural numbers that are binary64 values is rounded once. -/
theorem times_eq
    {first second : Binary64}
    {left right : Nat}
    (firstUnits : first.units = left * twoPow unitExponent)
    (secondUnits : second.units = right * twoPow unitExponent)
    (unsigned : second.negative = false) :
    first.times second = nearest first.negative (left * right * twoPow unitExponent) 1 := by
  have scaled := nearest_scale first.negative (twoPow_pos unitExponent)
    (left * right * twoPow unitExponent) 1
  have product : twoPow unitExponent * (left * right * twoPow unitExponent) =
      first.units * second.units := by
    rw [firstUnits, secondUnits]
    ring
  rw [product, Nat.mul_one] at scaled
  rw [times, unsigned, Bool.bne_false, scaled]

/-- The quotient of two natural numbers that are binary64 values is rounded once. -/
theorem dividedBy_eq
    {dividend divisor : Binary64}
    {left right : Nat}
    (dividendUnits : dividend.units = left * twoPow unitExponent)
    (divisorUnits : divisor.units = right * twoPow unitExponent)
    (unsigned : divisor.negative = false) :
    dividend.dividedBy divisor =
      nearest dividend.negative (left * twoPow unitExponent) right := by
  have scaled := nearest_scale dividend.negative (twoPow_pos unitExponent)
    (left * twoPow unitExponent) right
  have numerator : twoPow unitExponent * (left * twoPow unitExponent) =
      dividend.units * twoPow unitExponent := by
    rw [dividendUnits]
    ring
  rw [numerator, Nat.mul_comm (twoPow unitExponent) right, ← divisorUnits] at scaled
  rw [dividedBy, unsigned, Bool.bne_false, scaled]

end Binary64

namespace Decimal

/-- A power of ten that is not too large is a binary64 value. -/
theorem units_power {exponent : Nat} (small : exponent ≤ 22) :
    (power exponent).units = tenPow exponent * twoPow Binary64.unitExponent := by
  have split : tenPow exponent = 5 ^ exponent * twoPow exponent := Nat.mul_pow 5 2 exponent
  have five : 5 ^ exponent < twoPow 53 :=
    Nat.lt_of_le_of_lt (Nat.pow_le_pow_right (by decide) small) (by decide)
  rw [power, Binary64.ofNat, split, Nat.mul_assoc, ← twoPow_add]
  apply Binary64.units_nearest_of_lt false (Nat.pow_pos (by decide)) five
  · unfold Binary64.unitExponent
    omega
  · unfold Binary64.unitExponent
    omega

/-- Whether the coefficient of a number and its power of ten are binary64 values. -/
structure IsShort (decimal : Decimal) : Prop where
  coefficient : decimal.coefficient < twoPow 53
  least : -22 ≤ decimal.exponent
  greatest : decimal.exponent ≤ 22

instance (decimal : Decimal) : Decidable decimal.IsShort :=
  decidable_of_iff
    (decimal.coefficient < twoPow 53 ∧ -22 ≤ decimal.exponent ∧ decimal.exponent ≤ 22)
    ⟨fun parts => ⟨parts.1, parts.2.1, parts.2.2⟩,
      fun short => ⟨short.coefficient, short.least, short.greatest⟩⟩

theorem IsShort.round_eq
    {decimal : Decimal}
    (short : decimal.IsShort)
    (positive : 0 < decimal.coefficient) :
    decimal.round =
      .nearest decimal.negative
        (decimal.coefficient * tenPow decimal.exponent.toNat * twoPow Binary64.unitExponent)
        (tenPow (-decimal.exponent).toNat) := by
  have least := short.least
  have greatest := short.greatest
  unfold round exponentBound
  rw [if_neg positive.ne', if_neg (by omega), if_neg (by omega)]

/-- Scaling a short number rounds once, to the nearest value. -/
theorem IsShort.scale_eq_round {decimal : Decimal} (short : decimal.IsShort) :
    decimal.scale = decimal.round := by
  rcases Nat.eq_zero_or_pos decimal.coefficient with zero | positive
  · simp only [scale, round, zero, if_true]
  have least := short.least
  have greatest := short.greatest
  have exact :
      (Binary64.nearest decimal.negative (decimal.coefficient * twoPow Binary64.unitExponent)
        1).units = decimal.coefficient * twoPow Binary64.unitExponent :=
    Binary64.units_nearest_of_lt decimal.negative positive short.coefficient (by decide)
      (by decide)
  rw [short.round_eq positive]
  unfold scale largestPower
  simp only
  rw [if_neg positive.ne', if_neg (by omega)]
  split
  case isTrue whole =>
    have up : decimal.exponent.toNat ≤ 22 := by omega
    rw [Binary64.times_eq exact (units_power up) rfl, whole]
    rfl
  case isFalse below =>
    have down : (-decimal.exponent).toNat ≤ 22 := by omega
    have noPower : decimal.exponent.toNat = 0 := by omega
    rw [if_pos (by omega), Binary64.dividedBy_eq exact (units_power down) rfl, noPower,
      tenPow_zero, Nat.mul_one]
    rfl

theorem le_ofDigits (digits : List Char) (value : Nat) : value ≤ ofDigits digits value := by
  induction digits generalizing value with
  | nil => exact Nat.le_refl _
  | cons digit digits inductionHypothesis =>
      have longer := inductionHypothesis (10 * value + (digit.toNat - '0'.toNat))
      calc value ≤ 10 * value + (digit.toNat - '0'.toNat) := by omega
        _ ≤ ofDigits (digit :: digits) value := longer

/-- All digits are taken when the whole number fits in sixty-four bits. -/
theorem takeDigits_of_lt
    {digits : List Char}
    {coefficient : Nat}
    (fits : ofDigits digits coefficient < UInt64.size) :
    takeDigits digits coefficient = (ofDigits digits coefficient, []) := by
  induction digits generalizing coefficient with
  | nil => rfl
  | cons digit digits inductionHypothesis =>
      have next : 10 * coefficient + (digit.toNat - '0'.toNat) < UInt64.size :=
        Nat.lt_of_le_of_lt (le_ofDigits digits _) fits
      unfold takeDigits
      simp only
      rw [if_pos next]
      exact inductionHypothesis fits

end Decimal

namespace Json

/-- A number whose digits all fit is kept as it is written. -/
theorem Literal.toDecimal_eq_exact
    {literal : Literal}
    (fits : literal.exact.coefficient < UInt64.size) :
    literal.toDecimal = literal.exact := by
  have wholeFits : Decimal.ofDigits literal.whole 0 < UInt64.size :=
    Nat.lt_of_le_of_lt (Decimal.le_ofDigits literal.fraction _) fits
  have fractionFits :
      Decimal.ofDigits literal.fraction (Decimal.ofDigits literal.whole 0) < UInt64.size := fits
  simp [toDecimal, exact, Decimal.takeDigits_of_lt wholeFits,
    Decimal.takeDigits_of_lt fractionFits]

namespace Conversion

/-- The conversion in use is correct on short numbers. -/
theorem real_scaled
    {literal : Literal}
    (short : literal.exact.IsShort) :
    scaled.real literal = literal.exact.round := by
  have fits : literal.exact.coefficient < UInt64.size :=
    Nat.lt_trans short.coefficient (by decide)
  change literal.toDecimal.scale = _
  rw [Literal.toDecimal_eq_exact fits, short.scale_eq_round]

/-- The conversion in use gives a value back that is written as a short number. -/
theorem readsBack_scaled
    {value : Binary64}
    (finite : value.isFinite = true)
    (short : (Literal.ofValue value).exact.IsShort) :
    @ReadsBack scaled value :=
  (real_scaled short).trans (Literal.round_exact_ofValue finite)

-- A value of seventeen digits may come back as its neighbour.
example : ∃ value : Binary64,
    value.isFinite = true ∧ scaled.real (Literal.ofValue value) ≠ value :=
  ⟨.ofBits 0x3FFEECDD3CB13D09, by decide +kernel⟩

end Conversion
end Json
end DualPhy
