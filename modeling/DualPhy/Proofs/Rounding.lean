import DualPhy.Binary64.Rounding
import DualPhy.Decimal.Layout
import Mathlib.Tactic.Ring

/-!
# Rounding and rounding intervals

A ratio that lies in the rounding interval of a finite value rounds to that value.
The interval is the one that the shortest digits are searched in, so that every
decimal found there reads back as the value it was written for.
-/

namespace DualPhy
namespace Binary64

/-- A finite magnitude counts its significand from the start of its binade. -/
theorem magnitude_eq (value : Binary64) :
    value.magnitude.val = value.scale * fractionSize + value.significand := by
  unfold scale significand exponentField fractionField fractionSize
  split <;> omega

theorem significand_lt (value : Binary64) : value.significand < 2 * fractionSize := by
  unfold significand exponentField fractionField fractionSize
  split <;> omega

/-- Above the lowest binade the leading bit is set. -/
theorem le_significand {value : Binary64} (normal : 0 < value.scale) :
    fractionSize ≤ value.significand := by
  unfold scale at normal
  unfold significand
  rw [if_neg (by omega)]
  exact Nat.le_add_right _ _

/-- A whole number is the nearest one to a ratio within half of it; at a distance
of exactly one half it must be even. -/
theorem nearestWhole_eq
    {numerator denominator whole : Nat}
    (positive : 0 < denominator)
    (lower : 2 * (whole * denominator) ≤ 2 * numerator + denominator)
    (upper : 2 * numerator ≤ 2 * (whole * denominator) + denominator)
    (strict : whole % 2 = 1 →
      2 * (whole * denominator) < 2 * numerator + denominator ∧
        2 * numerator < 2 * (whole * denominator) + denominator) :
    nearestWhole numerator denominator = whole := by
  have split : denominator * (numerator / denominator) + numerator % denominator = numerator :=
    Nat.div_add_mod numerator denominator
  have small : numerator % denominator < denominator := Nat.mod_lt _ positive
  have atMost : numerator / denominator < whole + 1 := by
    rw [Nat.div_lt_iff_lt_mul positive, Nat.add_mul]
    omega
  have atLeast : whole ≤ numerator / denominator + 1 := by
    rw [← Nat.not_lt]
    intro tooSmall
    have next : (numerator / denominator + 2) * denominator ≤ whole * denominator :=
      Nat.mul_le_mul_right _ tooSmall
    rw [Nat.add_mul, Nat.mul_comm] at next
    omega
  unfold nearestWhole
  rcases Nat.lt_or_ge (numerator / denominator) whole with below | same
  · have next : numerator / denominator + 1 = whole := by omega
    have product : whole * denominator =
        denominator * (numerator / denominator) + denominator := by
      rw [← next, Nat.add_mul, Nat.one_mul, Nat.mul_comm]
    simp only
    split_ifs <;> omega
  · have equal : numerator / denominator = whole := by omega
    have product : whole * denominator = denominator * (numerator / denominator) := by
      rw [equal, Nat.mul_comm]
    simp only
    split_ifs <;> omega

/-- The binade of a quotient. -/
theorem binade_eq
    {quotient step : Nat}
    (lower : step = 0 ∨ fractionSize * twoPow step ≤ quotient)
    (upper : quotient < 2 * fractionSize * twoPow step) :
    binade quotient = step := by
  have high : 2 * fractionSize * twoPow step = 2 ^ (53 + step) := (Nat.pow_add 2 53 step).symm
  have low : fractionSize * twoPow step = 2 ^ (52 + step) := (Nat.pow_add 2 52 step).symm
  rw [high] at upper
  rw [low] at lower
  unfold binade
  rcases Nat.eq_zero_or_pos quotient with rfl | positive
  · rcases lower with rfl | impossible
    · rfl
    · exact absurd impossible (Nat.not_le.mpr (Nat.two_pow_pos _))
  · have atMost : quotient.log2 < 53 + step := (Nat.log2_lt (by omega)).mpr upper
    rcases lower with rfl | above
    · omega
    · have atLeast : 52 + step ≤ quotient.log2 := (Nat.le_log2 (by omega)).mpr above
      omega

/-! ## Intervals -/

/-- Whether a value is the lowest of a binade above which the step doubles. -/
def IsBoundary (value : Binary64) : Prop :=
  value.fractionField = 0 ∧ 1 < value.exponentField

instance (value : Binary64) : Decidable value.IsBoundary := by
  unfold IsBoundary
  infer_instance

/-- A boundary has the smallest significand of its binade. -/
theorem IsBoundary.significand_eq {value : Binary64} (boundary : value.IsBoundary) :
    value.significand = fractionSize := by
  obtain ⟨noFraction, high⟩ := boundary
  unfold significand
  rw [if_neg (by omega), noFraction, Nat.add_zero]

theorem IsBoundary.scale_pos {value : Binary64} (boundary : value.IsBoundary) :
    0 < value.scale := by
  have high := boundary.2
  unfold scale
  omega

/-- Any other value above the lowest binade has a larger significand. -/
theorem lt_significand
    {value : Binary64}
    (interior : ¬ value.IsBoundary)
    (normal : 0 < value.scale) :
    fractionSize < value.significand := by
  unfold scale at normal
  have fraction : value.fractionField ≠ 0 := fun none => interior ⟨none, by omega⟩
  unfold significand
  rw [if_neg (by omega)]
  omega

/-- A ratio in the rounding interval of a value that is no boundary. -/
theorem nearestMagnitude_of_interior
    {value : Binary64}
    {numerator denominator : Nat}
    (positive : 0 < denominator)
    (interior : ¬ value.IsBoundary)
    (lower : 2 * (value.significand * (denominator * twoPow value.scale)) ≤
      2 * numerator + denominator * twoPow value.scale)
    (upper : 2 * numerator ≤
      2 * (value.significand * (denominator * twoPow value.scale)) +
        denominator * twoPow value.scale)
    (strict : value.significand % 2 = 1 →
      2 * (value.significand * (denominator * twoPow value.scale)) <
          2 * numerator + denominator * twoPow value.scale ∧
        2 * numerator <
          2 * (value.significand * (denominator * twoPow value.scale)) +
            denominator * twoPow value.scale) :
    nearestMagnitude numerator denominator = value.magnitude.val := by
  have step : binade (numerator / denominator) = value.scale := by
    apply binade_eq
    · rcases Nat.eq_zero_or_pos value.scale with zero | normal
      · exact .inl zero
      · refine .inr ((Nat.le_div_iff_mul_le positive).mpr ?_)
        have above : (fractionSize + 1) * (denominator * twoPow value.scale) ≤
            value.significand * (denominator * twoPow value.scale) :=
          Nat.mul_le_mul_right _ (lt_significand interior normal)
        rw [Nat.add_mul, Nat.one_mul] at above
        calc fractionSize * twoPow value.scale * denominator
            = fractionSize * (denominator * twoPow value.scale) := by ring
          _ ≤ numerator := by omega
    · rw [Nat.div_lt_iff_lt_mul positive]
      have below : (value.significand + 1) * (denominator * twoPow value.scale) ≤
          2 * fractionSize * (denominator * twoPow value.scale) :=
        Nat.mul_le_mul_right _ value.significand_lt
      have width : 0 < denominator * twoPow value.scale :=
        Nat.mul_pos positive (twoPow_pos _)
      rw [Nat.add_mul, Nat.one_mul] at below
      calc numerator < 2 * fractionSize * (denominator * twoPow value.scale) := by omega
        _ = 2 * fractionSize * twoPow value.scale * denominator := by ring
  unfold nearestMagnitude
  simp only [step]
  rw [nearestWhole_eq (Nat.mul_pos positive (twoPow_pos _)) lower upper strict, magnitude_eq]

/-- A ratio in the rounding interval of a boundary. Below the boundary the ratio lies
in the binade before, whose step is half as wide, and is rounded up into the next. -/
theorem nearestMagnitude_of_boundary
    {value : Binary64}
    {numerator denominator : Nat}
    (positive : 0 < denominator)
    (boundary : value.IsBoundary)
    (lower : 4 * (value.significand * (denominator * twoPow value.scale)) ≤
      4 * numerator + denominator * twoPow value.scale)
    (upper : 2 * numerator ≤
      2 * (value.significand * (denominator * twoPow value.scale)) +
        denominator * twoPow value.scale) :
    nearestMagnitude numerator denominator = value.magnitude.val := by
  obtain ⟨step, scale⟩ : ∃ step, value.scale = step + 1 :=
    Nat.exists_eq_succ_of_ne_zero boundary.scale_pos.ne'
  have width : 0 < denominator * twoPow step := Nat.mul_pos positive (twoPow_pos _)
  have double : denominator * twoPow value.scale = 2 * (denominator * twoPow step) := by
    rw [scale, twoPow_succ]
    ring
  rw [double, boundary.significand_eq] at lower upper
  rw [magnitude_eq, boundary.significand_eq, scale]
  unfold nearestMagnitude
  by_cases above : fractionSize * (2 * (denominator * twoPow step)) ≤ numerator
  · have same : binade (numerator / denominator) = step + 1 := by
      apply binade_eq
      · refine .inr ((Nat.le_div_iff_mul_le positive).mpr ?_)
        calc fractionSize * twoPow (step + 1) * denominator
            = fractionSize * (2 * (denominator * twoPow step)) := by rw [twoPow_succ]; ring
          _ ≤ numerator := above
      · rw [Nat.div_lt_iff_lt_mul positive]
        calc numerator < 2 * fractionSize * (2 * (denominator * twoPow step)) := by
              unfold fractionSize at *
              omega
          _ = 2 * fractionSize * twoPow (step + 1) * denominator := by rw [twoPow_succ]; ring
    have nearest :
        nearestWhole numerator (denominator * twoPow (step + 1)) = fractionSize := by
      rw [← scale, double]
      apply nearestWhole_eq (by omega) (by omega) (by omega)
      intro odd
      exact absurd odd (by decide)
    simp only [same, nearest]
  · have before : binade (numerator / denominator) = step := by
      apply binade_eq
      · refine .inr ((Nat.le_div_iff_mul_le positive).mpr ?_)
        calc fractionSize * twoPow step * denominator
            = fractionSize * (denominator * twoPow step) := by ring
          _ ≤ numerator := by
              unfold fractionSize at *
              omega
      · rw [Nat.div_lt_iff_lt_mul positive]
        calc numerator < fractionSize * (2 * (denominator * twoPow step)) :=
              Nat.lt_of_not_le above
          _ = 2 * fractionSize * twoPow step * denominator := by ring
    have nearest :
        nearestWhole numerator (denominator * twoPow step) = 2 * fractionSize := by
      apply nearestWhole_eq width
      · unfold fractionSize at *
        omega
      · unfold fractionSize at *
        omega
      · intro odd
        exact absurd odd (by decide)
    simp only [before, nearest]
    ring

/-- What it means to lie in an interval; the ends count for an even significand
only. -/
theorem bounds_of_contains
    {value : Binary64}
    {number weight : Nat}
    (inside : (Decimal.Interval.of value).contains number weight = true) :
    (Decimal.Interval.of value).lower * weight ≤ number ∧
      number ≤ (Decimal.Interval.of value).upper * weight ∧
      (value.significand % 2 = 1 →
        (Decimal.Interval.of value).lower * weight < number ∧
          number < (Decimal.Interval.of value).upper * weight) := by
  have closed : (Decimal.Interval.of value).closed = (value.significand % 2 == 0) := rfl
  unfold Decimal.Interval.contains at inside
  split at inside
  case isTrue even =>
    rw [closed] at even
    simp only [Bool.and_eq_true, decide_eq_true_eq] at inside
    refine ⟨inside.1, inside.2, ?_⟩
    intro odd
    simp [odd] at even
  case isFalse odd =>
    simp only [Bool.and_eq_true, decide_eq_true_eq] at inside
    exact ⟨inside.1.le, inside.2.le, fun _ => inside⟩

/-- A ratio in the rounding interval of a value has its magnitude. -/
theorem nearestMagnitude_of_contains
    {value : Binary64}
    {numerator denominator : Nat}
    (positive : 0 < denominator)
    (inside : (Decimal.Interval.of value).contains (4 * numerator) denominator = true) :
    nearestMagnitude numerator denominator = value.magnitude.val := by
  obtain ⟨lower, upper, strict⟩ := bounds_of_contains inside
  have whole : value.units * denominator =
      value.significand * (denominator * twoPow value.scale) := by
    unfold units
    ring
  have width : twoPow value.scale * denominator = denominator * twoPow value.scale :=
    Nat.mul_comm _ _
  by_cases boundary : value.IsBoundary
  · have below : (Decimal.Interval.of value).lower =
        4 * value.units - twoPow value.scale := by
      unfold IsBoundary at boundary
      simp only [Decimal.Interval.of, if_pos boundary]
    have above : (Decimal.Interval.of value).upper =
        4 * value.units + 2 * twoPow value.scale := rfl
    rw [below, Nat.sub_mul, Nat.mul_assoc, whole, width] at lower
    rw [above, Nat.add_mul, Nat.mul_assoc, Nat.mul_assoc, whole, width] at upper
    exact nearestMagnitude_of_boundary positive boundary (by omega) (by omega)
  · have below : (Decimal.Interval.of value).lower =
        4 * value.units - 2 * twoPow value.scale := by
      unfold IsBoundary at boundary
      simp only [Decimal.Interval.of, if_neg boundary]
    have above : (Decimal.Interval.of value).upper =
        4 * value.units + 2 * twoPow value.scale := rfl
    rw [below, Nat.sub_mul, Nat.mul_assoc, Nat.mul_assoc, whole, width] at lower strict
    rw [above, Nat.add_mul, Nat.mul_assoc, Nat.mul_assoc, whole, width] at upper strict
    exact nearestMagnitude_of_interior positive boundary (by omega) (by omega) (by omega)

/-- A finite value has its own magnitude. -/
theorem ofMagnitude_self {value : Binary64} (finite : value.isFinite = true) :
    ofMagnitude value.negative value.magnitude.val = value := by
  have bound : value.magnitude.val < infiniteMagnitude := by simpa [isFinite] using finite
  unfold ofMagnitude
  congr 1
  exact Fin.ext (Nat.min_eq_left bound.le)

/-- A ratio in the rounding interval of a finite value rounds to it. -/
theorem nearest_of_contains
    {value : Binary64}
    {numerator denominator : Nat}
    (finite : value.isFinite = true)
    (positive : 0 < denominator)
    (inside : (Decimal.Interval.of value).contains (4 * numerator) denominator = true) :
    nearest value.negative numerator denominator = value := by
  rw [nearest, nearestMagnitude_of_contains positive inside, ofMagnitude_self finite]

/-! ## The binade of a ratio -/

/-- A ratio counts fewer steps than there are significands. -/
theorem quotient_lt (numerator denominator : Nat) :
    numerator / (denominator * twoPow (binade (numerator / denominator))) <
      2 * fractionSize := by
  rw [← Nat.div_div_eq_div_mul, Nat.div_lt_iff_lt_mul (twoPow_pos _)]
  calc numerator / denominator
      < 2 ^ ((numerator / denominator).log2 + 1) := Nat.lt_log2_self
    _ ≤ 2 ^ (53 + binade (numerator / denominator)) :=
        Nat.pow_le_pow_right (by decide) (by unfold binade; omega)
    _ = 2 * fractionSize * twoPow (binade (numerator / denominator)) := Nat.pow_add 2 53 _

/-- Above the lowest binade it counts as many steps as leave the leading bit set. -/
theorem le_quotient
    {numerator denominator : Nat}
    (raised : 0 < binade (numerator / denominator)) :
    fractionSize ≤ numerator / (denominator * twoPow (binade (numerator / denominator))) := by
  have nonzero : numerator / denominator ≠ 0 := by
    intro zero
    rw [zero] at raised
    exact absurd raised (by decide)
  have exponent : 52 + binade (numerator / denominator) = (numerator / denominator).log2 := by
    unfold binade at *
    omega
  rw [← Nat.div_div_eq_div_mul, Nat.le_div_iff_mul_le (twoPow_pos _)]
  calc fractionSize * twoPow (binade (numerator / denominator))
      = 2 ^ (52 + binade (numerator / denominator)) := (Nat.pow_add 2 52 _).symm
    _ = 2 ^ (numerator / denominator).log2 := by rw [exponent]
    _ ≤ numerator / denominator := Nat.log2_self_le nonzero

theorem le_nearestWhole (numerator denominator : Nat) :
    numerator / denominator ≤ nearestWhole numerator denominator := by
  unfold nearestWhole
  dsimp only
  split_ifs <;> omega

theorem nearestWhole_le (numerator denominator : Nat) :
    nearestWhole numerator denominator ≤ numerator / denominator + 1 := by
  unfold nearestWhole
  dsimp only
  split_ifs <;> omega

/-! ## Overflow -/

/-- Rounding stays within the binade or reaches the start of the next one. -/
theorem nearestMagnitude_le (numerator denominator : Nat) :
    nearestMagnitude numerator denominator ≤
      (binade (numerator / denominator) + 2) * fractionSize := by
  have below := quotient_lt numerator denominator
  have rounded := nearestWhole_le numerator
    (denominator * twoPow (binade (numerator / denominator)))
  unfold nearestMagnitude
  dsimp only
  rw [Nat.add_mul]
  omega

/-- A ratio far below the largest finite value is rounded to a finite one. -/
theorem isFinite_nearest
    (negative : Bool)
    {numerator denominator exponent : Nat}
    (below : exponent ≤ 2096)
    (small : numerator / denominator < twoPow exponent) :
    (nearest negative numerator denominator).isFinite = true := by
  have log : binade (numerator / denominator) ≤ 2043 := by
    unfold binade
    rcases Nat.eq_zero_or_pos (numerator / denominator) with zero | positive
    · rw [zero]
      exact Nat.zero_le _
    · have bound : (numerator / denominator).log2 < exponent :=
        (Nat.log2_lt positive.ne').mpr small
      omega
  have magnitude := nearestMagnitude_le numerator denominator
  have high : (binade (numerator / denominator) + 2) * fractionSize ≤ 2045 * fractionSize :=
    Nat.mul_le_mul_right _ (by omega)
  have finite : nearestMagnitude numerator denominator < infiniteMagnitude :=
    Nat.lt_of_le_of_lt (Nat.le_trans magnitude high) (by decide)
  rw [isFinite, decide_eq_true_eq]
  exact Nat.lt_of_le_of_lt (Nat.min_le_left _ _) finite

end Binary64
end DualPhy
