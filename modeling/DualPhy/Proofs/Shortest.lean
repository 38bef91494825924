import DualPhy.Decimal
import DualPhy.Proofs.Rounding

/-!
# Shortest digits read back

The search for the shortest digits of a finite value always ends, because the finest
grid has a point in every rounding interval, and the decimal that it finds rounds to
the value.
-/

namespace DualPhy
namespace Decimal

namespace Interval

/-- The ends scale with the denominator. -/
theorem contains_scale
    (interval : Interval)
    {factor : Nat}
    (positive : 0 < factor)
    (number weight : Nat) :
    interval.contains (factor * number) (factor * weight) = interval.contains number weight := by
  have lowerEnd : interval.lower * (factor * weight) = factor * (interval.lower * weight) := by
    ring
  have upperEnd : interval.upper * (factor * weight) = factor * (interval.upper * weight) := by
    ring
  simp [contains, lowerEnd, upperEnd, Nat.mul_le_mul_left_iff positive,
    Nat.mul_lt_mul_left positive]

/-- A number strictly between the ends lies in the interval. -/
theorem contains_of_lt
    {interval : Interval}
    {number weight : Nat}
    (lower : interval.lower * weight < number)
    (upper : number < interval.upper * weight) :
    interval.contains number weight = true := by
  unfold contains
  split
  · simp [lower.le, upper.le]
  · simp [lower, upper]

/-- The interval of a value other than zero lies above zero. -/
theorem lower_pos {value : Binary64} (nonzero : 0 < value.units) : 0 < (of value).lower := by
  have step : twoPow value.scale ≤ value.units := by
    have significand : 0 < value.significand := by
      rw [Nat.pos_iff_ne_zero]
      intro zero
      simp [Binary64.units, zero] at nonzero
    exact Nat.le_mul_of_pos_left _ significand
  simp only [of]
  split <;> omega

end Interval

/-! ## The search -/

/-- The digits that are written for a grid lie in the interval. -/
theorem contains_of_gridNeighbour?
    {tie : TieRule}
    {interval : Interval}
    {exponent : Int}
    {digits : Nat}
    (found : gridNeighbour? tie interval exponent = some digits) :
    interval.contains (digits * gridStep exponent) (gridWeight exponent) = true := by
  unfold gridNeighbour? at found
  simp only at found
  split at found
  case h_1 => cases found
  case h_2 fits _ =>
    cases found
    exact fits
  case h_3 _ fits =>
    cases found
    exact fits
  case h_4 below above =>
    generalize interval.value * gridWeight exponent / gridStep exponent = quotient at *
    have either : digits = quotient ∨ digits = quotient + 1 := by
      cases tie <;> simp only at found <;> split_ifs at found <;> cases found <;> simp
    rcases either with rfl | rfl
    · exact below
    · exact above

/-- A grid is taken when the neighbour above the value lies in the interval. -/
theorem isSome_gridNeighbour?_of_above
    (tie : TieRule)
    {interval : Interval}
    {exponent : Int}
    (above : interval.contains
      ((interval.value * gridWeight exponent / gridStep exponent + 1) * gridStep exponent)
      (gridWeight exponent) = true) :
    (gridNeighbour? tie interval exponent).isSome := by
  unfold gridNeighbour?
  simp only [above]
  split
  case h_1 => contradiction
  case h_2 => rfl
  case h_3 => rfl
  case h_4 => cases tie <;> simp only <;> split_ifs <;> rfl

/-- The finest grid has a point in every rounding interval, because its step is
narrower than one unit. -/
theorem isSome_gridNeighbour?_finest (tie : TieRule) (value : Binary64) :
    (gridNeighbour? tie (.of value) (-324)).isSome := by
  apply isSome_gridNeighbour?_of_above
  have narrow : gridStep (-324) < gridWeight (-324) := by decide +kernel
  have positive : 0 < gridStep (-324) := by decide +kernel
  have above : (Interval.of value).value * gridWeight (-324) <
      ((Interval.of value).value * gridWeight (-324) / gridStep (-324) + 1) *
        gridStep (-324) := by
    rw [← Nat.div_lt_iff_lt_mul positive]
    exact Nat.lt_succ_self _
  have below : (Interval.of value).value * gridWeight (-324) / gridStep (-324) *
      gridStep (-324) ≤ (Interval.of value).value * gridWeight (-324) :=
    Nat.div_mul_le_self _ _
  have lower : (Interval.of value).lower ≤ (Interval.of value).value := Nat.sub_le _ _
  have upper : (Interval.of value).value + 1 ≤ (Interval.of value).upper := by
    have step := twoPow_pos value.scale
    simp only [Interval.of]
    omega
  apply Interval.contains_of_lt
  · exact Nat.lt_of_le_of_lt (Nat.mul_le_mul_right _ lower) above
  · calc ((Interval.of value).value * gridWeight (-324) / gridStep (-324) + 1) *
          gridStep (-324)
        ≤ (Interval.of value).value * gridWeight (-324) + gridStep (-324) := by
          rw [Nat.add_mul, Nat.one_mul]
          exact Nat.add_le_add_right below _
      _ < ((Interval.of value).value + 1) * gridWeight (-324) := by
          rw [Nat.add_mul, Nat.one_mul]
          exact Nat.add_lt_add_left narrow _
      _ ≤ (Interval.of value).upper * gridWeight (-324) := Nat.mul_le_mul_right _ upper

/-- What the search finds is written for one of the grids searched. -/
theorem searchGrids_spec
    {tie : TieRule}
    {interval : Interval}
    {count digits : Nat}
    {first exponent : Int}
    (found : searchGrids tie interval count first = some (digits, exponent)) :
    gridNeighbour? tie interval exponent = some digits ∧
      first - count < exponent ∧ exponent ≤ first := by
  induction count generalizing first with
  | zero => cases found
  | succ count inductionHypothesis =>
      unfold searchGrids at found
      cases neighbour : gridNeighbour? tie interval first with
      | some candidate =>
          simp only [neighbour, Option.some.injEq, Prod.mk.injEq] at found
          obtain ⟨rfl, rfl⟩ := found
          refine ⟨neighbour, ?_, Int.le_refl _⟩
          omega
      | none =>
          simp only [neighbour] at found
          obtain ⟨candidate, after, before⟩ := inductionHypothesis found
          refine ⟨candidate, ?_, ?_⟩ <;> omega

/-- The search finds something if a grid that it comes to is taken. -/
theorem isSome_searchGrids
    {tie : TieRule}
    {interval : Interval}
    {count position : Nat}
    {first : Int}
    (reached : position < count)
    (taken : (gridNeighbour? tie interval (first - position)).isSome) :
    (searchGrids tie interval count first).isSome := by
  induction count generalizing first position with
  | zero => omega
  | succ count inductionHypothesis =>
      unfold searchGrids
      cases neighbour : gridNeighbour? tie interval first with
      | some candidate => rfl
      | none =>
          cases position with
          | zero => simp [neighbour] at taken
          | succ position =>
              have next : first - (position + 1 : Nat) = first - 1 - position := by omega
              rw [next] at taken
              exact inductionHypothesis (Nat.lt_of_succ_lt_succ reached) taken

/-! ## The digits found -/

/-- What the shortest digits of a value other than zero satisfy. -/
structure Approximates (value : Binary64) (digits : Nat) (exponent : Int) : Prop where
  positive : 0 < digits
  inside : (Interval.of value).contains (digits * gridStep exponent) (gridWeight exponent) = true
  least : -324 ≤ exponent
  greatest : exponent ≤ 309

theorem approximates_shortest
    (tie : TieRule)
    {value : Binary64}
    (nonzero : 0 < value.units) :
    Approximates value (shortest tie value).1 (shortest tie value).2 := by
  have some : (searchGrids tie (.of value) gridCount coarsestExponent).isSome := by
    apply isSome_searchGrids (show 633 < gridCount by decide)
    exact isSome_gridNeighbour?_finest tie value
  obtain ⟨⟨digits, exponent⟩, found⟩ := Option.isSome_iff_exists.mp some
  have result : shortest tie value = (digits, exponent) := by
    unfold shortest
    rw [if_neg nonzero.ne', found]
    rfl
  obtain ⟨neighbour, after, before⟩ := searchGrids_spec found
  have inside := contains_of_gridNeighbour? neighbour
  rw [result]
  constructor
  case positive =>
    have bound := (Binary64.bounds_of_contains inside).1
    have ends : 0 < (Interval.of value).lower * gridWeight exponent :=
      Nat.mul_pos (Interval.lower_pos nonzero) (tenPow_pos _)
    exact Nat.pos_of_mul_pos_right (Nat.lt_of_lt_of_le ends bound)
  case inside => exact inside
  case least =>
    unfold gridCount coarsestExponent at after
    simp only
    omega
  case greatest => exact before

theorem shortest_of_zero
    (tie : TieRule)
    {value : Binary64}
    (zero : value.units = 0) :
    shortest tie value = (0, 0) := by
  unfold shortest
  rw [if_pos zero]

/-- A decimal that approximates a finite value rounds to it. -/
theorem Approximates.round
    {value : Binary64}
    {digits : Nat}
    {exponent : Int}
    (approximates : Approximates value digits exponent)
    (finite : value.isFinite = true) :
    Decimal.round ⟨value.negative, digits, exponent⟩ = value := by
  obtain ⟨positive, inside, least, greatest⟩ := approximates
  have candidate : digits * gridStep exponent =
      4 * (digits * tenPow exponent.toNat * twoPow Binary64.unitExponent) := by
    unfold gridStep
    rw [twoPow_add, show twoPow 2 = 4 from rfl]
    ring
  unfold Decimal.round
  simp only
  rw [if_neg positive.ne', if_neg (by unfold exponentBound; omega),
    if_neg (by unfold exponentBound; omega)]
  apply Binary64.nearest_of_contains finite (tenPow_pos _)
  rw [← candidate]
  exact inside

/-- Moving the point to behind the last digit but one does not matter to a decimal that
is whole. -/
theorem Approximates.shift
    {value : Binary64}
    {digits : Nat}
    {exponent : Int}
    (approximates : Approximates value digits exponent)
    (whole : 0 ≤ exponent) :
    Approximates value (digits * tenPow (exponent.toNat + 1)) (-1) := by
  obtain ⟨positive, inside, least, greatest⟩ := approximates
  constructor
  case positive => exact Nat.mul_pos positive (tenPow_pos _)
  case inside =>
    have number : digits * tenPow (exponent.toNat + 1) * gridStep (-1) =
        10 * (digits * gridStep exponent) := by
      unfold gridStep
      rw [tenPow_succ, show (-1 : Int).toNat = 0 from rfl, tenPow_zero]
      ring
    have weight : gridWeight (-1) = 10 * gridWeight exponent := by
      unfold gridWeight
      rw [show (-exponent).toNat = 0 by omega]
      rfl
    rw [number, weight, Interval.contains_scale _ (by decide)]
    exact inside
  case least => decide
  case greatest => decide

end Decimal

namespace Binary64

/-- A value of no units is the zero of its sign. -/
theorem eq_zero_of_units {value : Binary64} (noUnits : value.units = 0) :
    value = zero value.negative := by
  have significand : value.significand = 0 := by
    rcases Nat.mul_eq_zero.mp noUnits with none | impossible
    · exact none
    · exact absurd impossible (twoPow_pos _).ne'
  have scale : value.scale = 0 := by
    rw [← Nat.le_zero, ← Nat.not_lt]
    intro normal
    have leading := le_significand normal
    rw [significand] at leading
    exact absurd leading (by decide)
  have magnitude : value.magnitude.val = 0 := by
    rw [magnitude_eq, significand, scale]
    rfl
  have finite : value.isFinite = true := by
    rw [isFinite, magnitude]
    rfl
  rw [zero, ← magnitude, ofMagnitude_self finite]

end Binary64
end DualPhy
