import DualPhy.Proofs.Shortest
import DualPhy.Proofs.Truncation

/-!
# Correct rounding

What it means for a value to be the nearest one to a number, an exact tie going to the value
whose last bit is zero: the rule says nothing about how the value is found. The infinities take
part in it as the values that follow the largest finite ones. Exactly one absolute value is
nearest to each number, and the value of a decimal is the nearest one to its exact number.
-/

namespace DualPhy
namespace Binary64

/-! ## The values in order -/

/-- The absolute value in units that belongs to a magnitude. -/
def unitsOf (magnitude : Nat) : Nat :=
  if magnitude < fractionSize then magnitude
  else (fractionSize + magnitude % fractionSize) * twoPow (magnitude / fractionSize - 1)

theorem units_eq_unitsOf (value : Binary64) : value.units = unitsOf value.magnitude.val := by
  unfold units significand scale exponentField fractionField unitsOf
  by_cases low : value.magnitude.val < fractionSize
  · rw [if_pos low, Nat.div_eq_of_lt low, if_pos rfl, Nat.mod_eq_of_lt low, Nat.zero_sub,
      twoPow_zero, Nat.mul_one]
  · rw [if_neg low, if_neg]
    have positive : 0 < fractionSize := by decide
    rw [Nat.div_eq_zero_iff]
    omega

/-- The multiples of a step that make up a binade, its end included. -/
theorem unitsOf_grid
    {step whole : Nat}
    (lower : step = 0 ∨ fractionSize ≤ whole)
    (upper : whole ≤ 2 * fractionSize) :
    unitsOf (step * fractionSize + whole) = whole * twoPow step := by
  have positive : 0 < fractionSize := by decide
  unfold unitsOf
  rcases Nat.lt_or_ge whole fractionSize with low | high
  · obtain rfl : step = 0 := lower.resolve_right (by omega)
    rw [if_pos (by omega), twoPow_zero, Nat.zero_mul, Nat.zero_add, Nat.mul_one]
  · obtain ⟨offset, rfl⟩ := Nat.exists_eq_add_of_le high
    have split : step * fractionSize + (fractionSize + offset) =
        offset + (step + 1) * fractionSize := by
      ring
    rw [split, if_neg (by rw [Nat.add_mul]; omega), Nat.add_mul_mod_self_right,
      Nat.add_mul_div_right _ _ positive]
    -- the end of the binade is the start of the next one
    rcases Nat.eq_or_lt_of_le (show offset ≤ fractionSize by omega) with rfl | inside
    · rw [Nat.mod_self, Nat.div_self positive, show 1 + (step + 1) - 1 = step + 1 by omega,
        twoPow_succ]
      ring
    · rw [Nat.mod_eq_of_lt inside, Nat.div_eq_of_lt inside, Nat.zero_add, Nat.add_sub_cancel]

/-- Every magnitude lies in a binade. -/
theorem exists_grid (magnitude : Nat) :
    ∃ step whole, magnitude = step * fractionSize + whole ∧
      (step = 0 ∨ fractionSize ≤ whole) ∧ whole < 2 * fractionSize := by
  have positive : 0 < fractionSize := by decide
  have small : magnitude % fractionSize < fractionSize := Nat.mod_lt _ positive
  have split : fractionSize * (magnitude / fractionSize) + magnitude % fractionSize = magnitude :=
    Nat.div_add_mod magnitude fractionSize
  cases field : magnitude / fractionSize with
  | zero =>
      rw [field] at split
      exact ⟨0, magnitude, by omega, .inl rfl, by omega⟩
  | succ step =>
      rw [field, Nat.mul_add] at split
      refine ⟨step, fractionSize + magnitude % fractionSize, ?_, .inr (by omega), by omega⟩
      rw [Nat.mul_comm step]
      omega

theorem unitsOf_strictMono : StrictMono unitsOf := by
  refine strictMono_nat_of_lt_succ fun magnitude => ?_
  obtain ⟨step, whole, rfl, lower, upper⟩ := exists_grid magnitude
  rw [unitsOf_grid lower upper.le, Nat.add_assoc,
    unitsOf_grid (lower.imp_right (Nat.le_add_right_of_le ·)) upper]
  exact Nat.mul_lt_mul_of_pos_right (Nat.lt_succ_self _) (twoPow_pos _)

/-- Seen from a binade, every absolute value is a multiple of its step, unless it lies below
the binade and that is not the lowest one. -/
theorem unitsOf_cases (step other : Nat) :
    (∃ whole, unitsOf other = whole * twoPow step) ∨
      0 < step ∧ unitsOf other < fractionSize * twoPow step := by
  obtain ⟨otherStep, whole, rfl, lower, upper⟩ := exists_grid other
  rw [unitsOf_grid lower upper.le]
  rcases Nat.le_total step otherStep with coarser | finer
  · obtain ⟨more, rfl⟩ := Nat.exists_eq_add_of_le coarser
    refine .inl ⟨whole * twoPow more, ?_⟩
    rw [twoPow_add]
    ring
  · rcases finer.eq_or_lt with rfl | finer
    · exact .inl ⟨whole, rfl⟩
    · obtain ⟨more, rfl⟩ := Nat.exists_eq_add_of_lt finer
      refine .inr ⟨Nat.succ_pos _, ?_⟩
      calc whole * twoPow otherStep
          < 2 * fractionSize * twoPow otherStep :=
            Nat.mul_lt_mul_of_pos_right upper (twoPow_pos _)
        _ = fractionSize * twoPow (otherStep + 1) := by
            rw [twoPow_succ]
            ring
        _ ≤ fractionSize * twoPow (otherStep + more + 1) :=
            Nat.mul_le_mul_left _ (Nat.pow_le_pow_right (by decide) (by omega))

/-! ## The nearest magnitude -/

/-- A whole number within one half, and an even one if the distance is exactly one half. -/
theorem abs_sub_nearestWhole
    (numerator : Nat)
    {denominator : Nat}
    (positive : 0 < denominator) :
    |(numerator : ℚ) / denominator - nearestWhole numerator denominator| ≤ 1 / 2 ∧
      (|(numerator : ℚ) / denominator - nearestWhole numerator denominator| = 1 / 2 →
        nearestWhole numerator denominator % 2 = 0) := by
  have nonzero : (0 : ℚ) < denominator := Nat.cast_pos.mpr positive
  have split : (numerator : ℚ) / denominator =
      (numerator / denominator : Nat) + (numerator % denominator : Nat) / (denominator : ℚ) := by
    rw [div_eq_iff nonzero.ne', add_mul, div_mul_cancel₀ _ nonzero.ne']
    exact_mod_cast (Nat.div_add_mod' numerator denominator).symm
  have fraction : (0 : ℚ) ≤ (numerator % denominator : Nat) / (denominator : ℚ) := by positivity
  unfold nearestWhole
  rw [split]
  dsimp only
  split_ifs with less more
  · have below : ((numerator % denominator : Nat) : ℚ) / denominator < 1 / 2 := by
      rw [div_lt_iff₀ nonzero]
      have cast : (2 * (numerator % denominator : Nat) : ℚ) < denominator := by exact_mod_cast less
      linarith
    rw [add_sub_cancel_left, abs_of_nonneg fraction]
    exact ⟨below.le, fun half => absurd half below.ne⟩
  · have above : 1 / 2 < ((numerator % denominator : Nat) : ℚ) / denominator := by
      rw [lt_div_iff₀ nonzero]
      have cast : (denominator : ℚ) < 2 * (numerator % denominator : Nat) := by exact_mod_cast more
      linarith
    have small : ((numerator % denominator : Nat) : ℚ) / denominator < 1 := by
      rw [div_lt_one nonzero]
      exact_mod_cast Nat.mod_lt numerator positive
    rw [Nat.cast_add, Nat.cast_one, add_sub_add_left_eq_sub, abs_sub_comm,
      abs_of_pos (sub_pos.mpr small)]
    exact ⟨by linarith, fun half => by linarith⟩
  · have half : ((numerator % denominator : Nat) : ℚ) / denominator = 1 / 2 := by
      rw [div_eq_iff nonzero.ne']
      have cast : (2 * (numerator % denominator : Nat) : ℚ) = denominator := by
        exact_mod_cast Nat.le_antisymm (Nat.le_of_not_lt more) (Nat.le_of_not_lt less)
      linarith
    rw [half, Nat.cast_add, add_sub_add_left_eq_sub]
    rcases Nat.mod_two_eq_zero_or_one (numerator / denominator) with even | odd
    · rw [even]
      norm_num
      omega
    · rw [odd]
      norm_num
      omega

/-- Rounding prefers a magnitude to another one: it is nearer to a number of units, or as near
and even. -/
def Preferred (number : ℚ) (magnitude other : Nat) : Prop :=
  |number - unitsOf magnitude| < |number - unitsOf other| ∨
    |number - unitsOf magnitude| = |number - unitsOf other| ∧ magnitude % 2 = 0

/-- No whole number is nearer than one within one half. -/
theorem nearer_of_half
    {number : ℚ}
    {whole : Nat}
    (half : |number - whole| ≤ 1 / 2)
    (even : |number - whole| = 1 / 2 → whole % 2 = 0)
    {other : Nat}
    (different : other ≠ whole) :
    |number - whole| < |number - other| ∨
      |number - whole| = |number - other| ∧ whole % 2 = 0 := by
  have apart : (1 : ℚ) ≤ |(whole : ℚ) - other| := by
    exact_mod_cast Int.one_le_abs (sub_ne_zero.mpr (Nat.cast_injective.ne different.symm))
  have triangle : |(whole : ℚ) - other| ≤ |number - whole| + |number - other| := by
    rw [abs_sub_comm number whole]
    exact abs_sub_le _ _ _
  rcases half.lt_or_eq with less | equal
  · exact .inl (by linarith)
  · rcases (show 1 / 2 ≤ |number - other| by linarith).lt_or_eq with more | tie
    · exact .inl (by linarith)
    · exact .inr ⟨by linarith, even equal⟩

/-- The magnitude that a ratio is rounded to is preferred to every other one. -/
theorem preferred_nearestMagnitude
    (numerator : Nat)
    {denominator other : Nat}
    (positive : 0 < denominator)
    (different : other ≠ nearestMagnitude numerator denominator) :
    Preferred (numerator / denominator) (nearestMagnitude numerator denominator) other := by
  have grid : nearestMagnitude numerator denominator =
      binade (numerator / denominator) * fractionSize +
        nearestWhole numerator (denominator * twoPow (binade (numerator / denominator))) := rfl
  have below := quotient_lt numerator denominator
  have above := @le_quotient numerator denominator
  rw [grid] at different ⊢
  generalize binade (numerator / denominator) = step at *
  have atLeast := le_nearestWhole numerator (denominator * twoPow step)
  have atMost := nearestWhole_le numerator (denominator * twoPow step)
  have positiveStep := twoPow_pos step
  obtain ⟨half, even⟩ := abs_sub_nearestWhole numerator (Nat.mul_pos positive positiveStep)
  have least : step = 0 ∨ fractionSize ≤ nearestWhole numerator (denominator * twoPow step) :=
    step.eq_zero_or_pos.imp_right fun raised => (above raised).trans atLeast
  generalize nearestWhole numerator (denominator * twoPow step) = whole at *
  have size : unitsOf (step * fractionSize + whole) = whole * twoPow step :=
    unitsOf_grid least (by omega)
  have width : (0 : ℚ) < twoPow step := Nat.cast_pos.mpr positiveStep
  have scaled : ∀ count : Nat, |(numerator : ℚ) / denominator - (count * twoPow step : Nat)| =
      |(numerator : ℚ) / (denominator * twoPow step : Nat) - count| * twoPow step := by
    intro count
    rw [← abs_of_pos width, ← abs_mul, sub_mul, Nat.cast_mul, Nat.cast_mul,
      div_mul_eq_mul_div, mul_div_mul_right _ _ width.ne']
  have parity : (step * fractionSize + whole) % 2 = whole % 2 := by
    unfold fractionSize
    omega
  have unequal : unitsOf other ≠ whole * twoPow step := by
    rw [← size]
    exact unitsOf_strictMono.injective.ne different
  rw [Preferred, size, parity]
  rcases unitsOf_cases step other with ⟨count, multiple⟩ | ⟨raised, under⟩
  · have distinct : count ≠ whole := by
      rintro rfl
      exact unequal multiple
    rw [multiple, scaled, scaled]
    exact (nearer_of_half half even distinct).imp (mul_lt_mul_of_pos_right · width)
      (And.imp_left (congrArg (· * (twoPow step : ℚ)) ·))
  -- the start of the binade lies between the other value and the ratio
  · have start : ((fractionSize * twoPow step : Nat) : ℚ) ≤ numerator / denominator := by
      rw [le_div_iff₀ (Nat.cast_pos.mpr positive)]
      have counted := (Nat.le_div_iff_mul_le (Nat.mul_pos positive positiveStep)).mp (above raised)
      rw [← Nat.mul_assoc, Nat.mul_right_comm] at counted
      exact_mod_cast counted
    have between : (unitsOf other : ℚ) < (fractionSize * twoPow step : Nat) :=
      Nat.cast_lt.mpr under
    have atStart : |(numerator : ℚ) / denominator - (whole * twoPow step : Nat)| ≤
        |(numerator : ℚ) / denominator - (fractionSize * twoPow step : Nat)| := by
      rw [scaled, scaled]
      refine mul_le_mul_of_nonneg_right ?_ width.le
      rcases eq_or_ne fractionSize whole with same | different
      · rw [same]
      · exact (nearer_of_half half even different).elim le_of_lt (And.left · |>.le)
    rw [abs_of_nonneg (sub_nonneg.mpr start)] at atStart
    rw [abs_of_nonneg (sub_nonneg.mpr (between.le.trans start))]
    exact .inl (by linarith)

/-- If rounding prefers a magnitude beyond a bound to the bound, it prefers the bound to all
magnitudes below. -/
theorem Preferred.cut
    {number : ℚ}
    {magnitude bound other : Nat}
    (preferred : Preferred number magnitude bound)
    (beyond : bound < magnitude)
    (below : other < bound) :
    Preferred number bound other := by
  have higher : (unitsOf bound : ℚ) < unitsOf magnitude :=
    Nat.cast_lt.mpr (unitsOf_strictMono beyond)
  have lower : (unitsOf other : ℚ) < unitsOf bound :=
    Nat.cast_lt.mpr (unitsOf_strictMono below)
  have nearer : |number - unitsOf magnitude| ≤ |number - unitsOf bound| :=
    preferred.elim le_of_lt fun tie => tie.1.le
  have above : (unitsOf bound : ℚ) < number := by
    by_contra atMost
    rw [not_lt] at atMost
    rw [abs_of_nonpos (by linarith), abs_of_nonpos (by linarith)] at nearer
    linarith
  refine .inl ?_
  rw [abs_of_pos (by linarith), abs_of_pos (by linarith)]
  linarith

/-- Rounding cannot prefer two magnitudes to each other if it prefers both to those between
them. -/
theorem Preferred.not_symm
    {number : ℚ}
    {lower upper : Nat}
    (ordered : lower < upper)
    (first : ∀ other, other ≠ lower → other ≤ upper → Preferred number lower other)
    (second : ∀ other, other ≠ upper → other ≤ upper → Preferred number upper other) :
    False := by
  have downward := first upper ordered.ne' le_rfl
  have upward := second lower ordered.ne ordered.le
  obtain ⟨tie, even⟩ := downward.resolve_left fun less => upward.elim less.not_gt
    fun tie => less.ne' tie.1
  obtain ⟨-, otherEven⟩ := upward.resolve_left fun less => less.ne' tie
  -- a tie is decided by parity, and an odd magnitude between the two is nearer to their middle
  have between : lower + 1 < upper := by omega
  have above : (unitsOf lower : ℚ) < unitsOf (lower + 1) :=
    Nat.cast_lt.mpr (unitsOf_strictMono (Nat.lt_succ_self lower))
  have below : (unitsOf (lower + 1) : ℚ) < unitsOf upper :=
    Nat.cast_lt.mpr (unitsOf_strictMono between)
  have nearest : |number - unitsOf lower| ≤ |number - unitsOf (lower + 1)| :=
    (first (lower + 1) (Nat.succ_ne_self lower) between.le).elim le_of_lt (fun same => same.1.le)
  have middle : 2 * number = unitsOf lower + unitsOf upper := by
    rcases abs_eq_abs.mp tie with same | mirrored <;> linarith
  rw [abs_of_pos (by linarith), le_abs] at nearest
  rcases nearest with right | left <;> linarith

/-! ## The nearest value -/

/-- The absolute value of a number. An infinity takes the place of the power of two that would
follow the largest finite value. -/
def size (value : Binary64) : ℚ := value.units / 2 ^ unitExponent

/-- A value that no other one is nearer to a number than. If another absolute value is as near,
its last bit is zero. -/
structure IsNearest (value : Binary64) (number : ℚ) : Prop where
  isNumber : value.isNaN = false
  closest : ∀ other : Binary64, other.isNaN = false →
    |number - value.size| ≤ |number - other.size|
  even : ∀ other : Binary64, other.isNaN = false → other.size ≠ value.size →
    |number - value.size| = |number - other.size| → value.fractionField % 2 = 0

theorem isNaN_eq_false_iff (value : Binary64) :
    value.isNaN = false ↔ value.magnitude.val ≤ infiniteMagnitude := by
  rw [isNaN, decide_eq_false_iff_not, Nat.not_lt]

theorem ofMagnitude_magnitude
    (negative : Bool)
    {magnitude : Nat}
    (bound : magnitude ≤ infiniteMagnitude) :
    (ofMagnitude negative magnitude).magnitude.val = magnitude :=
  Nat.min_eq_left bound

/-- Distances between absolute values are those of the units. -/
theorem abs_sub_size (number : ℚ) (value : Binary64) :
    |number - value.size| =
      |number * 2 ^ unitExponent - unitsOf value.magnitude.val| / 2 ^ unitExponent := by
  have wide : (0 : ℚ) < 2 ^ unitExponent := by positivity
  rw [← abs_of_pos wide, ← abs_div, abs_of_pos wide, sub_div, mul_div_cancel_right₀ _ wide.ne',
    size, units_eq_unitsOf]

theorem size_eq_iff (value other : Binary64) :
    other.size = value.size ↔ other.magnitude = value.magnitude := by
  have wide : (2 : ℚ) ^ unitExponent ≠ 0 := by positivity
  rw [size, size, div_left_inj' wide, Nat.cast_inj, units_eq_unitsOf, units_eq_unitsOf,
    unitsOf_strictMono.injective.eq_iff, Fin.ext_iff]

/-- The nearest values are those that rounding prefers to all others that are no NaN. -/
theorem isNearest_iff (value : Binary64) (number : ℚ) :
    value.IsNearest number ↔
      value.magnitude.val ≤ infiniteMagnitude ∧
        ∀ other, other ≠ value.magnitude.val → other ≤ infiniteMagnitude →
          Preferred (number * 2 ^ unitExponent) value.magnitude.val other := by
  have wide : (0 : ℚ) < 2 ^ unitExponent := by positivity
  have parity : value.magnitude.val % 2 = value.fractionField % 2 := by
    unfold fractionField fractionSize
    omega
  constructor
  · intro nearest
    refine ⟨(isNaN_eq_false_iff value).mp nearest.isNumber, fun other different bound => ?_⟩
    have magnitude := ofMagnitude_magnitude false bound
    have comparable := (isNaN_eq_false_iff (ofMagnitude false other)).mpr (magnitude.trans_le bound)
    have distinct : (ofMagnitude false other).size ≠ value.size := by
      rw [Ne, size_eq_iff, Fin.ext_iff, magnitude]
      exact different
    have closest := nearest.closest _ comparable
    have even := nearest.even _ comparable distinct
    rw [abs_sub_size, abs_sub_size, magnitude] at closest even
    rw [div_le_div_iff_of_pos_right wide] at closest
    rw [div_left_inj' wide.ne', ← parity] at even
    exact closest.lt_or_eq.imp_right fun tie => ⟨tie, even tie⟩
  · rintro ⟨number, preferred⟩
    refine ⟨(isNaN_eq_false_iff value).mpr number, fun other comparable => ?_,
      fun other comparable distinct tie => ?_⟩
    · rw [abs_sub_size, abs_sub_size, div_le_div_iff_of_pos_right wide]
      by_cases same : other.magnitude.val = value.magnitude.val
      · rw [same]
      · exact (preferred _ same ((isNaN_eq_false_iff other).mp comparable)).elim le_of_lt
          fun tie => tie.1.le
    · rw [Ne, size_eq_iff, Fin.ext_iff] at distinct
      rw [abs_sub_size, abs_sub_size, div_left_inj' wide.ne'] at tie
      rw [← parity]
      exact (preferred _ distinct ((isNaN_eq_false_iff other).mp comparable)).elim
        (fun less => absurd tie less.ne) And.right

/-- Only one absolute value is nearest to a number. -/
theorem IsNearest.magnitude_eq
    {value other : Binary64}
    {number : ℚ}
    (nearest : value.IsNearest number)
    (otherNearest : other.IsNearest number) :
    value.magnitude = other.magnitude := by
  obtain ⟨bound, preferred⟩ := (isNearest_iff value number).mp nearest
  obtain ⟨otherBound, otherPreferred⟩ := (isNearest_iff other number).mp otherNearest
  rw [Fin.ext_iff]
  rcases Nat.lt_trichotomy value.magnitude.val other.magnitude.val with less | same | more
  · exact (Preferred.not_symm less
      (fun between distinct upper => preferred between distinct (upper.trans otherBound))
      fun between distinct upper =>
        otherPreferred between distinct (upper.trans otherBound)).elim
  · exact same
  · exact (Preferred.not_symm more
      (fun between distinct upper => otherPreferred between distinct (upper.trans bound))
      fun between distinct upper => preferred between distinct (upper.trans bound)).elim

/-- A ratio of units is rounded to the value nearest to it. -/
theorem isNearest_nearest
    (negative : Bool)
    (numerator : Nat)
    {denominator : Nat}
    (positive : 0 < denominator)
    {number : ℚ}
    (ratio : number * 2 ^ unitExponent = numerator / denominator) :
    (nearest negative numerator denominator).IsNearest number := by
  rw [isNearest_iff, nearest, ratio]
  have preferred := fun other => @preferred_nearestMagnitude numerator denominator other positive
  generalize nearestMagnitude numerator denominator = magnitude at preferred
  rcases Nat.lt_or_ge infiniteMagnitude magnitude with beyond | inside
  · have cut : (ofMagnitude negative magnitude).magnitude.val = infiniteMagnitude :=
      Nat.min_eq_right beyond.le
    rw [cut]
    exact ⟨le_rfl, fun other different bound =>
      (preferred infiniteMagnitude beyond.ne).cut beyond (bound.lt_of_ne different)⟩
  · rw [ofMagnitude_magnitude negative inside]
    exact ⟨inside, fun other different _ => preferred other different⟩

/-- The nearest value to a number of less than half a unit is zero. -/
theorem isNearest_zero
    (negative : Bool)
    {number : ℚ}
    (nonneg : 0 ≤ number)
    (small : 2 * (number * 2 ^ unitExponent) < 1) :
    (zero negative).IsNearest number := by
  rw [isNearest_iff, zero, ofMagnitude_magnitude negative (Nat.zero_le _)]
  refine ⟨Nat.zero_le _, fun other different _ => .inl ?_⟩
  have one : (1 : ℚ) ≤ unitsOf other := by
    exact_mod_cast (Nat.one_le_iff_ne_zero.mpr different).trans unitsOf_strictMono.le_apply
  have none : unitsOf 0 = 0 := rfl
  have bound : (0 : ℚ) ≤ number * 2 ^ unitExponent := by positivity
  rw [none, Nat.cast_zero, sub_zero, abs_of_nonneg bound, abs_of_nonpos (by linarith)]
  linarith

/-- The start of a binade. -/
theorem unitsOf_start (step : Nat) :
    unitsOf (step * fractionSize + fractionSize) = 2 ^ (52 + step) := by
  rw [unitsOf_grid (.inr le_rfl) (Nat.le_mul_of_pos_left _ (by decide)), Nat.pow_add]
  rfl

theorem unitsOf_infiniteMagnitude :
    unitsOf infiniteMagnitude = 2 ^ (1024 + unitExponent) := by
  have exponent : 52 + 2046 = 1024 + unitExponent := rfl
  rw [← exponent, ← unitsOf_start]
  rfl

/-- The nearest value to a number as large as the place of the infinities is infinite. -/
theorem isNearest_infinity
    (negative : Bool)
    {number : ℚ}
    (large : 2 ^ 1024 ≤ number) :
    (infinity negative).IsNearest number := by
  rw [isNearest_iff, infinity, ofMagnitude_magnitude negative le_rfl]
  refine ⟨le_rfl, fun other different bound => .inl ?_⟩
  have lower : (unitsOf other : ℚ) < unitsOf infiniteMagnitude :=
    Nat.cast_lt.mpr (unitsOf_strictMono (bound.lt_of_ne different))
  have place : (unitsOf infiniteMagnitude : ℚ) = 2 ^ 1024 * 2 ^ unitExponent := by
    rw [unitsOf_infiniteMagnitude, Nat.cast_pow, Nat.cast_ofNat, pow_add]
  have above : (unitsOf infiniteMagnitude : ℚ) ≤ number * 2 ^ unitExponent := by
    rw [place]
    exact mul_le_mul_of_nonneg_right large (by positivity)
  rw [abs_of_nonneg (by linarith), abs_of_nonneg (by linarith)]
  linarith

end Binary64

/-! ## Decimals -/

namespace Decimal

/-- The absolute value of a decimal. -/
def size (decimal : Decimal) : ℚ := decimal.coefficient * 10 ^ decimal.exponent

theorem negative_round (decimal : Decimal) : decimal.round.negative = decimal.negative := by
  unfold round
  split_ifs <;> rfl

theorem size_nonneg (decimal : Decimal) : 0 ≤ decimal.size :=
  mul_nonneg (Nat.cast_nonneg _) (zpow_nonneg (by norm_num) _)

theorem tenPow_eq_pow (exponent : Nat) : tenPow exponent = 10 ^ exponent := rfl

/-- Three powers of two make less than a power of ten. -/
theorem two_pow_le_ten_pow {twos tens : Nat} (fewer : twos ≤ 3 * tens) :
    (2 : ℚ) ^ twos ≤ 10 ^ tens := by
  calc (2 : ℚ) ^ twos ≤ 2 ^ (3 * tens) := pow_le_pow_right₀ (by norm_num) fewer
    _ = (2 ^ 3) ^ tens := pow_mul 2 3 tens
    _ ≤ 10 ^ tens := pow_le_pow_left₀ (by norm_num) (by norm_num) tens

/-- A decimal other than zero with an exponent beyond the bound lies in the range of the
infinities. -/
theorem large_of_exponent
    {decimal : Decimal}
    (digits : decimal.coefficient ≠ 0)
    (large : (exponentBound : Int) < decimal.exponent) :
    2 ^ 1024 ≤ decimal.size := by
  have one : (1 : ℚ) ≤ decimal.coefficient := by
    exact_mod_cast Nat.one_le_iff_ne_zero.mpr digits
  calc (2 : ℚ) ^ 1024 ≤ 10 ^ exponentBound := two_pow_le_ten_pow (by decide)
    _ = 10 ^ (exponentBound : ℤ) := (zpow_natCast 10 exponentBound).symm
    _ ≤ 10 ^ decimal.exponent := zpow_le_zpow_right₀ (by norm_num) large.le
    _ ≤ decimal.size := le_mul_of_one_le_left (zpow_nonneg (by norm_num) _) one

/-- A decimal whose leading digit is that far behind the point lies in the range of zero. -/
theorem small_of_exponent
    {decimal : Decimal}
    (small : decimal.exponent + decimal.coefficient.log2 + 1 < -(exponentBound : Int)) :
    2 * (decimal.size * 2 ^ Binary64.unitExponent) < 1 := by
  have power : (0 : ℚ) < 10 ^ decimal.exponent := zpow_pos (by norm_num) _
  have coefficient : (decimal.coefficient : ℚ) < 10 ^ (decimal.coefficient.log2 + 1) := by
    calc (decimal.coefficient : ℚ) < 2 ^ (decimal.coefficient.log2 + 1) := by
          exact_mod_cast Nat.lt_log2_self
      _ ≤ 10 ^ (decimal.coefficient.log2 + 1) := two_pow_le_ten_pow (by omega)
  have bound : decimal.size < 10 ^ (-(exponentBound : ℤ)) := by
    calc decimal.size < 10 ^ (decimal.coefficient.log2 + 1) * 10 ^ decimal.exponent :=
          mul_lt_mul_of_pos_right coefficient power
      _ = 10 ^ ((decimal.coefficient.log2 + 1 : Nat) + decimal.exponent) := by
          rw [zpow_add₀ (by norm_num), zpow_natCast]
      _ ≤ 10 ^ (-(exponentBound : ℤ)) := zpow_le_zpow_right₀ (by norm_num) (by omega)
  calc 2 * (decimal.size * 2 ^ Binary64.unitExponent)
      = decimal.size * 2 ^ (Binary64.unitExponent + 1) := by
        rw [pow_succ]
        ring
    _ ≤ decimal.size * 10 ^ exponentBound :=
        mul_le_mul_of_nonneg_left (two_pow_le_ten_pow (by decide)) decimal.size_nonneg
    _ < 10 ^ (-(exponentBound : ℤ)) * 10 ^ exponentBound :=
        mul_lt_mul_of_pos_right bound (by positivity)
    _ = 1 := by
        rw [zpow_neg, zpow_natCast]
        exact inv_mul_cancel₀ (by positivity)

/-- The exact number of units of a decimal. -/
theorem size_mul_twoPow (decimal : Decimal) :
    decimal.size * 2 ^ Binary64.unitExponent =
      (decimal.coefficient * tenPow decimal.exponent.toNat *
          twoPow Binary64.unitExponent : Nat) / (tenPow (-decimal.exponent).toNat : Nat) := by
  have split : decimal.exponent = decimal.exponent.toNat - ((-decimal.exponent).toNat : ℤ) := by
    omega
  have power : (10 : ℚ) ^ decimal.exponent =
      10 ^ decimal.exponent.toNat / 10 ^ (-decimal.exponent).toNat := by
    rw [← zpow_natCast_sub_natCast₀ (by norm_num), ← split]
  rw [size, power, tenPow_eq_pow, tenPow_eq_pow, Binary64.twoPow_eq_pow]
  push_cast
  ring

/-- The value of a decimal is the nearest one to its exact number. The decimals that are
settled without expanding their power of ten lie in the range of zero or of the infinities. -/
theorem isNearest_round (decimal : Decimal) : decimal.round.IsNearest decimal.size := by
  unfold round
  split_ifs with noDigits large small
  · refine Binary64.isNearest_zero _ decimal.size_nonneg ?_
    rw [size, noDigits, Nat.cast_zero, zero_mul, zero_mul, mul_zero]
    exact one_pos
  · exact Binary64.isNearest_infinity _ (large_of_exponent noDigits large)
  · exact Binary64.isNearest_zero _ decimal.size_nonneg (small_of_exponent small)
  · exact Binary64.isNearest_nearest _ _ (tenPow_pos _) decimal.size_mul_twoPow

/-- The value of a decimal has its sign and is nearest to its number; there is one such value. -/
theorem round_eq_iff (decimal : Decimal) (value : Binary64) :
    decimal.round = value ↔
      value.negative = decimal.negative ∧ value.IsNearest decimal.size := by
  constructor
  · rintro rfl
    exact ⟨decimal.negative_round, decimal.isNearest_round⟩
  · rintro ⟨sign, nearest⟩
    have magnitude := decimal.isNearest_round.magnitude_eq nearest
    have negative := decimal.negative_round.trans sign.symm
    cases rounded : decimal.round
    cases value
    rw [rounded] at magnitude negative
    cases magnitude
    cases negative
    rfl

end Decimal
end DualPhy
