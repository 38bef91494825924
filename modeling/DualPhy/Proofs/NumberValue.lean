import DualPhy.Proofs.LexemeGrammar
import DualPhy.Proofs.NearestValue
import DualPhy.Proofs.ShortNumber

/-!
# The values of written numbers

A number of a document stands for the value that is nearest to the exact number, with the sign
that is written. A number for which that value is infinite stands for none. This says nothing
about how the value is found: a correct conversion finds it for every number, and the conversion
in use finds it for every short one.
-/

namespace DualPhy

/-- A whole number is rounded without a power of ten. -/
theorem Decimal.round_whole (negative : Bool) (magnitude : Nat) :
    round ⟨negative, magnitude, 0⟩ =
      .nearest negative (magnitude * twoPow Binary64.unitExponent) 1 := by
  rcases Nat.eq_zero_or_pos magnitude with rfl | positive
  · have none : Binary64.nearestMagnitude 0 1 = 0 := by decide
    rw [round, if_pos rfl, Nat.zero_mul, Binary64.nearest, none, Binary64.zero]
  · have bound : (0 : Int) < exponentBound := by decide
    rw [round, if_neg positive.ne', if_neg (by dsimp only; omega), if_neg (by dsimp only; omega),
      Int.neg_zero, Int.toNat_zero, tenPow_zero, Nat.mul_one]

namespace Json

/-- The value that a number stands for. -/
structure Literal.Stands (literal : Literal) (value : Binary64) : Prop where
  /-- It has the sign that is written, and so has a zero. -/
  sign : value.negative = literal.negative
  /-- No other value is nearer to the exact number. -/
  nearest : value.IsNearest literal.exact.size
  /-- It is not infinite. -/
  finite : value.isFinite = true

theorem Literal.stands_iff {literal : Literal} {value : Binary64} :
    literal.Stands value ↔ literal.exact.round = value ∧ value.isFinite = true := by
  rw [Decimal.round_eq_iff]
  exact ⟨fun stands => ⟨⟨stands.sign, stands.nearest⟩, stands.finite⟩,
    fun parts => ⟨parts.1.1, parts.1.2, parts.2⟩⟩

/-- A whole number that is kept exact has the value that rounding its digits gives. -/
theorem Literal.round_exact_of_whole?
    {literal : Literal}
    {whole : Int}
    (kept : literal.whole? = some whole) :
    literal.exact.round = (Number.whole whole).toBinary64 := by
  obtain ⟨negative, digits, fraction, exponent⟩ := literal
  simp only [whole?] at kept
  split at kept
  case isFalse => cases kept
  case isTrue plain =>
    obtain ⟨rfl, rfl⟩ := plain
    change Decimal.round ⟨negative, Decimal.ofDigits digits 0, 0⟩ = _
    rw [Decimal.round_whole, Number.toBinary64]
    split at kept
    case isTrue minus =>
      split at kept
      case isFalse => cases kept
      case isTrue range =>
        cases kept
        rw [decide_eq_true (by omega), Int.natAbs_neg, Int.natAbs_natCast, minus]
    case isFalse plus =>
      split at kept
      case isFalse => cases kept
      case isTrue =>
        cases kept
        rw [Bool.not_eq_true] at plus
        rw [decide_eq_false (by omega), Int.natAbs_natCast, plus]

namespace Conversion

/-- Of a number that the conversion rounds correctly, the value is kept that it stands for. -/
theorem gives_iff_stands
    [Conversion]
    {literal : Literal}
    (rounds : real literal = literal.exact.round)
    (value : Binary64) :
    Gives literal value ↔ literal.Stands value := by
  rw [gives_iff, Literal.stands_iff]
  cases whole : literal.whole? with
  | some number =>
      rw [Literal.round_exact_of_whole? whole]
      constructor
      · rintro rfl
        exact ⟨rfl, Literal.isFinite_of_whole? whole⟩
      · exact fun stands => stands.1.symm
  | none =>
      rw [rounds]
      exact and_congr_left fun _ => eq_comm

/-- A correct conversion keeps of every number the value that it stands for. -/
theorem Correct.gives_eq [Conversion] (correct : Correct) : Gives = Literal.Stands := by
  funext literal value
  exact propext (gives_iff_stands (correct literal) value)

end Conversion
end Json
end DualPhy
