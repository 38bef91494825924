/-!
# Powers of two and of ten

The two bases of number formats, as functions of the exponent.
-/

namespace DualPhy

/-- A power of two. -/
def twoPow (exponent : Nat) : Nat := Nat.pow 2 exponent

/-- A power of ten. -/
def tenPow (exponent : Nat) : Nat := Nat.pow 10 exponent

@[simp] theorem twoPow_zero : twoPow 0 = 1 := rfl

theorem twoPow_succ (exponent : Nat) : twoPow (exponent + 1) = twoPow exponent * 2 := rfl

@[simp] theorem tenPow_zero : tenPow 0 = 1 := rfl

theorem tenPow_succ (exponent : Nat) : tenPow (exponent + 1) = tenPow exponent * 10 := rfl

theorem twoPow_pos (exponent : Nat) : 0 < twoPow exponent :=
  Nat.pow_pos (by decide)

theorem tenPow_pos (exponent : Nat) : 0 < tenPow exponent :=
  Nat.pow_pos (by decide)

theorem twoPow_add (first second : Nat) :
    twoPow (first + second) = twoPow first * twoPow second := by
  induction second with
  | zero => simp
  | succ second inductionHypothesis =>
      rw [← Nat.add_assoc, twoPow_succ, twoPow_succ, inductionHypothesis, Nat.mul_assoc]

end DualPhy
