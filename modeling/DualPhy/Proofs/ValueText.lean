import DualPhy.Decimal.Layout
import DualPhy.Proofs.NumeralGrammar
import DualPhy.Text.Blank

/-!
# The text of a value

Messages and tables show a value by its shortest digits without an exponent. Such a text is a
number that the value is nearest to, with the sign of the value, and it contains no white space.
The text of a NaN denotes a NaN.
-/

namespace DualPhy

namespace Binary64

theorem eq_infinity {value : Binary64} (infinite : value.isInfinite = true) :
    value = infinity value.negative := by
  rw [isInfinite, beq_iff_eq] at infinite
  obtain ⟨negative, magnitude⟩ := value
  rw [infinity, ofMagnitude, Binary64.mk.injEq]
  exact ⟨rfl, Fin.ext (infinite.trans (Nat.min_self _).symm)⟩

/-- What is neither infinite nor a NaN is finite. -/
theorem isFinite_of_bounded
    {value : Binary64}
    (number : value.isNaN = false)
    (bounded : ¬ value.isInfinite = true) :
    value.isFinite = true := by
  rw [isNaN_eq_false_iff] at number
  rw [isInfinite, beq_iff_eq] at bounded
  rw [isFinite, decide_eq_true_eq]
  exact number.lt_of_ne bounded

end Binary64

namespace Decimal

/-- Digits around a point stand for all of them as a whole number, with the point moved. -/
theorem unsigned_of_point
    {whole fraction : List Char}
    (nonempty : whole ≠ [])
    (allDigits : ∀ letter ∈ whole ++ fraction, letter.isDigit = true) :
    Unsigned (whole ++ '.' :: fraction)
      (ofDigits (whole ++ fraction) 0 * 10 ^ (-fraction.length : ℤ)) := by
  obtain ⟨wholeDigits, fractionDigits⟩ := List.forall_mem_append.mp allDigits
  have written := Unsigned.pointed (.inl nonempty) wholeDigits fractionDigits .none
  rw [Option.getD_none, ← size_pointed false, List.append_nil] at written
  rw [ofDigits_append, ← zero_sub]
  exact written

/-- Digits that are laid out around a point stand for the number that they were laid out for. -/
theorem unsigned_positional (digits : Nat) (exponent : Int) :
    Unsigned (positional [] (digitChars digits) exponent) (digits * 10 ^ exponent) := by
  have allDigits : ∀ letter ∈ digitChars digits, letter.isDigit = true :=
    fun letter => Json.isDigit_of_mem_digitChars
  have zeros : ∀ count : Nat, ∀ letter ∈ List.replicate count '0', letter.isDigit = true :=
    fun count letter => Json.Literal.isDigit_of_mem_zeros
  have nonempty : digitChars digits ≠ [] := Nat.toDigits_ne_nil
  unfold positional
  split
  case isTrue whole =>
    have written := Unsigned.whole (List.append_ne_nil_of_left_ne_nil nonempty _)
      (List.forall_mem_append.mpr ⟨allDigits, zeros exponent.toNat⟩) .none
    have power : (10 : ℚ) ^ exponent = (tenPow exponent.toNat : Nat) := by
      rw [tenPow_eq_pow, Nat.cast_pow, Nat.cast_ofNat, ← zpow_natCast, Int.toNat_of_nonneg whole]
    rw [ofDigits_append, ofDigits_zeros, Json.ofDigits_digitChars, Option.getD_none, zpow_zero,
      mul_one, Nat.cast_mul, ← power, mul_comm] at written
    exact written
  case isFalse below =>
    obtain ⟨places, rfl⟩ : ∃ places : Nat, exponent = -places := ⟨(-exponent).toNat, by omega⟩
    rw [neg_neg, Int.toNat_natCast]
    dsimp only
    split
    case isTrue inside =>
      have length : ((digitChars digits).drop ((digitChars digits).length - places)).length =
          places := by
        rw [List.length_drop]
        omega
      have front : (digitChars digits).take ((digitChars digits).length - places) ≠ [] := by
        rw [← List.length_pos_iff, List.length_take]
        omega
      have parted : ∀ letter ∈ (digitChars digits).take ((digitChars digits).length - places) ++
          (digitChars digits).drop ((digitChars digits).length - places),
          letter.isDigit = true := by
        rw [List.take_append_drop]
        exact allDigits
      have written := unsigned_of_point front parted
      rw [List.take_append_drop, Json.ofDigits_digitChars, length] at written
      exact written
    case isFalse outside =>
      have length : (List.replicate (places - (digitChars digits).length) '0' ++
          digitChars digits).length = places := by
        rw [List.length_append, List.length_replicate]
        omega
      have written := unsigned_of_point (List.cons_ne_nil '0' [])
        (List.forall_mem_append.mpr ⟨List.forall_mem_singleton.mpr rfl, List.forall_mem_append.mpr
          ⟨zeros (places - (digitChars digits).length), allDigits⟩⟩)
      have leading : ofDigits ['0'] 0 = 0 := rfl
      rw [length, ofDigits_append, ofDigits_append, ofDigits_zeros, leading, Nat.mul_zero,
        Json.ofDigits_digitChars] at written
      exact written

/-- The shortest digits of a finite value stand for a number that it is nearest to. -/
theorem isNearest_shortest
    (tie : TieRule)
    {value : Binary64}
    (finite : value.isFinite = true) :
    value.IsNearest ((shortest tie value).1 * 10 ^ (shortest tie value).2) := by
  have rounded : round ⟨value.negative, (shortest tie value).1, (shortest tie value).2⟩ =
      value := by
    rcases Nat.eq_zero_or_pos value.units with zero | nonzero
    · rw [shortest_of_zero tie zero]
      exact (Binary64.eq_zero_of_units zero).symm
    · exact (approximates_shortest tie nonzero).round finite
  exact ((round_eq_iff _ value).mp rounded).2

/-- A sign in front of a text. -/
theorem exists_sign (negative : Bool) (text : List Char) :
    ∃ sign, Json.Literal.SignText sign negative ∧ signed negative text = sign ++ text := by
  cases negative with
  | false => exact ⟨[], .none, rfl⟩
  | true => exact ⟨['-'], .minus, rfl⟩

/-- The text of a value that is no NaN denotes the value. -/
theorem denotes_plain {value : Binary64} (number : value.isNaN = false) :
    Denotes (plain value) value := by
  rw [plain, number, if_neg Bool.false_ne_true]
  split
  case isTrue infinite =>
    obtain ⟨sign, signed, text⟩ := exists_sign value.negative ['i', 'n', 'f']
    have denotes : Denotes (sign ++ ['i', 'n', 'f']) (.infinity value.negative) :=
      .infinity signed (.inl (by decide))
    rwa [text, Binary64.eq_infinity infinite]
  case isFalse bounded =>
    have finite := Binary64.isFinite_of_bounded number bounded
    obtain ⟨sign, signed, text⟩ := exists_sign value.negative
      (positional [] (digitChars (shortest .away value).1) (shortest .away value).2)
    dsimp only
    rw [text]
    exact .number signed (unsigned_positional _ _) rfl (isNearest_shortest .away finite)

/-- That of a NaN denotes a NaN. -/
theorem denotes_plain_of_isNaN {value : Binary64} (nan : value.isNaN = true) :
    Denotes (plain value) (.quietNaN false) := by
  rw [plain, if_pos nan]
  exact .nan .none (by decide)

theorem isBlank_of_isDigit {letter : Char} (digit : letter.isDigit = true) :
    Text.isBlank letter = false := by
  obtain ⟨low, high⟩ := Char.isDigit_iff_toNat.mp digit
  have ends : '0'.toNat = 48 ∧ '9'.toNat = 57 := ⟨rfl, rfl⟩
  simp [Text.isBlank]
  omega

/-- A layout consists of digits and a point. -/
theorem isDigit_of_mem_positional
    {digits : Nat}
    {exponent : Int}
    {letter : Char}
    (member : letter ∈ positional [] (digitChars digits) exponent) :
    letter.isDigit = true ∨ letter = '.' := by
  unfold positional at member
  split at member
  case isTrue =>
    rw [List.append_nil, List.mem_append] at member
    exact .inl (member.elim Json.isDigit_of_mem_digitChars Json.Literal.isDigit_of_mem_zeros)
  case isFalse =>
    dsimp only at member
    split at member
    case isTrue =>
      rcases List.mem_append.mp member with front | back
      · exact .inl (Json.isDigit_of_mem_digitChars (List.mem_of_mem_take front))
      · rcases List.mem_cons.mp back with point | back
        · exact .inr point
        · exact .inl (Json.isDigit_of_mem_digitChars (List.mem_of_mem_drop back))
    case isFalse =>
      rcases List.mem_cons.mp member with rfl | behind
      · exact .inl rfl
      · rcases List.mem_cons.mp behind with point | behind
        · exact .inr point
        · exact .inl ((List.mem_append.mp behind).elim Json.Literal.isDigit_of_mem_zeros
            Json.isDigit_of_mem_digitChars)

/-- A text with a sign in front of it contains white space only if it does without. -/
theorem dark_signed
    (negative : Bool)
    {text : List Char}
    (dark : ∀ letter ∈ text, Text.isBlank letter = false) :
    ∀ letter ∈ signed negative text, Text.isBlank letter = false := by
  cases negative with
  | false => exact dark
  | true => exact List.forall_mem_cons.mpr ⟨rfl, dark⟩

theorem dark_of_all
    {text : List Char}
    (all : (text.all fun letter => !Text.isBlank letter) = true) :
    ∀ letter ∈ text, Text.isBlank letter = false := by
  simpa using all

/-- The text of a value contains no white space. -/
theorem dark_plain (value : Binary64) :
    ∀ letter ∈ plain value, Text.isBlank letter = false := by
  unfold plain
  split
  case isTrue => exact dark_of_all (by decide)
  case isFalse =>
    split
    case isTrue => exact dark_signed _ (dark_of_all (by decide))
    case isFalse =>
      refine dark_signed _ fun letter member => ?_
      rcases isDigit_of_mem_positional member with digit | rfl
      · exact isBlank_of_isDigit digit
      · rfl

end Decimal

end DualPhy
