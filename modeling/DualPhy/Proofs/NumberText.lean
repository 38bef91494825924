import DualPhy.Json.Printer
import DualPhy.Proofs.Literal
import DualPhy.Proofs.Shortest
import Mathlib.Tactic.Ring

/-!
# Numbers in documents

Documents write a value by its shortest digits, in one of two layouts. Either way the
text is that of a literal whose exact value rounds to the value, so that any reader
that rounds correctly gives the value back.
-/

namespace DualPhy

namespace Decimal

theorem ofDigits_append (front back : List Char) (value : Nat) :
    ofDigits (front ++ back) value = ofDigits back (ofDigits front value) :=
  Nat.ofDigitChars_append value

theorem ofDigits_zeros (count value : Nat) :
    ofDigits (List.replicate count '0') value = tenPow count * value :=
  Nat.ofDigitChars_replicate_zero

/-- The digits of a positive number do not start with a zero. -/
theorem head?_digitChars {number : Nat} (positive : 0 < number) :
    (digitChars number).head? ≠ some '0' := by
  induction number using Nat.strongRecOn with
  | ind number inductionHypothesis =>
      unfold digitChars at *
      by_cases small : number < 10
      · rw [Nat.toDigits_of_lt_base small]
        intro zero
        have digit : number.digitChar = '0' := by simpa using zero
        have value := Nat.toNat_digitChar_sub_48_of_lt_ten small
        rw [digit] at value
        exact absurd value (by simpa using positive.ne)
      · rw [Nat.toDigits_of_base_le (by decide) (by omega)]
        have shorter : 0 < number / 10 := by omega
        have front := inductionHypothesis (number / 10) (by omega) shorter
        rw [List.head?_append]
        cases start : Nat.toDigits 10 (number / 10) with
        | nil => exact absurd start Nat.toDigits_ne_nil
        | cons digit digits =>
            rw [start] at front
            simpa using front

end Decimal

namespace Json
namespace Literal

/-- Digits without an exponent. A whole number has one zero behind the point. -/
def positional (negative : Bool) (digits : List Char) (exponent : Int) : Literal :=
  if 0 ≤ exponent then
    ⟨negative, digits ++ List.replicate exponent.toNat '0', ['0'], none⟩
  else
    let places := (-exponent).toNat
    if places < digits.length then
      ⟨negative, digits.take (digits.length - places), digits.drop (digits.length - places),
        none⟩
    else
      ⟨negative, ['0'], List.replicate (places - digits.length) '0' ++ digits, none⟩

/-- The first digit, the others behind the point, and an exponent. -/
def exponential (negative : Bool) (digits : List Char) (leading : Int) : Literal :=
  ⟨negative, digits.take 1, digits.drop 1, some leading⟩

/-- The literal that a document holds for a value. -/
def ofValue (value : Binary64) : Literal :=
  let (digits, exponent) := Decimal.shortest .toEven value
  let chars := Decimal.digitChars digits
  let leading := exponent + chars.length - 1
  if -5 ≤ leading ∧ leading ≤ 15 then positional value.negative chars exponent
  else exponential value.negative chars leading

/-! ## Text -/

theorem text_positional
    (negative : Bool)
    {digits : List Char}
    (nonempty : digits ≠ [])
    (exponent : Int) :
    (positional negative digits exponent).text =
      Decimal.signed negative (Decimal.positional ['.', '0'] digits exponent) := by
  unfold positional Decimal.positional
  split
  case isTrue => simp [text, fractionText, exponentText]
  case isFalse below =>
    simp only
    split
    case isTrue inside =>
      have fraction : digits.drop (digits.length - (-exponent).toNat) ≠ [] := by
        intro empty
        have length := congrArg List.length empty
        rw [List.length_drop, List.length_nil] at length
        omega
      cases start : digits.drop (digits.length - (-exponent).toNat) with
      | nil => exact absurd start fraction
      | cons digit rest => simp [text, fractionText, exponentText]
    case isFalse =>
      cases start : List.replicate ((-exponent).toNat - digits.length) '0' ++ digits with
      | nil => simp [nonempty] at start
      | cons digit rest => simp [text, fractionText, exponentText]

theorem text_exponential
    (negative : Bool)
    {digits : List Char}
    (nonempty : digits ≠ [])
    (leading : Int) :
    (exponential negative digits leading).text =
      Decimal.signed negative (Decimal.exponential digits leading) := by
  cases digits with
  | nil => exact absurd rfl nonempty
  | cons first digits =>
      cases digits <;>
        simp [exponential, Decimal.exponential, text, fractionText, exponentText]

/-- The text of a value in a document is that of its literal. -/
theorem text_ofValue (value : Binary64) : (ofValue value).text = Decimal.document value := by
  have nonempty : Decimal.digitChars (Decimal.shortest .toEven value).1 ≠ [] :=
    Nat.toDigits_ne_nil
  unfold ofValue Decimal.document
  simp only
  split
  · exact text_positional _ nonempty _
  · exact text_exponential _ nonempty _

/-! ## Grammar -/

theorem isDigit_of_mem_zeros
    {count : Nat}
    {letter : Char}
    (member : letter ∈ List.replicate count '0') :
    letter.isDigit = true := by
  rw [List.eq_of_mem_replicate member]
  rfl

/-- The first digits of a positive number do not start with a zero. -/
theorem head?_take_digitChars
    {number : Nat}
    (positive : 0 < number)
    (count : Nat) :
    ((Decimal.digitChars number).take count).head? ≠ some '0' := by
  rw [List.head?_take]
  split
  · simp
  · exact Decimal.head?_digitChars positive

theorem grammatical_positional
    (negative : Bool)
    {digits : Nat}
    {exponent : Int}
    (zero : digits = 0 → exponent = 0) :
    (positional negative (Decimal.digitChars digits) exponent).Grammatical := by
  have nonempty : Decimal.digitChars digits ≠ [] := Nat.toDigits_ne_nil
  unfold positional
  split
  case isTrue whole =>
    constructor
    case nonempty => simp [nonempty]
    case whole =>
      intro letter member
      rcases List.mem_append.mp member with front | back
      · exact isDigit_of_mem_digitChars front
      · exact isDigit_of_mem_zeros back
    case leading =>
      intro head
      rcases Nat.eq_zero_or_pos digits with rfl | positive
      · rw [zero rfl]
        rfl
      · have first := Decimal.head?_digitChars positive
        cases start : Decimal.digitChars digits with
        | nil => exact absurd start nonempty
        | cons digit rest =>
            rw [start] at first head
            exact absurd head (by simpa using first)
    case fraction =>
      intro letter member
      rw [List.mem_singleton.mp member]
      rfl
  case isFalse below =>
    have positive : 0 < digits := by
      rw [Nat.pos_iff_ne_zero]
      intro none
      rw [zero none] at below
      exact below (Int.le_refl _)
    simp only
    split
    case isTrue inside =>
      constructor
      case nonempty =>
        intro empty
        have length := congrArg List.length empty
        rw [List.length_take, List.length_nil] at length
        omega
      case whole => exact fun letter member => isDigit_of_mem_digitChars (List.mem_of_mem_take member)
      case leading => exact fun head => absurd head (head?_take_digitChars positive _)
      case fraction =>
        exact fun letter member => isDigit_of_mem_digitChars (List.mem_of_mem_drop member)
    case isFalse =>
      constructor
      case nonempty => exact List.cons_ne_nil _ _
      case whole => exact fun letter member => by rw [List.mem_singleton.mp member]; rfl
      case leading => exact fun _ => rfl
      case fraction =>
        intro letter member
        rcases List.mem_append.mp member with front | back
        · exact isDigit_of_mem_zeros front
        · exact isDigit_of_mem_digitChars back

theorem grammatical_exponential
    (negative : Bool)
    {digits : Nat}
    (positive : 0 < digits)
    (leading : Int) :
    (exponential negative (Decimal.digitChars digits) leading).Grammatical := by
  have nonempty : Decimal.digitChars digits ≠ [] := Nat.toDigits_ne_nil
  constructor
  case nonempty => simp [exponential, nonempty]
  case whole => exact fun letter member => isDigit_of_mem_digitChars (List.mem_of_mem_take member)
  case leading => exact fun head => absurd head (head?_take_digitChars positive _)
  case fraction =>
    exact fun letter member => isDigit_of_mem_digitChars (List.mem_of_mem_drop member)

/-! ## Value -/

/-- A literal without an exponent of its own. -/
theorem exact_positional
    (negative : Bool)
    (digits : Nat)
    (exponent : Int) :
    (positional negative (Decimal.digitChars digits) exponent).exact =
      if 0 ≤ exponent then ⟨negative, digits * tenPow (exponent.toNat + 1), -1⟩
      else ⟨negative, digits, exponent⟩ := by
  unfold positional exact
  split
  case isTrue =>
    congr 1
    simp only [Decimal.ofDigits_append, Decimal.ofDigits_zeros, ofDigits_digitChars]
    change 10 * (tenPow exponent.toNat * digits) + 0 = _
    rw [tenPow_succ]
    ring
  case isFalse below =>
    simp only
    split
    case isTrue inside =>
      simp only [Option.getD_none, List.length_drop, ← Decimal.ofDigits_append,
        List.take_append_drop, ofDigits_digitChars, Decimal.mk.injEq, true_and]
      omega
    case isFalse outside =>
      simp only [Option.getD_none, List.length_append, List.length_replicate,
        Decimal.ofDigits_append, Decimal.ofDigits_zeros]
      change Decimal.mk negative (Decimal.ofDigits (Decimal.digitChars digits)
        (tenPow _ * 0)) _ = _
      rw [Nat.mul_zero, ofDigits_digitChars]
      congr 1
      omega

theorem exact_exponential
    (negative : Bool)
    (digits : Nat)
    (exponent : Int) :
    (exponential negative (Decimal.digitChars digits)
      (exponent + (Decimal.digitChars digits).length - 1)).exact =
        ⟨negative, digits, exponent⟩ := by
  have nonempty : 0 < (Decimal.digitChars digits).length := Nat.length_toDigits_pos
  unfold exponential exact
  simp only [Option.getD_some, List.length_drop, ← Decimal.ofDigits_append,
    List.take_append_drop, ofDigits_digitChars, Decimal.mk.injEq, true_and]
  omega

/-- The exact number that a document holds for a finite value rounds to the value. -/
theorem round_exact_ofValue {value : Binary64} (finite : value.isFinite = true) :
    (ofValue value).exact.round = value := by
  rcases Nat.eq_zero_or_pos value.units with zero | nonzero
  · have digits : Decimal.shortest .toEven value = (0, 0) := Decimal.shortest_of_zero _ zero
    have exact : (ofValue value).exact = ⟨value.negative, 0, -1⟩ := by
      unfold ofValue
      rw [digits]
      rfl
    rw [exact]
    exact (Binary64.eq_zero_of_units zero).symm
  · have approximates := Decimal.approximates_shortest .toEven nonzero
    unfold ofValue
    simp only
    split
    · rw [exact_positional]
      split
      case isTrue whole => exact (approximates.shift whole).round finite
      case isFalse => exact approximates.round finite
    · rw [exact_exponential]
      exact approximates.round finite

/-- The literal of a value keeps to the grammar. -/
theorem grammatical_ofValue (value : Binary64) : (ofValue value).Grammatical := by
  rcases Nat.eq_zero_or_pos value.units with zero | nonzero
  · have digits : Decimal.shortest .toEven value = (0, 0) := Decimal.shortest_of_zero _ zero
    unfold ofValue
    rw [digits]
    exact grammatical_positional value.negative fun _ => rfl
  · have positive := (Decimal.approximates_shortest .toEven nonzero).positive
    unfold ofValue
    simp only
    split
    · exact grammatical_positional _ fun none => absurd none positive.ne'
    · exact grammatical_exponential _ positive _

/-- The literal of a value is never that of a whole number. -/
theorem whole?_ofValue (value : Binary64) : (ofValue value).whole? = none := by
  have point : (ofValue value).fraction ≠ [] ∨ (ofValue value).exponent ≠ none := by
    unfold ofValue
    simp only
    split
    · left
      unfold positional
      split
      · exact List.cons_ne_nil _ _
      · simp only
        split
        case isTrue inside =>
          intro empty
          have length := congrArg List.length empty
          rw [List.length_drop, List.length_nil] at length
          omega
        case isFalse => simp [Decimal.digitChars, Nat.toDigits_ne_nil]
    · exact .inr (by simp [exponential])
  unfold whole?
  rw [if_neg]
  rintro ⟨noFraction, noExponent⟩
  rcases point with fraction | exponent
  · exact fraction noFraction
  · exact exponent noExponent

end Literal

namespace Conversion

/-- Every number is given the nearest binary64 value. -/
def Correct [Conversion] : Prop := ∀ literal, real literal = literal.exact.round

/-- The conversion that rounds the exact number. -/
abbrev nearest : Conversion := ⟨fun literal => literal.exact.round⟩

theorem correct_nearest : @Correct nearest := fun _ => rfl

/-- A value is given back from its literal. -/
def ReadsBack [Conversion] (value : Binary64) : Prop := real (Literal.ofValue value) = value

/-- A correct conversion gives every finite value back. -/
theorem Correct.readsBack
    [Conversion]
    (correct : Correct)
    {value : Binary64}
    (finite : value.isFinite = true) :
    ReadsBack value :=
  (correct _).trans (Literal.round_exact_ofValue finite)

end Conversion

/-- The literal of a natural number. -/
def Literal.ofNat (number : Nat) : Literal := ⟨false, Decimal.digitChars number, [], none⟩

theorem Literal.text_ofNat (number : Nat) : (ofNat number).text = (Number.ofNat number).text := by
  change Decimal.digitChars number ++ ([] ++ []) = (toString (number : Int)).toList
  rw [List.append_nil, List.append_nil]
  exact Nat.toList_repr.symm

theorem Literal.grammatical_ofNat (number : Nat) : (ofNat number).Grammatical where
  nonempty := Nat.toDigits_ne_nil
  whole _ := isDigit_of_mem_digitChars
  leading head := by
    rcases Nat.eq_zero_or_pos number with rfl | positive
    · rfl
    · exact absurd head (Decimal.head?_digitChars positive)
  fraction _ member := absurd member List.not_mem_nil

/-- A natural number that fits in sixty-four bits is read back as a whole number. -/
theorem readNumber_ofNat
    [Conversion]
    {number : Nat}
    (fits : number < UInt64.size)
    {rest : List Char}
    (ends : EndsNumber rest) :
    readNumber ((Number.ofNat number).text ++ rest) = .ok (.ofNat number, rest) := by
  have value : (Literal.ofNat number).toNumber = .ok (.ofNat number) := by
    simp [Literal.toNumber, Literal.whole?, Literal.ofNat, ofDigits_digitChars, fits,
      Number.ofNat]
  unfold readNumber
  rw [← Literal.text_ofNat, Literal.readLiteral_text .keep (Literal.grammatical_ofNat number) ends]
  simp only [bind, Except.bind, value, pure, Except.pure]

/-- A finite value is read back from its text in a document. -/
theorem readNumber_document
    [Conversion]
    {value : Binary64}
    (finite : value.isFinite = true)
    (readsBack : Conversion.ReadsBack value)
    {rest : List Char}
    (ends : EndsNumber rest) :
    readNumber (Decimal.document value ++ rest) = .ok (.real value, rest) := by
  have number : (Literal.ofValue value).toNumber = .ok (.real value) := by
    unfold Literal.toNumber
    rw [Literal.whole?_ofValue]
    simp only
    rw [show Conversion.real (Literal.ofValue value) = value from readsBack, if_pos finite]
  unfold readNumber
  rw [← Literal.text_ofValue,
    Literal.readLiteral_text .keep (Literal.grammatical_ofValue value) ends]
  simp only [bind, Except.bind, number, pure, Except.pure]

end Json
end DualPhy
