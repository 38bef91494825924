import DualPhy.Json.Lexeme
import Mathlib.Data.List.TakeDrop

/-!
# Numbers as they are written

The text of a number literal and its exact value. A literal in the grammar of JSON is
read back from its text, provided that what follows cannot belong to it.
-/

namespace DualPhy
namespace Json

/-- Whether a number ends in front of a text: the text does not go on with a letter
that a number may contain. -/
def EndsNumber (text : List Char) : Prop :=
  ∀ letter ∈ text.head?,
    letter.isDigit = false ∧ letter ≠ '.' ∧ letter ≠ 'e' ∧ letter ≠ 'E'

/-- A text splits behind its leading digits. -/
theorem span_digits
    {digits rest : List Char}
    (allDigits : ∀ letter ∈ digits, letter.isDigit = true)
    (ends : ∀ letter ∈ rest.head?, letter.isDigit = false) :
    (digits ++ rest).span Char.isDigit = (digits, rest) := by
  have noMore : rest.takeWhile Char.isDigit = [] ∧ rest.dropWhile Char.isDigit = rest := by
    cases rest with
    | nil => exact ⟨rfl, rfl⟩
    | cons letter rest =>
        have other : letter.isDigit = false := ends letter rfl
        simp [other]
  rw [List.span_eq_takeWhile_dropWhile, List.takeWhile_append_of_pos allDigits,
    List.dropWhile_append_of_pos allDigits, noMore.1, noMore.2, List.append_nil]

/-- Digits are read up to the first other letter. -/
theorem readDigits_append
    (purpose : Purpose)
    {digits rest : List Char}
    (nonempty : digits ≠ [])
    (allDigits : ∀ letter ∈ digits, letter.isDigit = true)
    (ends : ∀ letter ∈ rest.head?, letter.isDigit = false) :
    readDigits purpose (digits ++ rest) = .ok (digits, rest) := by
  unfold readDigits
  rw [span_digits allDigits ends]
  cases digits with
  | nil => exact absurd rfl nonempty
  | cons digit digits => rfl

namespace Literal

/-- The fraction with its point. -/
def fractionText : List Char → List Char
  | [] => []
  | digits => '.' :: digits

/-- The exponent with its letter, always with a sign. -/
def exponentText : Option Int → List Char
  | none => []
  | some exponent =>
      'e' :: (if exponent < 0 then '-' else '+') :: Decimal.digitChars exponent.natAbs

/-- The text of a literal. -/
def text (literal : Literal) : List Char :=
  Decimal.signed literal.negative
    (literal.whole ++ (fractionText literal.fraction ++ exponentText literal.exponent))

/-- The number that is written, with all of its digits. -/
def exact (literal : Literal) : Decimal where
  negative := literal.negative
  coefficient := Decimal.ofDigits literal.fraction (Decimal.ofDigits literal.whole 0)
  exponent := literal.exponent.getD 0 - literal.fraction.length

/-- Whether the digits of a literal are such as the grammar asks for. -/
structure Grammatical (literal : Literal) : Prop where
  nonempty : literal.whole ≠ []
  whole : ∀ letter ∈ literal.whole, letter.isDigit = true
  /-- A whole part that starts with a zero is that zero. -/
  leading : literal.whole.head? = some '0' → literal.whole = ['0']
  fraction : ∀ letter ∈ literal.fraction, letter.isDigit = true

/-- The sign of an exponent: whether it is a minus sign. -/
inductive SignText : List Char → Bool → Prop
  | none : SignText [] false
  | plus : SignText ['+'] false
  | minus : SignText ['-'] true

/-- The forms of an exponent. -/
inductive ExponentText : List Char → Option Int → Prop
  | none : ExponentText [] none
  | some
      {letter : Char}
      {sign digits : List Char}
      {negative : Bool}
      (opens : letter = 'e' ∨ letter = 'E')
      (signed : SignText sign negative)
      (nonempty : digits ≠ [])
      (allDigits : ∀ letter ∈ digits, letter.isDigit = true) :
      ExponentText (letter :: (sign ++ digits))
        (some (if negative then -(Decimal.ofDigits digits 0 : Int)
          else Decimal.ofDigits digits 0))

/-- The forms of a number: an exponent may be written in several ways. -/
def Spells (literal : Literal) (text : List Char) : Prop :=
  literal.Grammatical ∧
    ∃ exponent, ExponentText exponent literal.exponent ∧
      text = Decimal.signed literal.negative
        (literal.whole ++ (fractionText literal.fraction ++ exponent))

end Literal

theorem readWhole_append
    (purpose : Purpose)
    {literal : Literal}
    (grammatical : literal.Grammatical)
    {rest : List Char}
    (ends : ∀ letter ∈ rest.head?, letter.isDigit = false) :
    readWhole purpose (literal.whole ++ rest) = .ok (literal.whole, rest) := by
  unfold readWhole
  rw [readDigits_append purpose grammatical.nonempty grammatical.whole ends]
  have leading := grammatical.leading
  simp only [bind, Except.bind]
  split
  case h_1 digit digits start =>
    rw [start] at leading
    simp at leading
  case h_2 => rfl

theorem readFraction_append
    (purpose : Purpose)
    {fraction rest : List Char}
    (allDigits : ∀ letter ∈ fraction, letter.isDigit = true)
    (ends : ∀ letter ∈ rest.head?, letter.isDigit = false ∧ letter ≠ '.') :
    readFraction purpose (Literal.fractionText fraction ++ rest) = .ok (fraction, rest) := by
  cases fraction with
  | nil =>
      cases rest with
      | nil => rfl
      | cons letter rest =>
          have noPoint : letter ≠ '.' := (ends letter rfl).2
          simp only [Literal.fractionText, List.nil_append]
          unfold readFraction
          split
          case h_1 point =>
            cases point
            exact absurd rfl noPoint
          case h_2 => rfl
  | cons digit fraction =>
      exact readDigits_append purpose (List.cons_ne_nil _ _) allDigits
        fun letter member => (ends letter member).1

/-- The digits of a natural number are digits. -/
theorem isDigit_of_mem_digitChars
    {number : Nat}
    {letter : Char}
    (member : letter ∈ Decimal.digitChars number) :
    letter.isDigit = true :=
  Nat.isDigit_of_mem_toDigits (by decide) (by decide) member

/-- The digits of a natural number give it back. -/
theorem ofDigits_digitChars (number : Nat) :
    Decimal.ofDigits (Decimal.digitChars number) 0 = number :=
  Nat.ofDigitChars_ten_toDigits

/-- A sign is taken from a text that has no other one behind it. -/
theorem takeSign_sign
    {sign text : List Char}
    {negative : Bool}
    (signed : Literal.SignText sign negative)
    (unsigned : ∀ letter ∈ text.head?, letter ≠ '+' ∧ letter ≠ '-') :
    Decimal.takeSign (sign ++ text) = (negative, text) := by
  cases signed with
  | plus => rfl
  | minus => rfl
  | none =>
      rw [List.nil_append]
      unfold Decimal.takeSign
      split
      case h_1 => exact absurd rfl (unsigned _ rfl).2
      case h_2 => exact absurd rfl (unsigned _ rfl).1
      case h_3 => rfl

theorem takeSign_append
    {sign : List Char}
    {negative : Bool}
    (signed : Literal.SignText sign negative)
    {digits : List Char}
    (nonempty : digits ≠ [])
    (allDigits : ∀ letter ∈ digits, letter.isDigit = true)
    (rest : List Char) :
    Decimal.takeSign (sign ++ (digits ++ rest)) = (negative, digits ++ rest) := by
  apply takeSign_sign signed
  intro letter start
  obtain ⟨digit, digits, rfl⟩ := List.exists_cons_of_ne_nil nonempty
  obtain rfl : digit = letter := Option.some.inj start
  have isDigit := allDigits digit List.mem_cons_self
  constructor <;> rintro rfl <;> exact absurd isDigit (by decide)

theorem readExponent_append
    (purpose : Purpose)
    {text : List Char}
    {exponent : Option Int}
    (spelled : Literal.ExponentText text exponent)
    {rest : List Char}
    (ends : EndsNumber rest) :
    readExponent purpose (text ++ rest) = .ok (exponent, rest) := by
  cases spelled with
  | none =>
      cases rest with
      | nil => rfl
      | cons letter rest =>
          obtain ⟨-, -, small, capital⟩ := ends letter rfl
          simp [readExponent, small, capital]
  | some opens signed nonempty allDigits =>
      have sign := takeSign_append signed nonempty allDigits rest
      have digits := readDigits_append purpose nonempty allDigits
        fun letter member => (ends letter member).1
      simp only [List.cons_append, List.append_assoc, readExponent, opens, if_true, sign, digits,
        bind, Except.bind]

namespace Literal

/-- The text behind the fraction starts with no digit and no point. -/
theorem exponentText_append_head
    {text : List Char}
    {exponent : Option Int}
    (spelled : ExponentText text exponent)
    {rest : List Char}
    (ends : EndsNumber rest) :
    ∀ letter ∈ (text ++ rest).head?, letter.isDigit = false ∧ letter ≠ '.' := by
  intro letter member
  cases spelled with
  | none => exact ⟨(ends letter member).1, (ends letter member).2.1⟩
  | some opens =>
      cases member
      rcases opens with rfl | rfl <;> decide

/-- The text behind the whole part starts with no digit. -/
theorem fractionText_append_head
    (fraction : List Char)
    {text : List Char}
    {exponent : Option Int}
    (spelled : ExponentText text exponent)
    {rest : List Char}
    (ends : EndsNumber rest) :
    ∀ letter ∈ (fractionText fraction ++ (text ++ rest)).head?, letter.isDigit = false := by
  intro letter member
  cases fraction with
  | nil => exact (exponentText_append_head spelled ends letter member).1
  | cons digit fraction =>
      cases member
      rfl

/-- The whole part starts with no minus sign. -/
theorem Grammatical.whole_append_ne_minus
    {literal : Literal}
    (grammatical : literal.Grammatical)
    (text rest : List Char) :
    literal.whole ++ text ≠ '-' :: rest := by
  intro same
  cases start : literal.whole with
  | nil => exact grammatical.nonempty start
  | cons digit digits =>
      rw [start] at same
      cases same
      have digit : '-'.isDigit = true :=
        grammatical.whole '-' (by rw [start]; exact List.mem_cons_self)
      exact absurd digit (by decide)

/-- A literal is read from any of its forms. -/
theorem Spells.readLiteral
    (purpose : Purpose)
    {literal : Literal}
    {text : List Char}
    (spells : literal.Spells text)
    {rest : List Char}
    (ends : EndsNumber rest) :
    readLiteral purpose (text ++ rest) = .ok (literal, rest) := by
  obtain ⟨grammatical, tail, spelled, rfl⟩ := spells
  have whole := readWhole_append purpose grammatical
    (fractionText_append_head literal.fraction spelled ends)
  have fraction := readFraction_append purpose grammatical.fraction
    (exponentText_append_head spelled ends)
  have exponent := readExponent_append purpose spelled ends
  cases sign : literal.negative with
  | true =>
      rw [Decimal.signed, if_pos rfl, List.cons_append, List.append_assoc, List.append_assoc]
      unfold Json.readLiteral
      simp only [whole, fraction, exponent, bind, Except.bind, pure, Except.pure]
      rw [← sign]
  | false =>
      rw [Decimal.signed, if_neg Bool.false_ne_true, List.append_assoc, List.append_assoc]
      unfold Json.readLiteral
      split
      rename_i result
      split at result
      case h_1 minus => exact absurd minus (grammatical.whole_append_ne_minus _ _)
      case h_2 =>
        cases result
        simp only [whole, fraction, exponent, bind, Except.bind, pure, Except.pure]
        rw [← sign]

/-- The text of an exponent is one of its forms. -/
theorem exponentText_exponentText (exponent : Option Int) :
    ExponentText (exponentText exponent) exponent := by
  cases exponent with
  | none => exact .none
  | some exponent =>
      have nonempty : Decimal.digitChars exponent.natAbs ≠ [] := Nat.toDigits_ne_nil
      by_cases negative : exponent < 0
      · have spelled := ExponentText.some (.inl rfl) .minus nonempty
          fun letter => isDigit_of_mem_digitChars
        have value : -(exponent.natAbs : Int) = exponent := by omega
        rw [if_pos rfl, ofDigits_digitChars, value] at spelled
        rw [exponentText, if_pos negative]
        exact spelled
      · have spelled := ExponentText.some (.inl rfl) .plus nonempty
          fun letter => isDigit_of_mem_digitChars
        have value : (exponent.natAbs : Int) = exponent := by omega
        rw [if_neg Bool.false_ne_true, ofDigits_digitChars, value] at spelled
        rw [exponentText, if_neg negative]
        exact spelled

/-- A literal is read back from its text. -/
theorem readLiteral_text
    (purpose : Purpose)
    {literal : Literal}
    (grammatical : literal.Grammatical)
    {rest : List Char}
    (ends : EndsNumber rest) :
    readLiteral purpose (literal.text ++ rest) = .ok (literal, rest) :=
  Spells.readLiteral purpose ⟨grammatical, _, exponentText_exponentText literal.exponent, rfl⟩ ends

end Literal

end Json
end DualPhy
