import DualPhy.Decimal.Numeral
import DualPhy.Proofs.LexemeGrammar
import DualPhy.Proofs.NearestValue
import DualPhy.Proofs.NumberText

/-!
# The grammar of typed numbers

Which texts are numbers on the command line and at a prompt, and which value each of them
denotes: an infinity, a NaN, or the value nearest to the number that is written. All other texts
are refused.
-/

namespace DualPhy
namespace Decimal

open Json.Literal (SignText ExponentText)

/-- The forms of a number without a sign, and the number that each stands for. -/
inductive Unsigned : List Char → ℚ → Prop
  /-- A whole number. -/
  | whole
      {digits tail : List Char}
      {exponent : Option Int}
      (nonempty : digits ≠ [])
      (allDigits : ∀ letter ∈ digits, letter.isDigit = true)
      (scaled : ExponentText tail exponent) :
      Unsigned (digits ++ tail) (ofDigits digits 0 * 10 ^ exponent.getD 0)
  /-- Digits with a point before, between or behind them. -/
  | pointed
      {whole fraction tail : List Char}
      {exponent : Option Int}
      (nonempty : whole ≠ [] ∨ fraction ≠ [])
      (wholeDigits : ∀ letter ∈ whole, letter.isDigit = true)
      (fractionDigits : ∀ letter ∈ fraction, letter.isDigit = true)
      (scaled : ExponentText tail exponent) :
      Unsigned (whole ++ '.' :: (fraction ++ tail))
        ((ofDigits whole 0 + ofDigits fraction 0 / 10 ^ fraction.length) * 10 ^ exponent.getD 0)

/-- The forms of a typed number, and the value that each denotes. -/
inductive Denotes : List Char → Binary64 → Prop
  /-- A word for an infinity, in small letters or capitals. -/
  | infinity
      {sign word : List Char}
      {negative : Bool}
      (signed : SignText sign negative)
      (spelled : word.map Char.toLower = "inf".toList ∨
        word.map Char.toLower = "infinity".toList) :
      Denotes (sign ++ word) (.infinity negative)
  /-- The word for a NaN. -/
  | nan
      {sign word : List Char}
      {negative : Bool}
      (signed : SignText sign negative)
      (spelled : word.map Char.toLower = "nan".toList) :
      Denotes (sign ++ word) (.quietNaN negative)
  /-- A number. -/
  | number
      {sign unsigned : List Char}
      {negative : Bool}
      {number : ℚ}
      {value : Binary64}
      (signed : SignText sign negative)
      (written : Unsigned unsigned number)
      (sameSign : value.negative = negative)
      (nearest : value.IsNearest number) :
      Denotes (sign ++ unsigned) value

/-! ## Parts of a number -/

theorem exponentPart?_eq_some_iff {text : List Char} {value : Int} :
    exponentPart? text = some value ↔
      ∃ exponent, ExponentText text exponent ∧ exponent.getD 0 = value := by
  constructor
  · intro read
    unfold exponentPart? at read
    split at read
    case h_1 =>
      cases read
      exact ⟨none, .none, rfl⟩
    case h_2 letter rest =>
      split at read
      case isTrue opens =>
        rcases taken : takeSign rest with ⟨negative, digits⟩
        obtain ⟨sign, signed, rfl⟩ := Json.exists_sign_of_takeSign taken
        rw [taken] at read
        dsimp only at read
        split at read
        case isTrue written =>
          cases read
          exact ⟨_, .some opens signed written.1 (List.all_eq_true.mp written.2), rfl⟩
        case isFalse => cases read
      case isFalse => cases read
  · rintro ⟨exponent, spelled, rfl⟩
    cases spelled with
    | none => rfl
    | @some letter sign digits negative opens signed nonempty allDigits =>
        have taken := Json.takeSign_append signed nonempty allDigits []
        rw [List.append_nil] at taken
        have all : digits.all Char.isDigit = true := List.all_eq_true.mpr allDigits
        simp [exponentPart?, opens, taken, nonempty, all]

/-- The text of an exponent starts with no digit. -/
theorem exponentText_head
    {text : List Char}
    {exponent : Option Int}
    (spelled : ExponentText text exponent) :
    ∀ letter ∈ text.head?, letter.isDigit = false ∧ letter ≠ '.' := by
  have ends : Json.EndsNumber [] := nofun
  have head := Json.Literal.exponentText_append_head spelled ends
  rwa [List.append_nil] at head

/-- Digits behind a point count as the parts of a whole that they are. -/
theorem size_pointed
    (negative : Bool)
    (whole fraction : List Char)
    (exponent : Int) :
    Decimal.size ⟨negative, ofDigits fraction (ofDigits whole 0), exponent - fraction.length⟩ =
      (ofDigits whole 0 + ofDigits fraction 0 / 10 ^ fraction.length) * 10 ^ exponent := by
  have shifted : ofDigits fraction (ofDigits whole 0) =
      10 ^ fraction.length * ofDigits whole 0 + ofDigits fraction 0 :=
    Nat.ofDigitChars_eq_ofDigitChars_zero
  have power : (10 : ℚ) ^ fraction.length ≠ 0 := by positivity
  rw [size, shifted, zpow_sub₀ (by norm_num), zpow_natCast]
  push_cast
  field_simp

/-- A number is read with the size that it stands for. -/
theorem Unsigned.read
    {text : List Char}
    {number : ℚ}
    (written : Unsigned text number)
    (negative : Bool) :
    ∃ decimal, unsigned? negative text = some decimal ∧ decimal.negative = negative ∧
      decimal.size = number := by
  cases written with
  | @whole digits tail exponent nonempty allDigits scaled =>
      have head := exponentText_head scaled
      have split := Json.span_digits allDigits fun letter start => (head letter start).1
      have noFraction : fractionPart tail = ([], tail) := by
        unfold fractionPart
        split
        case h_1 => exact absurd rfl (head _ rfl).2
        case h_2 => rfl
      have power := exponentPart?_eq_some_iff.mpr ⟨exponent, scaled, rfl⟩
      refine ⟨⟨negative, ofDigits digits 0, exponent.getD 0⟩, ?_, rfl, rfl⟩
      rw [unsigned?, split]
      dsimp only
      rw [noFraction, if_neg fun none => nonempty none.1, power, Option.map_some, List.length_nil,
        Nat.cast_zero, sub_zero]
      rfl
  | @pointed whole fraction tail exponent nonempty wholeDigits fractionDigits scaled =>
      have head := exponentText_head scaled
      have point : ∀ letter ∈ ('.' :: (fraction ++ tail)).head?, letter.isDigit = false := by
        rintro _ ⟨⟩
        rfl
      have split := Json.span_digits wholeDigits point
      have fractionSplit : fractionPart ('.' :: (fraction ++ tail)) = (fraction, tail) :=
        Json.span_digits fractionDigits fun letter start => (head letter start).1
      have power := exponentPart?_eq_some_iff.mpr ⟨exponent, scaled, rfl⟩
      refine ⟨_, ?_, rfl, size_pointed negative whole fraction (exponent.getD 0)⟩
      rw [unsigned?, split]
      dsimp only
      rw [fractionSplit, if_neg fun none => nonempty.elim (· none.1) (· none.2), power]
      rfl

/-- What is read as a number is one. -/
theorem unsigned_of_unsigned?
    {negative : Bool}
    {text : List Char}
    {decimal : Decimal}
    (read : unsigned? negative text = some decimal) :
    decimal.negative = negative ∧ Unsigned text decimal.size := by
  unfold unsigned? at read
  rcases split : text.span Char.isDigit with ⟨whole, afterWhole⟩
  rcases fractionSplit : fractionPart afterWhole with ⟨fraction, tail⟩
  rw [split] at read
  dsimp only at read
  rw [fractionSplit] at read
  dsimp only at read
  obtain ⟨wholeDigits, rfl⟩ := Json.digits_of_span split
  split at read
  case isTrue => cases read
  case isFalse nonempty =>
    obtain ⟨value, power, rfl⟩ := Option.map_eq_some_iff.mp read
    obtain ⟨exponent, scaled, rfl⟩ := exponentPart?_eq_some_iff.mp power
    refine ⟨rfl, ?_⟩
    rw [size_pointed]
    unfold fractionPart at fractionSplit
    split at fractionSplit
    case h_1 rest =>
      obtain ⟨fractionDigits, rfl⟩ := Json.digits_of_span fractionSplit
      exact .pointed (not_and_or.mp nonempty) wholeDigits fractionDigits scaled
    case h_2 =>
      cases fractionSplit
      have written := Unsigned.whole (fun none => nonempty ⟨none, rfl⟩) wholeDigits scaled
      rw [List.length_nil, pow_zero, div_one]
      change Unsigned _ ((_ + (0 : Nat)) * _)
      rw [Nat.cast_zero, add_zero]
      exact written

/-! ## Words -/

theorem isWord_iff {words : List String} {text : List Char} :
    isWord words text = true ↔ ∃ word ∈ words, text.map Char.toLower = word.toList := by
  simp [isWord]

/-- Only the capitals of ASCII change. -/
theorem toNat_toLower (letter : Char) :
    letter.toLower.toNat =
      if 'A'.toNat ≤ letter.toNat ∧ letter.toNat ≤ 'Z'.toNat then
        letter.toNat + ('a'.toNat - 'A'.toNat)
      else letter.toNat := by
  have capitals : letter.val ≥ 'A'.val ∧ letter.val ≤ 'Z'.val ↔
      'A'.toNat ≤ letter.toNat ∧ letter.toNat ≤ 'Z'.toNat := Iff.rfl
  unfold Char.toLower
  split
  case isTrue capital =>
    have bounds := capitals.mp capital
    rw [if_pos bounds]
    have top : 'Z'.toNat = 90 := rfl
    change (letter.val + ('a'.val - 'A'.val)).toNat = _
    rw [UInt32.toNat_add]
    exact Nat.mod_eq_of_lt (by change letter.toNat + 32 < 2 ^ 32; omega)
  case isFalse other => rw [if_neg fun bounds => other (capitals.mpr bounds)]

/-- A word that starts with a small letter. -/
def StartsSmall (word : List Char) : Prop :=
  ∃ first rest, word = first :: rest ∧ 'a'.toNat ≤ first.toNat

theorem startsSmall (word : String) (member : word ∈ ["inf", "infinity", "nan"]) :
    StartsSmall word.toList := by
  simp only [List.mem_cons, List.not_mem_nil, or_false] at member
  rcases member with rfl | rfl | rfl
  · exact ⟨'i', "nf".toList, by decide, by decide⟩
  · exact ⟨'i', "nfinity".toList, by decide, by decide⟩
  · exact ⟨'n', "an".toList, by decide, by decide⟩

/-- Such a word in small letters or capitals starts with a letter. -/
theorem head_of_word
    {text word : List Char}
    (small : StartsSmall word)
    (spelled : text.map Char.toLower = word) :
    ∃ letter rest, text = letter :: rest ∧ 'A'.toNat ≤ letter.toNat := by
  obtain ⟨first, rest, rfl, lower⟩ := small
  obtain ⟨letter, rest, rfl, rfl, -⟩ := List.map_eq_cons_iff.mp spelled
  refine ⟨letter, rest, rfl, ?_⟩
  rw [toNat_toLower] at lower
  split at lower
  case isTrue capital => exact capital.1
  case isFalse => exact Nat.le_trans (by decide) lower

/-- So it starts with no sign. -/
theorem unsigned_of_word
    {text word : List Char}
    (small : StartsSmall word)
    (spelled : text.map Char.toLower = word) :
    text ≠ [] ∧ ∀ letter ∈ text.head?, letter ≠ '+' ∧ letter ≠ '-' := by
  obtain ⟨letter, rest, rfl, high⟩ := head_of_word small spelled
  refine ⟨List.cons_ne_nil _ _, ?_⟩
  rintro _ ⟨⟩
  constructor <;> rintro rfl <;> exact absurd high (by decide)

/-- A number starts with a digit or with a point. -/
theorem Unsigned.head
    {text : List Char}
    {number : ℚ}
    (written : Unsigned text number) :
    text ≠ [] ∧ ∀ letter ∈ text.head?, letter.isDigit = true ∨ letter = '.' := by
  cases written with
  | @whole digits tail _ nonempty allDigits =>
      obtain ⟨digit, digits, rfl⟩ := List.exists_cons_of_ne_nil nonempty
      refine ⟨List.cons_ne_nil _ _, ?_⟩
      rintro _ ⟨⟩
      exact .inl (allDigits digit List.mem_cons_self)
  | @pointed whole fraction tail _ _ wholeDigits =>
      cases whole with
      | nil =>
          refine ⟨List.cons_ne_nil _ _, ?_⟩
          rintro _ ⟨⟩
          exact .inr rfl
      | cons digit digits =>
          refine ⟨List.cons_ne_nil _ _, ?_⟩
          rintro _ ⟨⟩
          exact .inl (wholeDigits digit List.mem_cons_self)

/-- No word is a number. -/
theorem Unsigned.ne_word
    {text : List Char}
    {number : ℚ}
    (written : Unsigned text number)
    {word : List Char}
    (small : StartsSmall word) :
    text.map Char.toLower ≠ word := by
  intro spelled
  obtain ⟨letter, rest, rfl, high⟩ := head_of_word small spelled
  rcases written.head.2 letter rfl with digit | rfl
  · have low := (Char.isDigit_iff_toNat.mp digit).2
    exact absurd (high.trans low) (by decide)
  · exact absurd high (by decide)

end Decimal

/-! ## Reading -/

namespace Binary64

open Decimal Json.Literal

/-- A number behind a sign is read as the number without it. -/
theorem read_sign
    {sign text : List Char}
    {negative : Bool}
    (signed : SignText sign negative)
    (nonempty : text ≠ [])
    (unsigned : ∀ letter ∈ text.head?, letter ≠ '+' ∧ letter ≠ '-') :
    read (sign ++ text) =
      if isWord ["inf", "infinity"] text then .ok (.infinity negative)
      else if isWord ["nan"] text then .ok (.quietNaN negative)
      else
        match unsigned? negative text with
        | some decimal => .ok decimal.round
        | none => .error .invalid := by
  rewrite [read, if_neg fun none => nonempty (List.append_eq_nil_iff.mp none).2,
    Json.takeSign_sign signed unsigned]
  rfl

/-- A typed number is accepted exactly in the forms of the grammar, with the value that the form
denotes. -/
theorem read_eq_ok_iff {text : List Char} {value : Binary64} :
    read text = .ok value ↔ Denotes text value := by
  constructor
  · intro accepted
    unfold read at accepted
    split at accepted
    case isTrue => cases accepted
    case isFalse nonempty =>
      rcases taken : takeSign text with ⟨negative, unsigned⟩
      rw [taken] at accepted
      dsimp only at accepted
      obtain ⟨sign, signed, rfl⟩ := Json.exists_sign_of_takeSign taken
      split_ifs at accepted with infinite nan
      · cases accepted
        rw [isWord_iff] at infinite
        exact .infinity signed (by simpa using infinite)
      · cases accepted
        rw [isWord_iff] at nan
        exact .nan signed (by simpa using nan)
      · split at accepted
        case h_1 decimal read =>
          cases accepted
          obtain ⟨sameSign, written⟩ := unsigned_of_unsigned? read
          exact .number signed written (decimal.negative_round.trans sameSign)
            decimal.isNearest_round
        case h_2 => cases accepted
  · intro denotes
    cases denotes with
    | @infinity sign word negative signed spelled =>
        obtain ⟨nonempty, unsigned⟩ :
            word ≠ [] ∧ ∀ letter ∈ word.head?, letter ≠ '+' ∧ letter ≠ '-' :=
          spelled.elim (unsigned_of_word (startsSmall "inf" (by decide)))
            (unsigned_of_word (startsSmall "infinity" (by decide)))
        rw [read_sign signed nonempty unsigned, if_pos]
        simpa [isWord_iff] using spelled
    | @nan sign word negative signed spelled =>
        obtain ⟨nonempty, unsigned⟩ := unsigned_of_word (startsSmall "nan" (by decide)) spelled
        rw [read_sign signed nonempty unsigned, if_neg, if_pos]
        · simpa [isWord_iff] using spelled
        · simp [isWord_iff, spelled]
    | @number sign unsigned negative number _ signed written sameSign nearest =>
        obtain ⟨decimal, decimalRead, decimalSign, decimalSize⟩ := written.read negative
        obtain ⟨nonempty, head⟩ := written.head
        have start : ∀ letter ∈ unsigned.head?, letter ≠ '+' ∧ letter ≠ '-' := by
          intro letter first
          constructor <;> rintro rfl <;> exact absurd (head _ first) (by decide)
        have inf := written.ne_word (startsSmall "inf" (by decide))
        have infinity := written.ne_word (startsSmall "infinity" (by decide))
        have nan := written.ne_word (startsSmall "nan" (by decide))
        rw [read_sign signed nonempty start, if_neg, if_neg, decimalRead]
        · exact congrArg Except.ok ((decimal.round_eq_iff value).mpr
            ⟨sameSign.trans decimalSign.symm, decimalSize ▸ nearest⟩)
        · simpa [isWord_iff] using nan
        · simpa [isWord_iff] using And.intro inf infinity

/-- Reading fails in two ways: there is nothing to read, or the text has none of the forms. -/
theorem read_eq_error_iff {text : List Char} {reason : NumeralError} :
    read text = .error reason ↔
      (∀ value, ¬ Denotes text value) ∧ reason = if text = [] then .empty else .invalid := by
  have refused : (∃ problem, read text = .error problem) ↔ ∀ value, ¬ Denotes text value := by
    simp only [← read_eq_ok_iff]
    cases read text <;> simp
  have only : ∀ problem, read text = .error problem →
      problem = if text = [] then .empty else .invalid := by
    intro problem failed
    unfold read at failed
    split at failed
    case isTrue empty =>
      cases failed
      rw [if_pos empty]
    case isFalse nonempty =>
      rw [if_neg nonempty]
      dsimp only at failed
      split_ifs at failed
      split at failed <;> cases failed
      rfl
  constructor
  · intro failed
    exact ⟨refused.mp ⟨reason, failed⟩, only reason failed⟩
  · rintro ⟨none, rfl⟩
    obtain ⟨problem, failed⟩ := refused.mpr none
    rw [failed, only problem failed]

end Binary64
end DualPhy
