import DualPhy.Json.Lexeme
import DualPhy.Json.Printer
import Mathlib.Tactic.SplitIfs

/-!
# Strings in documents

Every string is read back from its text in quotes, whatever characters it has.
-/

namespace DualPhy
namespace Json

/-- The text of a control character is that of its two hexadecimal digits. -/
theorem unitEscape_control : ∀ unit < 0x20,
    unitEscape (Char.ofNat unit) =
        ['\\', 'u', '0', '0', Nat.digitChar (unit / 16), Nat.digitChar (unit % 16)] ∧
      hexValue? '0' '0' (Nat.digitChar (unit / 16)) (Nat.digitChar (unit % 16)) = some unit := by
  decide +kernel

/-- An escape by code unit gives a control character back. -/
theorem readUnit_control
    {letter : Char}
    (control : letter.toNat < 0x20)
    (rest : List Char) :
    ∃ digits, unitEscape letter = '\\' :: 'u' :: digits ∧
      readUnit .keep (digits ++ rest) = .ok (letter, rest) := by
  obtain ⟨text, value⟩ := unitEscape_control letter.toNat control
  rw [Char.ofNat_toNat] at text
  refine ⟨_, text, ?_⟩
  have trailing : isTrailing letter.toNat = false := by
    simp only [isTrailing, Bool.and_eq_false_iff, decide_eq_false_iff_not]
    omega
  have leading : isLeading letter.toNat = false := by
    simp only [isLeading, Bool.and_eq_false_iff, decide_eq_false_iff_not]
    omega
  simp [readUnit, readHex, value, bind, Except.bind, trailing, leading]

/-- An escape gives one character and goes on behind it. -/
theorem readCharacters_escape
    {letter : Char}
    {escape rest : List Char}
    (meaning : readEscape .keep escape = .ok (letter, rest))
    (fuel : Nat) :
    readCharacters .keep (fuel + 1) ('\\' :: escape) =
      (readCharacters .keep fuel rest).map fun (letters, rest) => (letter :: letters, rest) := by
  simp only [readCharacters, meaning, bind, Except.bind]
  cases readCharacters .keep fuel rest <;> rfl

/-- A character that needs no escape stands for itself. -/
theorem readCharacters_plain
    {letter : Char}
    (noQuote : letter ≠ '\x22')
    (noBackslash : letter ≠ '\\')
    (visible : ¬ letter.toNat < 0x20)
    (fuel : Nat)
    (text : List Char) :
    readCharacters .keep (fuel + 1) (letter :: text) =
      (readCharacters .keep fuel text).map fun (letters, rest) => (letter :: letters, rest) := by
  rw [readCharacters, if_neg visible]
  · simp only [bind, Except.bind]
    cases readCharacters .keep fuel text <;> rfl
  · exact noQuote
  · exact noBackslash

/-- A character is read back from the form in which it stands in a string. -/
theorem readCharacters_escapeChar
    (letter : Char)
    (fuel : Nat)
    (text : List Char) :
    readCharacters .keep (fuel + 1) (escapeChar letter ++ text) =
      (readCharacters .keep fuel text).map fun (letters, rest) => (letter :: letters, rest) := by
  unfold escapeChar
  split_ifs with special backspace formFeed newLine carriageReturn tab control
  · rcases special with rfl | rfl <;> exact readCharacters_escape rfl fuel
  · subst backspace
    exact readCharacters_escape rfl fuel
  · subst formFeed
    exact readCharacters_escape rfl fuel
  · subst newLine
    exact readCharacters_escape rfl fuel
  · subst carriageReturn
    exact readCharacters_escape rfl fuel
  · subst tab
    exact readCharacters_escape rfl fuel
  · obtain ⟨digits, escape, meaning⟩ := readUnit_control control text
    have read : readEscape .keep ('u' :: (digits ++ text)) = .ok (letter, text) := meaning
    rw [escape]
    exact readCharacters_escape read fuel
  · rw [not_or] at special
    exact readCharacters_plain special.1 special.2 control fuel text

/-- Characters are read back up to the closing quote. -/
theorem readCharacters_escaped
    (letters rest : List Char)
    {fuel : Nat}
    (enough : letters.length < fuel) :
    readCharacters .keep fuel (letters.flatMap escapeChar ++ '\x22' :: rest) =
      .ok (letters, rest) := by
  induction letters generalizing fuel with
  | nil =>
      cases fuel with
      | zero => cases enough
      | succ fuel => rfl
  | cons letter letters inductionHypothesis =>
      cases fuel with
      | zero => cases enough
      | succ fuel =>
          rw [List.flatMap_cons, List.append_assoc, readCharacters_escapeChar,
            inductionHypothesis (Nat.lt_of_succ_lt_succ enough)]
          rfl

theorem length_le_length_escaped (letters : List Char) :
    letters.length ≤ (letters.flatMap escapeChar).length := by
  have nonempty : ∀ letter, 1 ≤ (escapeChar letter).length := by
    intro letter
    unfold escapeChar
    split_ifs <;> simp [unitEscape]
  induction letters with
  | nil => exact Nat.le_refl _
  | cons letter letters inductionHypothesis =>
      have first := nonempty letter
      rw [List.flatMap_cons, List.length_append, List.length_cons]
      omega

/-- A string is read back behind its opening quote. -/
theorem readString_escaped (value : String) (rest : List Char) :
    readString .keep (value.toList.flatMap escapeChar ++ '\x22' :: rest) = .ok (value, rest) := by
  have shorter := length_le_length_escaped value.toList
  unfold readString
  rw [readCharacters_escaped value.toList rest
    (by rw [List.length_append]; exact Nat.lt_succ_of_le (Nat.le_add_right_of_le shorter))]
  simp [bind, Except.bind, pure, Except.pure]

end Json
end DualPhy
