/-!
# White space around a text

White space in the sense of the Unicode property `White_Space`, and the text
between the white space at both ends.
-/

namespace DualPhy
namespace Text

/-- Whether a character has the property `White_Space`. -/
def isBlank (letter : Char) : Bool :=
  let code := letter.toNat
  (9 ≤ code && code ≤ 13) || code == 0x20 || code == 0x85 || code == 0xA0 ||
    code == 0x1680 || (0x2000 ≤ code && code ≤ 0x200A) || code == 0x2028 ||
    code == 0x2029 || code == 0x202F || code == 0x205F || code == 0x3000

/-- The text from its first to its last character that is not white space. -/
def trim (text : List Char) : List Char :=
  ((text.dropWhile isBlank).reverse.dropWhile isBlank).reverse

/-- A text without white space at either end is trimmed already. -/
theorem trim_of_no_blank
    {text : List Char}
    (dark : ∀ letter ∈ text, isBlank letter = false) :
    trim text = text := by
  have keep : ∀ (letters : List Char),
      (∀ letter ∈ letters, isBlank letter = false) →
      letters.dropWhile isBlank = letters := by
    intro letters dark
    cases letters with
    | nil => rfl
    | cons letter rest => simp [dark letter (by simp)]
  unfold trim
  rw [keep text dark, keep text.reverse (fun letter member => dark letter (by simpa using member)),
    List.reverse_reverse]

end Text
end DualPhy
