import DualPhy.Console.Key
import DualPhy.Text.Blank

/-!
# Lines that are being typed

A line has a cursor between its letters. Moving the cursor leaves the text of the
line alone.
-/

namespace DualPhy

/-- A line that is being typed. -/
structure Line where
  /-- The letters to the left of the cursor, from the cursor on. -/
  left : List Char
  /-- The letters to the right of the cursor. -/
  right : List Char
  deriving DecidableEq

namespace Line

/-- The line before anything is typed. -/
def empty : Line := ⟨[], []⟩

/-- Text of a line. -/
def text (line : Line) : List Char := line.left.reverse ++ line.right

/-- A line with a letter put in at the cursor. -/
def insert (letter : Char) (line : Line) : Line := { line with left := letter :: line.left }

/-- A line without the letter to the left of the cursor. -/
def erase (line : Line) : Line := { line with left := line.left.tail }

/-- A line with the cursor moved to the left by a number of letters. -/
def moveLeft (count : Nat) (line : Line) : Line :=
  ⟨line.left.drop count, (line.left.take count).reverse ++ line.right⟩

/-- A line with the cursor moved to the right by a number of letters. -/
def moveRight (count : Nat) (line : Line) : Line :=
  ⟨(line.right.take count).reverse ++ line.left, line.right.drop count⟩

/-- A line with the cursor moved to the beginning of the word on its left. -/
def moveToWord (line : Line) : Line :=
  let gap := line.left.takeWhile Text.isBlank
  let word := (line.left.drop gap.length).takeWhile fun letter => !Text.isBlank letter
  line.moveLeft (gap.length + word.length)

/-- A line with the cursor moved to the beginning of the next word on its right. -/
def moveToNextWord (line : Line) : Line :=
  let word := line.right.takeWhile fun letter => !Text.isBlank letter
  let gap := (line.right.drop word.length).takeWhile Text.isBlank
  line.moveRight (word.length + gap.length)

/-- A line behind a key. -/
def press (line : Line) : Key → Line
  | .letter letter => line.insert letter
  | .backspace => line.erase
  | .left => line.moveLeft 1
  | .right => line.moveRight 1
  | .wordLeft => line.moveToWord
  | .wordRight => line.moveToNextWord
  | _ => line

/-! ## Text -/

@[simp] theorem text_empty : empty.text = [] := rfl

@[simp] theorem text_moveLeft (count : Nat) (line : Line) :
    (line.moveLeft count).text = line.text := by
  simp only [text, moveLeft]
  rw [← List.append_assoc, ← List.reverse_append, List.take_append_drop]

@[simp] theorem text_moveRight (count : Nat) (line : Line) :
    (line.moveRight count).text = line.text := by
  simp [text, moveRight]

@[simp] theorem text_moveToWord (line : Line) : line.moveToWord.text = line.text := by
  simp [moveToWord]

@[simp] theorem text_moveToNextWord (line : Line) : line.moveToNextWord.text = line.text := by
  simp [moveToNextWord]

/-- A letter that is taken away again has not been typed. -/
@[simp] theorem erase_insert (letter : Char) (line : Line) : (line.insert letter).erase = line :=
  rfl

end Line
end DualPhy
