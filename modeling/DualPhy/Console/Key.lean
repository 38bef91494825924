/-!
# Keys

What a person presses at the keyboard, and the characters that a terminal sends for
it. Most keys are sent as one character. The keys that move a cursor are sent as a
sequence of characters behind an escape character. The characters of all lines are one
stream: a sequence that a line leaves unfinished goes on in the next one.
-/

namespace DualPhy

/-- What happens at the keyboard. -/
inductive Key
  /-- A key that moves the cursor of a list down. -/
  | down
  /-- A key that moves the cursor of a list up. -/
  | up
  /-- The key that moves the cursor of a line to the left. -/
  | left
  /-- The key that moves the cursor of a line to the right. -/
  | right
  /-- The key that moves the cursor of a line to the beginning of a word. -/
  | wordLeft
  /-- The key that moves the cursor of a line to the next word. -/
  | wordRight
  /-- The key that takes a letter away. -/
  | backspace
  /-- The key that ends a line and chooses an item. -/
  | enter
  /-- A letter. -/
  | letter (letter : Char)
  /-- A key that means nothing to the console. -/
  | other
  /-- The terminal fails. -/
  | failure
  deriving DecidableEq

namespace Key

/-! ## Characters of a terminal -/

/-- The characters of a typed line. -/
def line (text : List Char) : List Char := text ++ ['\r']

/-- The characters of choosing the item that lies a number of places below the
cursor. -/
def pick (downs : Nat) : List Char :=
  line (List.replicate downs ['\x1b', '[', 'B']).flatten

/-- The key that is sent as one character. The keys for the ends of a line, which
are sent as U+0001 and U+0005, mean nothing. -/
def ofChar (character : Char) : Key :=
  if character = '\n' ∨ character = '\r' then .enter
  else if character = '\x7f' ∨ character = '\x08' then .backspace
  else if character = '\t' then .down
  else if character.toNat < 0x20 then .other
  else .letter character

/-- The key that is sent as a character behind an escape character and a bracket. -/
def ofArrow? : Char → Option Key
  | 'A' => some .up
  | 'B' => some .down
  | 'C' => some .right
  | 'D' => some .left
  | 'F' => some .other
  | 'H' => some .other
  | 'Z' => some .up
  | _ => none

/-- The key that is sent as a character behind an escape character. -/
def ofEscaped : Char → Key
  | 'b' => .wordLeft
  | 'f' => .wordRight
  | _ => .other

/-- What is left of a character some of whose bytes belong to a sequence. Each byte
left is a letter of its own. -/
def ofRest (taken : Nat) (character : Char) : List Key :=
  ((String.utf8EncodeChar character).drop taken).map fun byte => .letter (Char.ofNat byte.toNat)

/-- The keys that are sent as characters. A sequence is counted in bytes: behind an
escape character there is one, and behind a bracket there are two unless the first
tells the key. -/
def ofTyped : List Char → List Key
  | [] => []
  | ['\x1b'] => [.other]
  | ['\x1b', '['] => [.other]
  | '\x1b' :: '[' :: kind :: rest =>
      match ofArrow? kind, rest with
      | some key, rest => key :: ofTyped rest
      | none, [] => [.other]
      | none, last :: rest =>
          if kind.utf8Size = 1 then .other :: (ofRest 1 last ++ ofTyped rest)
          else .other :: (ofRest 2 kind ++ ofTyped (last :: rest))
  | '\x1b' :: kind :: rest => ofEscaped kind :: (ofRest 1 kind ++ ofTyped rest)
  | character :: rest => ofChar character :: ofTyped rest

/-! ## Lists -/

/-- What a key means to the cursor of a list. Letters stand in for the keys that
move it and for the one that chooses; the other letters mean nothing. -/
def atCursor : Key → Key
  | .letter 'j' => .down
  | .letter 'k' => .up
  | .letter ' ' => .enter
  | .letter _ => .other
  | key => key

end Key
end DualPhy
