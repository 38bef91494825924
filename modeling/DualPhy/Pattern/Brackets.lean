import DualPhy.Pattern.Row
import DualPhy.Pattern.Symbol

/-!
# Classes in brackets

Between brackets stand characters, ranges of characters, classes by name such as
`[:digit:]`, and further brackets. Two signs, `&&`, `--` or `~~`, between such
rows join them by an operation on sets; operations are taken from left to right.

A class that is turned round by a caret matches characters beyond ASCII and
cannot be written where the pattern is about bytes.
-/

namespace DualPhy
namespace Pattern

/-- Brackets that have been opened. -/
structure Brackets where
  /-- Whether nothing but minus signs has been read, which stand for themselves at
  the beginning. -/
  isFresh : Bool
  /-- Depth of what stands in front of the last operation. -/
  operand : Option Nat
  /-- What stands behind the last operation. -/
  members : Row
  deriving DecidableEq

namespace Brackets

/-- Brackets behind their opening. -/
def opened : Brackets := ⟨true, none, .empty⟩

/-- Depth of what stands between the brackets. -/
def depth (brackets : Brackets) : Nat :=
  match brackets.operand with
  | none => brackets.members.depth
  | some operand => max operand brackets.members.depth + 1

/-- Brackets with a further member. -/
def push (depth : Nat) (brackets : Brackets) : Brackets :=
  { brackets with isFresh := false, members := brackets.members.push depth }

/-- Brackets behind an operation. -/
def operate (brackets : Brackets) : Brackets := ⟨false, some brackets.depth, .empty⟩

/-! ## Members -/

/-- The names of classes. -/
def classNames : List String :=
  ["alnum", "alpha", "ascii", "blank", "cntrl", "digit", "graph", "lower", "print", "punct",
    "space", "upper", "word", "xdigit"]

/-- Read a class by name behind its opening bracket; whether it is turned round. -/
def readName? (text : List Char) : Option (Bool × List Char) :=
  match text with
  | ':' :: text =>
      let negated := text.head? == some '^'
      let text := if negated then text.tail else text
      match text.dropWhile (· != ':') with
      | ':' :: ']' :: rest =>
          if classNames.contains (String.ofList (text.takeWhile (· != ':')))
          then some (negated, rest) else none
      | _ => none
  | _ => none

/-- Whether a class by name can be written. -/
def admitsName (mode : Mode) (negated : Bool) : Bool :=
  if mode.ofCharacters then !mode.caseless else !negated

/-- Whether a symbol can be a member. -/
def admits (mode : Mode) : Symbol → Bool
  | .literal letter => mode.ofCharacters || Symbol.isPlain letter
  | .shorthand => true
  | .condition => false

/-- Read a symbol that can be a member. -/
def readMember (mode : Mode) (text : List Char) : Option (Symbol × List Char) := do
  let (symbol, rest) ← Symbol.read mode text
  if admits mode symbol then return (symbol, rest) else none

/-- Read a member, or a range behind its first character. A minus sign in front of
the closing bracket or of another minus sign makes no range. -/
def readRange (mode : Mode) (text : List Char) : Option (List Char) := do
  let (first, text) ← readMember mode text
  match mode.skip text with
  | '-' :: rest =>
      if mode.peek? rest == some ']' || mode.peek? rest == some '-' then return '-' :: rest
      else
        let (last, rest) ← readMember mode (mode.skip rest)
        match first, last with
        | .literal first, .literal last => if first ≤ last then return rest else none
        | _, _ => none
  | text => return text

/-! ## Reading -/

/-- Read the opening of brackets behind the bracket itself. -/
def readOpening (mode : Mode) (text : List Char) : Option (List Char) :=
  match mode.skip text with
  | '^' :: rest => if mode.ofCharacters then some rest else none
  | text => some text

/-- Whether two signs stand for an operation. -/
def isOperation (first second : Char) : Bool :=
  first == second && (first == '&' || first == '-' || first == '~')

/-- Read on in brackets that stand in others, in at most `fuel` steps, up to the
end of the outermost. -/
def readOn (mode : Mode) :
    (fuel : Nat) → Brackets → (outer : List Brackets) → List Char →
      Option (Nat × List Char)
  | 0, _, _, _ => none
  | fuel + 1, inner, outer, text =>
      match mode.skip text with
      | [] => none
      | letter :: rest =>
          if inner.isFresh && (letter == '-' || (letter == ']' && inner.members.count == 0)) then
            match readMember mode [letter] with
            | none => none
            | some _ =>
                readOn mode fuel { inner.push 0 with isFresh := letter == '-' } outer rest
          else if letter = ']' then
            match outer with
            | [] => some (inner.depth + 1, rest)
            | next :: outer => readOn mode fuel (next.push (inner.depth + 1)) outer rest
          else if letter = '[' then
            match readName? rest with
            | some (negated, rest) =>
                if admitsName mode negated then readOn mode fuel (inner.push 0) outer rest else none
            | none => do
                let rest ← readOpening mode rest
                readOn mode fuel opened (inner :: outer) rest
          else if rest.head?.any (isOperation letter) then
            readOn mode fuel inner.operate outer rest.tail
          else do
            let rest ← readRange mode (letter :: rest)
            readOn mode fuel (inner.push 0) outer rest

/-- Read a class behind its opening bracket; its depth. -/
def read (mode : Mode) (text : List Char) : Option (Nat × List Char) := do
  let text ← readOpening mode text
  readOn mode (text.length + 1) opened [] text

end Brackets
end Pattern
end DualPhy
