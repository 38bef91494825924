import DualPhy.Pattern.Brackets
import DualPhy.Text.Alphanumeric

/-!
# Patterns for the values of fields

A pattern is a regular expression: symbols, classes in brackets and groups in
parentheses, with signs of repetition behind them and bars between alternatives.
Nothing is matched against patterns here; it is only told whether a text is one.

A pattern is written in a place that is closed by a brace. So a brace that opens
a count finds no end and cannot be read.
-/

namespace DualPhy
namespace Pattern

/-! ## Openings of groups -/

/-- What an opening parenthesis begins. -/
inductive Opening
  /-- A change of mode for what follows, which ends at once. -/
  | change (mode : Mode)
  /-- A group, in its mode, and its name if it has one. -/
  | group (mode : Mode) (name : Option (List Char))
  deriving DecidableEq

/-- Whether a text can be the name of a group. -/
def isName : List Char → Bool
  | [] => false
  | letter :: rest =>
      (letter == '_' || Text.isAlphabetic letter) &&
        rest.all fun letter => ['_', '.', '[', ']'].contains letter || Text.isAlphanumeric letter

/-- Read the name of a group and the angle bracket behind it. -/
def readName (mode : Mode) (text : List Char) : Option (Opening × List Char) :=
  let name := text.takeWhile (· != '>')
  match text.dropWhile (· != '>') with
  | _ :: rest => if isName name then some (.group mode (some name), rest) else none
  | [] => none

/-- Read a change of mode and its end, by which it holds for a group or for what
follows. -/
def readChange (mode : Mode) (text : List Char) : Option (Opening × List Char) :=
  let isEnd := fun letter => letter == ':' || letter == ')'
  let change := text.takeWhile fun letter => !isEnd letter
  match text.dropWhile fun letter => !isEnd letter with
  | ':' :: rest => (mode.change? change).map fun mode => (.group mode none, rest)
  | ')' :: rest =>
      if change = [] then none
      else (mode.change? change).map fun mode => (.change mode, rest)
  | _ => none

/-- Read the opening of a group behind its parenthesis. There are no groups that
look ahead or back: their signs are no mode and begin no name. -/
def readOpening (mode : Mode) (text : List Char) : Option (Opening × List Char) :=
  match mode.skip text with
  | '?' :: '<' :: rest => readName mode rest
  | '?' :: 'P' :: '<' :: rest => readName mode rest
  | '?' :: rest => readChange mode rest
  | text => some (.group mode none, text)

/-! ## Groups -/

/-- A group that has been opened, or the whole pattern. -/
structure Group where
  /-- The mode behind the group. -/
  outerMode : Mode
  /-- The alternatives in front of the last bar. -/
  alternatives : Row
  /-- What stands behind the last bar. -/
  terms : Row
  /-- Depth of the last term, if it can be repeated. -/
  operand : Option Nat
  deriving DecidableEq

namespace Group

/-- A group behind its opening. -/
def opened (outerMode : Mode) : Group := ⟨outerMode, .empty, .empty, none⟩

/-- A group with a further term. -/
def push (depth : Nat) (group : Group) : Group :=
  { group with terms := group.terms.push depth, operand := some depth }

/-- A group with a change of mode, which cannot be repeated. -/
def pushChange (group : Group) : Group :=
  { group with terms := group.terms.push 0, operand := none }

/-- A group whose last term is repeated. -/
def repeatLast? (group : Group) : Option Group :=
  group.operand.map fun depth =>
    { group with
      terms := { group.terms with deepest := max group.terms.deepest (depth + 1) },
      operand := some (depth + 1) }

/-- A group behind a bar. -/
def branch (group : Group) : Group :=
  { group with
    alternatives := group.alternatives.push group.terms.depth, terms := .empty, operand := none }

/-- Depth of what a group holds. -/
def depth (group : Group) : Nat := (group.alternatives.push group.terms.depth).depth

end Group

/-! ## Reading -/

/-- Read a condition, the sign for any character or a symbol. -/
def readTerm (mode : Mode) : List Char → Option (List Char)
  | '^' :: rest => some rest
  | '$' :: rest => some rest
  | '.' :: rest => if mode.ofCharacters then some rest else none
  | text => (Symbol.read mode text).map Prod.snd

/-- Read on in groups that stand in others, in at most `fuel` steps, up to the end;
the depth of the pattern. No name may be given twice. -/
def readOn :
    (fuel : Nat) → Mode → (names : List (List Char)) → Group → (outer : List Group) →
      List Char → Option Nat
  | 0, _, _, _, _, _ => none
  | fuel + 1, mode, names, inner, outer, text =>
      match mode.skip text with
      | [] => if outer = [] then some inner.depth else none
      | letter :: rest =>
          if letter = '(' then
            match readOpening mode rest with
            | none => none
            | some (.change mode, rest) =>
                readOn fuel mode names inner.pushChange outer rest
            | some (.group inside none, rest) =>
                readOn fuel inside names (.opened mode) (inner :: outer) rest
            | some (.group inside (some name), rest) =>
                if names.contains name then none
                else readOn fuel inside (name :: names) (.opened mode) (inner :: outer) rest
          else if letter = ')' then
            match outer with
            | [] => none
            | next :: outer =>
                readOn fuel inner.outerMode names (next.push (inner.depth + 1)) outer rest
          else if letter = '|' then readOn fuel mode names inner.branch outer rest
          else if letter = '[' then do
            let (depth, rest) ← Brackets.read mode rest
            readOn fuel mode names (inner.push depth) outer rest
          else if ['?', '*', '+'].contains letter then do
            let inner ← inner.repeatLast?
            let rest := if rest.head? = some '?' then rest.tail else rest
            readOn fuel mode names inner outer rest
          else if letter = '\x7b' then none
          else do
            let rest ← readTerm mode (letter :: rest)
            readOn fuel mode names (inner.push 0) outer rest

/-- How deep a pattern may be. -/
def depthLimit : Nat := 250

/-- Whether a text is a pattern. -/
def isPattern (text : List Char) : Bool :=
  (readOn (text.length + 1) .plain [] (.opened .plain) [] text).any (· ≤ depthLimit)

end Pattern
end DualPhy
