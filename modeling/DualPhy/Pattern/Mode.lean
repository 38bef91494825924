import DualPhy.Text.Blank

/-!
# Modes of a pattern

A mode says how a part of a pattern is meant. Letters behind a question mark
change it, in `(?i-x)` for what follows and in `(?i-x:…)` for what stands
between the parentheses.
-/

namespace DualPhy
namespace Pattern

/-- How a part of a pattern is meant. -/
structure Mode where
  /-- The pattern is about characters, and not about bytes. -/
  ofCharacters : Bool
  /-- Upper and lower case are the same. -/
  caseless : Bool
  /-- White space and comments between the parts mean nothing. -/
  spaced : Bool
  deriving DecidableEq

namespace Mode

/-- The mode in which a pattern begins. -/
def plain : Mode := ⟨true, false, false⟩

/-! ## Changes -/

/-- The letters that change a mode. Those that say how lines end, what a period
covers and how much is matched have no bearing on what can be written. -/
def letters : List Char := ['i', 'm', 's', 'R', 'U', 'u', 'x']

/-- The mode in which a letter is switched on or off. -/
def switch (on : Bool) (mode : Mode) : Char → Mode
  | 'i' => { mode with caseless := on }
  | 'u' => { mode with ofCharacters := on }
  | 'x' => { mode with spaced := on }
  | _ => mode

/-- Whether letters can change a mode. None stands twice, and there is at most
one minus sign, which is not the last. -/
def isChange (change : List Char) : Bool :=
  change.all (fun letter => letter == '-' || letters.contains letter) &&
    decide (change.Pairwise (· ≠ ·)) && change.getLast? != some '-'

/-- The mode after a change: the letters behind a minus sign are switched off and
the others on. -/
def change? (change : List Char) (mode : Mode) : Option Mode :=
  let on := change.takeWhile (· != '-')
  let off := change.dropWhile (· != '-')
  if isChange change then some (off.foldl (switch false) (on.foldl (switch true) mode)) else none

/-! ## White space and comments -/

/-- The text behind white space and comments. A comment goes from a number sign to
the end of the line. -/
def skipGaps : (inComment : Bool) → List Char → List Char
  | _, [] => []
  | true, letter :: rest => skipGaps (letter != '\n') rest
  | false, letter :: rest =>
      if Text.isBlank letter then skipGaps false rest
      else if letter = '#' then skipGaps true rest
      else letter :: rest

/-- The text behind what means nothing. -/
def skip (mode : Mode) (text : List Char) : List Char :=
  if mode.spaced then skipGaps false text else text

/-- The next character that is not white space. One number sign is passed over, but
not the comment behind it. -/
def peek? (mode : Mode) (text : List Char) : Option Char :=
  if mode.spaced then
    match text.dropWhile Text.isBlank with
    | '#' :: rest => (rest.dropWhile Text.isBlank).head?
    | text => text.head?
  else text.head?

end Mode
end Pattern
end DualPhy
