/-!
# Grammars of command lines

A command takes options, which start with a dash, and positional arguments, and
it may have subcommands. A `Grammar` lists what a command takes and how it
changes the command's settings; `Grammar.scan` goes through the arguments.

An option that takes a value is held back until the next argument has shown
whether a value follows. What is held back is settled when the next option or
positional argument is recognised, and at the end.
-/

namespace DualPhy
namespace CommandLine

/-- Why a command line is not carried out. -/
inductive Usage
  /-- An argument is not known. -/
  | unknownArgument
  /-- A subcommand is not known. -/
  | invalidSubcommand
  /-- A value is none of the possible ones, or missing. -/
  | invalidValue
  /-- A value does not parse or is out of range. -/
  | valueValidation
  /-- A required argument is missing. -/
  | missingRequiredArgument
  /-- There is no subcommand. -/
  | missingSubcommand
  /-- There are no arguments at all, and the help text is shown. -/
  | helpInsteadOfNothing
  /-- The help text is asked for. -/
  | help
  /-- The version is asked for. -/
  | version
  /-- An option is given twice. -/
  | argumentConflict
  /-- A flag is given a value. -/
  | tooManyValues
  deriving DecidableEq

/-- How a value is taken in: it changes the settings or is refused. -/
abbrev Intake (ρ : Type) := List Char → Except Usage (ρ → ρ)

/-- What an option does. -/
inductive Effect (ρ : Type)
  /-- It takes no value and changes the settings. -/
  | flag (set : ρ → ρ)
  /-- It takes a value; whether it may be given more than once. -/
  | value (repeatable : Bool) (intake : Intake ρ)
  /-- It stops with a message. -/
  | stop (usage : Usage)

/-- An option of a command. -/
structure Switch (ρ : Type) where
  /-- Its name behind two dashes. -/
  long : String
  /-- Its letter behind one dash. -/
  short : Option Char
  /-- What it does. -/
  effect : Effect ρ

/-- A positional argument of a command. -/
structure Positional (ρ : Type) where
  /-- Its name. -/
  name : String
  /-- Whether it may be a number with a minus sign. -/
  negativeNumbers : Bool
  /-- How it is taken in. -/
  intake : Intake ρ

/-- What a command takes. -/
structure Grammar (ρ : Type) where
  /-- The options. -/
  switches : List (Switch ρ)
  /-- The positional arguments, all required. -/
  positionals : List (Positional ρ)
  /-- Names of the subcommands. -/
  subcommands : List String
  /-- The settings before anything is given. -/
  start : ρ

/-- A value that is held back. -/
structure Held (ρ : Type) where
  /-- Name of the option or positional argument. -/
  name : String
  /-- Whether it may be given more than once. -/
  repeatable : Bool
  /-- How the value is taken in. -/
  intake : Intake ρ
  /-- The value, once it is there. -/
  value : Option (List Char)

/-- How far a command line has been read. -/
structure Scan (ρ : Type) where
  /-- The settings so far. -/
  settings : ρ
  /-- Names of what has been given. -/
  given : List String
  /-- What is held back. -/
  held : Option (Held ρ)
  /-- The positional arguments still to come. -/
  ahead : List (Positional ρ)
  /-- Whether two dashes have ended the options. -/
  optionsEnded : Bool

/-- Result of reading the arguments of a command. -/
structure Scanned (ρ : Type) where
  /-- How far the command's own arguments have been read. -/
  scan : Scan ρ
  /-- The subcommand and the arguments behind it. -/
  subcommand : Option (String × List String)

namespace Scan

/-- Settle what is held back. -/
def settle (scan : Scan ρ) : Except Usage (Scan ρ) :=
  match scan.held with
  | none => .ok scan
  | some held =>
      match held.value with
      | none => .error .invalidValue
      | some value =>
          if scan.given.contains held.name && !held.repeatable then
            .error .argumentConflict
          else do
            let change ← held.intake value
            return { scan with
              settings := change scan.settings
              given := held.name :: scan.given
              held := none }

/-- Whether an option waits for its value. -/
def awaiting (scan : Scan ρ) : Bool :=
  scan.held.any fun held => held.value.isNone

/-- Hold an option or positional argument back, after settling what was held
before. -/
def hold (scan : Scan ρ) (held : Held ρ) : Except Usage (Scan ρ) := do
  let scan ← scan.settle
  return { scan with held := some held }

/-- Give the option that waits its value. -/
def supply (scan : Scan ρ) (value : List Char) : Scan ρ :=
  { scan with held := scan.held.map fun held => { held with value := some value } }

/-- Give a flag. -/
def giveFlag (scan : Scan ρ) (name : String) (set : ρ → ρ) : Except Usage (Scan ρ) := do
  let scan ← scan.settle
  if scan.given.contains name then .error .argumentConflict
  else return { scan with settings := set scan.settings, given := name :: scan.given }

/-- Stop with a message, after settling what was held before. -/
def stop (scan : Scan ρ) (usage : Usage) : Except Usage (Scan ρ) := do
  let _ ← scan.settle
  .error usage

/-- Give an option that takes a value, with the value that is attached to it or
none yet. -/
def giveValue
    (scan : Scan ρ)
    (name : String)
    (repeatable : Bool)
    (intake : Intake ρ)
    (attached : Option (List Char)) :
    Except Usage (Scan ρ) := do
  let scan ← scan.hold { name, repeatable, intake, value := attached }
  if attached.isSome then scan.settle else return scan

/-- Read a positional argument, if one is still to come. -/
def givePositional (scan : Scan ρ) (problem : Usage) (value : List Char) :
    Except Usage (Scan ρ) :=
  match scan.ahead with
  | [] => .error problem
  | positional :: ahead => do
      let scan ← scan.hold
        { name := positional.name
          repeatable := false
          intake := positional.intake
          value := some value }
      return { scan with ahead }

end Scan

namespace Grammar

/-- The digits, point and exponent letter of a number whose minus sign has been
taken away. -/
def looksNumeric (text : List Char) : Bool :=
  let isMark (letter : Char) : Bool := letter == 'e' || letter == 'E'
  let head := text.takeWhile (!isMark ·)
  let tail := text.dropWhile (!isMark ·)
  let point (letters : List Char) : Bool :=
    letters.all fun letter => letter.isDigit || letter == '.'
  point head && head.count '.' ≤ 1 && head.head? != some '.' &&
    match tail with
    | [] => true
    | _ :: exponent => head != [] && exponent != [] && exponent.all Char.isDigit

/-- Read an option behind two dashes. -/
def scanLong (grammar : Grammar ρ) (scan : Scan ρ) (text : List Char) :
    Except Usage (Scan ρ) :=
  let name := text.takeWhile (· != '=')
  let attached := (text.dropWhile (· != '=')).tail?
  match grammar.switches.find? fun switch => switch.long.toList == name with
  | none => .error .unknownArgument
  | some switch =>
      match switch.effect, attached with
      | .value repeatable intake, attached =>
          scan.giveValue switch.long repeatable intake attached
      | _, some _ => .error .tooManyValues
      | .flag set, none => scan.giveFlag switch.long set
      | .stop usage, none => scan.stop usage

/-- The value attached to the letter of an option, without an equals sign in
front of it. -/
def attachedValue? : List Char → Option (List Char)
  | [] => none
  | '=' :: value => some value
  | value => some value

/-- Read options by their letters behind one dash. -/
def scanShort (grammar : Grammar ρ) (scan : Scan ρ) : List Char → Except Usage (Scan ρ)
  | [] => .ok scan
  | letter :: rest =>
      match grammar.switches.find? fun switch => switch.short == some letter with
      | none => .error .unknownArgument
      | some switch =>
          match switch.effect with
          | .value repeatable intake =>
              scan.giveValue switch.long repeatable intake (attachedValue? rest)
          | .flag set => do
              let scan ← scan.giveFlag switch.long set
              grammar.scanShort scan rest
          | .stop usage => scan.stop usage

/-- The problem of an argument that has no place. -/
def surplusProblem (grammar : Grammar ρ) (scan : Scan ρ) (argument : String) : Usage :=
  if grammar.subcommands = [] then .unknownArgument
  else if scan.optionsEnded && grammar.subcommands.contains argument then .unknownArgument
  else .invalidSubcommand

/-- Read an argument that is no option. -/
def scanPlain (grammar : Grammar ρ) (scan : Scan ρ) (argument : String) :
    Except Usage (Scan ρ) :=
  if scan.awaiting && !scan.optionsEnded then .ok (scan.supply argument.toList)
  else scan.givePositional (grammar.surplusProblem scan argument) argument.toList

/-- Whether the next positional argument may be a number with a minus sign. -/
def takesNegative (scan : Scan ρ) : Bool :=
  scan.ahead.head?.any Positional.negativeNumbers

/-- Read an argument that is no subcommand. -/
def scanArgument (grammar : Grammar ρ) (scan : Scan ρ) (argument : String) :
    Except Usage (Scan ρ) :=
  if scan.optionsEnded then grammar.scanPlain scan argument
  else
    match argument.toList with
    | '-' :: '-' :: [] => .ok { scan with optionsEnded := true }
    | '-' :: '-' :: text => grammar.scanLong scan text
    | '-' :: [] => grammar.scanPlain scan argument
    | '-' :: text =>
        if takesNegative scan && looksNumeric text then grammar.scanPlain scan argument
        else grammar.scanShort scan text
    | _ => grammar.scanPlain scan argument

/-- Whether an argument is taken for a subcommand. -/
def startsSubcommand (grammar : Grammar ρ) (scan : Scan ρ) (argument : String) : Bool :=
  !scan.optionsEnded && !scan.awaiting && grammar.subcommands.contains argument

/-- Read arguments up to a subcommand. -/
def scanAll (grammar : Grammar ρ) (scan : Scan ρ) : List String → Except Usage (Scanned ρ)
  | [] => .ok ⟨scan, none⟩
  | argument :: rest =>
      if grammar.startsSubcommand scan argument then .ok ⟨scan, some (argument, rest)⟩
      else do
        let scan ← grammar.scanArgument scan argument
        grammar.scanAll scan rest

/-- Read the arguments of a command from the beginning. -/
def scan (grammar : Grammar ρ) (arguments : List String) : Except Usage (Scanned ρ) :=
  grammar.scanAll
    { settings := grammar.start
      given := []
      held := none
      ahead := grammar.positionals
      optionsEnded := false }
    arguments

/-- Read the arguments of a command without subcommands to their end. -/
def parse (grammar : Grammar ρ) (arguments : List String) : Except Usage ρ := do
  let scanned ← grammar.scan arguments
  let scan ← scanned.scan.settle
  if scan.ahead.isEmpty then return scan.settings
  else .error .missingRequiredArgument

end Grammar
end CommandLine
end DualPhy
