import DualPhy.CommandLine.Grammar
import DualPhy.Decimal.Whole
import DualPhy.Phy.Assignment
import DualPhy.Remote.Immediate

/-!
# The arguments of the program

Options that hold for every subcommand come before it; each subcommand has
options and positional arguments of its own.
-/

namespace DualPhy
namespace CommandLine

/-- Options in front of the subcommand. -/
structure Settings where
  /-- Base address of the flowgraph. -/
  url : String
  /-- Path of a profile. -/
  profile : Option String
  /-- How long a request may take, in milliseconds. -/
  timeout : UInt64
  /-- Whether every role must have a block. -/
  strict : Bool
  /-- Whether every remote call is logged. -/
  verbose : Bool
  deriving DecidableEq

/-- What to select. -/
structure Selection where
  /-- The PHY. -/
  phy : Phy
  /-- Parameters that are set first, in the order given. -/
  assignments : List Assignment
  deriving DecidableEq

/-- How to hop. -/
structure Hopping where
  /-- Pause before every switch, in milliseconds. -/
  interval : UInt64
  /-- Number of switches; without it, hopping does not end by itself. -/
  count : Option UInt64
  deriving DecidableEq

/-- What to send at once. -/
structure Tuning where
  /-- The parameter. -/
  parameter : Immediate
  /-- Its value. -/
  value : Binary64
  /-- The frontend channel, where the parameter applies to one. -/
  channel : UInt32
  deriving DecidableEq

/-- A subcommand with its arguments. -/
inductive Subcommand
  /-- List the blocks and addresses. -/
  | blocks
  /-- Print the effective profile. -/
  | printProfile
  /-- Put a PHY on air. -/
  | select (selection : Selection)
  /-- Put the other PHY on air. -/
  | switch
  /-- Keep switching. -/
  | hop (hopping : Hopping)
  /-- Send a parameter at once. -/
  | tune (tuning : Tuning)
  /-- Open the console. -/
  | console
  deriving DecidableEq

/-- Everything that the arguments say. -/
structure Invocation where
  /-- Options in front of the subcommand. -/
  settings : Settings
  /-- The subcommand. -/
  subcommand : Subcommand
  deriving DecidableEq

/-! ## Values -/

/-- Take in what a reader accepts. -/
def accept (read : List Char → Option α) (store : α → ρ → ρ) : Intake ρ := fun text =>
  match read text with
  | some value => .ok (store value)
  | none => .error .valueValidation

/-- Take in any text. -/
def acceptText (store : String → ρ → ρ) : Intake ρ := fun text =>
  .ok (store (String.ofList text))

/-- Take in a path, which is not empty. -/
def acceptPath (store : String → ρ → ρ) : Intake ρ := fun text =>
  if text = [] then .error .invalidValue else .ok (store (String.ofList text))

/-- Take in one of the names of a list. -/
def acceptName (read : String → Option α) (store : α → ρ → ρ) : Intake ρ := fun text =>
  match read (String.ofList text) with
  | some value => .ok (store value)
  | none => .error .invalidValue

/-- A count of at most sixty-four bits. -/
def readUInt64? (text : List Char) : Option UInt64 :=
  (Decimal.naturalBelow? UInt64.size text).map .ofNat

/-- A channel number. It is read as a signed number, so that a zero may have a
minus sign. -/
def readChannel? (text : List Char) : Option UInt32 := do
  let value ← Decimal.integer? text
  if 0 ≤ value ∧ value < UInt32.size then some (.ofNat value.toNat) else none

/-- The number of a PHY. It is read as a signed number, so that a zero may have
a minus sign. -/
def readPhy? (text : List Char) : Option Phy := do
  let value ← Decimal.integer? text
  if 0 ≤ value then Phy.ofIndex? value.toNat else none

/-! ## Grammars -/

/-- The option that shows the help text. -/
def helpSwitch : Switch ρ := ⟨"help", some 'h', .stop .help⟩

/-- The option that shows the version. -/
def versionSwitch : Switch ρ := ⟨"version", some 'V', .stop .version⟩

/-- Names of the subcommands, with the one that shows the help text. -/
def subcommandNames : List String :=
  ["blocks", "show", "select", "switch", "hop", "tune", "console", "help"]

/-- Options in front of the subcommand. -/
def settingsGrammar : Grammar Settings where
  switches :=
    [ ⟨"url", none, .value false (acceptText fun url settings => { settings with url })⟩,
      ⟨"profile", some 'p', .value false
        (acceptPath fun path settings => { settings with profile := some path })⟩,
      ⟨"timeout-ms", none, .value false
        (accept readUInt64? fun timeout settings => { settings with timeout })⟩,
      ⟨"strict", none, .flag fun settings => { settings with strict := true }⟩,
      ⟨"verbose", some 'v', .flag fun settings => { settings with verbose := true }⟩,
      helpSwitch,
      versionSwitch ]
  positionals := []
  subcommands := subcommandNames
  start :=
    { url := "http://127.0.0.1:1337/api/fg/0/"
      profile := none
      timeout := 2000
      strict := false
      verbose := false }

/-- A subcommand without arguments. -/
def bareGrammar : Grammar Unit where
  switches := [helpSwitch]
  positionals := []
  subcommands := []
  start := ()

/-- Arguments of a selection. -/
def selectGrammar : Grammar Selection where
  switches :=
    [ ⟨"set", none, .value true
        (accept (fun text => (Assignment.read text).toOption) fun assignment selection =>
          { selection with assignments := selection.assignments ++ [assignment] })⟩,
      helpSwitch ]
  positionals :=
    [ ⟨"phy", false, accept readPhy? fun phy selection => { selection with phy }⟩ ]
  subcommands := []
  start := { phy := .phy0, assignments := [] }

/-- Arguments of hopping. -/
def hopGrammar : Grammar Hopping where
  switches :=
    [ ⟨"interval-ms", none, .value false
        (accept readUInt64? fun interval hopping => { hopping with interval })⟩,
      ⟨"count", none, .value false
        (accept readUInt64? fun count hopping => { hopping with count := some count })⟩,
      helpSwitch ]
  positionals := []
  subcommands := []
  start := { interval := 1000, count := none }

/-- Arguments of sending a parameter at once. -/
def tuneGrammar : Grammar Tuning where
  switches :=
    [ ⟨"channel", none, .value false
        (accept readChannel? fun channel tuning => { tuning with channel })⟩,
      helpSwitch ]
  positionals :=
    [ ⟨"param", false,
        acceptName Immediate.ofName? fun parameter tuning => { tuning with parameter }⟩,
      ⟨"value", true,
        accept (fun text => (Binary64.read text).toOption) fun value tuning =>
          { tuning with value }⟩ ]
  subcommands := []
  start := { parameter := .rxFrequency, value := .zero false, channel := 0 }

/-! ## Reading the arguments -/

/-- What asking for the help text of a chain of subcommands comes to. -/
def helpFor : List String → Usage
  | [] => .help
  | [name] => if subcommandNames.contains name then .help else .invalidSubcommand
  | _ => .invalidSubcommand

/-- Read a subcommand and its arguments. -/
def parseSubcommand (name : String) (arguments : List String) : Except Usage Subcommand :=
  match name with
  | "blocks" => do
      bareGrammar.parse arguments
      return .blocks
  | "show" => do
      bareGrammar.parse arguments
      return .printProfile
  | "select" => do
      let selection ← selectGrammar.parse arguments
      return .select selection
  | "switch" => do
      bareGrammar.parse arguments
      return .switch
  | "hop" => do
      let hopping ← hopGrammar.parse arguments
      return .hop hopping
  | "tune" => do
      let tuning ← tuneGrammar.parse arguments
      return .tune tuning
  | "console" => do
      bareGrammar.parse arguments
      return .console
  | _ => .error (helpFor arguments)

/-- Read the arguments behind the name of the program. The subcommand is read
before the last option in front of it is settled. -/
def parse (arguments : List String) : Except Usage Invocation := do
  let scanned ← settingsGrammar.scan arguments
  match scanned.subcommand with
  | none =>
      let scan ← scanned.scan.settle
      if scan.given = [] then .error .helpInsteadOfNothing else .error .missingSubcommand
  | some (name, rest) =>
      let subcommand ← parseSubcommand name rest
      let scan ← scanned.scan.settle
      return { settings := scan.settings, subcommand }

end CommandLine
end DualPhy
