import DualPhy.CommandLine.Arguments
import DualPhy.Console
import DualPhy.Controller.Hop
import DualPhy.Profile.Printer
import DualPhy.Profile.Reader

/-!
# Carrying out a command line

The profile is loaded first. One subcommand prints it and does nothing else;
all others connect to the flowgraph and load the profile into the controller
before they do their work.
-/

namespace DualPhy
namespace CommandLine

/-- Why a file could not be read. -/
inductive FileError
  /-- There is no such file. -/
  | notFound
  /-- It is a directory. -/
  | isDirectory
  /-- It is not text in UTF-8. -/
  | notText
  /-- Something else is wrong. -/
  | other (reason : String)
  deriving DecidableEq

namespace FileError

/-- Wording of the error. -/
def message : FileError → String
  | .notFound => "No such file or directory (os error 2)"
  | .isDirectory => "Is a directory (os error 21)"
  | .notText => "stream did not contain valid UTF-8"
  | .other reason => reason

end FileError

/-- The text of a file of these bytes. -/
def decodeFile (bytes : ByteArray) : Except FileError String :=
  match String.fromUTF8? bytes with
  | some text => .ok text
  | none => .error .notText

/-- Why a run failed. -/
inductive RunError
  /-- An operation of the controller failed. -/
  | controller (error : ControllerError)
  /-- A profile could not be written. -/
  | unprintable (error : ProfileError)
  /-- The terminal failed. -/
  | terminal

namespace RunError

/-- Wording of the error. -/
def message : RunError → String
  | .controller error => error.message
  | .unprintable error => error.message
  | .terminal => "IO error: not a terminal"

end RunError

/-- What a run is given besides its arguments. -/
structure Surroundings where
  /-- The text of a file. -/
  fileText : String → Except FileError String
  /-- The keys that are pressed at the prompts of the console. -/
  keys : List Key
  /-- How many switches are made when no number of them is given. -/
  patience : Nat

/-- Name and version of the program. -/
def banner : String := "phyctl 0.0.1"

/-- Load a profile. -/
def loadProfile
    (fileText : String → Except FileError String)
    (path : String) :
    Except ControllerError Profile :=
  match fileText path with
  | .error error => .error (.profile path error.message)
  | .ok text =>
      match Profile.parse text with
      | .error error => .error (.profile path error.message)
      | .ok profile => .ok profile

/-- The profile that the settings name, or the stock one. -/
def chooseProfile (surroundings : Surroundings) (settings : Settings) :
    Act RunError σ Profile :=
  match settings.profile with
  | none => .done .initial
  | some path => do
      Act.log .program .info ("Loading profile " ++ path)
      (Act.ofExcept (loadProfile surroundings.fileText path)).mapError .controller

/-- The profile with every parameter set. -/
def effective (profile : Profile) : Profile := .ofState profile.state profile.roles

/-- Print the effective profile. -/
def runPrintProfile (profile : Profile) : Act RunError σ Unit := do
  let text ← (Act.ofExcept (effective profile).print).mapError .unprintable
  Act.printLine text

/-- A row of the list of addresses. -/
def listRow (name rest : String) : String :=
  String.ofList (Text.alignLeft 28 name.toList) ++ " " ++ rest

section

variable [Transport τ]

/-- List the blocks and addresses. -/
def runBlocks (roles : PerRole String) : Controller.GuidedRun τ Unit := do
  let controller ← Act.state
  let entries := controller.endpoints.entries
  Act.printLine (controller.baseUrl ++ ": " ++ toString entries.length ++ " of " ++
    toString Operation.all.length ++ " call endpoints resolved")
  if entries.isEmpty then
    Act.log .program .warn "No control block found; check --url and the profile's role names"
  Act.forEach (fun (operation, url) => Act.printLine (listRow operation.name url)) entries
  Act.forEach
    (fun role => Act.printLine (listRow role.name ("<missing: " ++ roles.get role ++ ">")))
    controller.missing

/-- Write the state to standard output. -/
def printState : Controller.GuidedRun τ Unit := do
  let controller ← Act.state
  Act.emit (.print controller.state.text)

/-- Set parameters of a PHY and put it on air. -/
def runSelect (selection : Selection) : Controller.GuidedRun τ Unit := do
  Act.forEach
    (fun assignment =>
      Controller.setParameter selection.phy.index assignment.parameter assignment.value)
    selection.assignments
  Controller.selectWithBar selection.phy
  printState

/-- Put the other PHY on air. -/
def runSwitch : Controller.GuidedRun τ Unit := do
  let phy ← Controller.switchWithBar
  Act.log .program .info (phy.name ++ " active")
  printState

/-- Hop through a worker. -/
def runHop (hopping : Hopping) (patience : Nat) : Controller.GuidedRun τ Unit :=
  fun controller =>
    let count := (hopping.count.map UInt64.toNat).getD patience
    let report := Hop.run hopping.interval count (Worker.spawn controller)
    ⟨report.outcome.map fun _ => (), report.state.controller, report.events⟩

/-- Send a parameter at once. -/
def runTune (tuning : Tuning) : Controller.GuidedRun τ Unit :=
  Controller.tuneWithBar tuning.parameter.identifier do
    Controller.send tuning.parameter tuning.value tuning.channel
    Act.log .program .info (tuning.parameter.identifier ++ " = " ++ tuning.value.text ++ " sent")

/-- Open the console. -/
def runConsole (keys : List Key) :
    Act RunError (Controller (Tracked τ)) Unit := do
  Act.printLine banner
  match ← (Console.run keys).mapError RunError.controller with
  | .left => return ()
  | .brokenOff => Act.fail .terminal
  | .waiting _ => Act.crash

/-- Do the work of a subcommand that needs a controller. -/
def work (surroundings : Surroundings) (profile : Profile) (subcommand : Subcommand) :
    Act RunError (Controller (Tracked τ)) Unit :=
  match subcommand with
  | .blocks => (runBlocks profile.roles).mapError .controller
  | .printProfile => .done ()
  | .select selection => (runSelect selection).mapError .controller
  | .switch => runSwitch.mapError .controller
  | .hop hopping => (runHop hopping surroundings.patience).mapError .controller
  | .tune tuning => (runTune tuning).mapError .controller
  | .console => runConsole surroundings.keys

/-- Discover the flowgraph, and refuse to go on if every role must have a block
and one has none. -/
def discover (settings : Settings) (profile : Profile) :
    Act ControllerError τ Resolution := do
  let survey ← Survey.discover settings.url profile.matchers
  Act.log .program .info ("Discovered " ++ toString survey.blocks.length ++ " blocks at " ++
    settings.url)
  if settings.strict then Act.ofExcept survey.resolution.requireComplete
  else return survey.resolution

/-- Run an activity of a fresh controller over a transport. -/
def withController
    (base : String)
    (resolution : Resolution)
    (act : Act ε (Controller τ) α) :
    Act ε τ α := fun transport =>
  let report := act (Controller.fresh base resolution transport)
  ⟨report.outcome, report.state.transport, report.events⟩

/-- Carry out what the arguments say. -/
def run (surroundings : Surroundings) (invocation : Invocation) :
    Act RunError (Tracked τ) Unit := do
  let settings := invocation.settings
  let profile ← chooseProfile surroundings settings
  match invocation.subcommand with
  | .printProfile => runPrintProfile profile
  | subcommand => do
      let resolution ← (discover settings profile).mapError .controller
      withController settings.url resolution do
        profile.applyTo.mapError .controller
        work surroundings profile subcommand

end

end CommandLine
end DualPhy
