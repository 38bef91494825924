import DualPhy.Console.Line
import DualPhy.Controller.Guided
import DualPhy.Controller.StateText
import DualPhy.Decimal.Whole

/-!
# The console

A menu around a connected controller. At every moment the console stands at a
prompt, its `Place`, and takes the keys that are pressed there. Nothing is
changed before the last prompt of a menu item has been answered. A failure of
the controller is logged and the menu goes on; a failure of the terminal ends
the session.
-/

namespace DualPhy
namespace Console

/-- An item of the menu. -/
inductive Item
  /-- Put a PHY on air. -/
  | selectPhy (phy : Phy)
  /-- Put the other PHY on air. -/
  | switchPhy
  /-- Change to the other tuning mode. -/
  | toggleMode
  /-- Set a parameter of a PHY. -/
  | editParameter
  /-- Set both channels. -/
  | setChannels
  /-- Write the state to standard output. -/
  | showState
  /-- Leave the console. -/
  | quit
  deriving DecidableEq

namespace Item

/-- The menu. -/
def all : List Item :=
  [.selectPhy .phy0, .selectPhy .phy1, .switchPhy, .toggleMode, .editParameter,
    .setChannels, .showState, .quit]

/-- Label of an item. -/
def label : Item → String
  | .selectPhy phy => "Select " ++ phy.name
  | .switchPhy => "Switch PHY"
  | .toggleMode => "Toggle tuning mode"
  | .editParameter => "Edit PHY parameter"
  | .setChannels => "Set rx/tx channels"
  | .showState => "Show configuration"
  | .quit => "Quit"

end Item

/-- A list in which an item is chosen. -/
inductive Choice
  /-- The menu. -/
  | menu
  /-- The PHYs, one of which gets a new parameter. -/
  | phy
  /-- The parameters, one of which gets a new value. -/
  | parameter (phy : Phy)
  deriving DecidableEq

/-- A number that is typed. -/
inductive Field
  /-- The new value of a parameter. -/
  | value (phy : Phy) (parameter : Parameter)
  /-- The channel of the receiver. -/
  | rxChannel
  /-- The channel of the transmitter, after that of the receiver. -/
  | txChannel (rx : UInt32)
  deriving DecidableEq

/-- Where the console stands. -/
inductive Place
  /-- At a list, with the cursor at an item. -/
  | choosing (choice : Choice) (cursor : Nat)
  /-- At a number, with a part of its line typed. -/
  | typing (field : Field) (line : Line)
  deriving DecidableEq

namespace Place

/-- The menu, at its first item. -/
def menu : Place := .choosing .menu 0

end Place

/-- What follows a key. -/
inductive Next
  /-- The same prompt. -/
  | stay (place : Place)
  /-- Another prompt. -/
  | goOn (place : Place)
  /-- The end of the session. -/
  | leave
  /-- The end of the session, because the terminal failed. -/
  | breakOff
  deriving DecidableEq

/-- How far a session came. -/
inductive Progress
  /-- It was left through the menu. -/
  | left
  /-- The terminal failed. -/
  | brokenOff
  /-- It waits for a key. -/
  | waiting (place : Place)
  deriving DecidableEq

namespace Choice

/-- Labels of the items of a list. -/
def labels : Choice → List String
  | .menu => Item.all.map Item.label
  | .phy => Phy.all.map Phy.name
  | .parameter _ => Parameter.all.map Parameter.name

/-- Title of a list. -/
def title (state : ControllerState) : Choice → String
  | .menu => state.active.name ++ " active, " ++ state.mode.name ++ " mode"
  | .phy => "PHY"
  | .parameter _ => "Parameter"

end Choice

/-- The value of a typed line; an empty line stands for the offered one. -/
def typedValue (read : List Char → Option α) (offered : α) (line : List Char) : Option α :=
  if line = [] then some offered else read line

/-- The question that is asked at a place. -/
def question (state : ControllerState) : Place → Prompt
  | .choosing choice cursor => .choose (choice.title state) choice.labels cursor
  | .typing (.value phy parameter) _ =>
      .type parameter.name ((state.table.get phy).get parameter).text
  | .typing .rxChannel _ => .type "rx channel" (toString state.channels.rx.toNat)
  | .typing (.txChannel _) _ => .type "tx channel" (toString state.channels.tx.toNat)

section

variable [Transport τ]

/-- Run an operation and log its failure. -/
def logFailure (run : Controller.GuidedRun τ α) : Controller.GuidedRun τ Unit := do
  match ← run.attempt with
  | .ok _ => return ()
  | .error error => Act.log .console .error error.message

/-- Change to the other tuning mode. -/
def toggleMode : Controller.GuidedRun τ Unit := do
  let controller ← Act.state
  let mode := controller.state.mode.other
  Controller.setMode mode
  Act.log .console .info ("Tuning mode: " ++ mode.name ++ " (applies on next selection)")

/-- Set a parameter and say so. -/
def editParameter (phy : Phy) (parameter : Parameter) (value : Binary64) :
    Controller.GuidedRun τ Unit := do
  Controller.setParameter phy.index parameter value
  Act.log .console .info ("PHY " ++ toString phy.index ++ " " ++ parameter.name ++ " = " ++
    value.text ++ " (applies on next selection)")

/-- Do what an item of the menu says, up to its first prompt. -/
def perform : Item → Controller.GuidedRun τ Next
  | .selectPhy phy => do
      logFailure (Controller.selectWithBar phy)
      return .goOn .menu
  | .switchPhy => do
      logFailure Controller.switchWithBar
      return .goOn .menu
  | .toggleMode => do
      toggleMode
      return .goOn .menu
  | .editParameter => do
      let controller ← Act.state
      return .goOn (.choosing .phy controller.state.active.index)
  | .setChannels => return .goOn (.typing .rxChannel .empty)
  | .showState => do
      let controller ← Act.state
      Act.emit (.print controller.state.text)
      return .goOn .menu
  | .quit => return .leave

/-- Choose the item at the cursor. -/
def pick (choice : Choice) (cursor : Nat) : Controller.GuidedRun τ Next :=
  match choice with
  | .menu => perform (Item.all.getD cursor .quit)
  | .phy => return .goOn (.choosing (.parameter (Phy.all.getD cursor .phy0)) 0)
  | .parameter phy =>
      return .goOn (.typing (.value phy (Parameter.all.getD cursor .rxFrequency)) .empty)

/-- Take a typed line. A line that is not a number is asked for again. -/
def enter (field : Field) (line : List Char) : Controller.GuidedRun τ Next := do
  let controller ← Act.state
  let state := controller.state
  match field with
  | .value phy parameter =>
      let offered := (state.table.get phy).get parameter
      match typedValue (fun text => (Binary64.read text).toOption) offered line with
      | none => return .goOn (.typing field .empty)
      | some value => do
          logFailure (editParameter phy parameter value)
          return .goOn .menu
  | .rxChannel =>
      match typedValue (Decimal.naturalBelow? UInt32.size) state.channels.rx.toNat line with
      | none => return .goOn (.typing field .empty)
      | some rx => return .goOn (.typing (.txChannel (.ofNat rx)) .empty)
  | .txChannel rx =>
      match typedValue (Decimal.naturalBelow? UInt32.size) state.channels.tx.toNat line with
      | none => return .goOn (.typing field .empty)
      | some tx => do
          Controller.setChannels ⟨rx, .ofNat tx⟩
          return .goOn .menu

/-- Take a key. A cursor goes from the last item on to the first, and back. -/
def press : Place → Key → Controller.GuidedRun τ Next
  | _, .failure => return .breakOff
  | .choosing choice cursor, key =>
      let count := choice.labels.length
      match key.atCursor with
      | .down => return .stay (.choosing choice ((cursor + 1) % count))
      | .up => return .stay (.choosing choice ((cursor + count - 1) % count))
      | .enter => pick choice cursor
      | _ => return .stay (.choosing choice cursor)
  | .typing field line, .enter => enter field line.text
  | .typing field line, key => return .stay (.typing field (line.press key))

/-- Ask the question at a place. -/
def ask (place : Place) : Controller.GuidedRun τ Unit := do
  let controller ← Act.state
  Act.emit (.prompt (question controller.state place))

/-- Take keys from a place on. -/
def follow : Place → List Key → Controller.GuidedRun τ Progress
  | place, [] => return .waiting place
  | place, key :: keys => do
      match ← press place key with
      | .stay place => follow place keys
      | .goOn place => do
          ask place
          follow place keys
      | .leave => return .left
      | .breakOff => return .brokenOff

/-- Run a session on keys. -/
def run (keys : List Key) : Controller.GuidedRun τ Progress := do
  ask .menu
  follow .menu keys

end

end Console
end DualPhy
