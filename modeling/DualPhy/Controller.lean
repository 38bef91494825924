import DualPhy.Controller.Discovery
import DualPhy.Controller.State
import DualPhy.Remote.Endpoint
import DualPhy.Remote.Immediate

/-!
# The controller

A controller owns a transport, the addresses of the handlers and the state.
Setters change the state only; nothing reaches the flowgraph before a PHY is
selected. A selection runs through the plan of its target and stops at the
first call that fails; only a complete run makes the target active. Immediate
calls bypass the state.
-/

namespace DualPhy

/-- A controller over a transport. -/
structure Controller (τ : Type) where
  /-- The way to the flowgraph. -/
  transport : τ
  /-- Base address of the flowgraph. -/
  baseUrl : String
  /-- Addresses of the handlers. -/
  endpoints : EndpointTable
  /-- The roles without a block. -/
  missing : List Role
  /-- What the controller remembers. -/
  state : ControllerState

namespace Controller

/-- An activity of a controller. -/
abbrev Run (τ α : Type) := Act ControllerError (Controller τ) α

/-- A fresh controller for the blocks that discovery found. -/
def fresh (base : String) (resolution : Resolution) (transport : τ) : Controller τ where
  transport := transport
  baseUrl := base
  endpoints := .build base resolution
  missing := resolution.missing
  state := .initial

/-! ## Settings, applied by the next selection -/

/-- Change the state. -/
def modifyState (change : ControllerState → ControllerState) : Run τ Unit :=
  .modify fun controller => { controller with state := change controller.state }

/-- Set one parameter of the PHY of a number. -/
def setParameter (index : Nat) (parameter : Parameter) (value : Binary64) : Run τ Unit := do
  let phy ← Act.ofExcept (Phy.ofIndex index)
  modifyState fun state => state.setParameter phy parameter value
  Act.log .controller .debug ("PHY " ++ toString index ++ " " ++ parameter.name ++ " = " ++
    value.text ++ " (pending)")

/-- Set the receive frequency. -/
def setRxFrequency (index : Nat) (frequency : Binary64) : Run τ Unit :=
  setParameter index .rxFrequency frequency

/-- Set the transmit frequency. -/
def setTxFrequency (index : Nat) (frequency : Binary64) : Run τ Unit :=
  setParameter index .txFrequency frequency

/-- Set the receive gain. -/
def setRxGain (index : Nat) (gain : Binary64) : Run τ Unit :=
  setParameter index .rxGain gain

/-- Set the transmit gain. -/
def setTxGain (index : Nat) (gain : Binary64) : Run τ Unit :=
  setParameter index .txGain gain

/-- Set the sample rate. -/
def setSampleRate (index : Nat) (rate : Binary64) : Run τ Unit :=
  setParameter index .sampleRate rate

/-- Set the center frequency. -/
def setCenterFrequency (index : Nat) (frequency : Binary64) : Run τ Unit :=
  setParameter index .centerFrequency frequency

/-- Set the offset of the receive frequency from the center. -/
def setRxFrequencyOffset (index : Nat) (offset : Binary64) : Run τ Unit :=
  setParameter index .rxFrequencyOffset offset

/-- Set the offset of the transmit frequency from the center. -/
def setTxFrequencyOffset (index : Nat) (offset : Binary64) : Run τ Unit :=
  setParameter index .txFrequencyOffset offset

/-- The setter of a parameter. -/
def setter : Parameter → (index : Nat) → (value : Binary64) → Run τ Unit
  | .rxFrequency => setRxFrequency
  | .txFrequency => setTxFrequency
  | .rxGain => setRxGain
  | .txGain => setTxGain
  | .sampleRate => setSampleRate
  | .centerFrequency => setCenterFrequency
  | .rxFrequencyOffset => setRxFrequencyOffset
  | .txFrequencyOffset => setTxFrequencyOffset

/-- Every setter sets the parameter of its name. -/
theorem setter_eq (parameter : Parameter) (index : Nat) (value : Binary64) :
    (setter parameter index value : Run τ Unit) = setParameter index parameter value := by
  cases parameter <;> rfl

/-- Set the channels. -/
def setChannels (channels : Channels) : Run τ Unit :=
  modifyState fun state => { state with channels }

/-- Set the tuning mode. -/
def setMode (mode : TuningMode) : Run τ Unit :=
  modifyState fun state => { state with mode }

/-- Replace the parameter table, the channels and the tuning mode. -/
def configure (table : ParameterTable) (channels : Channels) (mode : TuningMode) : Run τ Unit :=
  modifyState fun state => { state with table, channels, mode }

/-! ## Remote calls -/

section Calls

variable [Transport τ]

/-- Make a call through the transport. -/
def transmit (url : String) (call : Call) : Act TransportError (Controller τ) Unit :=
  (Transport.call url call).onPart transport fun transport controller =>
    { controller with transport }

/-- Make a call, provided its operation has an address. -/
def issue (call : Call) : Run τ Unit := do
  let controller ← Act.state
  match controller.endpoints.url? call.operation with
  | none =>
      Act.fail (.transportFailure call.operation (.unresolved call.operation.role))
  | some url =>
      Act.log .controller .debug (call.operation.name ++ " <- " ++ call.payload.text)
      (transmit url call).mapError (.transportFailure call.operation)

/-- Run through the plan of a PHY. -/
def apply (target : Phy) : Run τ Unit := do
  let controller ← Act.state
  let plan := controller.state.plan target
  Act.log .controller .info ("Applying " ++ target.name ++ " (" ++ controller.state.mode.name ++
    " mode, " ++ toString plan.length ++ " calls)")
  Act.forEach issue plan
  Act.log .controller .info (target.name ++ " active")

/-- Put a PHY on air. -/
def selectPhy (target : Phy) : Run τ Unit := do
  apply target
  modifyState fun state => { state with active := target }

/-- Put the PHY of a number on air. -/
def select (index : Nat) : Run τ Unit := do
  let target ← Act.ofExcept (Phy.ofIndex index)
  selectPhy target

/-- Put the other PHY on air. -/
def switch : Run τ Phy := do
  let controller ← Act.state
  let target := controller.state.active.other
  selectPhy target
  return target

/-- Send a parameter at once. -/
def send (parameter : Immediate) (value : Binary64) (channel : UInt32) : Run τ Unit :=
  issue (parameter.call value channel)

/-! ## Connecting -/

/-- Discover the flowgraph at a base address and build a controller for it. -/
def connect (base : String) (matchers : List Matcher) :
    Act ControllerError τ (Controller τ × List Block) := do
  let survey ← Survey.discover base matchers
  let roles := Role.all.length
  Act.log .controller .info ("Discovered " ++ toString survey.blocks.length ++ " blocks, " ++
    toString (roles - survey.resolution.missing.length) ++ "/" ++ toString roles ++
    " roles resolved")
  let transport ← Act.state
  return (fresh base survey.resolution transport, survey.blocks)

end Calls

/-- The parameters of the PHY of a number. -/
def parameters (index : Nat) (controller : Controller τ) :
    Except ControllerError ParameterSet :=
  (Phy.ofIndex index).map controller.state.table.get

end Controller
end DualPhy
