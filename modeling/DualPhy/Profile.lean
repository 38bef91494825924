import DualPhy.Block.Resolution
import DualPhy.Controller

/-!
# Profiles

A profile configures a controller: tuning mode, channels, some of the
parameters of each PHY, and the instance names by which the blocks are
recognised. What it leaves out keeps its stock value.
-/

namespace DualPhy

/-- The parameters of a PHY that a profile sets. -/
abbrev Overrides := PerParameter (Option Binary64)

namespace Overrides

/-- Nothing is set. -/
def none : Overrides := .ofFn fun _ => Option.none

/-- Everything is set. -/
def ofParameters (parameters : ParameterSet) : Overrides :=
  .ofFn fun parameter => some (parameters.get parameter)

/-- The parameters of a PHY: what is set, and the stock value of the rest. -/
def resolve (overrides : Overrides) (phy : Phy) : ParameterSet :=
  .ofFn fun parameter =>
    (overrides.get parameter).getD ((ParameterSet.initial phy).get parameter)

/-- The first parameter that is set to something other than a finite number. -/
def nonFinite? (overrides : Overrides) : Option Parameter :=
  Parameter.all.find? fun parameter =>
    (overrides.get parameter).any fun value => !value.isFinite

end Overrides

/-- The configuration of a controller. -/
structure Profile where
  /-- How the frontend is retuned. -/
  mode : TuningMode
  /-- The frontend channels. -/
  channels : Channels
  /-- The parameters that are set. -/
  overrides : PerPhy Overrides
  /-- Instance names of the blocks. -/
  roles : PerRole String
  deriving DecidableEq

/-- Why a profile was refused. -/
inductive ProfileError
  /-- It is not a document of a profile. -/
  | document (problem : Json.Error)
  /-- A parameter is not a finite number. -/
  | notFinite (phy : Phy) (parameter : Parameter)

namespace ProfileError

/-- Wording of the error. -/
def message : ProfileError → String
  | .document problem => problem.message
  | .notFinite phy parameter =>
      "phys[" ++ toString phy.index ++ "]." ++ parameter.key ++ " is not a finite number"

end ProfileError

namespace Profile

/-- The instance names of the stock flowgraph. -/
def stockRoles : PerRole String := .ofFn Role.stockInstance

/-- The profile that sets nothing. -/
def initial : Profile where
  mode := .initial
  channels := .initial
  overrides := .ofFn fun _ => .none
  roles := stockRoles

/-- The profile of a state, with every parameter set. -/
def ofState (state : ControllerState) (roles : PerRole String) : Profile where
  mode := state.mode
  channels := state.channels
  overrides := .ofFn fun phy => .ofParameters (state.table.get phy)
  roles := roles

/-- The parameters of both PHYs. -/
def table (profile : Profile) : ParameterTable :=
  .ofFn fun phy => (profile.overrides.get phy).resolve phy

/-- The state of a fresh controller with this configuration. -/
def state (profile : Profile) : ControllerState where
  active := ControllerState.initial.active
  mode := profile.mode
  channels := profile.channels
  table := profile.table

/-- The matchers of the blocks. -/
def matchers (profile : Profile) : List Matcher := Matcher.ofNames profile.roles

/-- Refuse a profile that sets a parameter to something other than a finite
number. The first such parameter is named. -/
def checkFinite (profile : Profile) : Except ProfileError Unit :=
  match (profile.overrides.get .phy0).nonFinite?, (profile.overrides.get .phy1).nonFinite? with
  | some parameter, _ => .error (.notFinite .phy0 parameter)
  | none, some parameter => .error (.notFinite .phy1 parameter)
  | none, none => .ok ()

/-- Load the configuration into a controller. -/
def applyTo (profile : Profile) : Controller.Run τ Unit :=
  Controller.configure profile.table profile.channels profile.mode

end Profile
end DualPhy
