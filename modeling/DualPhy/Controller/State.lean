import DualPhy.Phy.Parameter
import DualPhy.Remote.Call

/-!
# What the controller remembers

The parameters of both PHYs, the channels, the tuning mode and which PHY is on
air. The state determines the plan of a PHY: the calls that put it on air, in
their order. Traffic is routed first, then gains and sample rates follow, and
tuning comes last.
-/

namespace DualPhy

/-- The memory of a controller between its operations. -/
structure ControllerState where
  /-- The PHY on air. -/
  active : Phy
  /-- How the frontend is retuned. -/
  mode : TuningMode
  /-- The frontend channels. -/
  channels : Channels
  /-- The parameters of both PHYs. -/
  table : ParameterTable
  deriving DecidableEq

namespace ControllerState

/-- The memory of a fresh controller. -/
def initial : ControllerState where
  active := .phy0
  mode := .initial
  channels := .initial
  table := .initial

/-- Set one parameter of a PHY. -/
def setParameter
    (state : ControllerState)
    (phy : Phy)
    (parameter : Parameter)
    (value : Binary64) :
    ControllerState :=
  { state with table := state.table.set phy ((state.table.get phy).set parameter value) }

/-- The calls that route traffic to a PHY. -/
def routing (target : Phy) : List Call :=
  [ ⟨.sourceSelectorIndex, .index target.selectorIndex⟩,
    ⟨.sinkSelectorIndex, .index target.selectorIndex⟩,
    ⟨.messageSelectorIndex, .index target.selectorIndex⟩ ]

/-- The calls that set gains and sample rates. -/
def levels (parameters : ParameterSet) : List Call :=
  [ ⟨.rfSourceGain, .real parameters.rxGain⟩,
    ⟨.rfSourceSampleRate, .real parameters.sampleRate⟩,
    ⟨.rfSinkGain, .real parameters.txGain⟩,
    ⟨.rfSinkSampleRate, .real parameters.sampleRate⟩ ]

/-- The calls that tune the frontend. -/
def tuning (mode : TuningMode) (channels : Channels) (parameters : ParameterSet) : List Call :=
  match mode with
  | .centerOffset =>
      [ ⟨.rfSourceCenterFrequency,
          .channelReal parameters.centerFrequency channels.rx⟩,
        ⟨.rfSinkCenterFrequency,
          .channelReal parameters.centerFrequency channels.tx⟩,
        ⟨.rfSourceFrequencyOffset,
          .channelReal parameters.rxFrequencyOffset channels.rx⟩,
        ⟨.rfSinkFrequencyOffset,
          .channelReal parameters.txFrequencyOffset channels.tx⟩ ]
  | .direct =>
      [ ⟨.rfSourceFrequency, .real parameters.rxFrequency⟩,
        ⟨.rfSinkFrequency, .real parameters.txFrequency⟩ ]

/-- The calls that put a PHY on air. -/
def plan (state : ControllerState) (target : Phy) : List Call :=
  routing target ++ levels (state.table.get target) ++
    tuning state.mode state.channels (state.table.get target)

end ControllerState
end DualPhy
