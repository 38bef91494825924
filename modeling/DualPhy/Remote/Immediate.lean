import DualPhy.Phy.Parameter
import DualPhy.Remote.Call

/-!
# Immediate parameters

Parameters of the RF frontend that can be sent at once, without going through
the parameter table. Some apply to one channel of the frontend.
-/

namespace DualPhy

/-- A parameter that can be sent at once. -/
inductive Immediate
  /-- Carrier frequency of the receiver. -/
  | rxFrequency
  /-- Carrier frequency of the transmitter. -/
  | txFrequency
  /-- Gain of the receiver. -/
  | rxGain
  /-- Gain of the transmitter. -/
  | txGain
  /-- Sample rate of the receiver. -/
  | rxSampleRate
  /-- Sample rate of the transmitter. -/
  | txSampleRate
  /-- Center frequency of a channel of the receiver. -/
  | rxCenterFrequency
  /-- Center frequency of a channel of the transmitter. -/
  | txCenterFrequency
  /-- Frequency offset of a channel of the receiver. -/
  | rxFrequencyOffset
  /-- Frequency offset of a channel of the transmitter. -/
  | txFrequencyOffset
  deriving DecidableEq

namespace Immediate

/-- All immediate parameters, in the order in which they are listed. -/
def all : List Immediate :=
  [.rxFrequency, .txFrequency, .rxGain, .txGain, .rxSampleRate, .txSampleRate,
    .rxCenterFrequency, .txCenterFrequency, .rxFrequencyOffset, .txFrequencyOffset]

/-- Name of a parameter on the command line. -/
def name : Immediate → String
  | .rxFrequency => "rx-frequency"
  | .txFrequency => "tx-frequency"
  | .rxGain => "rx-gain"
  | .txGain => "tx-gain"
  | .rxSampleRate => "rx-sample-rate"
  | .txSampleRate => "tx-sample-rate"
  | .rxCenterFrequency => "rx-center-frequency"
  | .txCenterFrequency => "tx-center-frequency"
  | .rxFrequencyOffset => "rx-frequency-offset"
  | .txFrequencyOffset => "tx-frequency-offset"

/-- Name of a parameter as one word, as in messages. -/
def identifier : Immediate → String
  | .rxFrequency => "RxFrequency"
  | .txFrequency => "TxFrequency"
  | .rxGain => "RxGain"
  | .txGain => "TxGain"
  | .rxSampleRate => "RxSampleRate"
  | .txSampleRate => "TxSampleRate"
  | .rxCenterFrequency => "RxCenterFrequency"
  | .txCenterFrequency => "TxCenterFrequency"
  | .rxFrequencyOffset => "RxFrequencyOffset"
  | .txFrequencyOffset => "TxFrequencyOffset"

/-- The parameter of a name on the command line. -/
def ofName? (name : String) : Option Immediate :=
  all.find? fun parameter => parameter.name == name

/-- The operation that sets a parameter. -/
def operation : Immediate → Operation
  | .rxFrequency => .rfSourceFrequency
  | .txFrequency => .rfSinkFrequency
  | .rxGain => .rfSourceGain
  | .txGain => .rfSinkGain
  | .rxSampleRate => .rfSourceSampleRate
  | .txSampleRate => .rfSinkSampleRate
  | .rxCenterFrequency => .rfSourceCenterFrequency
  | .txCenterFrequency => .rfSinkCenterFrequency
  | .rxFrequencyOffset => .rfSourceFrequencyOffset
  | .txFrequencyOffset => .rfSinkFrequencyOffset

/-- Whether a parameter applies to one channel. -/
def perChannel : Immediate → Bool
  | .rxCenterFrequency | .txCenterFrequency
  | .rxFrequencyOffset | .txFrequencyOffset => true
  | _ => false

/-- The entry of the parameter table that holds the same quantity. -/
def tableParameter : Immediate → Parameter
  | .rxFrequency => .rxFrequency
  | .txFrequency => .txFrequency
  | .rxGain => .rxGain
  | .txGain => .txGain
  | .rxSampleRate | .txSampleRate => .sampleRate
  | .rxCenterFrequency | .txCenterFrequency => .centerFrequency
  | .rxFrequencyOffset => .rxFrequencyOffset
  | .txFrequencyOffset => .txFrequencyOffset

/-- The call that sets a parameter. The channel counts where the parameter
applies to one. -/
def call (parameter : Immediate) (value : Binary64) (channel : UInt32) : Call where
  operation := parameter.operation
  payload :=
    if parameter.perChannel then .channelReal value channel else .real value

end Immediate
end DualPhy
