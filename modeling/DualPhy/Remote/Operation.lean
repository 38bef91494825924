import DualPhy.Block.Role

/-!
# Remote operations

Everything the controller can change in the flowgraph is a handler of one of
the blocks that play a role. An `Operation` names such a handler.
-/

namespace DualPhy

/-- A handler that the controller may call. -/
inductive Operation
  /-- Input of the source selector. -/
  | sourceSelectorIndex
  /-- Output of the sink selector. -/
  | sinkSelectorIndex
  /-- Route of the message selector. -/
  | messageSelectorIndex
  /-- Carrier frequency of the RF source. -/
  | rfSourceFrequency
  /-- Gain of the RF source. -/
  | rfSourceGain
  /-- Sample rate of the RF source. -/
  | rfSourceSampleRate
  /-- Center frequency of one channel of the RF source. -/
  | rfSourceCenterFrequency
  /-- Frequency offset of one channel of the RF source. -/
  | rfSourceFrequencyOffset
  /-- Carrier frequency of the RF sink. -/
  | rfSinkFrequency
  /-- Gain of the RF sink. -/
  | rfSinkGain
  /-- Sample rate of the RF sink. -/
  | rfSinkSampleRate
  /-- Center frequency of one channel of the RF sink. -/
  | rfSinkCenterFrequency
  /-- Frequency offset of one channel of the RF sink. -/
  | rfSinkFrequencyOffset
  deriving DecidableEq

namespace Operation

/-- All operations, in the order in which they are listed. -/
def all : List Operation :=
  [.sourceSelectorIndex, .sinkSelectorIndex, .messageSelectorIndex,
    .rfSourceFrequency, .rfSourceGain, .rfSourceSampleRate,
    .rfSourceCenterFrequency, .rfSourceFrequencyOffset,
    .rfSinkFrequency, .rfSinkGain, .rfSinkSampleRate,
    .rfSinkCenterFrequency, .rfSinkFrequencyOffset]

/-- Every operation is listed. -/
theorem mem_all (operation : Operation) : operation ∈ all := by
  cases operation <;> decide

/-- The role of the block that the handler belongs to. -/
def role : Operation → Role
  | .sourceSelectorIndex => .sourceSelector
  | .sinkSelectorIndex => .sinkSelector
  | .messageSelectorIndex => .messageSelector
  | .rfSourceFrequency | .rfSourceGain | .rfSourceSampleRate
  | .rfSourceCenterFrequency | .rfSourceFrequencyOffset => .rfSource
  | .rfSinkFrequency | .rfSinkGain | .rfSinkSampleRate
  | .rfSinkCenterFrequency | .rfSinkFrequencyOffset => .rfSink

/-- Number of the handler among the handlers of its block. -/
def callIndex : Operation → UInt32
  | .sourceSelectorIndex => 0
  | .sinkSelectorIndex | .messageSelectorIndex => 1
  | .rfSourceFrequency | .rfSinkFrequency => 0
  | .rfSourceGain | .rfSinkGain => 1
  | .rfSourceSampleRate | .rfSinkSampleRate => 2
  | .rfSourceCenterFrequency | .rfSinkCenterFrequency => 4
  | .rfSourceFrequencyOffset | .rfSinkFrequencyOffset => 5

/-- Whether the handler routes traffic. -/
def isSelector : Operation → Bool
  | .sourceSelectorIndex | .sinkSelectorIndex | .messageSelectorIndex => true
  | _ => false

/-- Name of the operation in messages. -/
def name : Operation → String
  | .sourceSelectorIndex => "source selector index"
  | .sinkSelectorIndex => "sink selector index"
  | .messageSelectorIndex => "message selector index"
  | .rfSourceFrequency => "RF source frequency"
  | .rfSourceGain => "RF source gain"
  | .rfSourceSampleRate => "RF source sample rate"
  | .rfSourceCenterFrequency => "RF source center frequency"
  | .rfSourceFrequencyOffset => "RF source frequency offset"
  | .rfSinkFrequency => "RF sink frequency"
  | .rfSinkGain => "RF sink gain"
  | .rfSinkSampleRate => "RF sink sample rate"
  | .rfSinkCenterFrequency => "RF sink center frequency"
  | .rfSinkFrequencyOffset => "RF sink frequency offset"

end Operation
end DualPhy
