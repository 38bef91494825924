import DualPhy.Binary64.Rounding
import DualPhy.Phy

/-!
# Tuning parameters of a PHY

Eight numbers describe how a PHY is put on air. `Parameter` names them, and
`PerParameter` is a record with one entry for each; the parameter set of a PHY
holds numbers, the overrides of a profile hold optional numbers.
-/

namespace DualPhy

/-- One of the tuning parameters. -/
inductive Parameter
  /-- Receive carrier frequency in Hz, for direct tuning. -/
  | rxFrequency
  /-- Transmit carrier frequency in Hz, for direct tuning. -/
  | txFrequency
  /-- Receive gain in dB. -/
  | rxGain
  /-- Transmit gain in dB. -/
  | txGain
  /-- Samples per second of both paths. -/
  | sampleRate
  /-- Center frequency in Hz, for tuning by offset. -/
  | centerFrequency
  /-- Receive offset from the center frequency in Hz. -/
  | rxFrequencyOffset
  /-- Transmit offset from the center frequency in Hz. -/
  | txFrequencyOffset
  deriving DecidableEq

namespace Parameter

/-- All parameters, in the order in which they are listed. -/
def all : List Parameter :=
  [.rxFrequency, .txFrequency, .rxGain, .txGain, .sampleRate, .centerFrequency,
    .rxFrequencyOffset, .txFrequencyOffset]

/-- Name of a parameter on the command line and in messages. -/
def name : Parameter → String
  | .rxFrequency => "rx-frequency"
  | .txFrequency => "tx-frequency"
  | .rxGain => "rx-gain"
  | .txGain => "tx-gain"
  | .sampleRate => "sample-rate"
  | .centerFrequency => "center-frequency"
  | .rxFrequencyOffset => "rx-frequency-offset"
  | .txFrequencyOffset => "tx-frequency-offset"

/-- Name of a parameter as a key of a document. -/
def key : Parameter → String
  | .rxFrequency => "rx_frequency"
  | .txFrequency => "tx_frequency"
  | .rxGain => "rx_gain"
  | .txGain => "tx_gain"
  | .sampleRate => "sample_rate"
  | .centerFrequency => "center_frequency"
  | .rxFrequencyOffset => "rx_frequency_offset"
  | .txFrequencyOffset => "tx_frequency_offset"

/-- The spelling that is compared with the parameter names: underscores count
as dashes and ASCII capitals as small letters. -/
def normalize (text : List Char) : List Char :=
  text.map fun letter => if letter = '_' then '-' else letter.toLower

/-- The parameter that a text names. -/
def read? (text : List Char) : Option Parameter :=
  all.find? fun parameter => parameter.name.toList == normalize text

/-- Wording for a text that names no parameter. -/
def unknownMessage (text : List Char) : String :=
  "unknown PHY parameter '" ++ String.ofList text ++ "'"

end Parameter

/-- A record with one entry for every tuning parameter. -/
structure PerParameter (α : Type) where
  /-- Entry of the receive frequency. -/
  rxFrequency : α
  /-- Entry of the transmit frequency. -/
  txFrequency : α
  /-- Entry of the receive gain. -/
  rxGain : α
  /-- Entry of the transmit gain. -/
  txGain : α
  /-- Entry of the sample rate. -/
  sampleRate : α
  /-- Entry of the center frequency. -/
  centerFrequency : α
  /-- Entry of the receive offset. -/
  rxFrequencyOffset : α
  /-- Entry of the transmit offset. -/
  txFrequencyOffset : α
  deriving DecidableEq

namespace PerParameter

/-- The record whose entries a function gives. -/
def ofFn (entry : Parameter → α) : PerParameter α where
  rxFrequency := entry .rxFrequency
  txFrequency := entry .txFrequency
  rxGain := entry .rxGain
  txGain := entry .txGain
  sampleRate := entry .sampleRate
  centerFrequency := entry .centerFrequency
  rxFrequencyOffset := entry .rxFrequencyOffset
  txFrequencyOffset := entry .txFrequencyOffset

/-- The entry of a parameter. -/
def get (record : PerParameter α) : Parameter → α
  | .rxFrequency => record.rxFrequency
  | .txFrequency => record.txFrequency
  | .rxGain => record.rxGain
  | .txGain => record.txGain
  | .sampleRate => record.sampleRate
  | .centerFrequency => record.centerFrequency
  | .rxFrequencyOffset => record.rxFrequencyOffset
  | .txFrequencyOffset => record.txFrequencyOffset

/-- The record with another entry for one parameter. -/
def set (record : PerParameter α) (parameter : Parameter) (entry : α) :
    PerParameter α :=
  match parameter with
  | .rxFrequency => { record with rxFrequency := entry }
  | .txFrequency => { record with txFrequency := entry }
  | .rxGain => { record with rxGain := entry }
  | .txGain => { record with txGain := entry }
  | .sampleRate => { record with sampleRate := entry }
  | .centerFrequency => { record with centerFrequency := entry }
  | .rxFrequencyOffset => { record with rxFrequencyOffset := entry }
  | .txFrequencyOffset => { record with txFrequencyOffset := entry }

@[simp] theorem get_ofFn
    (entry : Parameter → α)
    (parameter : Parameter) :
    (ofFn entry).get parameter = entry parameter := by
  cases parameter <;> rfl

@[simp] theorem get_set
    (record : PerParameter α)
    (written read : Parameter)
    (entry : α) :
    (record.set written entry).get read =
      if read = written then entry else record.get read := by
  cases written <;> cases read <;> rfl

/-- Two records with the same entries are equal. -/
theorem ext_get
    {first second : PerParameter α}
    (same : ∀ parameter, first.get parameter = second.get parameter) :
    first = second := by
  cases first
  cases second
  have entries := fun parameter => same parameter
  simp only [PerParameter.mk.injEq]
  exact ⟨entries .rxFrequency, entries .txFrequency, entries .rxGain,
    entries .txGain, entries .sampleRate, entries .centerFrequency,
    entries .rxFrequencyOffset, entries .txFrequencyOffset⟩

end PerParameter

/-- The tuning parameters of one PHY. -/
abbrev ParameterSet := PerParameter Binary64

namespace ParameterSet

/-- The stock parameters: PHY 0 is a 5 GHz waveform and PHY 1 a 2.4 GHz one. -/
def initial : Phy → ParameterSet
  | .phy0 =>
      { rxFrequency := .ofNat 5170000000
        txFrequency := .ofNat 5170000000
        rxGain := .ofNat 60
        txGain := .ofNat 60
        sampleRate := .ofNat 4000000
        centerFrequency := .ofNat 5100000000
        rxFrequencyOffset := .ofNat 0
        txFrequencyOffset := .ofNat 0 }
  | .phy1 =>
      { rxFrequency := .ofNat 2480000000
        txFrequency := .ofNat 2480000000
        rxGain := .ofNat 50
        txGain := .ofNat 50
        sampleRate := .ofNat 4000000
        centerFrequency := .ofNat 2450000000
        rxFrequencyOffset := .ofNat 0
        txFrequencyOffset := .ofNat 0 }

end ParameterSet

/-- The parameter sets of both PHYs. -/
abbrev ParameterTable := PerPhy ParameterSet

namespace ParameterTable

/-- The stock parameters of both PHYs. -/
def initial : ParameterTable := .ofFn ParameterSet.initial

end ParameterTable
end DualPhy
