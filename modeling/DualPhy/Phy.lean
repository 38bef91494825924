/-!
# The two PHYs

The flowgraph carries two waveforms, PHY 0 and PHY 1, of which one is on air.
This module names them, records with an entry for each, the two ways of tuning
the RF frontend, and the pair of frontend channels that both share.
-/

namespace DualPhy

/-- One of the two waveforms. -/
inductive Phy
  /-- PHY 0. -/
  | phy0
  /-- PHY 1. -/
  | phy1
  deriving DecidableEq

namespace Phy

/-- Both PHYs, in order. -/
def all : List Phy := [.phy0, .phy1]

/-- The PHY that is not this one. -/
def other : Phy → Phy
  | .phy0 => .phy1
  | .phy1 => .phy0

@[simp] theorem other_other (phy : Phy) : phy.other.other = phy := by
  cases phy <;> rfl

/-- Number of a PHY. -/
def index : Phy → Nat
  | .phy0 => 0
  | .phy1 => 1

/-- Number of a PHY as the selector blocks take it. -/
def selectorIndex : Phy → UInt32
  | .phy0 => 0
  | .phy1 => 1

/-- The PHY of a number, if there is one. -/
def ofIndex? : Nat → Option Phy
  | 0 => some .phy0
  | 1 => some .phy1
  | _ => none

@[simp] theorem ofIndex?_index (phy : Phy) : ofIndex? phy.index = some phy := by
  cases phy <;> rfl

/-- Name of a PHY in messages. -/
def name : Phy → String
  | .phy0 => "PHY 0"
  | .phy1 => "PHY 1"

end Phy

/-- A record with one entry for each PHY. -/
structure PerPhy (α : Type) where
  /-- Entry of PHY 0. -/
  phy0 : α
  /-- Entry of PHY 1. -/
  phy1 : α
  deriving DecidableEq

namespace PerPhy

/-- The record whose entries a function gives. -/
def ofFn (entry : Phy → α) : PerPhy α where
  phy0 := entry .phy0
  phy1 := entry .phy1

/-- The entry of a PHY. -/
def get (record : PerPhy α) : Phy → α
  | .phy0 => record.phy0
  | .phy1 => record.phy1

/-- The record with another entry for one PHY. -/
def set (record : PerPhy α) (phy : Phy) (entry : α) : PerPhy α :=
  match phy with
  | .phy0 => { record with phy0 := entry }
  | .phy1 => { record with phy1 := entry }

@[simp] theorem get_ofFn (entry : Phy → α) (phy : Phy) :
    (ofFn entry).get phy = entry phy := by
  cases phy <;> rfl

@[simp] theorem get_set
    (record : PerPhy α)
    (written read : Phy)
    (entry : α) :
    (record.set written entry).get read =
      if read = written then entry else record.get read := by
  cases written <;> cases read <;> rfl

end PerPhy

/-- How the RF frontend is retuned when a PHY is selected. -/
inductive TuningMode
  /-- The carriers are set to the receive and transmit frequency. -/
  | direct
  /-- The carriers are set to the center frequency and the difference is
  shifted digitally. -/
  | centerOffset
  deriving DecidableEq

namespace TuningMode

/-- The mode of a fresh controller. -/
def initial : TuningMode := .centerOffset

/-- The mode that is not this one. -/
def other : TuningMode → TuningMode
  | .direct => .centerOffset
  | .centerOffset => .direct

/-- Name of a mode in messages. -/
def name : TuningMode → String
  | .direct => "direct"
  | .centerOffset => "center+offset"

/-- Name of a mode in documents. -/
def keyword : TuningMode → String
  | .direct => "direct"
  | .centerOffset => "center_offset"

/-- The mode of a document name. -/
def ofKeyword? (word : String) : Option TuningMode :=
  [direct, centerOffset].find? fun mode => mode.keyword == word

end TuningMode

/-- The frontend channels in use, the same for both PHYs. -/
structure Channels where
  /-- Receiver channel. -/
  rx : UInt32
  /-- Transmitter channel. -/
  tx : UInt32
  deriving DecidableEq

namespace Channels

/-- The channels of a fresh controller. -/
def initial : Channels := ⟨0, 0⟩

end Channels
end DualPhy
