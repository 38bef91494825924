import DualPhy.Proofs.Preview
import DualPhy.Transport.Scripted

/-!
# The last write counts

The settings of a controller are slots: a number for every parameter of either PHY, the channels
and the tuning mode. Behind every history of uses a slot holds what was written to it last by a
use that succeeded. So it does not matter in which order different slots were written, nor what
was selected, switched or sent between, with success or without.
-/

namespace DualPhy

theorem Phy.index_inj {first second : Phy} : first.index = second.index ↔ first = second := by
  cases first <;> cases second <;> decide

namespace Controller

/-- A setting that can be written. -/
inductive Slot
  /-- A parameter of a PHY. -/
  | parameter (phy : Phy) (parameter : Parameter)
  /-- The channels. -/
  | channels
  /-- The tuning mode. -/
  | mode

namespace Slot

/-- What a slot holds. -/
abbrev Value : Slot → Type
  | .parameter _ _ => Binary64
  | .channels => Channels
  | .mode => TuningMode

/-- The value of a slot in a state. -/
def read : (slot : Slot) → ControllerState → slot.Value
  | .parameter phy which, state => (state.table.get phy).get which
  | .channels, state => state.channels
  | .mode, state => state.mode

/-- The active PHY is no slot. -/
theorem read_active (slot : Slot) (state : ControllerState) (active : Phy) :
    slot.read { state with active } = slot.read state := by
  cases slot <;> rfl

end Slot

/-- What a use writes to a slot if it succeeds. -/
def Use.writes? : Use → (slot : Slot) → Option slot.Value
  | .act (.setParameter index written value), .parameter phy parameter =>
      if phy.index = index ∧ parameter = written then some value else none
  | .act (.setChannels channels), .channels => some channels
  | .act (.setMode mode), .mode => some mode
  | .act (.configure table _ _), .parameter phy parameter => some ((table.get phy).get parameter)
  | .act (.configure _ channels _), .channels => some channels
  | .act (.configure _ _ mode), .mode => some mode
  | .load profile, .parameter phy parameter => some ((profile.table.get phy).get parameter)
  | .load profile, .channels => some profile.channels
  | .load profile, .mode => some profile.mode
  | _, _ => none

/-- What an episode has written to a slot. -/
def Episode.written? (slot : Slot) (episode : Episode τ) : Option slot.Value :=
  if episode.outcome = .done () then episode.use.writes? slot else none

/-- What was written to a slot last among episodes. -/
def lastWritten? (slot : Slot) (episodes : List (Episode τ)) : Option slot.Value :=
  (episodes.filterMap (Episode.written? slot)).getLast?

/-! ## One use -/

section Uses

variable [Transport τ]

theorem Use.writes?_of_quiet
    {use : Use}
    (quiet : use.configures = false)
    (slot : Slot) :
    use.writes? slot = none := by
  cases use with
  | act action =>
      cases action with
      | setParameter index parameter value => cases quiet
      | setChannels channels => cases quiet
      | setMode mode => cases quiet
      | configure table channels mode => cases quiet
      | send parameter value channel => cases slot <;> rfl
      | select index => cases slot <;> rfl
      | selectPhy target => cases slot <;> rfl
      | switch => cases slot <;> rfl
  | load profile => cases quiet
  | parameters index => cases slot <;> rfl
  | plan target => cases slot <;> rfl
  | look => cases slot <;> rfl

/-- A parameter is written where its PHY and its name are given, and nowhere else. -/
theorem Slot.read_setParameter
    (slot : Slot)
    (state : ControllerState)
    {index : Nat}
    {phy : Phy}
    (found : Phy.ofIndex? index = some phy)
    (parameter : Parameter)
    (value : Binary64) :
    slot.read (state.setParameter phy parameter value) =
      ((Use.act (.setParameter index parameter value)).writes? slot).getD (slot.read state) := by
  cases slot with
  | parameter other which =>
      obtain rfl := Phy.index_of_ofIndex? found
      simp only [read, ControllerState.setParameter, PerPhy.get_set, Use.writes?, Phy.index_inj]
      by_cases samePhy : other = phy
      · by_cases sameParameter : which = parameter <;> simp [samePhy, sameParameter]
      · simp [samePhy]
  | channels => rfl
  | mode => rfl

/-- A use leaves a slot with what it has written there, or as it was. -/
theorem Slot.read_run (slot : Slot) (controller : Controller τ) (use : Use) :
    slot.read (use.run controller).state.state =
      (Episode.written? slot ⟨controller, use, (use.run controller).outcome,
        (use.run controller).state⟩).getD (slot.read controller.state) := by
  by_cases quiet : use.configures = false
  · obtain ⟨active, left⟩ := exists_active_run controller quiet
    simp [Episode.written?, Use.writes?_of_quiet quiet, left, read_active]
  · cases use with
    | act action =>
        cases action with
        | setParameter index parameter value =>
            cases found : Phy.ofIndex? index with
            | none =>
                have refused : Phy.ofIndex index = .error (.invalidIndex index) := by
                  simp [Phy.ofIndex, found]
                simp [Episode.written?, Use.run, Action.run, setter_eq, Controller.setParameter,
                  refused]
            | some phy =>
                have accepted : Phy.ofIndex index = .ok phy := by simp [Phy.ofIndex, found]
                have written := slot.read_setParameter controller.state found parameter value
                simpa [Episode.written?, Use.run, Action.run, setter_eq, Controller.setParameter,
                  accepted, modifyState] using written
        | setChannels channels => cases slot <;> rfl
        | setMode mode => cases slot <;> rfl
        | configure table channels mode => cases slot <;> rfl
        | send parameter value channel => exact absurd rfl quiet
        | select index => exact absurd rfl quiet
        | selectPhy target => exact absurd rfl quiet
        | switch => exact absurd rfl quiet
    | load profile => cases slot <;> rfl
    | parameters index => exact absurd rfl quiet
    | plan target => exact absurd rfl quiet
    | look => exact absurd rfl quiet

/-! ## Histories -/

/-- Behind a history, a slot holds what was written to it last, or what it held before. -/
theorem Slot.read_afterUses (slot : Slot) (controller : Controller τ) (uses : List Use) :
    slot.read (controller.afterUses uses).state =
      (lastWritten? slot (controller.episodes uses)).getD (slot.read controller.state) :=
  Controller.read_afterUses slot.read_run controller uses

end Uses

/-- The slots are all settings of a state. -/
theorem Slot.settings_eq
    {first second : ControllerState}
    (same : ∀ slot : Slot, slot.read first = slot.read second) :
    first.table = second.table ∧ first.channels = second.channels ∧ first.mode = second.mode := by
  have sets : ∀ phy, first.table.get phy = second.table.get phy :=
    fun phy => PerParameter.ext_get fun which => same (.parameter phy which)
  have tables : first.table = second.table := by
    rw [PerPhy.mk.injEq]
    exact ⟨sets .phy0, sets .phy1⟩
  exact ⟨tables, same .channels, same .mode⟩

/-- Behind every history of uses, each parameter of each PHY, the channels and the tuning mode
are what was last written to them by a use that succeeded, or what they were before. So two
histories over equal settings, in which the last writes are the same, leave equal settings and
equal plans, in whatever order they write, whatever else they contain, and even over different
transports. -/
theorem settings_hold_last_writes
    [Transport σ]
    [Transport τ]
    (first : Controller σ)
    (second : Controller τ)
    (uses others : List Use) :
    (∀ slot : Slot, slot.read (first.afterUses uses).state =
        (lastWritten? slot (first.episodes uses)).getD (slot.read first.state)) ∧
      ((∀ slot : Slot, slot.read first.state = slot.read second.state) →
        (∀ slot, lastWritten? slot (first.episodes uses) =
          lastWritten? slot (second.episodes others)) →
        (first.afterUses uses).state.table = (second.afterUses others).state.table ∧
          (first.afterUses uses).state.channels = (second.afterUses others).state.channels ∧
          (first.afterUses uses).state.mode = (second.afterUses others).state.mode ∧
          ∀ target, (first.afterUses uses).state.plan target =
            (second.afterUses others).state.plan target) := by
  refine ⟨fun slot => slot.read_afterUses first uses, fun started written => ?_⟩
  have same : ∀ slot : Slot, slot.read (first.afterUses uses).state =
      slot.read (second.afterUses others).state := by
    intro slot
    rw [slot.read_afterUses, slot.read_afterUses, written, started]
  obtain ⟨tables, channels, modes⟩ := Slot.settings_eq same
  refine ⟨tables, channels, modes, fun target => ?_⟩
  rw [ControllerState.plan, ControllerState.plan, tables, channels, modes]

/-- A fresh controller whose transport follows rules. -/
def ruled (rules : FaultRules) : Controller Scripted :=
  fresh "http://flowgraph" ⟨.ofFn fun role => some role.key⟩ ⟨.error .crash, rules, 0⟩

/-- A history with an overwritten gain, a number that is refused and a selection that breaks down
writes the same as one in another order with a switch that succeeds. -/
theorem settings_hold_last_writes_disturbed :
    let first := ruled ⟨[(2, .crash)], []⟩
    let second := ruled .none
    let uses : List Use :=
      [.act (.setParameter 0 .rxGain (.ofNat 1)), .act (.select 0),
        .act (.setParameter 2 .rxGain (.ofNat 9)), .act (.setParameter 0 .rxGain (.ofNat 40)),
        .act (.setChannels ⟨1, 2⟩)]
    let others : List Use :=
      [.act (.setChannels ⟨1, 2⟩), .act .switch, .act (.setParameter 0 .rxGain (.ofNat 40))]
    (∀ slot, lastWritten? slot (first.episodes uses) = lastWritten? slot (second.episodes others)) ∧
      (first.afterUses uses).state.table = (second.afterUses others).state.table ∧
      (first.afterUses uses).state.channels = (second.afterUses others).state.channels ∧
      (first.afterUses uses).state.mode = (second.afterUses others).state.mode ∧
      (first.afterUses uses).state.plan .phy0 = (second.afterUses others).state.plan .phy0 ∧
      (first.afterUses uses).state.active ≠ (second.afterUses others).state.active := by
  intro first second uses others
  have written : ∀ slot, lastWritten? slot (first.episodes uses) =
      lastWritten? slot (second.episodes others) := by
    intro slot
    cases slot with
    | parameter phy which => cases phy <;> cases which <;> decide +kernel
    | channels => decide +kernel
    | mode => decide +kernel
  obtain ⟨-, coincide⟩ := settings_hold_last_writes first second uses others
  obtain ⟨tables, channels, modes, plans⟩ := coincide (fun _ => rfl) written
  exact ⟨written, tables, channels, modes, plans .phy0, by decide +kernel⟩

end Controller
end DualPhy
