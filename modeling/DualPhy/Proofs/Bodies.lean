import DualPhy.Proofs.Addresses
import Mathlib.Tactic.Tauto

/-!
# The bodies of a plan

What a plan sends: its operations with the bodies of their calls. A body tells the form of its
payload, the truncated number and the channel. So two plans send the same exactly if they are for
the same PHY, in the same tuning mode, and the parameters that the mode needs agree up to
truncation; channels count only where the mode needs them, and nothing else in a state counts.
-/

namespace DualPhy

/-! ## Bodies of calls -/

/-- An integer is determined by its numeral. -/
theorem eq_of_repr_eq {first second : Int} (digits : first.repr.toList = second.repr.toList) :
    first = second := by
  have unsigned : ∀ size rest, Nat.toDigits 10 size ≠ '-' :: rest := fun size rest signed =>
    not_mem_toDigits (by decide) size (signed ▸ List.mem_cons_self)
  cases first with
  | ofNat size =>
      cases second with
      | ofNat otherSize =>
          have sizes : size = otherSize := eq_of_toDigits_eq (by simpa [Int.repr] using digits)
          rw [sizes]
      | negSucc otherSize => exact absurd (by simpa [Int.repr] using digits) (unsigned size _)
  | negSucc size =>
      cases second with
      | ofNat otherSize =>
          exact absurd (by simpa [Int.repr] using digits.symm) (unsigned otherSize _)
      | negSucc otherSize =>
          have sizes : size + 1 = otherSize + 1 :=
            eq_of_toDigits_eq (by simpa [Int.repr] using digits)
          rw [Nat.succ.inj sizes]

/-- What a handler receives: a payload whose number is truncated. -/
inductive Sent
  /-- A frequency, gain or rate. -/
  | real (value : Int)
  /-- A selector index. -/
  | index (value : UInt32)
  /-- A frequency for one channel of the frontend. -/
  | channelReal (value : Int) (channel : UInt32)

namespace Sent

/-- The name of a type, as an object with a single member starts. -/
def opening (name : List Char) : List Char := '\x7b' :: '\x22' :: (name ++ ['\x22'])

/-- The characters of the body. -/
def chars : Sent → List Char
  | .real value => opening ['F', '6', '4'] ++ ':' :: ((toString value).toList ++ ['\x7d'])
  | .index value => opening ['U', '3', '2'] ++ ':' :: ((toString value.toNat).toList ++ ['\x7d'])
  | .channelReal value channel =>
      (opening ['V', 'e', 'c', 'P', 'm', 't'] ++ ':' :: '[' :: opening ['F', '6', '4'] ++
        ':' :: ((toString value).toList ++ '\x7d' :: ',' :: opening ['U', '3', '2'])) ++
        ':' :: ((toString channel.toNat).toList ++ ['\x7d', ']', '\x7d'])

/-- Different things are sent in different bodies. -/
theorem chars_inj {first second : Sent} : first.chars = second.chars ↔ first = second := by
  constructor
  · intro same
    cases first with
    | real value =>
        cases second with
        | real other =>
            have digits := List.append_cancel_right (List.cons.inj (List.append_cancel_left same)).2
            rw [eq_of_repr_eq digits]
        | index other => simp [chars, opening] at same
        | channelReal other channel => simp [chars, opening] at same
    | index value =>
        cases second with
        | real other => simp [chars, opening] at same
        | index other =>
            have digits := List.append_cancel_right (List.cons.inj (List.append_cancel_left same)).2
            have numbers : value.toNat = other.toNat := eq_of_toDigits_eq (by simpa using digits)
            rw [UInt32.toNat.inj numbers]
        | channelReal other channel => simp [chars, opening] at same
    | channelReal value channel =>
        cases second with
        | real other => simp [chars, opening] at same
        | index other => simp [chars, opening] at same
        | channelReal other otherChannel =>
            -- The last colon stands in front of the channel.
            obtain ⟨fronts, backs⟩ := eq_of_append_separator_eq
              (by simpa using not_mem_toDigits (by decide) _)
              (by simpa using not_mem_toDigits (by decide) _) same
            have digits :=
              List.append_cancel_right (List.cons.inj (List.append_cancel_left fronts)).2
            have channels : channel.toNat = otherChannel.toNat :=
              eq_of_toDigits_eq (by simpa using List.append_cancel_right backs)
            rw [eq_of_repr_eq digits, UInt32.toNat.inj channels]
  · rintro rfl
    rfl

end Sent

namespace Payload

/-- What is left of a payload when it is sent. -/
def sent : Payload → Sent
  | .real value => .real value.truncate
  | .index value => .index value
  | .channelReal value channel => .channelReal value.truncate channel

theorem toList_bodyText (payload : Payload) : payload.bodyText.toList = payload.sent.chars := by
  have natural : ∀ number : Nat, (number : Int).repr = number.repr := fun _ => rfl
  cases payload <;>
    simp [bodyText, body, tagged, sent, Sent.chars, Sent.opening, Json.compact,
      Json.compactChars, Json.compactItems, Json.compactMembers, Json.separated,
      Json.stringText, Json.escapeChar, Json.Number.text, natural]

/-- A body tells what is sent, and nothing else. -/
theorem bodyText_inj {first second : Payload} :
    first.bodyText = second.bodyText ↔ first.sent = second.sent := by
  rw [← String.toList_inj, toList_bodyText, toList_bodyText, Sent.chars_inj]

end Payload

/-! ## Plans -/

namespace TuningMode

/-- The parameters that one tuning mode needs and the other does not. -/
def ownParameters : TuningMode → List Parameter
  | .direct => [.rxFrequency, .txFrequency]
  | .centerOffset => [.centerFrequency, .rxFrequencyOffset, .txFrequencyOffset]

/-- The parameters that are needed to put a PHY on air. -/
def parameters (mode : TuningMode) : List Parameter :=
  [.rxGain, .txGain, .sampleRate] ++ mode.ownParameters

end TuningMode

/-- The parts of a plan. -/
inductive PlanPart
  /-- Traffic is routed. -/
  | routing
  /-- Gains and sample rates are set. -/
  | levels
  /-- The frontend is tuned. -/
  | tuning

/-- The parts of the calls of a plan in their order, with a number of calls for tuning. -/
def PlanPart.order (tunings : Nat) : List PlanPart :=
  List.replicate 3 routing ++ List.replicate 4 levels ++ List.replicate tunings tuning

/-- The part of a plan that an operation belongs to. -/
def Operation.part : Operation → PlanPart
  | .sourceSelectorIndex | .sinkSelectorIndex | .messageSelectorIndex => .routing
  | .rfSourceGain | .rfSourceSampleRate | .rfSinkGain | .rfSinkSampleRate => .levels
  | _ => .tuning

namespace ControllerState

/-- The operations of calls with the bodies that they send. -/
def bodies (calls : List Call) : List (Operation × String) :=
  calls.map fun call => (call.operation, call.payload.bodyText)

/-- The number that is sent for a parameter of a PHY. -/
def wire (state : ControllerState) (phy : Phy) (parameter : Parameter) : Int :=
  ((state.table.get phy).get parameter).truncate

/-- Two states agree on all that putting a PHY on air takes from them. -/
structure Agree
    (first : ControllerState)
    (target : Phy)
    (second : ControllerState)
    (other : Phy) : Prop where
  /-- The PHY is the same. -/
  samePhy : target = other
  /-- So is the tuning mode. -/
  sameMode : first.mode = second.mode
  /-- The parameters that are needed are the same numbers when they are sent. -/
  sameNumbers : ∀ parameter ∈ first.mode.parameters,
    first.wire target parameter = second.wire other parameter
  /-- The channels are the same where they are needed. -/
  sameChannels : first.mode = .centerOffset → first.channels = second.channels

theorem bodies_append (front back : List Call) :
    bodies (front ++ back) = bodies front ++ bodies back :=
  List.map_append

theorem length_bodies (calls : List Call) : (bodies calls).length = calls.length :=
  List.length_map _

theorem bodies_routing_inj {first second : Phy} :
    bodies (routing first) = bodies (routing second) ↔ first = second := by
  cases first <;> cases second <;>
    simp [bodies, routing, Payload.bodyText_inj, Payload.sent, Phy.selectorIndex]

theorem bodies_levels_eq_iff {first second : ParameterSet} :
    bodies (levels first) = bodies (levels second) ↔
      ∀ parameter ∈ [Parameter.rxGain, .txGain, .sampleRate],
        (first.get parameter).truncate = (second.get parameter).truncate := by
  simp [bodies, levels, Payload.bodyText_inj, Payload.sent, PerParameter.get]

theorem bodies_tuning_eq_iff
    {mode otherMode : TuningMode}
    {channels otherChannels : Channels}
    {first second : ParameterSet} :
    bodies (tuning mode channels first) = bodies (tuning otherMode otherChannels second) ↔
      mode = otherMode ∧
        (∀ parameter ∈ mode.ownParameters,
          (first.get parameter).truncate = (second.get parameter).truncate) ∧
        (mode = .centerOffset → channels = otherChannels) := by
  obtain ⟨rx, tx⟩ := channels
  obtain ⟨otherRx, otherTx⟩ := otherChannels
  cases mode <;> cases otherMode <;>
    simp [bodies, tuning, Payload.bodyText_inj, Payload.sent, PerParameter.get,
      TuningMode.ownParameters]
  case centerOffset.centerOffset =>
    tauto

/-- Plans send the same exactly if they agree on what they need. -/
theorem bodies_plan_eq_iff {first second : ControllerState} {target other : Phy} :
    bodies (first.plan target) = bodies (second.plan other) ↔ first.Agree target second other := by
  simp only [plan, bodies_append]
  constructor
  · intro same
    have frontLength :
        (bodies (routing target) ++ bodies (levels (first.table.get target))).length =
          (bodies (routing other) ++ bodies (levels (second.table.get other))).length := by
      simp [length_bodies, routing, levels]
    obtain ⟨front, tuned⟩ := List.append_inj same frontLength
    obtain ⟨routed, levelled⟩ := List.append_inj front (by simp [length_bodies, routing])
    obtain ⟨sameMode, ownNumbers, sameChannels⟩ := bodies_tuning_eq_iff.mp tuned
    exact
      { samePhy := bodies_routing_inj.mp routed
        sameMode := sameMode
        sameNumbers := List.forall_mem_append.mpr ⟨bodies_levels_eq_iff.mp levelled, ownNumbers⟩
        sameChannels := sameChannels }
  · rintro ⟨samePhy, sameMode, sameNumbers, sameChannels⟩
    obtain ⟨levelNumbers, ownNumbers⟩ := List.forall_mem_append.mp sameNumbers
    rw [bodies_routing_inj.mpr samePhy, bodies_levels_eq_iff.mpr levelNumbers,
      bodies_tuning_eq_iff.mpr ⟨sameMode, ownNumbers, sameChannels⟩]

/-! ## What a plan does not depend on -/

/-- A plan takes nothing from a state but the mode, the parameters that it needs, and the channels
where it needs them. -/
theorem plan_congr
    {first second : ControllerState}
    {target : Phy}
    (sameMode : first.mode = second.mode)
    (sameParameters : ∀ parameter ∈ first.mode.parameters,
      (first.table.get target).get parameter = (second.table.get target).get parameter)
    (sameChannels : first.mode = .centerOffset → first.channels = second.channels) :
    first.plan target = second.plan target := by
  obtain ⟨sameLevels, sameOwn⟩ := List.forall_mem_append.mp sameParameters
  have levelled : levels (first.table.get target) = levels (second.table.get target) := by
    simp only [List.forall_mem_cons, PerParameter.get] at sameLevels
    simp [levels, sameLevels]
  have tuned : tuning first.mode first.channels (first.table.get target) =
      tuning second.mode second.channels (second.table.get target) := by
    rw [← sameMode]
    cases mode : first.mode with
    | direct =>
        rw [mode] at sameOwn
        simpa [tuning, TuningMode.ownParameters, PerParameter.get] using sameOwn
    | centerOffset =>
        rw [mode] at sameOwn
        rw [sameChannels mode]
        simpa [tuning, TuningMode.ownParameters, PerParameter.get] using sameOwn
  rw [plan, plan, levelled, tuned]

/-- A parameter of the other PHY or of the other tuning mode is not in the plan. -/
theorem plan_setParameter
    {state : ControllerState}
    {target phy : Phy}
    {parameter : Parameter}
    (idle : phy ≠ target ∨ parameter ∉ state.mode.parameters)
    (value : Binary64) :
    (state.setParameter phy parameter value).plan target = state.plan target := by
  refine plan_congr rfl (fun needed member => ?_) (fun _ => rfl)
  rcases idle with otherPhy | otherParameter
  · simp [setParameter, otherPhy.symm]
  · have other : needed ≠ parameter := fun same => otherParameter (same ▸ member)
    by_cases samePhy : target = phy <;> simp [setParameter, samePhy, other]

/-- Traffic is routed first, then gains and sample rates are set, and tuning comes last. -/
theorem parts_plan (state : ControllerState) (target : Phy) :
    ∃ tunings, (state.plan target).map (fun call => call.operation.part) =
      PlanPart.order tunings := by
  cases mode : state.mode with
  | direct => exact ⟨2, by rw [plan, mode]; rfl⟩
  | centerOffset => exact ⟨4, by rw [plan, mode]; rfl⟩

/-- The operations and bodies of two plans are the same exactly if the plans are for the same PHY
in the same tuning mode, the parameters that this mode needs are the same after truncation, and
so are the channels where they are needed. A plan does not depend on the PHY on air, the
parameters of the other PHY or those of the other mode. It routes, sets levels and tunes in that
order, and has no operation twice. -/
theorem bodies_tell_states_apart
    (first second : ControllerState)
    (target other : Phy) :
    (bodies (first.plan target) = bodies (second.plan other) ↔
        first.Agree target second other) ∧
      (∀ active, ({ first with active }).plan target = first.plan target) ∧
      (∀ channels, first.mode = .direct →
        ({ first with channels }).plan target = first.plan target) ∧
      (∀ phy parameter value, phy ≠ target ∨ parameter ∉ first.mode.parameters →
        (first.setParameter phy parameter value).plan target = first.plan target) ∧
      (∃ tunings, (first.plan target).map (fun call => call.operation.part) =
        PlanPart.order tunings) ∧
      ((first.plan target).map Call.operation).Nodup := by
  refine ⟨bodies_plan_eq_iff, fun active => rfl, fun channels direct => ?_,
    fun phy parameter value idle => plan_setParameter idle value, first.parts_plan target,
    first.nodup_plan target⟩
  refine plan_congr rfl (fun _ _ => rfl) fun offset => ?_
  cases direct.symm.trans offset

/-- The stock state, from which the plan of PHY 0 does not differ by a fraction of its gain, by its
carrier, by a gain of PHY 1 or by the PHY on air. By a whole unit of its gain it does. -/
theorem bodies_tell_states_apart_indifferent :
    let gain : Binary64 := ⟨false, 0x404E733333333333⟩
    let near := initial.setParameter .phy0 .rxGain gain
    let carrier := initial.setParameter .phy0 .rxFrequency gain
    let foreign := initial.setParameter .phy1 .txGain gain
    let onAir := { initial with active := .phy1 }
    let direct := { initial with mode := .direct }
    let raised := initial.setParameter .phy0 .rxGain (.ofNat 61)
    bodies (initial.plan .phy0) = bodies (near.plan .phy0) ∧
      bodies (initial.plan .phy0) ≠ bodies (raised.plan .phy0) ∧
      initial.Agree .phy0 near .phy0 ∧ ¬ initial.Agree .phy0 raised .phy0 ∧
      onAir.plan .phy0 = initial.plan .phy0 ∧
      carrier.plan .phy0 = initial.plan .phy0 ∧
      foreign.plan .phy0 = initial.plan .phy0 ∧
      ({ direct with channels := ⟨7, 7⟩ }).plan .phy0 = direct.plan .phy0 ∧
      ((initial.plan .phy0).map Call.operation).Nodup := by
  intro gain near carrier foreign onAir direct raised
  have close : initial.Agree .phy0 near .phy0 :=
    { samePhy := rfl
      sameMode := rfl
      sameNumbers := by decide +kernel
      sameChannels := fun _ => rfl }
  have apart : ¬ initial.Agree .phy0 raised .phy0 := by
    intro agree
    exact absurd (agree.sameNumbers .rxGain (by decide)) (by decide +kernel)
  obtain ⟨same, onAirs, -, idle, -, nodup⟩ := bodies_tell_states_apart initial near .phy0 .phy0
  obtain ⟨raisedSame, -⟩ := bodies_tell_states_apart initial raised .phy0 .phy0
  obtain ⟨-, -, unused, -⟩ := bodies_tell_states_apart direct direct .phy0 .phy0
  exact ⟨same.mpr close, fun equal => apart (raisedSame.mp equal), close, apart, onAirs .phy1,
    idle .phy0 .rxFrequency gain (.inr (by decide)),
    idle .phy1 .txGain gain (.inl (by decide)), unused ⟨7, 7⟩ rfl, nodup⟩

end ControllerState
end DualPhy
