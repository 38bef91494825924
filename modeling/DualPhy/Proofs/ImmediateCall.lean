import DualPhy.CommandLine.Run
import DualPhy.Proofs.Flowgraph
import DualPhy.Proofs.Guidance

/-!
# What is sent at once

A parameter can be sent at once, or be put into the state and sent by the next selection. Both
ways write the same body to the same address: the plan of the selection has exactly one call for
the operation of the parameter, and that is the call that is sent at once. Where the operation has
no address, both fail with the same error. What is sent at once is at most that one call, and it
leaves the state as it is.
-/

namespace DualPhy

namespace Immediate

/-- The channels with a channel in the place that a parameter reads. -/
def assignChannel (parameter : Immediate) (channel : UInt32) (channels : Channels) : Channels :=
  match parameter with
  | .rxCenterFrequency | .rxFrequencyOffset => { channels with rx := channel }
  | .txCenterFrequency | .txFrequencyOffset => { channels with tx := channel }
  | _ => channels

@[simp] theorem assignChannel_assignChannel
    (parameter : Immediate)
    (channel : UInt32)
    (channels : Channels) :
    parameter.assignChannel channel (parameter.assignChannel channel channels) =
      parameter.assignChannel channel channels := by
  cases parameter <;> rfl

/-- The command line finds a parameter under its name. -/
theorem ofName?_name (parameter : Immediate) : ofName? parameter.name = some parameter := by
  cases parameter <;> decide

end Immediate

/-! ## The step of a plan -/

namespace ControllerState

/-- A plan with the operation of a parameter has the call that sends it as the state holds it. -/
theorem call_mem_plan
    {state : ControllerState}
    {target : Phy}
    {parameter : Immediate}
    {value : Binary64}
    {channel : UInt32}
    (planned : parameter.operation ∈ (state.plan target).map Call.operation)
    (held : (state.table.get target).get parameter.tableParameter = value)
    (assigned : parameter.assignChannel channel state.channels = state.channels) :
    parameter.call value channel ∈ state.plan target := by
  obtain ⟨active, mode, ⟨rx, tx⟩, table⟩ := state
  subst held
  cases mode <;> cases parameter <;>
    simp_all [plan, routing, levels, tuning, Immediate.call, Immediate.operation,
      Immediate.perChannel, Immediate.tableParameter, Immediate.assignChannel, PerParameter.get]

/-- Every parameter has a mode in which the plans have its operation. -/
theorem exists_mode_planned (parameter : Immediate) :
    ∃ mode, ∀ (state : ControllerState) target, state.mode = mode →
      parameter.operation ∈ (state.plan target).map Call.operation := by
  refine ⟨if parameter.perChannel then .centerOffset else .direct, ?_⟩
  rintro ⟨active, mode, channels, table⟩ target rfl
  cases parameter <;>
    simp [plan, routing, levels, tuning, Immediate.operation, Immediate.perChannel]

/-- A plan has one call for an operation. -/
theorem plan_position_unique
    {state : ControllerState}
    {target : Phy}
    {first second : Nat}
    {call other : Call}
    (found : (state.plan target)[first]? = some call)
    (alsoFound : (state.plan target)[second]? = some other)
    (same : other.operation = call.operation) :
    second = first := by
  have operations := state.nodup_plan target
  have inside : second < ((state.plan target).map Call.operation).length := by
    rw [List.length_map]
    exact (List.getElem?_eq_some_iff.mp alsoFound).1
  apply (List.getElem?_inj inside operations).mp
  rw [List.getElem?_map, List.getElem?_map, found, alsoFound, Option.map_some, Option.map_some,
    same]

end ControllerState

namespace Controller

section Plans

variable [Transport τ]

/-- A part of a plan that is accepted ends in front of the call at which the plan stops. -/
theorem StopsAt.le_of_accepts
    {controller : Controller τ}
    {plan : List Call}
    {stop position : Nat}
    {call : Call}
    (stops : controller.StopsAt plan stop call)
    (accepts : controller.Accepts (plan.take position)) :
    position ≤ stop := by
  by_contra beyond
  have earlier : stop < position := Nat.lt_of_not_le beyond
  have accepted := accepts stop call (by rw [List.getElem?_take_of_lt earlier, stops.found])
  rw [List.take_take, Nat.min_eq_left (Nat.le_of_lt earlier)] at accepted
  exact stops.refused accepted

/-- Of a plan that is accepted, every call is posted. -/
theorem Accepts.length_posts
    {controller : Controller τ}
    {plan : List Call}
    (accepts : controller.Accepts plan) :
    (controller.endpoints.posts plan).length = plan.length :=
  (EndpointTable.delivers_posts fun _ member =>
    Option.isSome_iff_exists.mpr (accepts.exists_url member)).length_eq.symm

end Plans

section Selections

variable [Transport σ]

/-- Behind calls that are accepted, the next call of a plan is made, whatever it ends with. -/
theorem exists_posted_selectPhy
    {controller : Controller (Recorded σ)}
    {target : Phy}
    {position : Nat}
    (inside : position < (controller.state.plan target).length)
    (accepts : controller.Accepts ((controller.state.plan target).take position)) :
    ∃ made, position < made ∧ (selectPhy target controller).state.posted =
      controller.posted ++
        controller.endpoints.posts ((controller.state.plan target).take made) := by
  rcases accepts_or_stopsAt controller (controller.state.plan target) with
    whole | ⟨stop, call, stops⟩
  · refine ⟨(controller.state.plan target).length, inside, ?_⟩
    rw [whole.selectPhy.2, List.take_length]
    exact posted_asked controller _
  · refine ⟨stop + 1, Nat.lt_succ_of_le (stops.le_of_accepts accepts), ?_⟩
    rw [stops.selectPhy.2]
    exact posted_asked controller _

/-- A selection posts a call of its plan that has an address if the calls before it are
accepted, and as many requests before it. -/
theorem getElem?_posted_selectPhy
    {controller : Controller (Recorded σ)}
    {target : Phy}
    {position : Nat}
    {call : Call}
    {url : String}
    (found : (controller.state.plan target)[position]? = some call)
    (address : controller.endpoints.url? call.operation = some url)
    (accepts : controller.Accepts ((controller.state.plan target).take position)) :
    (selectPhy target controller).state.posted[controller.posted.length + position]? =
      some (call.post url) := by
  obtain ⟨inside, stands⟩ := List.getElem?_eq_some_iff.mp found
  obtain ⟨made, beyond, posted⟩ := exists_posted_selectPhy inside accepts
  have parted : (controller.state.plan target).take made =
      (controller.state.plan target).take position ++
        call :: ((controller.state.plan target).take made).drop (position + 1) := by
    have within : position < ((controller.state.plan target).take made).length := by
      rw [List.length_take]
      exact Nat.lt_min.mpr ⟨beyond, inside⟩
    have cut := List.take_append_drop position ((controller.state.plan target).take made)
    rw [List.take_take, Nat.min_eq_left (Nat.le_of_lt beyond), List.drop_eq_getElem_cons within,
      List.getElem_take, stands] at cut
    exact cut.symm
  have before : (controller.endpoints.posts
      ((controller.state.plan target).take position)).length = position := by
    rw [accepts.length_posts, List.length_take, Nat.min_eq_left (Nat.le_of_lt inside)]
  rw [posted, parted, EndpointTable.posts_append, EndpointTable.posts_cons_of_some address,
    List.getElem?_append_right (Nat.le_add_right _ _), Nat.add_sub_cancel_left,
    List.getElem?_append_right (Nat.le_of_eq before), before, Nat.sub_self]
  rfl

/-- A selection fails at a call of its plan that has no address if the calls before it are
accepted. -/
theorem outcome_selectPhy_of_unaddressed
    {controller : Controller (Recorded σ)}
    {target : Phy}
    {position : Nat}
    {call : Call}
    (found : (controller.state.plan target)[position]? = some call)
    (absent : controller.endpoints.url? call.operation = none)
    (accepts : controller.Accepts ((controller.state.plan target).take position)) :
    (selectPhy target controller).outcome =
      .failed (.transportFailure call.operation (.unresolved call.operation.role)) := by
  have stops : controller.StopsAt (controller.state.plan target) position call :=
    ⟨found, accepts, by rw [reply_of_unaddressed absent]; nofun⟩
  rw [stops.selectPhy.1, reply_of_unaddressed absent]
  rfl

end Selections

/-! ## Sending at once and putting into the state -/

section Calls

variable [Transport τ]

/-- The controller behind the settings that put a parameter into the state for a selection: its
value, its channel and the mode of the selection. -/
def prepared
    (controller : Controller τ)
    (target : Phy)
    (parameter : Immediate)
    (value : Binary64)
    (channel : UInt32)
    (mode : TuningMode) :
    Controller τ :=
  controller.after
    [.setParameter target.index parameter.tableParameter value,
      .setChannels (parameter.assignChannel channel controller.state.channels),
      .setMode mode]

/-- Settings change the state only. -/
theorem prepared_eq
    (controller : Controller τ)
    (target : Phy)
    (parameter : Immediate)
    (value : Binary64)
    (channel : UInt32)
    (mode : TuningMode) :
    controller.prepared target parameter value channel mode =
      { controller with
        state :=
          { controller.state.setParameter target parameter.tableParameter value with
            channels := parameter.assignChannel channel controller.state.channels
            mode := mode } } := by
  simp only [prepared, after, Action.run, setter_eq]
  cases target <;> rfl

/-- The command that sends a parameter at once ends as the operation does, and leaves the same
controller. -/
theorem runTune_eq_send
    (controller : Controller τ)
    (bars : Bars)
    (tuning : CommandLine.Tuning) :
    let tuned := CommandLine.runTune tuning (controller.tracked bars)
    let sent := send tuning.parameter tuning.value tuning.channel controller
    tuned.outcome = sent.outcome ∧ tuned.state.untracked = sent.state := by
  intro tuned sent
  let line := tuning.parameter.identifier ++ " = " ++ tuning.value.text ++ " sent"
  have reflects : Reflects bars tuned
      ((issue (tuning.parameter.call tuning.value tuning.channel) >>= fun _ =>
        Act.log .program .info line) controller) :=
    mirrors_tuneWithBar ((mirrors_issue _).bind fun _ => mirrors_log _ _ line) _ bars controller
  obtain ⟨outcome, state⟩ := Act.bind_log_eq
    (issue (tuning.parameter.call tuning.value tuning.channel)) .program .info line controller
  refine ⟨reflects.outcome.trans outcome, ?_⟩
  rw [reflects.state, untracked_tracked]
  exact state

end Calls

/-- What a parameter that is sent at once has in common with a selection behind which the state
holds it. The plan of the selection has its call at a position. -/
structure WritesAlike
    [Transport σ]
    (controller deferred : Controller (Recorded σ))
    (target : Phy)
    (parameter : Immediate)
    (value : Binary64)
    (channel : UInt32)
    (position : Nat) : Prop where
  /-- The call stands there. -/
  found : (deferred.state.plan target)[position]? = some (parameter.call value channel)
  /-- No other call of the plan is for the operation. -/
  only : ∀ other call, (deferred.state.plan target)[other]? = some call →
    call.operation = parameter.operation → other = position
  /-- If the operation has an address, then this one request is posted at once, and the selection
  posts the same one if the calls before it are accepted, as many as stand before it. -/
  posts : ∀ url, controller.endpoints.url? parameter.operation = some url →
    (send parameter value channel controller).state.posted =
        controller.posted ++ [(parameter.call value channel).post url] ∧
      (deferred.Accepts ((deferred.state.plan target).take position) →
        (select target.index deferred).state.posted[controller.posted.length + position]? =
          some ((parameter.call value channel).post url))
  /-- If the operation has no address, then nothing is posted at once. It fails for that reason,
  and so does the selection if the calls before it are accepted. -/
  fails : controller.endpoints.url? parameter.operation = none →
    let failure := ControllerError.transportFailure parameter.operation
      (.unresolved parameter.operation.role)
    (send parameter value channel controller).state.posted = controller.posted ∧
      (send parameter value channel controller).outcome = .failed failure ∧
      (deferred.Accepts ((deferred.state.plan target).take position) →
        (select target.index deferred).outcome = .failed failure)
  /-- Only the transport has changed behind it. -/
  unchanged : (send parameter value channel controller).state =
    { controller with transport := (send parameter value channel controller).state.transport }
  /-- The command for the parameter of that name, whatever bars are open, ends in the same way and
  leaves the same controller. -/
  commanded : ∃ named, Immediate.ofName? parameter.name = some named ∧ ∀ bars,
    let tuned := CommandLine.runTune ⟨named, value, channel⟩ (controller.tracked bars)
    tuned.outcome = (send parameter value channel controller).outcome ∧
      tuned.state.untracked = (send parameter value channel controller).state

theorem exists_writesAlike
    [Transport σ]
    (controller : Controller (Recorded σ))
    {target : Phy}
    {parameter : Immediate}
    (value : Binary64)
    (channel : UInt32)
    {mode : TuningMode}
    (planned : parameter.operation ∈
      ((controller.prepared target parameter value channel mode).state.plan target).map
        Call.operation) :
    ∃ position, WritesAlike controller (controller.prepared target parameter value channel mode)
      target parameter value channel position := by
  have settled := prepared_eq controller target parameter value channel mode
  generalize controller.prepared target parameter value channel mode = deferred at *
  have endpoints : deferred.endpoints = controller.endpoints := by rw [settled]
  have posted : deferred.posted = controller.posted := by rw [settled]; rfl
  have member : parameter.call value channel ∈ deferred.state.plan target := by
    refine ControllerState.call_mem_plan planned ?held ?assigned
    case held => simp [settled, ControllerState.setParameter]
    case assigned => simp [settled]
  obtain ⟨position, found⟩ := List.mem_iff_getElem?.mp member
  have selects : Action.target? deferred.state (.select target.index) = some target :=
    Phy.ofIndex?_index target
  obtain ⟨outcome, state⟩ : (select target.index deferred).outcome = _ ∧
      (select target.index deferred).state = _ := Action.run_eq_selectPhy selects
  refine ⟨position, found, ?only, ?posts, ?fails, ?unchanged, ?commanded⟩
  case only =>
    intro other call alsoFound same
    exact ControllerState.plan_position_unique found alsoFound same
  case posts =>
    intro url address
    constructor
    · rw [send, state_issue, posted_asked, EndpointTable.posts_cons_of_some address]
      rfl
    · intro accepts
      rw [state, ← posted]
      exact getElem?_posted_selectPhy found (endpoints ▸ address) accepts
  case fails =>
    intro absent failure
    refine ⟨?_, ?_, fun accepts => ?_⟩
    · rw [send, state_issue, posted_asked, EndpointTable.posts_cons_of_none absent]
      exact List.append_nil _
    · rw [send, outcome_issue, reply_of_unaddressed absent]
      rfl
    · rw [outcome]
      exact outcome_selectPhy_of_unaddressed found (endpoints ▸ absent) accepts
  case unchanged =>
    rw [send, state_issue]
    rfl
  case commanded =>
    exact ⟨parameter, parameter.ofName?_name, fun bars =>
      runTune_eq_send controller bars ⟨parameter, value, channel⟩⟩

/-- A parameter is sent at once as a selection sends it that finds it in the state, in every tuning
mode in which the plan has its operation. There is such a mode for every parameter. -/
theorem send_writes_as_selected
    [Transport σ]
    (controller : Controller (Recorded σ))
    (target : Phy)
    (parameter : Immediate)
    (value : Binary64)
    (channel : UInt32) :
    let deferred (mode : TuningMode) := controller.prepared target parameter value channel mode
    let Planned (mode : TuningMode) :=
      parameter.operation ∈ ((deferred mode).state.plan target).map Call.operation
    (∃ mode, Planned mode) ∧
      ∀ mode, Planned mode →
        ∃ position, WritesAlike controller (deferred mode) target parameter value channel
          position := by
  intro deferred Planned
  obtain ⟨mode, planned⟩ := ControllerState.exists_mode_planned parameter
  have prepared : (deferred mode).state.mode = mode := by
    simp only [deferred, prepared_eq]
  exact ⟨⟨mode, planned _ target prepared⟩, fun mode planned =>
    exists_writesAlike controller value channel planned⟩

/-- A controller that knows the blocks of some roles, over a transport that accepts every
call. -/
def station (roles : List Role) : Controller (Recorded Scripted) :=
  fresh "http://station" ⟨.ofFn fun role => if role ∈ roles then some role.key else none⟩
    (.fresh ⟨.error .crash, .none, 0⟩)

/-- A center frequency for the second channel is posted at once as by the eighth call of a
selection. Without the block of the sink, its gain fails at once as in the sixth call. -/
theorem send_writes_as_selected_station :
    let whole := (station Role.all).prepared .phy1 .rxCenterFrequency (.ofNat 868000000) 1
      .centerOffset
    let mute := (station (Role.all.erase .rfSink)).prepared .phy1 .txGain (.ofNat 20) 0 .direct
    let failure := ControllerError.transportFailure .rfSinkGain (.unresolved .rfSink)
    (∃ request : Post, request.operation = .rfSourceCenterFrequency ∧
      (send .rxCenterFrequency (.ofNat 868000000) 1 (station Role.all)).state.posted = [request] ∧
      (select 1 whole).state.posted[7]? = some request) ∧
    (send .txGain (.ofNat 20) 0 (station (Role.all.erase .rfSink))).outcome = .failed failure ∧
    (select 1 mute).outcome = .failed failure := by
  intro whole mute failure
  have accepting : ∀ roles, Transport.Accepting (station roles).transport := fun _ =>
    Recorded.always (Scripted.accepting _ _)
  obtain ⟨position, wholeAlike⟩ := (send_writes_as_selected (station Role.all) .phy1
    .rxCenterFrequency (.ofNat 868000000) 1).2 .centerOffset (by decide +kernel)
  obtain rfl : 7 = position :=
    wholeAlike.only 7 ⟨.rfSourceCenterFrequency, .channelReal (.ofNat 868000000) 1⟩
      (by decide +kernel) rfl
  obtain ⟨url, address⟩ : ∃ url, (station Role.all).endpoints.url?
      Immediate.rxCenterFrequency.operation = some url := ⟨_, rfl⟩
  obtain ⟨atOnce, selected⟩ := wholeAlike.posts url address
  obtain ⟨position, muteAlike⟩ := (send_writes_as_selected (station (Role.all.erase .rfSink))
    .phy1 .txGain (.ofNat 20) 0).2 .direct (by decide +kernel)
  obtain rfl : 5 = position :=
    muteAlike.only 5 ⟨.rfSinkGain, .real (.ofNat 20)⟩ (by decide +kernel) rfl
  obtain ⟨-, failed, selectionFailed⟩ := muteAlike.fails rfl
  have wholeAddressed : ∀ call ∈ (whole.state.plan .phy1).take 7,
      (whole.endpoints.url? call.operation).isSome := by decide +kernel
  have muteAddressed : ∀ call ∈ (mute.state.plan .phy1).take 5,
      (mute.endpoints.url? call.operation).isSome := by decide +kernel
  have wholeAccepts : whole.Accepts ((whole.state.plan .phy1).take 7) :=
    accepts_of_accepting (accepting _) wholeAddressed
  have muteAccepts : mute.Accepts ((mute.state.plan .phy1).take 5) :=
    accepts_of_accepting (accepting _) muteAddressed
  exact ⟨⟨_, rfl, atOnce, selected wholeAccepts⟩, failed, selectionFailed muteAccepts⟩

end Controller
end DualPhy
