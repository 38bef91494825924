import DualPhy.Proofs.Answers
import DualPhy.Proofs.Matching

/-!
# What a missing block costs

An operation has an address exactly when its role has a block, and every plan calls the block
of every role. So over a transport that accepts every call a selection succeeds exactly when no
role is missing, and otherwise stops at the first call of its plan whose role is. A resolution
that has passed the check for completeness never lets an operation fail as unresolved.
-/

namespace DualPhy

namespace Resolution

theorem isComplete_iff (resolution : Resolution) :
    resolution.isComplete ↔ ∀ role, role ∉ resolution.missing := by
  rw [isComplete, List.isEmpty_iff, List.eq_nil_iff_forall_not_mem]

/-- The check for completeness gives the resolution back, or names the missing roles. -/
theorem requireComplete_eq_ok_iff (resolution checked : Resolution) :
    resolution.requireComplete = .ok checked ↔
      resolution.isComplete ∧ checked = resolution := by
  unfold requireComplete
  split
  next complete => simp [complete, eq_comm]
  next incomplete => simp [incomplete]

end Resolution

/-- Under a profile, a role is missing if no block has the instance name for it. -/
theorem Profile.mem_missing_iff (profile : Profile) (blocks : List Block) (role : Role) :
    role ∈ (Resolution.resolve blocks profile.matchers).missing ↔
      ∀ block ∈ blocks, block.instanceName ≠ profile.roles.get role := by
  rw [Resolution.mem_missing_resolve_iff]
  simp [matchers, Matcher.ofNames, Matcher.instanceName, Role.mem_all]

namespace EndpointTable

/-- An operation has an address exactly when its role is not missing. -/
theorem isSome_url?_build_iff
    (base : String)
    (resolution : Resolution)
    (operation : Operation) :
    ((build base resolution).url? operation).isSome ↔
      operation.role ∉ resolution.missing := by
  rw [Resolution.mem_missing_iff, build, Option.isSome_map, Option.isSome_iff_ne_none]

/-- A call that has no address is not requested. -/
theorem posts_concat_of_none
    {table : EndpointTable}
    {call : Call}
    (unaddressed : table.url? call.operation = none)
    (calls : List Call) :
    table.posts (calls ++ [call]) = table.posts calls := by
  rw [posts_append, posts_cons_of_none unaddressed]
  exact List.append_nil _

end EndpointTable

/-- Every plan calls the block of every role. -/
theorem ControllerState.exists_mem_plan
    (state : ControllerState)
    (target : Phy)
    (role : Role) :
    ∃ call ∈ state.plan target, call.operation.role = role := by
  cases role with
  | sourceSelector =>
      exact ⟨⟨.sourceSelectorIndex, .index target.selectorIndex⟩, by simp [plan, routing], rfl⟩
  | sinkSelector =>
      exact ⟨⟨.sinkSelectorIndex, .index target.selectorIndex⟩, by simp [plan, routing], rfl⟩
  | messageSelector =>
      exact ⟨⟨.messageSelectorIndex, .index target.selectorIndex⟩, by simp [plan, routing], rfl⟩
  | rfSource =>
      exact ⟨⟨.rfSourceGain, .real (state.table.get target).rxGain⟩,
        by simp [plan, levels], rfl⟩
  | rfSink =>
      exact ⟨⟨.rfSinkGain, .real (state.table.get target).txGain⟩,
        by simp [plan, levels], rfl⟩

namespace Controller

section Plans

variable [Transport τ]

/-- A transport that accepts every call stops a plan at its first call without an address. -/
theorem stopsAt_of_accepting
    {controller : Controller τ}
    (accepting : Transport.Accepting controller.transport)
    {front : List Call}
    {call : Call}
    (addressed : ∀ earlier ∈ front, (controller.endpoints.url? earlier.operation).isSome)
    (unaddressed : controller.endpoints.url? call.operation = none)
    (back : List Call) :
    controller.StopsAt (front ++ call :: back) front.length call where
  found := by simp
  before := by
    rw [List.take_left]
    exact accepts_of_accepting accepting addressed
  refused := by
    rw [reply_of_unaddressed unaddressed]
    exact nofun

/-- Over a transport that itself calls no block unresolved, a use fails as unresolved only for
an operation that has no address. -/
theorem run_ne_unresolved
    {controller : Controller τ}
    (honest : Transport.NeverUnresolved controller.transport)
    (addressed : ∀ operation, (controller.endpoints.url? operation).isSome)
    (use : Use)
    (operation : Operation)
    (role : Role) :
    (use.run controller).outcome ≠ .failed (.transportFailure operation (.unresolved role)) := by
  rcases (use.effect_run controller).ends with done | ⟨index, refused⟩ | ⟨earlier, call, ended⟩
  · simp [done]
  · simp [refused]
  · intro unresolved
    have answered := reply_of_always honest (addressed call.operation) earlier
    rw [ended] at unresolved
    cases reply : controller.reply earlier call with
    | done value => simp [reply] at unresolved
    | failed error =>
        rw [reply, Outcome.mapError_failed] at unresolved
        cases unresolved
        exact answered role reply
    | crashed => simp [reply] at unresolved

/-- No use in a history fails as unresolved where every operation has an address. -/
theorem episodes_ne_unresolved
    {controller : Controller τ}
    (honest : Transport.NeverUnresolved controller.transport)
    (addressed : ∀ operation, (controller.endpoints.url? operation).isSome)
    (uses : List Use)
    (operation : Operation)
    (role : Role) :
    ∀ episode ∈ controller.episodes uses,
      episode.outcome ≠ .failed (.transportFailure operation (.unresolved role)) := by
  induction uses generalizing controller with
  | nil => exact fun _ member => absurd member List.not_mem_nil
  | cons use uses inductionHypothesis =>
      rw [episodes, List.forall_mem_cons]
      refine ⟨run_ne_unresolved honest addressed use operation role, ?_⟩
      have settled : (use.run controller).state.endpoints = controller.endpoints :=
        congrArg (fun site => site.2.1) (use.effect_run controller).site
      exact inductionHypothesis (always_run honest use) (by rwa [settled])

end Plans

/-- A selection fails for want of a block: it sends the calls of its plan in front of the first
one whose role is missing, and fails with that one. -/
structure StopsShort
    (missing : List Role)
    (before : Controller (Recorded σ))
    (plan front : List Call)
    (call : Call)
    (outcome : Outcome ControllerError Unit)
    (after : Controller (Recorded σ)) : Prop where
  /-- The call stands behind those in front. -/
  found : ∃ back, plan = front ++ call :: back
  /-- The roles of the calls in front all have a block. -/
  present : ∀ earlier ∈ front, earlier.operation.role ∉ missing
  /-- Its own role is missing. -/
  absent : call.operation.role ∈ missing
  /-- The selection fails with its operation and role. -/
  failed : outcome =
    .failed (.transportFailure call.operation (.unresolved call.operation.role))
  /-- Exactly the calls in front were sent. -/
  sent : ∃ posts, after.posted = before.posted ++ posts ∧
    before.endpoints.Delivers front posts

section Selections

variable [Transport σ]

/-- A selection over a transport that accepts every call succeeds if no role is missing. -/
theorem selectPhy_of_complete
    {controller : Controller (Recorded σ)}
    (accepting : Transport.Accepting controller.transport)
    (addressed : ∀ operation, (controller.endpoints.url? operation).isSome)
    (target : Phy) :
    (selectPhy target controller).outcome = .done () :=
  (accepts_of_accepting accepting fun call _ => addressed call.operation).selectPhy.1

/-- Where a role is missing, it stops short. -/
theorem selectPhy_stopsShort
    {controller : Controller (Recorded σ)}
    (accepting : Transport.Accepting controller.transport)
    {missing : List Role}
    (addressed_iff : ∀ operation,
      (controller.endpoints.url? operation).isSome ↔ operation.role ∉ missing)
    {role : Role}
    (absent : role ∈ missing)
    (target : Phy) :
    ∃ front call, StopsShort missing controller (controller.state.plan target) front call
      (selectPhy target controller).outcome (selectPhy target controller).state := by
  -- The plan calls the missing block, so there is a first call whose role is missing.
  have some_missing : ((controller.state.plan target).find? fun call =>
      decide (call.operation.role ∈ missing)).isSome := by
    obtain ⟨call, member, rfl⟩ := controller.state.exists_mem_plan target role
    exact List.find?_isSome.mpr ⟨call, member, by simpa using absent⟩
  obtain ⟨call, first⟩ := Option.isSome_iff_exists.mp some_missing
  obtain ⟨missed, front, back, split, present⟩ := List.find?_eq_some_iff_append.mp first
  have callMissing : call.operation.role ∈ missing := by simpa using missed
  have frontPresent : ∀ earlier ∈ front, earlier.operation.role ∉ missing := by
    intro earlier member
    simpa using present earlier member
  have addressed : ∀ earlier ∈ front,
      (controller.endpoints.url? earlier.operation).isSome :=
    fun earlier member => (addressed_iff _).mpr (frontPresent earlier member)
  have unaddressed : controller.endpoints.url? call.operation = none := by
    simpa [callMissing] using addressed_iff call.operation
  have stops := stopsAt_of_accepting accepting addressed unaddressed back
  rw [← split] at stops
  obtain ⟨outcome, state⟩ := stops.selectPhy
  have reached : (controller.state.plan target).take (front.length + 1) = front ++ [call] := by
    rw [split, List.take_length_add_append]
    rfl
  refine ⟨front, call, ⟨back, split⟩, frontPresent, callMissing, ?_, ?_⟩
  · rw [outcome, reply_of_unaddressed unaddressed, Outcome.mapError_failed]
  · refine ⟨_, ?_, EndpointTable.delivers_posts addressed⟩
    rw [state, posted_asked, reached, EndpointTable.posts_concat_of_none unaddressed]

/-- An operation has an address or its role is missing, and not both. A resolution that passes
the check for completeness never lets an operation fail as unresolved, unless the transport
says so itself. Over a transport that accepts every call from some point on, a selection
succeeds exactly if no role is missing, and otherwise stops at the first call of its plan whose
role is. -/
theorem resolution_decides_selection
    (base : String)
    (blocks : List Block)
    (matchers : List Matcher)
    (transport : Recorded σ)
    (uses : List Use) :
    let resolution := Resolution.resolve blocks matchers
    let reached := (fresh base resolution transport).afterUses uses
    (∀ operation, ((EndpointTable.build base resolution).url? operation).isSome ↔
        operation.role ∉ resolution.missing) ∧
      (∀ checked, resolution.requireComplete = .ok checked →
        Transport.NeverUnresolved transport →
        ∀ operation role, ∀ episode ∈ (fresh base checked transport).episodes uses,
          episode.outcome ≠ .failed (.transportFailure operation (.unresolved role))) ∧
      (Transport.Accepting reached.transport →
        ∀ selection : Action, ∀ target, selection.target? reached.state = some target →
          ((selection.run reached).outcome = .done () ↔ resolution.isComplete) ∧
            (¬ resolution.isComplete →
              ∃ front call, StopsShort resolution.missing reached (reached.state.plan target)
                front call (selection.run reached).outcome (selection.run reached).state)) := by
  intro resolution reached
  have addressed_iff := EndpointTable.isSome_url?_build_iff base resolution
  refine ⟨addressed_iff, ?_, ?_⟩
  · intro checked passed honest operation role
    obtain ⟨complete, rfl⟩ := (resolution.requireComplete_eq_ok_iff checked).mp passed
    have present := resolution.isComplete_iff.mp complete
    exact episodes_ne_unresolved honest
      (fun operation => (addressed_iff operation).mpr (present operation.role)) uses operation role
  · intro accepting selection target targets
    obtain ⟨outcome, state⟩ := Action.run_eq_selectPhy targets
    have settled : reached.endpoints = .build base resolution :=
      endpoints_afterUses (fresh base resolution transport) uses
    rw [← settled] at addressed_iff
    rw [outcome, state]
    by_cases complete : resolution.isComplete
    · have present := resolution.isComplete_iff.mp complete
      have succeeds := selectPhy_of_complete accepting
        (fun operation => (addressed_iff operation).mpr (present operation.role)) target
      exact ⟨iff_of_true succeeds complete, fun incomplete => absurd complete incomplete⟩
    · obtain ⟨role, absent⟩ : ∃ role, role ∈ resolution.missing := by
        simpa [resolution.isComplete_iff] using complete
      obtain ⟨front, call, short⟩ :=
        selectPhy_stopsShort accepting addressed_iff absent target
      refine ⟨iff_of_false ?_ complete, fun _ => ⟨front, call, short⟩⟩
      rw [short.failed]
      exact nofun

end Selections

/-- The blocks for some roles. -/
def blocksFor (roles : List Role) : List Block :=
  roles.map fun role => { id := role.key, instanceName := role.stockInstance, typeName := none }

/-- The roles but for the selector of messages. -/
def speechless : List Role := [.sourceSelector, .sinkSelector, .rfSource, .rfSink]

/-- A transport that turns its second call down. -/
def reluctant : Recorded Scripted := .fresh ⟨.error .crash, ⟨[(2, .status 503)], []⟩, 0⟩

/-- A transport that accepts every call. -/
def willing : Recorded Scripted := .fresh ⟨.error .crash, .none, 0⟩

/-- With a block for every role the check passes, and a selection that is turned down and then
repeated never fails as unresolved. In a flowgraph without a selector of messages, the selection
of a PHY makes the two calls in front of the one to it, and fails with that one. -/
theorem resolution_decides_selection_speechless :
    let complete := Resolution.resolve (blocksFor Role.all) Matcher.stock
    let incomplete := Resolution.resolve (blocksFor speechless) Matcher.stock
    let reached := (fresh "http://flowgraph" incomplete willing).afterUses
      [.act (.send .rxGain (.ofNat 40) 0), .act (.setMode .direct)]
    (complete.requireComplete = .ok complete ∧ Transport.NeverUnresolved reluctant ∧
      ∀ operation role, ∀ episode ∈ (fresh "http://flowgraph" complete reluctant).episodes
          [.act (.selectPhy .phy1), .act .switch],
        episode.outcome ≠ .failed (.transportFailure operation (.unresolved role))) ∧
      Transport.Accepting reached.transport ∧ ¬ incomplete.isComplete ∧
        ∃ front call, StopsShort incomplete.missing reached (reached.state.plan .phy1) front call
          (Action.run (.select 1) reached).outcome (Action.run (.select 1) reached).state := by
  intro complete incomplete reached
  have passed : complete.requireComplete = .ok complete :=
    (complete.requireComplete_eq_ok_iff _).mpr ⟨by decide +kernel, rfl⟩
  have honest : Transport.NeverUnresolved reluctant :=
    Recorded.always (Scripted.always_of_single nofun (fun _ => nofun) _ _ _)
  have accepting : Transport.Accepting willing :=
    Recorded.always (Scripted.accepting _ _)
  have stillAccepting : Transport.Accepting reached.transport :=
    always_afterUses accepting _
  have lacking : ¬ incomplete.isComplete := by decide +kernel
  have whole := (resolution_decides_selection "http://flowgraph" (blocksFor Role.all)
    Matcher.stock reluctant [.act (.selectPhy .phy1), .act .switch]).2.1 _ passed honest
  have cut := (resolution_decides_selection "http://flowgraph" (blocksFor speechless)
    Matcher.stock willing [.act (.send .rxGain (.ofNat 40) 0), .act (.setMode .direct)]).2.2
      stillAccepting (.select 1) .phy1 rfl
  exact ⟨⟨passed, honest, whole⟩, stillAccepting, lacking, cut.2 lacking⟩

end Controller
end DualPhy
