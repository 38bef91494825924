import DualPhy.Proofs.History
import DualPhy.Transport.Scripted

/-!
# What a flowgraph holds after a selection

A flowgraph remembers, for every handler, the last body that it took. A call that
is accepted is taken; one that is refused may have been taken all the same. The
main statement is that a selection which succeeds settles every handler that its
plan addresses, whatever happened before, and leaves all others alone.
-/

namespace DualPhy

/-- The last body that each handler took, by address. -/
abbrev Handlers := String → Option String

namespace Handlers

/-- The handlers after one of them took a body. -/
def take (handlers : Handlers) (url body : String) : Handlers := fun other =>
  if other = url then some body else handlers other

/-- The handlers after they took the bodies of calls. -/
def takeAll : Handlers → List (String × Call) → Handlers
  | handlers, [] => handlers
  | handlers, (url, call) :: requests =>
      (handlers.take url call.payload.bodyText).takeAll requests

/-- A handler that no call addresses keeps its body. -/
theorem takeAll_of_not_mem
    {handlers : Handlers}
    {requests : List (String × Call)}
    {url : String}
    (absent : url ∉ requests.map Prod.fst) :
    handlers.takeAll requests url = handlers url := by
  induction requests generalizing handlers with
  | nil => rfl
  | cons request requests inductionHypothesis =>
      simp only [List.map_cons, List.mem_cons, not_or] at absent
      rw [takeAll, inductionHypothesis absent.2, take, if_neg absent.1]

/-- With distinct addresses, every handler that is addressed holds its body. -/
theorem takeAll_of_mem
    {handlers : Handlers}
    {requests : List (String × Call)}
    {url : String}
    {call : Call}
    (distinct : (requests.map Prod.fst).Nodup)
    (member : (url, call) ∈ requests) :
    handlers.takeAll requests url = some call.payload.bodyText := by
  induction requests generalizing handlers with
  | nil => simp at member
  | cons request requests inductionHypothesis =>
      obtain ⟨headAbsent, tailDistinct⟩ := List.nodup_cons.mp distinct
      rcases List.mem_cons.mp member with rfl | tailMember
      · rw [takeAll, takeAll_of_not_mem headAbsent, take, if_pos rfl]
      · exact inductionHypothesis tailDistinct tailMember

/-- Taking the same bodies again changes nothing. -/
theorem takeAll_takeAll
    {handlers : Handlers}
    {requests : List (String × Call)}
    (distinct : (requests.map Prod.fst).Nodup) :
    (handlers.takeAll requests).takeAll requests = handlers.takeAll requests := by
  funext url
  by_cases member : url ∈ requests.map Prod.fst
  · obtain ⟨request, present, rfl⟩ := List.mem_map.mp member
    rw [takeAll_of_mem distinct present, takeAll_of_mem distinct present]
  · rw [takeAll_of_not_mem member]

end Handlers

/-! ## The flowgraph as a transport -/

/-- A transport together with what the handlers behind it hold. -/
structure Flowgraph (σ : Type) where
  /-- The transport, which decides how calls are answered. -/
  inner : σ
  /-- What the handlers hold. -/
  handlers : Handlers
  /-- Whether a call is taken although it is refused, by the number of the call. -/
  takesRefused : Nat → Bool
  /-- Number of calls made. -/
  made : Nat

namespace Flowgraph

variable [Transport σ]

/-- Fetch a document. -/
def get (url : String) : Act TransportError (Flowgraph σ) Json :=
  (Transport.get url : Act TransportError σ Json).onPart inner fun inner flowgraph =>
    { flowgraph with inner }

/-- Make a call. -/
def call (url : String) (call : Call) : Act TransportError (Flowgraph σ) Unit :=
  fun flowgraph =>
    let report := (Transport.call url call : Act TransportError σ Unit) flowgraph.inner
    let taken := report.outcome = .done () ∨ flowgraph.takesRefused flowgraph.made = true
    ⟨report.outcome,
      { flowgraph with
        inner := report.state
        handlers :=
          if taken then flowgraph.handlers.take url call.payload.bodyText
          else flowgraph.handlers
        made := flowgraph.made + 1 },
      report.events⟩

instance : Transport (Flowgraph σ) where
  get := get
  call := call

/-- A call that is accepted is taken. -/
theorem handlers_call_of_done
    {url : String}
    {call : Call}
    {flowgraph : Flowgraph σ}
    (accepted : (Transport.call url call flowgraph).outcome = .done ()) :
    (Transport.call url call flowgraph).state.handlers =
      flowgraph.handlers.take url call.payload.bodyText := by
  change (Flowgraph.call url call flowgraph).outcome = .done () at accepted
  change (Flowgraph.call url call flowgraph).state.handlers = _
  simp only [Flowgraph.call] at accepted ⊢
  rw [if_pos (.inl accepted)]

end Flowgraph

namespace EndpointTable

/-- Different operations have different addresses. -/
def Distinguishes (table : EndpointTable) (operations : List Operation) : Prop :=
  ∀ first ∈ operations, ∀ second ∈ operations,
    (table.url? first).isSome → table.url? first = table.url? second → first = second

/-- A request belongs to a call that has its address. -/
theorem mem_requests_iff
    {table : EndpointTable}
    {calls : List Call}
    {url : String}
    {call : Call} :
    (url, call) ∈ table.requests calls ↔
      call ∈ calls ∧ table.url? call.operation = some url := by
  simp only [requests, List.mem_filterMap, Option.map_eq_some_iff, Prod.mk.injEq]
  constructor
  · rintro ⟨other, member, address, found, rfl, rfl⟩
    exact ⟨member, found⟩
  · rintro ⟨member, found⟩
    exact ⟨call, member, url, found, rfl, rfl⟩

/-- Calls of different operations are made at different addresses. -/
theorem Distinguishes.nodup_requests
    {table : EndpointTable}
    {calls : List Call}
    (distinguishes : table.Distinguishes (calls.map Call.operation))
    (nodup : (calls.map Call.operation).Nodup) :
    ((table.requests calls).map Prod.fst).Nodup := by
  induction calls with
  | nil => exact List.nodup_nil
  | cons first calls inductionHypothesis =>
      obtain ⟨headAbsent, tailNodup⟩ := List.nodup_cons.mp nodup
      have tailDistinguishes : table.Distinguishes (calls.map Call.operation) := by
        intro one oneMember two twoMember
        exact distinguishes one (List.mem_cons_of_mem _ oneMember) two
          (List.mem_cons_of_mem _ twoMember)
      have tail := inductionHypothesis tailDistinguishes tailNodup
      cases found : table.url? first.operation with
      | none => rwa [requests_cons_of_none found]
      | some url =>
          rw [requests_cons_of_some found, List.map_cons, List.nodup_cons]
          refine ⟨?_, tail⟩
          intro member
          obtain ⟨⟨address, call⟩, present, rfl⟩ := List.mem_map.mp member
          obtain ⟨callMember, callFound⟩ := mem_requests_iff.mp present
          have operationMember : call.operation ∈ calls.map Call.operation :=
            List.mem_map_of_mem callMember
          have same : first.operation = call.operation :=
            distinguishes _ List.mem_cons_self _ (List.mem_cons_of_mem _ operationMember)
              (by rw [found]; rfl) (found.trans callFound.symm)
          exact headAbsent (same ▸ operationMember)

end EndpointTable

namespace ControllerState

/-- No operation occurs twice in a plan. -/
theorem nodup_plan (state : ControllerState) (target : Phy) :
    ((state.plan target).map Call.operation).Nodup := by
  cases mode : state.mode <;>
    simp [plan, routing, levels, tuning, mode]

end ControllerState

namespace Controller

variable [Transport σ]

/-- A plan that is accepted leaves its bodies with the handlers. -/
theorem Accepts.handlers_asked
    {controller : Controller (Flowgraph σ)}
    {plan : List Call}
    (accepts : controller.Accepts plan) :
    (controller.asked plan).transport.handlers =
      controller.transport.handlers.takeAll (controller.endpoints.requests plan) := by
  induction plan generalizing controller with
  | nil => rfl
  | cons first plan inductionHypothesis =>
      obtain ⟨head, tail⟩ := accepts_cons_iff.mp accepts
      rw [asked_cons, inductionHypothesis tail, endpoints_asked]
      cases found : controller.endpoints.url? first.operation with
      | none => simp [reply, found] at head
      | some url =>
          have accepted :
              (Transport.call url first controller.transport).outcome = .done () := by
            simpa [reply, found, Transport.answer, Transport.after] using head
          rw [EndpointTable.requests_cons_of_some found, Handlers.takeAll,
            ← Flowgraph.handlers_call_of_done accepted]
          simp [asked, EndpointTable.requests_cons_of_some found, Transport.after]

/-- The handlers behind a selection that succeeded. -/
theorem handlers_selectPhy_of_done
    {controller : Controller (Flowgraph σ)}
    {target : Phy}
    (done : (selectPhy target controller).outcome = .done ()) :
    (selectPhy target controller).state.transport.handlers =
      controller.transport.handlers.takeAll
        (controller.endpoints.requests (controller.state.plan target)) := by
  have accepts := (outcome_selectPhy_eq_done_iff controller target).mp done
  rw [accepts.selectPhy.2]
  exact accepts.handlers_asked

/-- What a selection has settled: the handlers that its plan addresses hold the
bodies of the plan. -/
structure Settles
    (before : Controller (Flowgraph σ))
    (target : Phy)
    (settled : Controller (Flowgraph σ)) : Prop where
  /-- The handler of every call of the plan holds the body of that call. -/
  held : ∀ call ∈ before.state.plan target, ∃ url,
    before.endpoints.url? call.operation = some url ∧
      settled.transport.handlers url = some call.payload.bodyText
  /-- Every handler that the plan does not address is as before. -/
  others : ∀ url,
    (∀ call ∈ before.state.plan target,
      before.endpoints.url? call.operation ≠ some url) →
    settled.transport.handlers url = before.transport.handlers url
  /-- Selecting the same PHY at once again, with success, changes no handler. -/
  again : ∀ action : Action, action.target? settled.state = some target →
    (action.run settled).outcome = .done () →
    (action.run settled).state.transport.handlers = settled.transport.handlers

/-- A selection that succeeds settles the handlers of its plan, if the plan's
operations have different addresses. -/
theorem settles_of_done
    {before : Controller (Flowgraph σ)}
    {target : Phy}
    (distinguishes : before.endpoints.Distinguishes
      ((before.state.plan target).map Call.operation))
    (done : (selectPhy target before).outcome = .done ()) :
    Settles before target (selectPhy target before).state := by
  have accepts := (outcome_selectPhy_eq_done_iff before target).mp done
  have handlers := handlers_selectPhy_of_done done
  have distinct :
      ((before.endpoints.requests (before.state.plan target)).map Prod.fst).Nodup :=
    distinguishes.nodup_requests (before.state.nodup_plan target)
  constructor
  case held =>
    intro call member
    obtain ⟨url, found⟩ := accepts.exists_url member
    refine ⟨url, found, ?_⟩
    rw [handlers]
    exact Handlers.takeAll_of_mem distinct
      (EndpointTable.mem_requests_iff.mpr ⟨member, found⟩)
  case others =>
    intro url elsewhere
    rw [handlers]
    apply Handlers.takeAll_of_not_mem
    intro addressed
    obtain ⟨⟨address, call⟩, present, rfl⟩ := List.mem_map.mp addressed
    obtain ⟨member, found⟩ := EndpointTable.mem_requests_iff.mp present
    exact elsewhere call member found
  case again =>
    intro action targets succeeded
    obtain ⟨outcome, state⟩ := Action.run_eq_selectPhy targets
    -- The plan depends on neither the active PHY nor the transport.
    have sameRequests :
        (selectPhy target before).state.endpoints.requests
            ((selectPhy target before).state.state.plan target) =
          before.endpoints.requests (before.state.plan target) := by
      rw [accepts.selectPhy.2]
      rfl
    rw [state, handlers_selectPhy_of_done (outcome ▸ succeeded), sameRequests, handlers]
    exact Handlers.takeAll_takeAll distinct

/-- After any history, a selection or switch that succeeds settles the handlers of
its plan, whatever they held and however many selections broke off before. -/
theorem selection_settles_after_history
    (start : Controller (Flowgraph σ))
    (history : List Action)
    (selection : Action)
    (target : Phy)
    (targets : selection.target? (start.after history).state = some target)
    (distinguishes : start.endpoints.Distinguishes
      (((start.after history).state.plan target).map Call.operation))
    (done : (selection.run (start.after history)).outcome = .done ()) :
    Settles (start.after history) target (selection.run (start.after history)).state := by
  obtain ⟨outcome, state⟩ := Action.run_eq_selectPhy targets
  rw [← endpoints_after start history] at distinguishes
  rw [state]
  exact settles_of_done distinguishes (outcome ▸ done)

/-- A controller whose fifth call is refused, although the handler takes it. -/
def faltering : Controller (Flowgraph Scripted) :=
  fresh "http://flowgraph" ⟨.ofFn fun role => some role.key⟩
    { inner :=
        { document := .error .crash
          rules := { byNumber := [(5, .status 500)], byOperation := [] }
          made := 0 }
      handlers := fun _ => some "earlier"
      takesRefused := fun _ => true
      made := 0 }

/-- A selection of PHY 1 breaks off at its fifth call. A switch after a change of
the mode succeeds and settles the plan of direct tuning. -/
theorem selection_settles_after_faltering :
    let history : List Action := [.selectPhy .phy1, .setMode .direct]
    (faltering.after history).state.active = .phy0 ∧
      (Action.switch.run (faltering.after history)).outcome = .done () ∧
      Settles (faltering.after history) .phy1
        (Action.switch.run (faltering.after history)).state := by
  intro history
  have active : (faltering.after history).state.active = .phy0 := by decide +kernel
  have targets : Action.switch.target? (faltering.after history).state = some .phy1 := by
    decide +kernel
  have distinguishes : faltering.endpoints.Distinguishes
      (((faltering.after history).state.plan .phy1).map Call.operation) := by
    unfold EndpointTable.Distinguishes
    decide +kernel
  have done : (Action.switch.run (faltering.after history)).outcome = .done () := by
    decide +kernel
  exact ⟨active, done,
    selection_settles_after_history faltering history .switch .phy1 targets distinguishes
      done⟩

end Controller
end DualPhy
