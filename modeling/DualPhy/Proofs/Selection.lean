import DualPhy.Controller
import DualPhy.Proofs.Act
import DualPhy.Transport.Recorded

/-!
# What a selection does

A transport may answer a call in any way that depends on the calls before it. A
selection runs through the plan of its target and stops at the first call that
has no address or is not accepted. Up to there the calls reach the transport in
the order of the plan, each once; nothing of the state changes unless the whole
plan was accepted, and then only the active PHY does.
-/

namespace DualPhy

/-- A request to write a body to a handler. -/
structure Post where
  /-- Address of the handler. -/
  url : String
  /-- The operation that it sets. -/
  operation : Operation
  /-- Text of the body. -/
  body : String
  deriving DecidableEq

namespace Call

/-- The request of a call at an address. -/
def post (call : Call) (url : String) : Post where
  url := url
  operation := call.operation
  body := call.payload.bodyText

end Call

namespace CallRecord

/-- The request that was recorded. -/
def post (record : CallRecord) : Post := record.call.post record.url

end CallRecord

/-! ## Transports as machines -/

namespace Transport

/-- The state of a transport after calls at addresses, whatever it answered. -/
def after [Transport τ] : τ → List (String × Call) → τ
  | transport, [] => transport
  | transport, (url, call) :: requests =>
      after (Transport.call url call transport).state requests

/-- How a transport answers a call after earlier ones. -/
def answer
    [Transport τ]
    (transport : τ)
    (earlier : List (String × Call))
    (url : String)
    (call : Call) :
    Outcome TransportError Unit :=
  (Transport.call url call (after transport earlier)).outcome

theorem after_concat
    [Transport τ]
    (transport : τ)
    (requests : List (String × Call))
    (url : String)
    (call : Call) :
    after transport (requests ++ [(url, call)]) =
      (Transport.call url call (after transport requests)).state := by
  induction requests generalizing transport with
  | nil => rfl
  | cons request requests inductionHypothesis => exact inductionHypothesis _

end Transport

namespace EndpointTable

/-- The calls that have an address, with their addresses. -/
def requests (table : EndpointTable) (calls : List Call) : List (String × Call) :=
  calls.filterMap fun call => (table.url? call.operation).map fun url => (url, call)

/-- The requests for those calls. -/
def posts (table : EndpointTable) (calls : List Call) : List Post :=
  (table.requests calls).map fun request => request.2.post request.1

@[simp] theorem requests_nil (table : EndpointTable) : table.requests [] = [] := rfl

theorem requests_cons_of_some
    {table : EndpointTable}
    {call : Call}
    {url : String}
    (found : table.url? call.operation = some url)
    (calls : List Call) :
    table.requests (call :: calls) = (url, call) :: table.requests calls := by
  simp [requests, found]

theorem requests_cons_of_none
    {table : EndpointTable}
    {call : Call}
    (absent : table.url? call.operation = none)
    (calls : List Call) :
    table.requests (call :: calls) = table.requests calls := by
  simp [requests, absent]

theorem posts_append (table : EndpointTable) (first second : List Call) :
    table.posts (first ++ second) = table.posts first ++ table.posts second := by
  rw [posts, requests, List.filterMap_append, List.map_append]
  rfl

theorem posts_cons_of_some
    {table : EndpointTable}
    {call : Call}
    {url : String}
    (found : table.url? call.operation = some url)
    (calls : List Call) :
    table.posts (call :: calls) = call.post url :: table.posts calls := by
  rw [posts, requests_cons_of_some found]
  rfl

theorem posts_cons_of_none
    {table : EndpointTable}
    {call : Call}
    (absent : table.url? call.operation = none)
    (calls : List Call) :
    table.posts (call :: calls) = table.posts calls := by
  rw [posts, requests_cons_of_none absent]
  rfl

end EndpointTable

/-! ## Where a plan stops -/

namespace Controller

section Plans

variable [Transport τ]

/-- How a call ends behind earlier ones that were accepted: as unresolved
without an address, and otherwise as the transport answers it. -/
def reply (controller : Controller τ) (earlier : List Call) (call : Call) :
    Outcome TransportError Unit :=
  match controller.endpoints.url? call.operation with
  | none => .failed (.unresolved call.operation.role)
  | some url =>
      Transport.answer controller.transport (controller.endpoints.requests earlier) url call

/-- Every call of a plan has an address and is accepted. -/
def Accepts (controller : Controller τ) (plan : List Call) : Prop :=
  ∀ position call, plan[position]? = some call →
    controller.reply (plan.take position) call = .done ()

/-- The call at a position is the first of a plan that has no address or is not
accepted. -/
structure StopsAt
    (controller : Controller τ)
    (plan : List Call)
    (position : Nat)
    (call : Call) : Prop where
  /-- The call stands there. -/
  found : plan[position]? = some call
  /-- The calls before it are accepted. -/
  before : controller.Accepts (plan.take position)
  /-- It is not. -/
  refused : controller.reply (plan.take position) call ≠ .done ()

/-- The controller after its transport was asked to make calls. -/
def asked (controller : Controller τ) (calls : List Call) : Controller τ :=
  { controller with
    transport :=
      Transport.after controller.transport (controller.endpoints.requests calls) }

/-- What discovery has settled: the base address, the addresses of the handlers
and the roles without a block. -/
def site (controller : Controller τ) : String × EndpointTable × List Role :=
  (controller.baseUrl, controller.endpoints, controller.missing)

@[simp] theorem asked_nil (controller : Controller τ) : controller.asked [] = controller := rfl

@[simp] theorem state_asked (controller : Controller τ) (calls : List Call) :
    (controller.asked calls).state = controller.state := rfl

@[simp] theorem site_asked (controller : Controller τ) (calls : List Call) :
    (controller.asked calls).site = controller.site := rfl

@[simp] theorem endpoints_asked (controller : Controller τ) (calls : List Call) :
    (controller.asked calls).endpoints = controller.endpoints := rfl

theorem asked_cons (controller : Controller τ) (first : Call) (calls : List Call) :
    controller.asked (first :: calls) = (controller.asked [first]).asked calls := by
  cases found : controller.endpoints.url? first.operation with
  | none =>
      simp only [asked, EndpointTable.requests_cons_of_none found,
        EndpointTable.requests_nil, Transport.after]
  | some url =>
      simp only [asked, EndpointTable.requests_cons_of_some found,
        EndpointTable.requests_nil, Transport.after]

/-- A call that is accepted has an address, and the next ones are answered by
the transport behind it. -/
theorem reply_cons_of_done
    {controller : Controller τ}
    {first : Call}
    (accepted : controller.reply [] first = .done ())
    (earlier : List Call)
    (call : Call) :
    controller.reply (first :: earlier) call = (controller.asked [first]).reply earlier call := by
  cases found : controller.endpoints.url? first.operation with
  | none => simp [reply, found] at accepted
  | some url =>
      cases address : controller.endpoints.url? call.operation with
      | none => simp [reply, address]
      | some target =>
          simp [reply, address, asked, Transport.answer, Transport.after,
            EndpointTable.requests_cons_of_some found]

@[simp] theorem accepts_nil (controller : Controller τ) : controller.Accepts [] := by
  intro position call found
  simp at found

theorem accepts_cons_iff
    {controller : Controller τ}
    {first : Call}
    {plan : List Call} :
    controller.Accepts (first :: plan) ↔
      controller.reply [] first = .done () ∧ (controller.asked [first]).Accepts plan := by
  constructor
  · intro accepts
    have head : controller.reply [] first = .done () := accepts 0 first rfl
    refine ⟨head, ?_⟩
    intro position call found
    rw [← reply_cons_of_done head]
    exact accepts (position + 1) call found
  · rintro ⟨head, tail⟩ position call found
    cases position with
    | zero =>
        cases found
        exact head
    | succ position =>
        rw [List.take_succ_cons, reply_cons_of_done head]
        exact tail position call found

theorem asked_append (controller : Controller τ) (front back : List Call) :
    controller.asked (front ++ back) = (controller.asked front).asked back := by
  induction front generalizing controller with
  | nil => rfl
  | cons first front inductionHypothesis =>
      rw [List.cons_append, asked_cons, inductionHypothesis, ← asked_cons]

/-- Two plans are accepted one after the other if the second is accepted behind the first. -/
theorem accepts_append_iff
    {controller : Controller τ}
    {front back : List Call} :
    controller.Accepts (front ++ back) ↔
      controller.Accepts front ∧ (controller.asked front).Accepts back := by
  induction front generalizing controller with
  | nil => simp
  | cons first front inductionHypothesis =>
      rw [List.cons_append, accepts_cons_iff, inductionHypothesis, accepts_cons_iff,
        ← asked_cons, and_assoc]

/-- Every call of a plan that is accepted has an address. -/
theorem Accepts.exists_url
    {controller : Controller τ}
    {plan : List Call}
    {call : Call}
    (accepts : controller.Accepts plan)
    (member : call ∈ plan) :
    ∃ url, controller.endpoints.url? call.operation = some url := by
  obtain ⟨position, found⟩ := List.mem_iff_getElem?.mp member
  have accepted := accepts position call found
  cases address : controller.endpoints.url? call.operation with
  | none => simp [reply, address] at accepted
  | some url => exact ⟨url, rfl⟩

theorem stopsAt_zero_iff
    {controller : Controller τ}
    {first call : Call}
    {plan : List Call} :
    controller.StopsAt (first :: plan) 0 call ↔
      first = call ∧ controller.reply [] call ≠ .done () := by
  constructor
  · intro stops
    exact ⟨Option.some.inj stops.found, stops.refused⟩
  · rintro ⟨rfl, refused⟩
    exact ⟨rfl, accepts_nil controller, refused⟩

theorem stopsAt_succ_iff
    {controller : Controller τ}
    {first call : Call}
    {plan : List Call}
    {position : Nat} :
    controller.StopsAt (first :: plan) (position + 1) call ↔
      controller.reply [] first = .done () ∧
        (controller.asked [first]).StopsAt plan position call := by
  constructor
  · rintro ⟨found, before, refused⟩
    rw [List.take_succ_cons] at before refused
    obtain ⟨head, tail⟩ := accepts_cons_iff.mp before
    rw [reply_cons_of_done head] at refused
    exact ⟨head, found, tail, refused⟩
  · rintro ⟨head, found, before, refused⟩
    refine ⟨found, ?_, ?_⟩
    · rw [List.take_succ_cons]
      exact accepts_cons_iff.mpr ⟨head, before⟩
    · rwa [List.take_succ_cons, reply_cons_of_done head]

/-- A plan is accepted as a whole or stops somewhere. -/
theorem accepts_or_stopsAt (controller : Controller τ) (plan : List Call) :
    controller.Accepts plan ∨ ∃ position call, controller.StopsAt plan position call := by
  induction plan generalizing controller with
  | nil => exact .inl (accepts_nil controller)
  | cons first plan inductionHypothesis =>
      by_cases head : controller.reply [] first = .done ()
      · rcases inductionHypothesis (controller.asked [first]) with tail | ⟨position, call, stops⟩
        · exact .inl (accepts_cons_iff.mpr ⟨head, tail⟩)
        · exact .inr ⟨position + 1, call, stopsAt_succ_iff.mpr ⟨head, stops⟩⟩
      · exact .inr ⟨0, first, stopsAt_zero_iff.mpr ⟨rfl, head⟩⟩

/-- An accepted plan stops nowhere. -/
theorem StopsAt.not_accepts
    {controller : Controller τ}
    {plan : List Call}
    {position : Nat}
    {call : Call}
    (stops : controller.StopsAt plan position call) :
    ¬ controller.Accepts plan := by
  intro accepts
  exact stops.refused (accepts position call stops.found)

/-- A plan stops at one position only. -/
theorem StopsAt.unique
    {controller : Controller τ}
    {plan : List Call}
    {first second : Nat}
    {call other : Call}
    (stops : controller.StopsAt plan first call)
    (alsoStops : controller.StopsAt plan second other) :
    first = second ∧ call = other := by
  induction plan generalizing controller first second with
  | nil =>
      have found := stops.found
      simp at found
  | cons head plan inductionHypothesis =>
      cases first with
      | zero =>
          obtain ⟨rfl, refused⟩ := stopsAt_zero_iff.mp stops
          cases second with
          | zero => exact ⟨rfl, (stopsAt_zero_iff.mp alsoStops).1⟩
          | succ second => exact absurd (stopsAt_succ_iff.mp alsoStops).1 refused
      | succ first =>
          obtain ⟨accepted, later⟩ := stopsAt_succ_iff.mp stops
          cases second with
          | zero =>
              obtain ⟨rfl, refused⟩ := stopsAt_zero_iff.mp alsoStops
              exact absurd accepted refused
          | succ second =>
              obtain ⟨rfl, same⟩ := inductionHypothesis later (stopsAt_succ_iff.mp alsoStops).2
              exact ⟨rfl, same⟩

/-! ## Running through a plan -/

theorem outcome_issue (controller : Controller τ) (call : Call) :
    (issue call controller).outcome =
      (controller.reply [] call).mapError (.transportFailure call.operation) := by
  cases found : controller.endpoints.url? call.operation with
  | none => simp [issue, reply, found]
  | some url => simp [issue, reply, found, transmit, Transport.answer, Transport.after]

theorem state_issue (controller : Controller τ) (call : Call) :
    (issue call controller).state = controller.asked [call] := by
  cases found : controller.endpoints.url? call.operation with
  | none => simp [issue, found, asked, EndpointTable.requests, Transport.after]
  | some url => simp [issue, found, transmit, asked, EndpointTable.requests, Transport.after]

/-- A plan that is accepted is run through to its end. -/
theorem Accepts.forEach_issue
    {controller : Controller τ}
    {plan : List Call}
    (accepts : controller.Accepts plan) :
    (Act.forEach issue plan controller).outcome = .done () ∧
      (Act.forEach issue plan controller).state = controller.asked plan := by
  induction plan generalizing controller with
  | nil => exact ⟨rfl, rfl⟩
  | cons first plan inductionHypothesis =>
      obtain ⟨head, tail⟩ := accepts_cons_iff.mp accepts
      obtain ⟨outcome, state⟩ := inductionHypothesis tail
      have issued : (issue first controller).outcome = .done () := by
        rw [outcome_issue, head]
        rfl
      simp only [Act.forEach, Act.outcome_bind, Act.state_bind, issued, state_issue]
      rw [asked_cons controller first plan]
      exact ⟨outcome, state⟩

/-- A plan is run through up to the call at which it stops, and ends as that
call does. -/
theorem StopsAt.forEach_issue
    {controller : Controller τ}
    {plan : List Call}
    {position : Nat}
    {call : Call}
    (stops : controller.StopsAt plan position call) :
    (Act.forEach issue plan controller).outcome =
        (controller.reply (plan.take position) call).mapError
          (.transportFailure call.operation) ∧
      (Act.forEach issue plan controller).state =
        controller.asked (plan.take (position + 1)) := by
  induction plan generalizing controller position with
  | nil =>
      have found := stops.found
      simp at found
  | cons first plan inductionHypothesis =>
      simp only [Act.forEach, Act.outcome_bind, Act.state_bind, outcome_issue, state_issue]
      cases position with
      | zero =>
          obtain ⟨rfl, refused⟩ := stopsAt_zero_iff.mp stops
          rw [List.take_succ_cons, List.take_zero]
          cases answered : controller.reply [] first with
          | done value => exact absurd answered refused
          | failed error => exact ⟨rfl, rfl⟩
          | crashed => exact ⟨rfl, rfl⟩
      | succ position =>
          obtain ⟨head, tail⟩ := stopsAt_succ_iff.mp stops
          obtain ⟨outcome, state⟩ := inductionHypothesis tail
          simp only [head, Outcome.mapError_done]
          rw [List.take_succ_cons, List.take_succ_cons, reply_cons_of_done head,
            asked_cons controller first (plan.take (position + 1))]
          exact ⟨outcome, state⟩

theorem outcome_forEach_issue_eq_done_iff (controller : Controller τ) (plan : List Call) :
    (Act.forEach issue plan controller).outcome = .done () ↔ controller.Accepts plan := by
  constructor
  · intro done
    rcases accepts_or_stopsAt controller plan with accepts | ⟨position, call, stops⟩
    · exact accepts
    · rw [stops.forEach_issue.1, Outcome.mapError_eq_done_iff] at done
      exact absurd done stops.refused
  · intro accepts
    exact accepts.forEach_issue.1

/-! ## Selections -/

/-- The state in which a PHY is on air. -/
def onAir (target : Phy) (controller : Controller τ) : Controller τ :=
  { controller with state := { controller.state with active := target } }

/-- Applying a PHY runs through its plan and logs that. -/
theorem apply_eq_forEach (controller : Controller τ) (target : Phy) :
    (apply target controller).outcome =
        (Act.forEach issue (controller.state.plan target) controller).outcome ∧
      (apply target controller).state =
        (Act.forEach issue (controller.state.plan target) controller).state :=
  Act.bind_log_eq _ _ _ _ _

/-- A selection applies its target, and then changes the state at most. -/
theorem selectPhy_eq_apply (controller : Controller τ) (target : Phy) :
    (selectPhy target controller).outcome = (apply target controller).outcome ∧
      (selectPhy target controller).state.transport =
        (apply target controller).state.transport := by
  rw [selectPhy, Act.outcome_bind, Act.state_bind]
  cases (apply target controller).outcome <;> exact ⟨rfl, rfl⟩

/-- A selection whose plan is accepted puts its target on air. -/
theorem Accepts.selectPhy
    {controller : Controller τ}
    {target : Phy}
    (accepts : controller.Accepts (controller.state.plan target)) :
    (selectPhy target controller).outcome = .done () ∧
      (selectPhy target controller).state =
        (controller.asked (controller.state.plan target)).onAir target := by
  obtain ⟨outcome, state⟩ := accepts.forEach_issue
  simp [Controller.selectPhy, apply, modifyState, outcome, state, onAir]

/-- A selection whose plan stops ends as the call at which it stops does. -/
theorem StopsAt.selectPhy
    {controller : Controller τ}
    {target : Phy}
    {position : Nat}
    {call : Call}
    (stops : controller.StopsAt (controller.state.plan target) position call) :
    (selectPhy target controller).outcome =
        (controller.reply ((controller.state.plan target).take position) call).mapError
          (.transportFailure call.operation) ∧
      (selectPhy target controller).state =
        controller.asked ((controller.state.plan target).take (position + 1)) := by
  obtain ⟨outcome, state⟩ := stops.forEach_issue
  have refused := stops.refused
  cases answered :
      controller.reply ((controller.state.plan target).take position) call with
  | done value => exact absurd answered refused
  | failed error =>
      rw [answered] at outcome
      simp [Controller.selectPhy, apply, outcome, state]
  | crashed =>
      rw [answered] at outcome
      simp [Controller.selectPhy, apply, outcome, state]

/-- A selection succeeds exactly when its plan is accepted. -/
theorem outcome_selectPhy_eq_done_iff (controller : Controller τ) (target : Phy) :
    (selectPhy target controller).outcome = .done () ↔
      controller.Accepts (controller.state.plan target) := by
  constructor
  · intro done
    rcases accepts_or_stopsAt controller (controller.state.plan target) with
      accepts | ⟨position, call, stops⟩
    · exact accepts
    · rw [stops.selectPhy.1, Outcome.mapError_eq_done_iff] at done
      exact absurd done stops.refused
  · intro accepts
    exact accepts.selectPhy.1

theorem site_selectPhy (controller : Controller τ) (target : Phy) :
    (selectPhy target controller).state.site = controller.site := by
  rcases accepts_or_stopsAt controller (controller.state.plan target) with
    accepts | ⟨position, call, stops⟩
  · rw [accepts.selectPhy.2]
    rfl
  · rw [stops.selectPhy.2]
    rfl

/-- A switch is the selection of the other PHY, and gives it. -/
theorem switch_eq_selectPhy (controller : Controller τ) :
    (switch controller).outcome =
        (selectPhy controller.state.active.other controller).outcome.map
          (fun _ => controller.state.active.other) ∧
      (switch controller).state =
        (selectPhy controller.state.active.other controller).state := by
  cases ended : (selectPhy controller.state.active.other controller).outcome <;>
    simp [switch, ended, Outcome.map]

end Plans

/-! ## Recorded calls -/

/-- The requests that reached the transport of a controller. -/
def posted (controller : Controller (Recorded σ)) : List Post :=
  controller.transport.calls.map CallRecord.post

/-- Whatever a transport answers, exactly the calls that are made reach it, in
their order. -/
theorem posted_asked
    [Transport σ]
    (controller : Controller (Recorded σ))
    (calls : List Call) :
    (controller.asked calls).posted =
      controller.posted ++ controller.endpoints.posts calls := by
  have recorded : ∀ (requests : List (String × Call)) (transport : Recorded σ),
      (Transport.after transport requests).calls.map CallRecord.post =
        transport.calls.map CallRecord.post ++
          requests.map fun request => request.2.post request.1 := by
    intro requests
    induction requests with
    | nil => simp [Transport.after]
    | cons request requests inductionHypothesis =>
        intro transport
        rw [Transport.after, inductionHypothesis]
        simp [Transport.call, Recorded.call, CallRecord.post]
  exact recorded _ _

/-- What a selection of a PHY has to end with and leave behind. -/
structure SelectionResult
    [Transport σ]
    (before : Controller (Recorded σ))
    (target : Phy)
    (outcome : Outcome ControllerError Unit)
    (after : Controller (Recorded σ)) : Prop where
  /-- It succeeds exactly when the plan stops nowhere. -/
  done_iff : outcome = .done () ↔
    ∀ position call, ¬ before.StopsAt (before.state.plan target) position call
  /-- On success the whole plan was sent and only the active PHY has changed. -/
  done : outcome = .done () →
    after.posted = before.posted ++ before.endpoints.posts (before.state.plan target) ∧
      after.state = { before.state with active := target }
  /-- Where the plan stops, it ends with the failure of the call there, which was
  sent if it has an address; nothing behind it was sent and the state is the same. -/
  stopped : ∀ position call, before.StopsAt (before.state.plan target) position call →
    outcome =
        (before.reply ((before.state.plan target).take position) call).mapError
          (.transportFailure call.operation) ∧
      after.posted =
        before.posted ++
          before.endpoints.posts ((before.state.plan target).take (position + 1)) ∧
      after.state = before.state
  /-- What discovery has settled stays. -/
  site : after.site = before.site

/-- A selection sends its plan up to the first call that has no address or is
not accepted, fails with that call, and makes its target active only when there
is none. A switch does the same for the other PHY and gives it. -/
theorem selectPhy_sends_plan_until_refused
    [Transport σ]
    (controller : Controller (Recorded σ)) :
    (∀ target, SelectionResult controller target
        (selectPhy target controller).outcome (selectPhy target controller).state) ∧
      (switch controller).outcome =
        (selectPhy controller.state.active.other controller).outcome.map
          (fun _ => controller.state.active.other) ∧
      (switch controller).state =
        (selectPhy controller.state.active.other controller).state := by
  refine ⟨?_, switch_eq_selectPhy controller⟩
  intro target
  constructor
  case done_iff =>
    rw [outcome_selectPhy_eq_done_iff]
    constructor
    · intro accepts position call stops
      exact stops.not_accepts accepts
    · intro nowhere
      rcases accepts_or_stopsAt controller (controller.state.plan target) with
        accepts | ⟨position, call, stops⟩
      · exact accepts
      · exact absurd stops (nowhere position call)
  case done =>
    intro done
    rw [((outcome_selectPhy_eq_done_iff controller target).mp done).selectPhy.2]
    exact ⟨posted_asked controller _, rfl⟩
  case stopped =>
    intro position call stops
    rw [stops.selectPhy.1, stops.selectPhy.2]
    exact ⟨rfl, posted_asked controller _, rfl⟩
  case site => exact site_selectPhy controller target

end Controller
end DualPhy
