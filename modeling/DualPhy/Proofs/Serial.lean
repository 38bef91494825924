import DualPhy.Proofs.Selection
import DualPhy.Worker

/-!
# Commands one after the other

What a list of commands does on a controller that nobody else uses: the
controller and the state behind every command, the answer to every command, and
the calls that every command makes.
-/

namespace DualPhy

namespace Command

/-- The answer to a command on a controller. -/
def answer [Transport τ] (command : Command) (controller : Controller τ) : Answer :=
  match (command.run controller).outcome with
  | .done result => .ok result
  | .failed error => .error error
  | .crashed => .error .workerGone

/-- The calls that a command makes. -/
def calls [Transport σ] (command : Command) (controller : Controller (Recorded σ)) :
    List CallRecord :=
  (command.run controller).state.transport.calls.drop controller.transport.calls.length

end Command

namespace Controller

section Serial

variable [Transport τ]

/-- The controller behind a list of commands. -/
def afterAll : Controller τ → List Command → Controller τ
  | controller, [] => controller
  | controller, command :: commands =>
      afterAll (command.run controller).state commands

/-- The states behind each of a list of commands. -/
def states : Controller τ → List Command → List ControllerState
  | _, [] => []
  | controller, command :: commands =>
      (command.run controller).state.state :: states (command.run controller).state commands

/-- The answers to a list of commands. -/
def answers : Controller τ → List Command → List Answer
  | _, [] => []
  | controller, command :: commands =>
      command.answer controller :: answers (command.run controller).state commands

theorem afterAll_concat (controller : Controller τ) (commands : List Command) (last : Command) :
    controller.afterAll (commands ++ [last]) =
      (last.run (controller.afterAll commands)).state := by
  induction commands generalizing controller with
  | nil => rfl
  | cons command commands inductionHypothesis => exact inductionHypothesis _

theorem states_concat (controller : Controller τ) (commands : List Command) (last : Command) :
    controller.states (commands ++ [last]) =
      controller.states commands ++ [(last.run (controller.afterAll commands)).state.state] := by
  induction commands generalizing controller with
  | nil => rfl
  | cons command commands inductionHypothesis =>
      simp only [List.cons_append, states, afterAll, inductionHypothesis]

theorem answers_concat (controller : Controller τ) (commands : List Command) (last : Command) :
    controller.answers (commands ++ [last]) =
      controller.answers commands ++ [last.answer (controller.afterAll commands)] := by
  induction commands generalizing controller with
  | nil => rfl
  | cons command commands inductionHypothesis =>
      simp only [List.cons_append, answers, afterAll, inductionHypothesis]

@[simp] theorem length_answers (controller : Controller τ) (commands : List Command) :
    (controller.answers commands).length = commands.length := by
  induction commands generalizing controller with
  | nil => rfl
  | cons command commands inductionHypothesis => simp [answers, inductionHypothesis]

end Serial

/-! ## Calls -/

section Calls

variable [Transport σ]

/-- What was recorded stays recorded. -/
theorem calls_prefix_asked (controller : Controller (Recorded σ)) (calls : List Call) :
    controller.transport.calls <+: (controller.asked calls).transport.calls := by
  have grows : ∀ (requests : List (String × Call)) (transport : Recorded σ),
      transport.calls <+: (Transport.after transport requests).calls := by
    intro requests
    induction requests with
    | nil => exact fun transport => List.prefix_refl _
    | cons request requests inductionHypothesis =>
        intro transport
        obtain ⟨url, call⟩ := request
        have step : transport.calls <+: (Transport.call url call transport).state.calls :=
          List.prefix_append _ _
        exact step.trans (inductionHypothesis (Transport.call url call transport).state)
  exact grows _ _

theorem calls_prefix_selectPhy (controller : Controller (Recorded σ)) (target : Phy) :
    controller.transport.calls <+: (selectPhy target controller).state.transport.calls := by
  rcases accepts_or_stopsAt controller (controller.state.plan target) with
    accepts | ⟨position, call, stops⟩
  · rw [accepts.selectPhy.2]
    exact calls_prefix_asked _ _
  · rw [stops.selectPhy.2]
    exact calls_prefix_asked _ _

/-- A command adds its calls behind those that were made before. -/
theorem calls_run (command : Command) (controller : Controller (Recorded σ)) :
    (command.run controller).state.transport.calls =
      controller.transport.calls ++ command.calls controller := by
  have grows :
      controller.transport.calls <+: (command.run controller).state.transport.calls := by
    cases command with
    | select index =>
        cases found : Phy.ofIndex index with
        | error problem => simp [Command.run, select, found]
        | ok target =>
            cases ended : (selectPhy target controller).outcome <;>
              simpa [Command.run, select, found, ended] using
                calls_prefix_selectPhy controller target
    | switch =>
        obtain ⟨-, state⟩ := switch_eq_selectPhy controller
        cases ended : (switch controller).outcome <;>
          simpa [Command.run, state, ended] using
            calls_prefix_selectPhy controller controller.state.active.other
    | setMode mode => exact List.prefix_refl _
    | snapshot => exact List.prefix_refl _
  exact (List.prefix_iff_eq_append.mp grows).symm

/-- The last call is recorded as the transport answers it. -/
theorem calls_asked_concat
    (controller : Controller (Recorded σ))
    (earlier : List Call)
    {call : Call}
    {url : String}
    (found : controller.endpoints.url? call.operation = some url) :
    (controller.asked (earlier ++ [call])).transport.calls =
      (controller.asked earlier).transport.calls ++
        [⟨url, call, controller.reply earlier call⟩] := by
  have requests : controller.endpoints.requests (earlier ++ [call]) =
      controller.endpoints.requests earlier ++ [(url, call)] := by
    simp [EndpointTable.requests, found]
  simp [asked, requests, Transport.after_concat, reply, found, Transport.answer,
    Transport.call, Recorded.call]

/-- A selection breaks down only because the transport does. -/
theorem exists_crashed_of_selectPhy
    {controller : Controller (Recorded σ)}
    {target : Phy}
    (crashed : (selectPhy target controller).outcome = .crashed) :
    ∃ earlier record, record.outcome = .crashed ∧
      (selectPhy target controller).state.transport.calls =
        controller.transport.calls ++ (earlier ++ [record]) := by
  rcases accepts_or_stopsAt controller (controller.state.plan target) with
    accepts | ⟨position, call, stops⟩
  · rw [accepts.selectPhy.1] at crashed
    cases crashed
  · obtain ⟨outcome, state⟩ := stops.selectPhy
    rw [outcome, Outcome.mapError_eq_crashed_iff] at crashed
    cases found : controller.endpoints.url? call.operation with
    | none => simp [reply, found] at crashed
    | some url =>
        obtain ⟨earlier, recorded⟩ :=
          calls_prefix_asked controller ((controller.state.plan target).take position)
        refine ⟨earlier, ⟨url, call, .crashed⟩, rfl, ?_⟩
        rw [state, List.take_add_one, stops.found, Option.toList_some,
          calls_asked_concat controller _ found, crashed, ← recorded, List.append_assoc]

/-- A command breaks down only because the transport does. -/
theorem exists_crashed_of_run
    {command : Command}
    {controller : Controller (Recorded σ)}
    (crashed : (command.run controller).outcome = .crashed) :
    ∃ record ∈ command.calls controller, record.outcome = .crashed := by
  have selection : ∃ target, (selectPhy target controller).outcome = .crashed ∧
      (command.run controller).state = (selectPhy target controller).state := by
    cases command with
    | select index =>
        cases found : Phy.ofIndex index with
        | error problem => simp [Command.run, select, found] at crashed
        | ok target =>
            refine ⟨target, ?_⟩
            cases ended : (selectPhy target controller).outcome <;>
              simp_all [Command.run, select]
    | switch =>
        obtain ⟨outcome, state⟩ := switch_eq_selectPhy controller
        refine ⟨controller.state.active.other, ?_⟩
        cases ended : (selectPhy controller.state.active.other controller).outcome <;>
          simp_all [Command.run, Outcome.map]
    | setMode mode => cases crashed
    | snapshot => cases crashed
  obtain ⟨target, selected, state⟩ := selection
  obtain ⟨earlier, record, recordCrashed, recorded⟩ := exists_crashed_of_selectPhy selected
  refine ⟨record, ?_, recordCrashed⟩
  have made := calls_run command controller
  rw [state, recorded] at made
  rw [← List.append_cancel_left made]
  exact List.mem_concat_self

/-- The calls of each of a list of commands. -/
def blocks : Controller (Recorded σ) → List Command → List (List CallRecord)
  | _, [] => []
  | controller, command :: commands =>
      command.calls controller :: blocks (command.run controller).state commands

/-- The record holds the calls of one command after those of another. -/
theorem calls_afterAll (controller : Controller (Recorded σ)) (commands : List Command) :
    (controller.afterAll commands).transport.calls =
      controller.transport.calls ++ (controller.blocks commands).flatten := by
  induction commands generalizing controller with
  | nil => simp [afterAll, blocks]
  | cons command commands inductionHypothesis =>
      rw [afterAll, inductionHypothesis, calls_run, blocks, List.flatten_cons,
        List.append_assoc]

end Calls

end Controller
end DualPhy
