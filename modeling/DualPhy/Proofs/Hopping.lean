import DualPhy.Controller.Hop
import DualPhy.Proofs.Mailbox
import DualPhy.Transport.Scripted

/-!
# Where a hop ends

A hop takes turns: in the first it selects PHY 0, and in every later one it switches. The
calls of its turns, one after the other, form one route. A hop with a number of switches
comes to the end of its route or to the first call that fails; one without a number goes
on to the first call that fails. Its report says which it was, and the switches that it
counts are those that have succeeded.
-/

namespace DualPhy

/-! ## A worker with one client -/

namespace Command

section Selections

variable [Transport τ]

theorem run_select (phy : Phy) (controller : Controller τ) :
    ((select phy.index).run controller).outcome =
        (Controller.selectPhy phy controller).outcome.map (fun _ => .selected) ∧
      ((select phy.index).run controller).state =
        (Controller.selectPhy phy controller).state := by
  cases ended : (Controller.selectPhy phy controller).outcome <;>
    simp [run, Controller.select, ended, Outcome.map]

theorem run_switch (controller : Controller τ) :
    (switch.run controller).outcome =
        (Controller.switch controller).outcome.map CommandResult.switched ∧
      (switch.run controller).state = (Controller.switch controller).state := by
  cases ended : (Controller.switch controller).outcome <;>
    simp [run, ended, Outcome.map]

end Selections

end Command

namespace Worker

/-- A worker that waits for requests and has answered the earlier ones under the first
tickets. -/
structure Idle (worker : Worker τ) : Prop where
  /-- It is at work. -/
  running : worker.life = .running
  /-- Nothing waits for it. -/
  queue : worker.queue = []
  /-- The next ticket is free. -/
  tickets : ∀ entry ∈ worker.delivered, entry.1 < worker.delivered.length

theorem idle_spawn (controller : Controller τ) : (spawn controller).Idle :=
  ⟨rfl, rfl, List.forall_mem_nil _⟩

@[simp] theorem controller_spawn (controller : Controller τ) :
    (spawn controller).controller = controller := rfl

section Requests

variable [Transport τ]

/-- Whoever asks an idle worker learns how the command ends on its controller, and leaves the
worker idle. -/
theorem Idle.ask
    {worker : Worker τ}
    (idle : worker.Idle)
    {command : Command}
    (sound : (command.run worker.controller).outcome ≠ .crashed) :
    (ask command worker).outcome = (command.run worker.controller).outcome ∧
      (ask command worker).state.controller = (command.run worker.controller).state ∧
      (ask command worker).state.Idle := by
  obtain ⟨running, queue, tickets⟩ := idle
  have ticket : worker.nextTicket = worker.delivered.length := by
    simp [nextTicket, queue, turnedAway]
  let answered : Worker τ :=
    { worker with
      controller := (command.run worker.controller).state
      queue := []
      delivered :=
        worker.delivered ++ [(worker.delivered.length, command.answer worker.controller)] }
  have served :
      ((worker.post (.request worker.nextTicket command)).drain).1 = answered := by
    simp only [post, running, queue, drain, steps, step, ticket, answered, List.nil_append,
      List.length_singleton]
    exact serve_of_not_crashed _ _ sound
  have fresh : worker.delivered.lookup worker.delivered.length = none := by
    rw [List.lookup_eq_none_iff]
    intro entry member
    simpa using (Nat.ne_of_lt (tickets entry member)).symm
  have found : answered.delivered.lookup worker.nextTicket =
      some (command.answer worker.controller) := by
    simp [answered, ticket, List.lookup_append, fresh]
  have idle : answered.Idle := by
    refine ⟨running, rfl, ?_⟩
    intro entry member
    rcases List.mem_append.mp member with earlier | last
    · simpa [answered] using Nat.lt_succ_of_lt (tickets entry earlier)
    · rw [List.mem_singleton.mp last]
      simp [answered]
  cases ended : (command.run worker.controller).outcome with
  | done result =>
      rw [Command.answer, ended] at found
      simp only [Worker.ask, served, found]
      exact ⟨trivial, rfl, idle⟩
  | failed error =>
      rw [Command.answer, ended] at found
      simp only [Worker.ask, served, found]
      exact ⟨trivial, rfl, idle⟩
  | crashed => exact absurd ended sound

/-- Whoever joins an idle worker takes its controller back. -/
theorem Idle.join
    {worker : Worker τ}
    (idle : worker.Idle) :
    (join worker).outcome = .done worker.controller ∧
      (Worker.join worker).state.controller = worker.controller := by
  obtain ⟨running, queue, -⟩ := idle
  constructor <;> simp [Worker.join, post, running, queue, drain, steps, step, finish]

/-- An idle worker that is let go of keeps its controller. -/
theorem Idle.release
    {worker : Worker τ}
    (idle : worker.Idle) :
    (release worker : Report ControllerError _ _).outcome = .done () ∧
      (Worker.release worker : Report ControllerError _ _).state.controller = worker.controller := by
  obtain ⟨running, queue, -⟩ := idle
  constructor <;> simp [Worker.release, running, queue, drain, steps, finish]

end Requests

end Worker

/-! ## Turns -/

namespace Hop

/-- The PHY that goes on air in a turn, PHY 0 and PHY 1 alternately. -/
def target (turn : Nat) : Phy := if turn % 2 = 0 then .phy0 else .phy1

@[simp] theorem target_succ (turn : Nat) : target (turn + 1) = (target turn).other := by
  rcases Nat.mod_two_eq_zero_or_one turn with even | odd
  · simp [target, even, Nat.add_mod, Phy.other]
  · simp [target, odd, Nat.add_mod, Phy.other]

/-- The calls of a number of turns. -/
def route (state : ControllerState) : (turns : Nat) → List Call
  | 0 => []
  | turns + 1 => route state turns ++ state.plan (target turns)

section Turns

variable [Transport τ]

/-- All turns before this one are accepted, and this one stops at a call. -/
structure Halts
    (start : Controller τ)
    (turn position : Nat)
    (call : Call) : Prop where
  /-- The turns before it. -/
  before : start.Accepts (route start.state turn)
  /-- The turn. -/
  stops : (start.asked (route start.state turn)).StopsAt
    (start.state.plan (target turn)) position call

/-- A number of turns is accepted, or a hop halts in one of them. -/
theorem accepts_or_halts (start : Controller τ) (turns : Nat) :
    start.Accepts (route start.state turns) ∨
      ∃ turn < turns, ∃ position call, Halts start turn position call := by
  induction turns with
  | zero => exact .inl (Controller.accepts_nil start)
  | succ turns inductionHypothesis =>
      rcases inductionHypothesis with accepts | ⟨turn, earlier, halts⟩
      · rcases Controller.accepts_or_stopsAt (start.asked (route start.state turns))
          (start.state.plan (target turns)) with next | ⟨position, call, stops⟩
        · exact .inl (Controller.accepts_append_iff.mpr ⟨accepts, next⟩)
        · exact .inr ⟨turns, Nat.lt_succ_self turns, position, call, accepts, stops⟩
      · exact .inr ⟨turn, Nat.lt_succ_of_lt earlier, halts⟩

theorem accepts_route_of_le
    {start : Controller τ}
    {fewer turns : Nat}
    (accepts : start.Accepts (route start.state turns))
    (le : fewer ≤ turns) :
    start.Accepts (route start.state fewer) := by
  induction turns with
  | zero =>
      rw [Nat.le_zero.mp le]
      exact accepts
  | succ turns inductionHypothesis =>
      rcases Nat.lt_or_eq_of_le le with less | rfl
      · exact inductionHypothesis (Controller.accepts_append_iff.mp accepts).1
          (Nat.le_of_lt_succ less)
      · exact accepts

/-- Turns that include the one that halts are not accepted. -/
theorem Halts.not_accepts
    {start : Controller τ}
    {turn position : Nat}
    {call : Call}
    (halts : Halts start turn position call)
    {turns : Nat}
    (within : turn < turns) :
    ¬ start.Accepts (route start.state turns) := by
  intro accepts
  exact halts.stops.not_accepts
    (Controller.accepts_append_iff.mp (accepts_route_of_le accepts within)).2

/-- A hop halts at one call only. -/
theorem Halts.unique
    {start : Controller τ}
    {turn other : Nat}
    {position place : Nat}
    {call last : Call}
    (halts : Halts start turn position call)
    (alsoHalts : Halts start other place last) :
    turn = other ∧ position = place ∧ call = last := by
  rcases Nat.lt_trichotomy turn other with less | rfl | more
  · exact absurd alsoHalts.before (halts.not_accepts less)
  · exact ⟨rfl, halts.stops.unique alsoHalts.stops⟩
  · exact absurd halts.before (alsoHalts.not_accepts more)

/-- The controller behind the first turn and a number of switches that were accepted. -/
def behind (start : Controller τ) (switches : Nat) : Controller τ :=
  (start.asked (route start.state (switches + 1))).onAir (target switches)

theorem behind_succ (start : Controller τ) (switches : Nat) :
    behind start (switches + 1) =
      ((behind start switches).asked (start.state.plan (target (switches + 1)))).onAir
        (target (switches + 1)) := by
  rw [behind, route, Controller.asked_append]
  rfl

/-- A switch that is accepted leads to the controller behind one switch more. -/
theorem switch_of_accepts
    {start : Controller τ}
    {switches : Nat}
    (accepts : start.Accepts (route start.state (switches + 2))) :
    (Controller.switch (behind start switches)).outcome = .done (target (switches + 1)) ∧
      (Controller.switch (behind start switches)).state = behind start (switches + 1) := by
  have next : (behind start switches).Accepts
      ((behind start switches).state.plan (target (switches + 1))) :=
    (Controller.accepts_append_iff.mp accepts).2
  have other : (behind start switches).state.active.other = target (switches + 1) :=
    (target_succ switches).symm
  obtain ⟨outcome, state⟩ := Controller.switch_eq_selectPhy (behind start switches)
  rw [outcome, state, other, next.selectPhy.1, next.selectPhy.2, behind_succ]
  exact ⟨rfl, rfl⟩

/-- The controller behind the calls of a turn up to and with the one at a position, when the
turns before it were accepted. -/
def midway (start : Controller τ) (turn position : Nat) : Controller τ :=
  start.asked (route start.state turn ++
    (start.state.plan (target turn)).take (position + 1))

/-- How the last call ends with which a hop halts. -/
def verdict (start : Controller τ) (turn position : Nat) (call : Call) :
    Outcome TransportError Unit :=
  (start.asked (route start.state turn)).reply
    ((start.state.plan (target turn)).take position) call

/-- A first turn that halts fails with its last call. -/
theorem select_of_halts
    {start : Controller τ}
    {position : Nat}
    {call : Call}
    (halts : Halts start 0 position call) :
    (Controller.selectPhy .phy0 start).outcome =
        (verdict start 0 position call).mapError (.transportFailure call.operation) ∧
      (Controller.selectPhy .phy0 start).state = midway start 0 position :=
  halts.stops.selectPhy

/-- A switch that halts fails with its last call. -/
theorem switch_of_halts
    {start : Controller τ}
    {switches position : Nat}
    {call : Call}
    {source : TransportError}
    (halts : Halts start (switches + 1) position call)
    (failed : verdict start (switches + 1) position call = .failed source) :
    (Controller.switch (behind start switches)).outcome =
        .failed (.transportFailure call.operation source) ∧
      (Controller.switch (behind start switches)).state =
        (midway start (switches + 1) position).onAir (target switches) := by
  have stops : (behind start switches).StopsAt
      ((behind start switches).state.plan (target (switches + 1))) position call :=
    ⟨halts.stops.found, halts.stops.before, halts.stops.refused⟩
  have answered : (behind start switches).reply
      (((behind start switches).state.plan (target (switches + 1))).take position) call =
        .failed source := failed
  have other : (behind start switches).state.active.other = target (switches + 1) :=
    (target_succ switches).symm
  obtain ⟨outcome, state⟩ := Controller.switch_eq_selectPhy (behind start switches)
  rw [outcome, state, other, stops.selectPhy.1, stops.selectPhy.2, answered, midway,
    Controller.asked_append]
  exact ⟨rfl, rfl⟩

/-! ## Turns of a worker -/

/-- An idle worker whose controller has made a number of switches behind the first turn. -/
structure Flown (start : Controller τ) (switches : Nat) (worker : Worker τ) : Prop where
  /-- It waits for the next request. -/
  idle : worker.Idle
  /-- Its controller has come that far. -/
  controller : worker.controller = behind start switches

/-- The first turn of a fresh worker ends as the selection of PHY 0 does. -/
theorem start_spec
    (start : Controller τ)
    (sound : (Controller.selectPhy .phy0 start).outcome ≠ .crashed) :
    (Hop.start (Worker.spawn start)).outcome = (Controller.selectPhy .phy0 start).outcome ∧
      (Hop.start (Worker.spawn start)).state.controller =
        (Controller.selectPhy .phy0 start).state ∧
      ((Controller.selectPhy .phy0 start).outcome = .done () →
        (Hop.start (Worker.spawn start)).state.Idle) := by
  obtain ⟨outcome, state⟩ := Command.run_select .phy0 start
  have unbroken : ((Command.select Phy.phy0.index).run start).outcome ≠ .crashed := by
    rw [outcome]
    cases ended : (Controller.selectPhy .phy0 start).outcome <;> simp_all [Outcome.map]
  obtain ⟨asked, controller, idle⟩ := (Worker.idle_spawn start).ask unbroken
  rw [Worker.controller_spawn, outcome] at asked
  rw [Worker.controller_spawn, state] at controller
  cases ended : (Controller.selectPhy .phy0 start).outcome with
  | done value =>
      rw [ended, Outcome.map] at asked
      have left : (Hop.start (Worker.spawn start)).state =
          (Worker.ask (.select Phy.phy0.index) (Worker.spawn start)).state := by
        simp [Hop.start, Act.forEach, Worker.startEvents, asked, Outcome.attempt]
      rw [left]
      refine ⟨?_, controller, fun _ => idle⟩
      simp [Hop.start, Act.forEach, Worker.startEvents, asked, Outcome.attempt]
  | failed error =>
      rw [ended, Outcome.map] at asked
      obtain ⟨released, kept⟩ := idle.release
      have left : (Hop.start (Worker.spawn start)).state =
          (Worker.release (Worker.ask (.select Phy.phy0.index) (Worker.spawn start)).state :
            Report ControllerError _ _).state := by
        simp [Hop.start, Act.forEach, Worker.startEvents, asked, Outcome.attempt, released]
      rw [left]
      refine ⟨?_, kept.trans controller, fun done => by cases done⟩
      simp [Hop.start, Act.forEach, Worker.startEvents, asked, Outcome.attempt, released]
  | crashed => exact absurd ended sound

/-- A later turn of an idle worker ends as the switch of its controller does. -/
theorem switchOnce_spec
    {worker : Worker τ}
    (idle : worker.Idle)
    (sound : (Controller.switch worker.controller).outcome ≠ .crashed)
    (interval : UInt64)
    (number : Nat) :
    (switchOnce interval number worker).outcome =
        (Controller.switch worker.controller).outcome.map (fun _ => ()) ∧
      (switchOnce interval number worker).state.controller =
        (Controller.switch worker.controller).state ∧
      (switchOnce interval number worker).state.Idle := by
  obtain ⟨outcome, state⟩ := Command.run_switch worker.controller
  have unbroken : (Command.switch.run worker.controller).outcome ≠ .crashed := by
    rw [outcome]
    cases ended : (Controller.switch worker.controller).outcome <;> simp_all [Outcome.map]
  obtain ⟨asked, controller, idle⟩ := idle.ask unbroken
  rw [outcome] at asked
  rw [state] at controller
  have left : (switchOnce interval number worker).state =
      (Worker.ask .switch worker).state := by
    cases ended : (Controller.switch worker.controller).outcome <;>
      simp [switchOnce, asked, ended, Outcome.map]
  rw [left]
  refine ⟨?_, controller, idle⟩
  cases ended : (Controller.switch worker.controller).outcome <;>
    simp [switchOnce, asked, ended, Outcome.map]

/-- A first turn that is accepted sets the worker off. -/
theorem start_of_accepts
    {start : Controller τ}
    (accepts : start.Accepts (route start.state 1)) :
    (Hop.start (Worker.spawn start)).outcome = .done () ∧
      Flown start 0 (Hop.start (Worker.spawn start)).state := by
  have selected : start.Accepts (start.state.plan .phy0) := accepts
  obtain ⟨done, state⟩ := selected.selectPhy
  obtain ⟨outcome, controller, idle⟩ := start_spec start (by rw [done]; simp)
  exact ⟨outcome.trans done, idle done, controller.trans state⟩

/-- A first turn that halts ends the hop with its failure. -/
theorem start_of_halts
    {start : Controller τ}
    {position : Nat}
    {call : Call}
    {source : TransportError}
    (halts : Halts start 0 position call)
    (failed : verdict start 0 position call = .failed source) :
    (Hop.start (Worker.spawn start)).outcome =
        .failed (.transportFailure call.operation source) ∧
      (Hop.start (Worker.spawn start)).state.controller = midway start 0 position := by
  obtain ⟨ended, state⟩ := select_of_halts halts
  rw [failed, Outcome.mapError_failed] at ended
  obtain ⟨outcome, controller, -⟩ := start_spec start (by rw [ended]; simp)
  exact ⟨outcome.trans ended, controller.trans state⟩

/-- A switch that is accepted takes the worker one further. -/
theorem switchOnce_of_accepts
    {start : Controller τ}
    {switches : Nat}
    {worker : Worker τ}
    (flown : Flown start switches worker)
    (accepts : start.Accepts (route start.state (switches + 2)))
    (interval : UInt64)
    (number : Nat) :
    (switchOnce interval number worker).outcome = .done () ∧
      Flown start (switches + 1) (switchOnce interval number worker).state := by
  obtain ⟨done, state⟩ := switch_of_accepts accepts
  rw [← flown.controller] at done state
  obtain ⟨outcome, controller, idle⟩ :=
    switchOnce_spec flown.idle (by rw [done]; simp) interval number
  exact ⟨by rw [outcome, done]; rfl, idle, controller.trans state⟩

/-- A switch that halts is reported with its failure, and the worker stays idle. -/
theorem switchOnce_of_halts
    {start : Controller τ}
    {switches position : Nat}
    {call : Call}
    {source : TransportError}
    {worker : Worker τ}
    (flown : Flown start switches worker)
    (halts : Halts start (switches + 1) position call)
    (failed : verdict start (switches + 1) position call = .failed source)
    (interval : UInt64)
    (number : Nat) :
    (switchOnce interval number worker).outcome =
        .failed (.transportFailure call.operation source) ∧
      (switchOnce interval number worker).state.Idle ∧
      (switchOnce interval number worker).state.controller =
        (midway start (switches + 1) position).onAir (target switches) := by
  obtain ⟨ended, state⟩ := switch_of_halts halts failed
  rw [← flown.controller] at ended state
  obtain ⟨outcome, controller, idle⟩ :=
    switchOnce_spec flown.idle (by rw [ended]; simp) interval number
  exact ⟨by rw [outcome, ended]; rfl, idle, controller.trans state⟩

/-! ## All switches -/

/-- Switches that are all accepted are made and counted. -/
theorem switches_of_accepts
    {start : Controller τ}
    {remaining made : Nat}
    {worker : Worker τ}
    (flown : Flown start made worker)
    (accepts : start.Accepts (route start.state (made + remaining + 1)))
    (interval : UInt64) :
    (switches interval remaining made worker).outcome = .done ⟨made + remaining, none⟩ ∧
      Flown start (made + remaining) (switches interval remaining made worker).state := by
  induction remaining generalizing made worker with
  | zero => exact ⟨rfl, flown⟩
  | succ remaining inductionHypothesis =>
      obtain ⟨once, further⟩ := switchOnce_of_accepts flown
        (accepts_route_of_le accepts (by omega)) interval (made + 1)
      have count : made + (remaining + 1) = made + 1 + remaining := by omega
      rw [count] at accepts ⊢
      obtain ⟨outcome, state⟩ := inductionHypothesis further accepts
      simp only [switches, Act.outcome_bind, Act.state_bind, Act.outcome_attempt,
        Act.state_attempt, once, Outcome.attempt]
      exact ⟨outcome, state⟩

/-- Switches are made and counted until one halts, whose failure ends them. -/
theorem switches_of_halts
    {start : Controller τ}
    {further made position : Nat}
    {call : Call}
    {source : TransportError}
    {worker : Worker τ}
    (flown : Flown start made worker)
    (halts : Halts start (made + further + 1) position call)
    (failed : verdict start (made + further + 1) position call = .failed source)
    {remaining : Nat}
    (within : further < remaining)
    (interval : UInt64) :
    (switches interval remaining made worker).outcome =
        .done ⟨made + further, some (.transportFailure call.operation source)⟩ ∧
      (switches interval remaining made worker).state.Idle ∧
      (switches interval remaining made worker).state.controller =
        (midway start (made + further + 1) position).onAir (target (made + further)) := by
  induction further generalizing made worker remaining with
  | zero =>
      obtain ⟨left, rfl⟩ := Nat.exists_eq_add_one_of_ne_zero (Nat.ne_of_gt within)
      obtain ⟨once, idle, controller⟩ :=
        switchOnce_of_halts flown halts failed interval (made + 1)
      simp only [switches, Act.outcome_bind, Act.state_bind, Act.outcome_attempt,
        Act.state_attempt, once, Outcome.attempt]
      exact ⟨rfl, idle, controller⟩
  | succ further inductionHypothesis =>
      obtain ⟨left, rfl⟩ := Nat.exists_eq_add_one_of_ne_zero (Nat.ne_of_gt (Nat.zero_lt_of_lt within))
      obtain ⟨once, next⟩ := switchOnce_of_accepts flown
        (accepts_route_of_le halts.before (by omega)) interval (made + 1)
      have count : made + (further + 1) = made + 1 + further := by omega
      rw [count] at halts failed ⊢
      simp only [switches, Act.outcome_bind, Act.state_bind, Act.outcome_attempt,
        Act.state_attempt, once, Outcome.attempt]
      exact inductionHypothesis next halts failed (by omega)

/-! ## The whole hop -/

/-- The line of the log that reports how many switches were made. -/
def stopLine (switches : Nat) (active : Phy) : LogLine where
  topic := .program
  level := .info
  message := "Stopped after " ++ toString switches ++ " switches, " ++ active.name ++ " active"

/-- A hop whose first turn is accepted joins the worker and reports its switches, whatever
ended them. -/
theorem run_of_finish
    {start : Controller τ}
    {interval : UInt64}
    {count : Nat}
    {finish : Finish}
    (accepts : start.Accepts (route start.state 1))
    (finished : (switches interval count 0 (Hop.start (Worker.spawn start)).state).outcome =
      .done finish)
    (idle : (switches interval count 0 (Hop.start (Worker.spawn start)).state).state.Idle)
    {left : Controller τ}
    (leaves : (switches interval count 0
      (Hop.start (Worker.spawn start)).state).state.controller = left) :
    (run interval count (Worker.spawn start)).outcome =
        finish.error.elim (.done left) .failed ∧
      (run interval count (Worker.spawn start)).state.controller = left ∧
      (run interval count (Worker.spawn start)).events.getLast? =
        some (.log (stopLine finish.switches left.state.active)) := by
  obtain ⟨started, -⟩ := start_of_accepts accepts
  obtain ⟨joined, kept⟩ := idle.join
  rw [leaves] at joined kept
  refine ⟨?_, ?_, ?_⟩
  · cases failure : finish.error <;>
      simp [run, started, finished, joined, failure]
  · cases failure : finish.error <;>
      simp [run, started, finished, joined, kept, failure]
  · cases failure : finish.error <;>
      simp [run, Act.events_bind, started, finished, joined, failure, stopLine]

/-- A hop all of whose turns are accepted succeeds. -/
theorem run_of_accepts
    {start : Controller τ}
    {count : Nat}
    (accepts : start.Accepts (route start.state (count + 1)))
    (interval : UInt64) :
    (run interval count (Worker.spawn start)).outcome = .done (behind start count) ∧
      (run interval count (Worker.spawn start)).state.controller = behind start count ∧
      (run interval count (Worker.spawn start)).events.getLast? =
        some (.log (stopLine count (target count))) := by
  have first := accepts_route_of_le accepts (Nat.le_add_left 1 count)
  obtain ⟨-, flown⟩ := start_of_accepts first
  have counted : 0 + count = count := Nat.zero_add count
  obtain ⟨finished, landed⟩ := switches_of_accepts flown (by rwa [counted]) interval
  rw [counted] at finished landed
  exact run_of_finish first finished landed.idle landed.controller

/-- A hop that halts in the first turn fails without a switch. -/
theorem run_of_halts_first
    {start : Controller τ}
    {position : Nat}
    {call : Call}
    {source : TransportError}
    (halts : Halts start 0 position call)
    (failed : verdict start 0 position call = .failed source)
    (interval : UInt64)
    (count : Nat) :
    (run interval count (Worker.spawn start)).outcome =
        .failed (.transportFailure call.operation source) ∧
      (run interval count (Worker.spawn start)).state.controller = midway start 0 position := by
  obtain ⟨outcome, state⟩ := start_of_halts halts failed
  constructor <;> simp [run, outcome, state]

/-- Switches that end with a failure end so whatever number of them was wanted. -/
theorem switches_add
    {interval : UInt64}
    {remaining made total : Nat}
    {error : ControllerError}
    {worker : Worker τ}
    (failed : (switches interval remaining made worker).outcome = .done ⟨total, some error⟩)
    (more : Nat) :
    switches interval (remaining + more) made worker =
      switches interval remaining made worker := by
  induction remaining generalizing made worker with
  | zero => cases failed
  | succ remaining inductionHypothesis =>
      rw [Nat.add_right_comm]
      refine Act.bind_congr rfl ?_
      rintro (problem | ⟨⟩) once
      · rfl
      · rw [switches, Act.outcome_bind, once] at failed
        exact inductionHypothesis failed

/-- A hop that halts in a later turn fails, and reports the switches before. -/
theorem run_of_halts_later
    {start : Controller τ}
    {switches position : Nat}
    {call : Call}
    {source : TransportError}
    (halts : Halts start (switches + 1) position call)
    (failed : verdict start (switches + 1) position call = .failed source)
    {count : Nat}
    (within : switches < count)
    (interval : UInt64) :
    (run interval count (Worker.spawn start)).outcome =
        .failed (.transportFailure call.operation source) ∧
      (run interval count (Worker.spawn start)).state.controller =
        (midway start (switches + 1) position).onAir (target switches) ∧
      (run interval count (Worker.spawn start)).events.getLast? =
        some (.log (stopLine switches (target switches))) := by
  have first := accepts_route_of_le halts.before (Nat.le_add_left 1 switches)
  obtain ⟨-, flown⟩ := start_of_accepts first
  rw [← Nat.zero_add switches] at halts failed
  obtain ⟨finished, idle, controller⟩ :=
    switches_of_halts flown halts failed within interval
  rw [Nat.zero_add] at finished controller
  exact run_of_finish first finished idle controller

/-- A hop that halts comes to the same report whatever number of switches was wanted, if it
includes the turn that halts. -/
theorem run_eq_of_halts
    {start : Controller τ}
    {turn position : Nat}
    {call : Call}
    {source : TransportError}
    (halts : Halts start turn position call)
    (failed : verdict start turn position call = .failed source)
    {count : Nat}
    (within : turn ≤ count)
    (interval : UInt64) :
    run interval count (Worker.spawn start) = run interval turn (Worker.spawn start) := by
  refine Act.bind_congr rfl ?_
  intro _ started
  cases turn with
  | zero =>
      rw [(start_of_halts halts failed).1] at started
      cases started
  | succ switches =>
      obtain ⟨-, flown⟩ :=
        start_of_accepts (accepts_route_of_le halts.before (Nat.le_add_left 1 switches))
      obtain ⟨more, rfl⟩ := Nat.exists_eq_add_of_le within
      rw [← Nat.zero_add switches] at halts failed
      obtain ⟨finished, -⟩ :=
        switches_of_halts flown halts failed (Nat.lt_succ_self switches) interval
      exact Act.bind_congr (switches_add finished more) fun _ _ => rfl

/-- A hop with a number of switches, or without one, comes to a report. Without a number it
is the same for all numbers from some one on. -/
def EndsIn
    (interval : UInt64)
    (count? : Option UInt64)
    (start : Controller τ)
    (report : Report ControllerError (Worker τ) (Controller τ)) : Prop :=
  ∃ enough, ∀ patience, enough ≤ patience →
    run interval ((count?.map UInt64.toNat).getD patience) (Worker.spawn start) = report

/-- A hop with a number of switches, or without one, comes to a turn unless it halts before. -/
def Reaches (count? : Option UInt64) (turn : Nat) : Prop :=
  ∀ count, count? = some count → turn ≤ count.toNat

/-- A hop succeeds in a number of switches: these are all that it was to make, or the next
one halts. -/
def Makes (start : Controller τ) (count? : Option UInt64) (switches : Nat) : Prop :=
  start.Accepts (route start.state (switches + 1)) ∧
    (count?.map UInt64.toNat = some switches ∨
      Reaches count? (switches + 1) ∧
        ∃ position call, Halts start (switches + 1) position call)

end Turns

/-- What the report of a hop has to say. -/
structure Result
    [Transport σ]
    (start : Controller (Recorded σ))
    (count? : Option UInt64)
    (report : Report ControllerError (Worker (Recorded σ)) (Controller (Recorded σ))) :
    Prop where
  /-- It succeeds exactly if a number was given and the first turn and that many switches
  are accepted. -/
  done_iff : (∃ left, report.outcome = .done left) ↔
    ∃ count, count? = some count ∧ start.Accepts (route start.state (count.toNat + 1))
  /-- Then the calls of all these turns have been made, and the controller is given back. -/
  done : ∀ count, count? = some count →
    start.Accepts (route start.state (count.toNat + 1)) →
      report.outcome = .done report.state.controller ∧
        report.state.controller.posted = start.posted ++
          start.endpoints.posts (route start.state (count.toNat + 1))
  /-- Where it halts, it fails with the last call, and the calls up to this one have been
  made. -/
  halted : ∀ turn position call, Reaches count? turn → Halts start turn position call →
    ∃ source, verdict start turn position call = .failed source ∧
      report.outcome = .failed (.transportFailure call.operation source) ∧
      report.state.controller.posted = start.posted ++
        start.endpoints.posts (route start.state turn ++
          (start.state.plan (target turn)).take (position + 1))
  /-- A hop that halts in the first turn leaves the state as it was. -/
  unstarted : ∀ position call, Halts start 0 position call →
    report.state.controller.state = start.state
  /-- The switches that have succeeded determine which PHY is on air, whichever was before,
  and are reported. -/
  made : ∀ switches, Makes start count? switches →
    report.state.controller.state = { start.state with active := target switches } ∧
      report.events.getLast? = some (.log (stopLine switches (target switches)))
  /-- What discovery has settled stays. -/
  site : report.state.controller.site = start.site

@[simp] theorem posted_onAir (controller : Controller (Recorded σ)) (target : Phy) :
    (controller.onAir target).posted = controller.posted := rfl

section Results

variable [Transport σ]

theorem posted_behind (start : Controller (Recorded σ)) (switches : Nat) :
    (behind start switches).posted =
      start.posted ++ start.endpoints.posts (route start.state (switches + 1)) :=
  Controller.posted_asked start _

theorem posted_midway (start : Controller (Recorded σ)) (turn position : Nat) :
    (midway start turn position).posted = start.posted ++
      start.endpoints.posts (route start.state turn ++
        (start.state.plan (target turn)).take (position + 1)) :=
  Controller.posted_asked start _

/-- A hop that gets through all its turns. -/
theorem result_of_accepts
    {start : Controller (Recorded σ)}
    {count : UInt64}
    (accepts : start.Accepts (route start.state (count.toNat + 1)))
    (interval : UInt64) :
    Result start (some count) (run interval count.toNat (Worker.spawn start)) := by
  obtain ⟨outcome, controller, line⟩ := run_of_accepts accepts interval
  have nowhere : ∀ turn position call, Reaches (some count) turn →
      ¬ Halts start turn position call := by
    intro turn position call reaches halts
    exact halts.not_accepts (Nat.lt_succ_of_le (reaches count rfl)) accepts
  constructor
  case done_iff => exact ⟨fun _ => ⟨count, rfl, accepts⟩, fun _ => ⟨_, outcome⟩⟩
  case done =>
    rintro _ ⟨⟩ -
    rw [controller]
    exact ⟨outcome, posted_behind start count.toNat⟩
  case halted =>
    intro turn position call reaches halts
    exact absurd halts (nowhere turn position call reaches)
  case unstarted =>
    intro position call halts
    exact absurd halts (nowhere 0 position call fun _ _ => Nat.zero_le _)
  case made =>
    rintro switches ⟨-, all | ⟨reaches, position, call, halts⟩⟩
    · obtain rfl : count.toNat = switches := Option.some.inj all
      rw [controller]
      exact ⟨rfl, line⟩
    · exact absurd halts (nowhere _ position call reaches)
  case site =>
    rw [controller]
    rfl

/-- A hop that halts. -/
theorem result_of_halts
    {start : Controller (Recorded σ)}
    {count? : Option UInt64}
    {turn position : Nat}
    {call : Call}
    {source : TransportError}
    (reaches : Reaches count? turn)
    (halts : Halts start turn position call)
    (failed : verdict start turn position call = .failed source)
    (interval : UInt64) :
    Result start count? (run interval turn (Worker.spawn start)) := by
  have refused : ∀ count, count? = some count →
      ¬ start.Accepts (route start.state (count.toNat + 1)) := by
    intro count given
    exact halts.not_accepts (Nat.lt_succ_of_le (reaches count given))
  have outcome : (run interval turn (Worker.spawn start)).outcome =
      .failed (.transportFailure call.operation source) := by
    cases turn with
    | zero => exact (run_of_halts_first halts failed interval 0).1
    | succ switches => exact (run_of_halts_later halts failed (Nat.lt_succ_self _) interval).1
  have left : ∃ active, (run interval turn (Worker.spawn start)).state.controller =
      (midway start turn position).onAir active := by
    cases turn with
    | zero => exact ⟨start.state.active, (run_of_halts_first halts failed interval 0).2⟩
    | succ switches =>
        exact ⟨_, (run_of_halts_later halts failed (Nat.lt_succ_self _) interval).2.1⟩
  obtain ⟨active, controller⟩ := left
  constructor
  case done_iff =>
    constructor
    · rintro ⟨left, done⟩
      rw [outcome] at done
      cases done
    · rintro ⟨count, given, accepts⟩
      exact absurd accepts (refused count given)
  case done =>
    intro count given accepts
    exact absurd accepts (refused count given)
  case halted =>
    intro other place last _ alsoHalts
    obtain ⟨rfl, rfl, rfl⟩ := halts.unique alsoHalts
    rw [controller, posted_onAir]
    exact ⟨source, failed, outcome, posted_midway start turn position⟩
  case unstarted =>
    intro place last alsoHalts
    obtain ⟨rfl, rfl, rfl⟩ := halts.unique alsoHalts
    rw [(run_of_halts_first halts failed interval 0).2]
    rfl
  case made =>
    rintro switches ⟨accepts, all | ⟨-, place, last, alsoHalts⟩⟩
    · obtain ⟨count, given, rfl⟩ := Option.map_eq_some_iff.mp all
      exact absurd accepts (refused count given)
    · obtain ⟨rfl, rfl, rfl⟩ := halts.unique alsoHalts
      obtain ⟨-, later, line⟩ :=
        run_of_halts_later halts failed (Nat.lt_succ_self switches) interval
      rw [later]
      exact ⟨rfl, line⟩
  case site =>
    rw [controller]
    rfl

/-- Every hop with a number of switches comes to an end, and so does one without a number if
some call fails. It follows its route up to the end or to the first call that fails. -/
theorem run_follows_route
    (start : Controller (Recorded σ))
    (interval : UInt64)
    (count? : Option UInt64)
    (ends : count? = none → ∃ turn position call, Halts start turn position call)
    (sound : ∀ turn position call, Reaches count? turn → Halts start turn position call →
      verdict start turn position call ≠ .crashed) :
    ∃ report, EndsIn interval count? start report ∧ Result start count? report := by
  have cases : (∃ count, count? = some count ∧
        start.Accepts (route start.state (count.toNat + 1))) ∨
      ∃ turn position call, Reaches count? turn ∧ Halts start turn position call := by
    cases count? with
    | none =>
        obtain ⟨turn, position, call, halts⟩ := ends rfl
        exact .inr ⟨turn, position, call, nofun, halts⟩
    | some count =>
        rcases accepts_or_halts start (count.toNat + 1) with
          accepts | ⟨turn, within, position, call, halts⟩
        · exact .inl ⟨count, rfl, accepts⟩
        · refine .inr ⟨turn, position, call, ?_, halts⟩
          rintro _ ⟨⟩
          exact Nat.le_of_lt_succ within
  rcases cases with ⟨count, rfl, accepts⟩ | ⟨turn, position, call, reaches, halts⟩
  · exact ⟨_, ⟨0, fun _ _ => rfl⟩, result_of_accepts accepts interval⟩
  · cases failed : verdict start turn position call with
    | done value => exact absurd failed halts.stops.refused
    | crashed => exact absurd failed (sound turn position call reaches halts)
    | failed source =>
        refine ⟨run interval turn (Worker.spawn start), ⟨turn, ?_⟩,
          result_of_halts reaches halts failed interval⟩
        intro patience enough
        cases count? with
        | none => exact run_eq_of_halts halts failed enough interval
        | some count => exact run_eq_of_halts halts failed (reaches count rfl) interval

end Results

/-- A controller with PHY 1 on air whose twenty-second call will be refused. -/
def stumbling : Controller (Recorded Scripted) :=
  { Controller.fresh "http://flowgraph" ⟨.ofFn fun role => some role.key⟩
      (Recorded.fresh
        { document := .error .crash
          rules := { byNumber := [(22, .status 500)], byOperation := [] }
          made := 0 }) with
    state := { ControllerState.initial with active := .phy1, mode := .direct } }

/-- Without a number of switches, the hop ends with the second of them, at the fourth of its
nine calls. -/
theorem run_follows_route_stumbling :
    Halts stumbling 2 3 ⟨.rfSourceGain, .real stumbling.state.table.phy0.rxGain⟩ ∧
      ∃ report, EndsIn 500 none stumbling report ∧ Result stumbling none report := by
  have refused : verdict stumbling 2 3
      ⟨.rfSourceGain, .real stumbling.state.table.phy0.rxGain⟩ =
        .failed (.status 500 "http://flowgraph/block/rf_source/call/1/") := by
    decide +kernel
  have halts : Halts stumbling 2 3 ⟨.rfSourceGain, .real stumbling.state.table.phy0.rxGain⟩ := by
    refine ⟨?_, ?_, ?_, ?_⟩
    · rw [← Controller.outcome_forEach_issue_eq_done_iff]
      decide +kernel
    · decide +kernel
    · rw [← Controller.outcome_forEach_issue_eq_done_iff]
      decide +kernel
    · intro done
      rw [verdict, done] at refused
      cases refused
  refine ⟨halts, run_follows_route stumbling 500 none (fun _ => ⟨_, _, _, halts⟩) ?_⟩
  intro turn position call _ alsoHalts
  obtain ⟨rfl, rfl, rfl⟩ := halts.unique alsoHalts
  rw [refused]
  exact nofun

end Hop
end DualPhy
