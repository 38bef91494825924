import DualPhy.Controller

/-!
# Workers

A worker owns a controller and runs the commands of its clients one at a time,
in the order in which they were queued. Every request has a ticket, under which
its reply is delivered. When the worker ends, by a shutdown that reaches the
front of the queue or because the controller breaks down, the requests that are
still queued and all later ones are told that the worker has gone.
-/

namespace DualPhy

/-- What a client can ask of a worker. -/
inductive Command
  /-- Put the PHY of a number on air. -/
  | select (index : Nat)
  /-- Put the other PHY on air. -/
  | switch
  /-- Set the tuning mode. -/
  | setMode (mode : TuningMode)
  /-- Give the state. -/
  | snapshot
  deriving DecidableEq

/-- What a command gives when it succeeds. -/
inductive CommandResult
  /-- The PHY is on air. -/
  | selected
  /-- The PHY that is on air now. -/
  | switched (phy : Phy)
  /-- The mode is set. -/
  | modeSet
  /-- The state. -/
  | snapshot (state : ControllerState)
  deriving DecidableEq

namespace Command

/-- Run a command on a controller. -/
def run [Transport τ] : Command → Controller.Run τ CommandResult
  | .select index => do
      Controller.select index
      return .selected
  | .switch => do
      let phy ← Controller.switch
      return .switched phy
  | .setMode mode => do
      Controller.setMode mode
      return .modeSet
  | .snapshot => do
      let controller ← Act.state
      return .snapshot controller.state

end Command

/-- What is queued for a worker. -/
inductive Message
  /-- A command, with the ticket for its reply. -/
  | request (ticket : Nat) (command : Command)
  /-- The wish that the worker stop. -/
  | shutdown
  deriving DecidableEq

/-- Whether a worker is at work. -/
inductive Life
  /-- It takes commands. -/
  | running
  /-- It has stopped in good order. -/
  | stopped
  /-- The controller broke down. -/
  | broken
  deriving DecidableEq

/-- What a client receives for a request. -/
abbrev Answer := Except ControllerError CommandResult

/-- A worker. -/
structure Worker (τ : Type) where
  /-- The controller it owns. -/
  controller : Controller τ
  /-- What it has still to do, the next thing first. -/
  queue : List Message
  /-- Whether it is at work. -/
  life : Life
  /-- The answers, each under its ticket, in the order of their delivery. -/
  delivered : List (Nat × Answer)

namespace Worker

/-- Start a worker. -/
def spawn (controller : Controller τ) : Worker τ where
  controller := controller
  queue := []
  life := .running
  delivered := []

/-- What is logged when a worker starts. -/
def startEvents : List Event := [.log ⟨.worker, .info, "Controller worker started"⟩]

/-- What is logged when a worker stops. -/
def stopEvents : List Event := [.log ⟨.worker, .info, "Controller worker stopped"⟩]

/-- What is logged when a worker takes a shutdown from its queue. -/
def shutdownEvents : List Event :=
  .log ⟨.worker, .debug, "Controller worker shutting down"⟩ :: stopEvents

/-- The answers to requests that will not be served. -/
def turnedAway (messages : List Message) : List (Nat × Answer) :=
  messages.filterMap fun message =>
    match message with
    | .request ticket _ => some (ticket, .error .workerGone)
    | .shutdown => none

/-- Queue a message. A worker that has ended answers at once. -/
def post (message : Message) (worker : Worker τ) : Worker τ :=
  match worker.life with
  | .running => { worker with queue := worker.queue ++ [message] }
  | _ => { worker with delivered := worker.delivered ++ turnedAway [message] }

/-- End a worker and turn the queued requests away. -/
def finish (life : Life) (worker : Worker τ) : Worker τ :=
  { worker with
    queue := []
    life
    delivered := worker.delivered ++ turnedAway worker.queue }

/-- Serve one request. -/
def serve
    [Transport τ]
    (ticket : Nat)
    (command : Command)
    (worker : Worker τ) :
    Worker τ × List Event :=
  let report := command.run worker.controller
  let worker := { worker with controller := report.state }
  let deliver (answer : Answer) : Worker τ :=
    { worker with delivered := worker.delivered ++ [(ticket, answer)] }
  match report.outcome with
  | .done result => (deliver (.ok result), report.events)
  | .failed error => (deliver (.error error), report.events)
  | .crashed => ((deliver (.error .workerGone)).finish .broken, report.events)

/-- Do the next thing in the queue. -/
def step [Transport τ] (worker : Worker τ) : Worker τ × List Event :=
  match worker.life, worker.queue with
  | .running, .request ticket command :: rest =>
      serve ticket command { worker with queue := rest }
  | .running, .shutdown :: rest =>
      ({ worker with queue := rest }.finish .stopped, shutdownEvents)
  | _, _ => (worker, [])

/-- Do a number of things. -/
def steps [Transport τ] : (count : Nat) → Worker τ → Worker τ × List Event
  | 0, worker => (worker, [])
  | count + 1, worker =>
      let (worker, events) := worker.step
      let (worker, later) := worker.steps count
      (worker, events ++ later)

/-- Do everything in the queue. -/
def drain [Transport τ] (worker : Worker τ) : Worker τ × List Event :=
  worker.steps worker.queue.length

/-- A ticket that no request has yet, when all were numbered from zero on. -/
def nextTicket (worker : Worker τ) : Nat :=
  worker.delivered.length + (turnedAway worker.queue).length

/-- Make a request as the only client and wait for the answer. -/
def ask [Transport τ] (command : Command) : Act ControllerError (Worker τ) CommandResult :=
  fun worker =>
    let ticket := worker.nextTicket
    let (worker, events) := (worker.post (.request ticket command)).drain
    match worker.delivered.lookup ticket with
    | some (.ok result) => ⟨.done result, worker, events⟩
    | some (.error error) => ⟨.failed error, worker, events⟩
    | none => ⟨.failed .workerGone, worker, events⟩

/-- Queue commands under fresh tickets. -/
def postAll : List Command → Worker τ → Worker τ
  | [], worker => worker
  | command :: commands, worker =>
      (worker.post (.request worker.nextTicket command)).postAll commands

/-- Let clients queue commands and wait for all answers, which come in the order
of the queue. -/
def askAll [Transport τ] (commands : List Command) (worker : Worker τ) :
    List Answer × Worker τ × List Event :=
  let earlier := worker.delivered.length
  let (worker, events) := (worker.postAll commands).drain
  ((worker.delivered.drop earlier).map Prod.snd, worker, events)

/-- Stop a worker and take its controller back. -/
def join [Transport τ] : Act ControllerError (Worker τ) (Controller τ) := fun worker =>
  let (worker, events) := (worker.post .shutdown).drain
  match worker.life with
  | .broken => ⟨.failed .workerGone, worker, events⟩
  | _ => ⟨.done worker.controller, worker, events⟩

/-- Let go of a worker: it does what is queued and stops. -/
def release [Transport τ] : Act ε (Worker τ) Unit := fun worker =>
  let (worker, events) := worker.drain
  match worker.life with
  | .running => ⟨.done (), worker.finish .stopped, events ++ stopEvents⟩
  | _ => ⟨.done (), worker, events⟩

end Worker
end DualPhy
