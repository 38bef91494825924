import DualPhy.Event

/-!
# Acts

An `Act` runs over a state and gives a `Report`: how it ended, the state it
left, and the events of the run. It ends with a value, with an error, or with a
crash, which no act can handle. The state it left counts in all three cases, so
that nothing that was done before a failure is undone by it.
-/

namespace DualPhy

/-- How an act ended. -/
inductive Outcome (ε α : Type)
  /-- With a value. -/
  | done (value : α)
  /-- With an error. -/
  | failed (error : ε)
  /-- It broke down. -/
  | crashed
  deriving DecidableEq

namespace Outcome

/-- The same outcome with another error. -/
def mapError (change : ε → δ) : Outcome ε α → Outcome δ α
  | .done value => .done value
  | .failed error => .failed (change error)
  | .crashed => .crashed

/-- The same outcome with another value. -/
def map (change : α → β) : Outcome ε α → Outcome ε β
  | .done value => .done (change value)
  | .failed error => .failed error
  | .crashed => .crashed

/-- An error as a value; a crash stays one. -/
def attempt : Outcome ε α → Outcome δ (Except ε α)
  | .done value => .done (.ok value)
  | .failed error => .done (.error error)
  | .crashed => .crashed

end Outcome

/-- What an act did. -/
structure Report (ε σ α : Type) where
  /-- How it ended. -/
  outcome : Outcome ε α
  /-- The state it left. -/
  state : σ
  /-- What could be seen of it. -/
  events : List Event

/-- An activity over a state of type `σ` that gives a value or an error. -/
def Act (ε σ α : Type) := σ → Report ε σ α

namespace Act

/-- Do nothing and give a value. -/
def done (value : α) : Act ε σ α := fun state => ⟨.done value, state, []⟩

/-- Fail. -/
def fail (error : ε) : Act ε σ α := fun state => ⟨.failed error, state, []⟩

/-- Break down. -/
def crash : Act ε σ α := fun state => ⟨.crashed, state, []⟩

/-- Run an act, and if it ends with a value go on with that. -/
def andThen (act : Act ε σ α) (next : α → Act ε σ β) : Act ε σ β := fun state =>
  match act state with
  | ⟨.done value, state, events⟩ =>
      let report := next value state
      { report with events := events ++ report.events }
  | ⟨.failed error, state, events⟩ => ⟨.failed error, state, events⟩
  | ⟨.crashed, state, events⟩ => ⟨.crashed, state, events⟩

instance : Monad (Act ε σ) where
  pure := done
  bind := andThen

/-- Give a value or fail. -/
def ofExcept : Except ε α → Act ε σ α
  | .ok value => done value
  | .error error => fail error

/-- The state. -/
def state : Act ε σ σ := fun state => ⟨.done state, state, []⟩

/-- Change the state. -/
def modify (change : σ → σ) : Act ε σ Unit := fun state => ⟨.done (), change state, []⟩

/-- Let an event happen. -/
def emit (event : Event) : Act ε σ Unit := fun state => ⟨.done (), state, [event]⟩

/-- Log a line. -/
def log (topic : Topic) (level : Level) (message : String) : Act ε σ Unit :=
  emit (.log { topic, level, message })

/-- Write a line to standard output. -/
def printLine (line : String) : Act ε σ Unit := emit (.print (line ++ "\n"))

/-- Run an act and take its error as a value. -/
def attempt (act : Act ε σ α) : Act δ σ (Except ε α) := fun state =>
  let report := act state
  ⟨report.outcome.attempt, report.state, report.events⟩

/-- Run an act and change its error. -/
def mapError (change : ε → δ) (act : Act ε σ α) : Act δ σ α := fun state =>
  let report := act state
  ⟨report.outcome.mapError change, report.state, report.events⟩

/-- Run an act over a part of the state. -/
def onPart (part : σ → τ) (replace : τ → σ → σ) (act : Act ε τ α) : Act ε σ α := fun state =>
  let report := act (part state)
  ⟨report.outcome, replace report.state state, report.events⟩

/-- Run an act for every item of a list. -/
def forEach (act : α → Act ε σ Unit) : List α → Act ε σ Unit
  | [] => done ()
  | item :: items => do
      act item
      forEach act items

end Act
end DualPhy
