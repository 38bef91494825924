import DualPhy.CommandLine.Run

/-!
# What a run waits for

A run that is given too few replies or keys breaks down where it needs the next
one. From its events it can be told which reply or answer that is.
-/

namespace DualPhy
namespace CommandLine

/-- What has come in from the outside. -/
structure Intakes where
  /-- The replies to the requests made. -/
  replies : List Reply
  /-- The keys pressed. -/
  keys : List Key
  /-- How many events have been shown. -/
  shown : Nat

/-- What a run is waiting for. -/
inductive Want
  /-- The reply to a request. -/
  | reply (request : Request)
  /-- An answer to a question. -/
  | keys (prompt : Prompt)
  /-- Nothing. -/
  | nothing

namespace Intakes

/-- Cut events behind the first request that has no reply yet. -/
def untilUnanswered : (replies : Nat) → List Event → List Event × Option Request
  | _, [] => ([], none)
  | replies, event :: events =>
      match event, replies with
      | .request request, 0 => ([event], some request)
      | .request _, replies + 1 =>
          let (events, open?) := untilUnanswered replies events
          (event :: events, open?)
      | _, replies =>
          let (events, open?) := untilUnanswered replies events
          (event :: events, open?)

/-- The question that was asked last. -/
def lastPrompt? (events : List Event) : Option Prompt :=
  events.foldl (fun last event =>
    match event with
    | .prompt prompt => some prompt
    | _ => last) none

/-- What a run with these events is waiting for, and the events so far. -/
def want (intakes : Intakes) (report : Report RunError σ Unit) : List Event × Want :=
  match untilUnanswered intakes.replies.length report.events with
  | (events, some request) => (events, .reply request)
  | (events, none) =>
      match report.outcome, lastPrompt? events with
      | .crashed, some prompt => (events, .keys prompt)
      | _, _ => (events, .nothing)

end Intakes

end CommandLine
end DualPhy
