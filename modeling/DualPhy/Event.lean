import DualPhy.Console.Prompt
import DualPhy.Http.Message
import DualPhy.Progress.Bar

/-!
# Events

What a run shows to the outside besides its results, in the order in which it
happens: lines of the log, text on standard output, pauses, requests, prompts,
and progress bars that are closed.
-/

namespace DualPhy

/-- How much a line of the log matters. -/
inductive Level
  /-- Something failed. -/
  | error
  /-- Something is not as it should be. -/
  | warn
  /-- Progress of the work. -/
  | info
  /-- Every remote call and pending change. -/
  | debug
  deriving DecidableEq

namespace Level

/-- Name of a level in front of a line. -/
def name : Level → String
  | .error => "ERROR"
  | .warn => "WARN"
  | .info => "INFO"
  | .debug => "DEBUG"

/-- How many levels matter more. -/
def rank : Level → Nat
  | .error => 0
  | .warn => 1
  | .info => 2
  | .debug => 3

end Level

/-- What a line of the log is about. -/
inductive Topic
  /-- The run as a whole. -/
  | program
  /-- Blocks and the roles they play. -/
  | discovery
  /-- What the controller does. -/
  | controller
  /-- The life of a worker. -/
  | worker
  /-- Requests. -/
  | transport
  /-- What is done at the console. -/
  | console
  deriving DecidableEq

namespace Topic

/-- Name of a topic, by which a filter finds its lines. The name of a narrower
topic continues the name of a wider one. -/
def name : Topic → String
  | .program => "phyctl::main"
  | .discovery => "phyctl::directory"
  | .controller => "phyctl::controller"
  | .worker => "phyctl::controller::worker"
  | .transport => "phyctl::transport::http"
  | .console => "phyctl::ui::console"

end Topic

/-- A line of the log. -/
structure LogLine where
  /-- What it is about. -/
  topic : Topic
  /-- How much it matters. -/
  level : Level
  /-- What it says. -/
  message : String
  deriving DecidableEq

/-- Something that the outside can see. -/
inductive Event
  /-- A line is logged. -/
  | log (line : LogLine)
  /-- Text is written to standard output. -/
  | print (text : String)
  /-- Nothing happens for a number of milliseconds. -/
  | pause (milliseconds : UInt64)
  /-- A request is made. -/
  | request (made : Request)
  /-- A question is asked. -/
  | prompt (asked : Prompt)
  /-- A progress bar is closed. -/
  | barClosed (id : String) (bar : Bar)
  deriving DecidableEq

namespace Event

/-- The line that an event logs. -/
def logLine? : Event → Option LogLine
  | .log line => some line
  | _ => none

/-- The lines that events log. -/
def logLines (events : List Event) : List LogLine := events.filterMap logLine?

/-- The text that an event writes to standard output. -/
def printed? : Event → Option String
  | .print text => some text
  | _ => none

/-- The text that events write to standard output. -/
def printed (events : List Event) : String :=
  String.join (events.filterMap printed?)

/-- The request that an event makes. -/
def request? : Event → Option Request
  | .request made => some made
  | _ => none

/-- The requests that events make. -/
def requests (events : List Event) : List Request := events.filterMap request?

end Event
end DualPhy
