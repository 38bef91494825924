import DualPhy.CommandLine.LogFilter
import DualPhy.CommandLine.Run
import DualPhy.Profile.Preview

/-!
# Runs as processes

What a run leaves behind: its exit code, its standard output, and the lines of
the log that its filter shows, the error that ended it being the last one.
-/

namespace DualPhy
namespace CommandLine

/-- The end of a run. -/
structure Ending where
  /-- The error that ended it, if one did. -/
  error : Option RunError
  /-- The events of the run. -/
  events : List Event

namespace Ending

/-- The end of an act, unless it broke down. -/
def ofReport? (report : Report RunError σ Unit) : Option Ending :=
  match report.outcome with
  | .done () => some ⟨none, report.events⟩
  | .failed error => some ⟨some error, report.events⟩
  | .crashed => none

/-- Zero after a success, one after a failure. -/
def exitCode (ending : Ending) : Nat := if ending.error.isNone then 0 else 1

/-- All lines of the log. -/
def logLines (ending : Ending) : List LogLine :=
  Event.logLines ending.events ++
    (ending.error.toList.map fun error => ⟨.program, .error, error.message⟩)

/-- The lines of text that a filter shows. A message with line breaks takes
several. -/
def shown (filter : LogFilter) (ending : Ending) : List String :=
  (ending.logLines.filter filter.shows).flatMap fun line =>
    (Text.cutAt '\n' line.text.toList).map String.ofList

end Ending

namespace Usage

/-- Zero for a message that was asked for, two for a mistake. -/
def exitCode : Usage → Nat
  | .help | .version => 0
  | _ => 2

end Usage

/-- What the preview of a profile leaves behind. -/
structure PreviewEnding where
  /-- The exit code. -/
  exitCode : Nat
  /-- The standard output. -/
  output : String
  /-- The standard error. -/
  problem : String

/-- Preview the profile of a path, or the stock one. -/
def previewProfile
    (fileText : String → Except FileError String)
    (path : Option String) :
    PreviewEnding :=
  match path with
  | none => ⟨0, Profile.initial.previewText, ""⟩
  | some path =>
      match loadProfile fileText path with
      | .ok profile => ⟨0, profile.previewText, ""⟩
      | .error error => ⟨1, "", error.message⟩

end CommandLine
end DualPhy
