import DualPhy.CommandLine.Directive
import DualPhy.Text.Control
import DualPhy.Text.Cut

/-!
# Which lines of the log are shown

A filter is written as directives with commas between them. Of the directives
that cover a line, the one that describes it most closely decides, and of several
equally close ones the last. A line that none covers is not shown. Without any
directive only errors are shown.
-/

namespace DualPhy

/-- Which lines of the log are shown. -/
structure LogFilter where
  /-- The directives, in the order written. -/
  directives : List Directive

namespace LogFilter

/-- Read a filter. -/
def read? (text : String) : Option LogFilter :=
  let parts := (Text.cutAt ',' text.toList).filter (· ≠ [])
  (parts.mapM Directive.read?).map LogFilter.mk

/-- The filter that shows the lines down to a level. -/
def upTo (level : Level) : LogFilter := ⟨[{ Directive.all with threshold := level.rank + 1 }]⟩

/-- The filter of a run: the one that is written, if it can be read, and else
one that shows debug lines only when asked to. -/
def choose (written : Option String) (verbose : Bool) : LogFilter :=
  ((written.bind read?)).getD (upTo (if verbose then .debug else .info))

/-- The closer of two directives, the second one if they are equally close. -/
def closer (best : Option Directive) (next : Directive) : Option Directive :=
  match best with
  | none => some next
  | some best => if next.isAsClose best then some next else some best

/-- The directive that decides about a line. -/
def deciding? (filter : LogFilter) (line : LogLine) : Option Directive :=
  (filter.directives.filter fun directive => directive.covers line).foldl closer none

/-- How many levels are shown where a line comes from. -/
def threshold (filter : LogFilter) (line : LogLine) : Nat :=
  if filter.directives = [] then 1
  else ((filter.deciding? line).map Directive.threshold).getD 0

/-- Whether a line is shown. -/
def shows (filter : LogFilter) (line : LogLine) : Bool :=
  line.level.rank < filter.threshold line

end LogFilter

namespace LogLine

/-- Text of a line, as it is given to a terminal. -/
def text (line : LogLine) : String := line.level.name ++ " " ++ Text.harmless line.message

end LogLine
end DualPhy
