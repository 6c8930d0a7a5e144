import DevCluster.Arguments.Vocabulary
import DevCluster.Diagnostics.Filter
import DevCluster.Diagnostics.Render
import DevCluster.Environment

/-!
The log of a run: which events are written, and how.
-/

namespace DevCluster

structure Log where
  filter : Filter
  style : LogStyle
  clock : Clock

namespace Log

def styleFor (environment : Environment) : Arguments.LogFormat → LogStyle
  | .json => .json
  | .auto | .text => if environment.showsColours then .coloured else .plain

/-- The filter of the environment if it can be read, else that of the command line with complaints
about all of it that cannot be read. -/
def filterFor (environment : Environment) (level : String) : Filter × List String :=
  match (environment "RUST_LOG").bind Filter.ofText? with
  | some filter => (filter, [])
  | none => Filter.ofTextLossy level

/-- What is written of an event within spans. Spans that are not shown are as if they were not
there. -/
def written? (log : Log) (spans : List Span) (event : Event) : Option String :=
  let shown := spans.filter log.filter.showsSpan
  if log.filter.shows shown event.record then
    some (event.record.render log.style log.clock shown)
  else none

/-- What is written of a line that is said. Blank lines are not noted. -/
def writtenOfLine? (log : Log) (spans : List Span) : Line → Option String
  | .blank => none
  | line => log.written? spans (.lineSaid line)

end Log

end DevCluster
