/-!
# Logs

What a run reports on the way is data: a list of lines with a severity, kept beside the state it is
about. A log has a threshold, and lines below it are not even worded.
-/

namespace FiveStage

/-- How much a line of a log matters. -/
inductive Severity
  | trace
  | debug
  | info
  | warn
deriving DecidableEq, Repr

/-- Places the severities in ascending order. -/
def Severity.rank : Severity → Nat
  | .trace => 0
  | .debug => 1
  | .info => 2
  | .warn => 3

/-- The word in front of a line. -/
def Severity.label : Severity → String
  | .trace => "TRACE"
  | .debug => "DEBUG"
  | .info => "INFO"
  | .warn => "WARN"

/-- The lines reported so far and the least severity that is kept; without one nothing is kept. -/
structure Log where
  threshold : Option Severity := none
  lines : Array (Severity × String) := #[]

namespace Log

/-- Whether lines of the severity are kept. -/
def keeps (log : Log) (severity : Severity) : Bool :=
  match log.threshold with
  | none => false
  | some least => least.rank ≤ severity.rank

/-- The log with one more line, if lines of its severity are kept. -/
def add (log : Log) (severity : Severity) (line : Unit → String) : Log :=
  if log.keeps severity then { log with lines := log.lines.push (severity, line ()) } else log

/-- The lines as they are shown, each after its severity. -/
def render (log : Log) : List String :=
  log.lines.toList.map fun (severity, line) => severity.label ++ " " ++ line

end Log

/-- A state with the log kept beside it. -/
structure Logged (α : Type) where
  value : α
  log : Log

end FiveStage
