import FiveStage.CommandLine.Arguments
import FiveStage.CommandLine.Surroundings

/-!
# Sessions

What a command does follows from its arguments and from what it finds in its surroundings: it
prints, may write a file, and ends with an exit status of eight bits.

## Main definitions

* `Session`: what a command leaves
* `Session.simulator`: runs one program and prints the report
-/

namespace FiveStage

/-- What a command leaves: its exit status, what it printed to its output and to its diagnostics,
and the content of the table it wrote. -/
structure Session where
  status : Nat
  output : String := ""
  diagnostics : List String := []
  table : Option String := none

namespace Session

/-- The status of a command that was used wrongly. -/
def usageStatus : Nat := 2

/-- The status of a command that failed. -/
def failureStatus : Nat := 1

/-- The status of a command that panicked. -/
def panicStatus : Nat := 101

/-- The exit status of a program's exit code, of which eight bits are kept. -/
def statusOf (exitCode : Int) : Nat := (exitCode % 256).toNat

/-- A session that ends with a failure. -/
def failed (output : String) (log : Log) (failure : Failure) : Session where
  status := if failure.isPanic then panicStatus else failureStatus
  output
  diagnostics :=
    log.render ++ [(if failure.isPanic then "thread panicked: " else "Error: ") ++ failure.message]

/-- The least severity of the lines that the simulator shows. -/
def threshold (arguments : Arguments) : Severity := if arguments.verbose then .debug else .warn

/-- The text for a settings file that is not there. -/
def missingSettings (path : String) : String := s!"Config file {path} not found, nothing to run\n"

/-- The simulation that the arguments ask for. -/
def simulationOf (headers : HeaderReader) (arguments : Arguments) (settings : Settings)
    (program : Finding) : Simulation where
  headers
  path := arguments.program
  found := program
  settings
  heuristic := arguments.heuristic
  cycleLimit := arguments.cycleLimit

/-- Takes the settings and the program as they were found, or ends the session before there is
anything to run. -/
def opening (headers : HeaderReader) (arguments : Arguments) (settings program : Finding) :
    Except Session (Simulation × Log) :=
  let path := arguments.settingsPath
  if settings.exists then
    match (Settings.ofFile path settings).run { threshold := some (threshold arguments) } with
    | .error failure log => .error (failed "" log failure)
    | .ok settings log => .ok (simulationOf headers arguments settings program, log)
  else .error { status := 0, output := missingSettings path }

/-- Prints what a simulation left. -/
def closing (outcome : Simulation.Outcome) : Session :=
  match outcome.result with
  | .error failure => failed outcome.host.output outcome.log failure
  | .ok report =>
    { status := statusOf report.exitCode
      output := outcome.host.output ++ report.text ++ "\n"
      diagnostics := outcome.log.render }

/-- A session that ends because the arguments were refused, or because help was asked for. -/
def refused : Arguments.Refusal → Session
  | .help => { status := 0, output := Arguments.helpText ++ "\n" }
  | refusal => { status := usageStatus, diagnostics := [refusal.message] }

/-- The simulator: it takes the settings and a program, runs it and prints the report. -/
def simulator {m : Type → Type} [Monad m] (around : Surroundings m) (arguments : List String) :
    m Session := do
  match Arguments.read arguments with
  | .error refusal => return refused refusal
  | .ok arguments =>
    let settings ← around.find arguments.settingsPath
    let program ← around.find arguments.program
    match opening around.headers arguments settings program with
    | .error session => return session
    | .ok (simulation, log) => return closing (← around.run simulation log)

end Session

end FiveStage
