import FiveStage.CommandLine.Session

/-!
# Evaluations

A list of programs is run under every heuristic, and the figures of each run become a row of a
table. A program that fails has its row too; a run that panics ends the evaluation, and leaves the
rows of the runs before it. The table is a text of comma-separated values.

## Main definitions

* `Table.field`, `Table.text`: comma-separated values
* `Session.Trial`: a run with what it leaves
* `Session.evaluation`: runs the programs and writes the table
-/

namespace FiveStage

open Text

namespace Table

/-- Whether a character can stand in a value only between quotes. -/
def needsQuotes (c : Char) : Bool := c == '"' || c == ',' || c == '\r' || c == '\n'

/-- A value as it stands in a table: between quotes if need be, with its own quotes doubled. -/
def field (value : String) : String :=
  if value.toList.any needsQuotes then
    let doubled := value.toList.flatMap fun c => if c = '"' then ['"', '"'] else [c]
    "\"" ++ String.ofList doubled ++ "\""
  else value

/-- A row of a table. -/
def row (values : List String) : String := String.intercalate "," (values.map field) ++ "\n"

/-- The rows of a table, one under the other. -/
def text (rows : List (List String)) : String := String.join (rows.map row)

end Table

namespace Session

/-- The directory of the table. -/
def tableDirectory : String := "eval"

/-- The file that the table is written to. -/
def tableName : String := "sim_eval.csv"

/-- The path of the table. -/
def tablePath : String := tableDirectory ++ "/" ++ tableName

/-- The cycles after which a run of an evaluation is given up. -/
def evaluationLimit : Nat := 100000000

/-- The first row. -/
def columns : List String :=
  ["Program", "Predictor", "Cycles", "Instructions", "CPI", "Prediction accuracy", "L1 miss rate"]

/-- The figures of a run, or what stands in their place. -/
def figures : Except Failure Report → List String
  | .ok report =>
    [ toString report.counters.cycles,
      toString report.counters.retired,
      fixed 3 report.counters.ticksPerInstruction,
      fixed 3 report.counters.accuracy,
      fixed 4 report.topMissRate ]
  | .error _ => List.replicate 5 "Error"

/-- A program that is run under a heuristic, and what the run leaves. -/
structure Trial where
  program : String
  heuristic : Heuristic
  outcome : Simulation.Outcome

/-- Runs a program under a heuristic. -/
def Trial.of (headers : HeaderReader) (settings : Settings) (program : String)
    (heuristic : Heuristic) (found : Finding) : Trial :=
  let simulation : Simulation :=
    { headers, path := program, found, settings, heuristic, cycleLimit := some evaluationLimit }
  { program, heuristic, outcome := simulation.run {} { threshold := some .warn } }

/-- Whether a run has panicked. -/
def Trial.isPanic (trial : Trial) : Bool :=
  match trial.outcome.result with
  | .ok _ => false
  | .error failure => failure.isPanic

/-- The row of a run. -/
def Trial.row (trial : Trial) : List String :=
  trial.program :: trial.heuristic.code :: figures trial.outcome.result

/-- What is said about a run besides its row. -/
def Trial.remarks (trial : Trial) : List String :=
  trial.outcome.log.render ++
    match trial.outcome.result with
    | .ok _ => []
    | .error failure => [s!"WARN failed to run '{trial.program}': {failure.message}"]

/-- What is to be run, program by program. -/
def agenda (programs : List String) : List (String × Heuristic) :=
  programs.flatMap fun program => Heuristic.all.map fun heuristic => (program, heuristic)

/-- The session that leaves the table of the runs that came to an end. -/
def tabulate (log : Log) (trials : List Trial) : Session :=
  let panicked := trials.any Trial.isPanic
  let ended := trials.filter fun trial => !trial.isPanic
  { status := if panicked then panicStatus else 0
    output := if panicked then "" else s!"Results written to {tablePath}\n"
    diagnostics := log.render ++ trials.flatMap Trial.remarks
    table := some (Table.text (columns :: ended.map Trial.row)) }

/-- The settings of an evaluation: those of the default file, if it is there. -/
def evaluationSettings (found : Finding) : EStateM Failure Log Settings :=
  if found.exists then Settings.ofFile Arguments.defaultSettingsPath found
  else pure Settings.default

/-- An evaluation that ends before there is anything to run. -/
def unprepared (log : Log) (reason : String) : Session where
  status := failureStatus
  diagnostics := log.render ++ ["Error: " ++ reason]

section

variable {m : Type → Type} [Monad m]

/-- Carries out an agenda up to the first run that panics. Each run reads its program anew. -/
def trials (around : Surroundings m) (settings : Settings) :
    List (String × Heuristic) → m (List Trial)
  | [] => return []
  | (program, heuristic) :: rest => do
    let trial := Trial.of around.headers settings program heuristic (← around.find program)
    if trial.isPanic then
      return [trial]
    else
      return trial :: (← trials around settings rest)

/-- The evaluation of the given programs. While they run, the table has been begun and is still
empty. -/
def evaluation (around : Surroundings m) (programs : List String) : m Session := do
  if programs.isEmpty then
    return unprepared {} "You should specify at least one ELF file"
  let found ← around.find Arguments.defaultSettingsPath
  match (evaluationSettings found).run { threshold := some .warn } with
  | .error failure log => return failed "" log failure
  | .ok settings log =>
    match ← around.create tableDirectory tableName with
    | .error reason => return unprepared log reason
    | .ok () => return tabulate log (← trials around settings (agenda programs))

end

end Session

end FiveStage
