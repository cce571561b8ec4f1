import FiveStage.CommandLine.Evaluation
import FiveStage.Executable.Elf

/-!
# The commands

The simulator and the evaluation as programs. The executable evaluates if its file is called
`sim-eval`, and simulates one program otherwise. A simulated program prints and reads while it runs,
so the simulator goes cycle by cycle.
-/

namespace FiveStage.Main

/-- Why a file could not be read. The number of an error may come negated. -/
def faultOf : IO.Error → FileFault
  | .noFileOrDirectory .. => .notFound
  | .inappropriateType _ number _ =>
    if number = 20 ∨ number = 0 - 20 then .notDirectory else .isDirectory
  | .invalidArgument _ number details =>
    if number = 36 ∨ number = 0 - 36 then .pathTooLong else .unreadable details
  | problem => .unreadable (toString problem)

/-- What is found at a path. -/
def readFile (path : String) : IO Finding := do
  try
    let bytes ← IO.FS.readBinFile path
    return .ok bytes.toList
  catch problem =>
    return .error (faultOf problem)

/-- Shows the texts of a session and gives its status. -/
def showSession (session : Session) : IO UInt32 := do
  for line in session.diagnostics do
    IO.eprintln line
  IO.print session.output
  (← IO.getStdout).flush
  return UInt32.ofNat session.status

/-- Shows what a machine has printed and reported, and gives the machine without it. -/
def showProgress (machine : Machine) : IO Machine := do
  let platform := machine.platform
  for line in platform.log.render do
    IO.eprintln line
  unless platform.host.output.isEmpty do
    IO.print platform.host.output
    (← IO.getStdout).flush
  return { machine with
    platform :=
      { platform with
        log := { platform.log with lines := #[] }
        host := { platform.host with output := "" } } }

/-- Reads lines until the machine has the integer it waits for, or the input ends. -/
partial def supply (machine : Machine) : IO Machine := do
  if machine.awaitsInput then
    let line ← (← IO.getStdin).getLine
    if line.isEmpty then
      return machine
    else
      supply (machine.supply line.toUTF8.toList)
  else
    return machine

/-- Runs a machine cycle by cycle until its program exits or something fails. -/
partial def runCycles (machine : Machine) : IO (EStateM.Result Failure Machine Int) := do
  let machine ← supply machine
  match Machine.runStep.run machine with
  | .error failure machine => return .error failure machine
  | .ok (some code) machine => return .ok code machine
  | .ok none machine => runCycles (← showProgress machine)

/-- Loads a program and runs it; the time is taken from its first cycle on. -/
def runSimulation (simulation : Simulation) (log : Log) : IO Simulation.Outcome := do
  let host : Host := { input := .stream [] }
  match simulation.machine host log with
  | .error cause => return { result := .error (.memory cause), host, log }
  | .ok machine =>
    match simulation.load.run machine with
    | .error failure machine => return Simulation.Outcome.ofRun 0.0 (.error failure machine)
    | .ok () machine =>
      let before ← IO.monoMsNow
      let result ← runCycles machine
      let after ← IO.monoMsNow
      return Simulation.Outcome.ofRun (counterValue (after - before) / 1000.0) result

/-- Makes a directory, and an empty file in it. -/
def createFile (directory name : String) : IO (Except String Unit) := do
  try
    IO.FS.createDirAll directory
    IO.FS.writeFile (directory ++ "/" ++ name) ""
    return .ok ()
  catch problem =>
    return .error (toString problem)

/-- The surroundings of the commands. -/
def surroundings : Surroundings IO where
  headers := Elf.headers
  find := readFile
  create := createFile
  run := runSimulation

/-- The simulator. -/
def simulator (arguments : List String) : IO UInt32 := do
  showSession (← Session.simulator surroundings arguments)

/-- The evaluation. -/
def evaluation (programs : List String) : IO UInt32 := do
  let session ← Session.evaluation surroundings programs
  if let some table := session.table then
    IO.FS.writeFile Session.tablePath table
  showSession session

end FiveStage.Main

/-- Runs the command that the executable's file is called after. -/
def main (arguments : List String) : IO UInt32 := do
  let command := ((toString (← IO.appPath)).splitOn "/").getLastD ""
  if command = "sim-eval" then
    FiveStage.Main.evaluation arguments
  else
    FiveStage.Main.simulator arguments
