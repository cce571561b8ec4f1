import FiveStage.Settings.Reader
import FiveStage.Simulation.Report

/-!
# Simulations

One program on one machine, from its file to the report on its run.
-/

namespace FiveStage

/-- What is simulated: the program found at a path, on a machine with the given settings, for at
most `cycleLimit` cycles. -/
structure Simulation where
  headers : HeaderReader
  path : String
  found : Except FileFault Bytes
  settings : Settings
  heuristic : Heuristic
  cycleLimit : Option Nat

namespace Simulation

/-- The machine of a simulation, without its program. -/
def machine (simulation : Simulation) (host : Host) (log : Log) : Except MemoryFault Machine := do
  let machine ← Machine.ofSettings simulation.settings simulation.heuristic host log
  return { machine with cycleLimit := simulation.cycleLimit }

/-- Places the program in the memory of a machine. -/
def load (simulation : Simulation) : Machine.Action Unit :=
  Machine.load simulation.headers simulation.path simulation.found

/-- Places the program and runs it until it exits. -/
def course (simulation : Simulation) : Machine.Action Int := do
  simulation.load
  Machine.run

/-- What a simulation leaves: the report or the failure, the host and the log. -/
structure Outcome where
  result : Except Failure Report
  host : Host
  log : Log

/-- What a run leaves that took the given time. -/
def Outcome.ofRun (elapsed : Float) : EStateM.Result Failure Machine Int → Outcome
  | .ok code machine =>
    { result := .ok (Report.ofMachine machine code elapsed)
      host := machine.platform.host
      log := machine.platform.log }
  | .error failure machine =>
    { result := .error failure, host := machine.platform.host, log := machine.platform.log }

/-- Carries out a simulation. The time it took is reported as zero. -/
def run (simulation : Simulation) (host : Host) (log : Log) : Outcome :=
  match simulation.machine host log with
  | .error cause => { result := .error (.memory cause), host, log }
  | .ok machine => Outcome.ofRun 0.0 (simulation.course.run machine)

end Simulation

end FiveStage
