import FiveStage.Executable.Loading
import FiveStage.Text.FixedPoint

/-!
# Reports

What is told about a run once the program has exited: its counters, the rates made from them, and
the traffic of each storage.
-/

namespace FiveStage

open Text

/-- The figures of a finished run; `elapsed` is the time it took, in seconds. -/
structure Report where
  exitCode : Int
  heuristic : Heuristic
  counters : Counters
  caches : List (String × Statistics)
  memory : Statistics
  elapsed : Float

namespace Report

/-- The report on a machine whose program has exited. -/
def ofMachine (machine : Machine) (exitCode : Int) (elapsed : Float) : Report where
  exitCode
  heuristic := machine.predictor.heuristic
  counters := machine.platform.hart.counters
  caches := machine.platform.space.storage.caches.map fun cache => (cache.name, cache.statistics)
  memory := machine.platform.space.storage.memory.statistics
  elapsed

/-- The part of the accesses that missed in the first cache. -/
def topMissRate (report : Report) : Float :=
  match report.caches with
  | [] => 0.0
  | (_, statistics) :: _ => statistics.missRate

/-- The line about one cache. -/
def cacheLine (name : String) (s : Statistics) : String :=
  s!"{name}: {s.accesses} accesses, miss rate {fixed 2 (s.missRate * 100.0)}%, access time {wrapped s.time}, {s.prefetches} prefetches"

/-- The lines of a report. -/
def lines (report : Report) : List String :=
  let c := report.counters
  [ "------------ STATISTICS -----------",
    s!"Number of Pipeline Cycles: {c.cycles}",
    s!"Number of Ticks: {wrapped c.ticks}",
    s!"Number of Instructions: {c.retired}",
    s!"Avg Ticks per Instruction: {fixed 4 c.ticksPerInstruction}",
    s!"Wall Time: {fixed 3 report.elapsed}s",
    s!"Number of Data Hazards (forwarded): {c.dataHazards}",
    s!"Number of Load-Use Hazards: {c.loadUseHazards}",
    s!"Number of Control Hazards: {c.controlHazards}",
    s!"Branch Prediction: {report.heuristic.name}, accuracy {fixed 4 c.accuracy} ({c.predictionsRight} correct, {c.predictionsWrong} wrong)",
    s!"Number of System Calls: {c.environmentCalls}",
    s!"Number of Fetch Stalls: {c.fetchStalls}" ]
  ++ report.caches.map (fun (name, statistics) => cacheLine name statistics)
  ++ [ s!"Memory: {report.memory.accesses} accesses, access time {wrapped report.memory.time}",
    s!"Exit code: {report.exitCode}" ]

/-- The text of a report, without a line feed at its end. -/
def text (report : Report) : String := String.intercalate "\n" report.lines

end Report

end FiveStage
