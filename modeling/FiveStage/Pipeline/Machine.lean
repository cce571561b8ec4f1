import FiveStage.Pipeline.Latch
import FiveStage.Prediction
import FiveStage.Platform.EnvironmentCall

/-!
# Machines

A machine is a platform with a branch predictor, the latches of its pipeline and the ticks of its
operations. Its stages are actions on the whole machine.
-/

namespace FiveStage

/-- A platform with a pipeline. `cycleLimit` is the number of cycles after which a run is given up,
and `ready` tells whether a program was prepared. -/
structure Machine where
  platform : Platform
  predictor : Predictor
  latches : Latches := Latches.start 0
  ticks : Mnemonic → Nat
  cycleLimit : Option Nat := none
  ready : Bool := false

namespace Machine

/-- An action on a machine. -/
abbrev Action := EStateM Failure Machine

/-- A machine with the given settings and no program. -/
def ofSettings (settings : Settings) (heuristic : Heuristic) (host : Host) (log : Log) :
    Except MemoryFault Machine := do
  let space ← AddressSpace.ofSettings settings
  let hart := Hart.start 0 (BitVec.ofNat 64 stackTop)
  return {
    platform := { hart, space, host, log }
    predictor := Predictor.start heuristic
    ticks := settings.ticks }

/-- The platform of a machine. -/
def platformOf : Component Machine Platform where
  get machine := machine.platform
  put platform machine := { machine with platform }

/-- Acts on the platform. -/
def onPlatform {α : Type} (action : Platform.Action α) : Action α := platformOf.act action

/-- Changes the hart. -/
def onHart (change : Hart → Hart) : Action Unit := onPlatform (Platform.onHart change)

/-- Changes the counters of the run. -/
def count (change : Counters → Counters) : Action Unit := onHart (·.count change)

/-- Makes the current cycle take at least the given time. -/
def raiseTicks (ticks : Nat) : Action Unit := onHart (·.raiseTicks ticks)

/-- Changes the committed latches. -/
def onCommitted (change : Row → Row) : Action Unit :=
  modify fun machine =>
    { machine with
      latches := { machine.latches with committed := change machine.latches.committed } }

/-- Changes the staged latches. -/
def onStaged (change : Row → Row) : Action Unit :=
  modify fun machine =>
    { machine with latches := { machine.latches with staged := change machine.latches.staged } }

/-- Adds a line about the pipeline to the log. -/
def report (line : Unit → String) : Action Unit := onPlatform (Platform.report .debug line)

end Machine

end FiveStage
