import FiveStage.Pipeline.Stages

/-!
# Running a machine

A program is placed in memory, the machine is prepared at its entry, and then cycles follow each
other until the program asks to exit, something fails, or the limit on cycles is reached.

## Main definitions

* `Machine.loadSegment`, `Machine.prepare`: what comes before the first cycle
* `Machine.step`: one cycle
* `Machine.runFor`, `Machine.run`: cycles up to the exit of the program
-/

namespace FiveStage

open Text

namespace Machine

/-- Puts bytes at an address and maps at least `memorySize` bytes, zero behind the given ones. -/
def loadSegment (address : Nat) (bytes : Bytes) (memorySize : Nat) : Action Unit :=
  onPlatform (Platform.useSpace
    (AddressSpace.loadImage address bytes (max memorySize bytes.length)))

/-- Maps the stack and lets fetching start at the entry. -/
def prepare (entry : Word) : Action Unit := do
  onPlatform (Platform.useSpace AddressSpace.mapStack)
  onHart fun _ => Hart.start entry (BitVec.ofNat 64 stackTop)
  modify ({ · with latches := Latches.start entry, ready := true })
  onPlatform (Platform.report .info fun _ => s!"entry point {hex entry.toNat}")

/-- Commits the staged latches and tells whether fetching was stalled. -/
def commit (pc : Word) : Action Bool := do
  let machine ← get
  let (stalled, latches) := machine.latches.commit pc
  set { machine with latches }
  return stalled

/-- Ends a cycle: commits the latches and counts the cycle and its time. -/
def endCycle : Action Unit := do
  let stalled ← commit (← get).platform.hart.pc
  if stalled then
    count fun c => { c with fetchStalls := c.fetchStalls + 1 }
  onHart fun hart =>
    hart.count fun c => { c with cycles := c.cycles + 1, ticks := c.ticks + hart.cycleTicks }

/-- One cycle of the pipeline. -/
def step : Action Unit := do
  if !(← get).ready then
    throw .notLoaded
  onHart ({ · with cycleTicks := 1 })
  -- from the first stage to the last: a later one may undo what an earlier one staged
  fetch
  decode
  execute
  accessMemory
  writeBack
  endCycle

/-- One cycle of a run, if the limit allows it; gives the exit code once there is one. -/
def runStep : Action (Option Int) := do
  let machine ← get
  if let some limit := machine.cycleLimit then
    if machine.platform.hart.counters.cycles ≥ limit then
      throw (.cycleLimit limit)
  step
  return (← get).platform.hart.exitCode

/-- At most `fuel` cycles of a run; nothing comes back if the program has not asked to exit by then.
-/
def runFor : (fuel : Nat) → Action (Option Int)
  | 0 => return none
  | fuel + 1 => do
    match ← runStep with
    | some code => return some code
    | none => runFor fuel

/-! ### Input on demand -/

/-- Whether the next cycle reads an integer that is not there yet. -/
def awaitsInput (machine : Machine) : Bool :=
  let latch := machine.latches.committed.writeback
  let number := machine.platform.hart.register callRegister
  latch.isLive && latch.instruction.isEcall &&
    Platform.HostService.ofNumber? number.toNat == some .readInteger &&
    !machine.platform.host.input.isReady

/-- The machine with more bytes at the end of its input. -/
def supply (machine : Machine) (bytes : Bytes) : Machine :=
  { machine with
    platform := { machine.platform with host := machine.platform.host.supply bytes } }

/-! ### Whole runs -/

/-- Cycles are counted in 64 bits, so no run has more. -/
def countableCycles : Nat := 1 <<< 64

/-- Runs the program until it asks to exit, and gives its exit code. -/
def run : Action Int := do
  match ← runFor countableCycles with
  | some code => return code
  | none => throw (.cycleLimit countableCycles)

end Machine

end FiveStage
