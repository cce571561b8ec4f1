import FiveStage.Pipeline.Run
import FiveStage.Proofs.Platform.Flat

/-!
# Flat machines

Without its timing, a cycle of the pipeline is a function: the stages take the committed latches,
the registers and the flat memory, and give the latches, registers and memory of the next cycle, or
a failure.

## Main definitions

* `FlatMachine`, `Machine.flat`: a machine without its timing, its caches and its log
* `FlatMemory.fetched`, `Latch.next`: what fetching stages, and where it goes on
* `Latch.decoded`: what decoding makes of a latch
* `FlatMachine.fetch`, `FlatMachine.decode`, `FlatMachine.execute`, `FlatMachine.accessMemory`,
  `FlatMachine.writeBack`: the stages
* `FlatMachine.cycle`: one cycle

## Main results

* `FlatMachine.invariant_of_cycles`: what a cycle keeps, cycles keep
-/

namespace FiveStage

/-- A flat platform with its predictor and its latches. -/
structure FlatMachine where
  platform : FlatPlatform
  predictor : Predictor
  latches : Latches

/-- The machine without its timing, its caches and its log. -/
def Machine.flat (machine : Machine) : FlatMachine :=
  ⟨machine.platform.flat, machine.predictor, machine.latches⟩

/-- What is staged after fetching at an address. -/
def FlatMemory.fetched (memory : FlatMemory) (predictor : Predictor) (pc : Word) : Latch :=
  match memory.fetch pc with
  | .ok e => { pc, encoding := e, predictedTaken := (Machine.predictNext predictor pc e).2 }
  | .error cause => { pc, fault := Fault.ofFetch? cause }

namespace Latch

/-- Where fetching goes on behind what was fetched. -/
def next (latch : Latch) : Word :=
  if latch.fault.isSome then latch.pc + 4
  else if latch.encoding.extractLsb' 0 7 = Opcode.jal.code then
    latch.pc + Immediate.ofJ.read latch.encoding
  else if latch.predictedTaken then latch.pc + Immediate.ofB.read latch.encoding
  else latch.pc + 4

/-- What decoding makes of what was fetched, with the operands that the registers have. -/
def decoded (hart : Hart) (input : Latch) : Latch :=
  let carried : Latch :=
    { pc := input.pc, encoding := input.encoding, predictedTaken := input.predictedTaken }
  if !input.isLive then Latch.empty
  else if input.fault.isSome then { carried with fault := input.fault }
  else
    match Instruction.decode input.encoding input.pc with
    | .error _ => { carried with fault := some .undecodable }
    | .ok inst => Machine.readOperands hart inst carried

end Latch

namespace FlatMachine

/-- The machine with its hart changed. -/
def onHart (change : Hart → Hart) (machine : FlatMachine) : FlatMachine :=
  { machine with platform := machine.platform.onHart change }

/-- The machine with its counters changed. -/
def count (change : Counters → Counters) (machine : FlatMachine) : FlatMachine :=
  machine.onHart (·.count change)

/-- The machine with another memory. -/
def withMemory (memory : FlatMemory) (machine : FlatMachine) : FlatMachine :=
  { machine with platform := { machine.platform with memory } }

/-- The machine with its committed latches changed. -/
def onCommitted (change : Row → Row) (machine : FlatMachine) : FlatMachine :=
  { machine with latches := { machine.latches with committed := change machine.latches.committed } }

/-- The machine with its staged latches changed. -/
def onStaged (change : Row → Row) (machine : FlatMachine) : FlatMachine :=
  { machine with latches := { machine.latches with staged := change machine.latches.staged } }

/-! ### Fetch and decode -/

/-- The first stage. -/
def fetch (machine : FlatMachine) : FlatMachine :=
  let input := machine.latches.committed.fetch
  if input.bubble then machine.onStaged ({ · with decode := Latch.empty })
  else
    let latch := machine.platform.memory.fetched machine.predictor input.predictedPc
    ((machine.onHart ({ · with pc := input.predictedPc })).onCommitted fun row =>
      { row with fetch := { row.fetch with predictedPc := latch.next } }).onStaged
        ({ · with decode := latch })

/-- The second stage. -/
def decode (machine : FlatMachine) : FlatMachine :=
  let latch := machine.latches.committed.decode.decoded machine.platform.hart
  if latch.instruction.isEcall then
    ((machine.onCommitted (·.hold .fetch)).onStaged ({ · with decode := Latch.empty })).onStaged
      ({ · with execute := latch })
  else machine.onStaged ({ · with execute := latch })

/-! ### Execute -/

/-- Redirects fetching and drops the two instructions behind the one that executes. -/
def flush (target : Word) (machine : FlatMachine) : FlatMachine :=
  ((machine.onCommitted fun row =>
    { row with
      fetch := { row.fetch with predictedPc := target, stall := false, bubble := false }
      decode := Latch.empty }).onStaged
        ({ · with decode := Latch.empty, execute := Latch.empty })).count
    fun c => { c with controlHazards := c.controlHazards + 1 }

/-- Compares a branch's outcome with its prediction. -/
def resolveBranch (branch : Latch) (taken : Bool) (machine : FlatMachine) : FlatMachine :=
  let resolved :=
    if taken = branch.predictedTaken then
      machine.count fun c => { c with predictionsRight := c.predictionsRight + 1 }
    else
      (machine.flush (if taken then branch.target else branch.pc + 4)).count fun c =>
        { c with predictionsWrong := c.predictionsWrong + 1 }
  { resolved with predictor := resolved.predictor.update branch.pc taken }

/-- Redirects fetching where the instruction leads elsewhere. -/
def redirect (output : Latch) (machine : FlatMachine) : FlatMachine :=
  let inst := output.instruction
  match inst.mnemonic.opcode with
  | .jalr => machine.flush output.target
  | .branch => machine.resolveBranch output (inst.branches output.operandA output.operandB)
  | _ => machine

/-- Forwards a result to the instruction about to execute. -/
def forwardTo (destination : Option Nat) (value : Word) (machine : FlatMachine) : FlatMachine :=
  match destination with
  | none => machine
  | some number =>
    let (taken, latches) := machine.latches.forward number value
    if taken then
      { machine with latches }.count fun c => { c with dataHazards := c.dataHazards + 1 }
    else { machine with latches }

/-- Holds the next instruction back if it needs what a load will bring. -/
def holdForLoad (destination : Option Nat) (machine : FlatMachine) : FlatMachine :=
  match destination with
  | none => machine
  | some number =>
    let next := machine.latches.staged.execute
    if !next.bubble && next.reads number then
      ((machine.onCommitted fun row => (row.hold .fetch).hold .decode).onStaged
        ({ · with execute := Latch.empty })).count fun c =>
          { c with loadUseHazards := c.loadUseHazards + 1 }
    else machine

/-- What the third stage does with an instruction that can execute. -/
def executeLive (input : Latch) (machine : FlatMachine) : FlatMachine :=
  let output := Machine.computeResults input
  let executed := (((machine.redirect output).onStaged ({ · with memory := output })).forwardTo
    output.computedTo output.computed).holdForLoad output.loadedTo
  if input.instruction.isEcall then
    (executed.onCommitted fun row => (row.hold .fetch).hold .decode).onStaged
      ({ · with execute := Latch.empty })
  else executed

/-- The third stage. -/
def execute (machine : FlatMachine) : Except Failure FlatMachine :=
  let input := machine.latches.committed.execute
  if !input.isLive then return machine.onStaged ({ · with memory := Latch.empty })
  else
    match input.fault with
    | some fault => throw (fault.raised input.encoding input.pc)
    | none => return machine.executeLive input

/-! ### Memory and write back -/

/-- What the fourth stage does with the word that was loaded. -/
def stageLoaded (input : Latch) (loaded : Word) (machine : FlatMachine) : FlatMachine :=
  let forwarded := ((machine.onStaged ({ · with writeback := { input with loaded } })).forwardTo
    input.computedTo input.computed).forwardTo input.loadedTo loaded
  if input.instruction.isEcall then
    forwarded.onCommitted fun row => ((row.hold .fetch).hold .decode).hold .execute
  else forwarded

/-- The fourth stage. -/
def accessMemory (machine : FlatMachine) : Except Failure FlatMachine :=
  let input := machine.latches.committed.memory
  if !input.isLive then return machine.onStaged ({ · with writeback := Latch.empty })
  else do
    let (loaded, memory) ← (machine.platform.memory.transfer input.instruction.mnemonic
      input.computed
      input.operandB).mapError .memory
    return (machine.withMemory memory).stageLoaded input (loaded.getD input.loaded)

/-- Writes a result to its register and forwards it. -/
def writeResult (destination : Option Nat) (value : Word) (machine : FlatMachine) :
    Except Failure FlatMachine :=
  match destination with
  | none => return machine
  | some number =>
    match Reg.ofNumber? number with
    | none => throw (.noRegister number)
    | some r => return (machine.onHart (·.setRegister r value)).forwardTo destination value

/-- The fifth stage. -/
def writeBack (machine : FlatMachine) : Except Failure FlatMachine :=
  let input := machine.latches.committed.writeback
  if !input.isLive then return machine
  else if input.instruction.isEcall then do
    let machine := machine.count fun c => { c with environmentCalls := c.environmentCalls + 1 }
    let platform ← machine.platform.environmentCall
    return { machine with platform }
  else do
    let machine ← machine.writeResult input.loadedTo input.loaded
    let machine ← machine.writeResult input.computedTo input.computed
    return machine.count fun c => { c with retired := c.retired + 1 }

/-! ### Cycles -/

/-- Commits the staged latches and counts the cycle. -/
def endCycle (machine : FlatMachine) : FlatMachine :=
  let (stalled, latches) := machine.latches.commit machine.platform.hart.pc
  let committed : FlatMachine := { machine with latches }
  let counted :=
    if stalled then committed.count fun c => { c with fetchStalls := c.fetchStalls + 1 }
    else committed
  counted.count fun c => { c with cycles := c.cycles + 1 }

/-- One cycle of the pipeline. -/
def cycle (machine : FlatMachine) : Except Failure FlatMachine := do
  let executed ← machine.fetch.decode.execute
  let accessed ← executed.accessMemory
  let written ← accessed.writeBack
  return written.endCycle

/-- As many cycles as given. -/
def cycles : (count : Nat) → FlatMachine → Except Failure FlatMachine
  | 0, machine => return machine
  | count + 1, machine => do
    let next ← machine.cycle
    cycles count next

/-- What a cycle keeps is kept by cycles one after the other. -/
theorem invariant_of_cycles {invariant : FlatMachine → Prop}
    (next : ∀ machine machine', invariant machine → machine.cycle = .ok machine' →
      invariant machine')
    {machine last : FlatMachine} (here : invariant machine) {count : Nat}
    (done : machine.cycles count = .ok last) : invariant last := by
  induction count generalizing machine with
  | zero =>
    cases done
    exact here
  | succ count ih =>
    obtain ⟨between, cycle, rest⟩ := bind_eq_ok_iff.mp done
    exact ih (next machine between here cycle) rest

/-- At most `fuel` cycles; no exit code comes back if the program has not asked to exit by then. -/
def runCycles : (fuel : Nat) → FlatMachine → Except Failure (Option Int × FlatMachine)
  | 0, machine => return (none, machine)
  | fuel + 1, machine => do
    let next ← machine.cycle
    match next.platform.hart.exitCode with
    | some code => return (some code, next)
    | none => runCycles fuel next

end FlatMachine

end FiveStage
