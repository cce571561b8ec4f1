import FiveStage.Isa.Assembly
import FiveStage.Isa.Effect
import FiveStage.Pipeline.Machine

/-!
# The five stages

In each cycle the stages act one after the other, from the first to the last. Each takes the
committed latch in front of it and writes the staged latch of the next stage; a later stage may
change what an earlier one staged: it forwards a result, holds instructions back, or empties
latches.

## Main definitions

* `Machine.fetch`: reads an encoding and guesses the next address
* `Machine.decode`: reads the instruction and its registers
* `Machine.execute`: computes, resolves branches and redirects fetching
* `Machine.accessMemory`: loads and stores
* `Machine.writeBack`: writes registers and serves environment calls
-/

namespace FiveStage

open Text

namespace Machine

/-! ### Fetch -/

/-- The address fetched after the encoding at `pc`, and whether a branch is expected to be taken.
Only direct jumps and branches are looked at before decoding. -/
def predictNext (predictor : Predictor) (pc : Word) (e : Encoding) : Word × Bool :=
  let opcode := e.extractLsb' 0 7
  if opcode = Opcode.jal.code then (pc + Immediate.ofJ.read e, false)
  else if opcode = Opcode.branch.code ∧ predictor.predict pc then
    (pc + Immediate.ofB.read e, true)
  else (pc + 4, false)

/-- Sets the address at which fetching goes on. -/
def fetchFrom (pc : Word) : Action Unit :=
  onCommitted fun row => { row with fetch := { row.fetch with predictedPc := pc } }

/-- Stages an instruction that could not be fetched. It may be one that is never reached, so the
failure is raised only if it would execute. -/
def stageFault (pc : Word) (cause : MemoryFault) : Action Unit := do
  match Fault.ofFetch? cause with
  | none => throw (.memory cause)
  | some fault =>
    report fun _ => s!"IF  {hexPadded 8 pc.toNat}: {fault.shown}"
    fetchFrom (pc + 4)
    onStaged ({ · with decode := { pc, fault := some fault } })

/-- Stages the encoding that was fetched from an address. -/
def stageFetched (pc : Word) (e : Encoding) (cycles : Nat) : Action Unit := do
  raiseTicks cycles
  let (next, predictedTaken) := predictNext (← get).predictor pc e
  fetchFrom next
  report fun _ =>
    s!"IF  {hexPadded 8 pc.toNat}: {hexPadded 8 e.toNat}, next {hexPadded 8 next.toNat}"
  onStaged ({ · with decode := { pc, encoding := e, predictedTaken } })

/-- Reads the encoding at an address. A failure of the memory system is a result here. -/
def readEncoding (pc : Word) : Action (Except MemoryFault (Encoding × Nat)) := fun machine =>
  match (Platform.spaceOf.act (AddressSpace.read pc.toNat 4)).run machine.platform with
  | .ok (word, cycles) platform => .ok (.ok (word.setWidth 32, cycles)) { machine with platform }
  | .error fault platform => .ok (.error fault) { machine with platform }

/-- The first stage: reads the encoding at the predicted address. -/
def fetch : Action Unit := do
  let input := (← get).latches.committed.fetch
  if input.bubble then
    onStaged ({ · with decode := Latch.empty })
  else
    let pc := input.predictedPc
    onHart ({ · with pc })
    match ← readEncoding pc with
    | .ok (e, cycles) => stageFetched pc e cycles
    | .error cause => stageFault pc cause

/-! ### Decode -/

/-- The instruction with the values of its source registers and with its destinations. A load writes
what it loads, other instructions what they compute; the zero register is no destination. -/
def readOperands (hart : Hart) (inst : Instruction) (carried : Latch) : Latch :=
  let rd := if inst.rd = 0 then none else some inst.rd.toNat
  let isLoad := inst.mnemonic.isLoad
  { carried with
    instruction := inst
    sourceA := inst.rs1.toNat
    sourceB := inst.rs2.toNat
    operandA := hart.register inst.rs1
    operandB := hart.register inst.rs2
    loadedTo := if isLoad then rd else none
    computedTo := if !isLoad && inst.mnemonic.writesRegister then rd else none }

/-- Stages the input of the third stage. -/
def stageExecute (latch : Latch) : Action Unit := onStaged ({ · with execute := latch })

/-- The second stage: decodes the instruction and reads its registers. Behind an environment call
nothing is decoded until the call is complete. -/
def decode : Action Unit := do
  let machine ← get
  let input := machine.latches.committed.decode
  let carried : Latch :=
    { pc := input.pc, encoding := input.encoding, predictedTaken := input.predictedTaken }
  if !input.isLive then
    stageExecute Latch.empty
  else if input.fault.isSome then
    stageExecute { carried with fault := input.fault }
  else
    match Instruction.decode input.encoding input.pc with
    | .error _ =>
      report fun _ =>
        s!"ID  {hexPadded 8 input.pc.toNat}: undecodable {hexPadded 8 input.encoding.toNat}"
      stageExecute { carried with fault := some .undecodable }
    | .ok inst =>
      report fun _ => s!"ID  {hexPadded 8 inst.pc.toNat}: {inst.text}"
      if inst.isEcall then
        -- what was fetched behind the call in this cycle is fetched again later
        onCommitted (·.hold .fetch)
        onStaged ({ · with decode := Latch.empty })
      stageExecute (readOperands machine.platform.hart inst carried)

/-! ### Execute -/

/-- Redirects fetching and drops the two instructions behind the one that executes. -/
def flush (target : Word) : Action Unit := do
  onCommitted fun row =>
    { row with
      fetch := { row.fetch with predictedPc := target, stall := false, bubble := false }
      decode := Latch.empty }
  onStaged ({ · with decode := Latch.empty, execute := Latch.empty })
  count fun c => { c with controlHazards := c.controlHazards + 1 }
  report fun _ => s!"EX  flush, fetch from {hexPadded 8 target.toNat}"

/-- Compares a branch's outcome with its prediction, and fetches from the other address if they
differ. -/
def resolveBranch (branch : Latch) (taken : Bool) : Action Unit := do
  if taken = branch.predictedTaken then
    count fun c => { c with predictionsRight := c.predictionsRight + 1 }
  else
    flush (if taken then branch.target else branch.pc + 4)
    count fun c => { c with predictionsWrong := c.predictionsWrong + 1 }
  modify fun machine => { machine with predictor := machine.predictor.update branch.pc taken }

/-- The latch with what executing its instruction computes. -/
def computeResults (input : Latch) : Latch :=
  let inst := input.instruction
  { input with
    computed := (inst.value? input.pc input.operandA input.operandB).getD input.computed
    target := (inst.target? input.pc input.operandA).getD input.target }

/-- Redirects fetching where the address fetched next was not the one the instruction leads to:
always behind an indirect jump, and behind a branch that was predicted wrong. -/
def redirect (output : Latch) : Action Unit :=
  let inst := output.instruction
  match inst.mnemonic.opcode with
  | .jalr => flush output.target
  | .branch => resolveBranch output (inst.branches output.operandA output.operandB)
  | _ => pure ()

/-- Forwards a result to the instruction about to execute, and counts the hazard if it was needed.
-/
def forwardTo (destination : Option Nat) (value : Word) : Action Unit := do
  if let some number := destination then
    let machine ← get
    let (taken, latches) := machine.latches.forward number value
    set { machine with latches }
    if taken then
      count fun c => { c with dataHazards := c.dataHazards + 1 }

/-- Holds the next instruction back for a cycle if it needs what a load will bring. -/
def holdForLoad (destination : Option Nat) : Action Unit := do
  if let some number := destination then
    let next := (← get).latches.staged.execute
    if !next.bubble && next.reads number then
      onCommitted fun row => (row.hold .fetch).hold .decode
      stageExecute Latch.empty
      count fun c => { c with loadUseHazards := c.loadUseHazards + 1 }
      report fun _ => s!"EX  load-use on x{number}"

/-- The third stage: computes, resolves branches and jumps, and raises the fault of an instruction
that cannot execute. -/
def execute : Action Unit := do
  let machine ← get
  let input := machine.latches.committed.execute
  if !input.isLive then
    onStaged ({ · with memory := Latch.empty })
  else if let some fault := input.fault then
    throw (fault.raised input.encoding input.pc)
  else
    let inst := input.instruction
    raiseTicks (machine.ticks inst.mnemonic)
    let output := computeResults input
    redirect output
    report fun _ =>
      s!"EX  {hexPadded 8 input.pc.toNat}: {inst.text} -> {hex output.computed.toNat}"
    onStaged ({ · with memory := output })
    -- the youngest producer comes first, so older results do not replace it
    forwardTo output.computedTo output.computed
    holdForLoad output.loadedTo
    if inst.isEcall then
      onCommitted fun row => (row.hold .fetch).hold .decode
      stageExecute Latch.empty

/-! ### Memory -/

/-- Carries out the load or the store of an instruction, and gives the loaded value. -/
def transfer (input : Latch) : Action Word := do
  let m := input.instruction.mnemonic
  let address := input.computed.toNat
  if m.isLoad then
    let (raw, cycles) ← onPlatform (Platform.useSpace (AddressSpace.read address m.accessSize))
    raiseTicks cycles
    let value := m.extendLoaded raw
    report fun _ =>
      s!"MEM {hexPadded 8 input.pc.toNat}: load {hex value.toNat} from {hex address}"
    return value
  else if m.isStore then
    let cycles ← onPlatform (Platform.useSpace
      (AddressSpace.write address input.operandB m.accessSize))
    raiseTicks cycles
    report fun _ =>
      s!"MEM {hexPadded 8 input.pc.toNat}: store {hex input.operandB.toNat} to {hex address}"
    return input.loaded
  else
    return input.loaded

/-- The fourth stage: loads and stores. -/
def accessMemory : Action Unit := do
  let input := (← get).latches.committed.memory
  if !input.isLive then
    onStaged ({ · with writeback := Latch.empty })
  else
    let loaded ← transfer input
    onStaged ({ · with writeback := { input with loaded } })
    forwardTo input.computedTo input.computed
    forwardTo input.loadedTo loaded
    if input.instruction.isEcall then
      onCommitted fun row => ((row.hold .fetch).hold .decode).hold .execute

/-! ### Write back -/

/-- Writes a result to its register, if there is one with that number, and forwards it. -/
def writeResult (destination : Option Nat) (value : Word) : Action Unit := do
  if let some number := destination then
    match Reg.ofNumber? number with
    | none => throw (.noRegister number)
    | some r =>
      onHart (·.setRegister r value)
      forwardTo destination value

/-- The fifth stage: writes registers, and serves environment calls, which do not count as retired.
-/
def writeBack : Action Unit := do
  let input := (← get).latches.committed.writeback
  if input.isLive then
    if input.instruction.isEcall then
      count fun c => { c with environmentCalls := c.environmentCalls + 1 }
      let cycles ← onPlatform Platform.environmentCall
      raiseTicks cycles
    else
      writeResult input.loadedTo input.loaded
      writeResult input.computedTo input.computed
      count fun c => { c with retired := c.retired + 1 }

end Machine

end FiveStage
