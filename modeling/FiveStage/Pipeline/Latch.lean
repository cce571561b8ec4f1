import FiveStage.Isa.Instruction

/-!
# Pipeline registers

An instruction passes five stages, and in front of each stage stands a latch with what is known
about the instruction so far. The latches exist twice: stages read the committed ones and write the
staged ones, and at the end of a cycle the staged ones are committed, except where a stall holds one
back.

## Main definitions

* `Fault`: why an instruction that was fetched can never execute
* `Latch`, `Row`: one latch, and the latches of all stages
* `Latches.forward`: handing a result to the instruction about to execute
* `Latches.commit`: the end of a cycle
-/

namespace FiveStage

/-- Why an instruction that was fetched can never execute: its encoding is illegal, or fetching it
failed in the page table or below it. -/
inductive Fault
  | undecodable
  | pageFault (address : Nat)
  | access (address : Nat) (kind : AccessFault)
deriving DecidableEq, Repr

namespace Fault

/-- The fault that an instruction carries if fetching it failed, unless the failure is not about the
address. -/
def ofFetch? : MemoryFault → Option Fault
  | .unmapped address => some (.pageFault address)
  | .access address kind => some (.access address kind)
  | .outOfFrames _ | .misconfigured _ | .tooManyLines _ => none

/-- The failure raised when the instruction would execute. -/
def raised (e : Encoding) (pc : Word) : Fault → Failure
  | undecodable => .illegalInstruction e pc
  | pageFault address => .memory (.unmapped address)
  | access address kind => .memory (.access address kind)

/-- How a refused access is shown in the log. -/
def showKind : AccessFault → String
  | .outOfBounds => "OutOfBounds"
  | .crossesBlock length => s!"CrossesBlock({length})"
  | .invalidSize size => s!"InvalidSize({size})"
  | .unconfigured => "Unconfigured"

/-- How a fault is shown in the log. -/
def shown : Fault → String
  | undecodable => "Undecodable"
  | pageFault address => s!"PageFault({address})"
  | access address kind => s!"Access \x7b address: {address}, kind: {showKind kind} \x7d"

end Fault

/-- The latch in front of a stage. The predicted address is where fetching goes on, and means
something only in front of the first stage; a bubble holds no instruction, and a stall keeps the
latch as it is for one cycle. The operands are the values of the source registers; the computed and
the loaded value go to the registers `computedTo` and `loadedTo`, and the target is that of a branch
or jump. Registers stand here by number, and nothing can be written to a number that no register
has. -/
structure Latch where
  predictedPc : Word := 0
  pc : Word := 0
  encoding : Encoding := 0
  instruction : Instruction := Instruction.nop
  fault : Option Fault := none
  sourceA : Nat := 0
  sourceB : Nat := 0
  operandA : Word := 0
  operandB : Word := 0
  computed : Word := 0
  loaded : Word := 0
  target : Word := 0
  computedTo : Option Nat := none
  loadedTo : Option Nat := none
  predictedTaken : Bool := false
  bubble : Bool := false
  stall : Bool := false
deriving DecidableEq, Repr

namespace Latch

/-- A latch without an instruction. -/
def empty : Latch := { bubble := true }

/-- Whether the latch holds an instruction that moves on. -/
def isLive (latch : Latch) : Bool := !latch.bubble && !latch.stall

/-- Whether the latch needs the value of a register. -/
def reads (latch : Latch) (number : Nat) : Bool :=
  latch.sourceA == number || latch.sourceB == number

end Latch

/-- The stages, each of which has its latch in front of it. -/
inductive Stage
  | fetch
  | decode
  | execute
  | memory
  | writeback
deriving DecidableEq, Repr

/-- The latches of all stages. -/
structure Row where
  fetch : Latch := Latch.empty
  decode : Latch := Latch.empty
  execute : Latch := Latch.empty
  memory : Latch := Latch.empty
  writeback : Latch := Latch.empty
deriving DecidableEq, Repr

namespace Row

/-- The latch of a stage. -/
def get (row : Row) : Stage → Latch
  | .fetch => row.fetch
  | .decode => row.decode
  | .execute => row.execute
  | .memory => row.memory
  | .writeback => row.writeback

/-- The row with the latch of one stage replaced. -/
def set (row : Row) : Stage → Latch → Row
  | .fetch, latch => { row with fetch := latch }
  | .decode, latch => { row with decode := latch }
  | .execute, latch => { row with execute := latch }
  | .memory, latch => { row with memory := latch }
  | .writeback, latch => { row with writeback := latch }

/-- The row with a stall requested for the latch of one stage. -/
def hold (row : Row) (stage : Stage) : Row := row.set stage { row.get stage with stall := true }

end Row

/-- The committed and the staged latches, and whether the operands of the instruction about to
execute have been forwarded in this cycle. -/
structure Latches where
  committed : Row := {}
  staged : Row := {}
  forwardedA : Bool := false
  forwardedB : Bool := false
deriving DecidableEq, Repr

namespace Latches

/-- The latches at the start of a program: fetching starts at the entry. -/
def start (entry : Word) : Latches := { committed := { fetch := { predictedPc := entry } } }

/-- Hands the value of a register to the instruction about to execute. An operand that a younger
producer has delivered already stays; also tells whether an operand was taken. -/
def forward (latches : Latches) (number : Nat) (value : Word) : Bool × Latches :=
  let next := latches.staged.execute
  if number = 0 ∨ next.bubble then (false, latches)
  else
    let takesA := !latches.forwardedA && next.sourceA == number
    let takesB := !latches.forwardedB && next.sourceB == number
    let next :=
      { next with
        operandA := if takesA then value else next.operandA
        operandB := if takesB then value else next.operandB }
    (takesA || takesB,
      { latches with
        staged := { latches.staged with execute := next }
        forwardedA := latches.forwardedA || takesA
        forwardedB := latches.forwardedB || takesB })

/-- The latch that a stage finds in the next cycle: a stalled one stays and is released. -/
def advance (committed staged : Latch) : Latch :=
  if committed.stall then { committed with stall := false } else staged

/-- Ends the cycle in which the instruction at `pc` was fetched, and tells whether fetching was
stalled. A stalled fetch is repeated at the same address. -/
def commit (latches : Latches) (pc : Word) : Bool × Latches :=
  let fetch := latches.committed.fetch
  let old := latches.committed
  let new := latches.staged
  (fetch.stall,
    { latches with
      committed :=
        { fetch := if fetch.stall then { fetch with stall := false, predictedPc := pc } else fetch
          decode := advance old.decode new.decode
          execute := advance old.execute new.execute
          memory := advance old.memory new.memory
          writeback := advance old.writeback new.writeback }
      forwardedA := false
      forwardedB := false })

end Latches

end FiveStage
