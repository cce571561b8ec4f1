import FiveStage.Bits
import FiveStage.Ratio

/-!
# The hart

The registers of the processor, the exit code once a program has one, and the counters of a run. The
zero register always reads as zero.
-/

namespace FiveStage

/-- What is counted during a run. `retired` counts finished instructions other than environment
calls, `ticks` the time of all cycles together. -/
structure Counters where
  cycles : Nat := 0
  ticks : Nat := 0
  retired : Nat := 0
  dataHazards : Nat := 0
  loadUseHazards : Nat := 0
  controlHazards : Nat := 0
  environmentCalls : Nat := 0
  fetchStalls : Nat := 0
  predictionsRight : Nat := 0
  predictionsWrong : Nat := 0
deriving DecidableEq, Repr

namespace Counters

/-- The ticks that an instruction took on average. -/
def ticksPerInstruction (counters : Counters) : Float :=
  ratio (wrapped counters.ticks) counters.retired

/-- The part of the resolved branches that were predicted right. -/
def accuracy (counters : Counters) : Float :=
  ratio counters.predictionsRight (counters.predictionsRight + counters.predictionsWrong)

end Counters

/-- The register that holds the stack pointer. -/
def stackPointer : Reg := 2

/-- The register of the argument and the result of an environment call. -/
def argumentRegister : Reg := 10

/-- The register that selects an environment call. -/
def callRegister : Reg := 17

/-- The state of the processor. `cycleTicks` is the time that the current cycle takes. -/
structure Hart where
  pc : Word := 0
  registers : Vector Word 32 := Vector.replicate 32 0
  exitCode : Option Int := none
  cycleTicks : Nat := 0
  counters : Counters := {}
deriving DecidableEq, Repr

namespace Hart

/-- The value of a register. -/
def register (hart : Hart) (r : Reg) : Word := hart.registers[r.toFin]

/-- The hart with a register written; the zero register stays. -/
def setRegister (hart : Hart) (r : Reg) (value : Word) : Hart :=
  if r = 0 then hart else { hart with registers := hart.registers.set r.toFin value }

theorem register_setRegister_self {hart : Hart} {r : Reg} {value : Word} (h : r ≠ 0) :
    (hart.setRegister r value).register r = value := by
  rw [setRegister, if_neg h]
  simp [register]

theorem register_setRegister_of_ne {hart : Hart} {r s : Reg} {value : Word} (h : r ≠ s) :
    (hart.setRegister r value).register s = hart.register s := by
  have apart : r.toNat ≠ s.toNat := fun same => h (BitVec.eq_of_toNat_eq same)
  by_cases zero : r = 0
  · rw [setRegister, if_pos zero]
  · rw [setRegister, if_neg zero]
    simp [register, apart]

/-- A hart about to run a program from its entry on, with a stack that grows down from `top`. -/
def start (entry top : Word) : Hart :=
  { pc := entry : Hart }.setRegister stackPointer top

/-- The hart whose current cycle takes at least the given time. -/
def raiseTicks (hart : Hart) (ticks : Nat) : Hart :=
  { hart with cycleTicks := max hart.cycleTicks ticks }

/-- The hart with its counters changed. -/
def count (hart : Hart) (change : Counters → Counters) : Hart :=
  { hart with counters := change hart.counters }

end Hart

end FiveStage
