import FiveStage.Isa.Arithmetic

/-!
# What an instruction does with its operands

The value that an instruction computes, the address to which it can transfer control, and the word
that a load makes of the bytes it read. All of them are functions of the instruction, of the address
it was fetched from and of the values of its source registers.

## Main definitions

* `Instruction.value?`: the result for the destination register, or the address of a load or store
* `Instruction.target?`: where a jump goes, and a branch if it is taken
* `Mnemonic.extendLoaded`: the loaded word
-/

namespace FiveStage

namespace Instruction

/-- The value that the instruction at `pc` computes from its source registers. For a load or a store
it is the address; branches and environment calls compute none. -/
def value? (inst : Instruction) (pc a b : Word) : Option Word :=
  match inst.mnemonic.opcode with
  | .lui => some inst.imm
  | .auipc => some (pc + inst.imm)
  | .jal | .jalr => some (pc + 4)
  | .load | .store => some (a + inst.imm)
  | .op | .opImm | .op32 | .opImm32 =>
    some (inst.compute a (if inst.mnemonic.usesRegister then b else inst.imm))
  | .branch | .system => none

/-- The address to which the instruction at `pc` can transfer control. An indirect jump goes to an
even address. -/
def target? (inst : Instruction) (pc a : Word) : Option Word :=
  match inst.mnemonic.opcode with
  | .jal | .branch => some (pc + inst.imm)
  | .jalr => some ((a + inst.imm) &&& ~~~1)
  | _ => none

/-- Whether a branch is taken when its source registers have the given values. -/
def branches (inst : Instruction) (a b : Word) : Bool := inst.compute a b != 0

end Instruction

/-- The word that a load of the operation's size makes of what it read. -/
def Mnemonic.extendLoaded (m : Mnemonic) (raw : Word) : Word :=
  if m.extendsByZeros then raw else signExtendFrom (m.accessSize * 8) raw

end FiveStage
