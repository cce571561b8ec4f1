import FiveStage.Isa.Instruction

/-!
# Assembly texts

The text of an instruction: its operation, then its operands in the order of the assembler. A load,
a store and an indirect jump show their address as an offset from a register, an upper immediate is
shown in units of 4096.
-/

namespace FiveStage

open Text

/-- The assembly name of a register. -/
def Reg.text (r : Reg) : String := s!"x{r.toNat}"

namespace Instruction

/-- The operands as they stand behind the operation. -/
def operandText (inst : Instruction) : String :=
  match inst.operands with
  | .r rd rs1 rs2 => s!"{Reg.text rd},{Reg.text rs1},{Reg.text rs2}"
  | .i rd rs1 imm =>
    if inst.mnemonic.isLoad || inst.mnemonic == .jalr then
      s!"{Reg.text rd},{imm.toInt}({Reg.text rs1})"
    else
      s!"{Reg.text rd},{Reg.text rs1},{imm.toInt}"
  | .s rs1 rs2 imm => s!"{Reg.text rs2},{imm.toInt}({Reg.text rs1})"
  | .b rs1 rs2 imm => s!"{Reg.text rs1},{Reg.text rs2},{imm.toInt}"
  | .u rd imm => s!"{Reg.text rd},{hex (imm.sshiftRight 12).toNat}"
  | .j rd imm => s!"{Reg.text rd},{imm.toInt}"

/-- The assembly text of an instruction. -/
def text (inst : Instruction) : String :=
  if inst.isEcall then inst.mnemonic.name else s!"{inst.mnemonic.name} {inst.operandText}"

end Instruction

end FiveStage
