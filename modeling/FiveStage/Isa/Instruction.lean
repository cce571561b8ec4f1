import FiveStage.Failure
import FiveStage.Isa.Mnemonic

/-!
# Instructions

An instruction is an encoding read at an address: its operation and the operands that the format of
the operation carries. The decoder searches the operation by its fixed bits and then reads the
operands.

## Main definitions

* `Immediate`, `Mnemonic.immediate`: where the immediate of an operation sits in its encodings
* `Operands`: the registers and the immediate of each format
* `Instruction.decode`: from the encoding to the instruction
* `Instruction.nop`: the instruction that an empty place in the pipeline holds
-/

namespace FiveStage

/-- Where an immediate sits in an encoding, how many bits it has, and whether the topmost is a
sign. -/
structure Immediate where
  slices : List Slice
  width : Nat
  signed : Bool

namespace Immediate

/-- The immediate of an encoding, extended to a word. -/
def read (layout : Immediate) (e : Encoding) : Word :=
  let field := Slice.gather layout.slices e
  if layout.signed then signExtendFrom layout.width field else field

/-- The twelve signed bits of register-immediate operations, loads and indirect jumps. -/
def ofI : Immediate := ⟨[⟨31, 20, 0⟩], 12, true⟩

/-- The twelve signed bits of stores. -/
def ofS : Immediate := ⟨[⟨31, 25, 5⟩, ⟨11, 7, 0⟩], 12, true⟩

/-- The even branch offsets. -/
def ofB : Immediate := ⟨[⟨31, 31, 12⟩, ⟨7, 7, 11⟩, ⟨30, 25, 5⟩, ⟨11, 8, 1⟩], 13, true⟩

/-- The upper twenty of 32 bits. -/
def ofU : Immediate := ⟨[⟨31, 12, 12⟩], 32, true⟩

/-- The even jump offsets. -/
def ofJ : Immediate := ⟨[⟨31, 31, 20⟩, ⟨19, 12, 12⟩, ⟨20, 20, 11⟩, ⟨30, 21, 1⟩], 21, true⟩

/-- The amount by which a whole word is shifted. -/
def ofShift : Immediate := ⟨[⟨25, 20, 0⟩], 6, false⟩

/-- The amount by which half a word is shifted. -/
def ofShiftHalf : Immediate := ⟨[⟨24, 20, 0⟩], 5, false⟩

/-- No immediate. -/
def absent : Immediate := ⟨[], 0, false⟩

end Immediate

/-- The immediate of an operation. -/
def Mnemonic.immediate : Mnemonic → Immediate
  | .slli | .srli | .srai => .ofShift
  | .slliw | .srliw | .sraiw => .ofShiftHalf
  | m =>
    match m.format with
    | .r => .absent
    | .i => .ofI
    | .s => .ofS
    | .b => .ofB
    | .u => .ofU
    | .j => .ofJ

/-- The operands that an encoding names, by its format. -/
inductive Operands
  | r (rd rs1 rs2 : Reg)
  | i (rd rs1 : Reg) (imm : Word)
  | s (rs1 rs2 : Reg) (imm : Word)
  | b (rs1 rs2 : Reg) (imm : Word)
  | u (rd : Reg) (imm : Word)
  | j (rd : Reg) (imm : Word)
deriving DecidableEq, Repr

namespace Operands

/-- The format that carries these operands. -/
def format : Operands → Format
  | r .. => .r
  | i .. => .i
  | s .. => .s
  | b .. => .b
  | u .. => .u
  | j .. => .j

/-- The destination register, if the format has one. -/
def rd? : Operands → Option Reg
  | r rd _ _ | i rd _ _ | u rd _ | j rd _ => some rd
  | s .. | b .. => none

/-- The first source register, if the format has one. -/
def rs1? : Operands → Option Reg
  | r _ rs1 _ | i _ rs1 _ | s rs1 _ _ | b rs1 _ _ => some rs1
  | u .. | j .. => none

/-- The second source register, if the format has one. -/
def rs2? : Operands → Option Reg
  | r _ _ rs2 | s _ rs2 _ | b _ rs2 _ => some rs2
  | i .. | u .. | j .. => none

/-- The immediate, if the format has one. -/
def imm? : Operands → Option Word
  | r .. => none
  | i _ _ imm | s _ _ imm | b _ _ imm | u _ imm | j _ imm => some imm

/-- Reads the operands of an operation from an encoding. -/
def read (m : Mnemonic) (e : Encoding) : Operands :=
  let rd : Reg := e.extractLsb' 7 5
  let rs1 : Reg := e.extractLsb' 15 5
  let rs2 : Reg := e.extractLsb' 20 5
  let imm := m.immediate.read e
  match m.format with
  | .r => .r rd rs1 rs2
  | .i => .i rd rs1 imm
  | .s => .s rs1 rs2 imm
  | .b => .b rs1 rs2 imm
  | .u => .u rd imm
  | .j => .j rd imm

end Operands

/-- An instruction: the encoding found at an address, its operation and its operands. -/
structure Instruction where
  pc : Word
  encoding : Encoding
  mnemonic : Mnemonic
  operands : Operands
deriving DecidableEq, Repr

namespace Instruction

/-- Reads the encoding found at an address. -/
def decode (e : Encoding) (pc : Word) : Except Failure Instruction :=
  match Mnemonic.ofEncoding? e with
  | some m => .ok ⟨pc, e, m, Operands.read m e⟩
  | none => .error (.illegalInstruction e pc)

/-- The instruction without an effect, at address zero. -/
def nop : Instruction := ⟨0, 0x13, .addi, .i 0 0 0⟩

instance : Inhabited Instruction := ⟨nop⟩

/-- The destination register, zero if there is none. -/
def rd (inst : Instruction) : Reg := inst.operands.rd?.getD 0

/-- The first source register, zero if there is none. -/
def rs1 (inst : Instruction) : Reg := inst.operands.rs1?.getD 0

/-- The second source register, zero if there is none. -/
def rs2 (inst : Instruction) : Reg := inst.operands.rs2?.getD 0

/-- The immediate, zero if there is none. -/
def imm (inst : Instruction) : Word := inst.operands.imm?.getD 0

/-- Whether the instruction calls the environment. -/
def isEcall (inst : Instruction) : Bool := inst.mnemonic == .ecall

end Instruction

/-! ### What an operation does -/

namespace Mnemonic

/-- Whether the operation reads storage. -/
def isLoad (m : Mnemonic) : Bool := m.opcode == .load

/-- Whether the operation writes storage. -/
def isStore (m : Mnemonic) : Bool := m.opcode == .store

/-- Whether the operation has a result for its destination register. -/
def writesRegister (m : Mnemonic) : Bool :=
  match m.opcode with
  | .branch | .store | .system => false
  | _ => true

/-- The number of bytes that the operation moves from or to storage. -/
def accessSize : Mnemonic → Nat
  | .lb | .lbu | .sb => 1
  | .lh | .lhu | .sh => 2
  | .lw | .lwu | .sw => 4
  | .ld | .sd => 8
  | _ => 0

/-- Whether a loaded value is extended by zeros and not by its sign. -/
def extendsByZeros : Mnemonic → Bool
  | .lbu | .lhu | .lwu => true
  | _ => false

end Mnemonic

end FiveStage
