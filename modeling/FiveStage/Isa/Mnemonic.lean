import FiveStage.Bits

/-!
# The RV64IM operations

The integer base and the multiplication extension as a table: each operation has an assembly name,
an opcode and, where the opcode leaves a choice, further bits that select it. The opcode decides the
format.

## Main definitions

* `Opcode`, `Format`, `Opcode.format`: the major opcodes and the layout of their encodings
* `Mnemonic`, `Mnemonic.all`, `Mnemonic.name`, `Mnemonic.ofName?`: the operations and their names
* `Mnemonic.mask`, `Mnemonic.pattern`: the fixed bits of an operation and their values
-/

namespace FiveStage

/-- The major opcodes. -/
inductive Opcode
  | lui
  | auipc
  | jal
  | jalr
  | branch
  | load
  | store
  | op
  | opImm
  | op32
  | opImm32
  | system
deriving DecidableEq, Repr

/-- The layout of an encoding: which of the three registers it names and where its immediate is. -/
inductive Format
  | r
  | i
  | s
  | b
  | u
  | j
deriving DecidableEq, Repr

namespace Opcode

/-- The low seven bits of the encodings with the opcode. -/
def code : Opcode → BitVec 7
  | .lui => 0x37
  | .auipc => 0x17
  | .jal => 0x6f
  | .jalr => 0x67
  | .branch => 0x63
  | .load => 0x03
  | .store => 0x23
  | .op => 0x33
  | .opImm => 0x13
  | .op32 => 0x3b
  | .opImm32 => 0x1b
  | .system => 0x73

/-- The layout of the encodings with the opcode. -/
def format : Opcode → Format
  | .lui | .auipc => .u
  | .jal => .j
  | .jalr | .load | .opImm | .opImm32 => .i
  | .branch => .b
  | .store => .s
  | .op | .op32 | .system => .r

end Opcode

/-- The operations. -/
inductive Mnemonic
  | lui | auipc | jal | jalr
  | beq | bne | blt | bge | bltu | bgeu
  | lb | lh | lw | ld | lbu | lhu | lwu
  | sb | sh | sw | sd
  | addi | slti | sltiu | xori | ori | andi | slli | srli | srai
  | addiw | slliw | srliw | sraiw
  | add | sub | sll | slt | sltu | xor | srl | sra | or | and
  | mul | mulh | mulhsu | mulhu | div | divu | rem | remu
  | addw | subw | sllw | srlw | sraw
  | mulw | divw | divuw | remw | remuw
  | ecall
deriving DecidableEq, Repr

/-- The bits beside the opcode that select an operation. -/
inductive Selector
  | none
  | funct3 (f3 : BitVec 3)
  | funct6 (f3 : BitVec 3) (f6 : BitVec 6)
  | funct7 (f3 : BitVec 3) (f7 : BitVec 7)
  | whole
deriving DecidableEq, Repr

namespace Selector

/-- The bits that the selector fixes, as a mask over the encoding. -/
def mask : Selector → Encoding
  | .none => 0
  | .funct3 _ => 0x7000
  | .funct6 _ _ => 0xfc007000
  | .funct7 _ _ => 0xfe007000
  | .whole => 0xffffffff

/-- The values of the fixed bits. -/
def bits : Selector → Encoding
  | .none => 0
  | .funct3 f3 => f3.setWidth 32 <<< 12
  | .funct6 f3 f6 => f3.setWidth 32 <<< 12 ||| f6.setWidth 32 <<< 26
  | .funct7 f3 f7 => f3.setWidth 32 <<< 12 ||| f7.setWidth 32 <<< 25
  | .whole => 0

end Selector

namespace Mnemonic

/-- All operations, in the order of the manual's opcode tables. -/
def all : List Mnemonic :=
  [.lui, .auipc, .jal, .jalr,
    .beq, .bne, .blt, .bge, .bltu, .bgeu,
    .lb, .lh, .lw, .ld, .lbu, .lhu, .lwu,
    .sb, .sh, .sw, .sd,
    .addi, .slti, .sltiu, .xori, .ori, .andi, .slli, .srli, .srai,
    .addiw, .slliw, .srliw, .sraiw,
    .add, .sub, .sll, .slt, .sltu, .xor, .srl, .sra, .or, .and,
    .mul, .mulh, .mulhsu, .mulhu, .div, .divu, .rem, .remu,
    .addw, .subw, .sllw, .srlw, .sraw,
    .mulw, .divw, .divuw, .remw, .remuw,
    .ecall]

theorem mem_all (m : Mnemonic) : m ∈ all := by cases m <;> decide

/-- The assembly name. -/
def name : Mnemonic → String
  | .lui => "lui" | .auipc => "auipc" | .jal => "jal" | .jalr => "jalr"
  | .beq => "beq" | .bne => "bne" | .blt => "blt" | .bge => "bge"
  | .bltu => "bltu" | .bgeu => "bgeu"
  | .lb => "lb" | .lh => "lh" | .lw => "lw" | .ld => "ld"
  | .lbu => "lbu" | .lhu => "lhu" | .lwu => "lwu"
  | .sb => "sb" | .sh => "sh" | .sw => "sw" | .sd => "sd"
  | .addi => "addi" | .slti => "slti" | .sltiu => "sltiu" | .xori => "xori" | .ori => "ori"
  | .andi => "andi" | .slli => "slli" | .srli => "srli" | .srai => "srai"
  | .addiw => "addiw" | .slliw => "slliw" | .srliw => "srliw" | .sraiw => "sraiw"
  | .add => "add" | .sub => "sub" | .sll => "sll" | .slt => "slt" | .sltu => "sltu" | .xor => "xor"
  | .srl => "srl" | .sra => "sra" | .or => "or" | .and => "and"
  | .mul => "mul" | .mulh => "mulh" | .mulhsu => "mulhsu" | .mulhu => "mulhu"
  | .div => "div" | .divu => "divu" | .rem => "rem" | .remu => "remu"
  | .addw => "addw" | .subw => "subw" | .sllw => "sllw" | .srlw => "srlw" | .sraw => "sraw"
  | .mulw => "mulw" | .divw => "divw" | .divuw => "divuw" | .remw => "remw" | .remuw => "remuw"
  | .ecall => "ecall"

/-- The operation with the given assembly name, in whatever case its ASCII letters are. -/
def ofName? (text : String) : Option Mnemonic :=
  let lower := text.toList.map Char.toLower
  all.find? fun m => m.name.toList == lower

/-- The major opcode. -/
def opcode : Mnemonic → Opcode
  | .lui => .lui
  | .auipc => .auipc
  | .jal => .jal
  | .jalr => .jalr
  | .beq | .bne | .blt | .bge | .bltu | .bgeu => .branch
  | .lb | .lh | .lw | .ld | .lbu | .lhu | .lwu => .load
  | .sb | .sh | .sw | .sd => .store
  | .addi | .slti | .sltiu | .xori | .ori | .andi | .slli | .srli | .srai => .opImm
  | .addiw | .slliw | .srliw | .sraiw => .opImm32
  | .add | .sub | .sll | .slt | .sltu | .xor | .srl | .sra | .or | .and => .op
  | .mul | .mulh | .mulhsu | .mulhu | .div | .divu | .rem | .remu => .op
  | .addw | .subw | .sllw | .srlw | .sraw => .op32
  | .mulw | .divw | .divuw | .remw | .remuw => .op32
  | .ecall => .system

/-- The layout of the operation's encodings. -/
def format (m : Mnemonic) : Format := m.opcode.format

/-- The bits that select the operation among those with its opcode. -/
def selector : Mnemonic → Selector
  | .lui | .auipc | .jal => .none
  | .jalr => .funct3 0
  | .beq => .funct3 0
  | .bne => .funct3 1
  | .blt => .funct3 4
  | .bge => .funct3 5
  | .bltu => .funct3 6
  | .bgeu => .funct3 7
  | .lb => .funct3 0
  | .lh => .funct3 1
  | .lw => .funct3 2
  | .ld => .funct3 3
  | .lbu => .funct3 4
  | .lhu => .funct3 5
  | .lwu => .funct3 6
  | .sb => .funct3 0
  | .sh => .funct3 1
  | .sw => .funct3 2
  | .sd => .funct3 3
  | .addi => .funct3 0
  | .slti => .funct3 2
  | .sltiu => .funct3 3
  | .xori => .funct3 4
  | .ori => .funct3 6
  | .andi => .funct3 7
  | .slli => .funct6 1 0x00
  | .srli => .funct6 5 0x00
  | .srai => .funct6 5 0x10
  | .addiw => .funct3 0
  | .slliw => .funct7 1 0x00
  | .srliw => .funct7 5 0x00
  | .sraiw => .funct7 5 0x20
  | .add => .funct7 0 0x00
  | .sub => .funct7 0 0x20
  | .sll => .funct7 1 0x00
  | .slt => .funct7 2 0x00
  | .sltu => .funct7 3 0x00
  | .xor => .funct7 4 0x00
  | .srl => .funct7 5 0x00
  | .sra => .funct7 5 0x20
  | .or => .funct7 6 0x00
  | .and => .funct7 7 0x00
  | .mul => .funct7 0 0x01
  | .mulh => .funct7 1 0x01
  | .mulhsu => .funct7 2 0x01
  | .mulhu => .funct7 3 0x01
  | .div => .funct7 4 0x01
  | .divu => .funct7 5 0x01
  | .rem => .funct7 6 0x01
  | .remu => .funct7 7 0x01
  | .addw => .funct7 0 0x00
  | .subw => .funct7 0 0x20
  | .sllw => .funct7 1 0x00
  | .srlw => .funct7 5 0x00
  | .sraw => .funct7 5 0x20
  | .mulw => .funct7 0 0x01
  | .divw => .funct7 4 0x01
  | .divuw => .funct7 5 0x01
  | .remw => .funct7 6 0x01
  | .remuw => .funct7 7 0x01
  | .ecall => .whole

/-- The bits that are the same in all encodings of the operation. -/
def mask (m : Mnemonic) : Encoding := 0x7f ||| m.selector.mask

/-- The values of these bits. -/
def pattern (m : Mnemonic) : Encoding := m.opcode.code.setWidth 32 ||| m.selector.bits

/-- The operation whose fixed bits an encoding has. No two operations agree on the bits that both
fix, so the order of the search does not matter. -/
def ofEncoding? (e : Encoding) : Option Mnemonic :=
  all.find? fun m => e &&& m.mask == m.pattern

end Mnemonic

end FiveStage
