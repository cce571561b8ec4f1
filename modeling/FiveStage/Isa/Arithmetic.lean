import FiveStage.Isa.Instruction

/-!
# Arithmetic and comparison

The function that an operation computes from two words. Half-word operations work on the low halves
and extend the sign of the result. Division by zero has a result: a quotient of all ones, and the
dividend as the remainder.

## Main definitions

* `AluOp`, `AluOp.eval`: the functions and their values
* `Mnemonic.aluOp`, `Mnemonic.usesRegister`: the function of an operation and where its second
  operand comes from
-/

namespace FiveStage

/-- The functions of two words. -/
inductive AluOp
  | add | sub | and | or | xor
  | slt | sltu
  | sll | srl | sra
  | mul | mulh | mulhsu | mulhu | div | divu | rem | remu
  | addw | subw | sllw | srlw | sraw
  | mulw | divw | divuw | remw | remuw
  | beq | bne | blt | bge | bltu | bgeu
deriving DecidableEq, Repr

namespace AluOp

/-- A truth value as a word: one or zero. -/
def truth (b : Bool) : Word := (BitVec.ofBool b).setWidth 64

/-- The quotient towards zero of signed numbers; all ones if the divisor is zero. -/
def signedQuotient {w : Nat} (a b : BitVec w) : BitVec w :=
  if b = 0 then BitVec.allOnes w else a.sdiv b

/-- The remainder that belongs to `signedQuotient`, with the sign of the dividend. -/
def signedRemainder {w : Nat} (a b : BitVec w) : BitVec w :=
  if b = 0 then a else a.srem b

/-- The quotient of unsigned numbers; all ones if the divisor is zero. -/
def unsignedQuotient {w : Nat} (a b : BitVec w) : BitVec w :=
  if b = 0 then BitVec.allOnes w else a / b

/-- The remainder that belongs to `unsignedQuotient`. -/
def unsignedRemainder {w : Nat} (a b : BitVec w) : BitVec w :=
  if b = 0 then a else a % b

/-- The upper half of a product of double width. -/
def upperHalf (product : BitVec 128) : Word := product.extractLsb' 64 64

/-- Applies a function of half words to the low halves of two words. -/
def onHalves (f : BitVec 32 → BitVec 32 → BitVec 32) (a b : Word) : Word :=
  (f (a.setWidth 32) (b.setWidth 32)).signExtend 64

/-- The value of the function. Comparisons give one or zero. -/
def eval : AluOp → Word → Word → Word
  | add, a, b => a + b
  | sub, a, b => a - b
  | and, a, b => a &&& b
  | or, a, b => a ||| b
  | xor, a, b => a ^^^ b
  | slt, a, b => truth (a.slt b)
  | sltu, a, b => truth (a.ult b)
  | sll, a, b => a <<< b.setWidth 6
  | srl, a, b => a >>> b.setWidth 6
  | sra, a, b => a.sshiftRight' (b.setWidth 6)
  | mul, a, b => a * b
  | mulh, a, b => upperHalf (a.signExtend 128 * b.signExtend 128)
  | mulhsu, a, b => upperHalf (a.signExtend 128 * b.setWidth 128)
  | mulhu, a, b => upperHalf (a.setWidth 128 * b.setWidth 128)
  | div, a, b => signedQuotient a b
  | divu, a, b => unsignedQuotient a b
  | rem, a, b => signedRemainder a b
  | remu, a, b => unsignedRemainder a b
  | addw, a, b => onHalves (· + ·) a b
  | subw, a, b => onHalves (· - ·) a b
  | sllw, a, b => onHalves (fun x y => x <<< y.setWidth 5) a b
  | srlw, a, b => onHalves (fun x y => x >>> y.setWidth 5) a b
  | sraw, a, b => onHalves (fun x y => x.sshiftRight' (y.setWidth 5)) a b
  | mulw, a, b => onHalves (· * ·) a b
  | divw, a, b => onHalves signedQuotient a b
  | divuw, a, b => onHalves unsignedQuotient a b
  | remw, a, b => onHalves signedRemainder a b
  | remuw, a, b => onHalves unsignedRemainder a b
  | beq, a, b => truth (a == b)
  | bne, a, b => truth (a != b)
  | blt, a, b => truth (a.slt b)
  | bge, a, b => truth (b.sle a)
  | bltu, a, b => truth (a.ult b)
  | bgeu, a, b => truth (b.ule a)

end AluOp

namespace Mnemonic

/-- The function that an operation computes; addresses, upper immediates and links are sums. -/
def aluOp : Mnemonic → AluOp
  | .beq => .beq
  | .bne => .bne
  | .blt => .blt
  | .bge => .bge
  | .bltu => .bltu
  | .bgeu => .bgeu
  | .slti | .slt => .slt
  | .sltiu | .sltu => .sltu
  | .xori | .xor => .xor
  | .ori | .or => .or
  | .andi | .and => .and
  | .slli | .sll => .sll
  | .srli | .srl => .srl
  | .srai | .sra => .sra
  | .sub => .sub
  | .addiw | .addw => .addw
  | .slliw | .sllw => .sllw
  | .srliw | .srlw => .srlw
  | .sraiw | .sraw => .sraw
  | .subw => .subw
  | .mul => .mul
  | .mulh => .mulh
  | .mulhsu => .mulhsu
  | .mulhu => .mulhu
  | .div => .div
  | .divu => .divu
  | .rem => .rem
  | .remu => .remu
  | .mulw => .mulw
  | .divw => .divw
  | .divuw => .divuw
  | .remw => .remw
  | .remuw => .remuw
  | _ => .add

/-- Whether the second operand of the function is a register and not the immediate. -/
def usesRegister (m : Mnemonic) : Bool :=
  match m.opcode with
  | .branch | .op | .op32 | .system => true
  | _ => false

end Mnemonic

/-- The value of an instruction's function on two words. -/
def Instruction.compute (inst : Instruction) (a b : Word) : Word := inst.mnemonic.aluOp.eval a b

end FiveStage
