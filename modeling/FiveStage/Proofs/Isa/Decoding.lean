import FiveStage.Isa.Effect
import FiveStage.Proofs.Outcome

/-!
# Decoded instructions

An encoding shows the opcode of its operation in its lowest seven bits, so jumps and branches are
told apart from other instructions before they are decoded.

## Main definitions

* `Mnemonic.isAccess`: the operations that move data

## Main results

* `Mnemonic.opcode_of_ofEncoding?`: the opcode in the encodings of an operation
* `Opcode.code_inj`: no two opcodes have the same code
* `Instruction.decode_eq_ok_iff`: what decoding finds
-/

namespace FiveStage

theorem Opcode.code_inj {first second : Opcode} : first.code = second.code ↔ first = second := by
  constructor
  · cases first <;> cases second <;> decide
  · exact congrArg code

namespace Mnemonic

variable {m : Mnemonic} {e : Encoding}

theorem opcode_mask (m : Mnemonic) : m.mask.extractLsb' 0 7 = BitVec.allOnes 7 := by
  cases m <;> decide

theorem opcode_pattern (m : Mnemonic) : m.pattern.extractLsb' 0 7 = m.opcode.code := by
  cases m <;> decide

/-- The lowest bits of an encoding are the code of the opcode. -/
theorem opcode_of_ofEncoding? (found : ofEncoding? e = some m) :
    e.extractLsb' 0 7 = m.opcode.code := by
  have fixed : e &&& m.mask = m.pattern := by simpa using List.find?_some found
  calc e.extractLsb' 0 7
      = e.extractLsb' 0 7 &&& BitVec.allOnes 7 := BitVec.and_allOnes.symm
    _ = (e &&& m.mask).extractLsb' 0 7 := by rw [BitVec.extractLsb'_and, opcode_mask]
    _ = m.opcode.code := by rw [fixed, opcode_pattern]

theorem immediate_of_jal (opcode : m.opcode = .jal) : m.immediate = .ofJ := by
  cases m <;> first | rfl | cases opcode

theorem immediate_of_branch (opcode : m.opcode = .branch) : m.immediate = .ofB := by
  cases m <;> first | rfl | cases opcode

theorem opcode_eq_system_iff : m.opcode = .system ↔ m = .ecall := by
  cases m <;> decide

/-- Whether the operation loads or stores. -/
def isAccess (m : Mnemonic) : Bool := m.isLoad || m.isStore

theorem opcode_of_isAccess (access : m.isAccess = true) : m.opcode = .load ∨ m.opcode = .store := by
  rcases Bool.or_eq_true_iff.mp access with load | store
  · exact .inl (eq_of_beq load)
  · exact .inr (eq_of_beq store)

theorem writesRegister_of_isLoad (load : m.isLoad = true) : m.writesRegister = true := by
  have opcode : m.opcode = .load := eq_of_beq load
  simp only [writesRegister, opcode]

end Mnemonic

namespace Instruction

variable {e : Encoding} {pc : Word} {inst : Instruction}

theorem decode_eq_ok_iff :
    decode e pc = .ok inst ↔ ∃ m, Mnemonic.ofEncoding? e = some m ∧
      inst = ⟨pc, e, m, Operands.read m e⟩ := by
  unfold decode
  cases Mnemonic.ofEncoding? e with
  | none => simp
  | some m => simp [eq_comm]

/-- The only failure of decoding. -/
theorem decode_eq_error_iff {failure : Failure} :
    decode e pc = .error failure ↔ Mnemonic.ofEncoding? e = none ∧
      failure = .illegalInstruction e pc := by
  unfold decode
  cases Mnemonic.ofEncoding? e with
  | none => simp [eq_comm]
  | some m => simp

theorem imm_of_decode (decoded : decode e pc = .ok inst) (opcode : inst.mnemonic.opcode = .jal ∨
    inst.mnemonic.opcode = .branch) : inst.imm = inst.mnemonic.immediate.read e := by
  obtain ⟨m, -, rfl⟩ := decode_eq_ok_iff.mp decoded
  rcases opcode with opcode | opcode <;>
    simp only [imm, Operands.read, Mnemonic.format, opcode, Opcode.format, Operands.imm?,
      Option.getD_some]

end Instruction

end FiveStage
