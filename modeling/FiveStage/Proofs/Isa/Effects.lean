import FiveStage.Isa.Effect

/-!
# Branches and loads

A branch is taken where its source registers compare as its operation says: as words, as signed
numbers or as unsigned ones. A load reads the bits of its size and makes a word of them, by their
sign or by zeros.

## Main definitions

* `Mnemonic.BranchesIf`: an operation is taken where a relation holds
* `Mnemonic.LoadsBy`: an operation extends what it loads in one way

## Main results

* `Mnemonic.branches_compare`: the relation of each branch
* `Mnemonic.loads_extend`: the extension of each load
-/

namespace FiveStage

namespace Mnemonic

variable {m : Mnemonic} {width : Nat}

/-- The operation is a branch, and its instructions are taken where the values of their source
registers are in the relation. -/
structure BranchesIf (m : Mnemonic) (relation : Word → Word → Prop) : Prop where
  branch : m.opcode = .branch
  taken : ∀ {inst : Instruction}, inst.mnemonic = m → ∀ a b,
    inst.branches a b = true ↔ relation a b

/-- The operation is a load of so many bits, and it makes a word of them by the extension. -/
structure LoadsBy (m : Mnemonic) (extend : BitVec width → Word) : Prop where
  load : m.isLoad = true
  size : 8 * m.accessSize = width
  loaded : ∀ bits : BitVec width, m.extendLoaded (bits.setWidth 64) = extend bits

/-! ### Branches -/

@[simp] theorem truth_bne_zero (b : Bool) : (AluOp.truth b != 0) = b := by cases b <;> rfl

theorem opcode_eq_branch_iff :
    m.opcode = .branch ↔ m ∈ [beq, bne, blt, bge, bltu, bgeu] := by cases m <;> decide

/-- A branch whose function is a comparison is taken where the comparison succeeds. -/
theorem branchesIf {relation : Word → Word → Prop} {compares : Word → Word → Bool}
    (branch : m.opcode = .branch)
    (computes : ∀ a b, m.aluOp.eval a b = AluOp.truth (compares a b))
    (decides : ∀ a b, compares a b = true ↔ relation a b) : m.BranchesIf relation where
  branch := branch
  taken := by
    rintro inst rfl a b
    rw [Instruction.branches, Instruction.compute, computes, truth_bne_zero, decides]

/-- Branches compare their source registers, and no other operation branches. -/
theorem branches_compare :
    beq.BranchesIf (fun a b => a = b) ∧
    bne.BranchesIf (fun a b => a ≠ b) ∧
    blt.BranchesIf (fun a b => a.toInt < b.toInt) ∧
    bge.BranchesIf (fun a b => b.toInt ≤ a.toInt) ∧
    bltu.BranchesIf (fun a b => a.toNat < b.toNat) ∧
    bgeu.BranchesIf (fun a b => b.toNat ≤ a.toNat) ∧
    ∀ m : Mnemonic, m.opcode = .branch → m ∈ [beq, bne, blt, bge, bltu, bgeu] := by
  refine ⟨?_, ?_, ?_, ?_, ?_, ?_, fun _ => opcode_eq_branch_iff.mp⟩ <;>
    refine branchesIf rfl (fun _ _ => rfl) fun a b => ?_
  · exact beq_iff_eq
  · exact bne_iff_ne
  · exact BitVec.slt_iff_toInt_lt
  · exact BitVec.sle_iff_toInt_le
  · exact BitVec.ult_iff_toNat_lt
  · exact BitVec.ule_iff_toNat_le

/-! ### Loads -/

theorem isLoad_iff : m.isLoad = true ↔ m ∈ [lb, lh, lw, ld, lbu, lhu, lwu] := by
  cases m <;> decide

/-- A word knows its low bits. -/
theorem signExtendFrom_setWidth (narrow : width ≤ 64) (bits : BitVec width) :
    signExtendFrom width (bits.setWidth 64) = bits.signExtend 64 := by
  rw [signExtendFrom, BitVec.setWidth_setWidth_of_le _ narrow, BitVec.setWidth_eq]

/-- Loads of signed numbers extend the sign. -/
theorem loadsBy_signExtend (load : m.isLoad = true) (signed : m.extendsByZeros = false)
    (size : 8 * m.accessSize = width) (narrow : width ≤ 64) :
    m.LoadsBy fun bits : BitVec width => bits.signExtend 64 where
  load := load
  size := size
  loaded bits := by
    rw [extendLoaded, signed, Nat.mul_comm, size]
    exact signExtendFrom_setWidth narrow bits

/-- Loads of unsigned numbers extend by zeros. -/
theorem loadsBy_setWidth (load : m.isLoad = true) (unsigned : m.extendsByZeros = true)
    (size : 8 * m.accessSize = width) :
    m.LoadsBy fun bits : BitVec width => bits.setWidth 64 where
  load := load
  size := size
  loaded bits := by rw [extendLoaded, unsigned, if_pos rfl]

/-- Loads extend bytes, halves and words by their sign or by zeros, and no other operation loads. -/
theorem loads_extend :
    lb.LoadsBy (fun bits : BitVec 8 => bits.signExtend 64) ∧
    lh.LoadsBy (fun bits : BitVec 16 => bits.signExtend 64) ∧
    lw.LoadsBy (fun bits : BitVec 32 => bits.signExtend 64) ∧
    ld.LoadsBy (fun bits : BitVec 64 => bits) ∧
    lbu.LoadsBy (fun bits : BitVec 8 => bits.setWidth 64) ∧
    lhu.LoadsBy (fun bits : BitVec 16 => bits.setWidth 64) ∧
    lwu.LoadsBy (fun bits : BitVec 32 => bits.setWidth 64) ∧
    ∀ m : Mnemonic, m.isLoad = true → m ∈ [lb, lh, lw, ld, lbu, lhu, lwu] := by
  have whole : ld.LoadsBy fun bits : BitVec 64 => bits.signExtend 64 :=
    loadsBy_signExtend rfl rfl rfl (Nat.le_refl 64)
  refine ⟨loadsBy_signExtend rfl rfl rfl (by decide), loadsBy_signExtend rfl rfl rfl (by decide),
    loadsBy_signExtend rfl rfl rfl (by decide), ⟨whole.load, whole.size, fun bits => ?_⟩,
    loadsBy_setWidth rfl rfl rfl, loadsBy_setWidth rfl rfl rfl, loadsBy_setWidth rfl rfl rfl,
    fun _ => isLoad_iff.mp⟩
  rw [whole.loaded, BitVec.signExtend_eq]

end Mnemonic

end FiveStage
