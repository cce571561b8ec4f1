import FiveStage.Proofs.Pipeline.Flat
import FiveStage.Proofs.Platform.Essential
import FiveStage.Proofs.Platform.Runs

/-!
# Instructions in front of the third stage

Where the pipeline is right, the latch in front of the third stage holds what the sequential
platform is about to execute: the instruction at its program counter, with the values of its
registers. Executing the latch, and then what the fourth and the fifth stage do with it, is one
instruction of the platform.

## Main definitions

* `FlatPlatform.issued`: the latch of the next instruction
* `FlatPlatform.refusal?`: why the word at an address is no instruction
* `Latch.redirection`: where fetching is sent by an instruction that executes
* `Latch.retire`: the effect of a finished instruction on the hart

## Main results

* `Latch.decoded_cases`: what decoding makes of a latch
* `FlatPlatform.executeNext_of_issued`: the instruction that the latch holds
* `FlatPlatform.following_eq`: where it goes on
-/

namespace FiveStage

/-- Writes a result to its register, if there is one with that number. -/
def Hart.deliver (destination : Option Nat) (value : Word) (hart : Hart) : Hart :=
  match destination.bind Reg.ofNumber? with
  | some r => hart.setRegister r value
  | none => hart

namespace Hart

variable {hart : Hart} {r : Reg} {value : Word}

@[simp] theorem deliver_none : hart.deliver none value = hart := rfl

@[simp] theorem deliver_toNat : hart.deliver (some r.toNat) value = hart.setRegister r value := by
  simp [deliver]

theorem uncounted_deliver {destination : Option Nat} :
    (hart.deliver destination value).uncounted = hart.uncounted.deliver destination value := by
  unfold deliver
  split
  · exact aside_uncounted.setRegister hart _ value
  · rfl

theorem essential_deliver {destination : Option Nat} :
    (hart.deliver destination value).essential = hart.essential.deliver destination value := by
  unfold deliver
  split
  · exact aside_essential.setRegister hart _ value
  · rfl

theorem pc_deliver {destination : Option Nat} : (hart.deliver destination value).pc = hart.pc := by
  unfold deliver
  split
  · exact pc_setRegister
  · rfl

theorem exitCode_deliver {destination : Option Nat} :
    (hart.deliver destination value).exitCode = hart.exitCode := by
  unfold deliver
  split
  · exact exitCode_setRegister
  · rfl

/-- Nothing is delivered to the zero register. -/
theorem deliver_unless_zero :
    hart.deliver (if r = 0 then none else some r.toNat) value = hart.setRegister r value := by
  split
  · next zero => simp [setRegister, zero]
  · exact deliver_toNat

/-- A register is delivered to by its number only. -/
theorem register_deliver (hart : Hart) (destination : Option Nat) (value : Word) (r : Reg) :
    (hart.deliver destination value).register r =
      if r.toNat ≠ 0 ∧ destination = some r.toNat then value else hart.register r := by
  unfold deliver
  cases found : destination.bind Reg.ofNumber? with
  | none =>
    rw [if_neg]
    rintro ⟨-, rfl⟩
    simp at found
  | some s =>
    obtain ⟨n, rfl, number⟩ := Option.bind_eq_some_iff.mp found
    unfold Reg.ofNumber? at number
    split at number
    · next small =>
      have place : s.toNat = n := by
        rw [← Option.some.inj number, BitVec.toNat_ofNat, Nat.mod_eq_of_lt small]
      subst place
      by_cases same : s = r
      · subst same
        by_cases zero : s = 0
        · simp [setRegister, zero]
        · have nonzero : s.toNat ≠ 0 := fun equal => zero (BitVec.eq_of_toNat_eq equal)
          rw [register_setRegister_self zero, if_pos ⟨nonzero, rfl⟩]
      · rw [register_setRegister_of_ne same, if_neg]
        rintro ⟨-, equal⟩
        exact same (BitVec.eq_of_toNat_eq (Option.some.inj equal))
    · cases number

end Hart

namespace Latch

/-- Where fetching is sent by an instruction that has computed its results. -/
def redirection (output : Latch) : Option Word :=
  let inst := output.instruction
  match inst.mnemonic.opcode with
  | .jalr => some output.target
  | .branch =>
    let taken := inst.branches output.operandA output.operandB
    if taken = output.predictedTaken then none
      else some (if taken then output.target else output.pc + 4)
  | _ => none

/-- The hart after the instruction has written its results. -/
def retire (latch : Latch) (hart : Hart) : Hart :=
  ((hart.deliver latch.loadedTo latch.loaded).deliver latch.computedTo latch.computed).count
    fun c => { c with retired := c.retired + 1 }

theorem redirection_of_ecall {output : Latch} (ecall : output.instruction.isEcall = true) :
    output.redirection = none := by
  have opcode : output.instruction.mnemonic.opcode = .system :=
    Mnemonic.opcode_eq_system_iff.mpr (eq_of_beq ecall)
  simp only [redirection, opcode]

/-- Loads and stores send fetching nowhere. -/
theorem redirection_of_isAccess {output : Latch}
    (access : output.instruction.mnemonic.isAccess = true) :
    output.redirection = none := by
  rcases Mnemonic.opcode_of_isAccess access with opcode | opcode <;> simp only [redirection, opcode]

/-- The failure that the latch raises in the third stage. -/
def raised? (latch : Latch) : Option Failure := latch.fault.map (·.raised latch.encoding latch.pc)

/-- The destinations are registers, and there is at most one. -/
structure WellDirected (latch : Latch) : Prop where
  computedTo : ∀ n, latch.computedTo = some n → n < 32
  loadedTo : ∀ n, latch.loadedTo = some n → n < 32
  single : latch.computedTo = none ∨ latch.loadedTo = none

end Latch

namespace FlatMemory

variable {memory : FlatMemory} {predictor : Predictor} {pc : Word}

/-- Why the word at an address is no instruction: it cannot be fetched or it cannot be decoded. -/
def refusal? (memory : FlatMemory) (pc : Word) : Option Failure :=
  match memory.fetch pc with
  | .error cause => some (.memory cause)
  | .ok e =>
    match Instruction.decode e pc with
    | .error failure => some failure
    | .ok _ => none

@[simp] theorem fetched_bubble : (memory.fetched predictor pc).bubble = false := by
  unfold fetched
  split <;> rfl

@[simp] theorem fetched_stall : (memory.fetched predictor pc).stall = false := by
  unfold fetched
  split <;> rfl

/-- Whatever is fetched moves on, be it an instruction or the failure to fetch one. -/
theorem fetched_isLive : (memory.fetched predictor pc).isLive = true := by
  rw [Latch.isLive, fetched_bubble, fetched_stall]
  rfl

theorem fetched_congr {other : FlatMemory} (same : other.fetch pc = memory.fetch pc) :
    other.fetched predictor pc = memory.fetched predictor pc := by
  simp only [fetched, same]

theorem fetched_of_ok {e : Encoding} (here : memory.fetch pc = .ok e) :
    memory.fetched predictor pc =
      { pc, encoding := e, predictedTaken := (Machine.predictNext predictor pc e).2 } := by
  simp only [fetched, here]

/-- A fetch that fails gives a latch that raises the failure. -/
theorem fetched_of_error (predictor : Predictor) {cause : MemoryFault}
    (here : memory.fetch pc = .error cause) :
    ∃ fault, memory.fetched predictor pc = { pc, fault := some fault } ∧
      ∀ e, fault.raised e pc = .memory cause := by
  have refused : memory.check pc.toNat 4 = .error cause := by
    simp only [fetch, read] at here
    cases checked : memory.check pc.toNat 4 with
    | error fault =>
      rw [checked] at here
      exact congrArg _ (Except.error.inj here)
    | ok _ =>
      rw [checked] at here
      cases here
  obtain ⟨a, kind, rfl⟩ | ⟨a, rfl⟩ := fault_of_check refused
  · exact ⟨.access a kind, by simp only [fetched, here]; rfl, fun _ => rfl⟩
  · exact ⟨.pageFault a, by simp only [fetched, here]; rfl, fun _ => rfl⟩

end FlatMemory

namespace FlatPlatform

variable {p q : FlatPlatform} {predictor : Predictor}

/-- The next instruction as it stands in front of the third stage. -/
def issued (platform : FlatPlatform) (predictor : Predictor) : Latch :=
  (platform.memory.fetched predictor platform.hart.pc).decoded platform.hart

end FlatPlatform

namespace Latch

variable {memory : FlatMemory} {predictor : Predictor} {pc : Word} {hart : Hart} {latch : Latch}

theorem isLive_iff : latch.isLive = true ↔ latch.bubble = false ∧ latch.stall = false := by
  simp [isLive]

theorem decoded_of_not_isLive (idle : latch.isLive = false) : latch.decoded hart = Latch.empty := by
  unfold decoded
  rw [idle]
  rfl

/-- Decoding reads nothing of the hart but its registers. -/
theorem decoded_congr {other : Hart} (same : ∀ r, other.register r = hart.register r) :
    latch.decoded other = latch.decoded hart := by
  simp only [decoded, Machine.readOperands, same]

/-- Decoding makes of a latch an empty place, a latch with a fault, or an instruction. Which of
these it is does not depend on the registers, so they come last. -/
theorem decoded_cases (latch : Latch) :
    (latch.isLive = false ∧ ∀ hart, latch.decoded hart = Latch.empty) ∨
    (latch.isLive = true ∧ ∃ fault, ∀ hart, latch.decoded hart =
      { pc := latch.pc, encoding := latch.encoding, predictedTaken := latch.predictedTaken,
        fault := some fault }) ∨
    (latch.isLive = true ∧ ∃ inst, ∀ hart, latch.decoded hart = Machine.readOperands hart inst
      { pc := latch.pc, encoding := latch.encoding, predictedTaken := latch.predictedTaken }) := by
  cases live : latch.isLive with
  | false => exact .inl ⟨rfl, fun _ => decoded_of_not_isLive live⟩
  | true =>
    right
    cases faulty : latch.fault with
    | some fault => exact .inl ⟨rfl, fault, fun _ => by simp [decoded, live, faulty]⟩
    | none =>
      cases found : Instruction.decode latch.encoding latch.pc with
      | error _ => exact .inl ⟨rfl, .undecodable, fun _ => by simp [decoded, live, faulty, found]⟩
      | ok inst => exact .inr ⟨rfl, inst, fun _ => by simp [decoded, live, faulty, found]⟩

/-- Decoding an empty place leaves it empty, and everything else goes on. -/
theorem decoded_isLive_or_empty (latch : Latch) (hart : Hart) :
    (latch.decoded hart).isLive = true ∨ latch.decoded hart = Latch.empty := by
  obtain ⟨-, same⟩ | ⟨-, fault, same⟩ | ⟨-, inst, same⟩ := latch.decoded_cases
  · exact .inr (same hart)
  · exact .inl (same hart ▸ rfl)
  · exact .inl (same hart ▸ rfl)

/-- Decoding gives an instruction where there was one, whatever the registers hold. -/
theorem isLive_decoded_eq (latch : Latch) (hart : Hart) :
    (latch.decoded hart).isLive = latch.isLive := by
  obtain ⟨live, same⟩ | ⟨live, fault, same⟩ | ⟨live, inst, same⟩ := latch.decoded_cases <;>
    rw [live, same] <;> rfl

theorem isLive_decoded (live : latch.isLive = true) : (latch.decoded hart).isLive = true :=
  (isLive_decoded_eq latch hart).trans live

/-- Which registers are read does not depend on what they hold. -/
theorem reads_decoded (hart hart' : Hart) (number : Nat) :
    (latch.decoded hart).reads number = (latch.decoded hart').reads number := by
  obtain ⟨-, same⟩ | ⟨-, fault, same⟩ | ⟨-, inst, same⟩ := latch.decoded_cases
  · rw [same, same]
  · rw [same, same]
  · rw [same, same]
    rfl

theorem wellDirected_empty : Latch.empty.WellDirected where
  computedTo := nofun
  loadedTo := nofun
  single := .inl rfl

/-- The destinations of an instruction are registers. -/
theorem wellDirected_decoded (latch : Latch) (hart : Hart) : (latch.decoded hart).WellDirected := by
  obtain ⟨-, same⟩ | ⟨-, fault, same⟩ | ⟨-, inst, same⟩ := latch.decoded_cases <;> rw [same]
  · exact wellDirected_empty
  · exact ⟨nofun, nofun, .inl rfl⟩
  · have small := inst.rd.isLt
    simp only [Machine.readOperands]
    constructor
    · intro n leads
      simp only [Option.ite_none_right_eq_some, Option.ite_none_left_eq_some,
        Option.some.injEq] at leads
      omega
    · intro n leads
      simp only [Option.ite_none_right_eq_some, Option.ite_none_left_eq_some,
        Option.some.injEq] at leads
      omega
    · cases inst.mnemonic.isLoad <;> simp

/-- What is loaded for the zero register goes nowhere. -/
theorem loadedTo_decoded_ne_zero (latch : Latch) (hart : Hart) :
    (latch.decoded hart).loadedTo ≠ some 0 := by
  obtain ⟨-, same⟩ | ⟨-, fault, same⟩ | ⟨-, inst, same⟩ := latch.decoded_cases <;> rw [same]
  · rintro ⟨⟩
  · rintro ⟨⟩
  · intro loads
    simp only [Machine.readOperands, Option.ite_none_right_eq_some,
      Option.ite_none_left_eq_some, Option.some.injEq] at loads
    exact loads.2.1 (BitVec.eq_of_toNat_eq loads.2.2)

/-- What is computed for the zero register goes nowhere. -/
theorem computedTo_decoded_ne_zero (latch : Latch) (hart : Hart) :
    (latch.decoded hart).computedTo ≠ some 0 := by
  obtain ⟨-, same⟩ | ⟨-, fault, same⟩ | ⟨-, inst, same⟩ := latch.decoded_cases <;> rw [same]
  · rintro ⟨⟩
  · rintro ⟨⟩
  · intro writes
    simp only [Machine.readOperands, Option.ite_none_right_eq_some,
      Option.ite_none_left_eq_some, Option.some.injEq] at writes
    exact writes.2.1 (BitVec.eq_of_toNat_eq writes.2.2)

/-- A latch with a fault holds no instruction that does anything or that reads registers. -/
theorem of_fault_decoded (faulty : (latch.decoded hart).fault ≠ none) :
    (latch.decoded hart).instruction = Instruction.nop ∧ (latch.decoded hart).sourceA = 0 ∧
      (latch.decoded hart).sourceB = 0 := by
  obtain ⟨-, same⟩ | ⟨-, fault, same⟩ | ⟨-, inst, same⟩ := latch.decoded_cases <;>
    rw [same] at faulty ⊢
  · exact ⟨rfl, rfl, rfl⟩
  · exact ⟨rfl, rfl, rfl⟩
  · exact absurd rfl faulty

/-- What decoding makes of a fetched latch: a latch that raises why there is no instruction, or the
instruction with its operands. -/
theorem decoded_fetched (memory : FlatMemory) (predictor : Predictor) (pc : Word) (hart : Hart) :
    (∃ fault e predictedTaken, (memory.fetched predictor pc).decoded hart =
        { pc, encoding := e, predictedTaken, fault := some fault } ∧
        memory.refusal? pc = some (fault.raised e pc)) ∨
      ∃ e inst, memory.fetch pc = .ok e ∧ Instruction.decode e pc = .ok inst ∧
        (memory.fetched predictor pc).decoded hart = Machine.readOperands hart inst
          { pc, encoding := e, predictedTaken := (Machine.predictNext predictor pc e).2 } := by
  cases here : memory.fetch pc with
  | error cause =>
    obtain ⟨fault, fetched, raised⟩ := FlatMemory.fetched_of_error predictor here
    refine .inl ⟨fault, 0, false, ?_, ?_⟩
    · rw [fetched]
      rfl
    · simp only [FlatMemory.refusal?, here, raised]
  | ok e =>
    rw [FlatMemory.fetched_of_ok here]
    cases decoded : Instruction.decode e pc with
    | error failure =>
      obtain ⟨-, rfl⟩ := Instruction.decode_eq_error_iff.mp decoded
      refine .inl ⟨.undecodable, e, (Machine.predictNext predictor pc e).2, ?_, ?_⟩
      · simp [Latch.decoded, isLive, decoded]
      · simp only [FlatMemory.refusal?, here, decoded]
        rfl
    | ok inst =>
      refine .inr ⟨e, inst, rfl, decoded, ?_⟩
      simp [Latch.decoded, isLive, decoded]

/-- Decoding what was fetched raises why the word is no instruction. -/
theorem raised?_decoded_fetched :
    ((memory.fetched predictor pc).decoded hart).raised? = memory.refusal? pc := by
  obtain ⟨fault, e, predictedTaken, decoded, refused⟩ | ⟨e, inst, here, found, decoded⟩ :=
    decoded_fetched memory predictor pc hart
  · rw [decoded, refused]
    rfl
  · rw [decoded]
    simp only [FlatMemory.refusal?, here, found]
    rfl

@[simp] theorem decoded_fetched_isLive :
    ((memory.fetched predictor pc).decoded hart).isLive = true := by
  obtain ⟨fault, e, predictedTaken, decoded, -⟩ | ⟨e, inst, -, -, decoded⟩ :=
    decoded_fetched memory predictor pc hart <;> rw [decoded] <;> rfl

/-- Decoding an instruction keeps where fetching goes on. -/
theorem next_decoded_fetched (fine : ((memory.fetched predictor pc).decoded hart).fault = none) :
    ((memory.fetched predictor pc).decoded hart).next = (memory.fetched predictor pc).next := by
  obtain ⟨fault, e, predictedTaken, decoded, -⟩ | ⟨e, inst, here, -, decoded⟩ :=
    decoded_fetched memory predictor pc hart
  · rw [decoded] at fine
    cases fine
  · rw [decoded, FlatMemory.fetched_of_ok here]
    rfl

end Latch

/-! ### One instruction -/

namespace FlatPlatform

variable {p : FlatPlatform} {predictor : Predictor}

@[simp] theorem issued_isLive : (p.issued predictor).isLive = true := Latch.decoded_fetched_isLive

/-- A word that is no instruction stops the platform. -/
theorem executeNext_of_refusal {failure : Failure}
    (refused : p.memory.refusal? p.hart.pc = some failure) :
    p.executeNext = .error failure := by
  unfold FlatMemory.refusal? at refused
  cases here : p.memory.fetch p.hart.pc with
  | error cause =>
    rw [here] at refused
    cases refused
    simp only [executeNext, nextInstruction, here, mapError_error, error_bind]
  | ok e =>
    rw [here] at refused
    cases decoded : Instruction.decode e p.hart.pc with
    | error found =>
      simp only [decoded] at refused
      cases refused
      simp only [executeNext, nextInstruction, here, mapError_ok, ok_bind, decoded, error_bind]
    | ok inst =>
      simp only [decoded] at refused
      cases refused

/-- The latch of the next instruction holds the instruction and its operands, and its branch, if it
is one, has been predicted somehow. -/
theorem issued_of_fine (fine : (p.issued predictor).fault = none) :
    ∃ inst predictedTaken, p.nextInstruction = .ok inst ∧ inst.pc = p.hart.pc ∧
      Instruction.decode inst.encoding inst.pc = .ok inst ∧
      (predictedTaken = true → inst.mnemonic.opcode = .branch) ∧
      p.issued predictor =
        Machine.readOperands p.hart inst
        { pc := inst.pc, encoding := inst.encoding, predictedTaken } := by
  obtain ⟨fault, e, predictedTaken, decoded, -⟩ | ⟨e, inst, here, found, decoded⟩ :=
    Latch.decoded_fetched p.memory predictor p.hart.pc p.hart
  · rw [issued, decoded] at fine
    cases fine
  · obtain ⟨m, matched, rfl⟩ := Instruction.decode_eq_ok_iff.mp found
    refine ⟨_, (Machine.predictNext predictor p.hart.pc e).2, ?_, rfl, found, ?_, decoded⟩
    · simp only [nextInstruction, here, mapError_ok, ok_bind, found]
    · intro taken
      simp only [Machine.predictNext] at taken
      split at taken
      · cases taken
      · split at taken
        · next branch =>
            exact Opcode.code_inj.mp ((Mnemonic.opcode_of_ofEncoding? matched).symm.trans branch.1)
        · cases taken

/-- Where the sequential platform goes on is where the third stage sends fetching, or else where
fetching has gone on already. -/
theorem following_eq (fine : (p.issued predictor).fault = none) :
    (p.issued predictor).instruction.following (p.issued predictor).operandA
        (p.issued predictor).operandB =
      (Machine.computeResults (p.issued predictor)).redirection.getD (p.issued predictor).next := by
  obtain ⟨inst, predictedTaken, -, -, found, predicted, issued⟩ := issued_of_fine fine
  obtain ⟨m, matched, same⟩ := Instruction.decode_eq_ok_iff.mp found
  have code : inst.encoding.extractLsb' 0 7 = inst.mnemonic.opcode.code := by
    rw [same]
    exact Mnemonic.opcode_of_ofEncoding? matched
  have imm := Instruction.imm_of_decode found
  rw [issued]
  simp only [Instruction.following, Latch.redirection, Machine.computeResults, Machine.readOperands,
    Latch.next, Instruction.target?, code]
  cases opcode : inst.mnemonic.opcode
  case jal =>
    rw [imm (.inl opcode), Mnemonic.immediate_of_jal opcode]
    rfl
  case branch =>
    rw [imm (.inr opcode), Mnemonic.immediate_of_branch opcode]
    rcases Bool.eq_false_or_eq_true
      (inst.branches (p.hart.register inst.rs1) (p.hart.register inst.rs2))
      with taken | taken <;> cases predictedTaken <;> simp [taken, Opcode.code]
  case jalr => rfl
  -- all others go straight on, and are never predicted to do otherwise
  all_goals
    have notTaken : predictedTaken = false := by
      cases predictedTaken with
      | false => rfl
      | true => cases opcode.symm.trans (predicted rfl)
    subst notTaken
    rfl

/-- The platform executes what the latch of its next instruction holds: the fourth stage moves the
data, the fifth writes the registers, and fetching goes on where the third stage sends it. -/
theorem executeNext_of_issued (fine : (p.issued predictor).fault = none)
    (other : (p.issued predictor).instruction.isEcall = false) {output : Latch}
    (computed : output = Machine.computeResults (p.issued predictor)) :
    p.executeNext = (do
      let (loaded, memory) ← (p.memory.transfer output.instruction.mnemonic output.computed
        output.operandB).mapError .memory
      let hart := { output with loaded := loaded.getD output.loaded }.retire p.hart
      return { p with memory, hart :=
        { hart with pc := output.redirection.getD (p.issued predictor).next } }) := by
  have follows := following_eq fine
  obtain ⟨inst, predictedTaken, next, -, -, -, issued⟩ := issued_of_fine fine
  rw [← computed] at follows
  rw [issued] at other
  rw [executeNext_of_not_ecall next other, ← follows, computed, issued, carryOut]
  cases moved : p.memory.transfer inst.mnemonic
      ((inst.value? inst.pc (p.hart.register inst.rs1) (p.hart.register inst.rs2)).getD 0)
      (p.hart.register inst.rs2) with
  | error cause =>
    simp only [Machine.computeResults, Machine.readOperands, moved, mapError_error, error_bind]
  | ok result =>
    obtain ⟨loaded, memory⟩ := result
    have kind := FlatMemory.isSome_of_transfer moved
    simp only [Machine.computeResults, Machine.readOperands, moved, mapError_ok, ok_bind,
      Latch.retire]
    cases load : inst.mnemonic.isLoad with
    | true =>
      have writes := Mnemonic.writesRegister_of_isLoad load
      obtain ⟨value, rfl⟩ := Option.isSome_iff_exists.mp (kind.trans load)
      simp only [writes, if_true, Bool.not_true, Bool.false_and, Bool.false_eq_true, if_false,
        Hart.deliver_none, Hart.deliver_unless_zero, Option.getD_some, pure_eq_ok]
      rfl
    | false =>
      obtain rfl := Option.not_isSome_iff_eq_none.mp (kind.trans load ▸ Bool.false_ne_true)
      cases writes : inst.mnemonic.writesRegister
      all_goals
        simp only [if_true, Bool.not_false, Bool.true_and, Bool.false_eq_true, if_false,
          Hart.deliver_none, Hart.deliver_unless_zero, Option.getD_none, pure_eq_ok]
        rfl

/-- Fetching goes on right behind an instruction that is no jump and no branch. -/
theorem next_issued (fine : (p.issued predictor).fault = none)
    (noJump : (p.issued predictor).instruction.mnemonic.opcode ≠ .jal)
    (noBranch : (p.issued predictor).instruction.mnemonic.opcode ≠ .branch) :
    (p.issued predictor).next = p.hart.pc + 4 := by
  obtain ⟨inst, predictedTaken, -, place, found, predicted, issued⟩ := issued_of_fine fine
  obtain ⟨m, matched, same⟩ := Instruction.decode_eq_ok_iff.mp found
  rw [issued] at noJump noBranch ⊢
  have code : inst.encoding.extractLsb' 0 7 ≠ Opcode.jal.code := by
    rw [Mnemonic.opcode_of_ofEncoding? matched, Ne, Opcode.code_inj]
    rw [same] at noJump
    exact noJump
  have notTaken : ¬ predictedTaken = true := fun taken => noBranch (predicted taken)
  unfold Latch.next
  split
  · next faulty => cases faulty
  · split
    · next jal => exact absurd jal code
    · split
      · next taken => exact absurd taken notTaken
      · exact congrArg (· + 4) place

/-- The platform serves the environment call that the latch of its next instruction holds. -/
theorem executeNext_of_issued_ecall (fine : (p.issued predictor).fault = none)
    (ecall : (p.issued predictor).instruction.isEcall = true) :
    p.executeNext = (do
      let served ← p.environmentCall
      return served.onHart fun hart => { hart with pc := p.hart.pc + 4 }.count fun c =>
        { c with environmentCalls := c.environmentCalls + 1 }) := by
  obtain ⟨inst, predictedTaken, next, place, -, -, issued⟩ := issued_of_fine fine
  rw [issued] at ecall
  rw [executeNext_of_ecall next ecall, callEnvironment, place]

theorem raised?_issued (predictor : Predictor) :
    (p.issued predictor).raised? = p.memory.refusal? p.hart.pc :=
  Latch.raised?_decoded_fetched

/-- What executes can be fetched and decoded. -/
theorem fine_of_executeNext (predictor : Predictor) (executed : p.executeNext = .ok q) :
    (p.issued predictor).fault = none := by
  cases faulty : (p.issued predictor).fault with
  | none => rfl
  | some fault =>
    have refused : p.memory.refusal? p.hart.pc = some (fault.raised (p.issued predictor).encoding
        (p.issued predictor).pc) := by
      rw [← raised?_issued predictor, Latch.raised?, faulty]
      rfl
    cases (executeNext_of_refusal refused).symm.trans executed

/-- An instruction goes on where it sends fetching, or else where fetching has gone on already. -/
theorem pc_of_executeNext (predictor : Predictor) (executed : p.executeNext = .ok q) :
    q.hart.pc = (Machine.computeResults (p.issued predictor)).redirection.getD
    (p.issued predictor).next := by
  have fine := fine_of_executeNext predictor executed
  cases ecall : (p.issued predictor).instruction.isEcall with
  | true =>
    have opcode : (p.issued predictor).instruction.mnemonic.opcode = .system :=
      Mnemonic.opcode_eq_system_iff.mpr (eq_of_beq ecall)
    have behind := next_issued fine (by simp [opcode]) (by simp [opcode])
    have straight : (Machine.computeResults (p.issued predictor)).redirection = none :=
      Latch.redirection_of_ecall ecall
    rw [executeNext_of_issued_ecall fine ecall] at executed
    obtain ⟨served, -, executed⟩ := bind_eq_ok_iff.mp executed
    cases executed
    rw [straight, behind]
    rfl
  | false =>
    rw [executeNext_of_issued fine ecall rfl] at executed
    obtain ⟨⟨loaded, memory⟩, -, executed⟩ := bind_eq_ok_iff.mp executed
    cases executed
    rfl

/-- Only an environment call asks to exit. -/
theorem exitCode_of_executeNext (predictor : Predictor) (executed : p.executeNext = .ok q)
    (other : (p.issued predictor).instruction.isEcall = false) :
    q.hart.exitCode = p.hart.exitCode := by
  obtain ⟨inst, predictedTaken, next, -, -, -, issued⟩ :=
    issued_of_fine (fine_of_executeNext predictor executed)
  rw [issued] at other
  rw [executeNext_of_not_ecall next other] at executed
  exact exitCode_of_carryOut executed

end FlatPlatform

end FiveStage
