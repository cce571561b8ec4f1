import FiveStage.Proofs.Isa.Decoding
import FiveStage.Proofs.Platform.Essential
import Mathlib.Logic.Relation

/-!
# Runs of a program

A run goes from platform to platform, one instruction at a time, as long as the program has not
asked to exit. The pages of a run never change. If no store of the run overwrites an instruction
that is fetched later, an instruction can just as well be fetched at any earlier point of the run.

## Main definitions

* `FlatPlatform.Steps`, `FlatPlatform.Reaches`: one instruction of a run, and any number of them
* `FlatPlatform.Undisturbed`: the stores of a run leave the instructions alone that are fetched
  later
* `FlatPlatform.FetchesEarly`: instructions may be fetched at an earlier point of the run
* `FlatPlatform.leavesCode`: a check of the first
* `FlatPlatform.Exits`, `FlatPlatform.Fails`: how the interpreter comes to an end

## Main results

* `FlatMemory.transfer_cases`: what a transfer can be
* `FlatPlatform.Undisturbed.fetchesEarly`: the second follows from the first
* `FlatPlatform.leavesCode_sound`: the first can be checked along a run that ends
* `FlatPlatform.Exits.unique`: a run has one exit
-/

namespace FiveStage

/-! ### What accesses leave -/

namespace FlatMemory

variable {memory memory' : FlatMemory} {m : Mnemonic} {address stored : Word} {loaded : Option Word}
    {pc : Word}

theorem write_ok {start size : Nat} {value : Word}
    (written : memory.write start value size = .ok memory') :
    memory' = { memory with bytes := memory.bytes.write start (Bytes.ofNat size value.toNat) } := by
  obtain ⟨-, -, done⟩ := bind_eq_ok_iff.mp written
  exact (Except.ok.inj done).symm

/-- What a transfer that succeeds can be: a load, a store, or nothing at all. -/
theorem transfer_cases (moved : memory.transfer m address stored = .ok (loaded, memory')) :
    (m.isLoad = true ∧ memory' = memory ∧ ∃ raw,
      memory.read address.toNat m.accessSize = .ok raw ∧ loaded = some (m.extendLoaded raw)) ∨
    (m.isLoad = false ∧ loaded = none ∧ m.isStore = true ∧
      memory.write address.toNat stored m.accessSize = .ok memory') ∨
    (m.isLoad = false ∧ loaded = none ∧ memory' = memory) := by
  unfold transfer at moved
  split at moved
  · next load =>
    obtain ⟨raw, read, moved⟩ := bind_eq_ok_iff.mp moved
    cases moved
    exact .inl ⟨load, rfl, raw, read, rfl⟩
  · next other =>
    have other : m.isLoad = false := by simpa using other
    split at moved
    · next store =>
      obtain ⟨_, written, moved⟩ := bind_eq_ok_iff.mp moved
      cases moved
      exact .inr (.inl ⟨other, rfl, store, written⟩)
    · cases moved
      exact .inr (.inr ⟨other, rfl, rfl⟩)

theorem pages_of_transfer (moved : memory.transfer m address stored = .ok (loaded, memory')) :
    memory'.pages = memory.pages := by
  obtain ⟨-, rfl, -⟩ | ⟨-, -, -, written⟩ | ⟨-, -, rfl⟩ := transfer_cases moved
  · rfl
  · rw [write_ok written]
  · rfl

/-- A transfer changes only what a store writes. -/
theorem bytes_of_transfer (moved : memory.transfer m address stored = .ok (loaded, memory'))
    {a : Nat}
    (outside : m.isStore = true → ¬ (address.toNat ≤ a ∧ a < address.toNat + m.accessSize)) :
    memory'.bytes a = memory.bytes a := by
  obtain ⟨-, rfl, -⟩ | ⟨-, -, store, written⟩ | ⟨-, -, rfl⟩ := transfer_cases moved
  · rfl
  · have apart := outside store
    rw [write_ok written]
    exact Contents.write_of_outside (by rw [Bytes.length_ofNat]; omega)
  · rfl

/-- Loads bring a word, and nothing else does. -/
theorem isSome_of_transfer (moved : memory.transfer m address stored = .ok (loaded, memory')) :
    loaded.isSome = m.isLoad := by
  obtain ⟨load, -, raw, -, rfl⟩ | ⟨other, rfl, -⟩ | ⟨other, rfl, -⟩ := transfer_cases moved
  · exact load.symm
  · exact other.symm
  · exact other.symm

/-- Only loads and stores can be refused. -/
theorem isAccess_of_transfer_error {cause : MemoryFault}
    (refused : memory.transfer m address stored = .error cause) : m.isAccess = true := by
  unfold transfer at refused
  split at refused
  · next load => rw [Mnemonic.isAccess, load, Bool.true_or]
  · split at refused
    · next store => rw [Mnemonic.isAccess, store, Bool.or_true]
    · cases refused

theorem check_congr (pages : memory'.pages = memory.pages) (start size : Nat) :
    memory'.check start size = memory.check start size := by
  simp only [check, pages]

/-- Fetching depends on the pages and, where they let it pass, on the four bytes of the encoding. -/
theorem fetch_congr (pages : memory'.pages = memory.pages)
    (bytes : ∀ e, memory'.fetch pc = .ok e → ∀ a, pc.toNat ≤ a → a < pc.toNat + 4 →
      memory'.bytes a = memory.bytes a) :
    memory'.fetch pc = memory.fetch pc := by
  cases checked : memory'.check pc.toNat 4 with
  | error fault =>
    have checked' := (check_congr pages pc.toNat 4).symm.trans checked
    simp only [fetch, read, checked, checked', error_bind]
  | ok _ =>
    have there : ∃ e, memory'.fetch pc = .ok e :=
      ⟨_, by simp only [fetch, read, checked, ok_bind]; rfl⟩
    obtain ⟨e, there⟩ := there
    have same : memory'.bytes.read pc.toNat 4 = memory.bytes.read pc.toNat 4 :=
      Contents.read_congr fun offset inside => bytes e there _ (by omega) (by omega)
    simp only [fetch, read, check_congr pages, same]

end FlatMemory

namespace FlatPlatform

variable {start p q r : FlatPlatform}

/-! ### Runs -/

/-- One instruction of a run. -/
def Steps (p q : FlatPlatform) : Prop := p.hart.exitCode = none ∧ p.executeNext = .ok q

/-- Any number of instructions of a run. -/
abbrev Reaches : FlatPlatform → FlatPlatform → Prop := Relation.ReflTransGen Steps

/-- At most so many instructions of a run. -/
def ReachesWithin : (limit : Nat) → FlatPlatform → FlatPlatform → Prop
  | 0, p, r => p = r
  | limit + 1, p, r => ∃ q, ReachesWithin limit p q ∧ (q = r ∨ q.Steps r)

/-- The next instruction is a load or a store. -/
def Accesses (p : FlatPlatform) : Prop :=
  ∃ inst, p.nextInstruction = .ok inst ∧ inst.mnemonic.isAccess = true

/-- The next instruction is a store to the byte. -/
def Overwrites (p : FlatPlatform) (a : Nat) : Prop :=
  ∃ inst address, p.nextInstruction = .ok inst ∧ inst.mnemonic.isStore = true ∧
    inst.value? inst.pc (p.hart.register inst.rs1) (p.hart.register inst.rs2) = some address ∧
      address.toNat ≤ a ∧ a < address.toNat + inst.mnemonic.accessSize

/-- The byte is part of the encoding of the next instruction. -/
def Fetches (p : FlatPlatform) (a : Nat) : Prop :=
  (∃ e, p.memory.fetch p.hart.pc = .ok e) ∧ p.hart.pc.toNat ≤ a ∧ a < p.hart.pc.toNat + 4

/-- No store of the run from here on overwrites a byte that is fetched later as part of an
instruction. -/
def Undisturbed (start : FlatPlatform) : Prop :=
  ∀ p q r, start.Reaches p → p.Steps q → q.Reaches r → r.hart.exitCode = none →
    ∀ a, p.Overwrites a → ¬ r.Fetches a

/-- The run from here on fetches what it would have fetched at any earlier point. -/
def FetchesEarly (start : FlatPlatform) : Prop :=
  ∀ p r, start.Reaches p → p.Reaches r → r.hart.exitCode = none →
    r.memory.fetch r.hart.pc = p.memory.fetch r.hart.pc

theorem executeNext_of_ecall {inst : Instruction} (next : p.nextInstruction = .ok inst)
    (ecall : inst.isEcall = true) : p.executeNext = p.callEnvironment inst := by
  simp only [executeNext, next, ok_bind, ecall, if_true]

theorem executeNext_of_not_ecall {inst : Instruction} (next : p.nextInstruction = .ok inst)
    (other : inst.isEcall = false) : p.executeNext = p.carryOut inst := by
  simp only [executeNext, next, ok_bind, other, Bool.false_eq_true, if_false]

/-- An instruction that is no environment call fails only if it loads or stores. -/
theorem accesses_of_error {failure : Failure} (failed : p.executeNext = .error failure)
    {inst : Instruction}
    (next : p.nextInstruction = .ok inst) (other : inst.isEcall = false) : p.Accesses := by
  rw [executeNext_of_not_ecall next other, carryOut] at failed
  refine ⟨inst, next, ?_⟩
  cases moved : p.memory.transfer inst.mnemonic ((inst.value? inst.pc (p.hart.register inst.rs1)
      (p.hart.register inst.rs2)).getD 0) (p.hart.register inst.rs2) with
  | error cause => exact FlatMemory.isAccess_of_transfer_error moved
  | ok result =>
    simp only [moved, mapError_ok, ok_bind] at failed
    cases failed

/-- One instruction keeps the pages, and the bytes that it does not overwrite. -/
theorem memory_of_executeNext (executed : p.executeNext = .ok q) :
    q.memory.pages = p.memory.pages ∧ ∀ a, ¬ p.Overwrites a →
      q.memory.bytes a = p.memory.bytes a := by
  obtain ⟨inst, next, -⟩ := bind_eq_ok_iff.mp executed
  cases ecall : inst.isEcall with
  | true =>
    rw [executeNext_of_ecall next ecall] at executed
    obtain ⟨served, call, done⟩ := bind_eq_ok_iff.mp executed
    cases done
    have kept := memory_of_environmentCall call
    exact ⟨congrArg _ kept, fun a _ => congrFun (congrArg _ kept) a⟩
  | false =>
    rw [executeNext_of_not_ecall next ecall] at executed
    obtain ⟨⟨loaded, memory⟩, transferred, done⟩ := bind_eq_ok_iff.mp executed
    cases done
    have moved := mapError_eq_ok_iff.mp transferred
    refine ⟨FlatMemory.pages_of_transfer moved, fun a apart =>
      FlatMemory.bytes_of_transfer moved ?_⟩
    intro store inside
    cases computed : inst.value? inst.pc (p.hart.register inst.rs1) (p.hart.register inst.rs2) with
    | some address =>
      rw [computed] at inside
      exact apart ⟨inst, address, next, store, computed, inside⟩
    | none =>
      have opcode : inst.mnemonic.opcode = .store := eq_of_beq store
      simp [Instruction.value?, opcode] at computed

/-- Only environment calls end a run. -/
theorem exitCode_of_carryOut {inst : Instruction} (carried : p.carryOut inst = .ok q) :
    q.hart.exitCode = p.hart.exitCode := by
  obtain ⟨⟨loaded, memory⟩, -, done⟩ := bind_eq_ok_iff.mp carried
  cases done
  simp only [Hart.count]
  split
  · exact Hart.exitCode_setRegister
  · rfl

theorem Undisturbed.fetchesEarly (undisturbed : start.Undisturbed) : start.FetchesEarly := by
  intro p r reached later running
  induction later using Relation.ReflTransGen.head_induction_on with
  | refl => rfl
  | head step rest ih =>
    next p q =>
    have fetched := ih (reached.tail step)
    obtain ⟨pages, bytes⟩ := memory_of_executeNext step.2
    rw [fetched]
    apply FlatMemory.fetch_congr pages
    intro e there a low high
    apply bytes a
    intro overwrites
    exact undisturbed p q r reached step rest running a overwrites
      ⟨⟨e, fetched.trans there⟩, low, high⟩

/-! ### Checking a run -/

/-- The addresses that the next instruction overwrites. -/
def overwritten (p : FlatPlatform) : List Nat :=
  match p.nextInstruction with
  | .error _ => []
  | .ok inst =>
    match inst.value? inst.pc (p.hart.register inst.rs1) (p.hart.register inst.rs2) with
    | some address =>
      if inst.mnemonic.isStore then List.range' address.toNat inst.mnemonic.accessSize else []
    | none => []

theorem mem_overwritten {a : Nat} (overwrites : p.Overwrites a) : a ∈ p.overwritten := by
  obtain ⟨inst, address, next, store, computed, low, high⟩ := overwrites
  simp only [overwritten, next, computed, store, if_true, List.mem_range'_1]
  exact ⟨low, high⟩

/-- Whether the run ends within the given number of instructions, and none of them is fetched from
the given addresses or from one that the run has overwritten. -/
def leavesCode : (fuel : Nat) → (written : List Nat) → FlatPlatform → Bool
  | 0, _, _ => false
  | fuel + 1, written, p =>
    p.hart.exitCode.isSome ||
      (List.range' p.hart.pc.toNat 4).all (fun a => !written.contains a) &&
        match p.executeNext with
        | .error _ => true
        | .ok q => leavesCode fuel (written ++ p.overwritten) q

theorem leavesCode_sound {fuel : Nat} {written : List Nat}
    (checked : p.leavesCode fuel written = true) :
    (∀ r, p.Reaches r → r.hart.exitCode = none → ∀ a ∈ written, ¬ r.Fetches a) ∧ p.Undisturbed := by
  induction fuel generalizing p written with
  | zero => cases checked
  | succ fuel ih =>
    simp only [leavesCode, Bool.or_eq_true, Bool.and_eq_true, List.all_eq_true] at checked
    have stuck (still : ∀ q, ¬ p.Steps q) {r : FlatPlatform} (reached : p.Reaches r) : p = r :=
      reached.cases_head.resolve_right (by rintro ⟨q, step, -⟩; exact still q step)
    have undisturbed (still : ∀ q, ¬ p.Steps q) : p.Undisturbed := by
      intro p' q r reached step
      obtain rfl := stuck still reached
      exact absurd step (still q)
    rcases checked with exits | ⟨apart, rest⟩
    · have still (q : FlatPlatform) : ¬ p.Steps q := fun step => by simp [step.1] at exits
      refine ⟨fun r reached running => ?_, undisturbed still⟩
      obtain rfl := stuck still reached
      simp [running] at exits
    · have here (a : Nat) (old : a ∈ written) : ¬ p.Fetches a := by
        rintro ⟨-, low, high⟩
        have := apart a (List.mem_range'_1.mpr ⟨low, high⟩)
        simp [old] at this
      cases executed : p.executeNext with
      | error failure =>
        have still (q : FlatPlatform) : ¬ p.Steps q :=
          fun step => by cases executed.symm.trans step.2
        refine ⟨fun r reached _ => ?_, undisturbed still⟩
        obtain rfl := stuck still reached
        exact here
      | ok next =>
        rw [executed] at rest
        obtain ⟨later, undisturbed⟩ := ih rest
        constructor
        · intro r reached running a old
          rcases reached.cases_head with rfl | ⟨q, step, reached⟩
          · exact here a old
          · obtain rfl : next = q := Except.ok.inj (executed.symm.trans step.2)
            exact later r reached running a (List.mem_append_left _ old)
        · intro p' q r reached step reached' running a overwrites
          rcases reached.cases_head with rfl | ⟨q', step', reached⟩
          · obtain rfl : next = q := Except.ok.inj (executed.symm.trans step.2)
            exact later r reached' running a (List.mem_append_right _ (mem_overwritten overwrites))
          · obtain rfl : next = q' := Except.ok.inj (executed.symm.trans step'.2)
            exact undisturbed p' q r reached step reached' running a overwrites

/-! ### Exits and failures -/

/-- The interpreter comes to an end with an exit code. -/
def Exits (p : FlatPlatform) (code : Int) (final : FlatPlatform) : Prop :=
  ∃ fuel, p.runInstructions fuel = .ok (some code, final)

/-- The interpreter comes to an end with a failure. -/
def Fails (p : FlatPlatform) (failure : Failure) : Prop :=
  ∃ fuel, p.runInstructions fuel = .error failure

/-- An exit is found at the end of one run only. -/
theorem runInstructions_unique {fuel fuel' : Nat} {code code' : Int}
    (run : p.runInstructions fuel = .ok (some code, q))
    (run' : p.runInstructions fuel' = .ok (some code', r)) :
    code = code' ∧ q = r := by
  induction fuel generalizing p fuel' with
  | zero => cases run
  | succ fuel ih =>
    cases fuel' with
    | zero => cases run'
    | succ fuel' =>
      obtain ⟨next, executed, rest⟩ := bind_eq_ok_iff.mp run
      obtain ⟨next', executed', rest'⟩ := bind_eq_ok_iff.mp run'
      obtain rfl : next = next' := Except.ok.inj (executed.symm.trans executed')
      cases exited : next.hart.exitCode with
      | none =>
        rw [exited] at rest rest'
        exact ih rest rest'
      | some found =>
        rw [exited] at rest rest'
        cases rest
        cases rest'
        exact ⟨rfl, rfl⟩

theorem Exits.unique {code code' : Int} (exits : p.Exits code q) (exits' : p.Exits code' r) :
    code = code' ∧ q = r := by
  obtain ⟨fuel, run⟩ := exits
  obtain ⟨fuel', run'⟩ := exits'
  exact runInstructions_unique run run'

end FlatPlatform

end FiveStage
