import FiveStage.Proofs.Pipeline.Refinement

/-!
# The operands of the instruction about to execute

The registers are read one stage before the operands are needed, while up to three older
instructions have not written theirs yet. Whatever has happened on the way, be it that instructions
were held back, dropped or decoded again, the instruction about to execute has the operands that the
registers will hold once the older instructions are done.

## Main definitions

* `Row.upcoming`: the value that a register will have once the older instructions have written back
* `Row.WellSupplied`: the instruction about to execute has these values as its operands
* `FlatMachine.Operating`: the invariant of the cycles

## Main results

* `FlatMachine.Operating.next`: a cycle keeps the invariant
* `Machine.wellSupplied_of_steps`: in every state of a launched machine the operands are right
-/

namespace FiveStage

namespace Row

/-- The value that a register will have once the instructions in the last two latches have written
back: that of the younger one if it computes a value for the register, or else that of the older
one, or else the value it has. -/
def upcoming (row : Row) (hart : Hart) (r : Reg) : Word :=
  if row.memory.isLive ∧ row.memory.computedTo = some r.toNat then row.memory.computed
  else if row.writeback.isLive ∧ row.writeback.computedTo = some r.toNat then
    row.writeback.computed
  else if row.writeback.isLive ∧ row.writeback.loadedTo = some r.toNat then row.writeback.loaded
  else hart.register r

/-- The instruction about to execute has the operands that its source registers will have, and none
of them is still to be loaded by the instruction before it. -/
structure WellSupplied (row : Row) (hart : Hart) : Prop where
  zero : hart.register 0 = 0
  operands : row.execute.isLive = true → ∃ a b : Reg,
    (row.execute.sourceA = a.toNat ∧ row.execute.operandA = row.upcoming hart a) ∧
      (row.execute.sourceB = b.toNat ∧ row.execute.operandB = row.upcoming hart b)
  loaded : row.execute.isLive = true → row.memory.loadedTo ≠ some row.execute.sourceA ∧
    row.memory.loadedTo ≠ some row.execute.sourceB

end Row

namespace Latch

variable {latch : Latch} {hart : Hart} {results : Results} {loaded : Option Word}

/-- Nothing is sent to the zero register. -/
structure SparesZero (latch : Latch) : Prop where
  computedTo : latch.computedTo ≠ some 0
  loadedTo : latch.loadedTo ≠ some 0

theorem sparesZero_empty : Latch.empty.SparesZero := ⟨nofun, nofun⟩

theorem sparesZero_decoded (latch : Latch) (hart : Hart) : (latch.decoded hart).SparesZero :=
  ⟨computedTo_decoded_ne_zero latch hart, loadedTo_decoded_ne_zero latch hart⟩

theorem SparesZero.supply (spares : latch.SparesZero) : (latch.supply results).SparesZero := by
  unfold Latch.supply
  split
  · exact spares
  · exact ⟨spares.computedTo, spares.loadedTo⟩

theorem SparesZero.executed (spares : latch.SparesZero) : latch.executed.SparesZero := by
  unfold Latch.executed
  split
  · exact ⟨spares.computedTo, spares.loadedTo⟩
  · exact sparesZero_empty

theorem SparesZero.accessed (spares : latch.SparesZero) : (latch.accessed loaded).SparesZero := by
  unfold Latch.accessed
  split
  · exact ⟨spares.computedTo, spares.loadedTo⟩
  · exact sparesZero_empty

/-- What is decoded has its operands from registers; a place without an instruction has them from
the zero register. -/
theorem exists_sources_decoded (latch : Latch) (zero : hart.register 0 = 0) : ∃ a b : Reg,
    ((latch.decoded hart).sourceA = a.toNat ∧ (latch.decoded hart).operandA = hart.register a) ∧
      ((latch.decoded hart).sourceB = b.toNat ∧
        (latch.decoded hart).operandB = hart.register b) := by
  obtain ⟨-, same⟩ | ⟨-, fault, same⟩ | ⟨-, inst, same⟩ := latch.decoded_cases <;> rw [same]
  · exact ⟨0, 0, ⟨rfl, zero.symm⟩, rfl, zero.symm⟩
  · exact ⟨0, 0, ⟨rfl, zero.symm⟩, rfl, zero.symm⟩
  · exact ⟨inst.rs1, inst.rs2, ⟨rfl, rfl⟩, rfl, rfl⟩

/-- A place without an instruction has no destination. -/
theorem isLive_and_iff (settled : latch.isLive = true ∨ latch = Latch.empty)
    (destination : Latch → Option Nat) (empty : destination Latch.empty = none) (number : Nat) :
    (latch.isLive = true ∧ destination latch = some number) ↔
      destination latch = some number := by
  rcases settled with live | rfl
  · exact ⟨fun both => both.2, fun leads => ⟨live, leads⟩⟩
  · rw [empty]
    exact ⟨fun both => both.2, nofun⟩

/-- The zero register stays when an instruction finishes. -/
theorem register_zero_finish {p q : FlatPlatform} (directed : latch.WellDirected)
    (finished : latch.finish p = .ok q) : q.hart.register 0 = p.hart.register 0 := by
  obtain ⟨-, rfl⟩ | ⟨-, -, served, call, rfl⟩ | ⟨-, other, -⟩ := finish_cases finished
  · rfl
  · have kept := FlatPlatform.register_of_environmentCall call (by decide : 0 ≠ argumentRegister)
    exact kept
  · exact register_finish directed other finished 0

end Latch

/-- A value on its way to a register is the youngest one, unless it is on its way to the zero
register. -/
theorem Results.getD_value?_cons {destination : Option Nat} {value operand : Word}
    {results : Results} {number : Nat} (spares : destination ≠ some 0) :
    (Results.value? ((destination, value) :: results) number).getD operand =
      if destination = some number then value else (results.value? number).getD operand := by
  rw [value?_cons, value?_singleton]
  by_cases leads : destination = some number
  · have nonzero : number ≠ 0 := by
      rintro rfl
      exact spares leads
    rw [if_pos ⟨nonzero, leads⟩, if_pos leads]
    rfl
  · rw [if_neg (fun both => leads both.2), if_neg leads]
    rfl

namespace Row

variable {row : Row} {hart : Hart}

/-- The value that a register will have is what the results on their way have for it. -/
theorem upcoming_eq (memory : row.memory.isLive = true ∨ row.memory = Latch.empty)
    (writeback : row.writeback.isLive = true ∨ row.writeback = Latch.empty)
    (spares : row.memory.SparesZero) (spares' : row.writeback.SparesZero) (hart : Hart) (r : Reg) :
    row.upcoming hart r =
      (Results.value? ((row.memory.computedTo, row.memory.computed) :: row.writeback.results)
        r.toNat).getD (hart.register r) := by
  rw [Results.getD_value?_cons spares.computedTo, Latch.results,
    Results.getD_value?_cons spares'.computedTo, Results.getD_value?_cons spares'.loadedTo,
    Results.value?_nil, Option.getD_none]
  simp only [upcoming, Latch.isLive_and_iff memory Latch.computedTo rfl,
    Latch.isLive_and_iff writeback Latch.computedTo rfl,
    Latch.isLive_and_iff writeback Latch.loadedTo rfl]

/-- It is the value that the register has when the older instructions have retired, unless the
younger of them still has to load it. -/
theorem upcoming_eq_retire (memory : row.memory.isLive = true ∨ row.memory = Latch.empty)
    (writeback : row.writeback.isLive = true ∨ row.writeback = Latch.empty)
    (directed : row.memory.WellDirected) (directed' : row.writeback.WellDirected)
    (spares : row.memory.SparesZero) (spares' : row.writeback.SparesZero) (hart : Hart) {r : Reg}
    (there : row.memory.loadedTo ≠ some r.toNat) :
    row.upcoming hart r = (row.memory.retire (row.writeback.retire hart)).register r := by
  rw [upcoming_eq memory writeback spares spares', Latch.register_retire directed,
    Latch.register_retire directed', Results.getD_value?_cons spares.computedTo, Latch.results,
    Latch.results, Results.getD_value?_cons spares.computedTo,
    Results.getD_value?_cons spares.loadedTo, if_neg there, Results.value?_nil, Option.getD_none]

end Row

namespace FlatMachine

variable {m m' : FlatMachine}

/-- A machine between two cycles whose instructions have the right operands and spare the zero
register. -/
structure Operating (m : FlatMachine) : Prop extends m.row.WellSupplied m.platform.hart where
  settled : m.Settled
  executeSpares : m.row.execute.SparesZero
  memorySpares : m.row.memory.SparesZero
  writebackSpares : m.row.writeback.SparesZero

/-- In front of an empty third stage there are no operands to be wrong. -/
theorem wellSupplied_of_empty {row : Row} {hart : Hart} (zero : hart.register 0 = 0)
    (empty : row.execute = Latch.empty) : row.WellSupplied hart where
  zero := zero
  operands live := by
    rw [empty] at live
    cases live
  loaded live := by
    rw [empty] at live
    cases live

/-- An instruction that moves in front of the third stage gets its operands from the registers, and
from the results that are on their way there. -/
theorem wellSupplied_of_moved (settled : m'.Settled) (memorySpares : m'.row.memory.SparesZero)
    (writebackSpares : m'.row.writeback.SparesZero) (zero : m'.platform.hart.register 0 = 0)
    (free : ¬ HoldsBack m'.row.memory m.decoded)
    (execute : m'.row.execute = (m.row.decode.decoded m'.platform.hart).supply
      ((m'.row.memory.computedTo, m'.row.memory.computed) :: m'.row.writeback.results)) :
    m'.row.WellSupplied m'.platform.hart := by
  have full (live : m'.row.execute.isLive = true) :
      (m.row.decode.decoded m'.platform.hart).isLive = true := by
    rwa [execute, Latch.isLive_supply] at live
  refine ⟨zero, fun live => ?_, fun live => ?_⟩
  · obtain ⟨a, b, ⟨sourceA, operandA⟩, sourceB, operandB⟩ :=
      Latch.exists_sources_decoded m.row.decode zero
    have upcoming := Row.upcoming_eq settled.memory settled.writeback memorySpares writebackSpares
      m'.platform.hart
    have bubble : ¬ (m.row.decode.decoded m'.platform.hart).bubble = true := by
      simp [(Latch.isLive_iff.mp (full live)).1]
    -- the registers were read without the results, which have been supplied since
    rw [execute, Latch.supply, if_neg bubble]
    refine ⟨a, b, ⟨sourceA, ?_⟩, sourceB, ?_⟩
    · rw [upcoming, ← sourceA, ← operandA]
    · rw [upcoming, ← sourceB, ← operandB]
  · -- an instruction that needs what is still to be loaded would have been held back
    have apart (number : Nat) (needs : m'.row.execute.reads number = true) :
        m'.row.memory.loadedTo ≠ some number := by
      intro loads
      rw [execute, Latch.reads_supply, Latch.reads_decoded _ m.platform.hart] at needs
      have behind : m.decoded.isLive = true := by
        rw [decoded, Latch.isLive_decoded_eq, ← Latch.isLive_decoded_eq _ m'.platform.hart]
        exact full live
      exact free (.inr ⟨number, loads, (Latch.isLive_iff.mp behind).1, needs⟩)
    exact ⟨apart _ (by simp [Latch.reads]), apart _ (by simp [Latch.reads])⟩

/-- A cycle keeps the invariant. -/
theorem Operating.next (operating : m.Operating) (cycled : m.Cycled m') : m'.Operating := by
  have settled := cycled.settled
  obtain ⟨loaded, -, writeback⟩ := cycled.moved
  obtain ⟨finished, finishes, same⟩ := cycled.finished
  have memorySpares : m'.row.memory.SparesZero :=
    cycled.memory ▸ operating.executeSpares.executed
  have writebackSpares : m'.row.writeback.SparesZero :=
    writeback ▸ operating.memorySpares.accessed
  have zero : m'.platform.hart.register 0 = 0 := by
    have last : m'.platform.hart.register 0 = finished.hart.register 0 :=
      congrArg (·.hart.register 0) same
    rw [last, Latch.register_zero_finish operating.settled.writebackDirected finishes]
    exact operating.zero
  have emptied (empty : m'.row.execute = Latch.empty) : m'.Operating :=
    ⟨wellSupplied_of_empty zero empty, settled, empty ▸ Latch.sparesZero_empty, memorySpares,
      writebackSpares⟩
  cases cycled.advanced with
  | redirected _ _ _ _ execute => exact emptied execute
  | held _ _ _ _ execute => exact emptied execute
  | moved _ free _ _ _ execute =>
    rw [← cycled.memory] at free
    have spares : m'.row.execute.SparesZero := by
      rw [execute]
      exact (Latch.sparesZero_decoded _ _).supply
    exact ⟨wellSupplied_of_moved settled memorySpares writebackSpares zero free execute, settled,
      spares, memorySpares, writebackSpares⟩

/-- Cycles keep the invariant. -/
theorem Operating.cycles (operating : m.Operating) {count : Nat} (done : m.cycles count = .ok m') :
    m'.Operating :=
  invariant_of_cycles
    (fun _ _ operating cycle => operating.next (cycled_of_cycle operating.settled cycle)) operating
    done

end FlatMachine

namespace Machine

variable {machine start : Machine} {settings : Settings} {heuristic : Heuristic} {host : Host}
  {log : Log} {image : List Load} {entry : Word}

/-- A launched machine has nothing in its pipeline, and zero in the zero register. -/
theorem operating_of_launch
    (launched : launch settings heuristic host log image entry = .ok start) :
    start.flat.Operating := by
  obtain ⟨-, latches, hart⟩ := start_of_launch launched
  have row : start.flat.row = (Latches.start entry).committed := congrArg Latches.committed latches
  have zero : start.flat.platform.hart.register 0 = 0 := by
    have here : start.flat.platform.hart.register 0 = start.platform.hart.register 0 := rfl
    rw [here, hart, Hart.start, Hart.register_setRegister_of_ne (by decide)]
    rfl
  have empty : start.flat.row.execute = Latch.empty := by rw [row]; rfl
  refine ⟨FlatMachine.wellSupplied_of_empty zero empty,
    (ready_of_launch launched).onTrack.tracks.settled, ?_, ?_, ?_⟩
  · rw [row]
    exact Latch.sparesZero_empty
  · rw [row]
    exact Latch.sparesZero_empty
  · rw [row]
    exact Latch.sparesZero_empty

/-- In every state that a launched machine reaches, the instruction about to execute has the
operands that its registers will hold once the older instructions have written back. -/
theorem wellSupplied_of_steps
    (launched : launch settings heuristic host log image entry = .ok start) {count : Nat}
    (run : (steps count).run start = .ok () machine) :
    let row := machine.latches.committed
    let hart := machine.platform.hart
    row.WellSupplied hart ∧ (row.execute.isLive = true → ∀ r : Reg,
      row.execute.reads r.toNat = true →
        row.upcoming hart r = (row.memory.retire (row.writeback.retire hart)).register r) := by
  intro row hart
  obtain ⟨sound, ready, -⟩ := ready_of_launch launched
  obtain ⟨-, cycles⟩ := (steps_ends sound ready count).of_ok run
  obtain ⟨⟨zero, operands, loaded⟩, settled, -, spares, spares'⟩ :=
    (operating_of_launch launched).cycles cycles
  refine ⟨⟨zero, operands, loaded⟩, fun live r needs => ?_⟩
  obtain ⟨notA, notB⟩ := loaded live
  have there : row.memory.loadedTo ≠ some r.toNat := by
    rw [Latch.reads, Bool.or_eq_true, beq_iff_eq, beq_iff_eq] at needs
    rcases needs with source | source
    · exact source ▸ notA
    · exact source ▸ notB
  exact Row.upcoming_eq_retire settled.memory settled.writeback settled.memoryDirected
    settled.writebackDirected spares spares' hart there

/-- After three cycles a store is about to execute whose operand is still on its way to its
register. -/
theorem wellSupplied_of_steps_storeAndLoad : ∃ start machine,
    launch smallSettings .bimodal {} {} [.bytes 0x1000 storeAndLoad 16] 0x1000 = .ok start ∧
      (steps 3).run start = .ok () machine ∧
      machine.latches.committed.execute.isLive = true ∧
      machine.latches.committed.execute.operandB = 93 ∧
      machine.platform.hart.register callRegister = 0 ∧
      machine.latches.committed.WellSupplied machine.platform.hart := by
  have checked :
    (launch smallSettings .bimodal {} {} [.bytes 0x1000 storeAndLoad 16] 0x1000).toOption.any
      (fun start => (start.flat.cycles 3).toOption.any fun flat =>
        flat.row.execute.isLive && flat.row.execute.operandB == 93 &&
          flat.platform.hart.register callRegister == 0) = true := by
    decide +kernel
  obtain ⟨start, launched, checked⟩ := exists_ok_of_any checked
  obtain ⟨flat, cycles, checked⟩ := exists_ok_of_any checked
  obtain ⟨sound, ready, -⟩ := ready_of_launch launched
  obtain ⟨_, machine, run, -, cycles'⟩ := (steps_ends sound ready 3).exists_ok
    fun failure _ failed => by cases cycles.symm.trans failed
  obtain rfl : flat = machine.flat := Except.ok.inj (cycles.symm.trans cycles')
  simp only [Bool.and_eq_true, beq_iff_eq] at checked
  obtain ⟨⟨live, operand⟩, register⟩ := checked
  exact ⟨start, machine, launched, run, live, operand, register,
    (wellSupplied_of_steps launched run).1⟩

end Machine

end FiveStage
