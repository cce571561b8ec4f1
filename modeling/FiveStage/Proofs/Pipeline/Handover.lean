import FiveStage.Proofs.Pipeline.Forwarding

/-!
# What the stages leave behind

The third stage leaves computed results in front of the fourth, the fourth moves data and leaves
what it loaded in front of the fifth, and the fifth writes registers or serves an environment call.
Each is a function of one latch and of the platform.

## Main definitions

* `Latch.executed`, `Latch.accessed`: what the third and the fourth stage leave
* `Latch.transferred`, `Latch.finish`: the data that the fourth stage moves, and the effect of the
  fifth
* `Latch.results`, `Latch.finalResults`: the results that they hand over

## Main results

* `Latch.finish_cases`: what the fifth stage can do
* `Latch.register_retire`: the registers have the results of an instruction that has retired
* `Latch.supply_decoded`: operands may just as well be read after the last results have been written
-/

namespace FiveStage

namespace Latch

/-- What the third stage leaves in front of the fourth. -/
def executed (latch : Latch) : Latch :=
  if latch.isLive then Machine.computeResults latch else Latch.empty

/-- The data that the fourth stage moves. -/
def transferred (latch : Latch) (memory : FlatMemory) :
    Except MemoryFault (Option Word × FlatMemory) :=
  if latch.isLive then memory.transfer latch.instruction.mnemonic latch.computed latch.operandB
  else .ok (none, memory)

/-- What the fourth stage leaves in front of the fifth. -/
def accessed (latch : Latch) (loaded : Option Word) : Latch :=
  if latch.isLive then { latch with loaded := loaded.getD latch.loaded } else Latch.empty

/-- The results in the latch, for the fourth stage to hand over. -/
def results (latch : Latch) : Results :=
  [(latch.computedTo, latch.computed), (latch.loadedTo, latch.loaded)]

/-- The effect of the fifth stage. -/
def finish (latch : Latch) (platform : FlatPlatform) : Except Failure FlatPlatform :=
  if !latch.isLive then return platform
  else if latch.instruction.isEcall then do
    let served ← platform.environmentCall
    return served.onHart (·.count fun c => { c with environmentCalls := c.environmentCalls + 1 })
  else return platform.onHart latch.retire

/-- The results that the fifth stage hands over. -/
def finalResults (latch : Latch) : Results :=
  if latch.isLive && !latch.instruction.isEcall then
    [(latch.loadedTo, latch.loaded), (latch.computedTo, latch.computed)]
  else []

section Kept

variable {latch : Latch} {loaded : Option Word} {results : Results} {hart hart' : Hart}

@[simp] theorem executed_empty : Latch.empty.executed = Latch.empty := rfl

theorem executed_isLive_or_empty (latch : Latch) :
    latch.executed.isLive = true ∨ latch.executed = Latch.empty := by
  unfold executed
  split
  · next live => exact .inl live
  · exact .inr rfl

theorem accessed_isLive_or_empty (latch : Latch) (loaded : Option Word) :
    (latch.accessed loaded).isLive = true ∨ latch.accessed loaded = Latch.empty := by
  unfold accessed
  split
  · next live => exact .inl live
  · exact .inr rfl

/-! An instruction that moves on stays an instruction that moves on, and the same one. -/

theorem isLive_supply : (latch.supply results).isLive = latch.isLive := by
  rw [isLive, bubble_supply, stall_supply, isLive]

theorem isLive_executed (latch : Latch) : latch.executed.isLive = latch.isLive := by
  unfold executed
  split
  · rfl
  · next idle => exact (Bool.eq_false_iff.mpr idle).symm

theorem isLive_accessed : (latch.accessed loaded).isLive = latch.isLive := by
  unfold accessed
  split
  · rfl
  · next idle => exact (Bool.eq_false_iff.mpr idle).symm

theorem supply_isLive_or_empty (latches : latch.isLive = true ∨ latch = Latch.empty) :
    (latch.supply results).isLive = true ∨ latch.supply results = Latch.empty := by
  rcases latches with live | rfl
  · rw [isLive_supply]
    exact .inl live
  · exact .inr rfl

theorem instruction_executed (settled : latch.isLive = true ∨ latch = Latch.empty) :
    latch.executed.instruction = latch.instruction := by
  rcases settled with live | rfl
  · rw [executed, if_pos live]
    rfl
  · rfl

theorem instruction_accessed (settled : latch.isLive = true ∨ latch = Latch.empty) :
    (latch.accessed loaded).instruction = latch.instruction := by
  rcases settled with live | rfl
  · rw [accessed, if_pos live]
  · rfl

theorem isLive_of_isEcall (settled : latch.isLive = true ∨ latch = Latch.empty)
    (ecall : latch.instruction.isEcall = true) : latch.isLive = true := by
  apply settled.resolve_right
  intro empty
  rw [empty] at ecall
  cases ecall

theorem isEcall_executed :
    latch.executed.instruction.isEcall = (latch.isLive && latch.instruction.isEcall) := by
  unfold executed
  cases latch.isLive <;> rfl

theorem isEcall_accessed :
    (latch.accessed loaded).instruction.isEcall = (latch.isLive && latch.instruction.isEcall) := by
  unfold accessed
  cases latch.isLive <;> rfl

@[simp] theorem instruction_supply : (latch.supply results).instruction = latch.instruction := by
  unfold supply
  split <;> rfl

@[simp] theorem raised?_supply : (latch.supply results).raised? = latch.raised? := by
  unfold supply
  split <;> rfl

/-- Which instruction is decoded does not depend on the registers. -/
theorem instruction_decoded (hart hart' : Hart) :
    (latch.decoded hart).instruction = (latch.decoded hart').instruction := by
  obtain ⟨-, same⟩ | ⟨-, fault, same⟩ | ⟨-, inst, same⟩ := latch.decoded_cases
  · rw [same, same]
  · rw [same, same]
  · rw [same, same]
    rfl

theorem WellDirected.supply (directed : latch.WellDirected) :
    (latch.supply results).WellDirected := by
  unfold Latch.supply
  split
  · exact directed
  · exact ⟨directed.computedTo, directed.loadedTo, directed.single⟩

theorem WellDirected.executed (directed : latch.WellDirected) : latch.executed.WellDirected := by
  unfold Latch.executed
  split
  · exact ⟨directed.computedTo, directed.loadedTo, directed.single⟩
  · exact wellDirected_empty

theorem WellDirected.accessed (directed : latch.WellDirected) :
    (latch.accessed loaded).WellDirected := by
  unfold Latch.accessed
  split
  · exact ⟨directed.computedTo, directed.loadedTo, directed.single⟩
  · exact wellDirected_empty

end Kept

section Finish

variable {latch : Latch} {p q : FlatPlatform}

theorem essential_retire (hart : Hart) :
    (latch.retire hart).essential = (latch.retire hart.essential).essential := by
  have counted (hart : Hart) : (latch.retire hart).essential =
      ((hart.essential.deliver latch.loadedTo latch.loaded).deliver latch.computedTo
        latch.computed).count
        fun c => { c with retired := c.retired + 1 } := by
    rw [← Hart.essential_deliver, ← Hart.essential_deliver]
    rfl
  rw [counted, counted]
  rfl

theorem finish_of_isEcall (live : latch.isLive = true) (ecall : latch.instruction.isEcall = true) :
    latch.finish p = (do
      let served ← p.environmentCall
      return served.onHart (·.count fun c =>
        { c with environmentCalls := c.environmentCalls + 1 })) := by
  rw [finish, live, ecall]
  rfl

/-- The fifth stage depends on the essential part of the platform only. -/
theorem finish_congr (latch : Latch) (same : p.essential = q.essential) :
    (latch.finish p).map FlatPlatform.essential = (latch.finish q).map FlatPlatform.essential := by
  unfold finish
  split
  · exact congrArg Except.ok same
  · split
    · have served := FlatPlatform.environmentCall_of_essential same
      cases call : p.environmentCall <;> cases call' : q.environmentCall <;>
        rw [call, call'] at served
      · exact served
      · cases served
      · cases served
      · exact congrArg Except.ok
          (FlatPlatform.essential_onHart_congr (fun _ => rfl) (Except.ok.inj served))
    · exact congrArg Except.ok (FlatPlatform.essential_onHart_congr essential_retire same)

/-- What the fifth stage can do: nothing, serve an environment call, or write results. -/
theorem finish_cases (finished : latch.finish p = .ok q) :
    (latch.isLive = false ∧ q = p) ∨
    (latch.isLive = true ∧ latch.instruction.isEcall = true ∧ ∃ served,
      p.environmentCall = .ok served ∧
      q = served.onHart (·.count fun c =>
        { c with environmentCalls := c.environmentCalls + 1 })) ∨
    (latch.isLive = true ∧ latch.instruction.isEcall = false ∧ q = p.onHart latch.retire) := by
  unfold finish at finished
  cases live : latch.isLive with
  | false =>
    rw [live] at finished
    cases finished
    exact .inl ⟨rfl, rfl⟩
  | true =>
    rw [live] at finished
    cases ecall : latch.instruction.isEcall with
    | true =>
      rw [ecall] at finished
      obtain ⟨served, call, finished⟩ := bind_eq_ok_iff.mp finished
      cases finished
      exact .inr (.inl ⟨rfl, rfl, served, call, rfl⟩)
    | false =>
      rw [ecall] at finished
      cases finished
      exact .inr (.inr ⟨rfl, rfl, rfl⟩)

theorem pc_of_finish (finished : latch.finish p = .ok q) : q.hart.pc = p.hart.pc := by
  obtain ⟨-, rfl⟩ | ⟨-, -, served, call, rfl⟩ | ⟨-, -, rfl⟩ := finish_cases finished
  · rfl
  · have kept := FlatPlatform.pc_of_environmentCall call
    exact kept
  · exact Hart.pc_deliver.trans Hart.pc_deliver

theorem memory_of_finish (finished : latch.finish p = .ok q) : q.memory = p.memory := by
  obtain ⟨-, rfl⟩ | ⟨-, -, served, call, rfl⟩ | ⟨-, -, rfl⟩ := finish_cases finished
  · rfl
  · have kept := FlatPlatform.memory_of_environmentCall call
    exact kept
  · rfl

/-- At most one result is on its way, so it does not matter which is asked for first. -/
theorem value?_results_swap (directed : latch.WellDirected) (number : Nat) :
    Results.value? [(latch.loadedTo, latch.loaded), (latch.computedTo, latch.computed)] number =
      latch.results.value? number := by
  rw [results, Results.value?_cons, Results.value?_singleton, Results.value?_singleton,
    Results.value?_cons, Results.value?_singleton, Results.value?_singleton]
  rcases directed.single with none | none <;> simp [none]

/-- The registers have the results of an instruction that has retired. -/
theorem register_retire (directed : latch.WellDirected) (hart : Hart) (r : Reg) :
    (latch.retire hart).register r = (latch.results.value? r.toNat).getD (hart.register r) := by
  have last : (latch.retire hart).register r =
      ((hart.deliver latch.loadedTo latch.loaded).deliver latch.computedTo latch.computed).register
      r := rfl
  rw [last, Hart.register_deliver, Hart.register_deliver, results, Results.value?_cons,
    Results.value?_singleton, Results.value?_singleton]
  rcases directed.single with none | none <;> rw [none] <;> simp <;> split <;> rfl

theorem register_finish (directed : latch.WellDirected) (other : latch.instruction.isEcall = false)
    (finished : latch.finish p = .ok q) (r : Reg) :
    q.hart.register r = (latch.finalResults.value? r.toNat).getD (p.hart.register r) := by
  unfold finalResults
  obtain ⟨live, rfl⟩ | ⟨-, ecall, -⟩ | ⟨live, -, rfl⟩ := finish_cases finished
  · simp [live]
  · cases other.symm.trans ecall
  · rw [live, other]
    exact (register_retire directed p.hart r).trans (by rw [← value?_results_swap directed]; rfl)

/-- Operands may just as well be read after the last results have been written. -/
theorem supply_decoded {hart hart' : Hart} {late results : Results}
    (written : ∀ r : Reg, (latch.decoded hart).reads r.toNat = true →
      hart'.register r = (late.value? r.toNat).getD (hart.register r)) :
    (latch.decoded hart).supply (results ++ late) = (latch.decoded hart').supply results := by
  obtain ⟨-, same⟩ | ⟨-, fault, same⟩ | ⟨-, inst, same⟩ := latch.decoded_cases <;>
    rw [same, same]
  · rfl
  · simp [supply]
  · rw [same] at written
    have first := written inst.rs1 (by simp [Machine.readOperands, reads])
    have second := written inst.rs2 (by simp [Machine.readOperands, reads])
    simp only [supply, Machine.readOperands, Results.value?_append, first, second]
    cases results.value? inst.rs1.toNat <;> cases results.value? inst.rs2.toNat <;> rfl

end Finish

end Latch

end FiveStage
