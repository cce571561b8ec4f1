import FiveStage.Proofs.Pipeline.Accounting

/-!
# Environment calls drain the pipeline

An environment call changes registers, memory and the host in the last stage, where nothing can be
taken back. So nothing behind it may have begun by then. Three stages see to that one after the
other: the second drops what was fetched behind the call, and the third and the fourth hold fetching
back again while the call passes them. Between two cycles none of this shows but the empty latches
behind the call.

## Main definitions

* `Latch.calls`: a latch with an environment call
* `Row.behind`: the latches behind a stage
* `Latches.Serialized`: what is true of the latches between two cycles
* `Row.Reached`: an environment call that is alone in front of a stage
* `FlatMachine.Draining`: the invariant of the cycles

## Main results

* `FlatMachine.Draining.next`: a cycle keeps the invariant
* `Machine.serialized_of_steps`: in every state of a launched machine a call is served alone
-/

namespace FiveStage

/-- The latch holds an environment call that moves on. -/
def Latch.calls (latch : Latch) : Bool := latch.isLive && latch.instruction.isEcall

namespace Row

/-- The latches of the instructions that are younger than the one in front of a stage. The first
latch has no instruction yet, and the second one has the youngest. -/
def behind (row : Row) : Stage → List Latch
  | .fetch | .decode => []
  | .execute => [row.decode]
  | .memory => [row.decode, row.execute]
  | .writeback => [row.decode, row.execute, row.memory]

/-- An environment call that was in another latch is in front of a stage, with nothing behind it. -/
structure Reached (row : Row) (stage : Stage) (call : Latch) : Prop where
  calls : (row.get stage).calls = true
  pc : (row.get stage).pc = call.pc
  instruction : (row.get stage).instruction = call.instruction
  alone : ∀ latch ∈ row.behind stage, latch.bubble = true

end Row

/-- Between two cycles nothing is held back or marked as forwarded, there is something to fetch, and
what has executed has no fault. Behind an environment call there is nothing, so there is one of them
at most. -/
structure Latches.Serialized (latches : Latches) : Prop where
  released : ∀ stage, (latches.committed.get stage).stall = false
  forwarded : latches.forwardedA = false ∧ latches.forwardedB = false
  fetching : latches.committed.fetch.bubble = false
  memoryFine : latches.committed.memory.isLive = true → latches.committed.memory.fault = none
  writebackFine :
    latches.committed.writeback.isLive = true → latches.committed.writeback.fault = none
  drained : ∀ stage, (latches.committed.get stage).calls = true →
    ∀ latch ∈ latches.committed.behind stage, latch.bubble = true
  single : [latches.committed.execute, latches.committed.memory,
    latches.committed.writeback].countP Latch.calls ≤ 1

namespace Latch

variable {latch : Latch} {loaded : Option Word}

theorem isEcall_of_calls (calls : latch.calls = true) : latch.instruction.isEcall = true :=
  (Bool.and_eq_true_iff.mp calls).2

theorem calls_empty : Latch.empty.calls = false := rfl

/-! A call stays a call on its way. -/

theorem calls_executed : latch.executed.calls = latch.calls := by
  rw [calls, isLive_executed, isEcall_executed, ← Bool.and_assoc, Bool.and_self, calls]

theorem calls_accessed : (latch.accessed loaded).calls = latch.calls := by
  rw [calls, isLive_accessed, isEcall_accessed, ← Bool.and_assoc, Bool.and_self, calls]

theorem fault_executed (fine : latch.isLive = true → latch.fault = none) :
    latch.executed.fault = none := by
  unfold executed
  split
  · next live => exact fine live
  · rfl

theorem fault_accessed (fine : latch.fault = none) : (latch.accessed loaded).fault = none := by
  unfold accessed
  split
  · exact fine
  · rfl

end Latch

namespace FlatMachine

variable {m m' : FlatMachine}

/-- A machine between two cycles in which what has executed has no fault. -/
structure Draining (m : FlatMachine) : Prop extends m.Settled where
  memoryFine : m.row.memory.fault = none
  writebackFine : m.row.writeback.fault = none

/-- A cycle keeps the invariant. -/
theorem Draining.next (draining : m.Draining) (cycle : m.cycle = .ok m') : m'.Draining := by
  have cycled := cycled_of_cycle draining.toSettled cycle
  obtain ⟨loaded, -, writeback⟩ := cycled.moved
  -- the third stage stops a run that comes to a fault
  have memoryFine : m'.row.memory.fault = none := by
    rw [cycled.memory]
    exact Latch.fault_executed cycled.executable
  have writebackFine : m'.row.writeback.fault = none := by
    rw [writeback]
    exact Latch.fault_accessed draining.memoryFine
  exact ⟨cycled.settled, memoryFine, writebackFine⟩

/-- Behind a call there are empty latches. -/
theorem Settled.behind_eq_empty (settled : m.Settled) {stage : Stage}
    (calls : (m.row.get stage).calls = true) {latch : Latch} (behind : latch ∈ m.row.behind stage) :
    latch = Latch.empty := by
  have ecall := Latch.isEcall_of_calls calls
  cases stage with
  | fetch => cases behind
  | decode => cases behind
  | execute =>
    rw [Row.behind, List.mem_singleton] at behind
    exact behind.trans (settled.behindExecute ecall)
  | memory =>
    obtain ⟨decode, execute⟩ := settled.behindMemory ecall
    simp only [Row.behind, List.mem_cons, List.not_mem_nil, or_false] at behind
    rcases behind with rfl | rfl
    · exact decode
    · exact execute
  | writeback =>
    obtain ⟨decode, execute, memory⟩ := settled.behindWriteback ecall
    simp only [Row.behind, List.mem_cons, List.not_mem_nil, or_false] at behind
    rcases behind with rfl | rfl | rfl
    · exact decode
    · exact execute
    · exact memory

theorem Settled.alone (settled : m.Settled) (stage : Stage)
    (calls : (m.row.get stage).calls = true) :
    ∀ latch ∈ m.row.behind stage, latch.bubble = true := by
  intro latch behind
  rw [settled.behind_eq_empty calls behind]
  rfl

/-- There is one call on its way at most: the oldest one has nothing behind it. -/
theorem Settled.countP_calls_le (settled : m.Settled) :
    [m.row.execute, m.row.memory, m.row.writeback].countP Latch.calls ≤ 1 := by
  simp only [List.countP_cons, List.countP_nil]
  cases writeback : m.row.writeback.calls with
  | true =>
    obtain ⟨-, execute, memory⟩ := settled.behindWriteback (Latch.isEcall_of_calls writeback)
    rw [execute, memory, Latch.calls_empty]
    decide
  | false =>
    cases memory : m.row.memory.calls with
    | true =>
      obtain ⟨-, execute⟩ := settled.behindMemory (Latch.isEcall_of_calls memory)
      rw [execute, Latch.calls_empty]
      decide
    | false =>
      cases m.row.execute.calls <;> decide

theorem Draining.serialized (draining : m.Draining) : m.latches.Serialized where
  released stage := by
    cases stage with
    | fetch => exact draining.fetching.2
    | decode => exact stall_of_settled draining.decode
    | execute => exact stall_of_settled draining.execute
    | memory => exact stall_of_settled draining.memory
    | writeback => exact stall_of_settled draining.writeback
  forwarded := draining.forwarded
  fetching := draining.fetching.1
  memoryFine _ := draining.memoryFine
  writebackFine _ := draining.writebackFine
  drained := draining.toSettled.alone
  single := draining.toSettled.countP_calls_le

/-! ### The way of a call -/

/-- A call passes the third stage alone. -/
theorem Cycled.reached_memory (cycled : m.Cycled m') (settled : m.Settled)
    (calls : m.row.execute.calls = true) : m'.row.Reached .memory m.row.execute := by
  have live := Latch.isLive_of_isEcall settled.execute (Latch.isEcall_of_calls calls)
  have there : m'.row.memory.calls = true := by rw [cycled.memory, Latch.calls_executed, calls]
  have moved : m'.row.memory.pc = m.row.execute.pc := by
    rw [cycled.memory, Latch.executed, if_pos live]
    rfl
  have same : m'.row.memory.instruction = m.row.execute.instruction := by
    rw [cycled.memory, Latch.instruction_executed settled.execute]
  exact ⟨there, moved, same, cycled.settled.alone .memory there⟩

/-- A call passes the fourth stage alone. -/
theorem Cycled.reached_writeback (cycled : m.Cycled m') (settled : m.Settled) {call : Latch}
    (reached : m.row.Reached .memory call) : m'.row.Reached .writeback call := by
  obtain ⟨calls, pc, instruction, -⟩ := reached
  obtain ⟨loaded, -, writeback⟩ := cycled.moved
  have live := Latch.isLive_of_isEcall settled.memory (Latch.isEcall_of_calls calls)
  have there : m'.row.writeback.calls = true := by
    rw [writeback, Latch.calls_accessed]
    exact calls
  have moved : m'.row.writeback.pc = m.row.memory.pc := by
    rw [writeback, Latch.accessed, if_pos live]
  have same : m'.row.writeback.instruction = m.row.memory.instruction := by
    rw [writeback, Latch.instruction_accessed settled.memory]
  exact ⟨there, moved.trans pc, same.trans instruction, cycled.settled.alone .writeback there⟩

theorem environmentCalls_of_cycle (settled : m.Settled) (cycle : m.cycle = .ok m') :
    m'.tally.environmentCalls = m.tally.environmentCalls + m.row.writeback.calls.toNat :=
  congrArg Counters.environmentCalls (tally_of_cycle settled cycle)

/-- A cycle in which another instruction is in front of the last stage finishes no call. -/
theorem environmentCalls_of_calm (settled : m.Settled) (cycle : m.cycle = .ok m')
    (calm : m.row.writeback.instruction.isEcall = false) :
    m'.tally.environmentCalls = m.tally.environmentCalls := by
  rw [environmentCalls_of_cycle settled cycle, Latch.calls, calm, Bool.and_false]
  rfl

theorem call_executes (settled : m.Settled) (calls : m.row.execute.calls = true)
    (done : m.cycles 1 = .ok m') :
    m'.Settled ∧ m'.row.Reached .memory m.row.execute ∧
      m'.tally.environmentCalls = m.tally.environmentCalls := by
  obtain ⟨_, cycle, rest⟩ := bind_eq_ok_iff.mp done
  cases rest
  have cycled := cycled_of_cycle settled cycle
  have live := Latch.isLive_of_isEcall settled.execute (Latch.isEcall_of_calls calls)
  exact ⟨cycled.settled, cycled.reached_memory settled calls,
    environmentCalls_of_calm settled cycle (settled.calm_of_execute live).2⟩

theorem call_accesses (settled : m.Settled) (calls : m.row.execute.calls = true)
    (done : m.cycles 2 = .ok m') :
    m'.Settled ∧ m'.row.Reached .writeback m.row.execute ∧
      m'.tally.environmentCalls = m.tally.environmentCalls := by
  obtain ⟨between, first, rest⟩ := bind_eq_ok_iff.mp done
  obtain ⟨_, cycle, rest⟩ := bind_eq_ok_iff.mp rest
  cases rest
  obtain ⟨settled', reached, count⟩ :=
    call_executes settled calls (bind_eq_ok_iff.mpr ⟨between, first, rfl⟩)
  have cycled := cycled_of_cycle settled' cycle
  have live := Latch.isLive_of_isEcall settled'.memory (Latch.isEcall_of_calls reached.calls)
  have same := environmentCalls_of_calm settled' cycle (settled'.calm_of_memory live)
  exact ⟨cycled.settled, cycled.reached_writeback settled' reached, same.trans count⟩

theorem call_finishes (settled : m.Settled) (calls : m.row.execute.calls = true)
    (done : m.cycles 3 = .ok m') :
    m'.row.execute = Latch.empty ∧ m'.row.memory = Latch.empty ∧ m'.row.writeback = Latch.empty ∧
      m'.tally.environmentCalls = m.tally.environmentCalls + 1 := by
  obtain ⟨first, cycle, rest⟩ := bind_eq_ok_iff.mp done
  obtain ⟨second, cycle', rest⟩ := bind_eq_ok_iff.mp rest
  obtain ⟨_, cycle'', rest⟩ := bind_eq_ok_iff.mp rest
  cases rest
  obtain ⟨settled', reached, count⟩ := call_accesses settled calls
    (bind_eq_ok_iff.mpr ⟨first, cycle, bind_eq_ok_iff.mpr ⟨second, cycle', rfl⟩⟩)
  have here : second.row.writeback.calls = true := reached.calls
  have cycled := cycled_of_cycle settled' cycle''
  obtain ⟨-, execute, memory, writeback⟩ :=
    row_of_call cycled settled' (Latch.isEcall_of_calls here)
  refine ⟨execute, memory, writeback, ?_⟩
  rw [environmentCalls_of_cycle settled' cycle'', here, count]
  rfl

end FlatMachine

namespace Machine

variable {machine start : Machine} {settings : Settings} {heuristic : Heuristic} {host : Host}
  {log : Log} {image : List Load} {entry : Word}

/-- What becomes of an environment call in front of the third stage, as long as nothing fails. It
passes the third stage and the fourth with nothing behind it, and in the cycle in which it finishes,
nothing else has been decoded, executed or let through to memory. -/
structure ServesAlone (machine : Machine) : Prop where
  executed : ∀ next, (steps 1).run machine = .ok () next →
    next.latches.committed.Reached .memory machine.latches.committed.execute ∧
      next.platform.hart.counters.environmentCalls =
        machine.platform.hart.counters.environmentCalls
  accessed : ∀ next, (steps 2).run machine = .ok () next →
    next.latches.committed.Reached .writeback machine.latches.committed.execute ∧
      next.platform.hart.counters.environmentCalls =
        machine.platform.hart.counters.environmentCalls
  finished : ∀ next, (steps 3).run machine = .ok () next →
    (next.latches.committed.execute.bubble = true ∧ next.latches.committed.memory.bubble = true ∧
      next.latches.committed.writeback.bubble = true) ∧
      next.platform.hart.counters.environmentCalls =
        machine.platform.hart.counters.environmentCalls + 1

theorem servesAlone_of_settled (sound : machine.platform.space.Sound) (ready : machine.ready = true)
    (settled : machine.flat.Settled) (calls : machine.latches.committed.execute.calls = true) :
    machine.ServesAlone := by
  have cycles {count : Nat} {next : Machine} (run : (steps count).run machine = .ok () next) :
      machine.flat.cycles count = .ok next.flat := ((steps_ends sound ready count).of_ok run).2
  refine ⟨fun next run => ?_, fun next run => ?_, fun next run => ?_⟩
  · exact (FlatMachine.call_executes settled calls (cycles run)).2
  · exact (FlatMachine.call_accesses settled calls (cycles run)).2
  · obtain ⟨execute, memory, writeback, count⟩ :=
      FlatMachine.call_finishes settled calls (cycles run)
    exact ⟨⟨congrArg Latch.bubble execute, congrArg Latch.bubble memory,
      congrArg Latch.bubble writeback⟩, count⟩

/-- The pipeline of a launched machine is empty. -/
theorem draining_of_launch
    (launched : launch settings heuristic host log image entry = .ok start) :
    start.flat.Draining := by
  obtain ⟨-, latches, -⟩ := start_of_launch launched
  have row : start.flat.row = (Latches.start entry).committed := congrArg Latches.committed latches
  refine ⟨(ready_of_launch launched).onTrack.tracks.settled, ?_, ?_⟩
  · rw [row]
    rfl
  · rw [row]
    rfl

/-- In every state that a launched machine reaches, environment calls are serialized: there is
nothing behind a call, and one that comes in front of the third stage is served alone. -/
theorem serialized_of_steps
    (launched : launch settings heuristic host log image entry = .ok start) (limit : Option Nat)
    {count : Nat} (run : (steps count).run { start with cycleLimit := limit } = .ok () machine) :
    machine.latches.Serialized ∧
      (machine.latches.committed.execute.calls = true → machine.ServesAlone) := by
  obtain ⟨sound, ready, cycles⟩ := cycles_of_steps launched run
  have draining : machine.flat.Draining := FlatMachine.invariant_of_cycles
    (fun _ _ draining cycle => draining.next cycle) (draining_of_launch launched) cycles
  exact ⟨draining.serialized, servesAlone_of_settled sound ready draining.toSettled⟩

/-- After five cycles the call of a program is in front of the third stage, with a load in front of
it, and three cycles later it has been served. -/
theorem serialized_of_steps_storeAndLoad : ∃ start machine last,
    launch smallSettings .bimodal {} {} [.bytes 0x1000 storeAndLoad 16] 0x1000 = .ok start ∧
      (steps 5).run { start with cycleLimit := none } = .ok () machine ∧
      machine.latches.committed.execute.calls = true ∧
      machine.latches.committed.memory.instruction.mnemonic = .ld ∧
      machine.latches.Serialized ∧ (steps 3).run machine = .ok () last ∧
      last.platform.hart.counters.environmentCalls =
        machine.platform.hart.counters.environmentCalls + 1 := by
  have checked :
    (launch smallSettings .bimodal {} {} [.bytes 0x1000 storeAndLoad 16] 0x1000).toOption.any
      (fun start => (start.flat.cycles 5).toOption.any fun flat =>
        flat.row.execute.calls && flat.row.memory.instruction.mnemonic == .ld &&
          (flat.cycles 3).toOption.isSome) = true := by
    decide +kernel
  obtain ⟨start, launched, checked⟩ := exists_ok_of_any checked
  obtain ⟨flat, cycles, checked⟩ := exists_ok_of_any checked
  obtain ⟨sound, ready, -⟩ := ready_of_launch launched
  obtain ⟨_, machine, run, follows, cycles'⟩ :=
    (@steps_ends { start with cycleLimit := none } sound ready 5).exists_ok
      fun failure _ failed => by cases cycles.symm.trans failed
  obtain rfl : flat = machine.flat := Except.ok.inj (cycles.symm.trans cycles')
  simp only [Bool.and_eq_true, beq_iff_eq] at checked
  obtain ⟨⟨calls, load⟩, goesOn⟩ := checked
  obtain ⟨serialized, alone⟩ := serialized_of_steps launched none run
  obtain ⟨_, last, run', -⟩ :=
    (steps_ends follows.sound (follows.ready.trans ready) 3).exists_ok
      fun failure _ failed => by simp [failed, Except.toOption] at goesOn
  exact ⟨start, machine, last, launched, run, calls, load, serialized, run',
    ((alone calls).finished last run').2⟩

end Machine

end FiveStage
