import FiveStage.Proofs.Pipeline.Counting
import FiveStage.Proofs.Pipeline.Refinement

/-!
# Where the cycles go

When a program has exited, its cycles are accounted for by what was counted on the way. The law for
a whole run follows from one for every state between two cycles, in which the instructions that are
still in the pipeline stand for what will be counted for them: a vacant place for a cycle in which
nothing will be done, a branch for a prediction that has been counted already, and an environment
call for the stalls that it has caused so far.

## Main definitions

* `Row.retiring`, `Machine.retirements`: the instructions that retire in a cycle, and in many
* `Row.vacancies`, `Row.waiting`: the vacant places, and the stalls of calls on their way
* `FlatMachine.Accounted`: the law between two cycles
* `Machine.Balanced`: the law for a whole run

## Main results

* `FlatMachine.Accounted.next`: a cycle keeps the law
* `Machine.balanced_of_run`: the counters of a run that exits
-/

namespace FiveStage

namespace Latch

variable {latch : Latch} {loaded : Option Word}

/-- One if the latch holds no instruction that moves on. -/
def vacancy (latch : Latch) : Nat := (!latch.isLive).toNat

theorem vacancy_of_isLive (live : latch.isLive = true) : latch.vacancy = 0 := by
  rw [vacancy, live]
  rfl

/-- A call is never left in an empty place. -/
theorem toNat_calls (settled : latch.isLive = true ∨ latch = Latch.empty) :
    (latch.isLive && latch.instruction.isEcall).toNat = latch.instruction.isEcall.toNat := by
  rcases settled with live | rfl
  · rw [live, Bool.true_and]
  · rfl

theorem vacancy_executed : latch.executed.vacancy = latch.vacancy := by
  rw [vacancy, isLive_executed, vacancy]

theorem vacancy_accessed : (latch.accessed loaded).vacancy = latch.vacancy := by
  rw [vacancy, isLive_accessed, vacancy]

end Latch

namespace Row

/-- The instructions that retire in the next cycle: the one in front of the last stage, unless it is
an environment call. -/
def retiring (row : Row) : List Instruction :=
  if row.writeback.isLive && !row.writeback.instruction.isEcall then
    [row.writeback.instruction]
  else []

/-- The places behind the first stage in which there is no instruction. -/
def vacancies (row : Row) : Nat :=
  row.decode.vacancy + row.execute.vacancy + row.memory.vacancy + row.writeback.vacancy

/-- The stalls that environment calls on their way have caused so far. -/
def waiting (row : Row) : Nat :=
  row.execute.instruction.isEcall.toNat + 2 * row.memory.instruction.isEcall.toNat +
    3 * row.writeback.instruction.isEcall.toNat

variable {row : Row}

theorem toNat_retires (row : Row) :
    (row.writeback.isLive && !row.writeback.instruction.isEcall).toNat = row.retiring.length := by
  unfold retiring
  cases row.writeback.isLive && !row.writeback.instruction.isEcall <;> rfl

/-- What is in front of the last stage is an instruction that retires, or a call, or nothing. -/
theorem length_retiring (settled : row.writeback.isLive = true ∨ row.writeback = Latch.empty) :
    row.retiring.length + row.writeback.instruction.isEcall.toNat + row.writeback.vacancy = 1 := by
  unfold retiring
  rcases settled with live | empty
  · rw [live, Latch.vacancy_of_isLive live]
    cases row.writeback.instruction.isEcall <;> rfl
  · rw [empty]
    rfl

/-- An instruction of a kind that calls are not of retires if it is in front of the last stage. -/
theorem countP_retiring (settled : row.writeback.isLive = true ∨ row.writeback = Latch.empty)
    (kind : Instruction → Bool) (nop : kind Instruction.nop = false)
    (other : ∀ inst : Instruction, inst.isEcall = true → kind inst = false) :
    row.retiring.countP kind = (kind row.writeback.instruction).toNat := by
  unfold retiring
  rcases settled with live | empty
  · rw [live]
    cases ecall : row.writeback.instruction.isEcall with
    | true =>
      rw [other _ ecall]
      rfl
    | false => cases here : kind row.writeback.instruction <;> simp [here]
  · have none : kind Latch.empty.instruction = false := nop
    rw [empty, none]
    rfl

end Row

namespace Instruction

variable {inst : Instruction}

theorem isBranch_of_isEcall (ecall : inst.isEcall = true) : inst.isBranch = false := by
  rw [isBranch, Mnemonic.opcode_eq_system_iff.mpr (eq_of_beq ecall)]
  rfl

theorem isJalr_of_isEcall (ecall : inst.isEcall = true) : inst.isJalr = false := by
  rw [isJalr, Mnemonic.opcode_eq_system_iff.mpr (eq_of_beq ecall)]
  rfl

end Instruction

namespace Latch

variable {output behind : Latch}

/-- A branch has been predicted right or wrong. -/
theorem toNat_predicted (output : Latch) :
    (output.instruction.isBranch && output.redirection.isNone).toNat +
      (output.instruction.isBranch && output.redirection.isSome).toNat =
        output.instruction.isBranch.toNat := by
  cases output.redirection <;> cases output.instruction.isBranch <;> rfl

/-- Fetching is redirected by branches that were predicted wrong and by indirect jumps. -/
theorem toNat_redirected (output : Latch) :
    output.redirection.isSome.toNat =
      (output.instruction.isBranch && output.redirection.isSome).toNat +
        output.instruction.isJalr.toNat := by
  unfold redirection Instruction.isBranch Instruction.isJalr
  dsimp only
  cases output.instruction.mnemonic.opcode
  case branch => exact (congrArg Bool.toNat (Bool.true_and _)).symm
  all_goals rfl

end Latch

namespace FlatMachine

variable {m m' : FlatMachine} {done : List Instruction}

/-- The law between two cycles, for the instructions that have retired so far. -/
structure Accounted (m : FlatMachine) (done : List Instruction) : Prop where
  settled : m.Settled
  followed : m.row.execute.isLive = true → m.row.execute.instruction.isEcall = false →
    m.row.decode.isLive = true
  retired : m.tally.retired = done.length
  cycles : m.tally.cycles + m.row.vacancies =
    4 + m.tally.retired + m.tally.environmentCalls + 2 * m.tally.controlHazards +
      m.tally.fetchStalls
  stalls : m.tally.fetchStalls =
    m.tally.loadUseHazards + 3 * m.tally.environmentCalls + m.row.waiting
  predictions : m.tally.predictionsRight + m.tally.predictionsWrong =
    done.countP Instruction.isBranch + m.row.memory.instruction.isBranch.toNat +
      m.row.writeback.instruction.isBranch.toNat
  redirections : m.tally.controlHazards =
    m.tally.predictionsWrong + done.countP Instruction.isJalr +
      m.row.memory.instruction.isJalr.toNat + m.row.writeback.instruction.isJalr.toNat

/-! ### Places and stalls -/

theorem executed_of_redirection (settled : m.Settled) {target : Word}
    (leads : m.row.execute.executed.redirection = some target) :
    m.row.execute.isLive = true ∧ m.row.execute.instruction.isEcall = false := by
  rcases settled.execute with live | empty
  · refine ⟨live, Bool.eq_false_iff.mpr fun ecall => ?_⟩
    rw [← Latch.instruction_executed settled.execute] at ecall
    cases (Latch.redirection_of_ecall ecall).symm.trans leads
  · rw [empty] at leads
    cases leads

theorem instruction_of_supply {results : Results}
    (execute : m'.row.execute = (m.row.decode.decoded m'.platform.hart).supply results) :
    m'.row.execute.instruction = m.decoded.instruction := by
  rw [execute, Latch.instruction_supply,
    Latch.instruction_decoded m'.platform.hart m.platform.hart, decoded]

theorem decoded_of_empty (empty : m.row.decode = Latch.empty) : m.decoded = Latch.empty := by
  rw [decoded, empty]
  rfl

/-- An instruction that executes does not wait for a call on its way, nor does it call. -/
theorem holdsBack_apart (settled : m.Settled) :
    (m.row.execute.executed.instruction.isEcall || m.row.execute.executed.loadsFor m.decoded ||
        m.row.memory.instruction.isEcall).toNat =
      (m.row.execute.executed.loadsFor m.decoded).toNat +
        m.row.execute.instruction.isEcall.toNat + m.row.memory.instruction.isEcall.toNat := by
  rw [Latch.instruction_executed settled.execute]
  cases memory : m.row.memory.instruction.isEcall with
  | true =>
    rw [(settled.behindMemory memory).2]
    rfl
  | false =>
    cases execute : m.row.execute.instruction.isEcall with
    | true =>
      rw [decoded_of_empty (settled.behindExecute execute), Latch.loadsFor_of_bubble rfl]
      rfl
    | false => cases m.row.execute.executed.loadsFor m.decoded <;> rfl

theorem stalls_of_held (straight : m.row.execute.executed.redirection = none)
    (holds : HoldsBack m.row.execute.executed m.decoded ∨
      m.row.memory.instruction.isEcall = true) : m.stalls = true := by
  unfold stalls
  rw [straight]
  rcases holds with holds | ecall
  · rw [holdsBack_iff.mp holds]
    rfl
  · simp [ecall]

theorem stalls_of_moved (straight : m.row.execute.executed.redirection = none)
    (free : ¬ HoldsBack m.row.execute.executed m.decoded)
    (calm : m.row.memory.instruction.isEcall = false) :
    m.stalls = m.decoded.instruction.isEcall := by
  unfold stalls
  rw [holdsBack_iff, Bool.not_eq_true] at free
  rw [straight, free, calm]
  rfl

namespace Advanced

/-- Where fetching is redirected two places become vacant, and one where it is stalled. -/
theorem vacancies (advanced : Advanced m m') (settled : m.Settled)
    (followed : m.row.execute.isLive = true → m.row.execute.instruction.isEcall = false →
      m.row.decode.isLive = true) :
    m'.row.decode.vacancy + m'.row.execute.vacancy =
      m.row.decode.vacancy + 2 * m.row.execute.executed.redirection.isSome.toNat +
        m.stalls.toNat := by
  cases advanced with
  | redirected target leads _ decode execute =>
    obtain ⟨live, other⟩ := executed_of_redirection settled leads
    rw [decode, execute, stalls, leads, Latch.vacancy_of_isLive (followed live other)]
    rfl
  | held straight holds _ decode execute =>
    rw [decode, execute, stalls_of_held straight holds, straight]
    rfl
  | moved straight free calm _ decode execute =>
    have place : m'.row.execute.vacancy = m.row.decode.vacancy := by
      rw [execute, Latch.vacancy, Latch.isLive_supply, Latch.isLive_decoded_eq, Latch.vacancy]
    have behind : m'.row.decode.vacancy = m.decoded.instruction.isEcall.toNat := by
      rw [decode]
      split
      · next ecall =>
        rw [ecall]
        rfl
      · next other =>
        rw [Bool.eq_false_iff.mpr other]
        exact Latch.vacancy_of_isLive FlatMemory.fetched_isLive
    rw [place, behind, stalls_of_moved straight free calm, straight]
    exact Nat.add_comm _ _

/-- A cycle is stalled by a load or by one call, at one of three places. -/
theorem stalls_eq (advanced : Advanced m m') (settled : m.Settled) :
    m.stalls.toNat =
      (m.row.execute.executed.redirection.isNone &&
        m.row.execute.executed.loadsFor m.decoded).toNat +
      m'.row.execute.instruction.isEcall.toNat + m.row.execute.instruction.isEcall.toNat +
      m.row.memory.instruction.isEcall.toNat := by
  have apart := holdsBack_apart settled
  cases advanced with
  | redirected target leads _ _ execute =>
    obtain ⟨live, other⟩ := executed_of_redirection settled leads
    rw [execute, stalls, leads, other, (settled.calm_of_execute live).1]
    rfl
  | held straight holds _ _ execute =>
    have empty : m'.row.execute.instruction.isEcall = false := by
      rw [execute]
      rfl
    have held : (m.row.execute.executed.instruction.isEcall ||
        m.row.execute.executed.loadsFor m.decoded || m.row.memory.instruction.isEcall) = true := by
      rcases holds with holds | ecall
      · rw [holdsBack_iff.mp holds, Bool.true_or]
      · rw [ecall, Bool.or_true]
    rw [held] at apart
    rw [stalls_of_held straight holds, straight, empty, Option.isNone_none, Bool.true_and]
    exact apart
  | moved straight free calm _ _ execute =>
    have stalled := stalls_of_moved straight free calm
    rw [holdsBack_iff, Bool.not_eq_true] at free
    rw [free, calm, Bool.false_or, Bool.toNat_false] at apart
    rw [stalled, instruction_of_supply execute, straight, Option.isNone_none, Bool.true_and, calm,
      Bool.toNat_false]
    omega

/-- Behind an instruction that moves in front of the third stage, if it does not call, there is
another one. -/
theorem followed (advanced : Advanced m m') (live : m'.row.execute.isLive = true)
    (other : m'.row.execute.instruction.isEcall = false) : m'.row.decode.isLive = true := by
  cases advanced with
  | redirected _ _ _ _ execute =>
    rw [execute] at live
    cases live
  | held _ _ _ _ execute =>
    rw [execute] at live
    cases live
  | moved _ _ _ _ decode execute =>
    rw [instruction_of_supply execute] at other
    rw [decode, if_neg (Bool.eq_false_iff.mp other)]
    exact FlatMemory.fetched_isLive

end Advanced

/-! ### One cycle -/

/-- The instructions behind the third stage move on by one place. -/
theorem Cycled.instructions (cycled : m.Cycled m') (settled : m.Settled) :
    m'.row.memory.instruction = m.row.execute.instruction ∧
      m'.row.writeback.instruction = m.row.memory.instruction := by
  obtain ⟨loaded, -, writeback⟩ := cycled.moved
  exact ⟨by rw [cycled.memory, Latch.instruction_executed settled.execute],
    by rw [writeback, Latch.instruction_accessed settled.memory]⟩

theorem Cycled.vacancies (cycled : m.Cycled m') :
    m'.row.memory.vacancy = m.row.execute.vacancy ∧
      m'.row.writeback.vacancy = m.row.memory.vacancy := by
  obtain ⟨loaded, -, writeback⟩ := cycled.moved
  exact ⟨by rw [cycled.memory, Latch.vacancy_executed], by rw [writeback, Latch.vacancy_accessed]⟩

/-- Of a kind that calls are not of, a cycle adds the instruction that executes to those that have
retired or are about to. -/
theorem Cycled.countP (cycled : m.Cycled m') (settled : m.Settled) (done : List Instruction)
    (kind : Instruction → Bool) (nop : kind Instruction.nop = false)
    (other : ∀ inst : Instruction, inst.isEcall = true → kind inst = false) :
    (done ++ m.row.retiring).countP kind + (kind m'.row.memory.instruction).toNat +
        (kind m'.row.writeback.instruction).toNat =
      done.countP kind + (kind m.row.memory.instruction).toNat +
        (kind m.row.writeback.instruction).toNat + (kind m.row.execute.instruction).toNat := by
  obtain ⟨memory, writeback⟩ := cycled.instructions settled
  rw [List.countP_append, Row.countP_retiring settled.writeback kind nop other, memory, writeback]
  omega

namespace Accounted

/-- A cycle retires an instruction, finishes a call, or lets a vacancy out at the end. Vacancies
come in where fetching is redirected or stalled. -/
theorem next_cycles (accounted : m.Accounted done) (cycle : m.cycle = .ok m') :
    m'.tally.cycles + m'.row.vacancies =
      4 + m'.tally.retired + m'.tally.environmentCalls + 2 * m'.tally.controlHazards +
        m'.tally.fetchStalls := by
  have settled := accounted.settled
  have cycled := cycled_of_cycle settled cycle
  have places := cycled.advanced.vacancies settled accounted.followed
  obtain ⟨third, fourth⟩ := cycled.vacancies
  have finishes := Row.length_retiring settled.writeback
  have retires := m.row.toNat_retires
  have calls := Latch.toNat_calls settled.writeback
  have before := accounted.cycles
  unfold Row.vacancies at before ⊢
  rw [tally_of_cycle settled cycle, third, fourth]
  dsimp only [Latch.countFinished, Latch.countExecuted, Latch.countResolved]
  omega

/-- A call on its way moves on by one place, and has caused one stall more. -/
theorem next_stalls (accounted : m.Accounted done) (cycle : m.cycle = .ok m') :
    m'.tally.fetchStalls =
      m'.tally.loadUseHazards + 3 * m'.tally.environmentCalls + m'.row.waiting := by
  have settled := accounted.settled
  have cycled := cycled_of_cycle settled cycle
  have stalled := cycled.advanced.stalls_eq settled
  obtain ⟨memory, writeback⟩ := cycled.instructions settled
  have calls := Latch.toNat_calls settled.writeback
  have before := accounted.stalls
  unfold Row.waiting at before ⊢
  rw [tally_of_cycle settled cycle, memory, writeback]
  dsimp only [Latch.countFinished, Latch.countExecuted, Latch.countResolved]
  omega

/-- What is resolved in a cycle is counted as in front of the fourth stage. -/
theorem next_predictions (accounted : m.Accounted done) (cycle : m.cycle = .ok m') :
    m'.tally.predictionsRight + m'.tally.predictionsWrong =
      (done ++ m.row.retiring).countP Instruction.isBranch +
        m'.row.memory.instruction.isBranch.toNat + m'.row.writeback.instruction.isBranch.toNat := by
  have settled := accounted.settled
  have counts := (cycled_of_cycle settled cycle).countP settled done Instruction.isBranch rfl
    fun _ => Instruction.isBranch_of_isEcall
  have predicted := m.row.execute.executed.toNat_predicted
  rw [Latch.instruction_executed settled.execute] at predicted
  rw [counts, tally_of_cycle settled cycle, ← accounted.predictions]
  dsimp only [Latch.countFinished, Latch.countExecuted, Latch.countResolved]
  rw [Latch.instruction_executed settled.execute]
  omega

theorem next_redirections (accounted : m.Accounted done) (cycle : m.cycle = .ok m') :
    m'.tally.controlHazards =
      m'.tally.predictionsWrong + (done ++ m.row.retiring).countP Instruction.isJalr +
        m'.row.memory.instruction.isJalr.toNat + m'.row.writeback.instruction.isJalr.toNat := by
  have settled := accounted.settled
  have counts := (cycled_of_cycle settled cycle).countP settled done Instruction.isJalr rfl
    fun _ => Instruction.isJalr_of_isEcall
  have redirected := m.row.execute.executed.toNat_redirected
  have before := accounted.redirections
  rw [Latch.instruction_executed settled.execute] at redirected
  rw [tally_of_cycle settled cycle]
  dsimp only [Latch.countFinished, Latch.countExecuted, Latch.countResolved]
  rw [Latch.instruction_executed settled.execute]
  omega

/-- A cycle keeps the law. -/
theorem next (accounted : m.Accounted done) (cycle : m.cycle = .ok m') :
    m'.Accounted (done ++ m.row.retiring) where
  settled := (cycled_of_cycle accounted.settled cycle).settled
  followed := (cycled_of_cycle accounted.settled cycle).advanced.followed
  retired := by
    rw [tally_of_cycle accounted.settled cycle, List.length_append, ← m.row.toNat_retires,
      ← accounted.retired]
    rfl
  cycles := accounted.next_cycles cycle
  stalls := accounted.next_stalls cycle
  predictions := accounted.next_predictions cycle
  redirections := accounted.next_redirections cycle

end Accounted

/-! ### Exits -/

/-- Only an environment call that finishes asks to exit. -/
theorem isEcall_of_exits (cycled : m.Cycled m') (running : m.platform.hart.exitCode = none)
    (exits : m'.platform.hart.exitCode ≠ none) : m.row.writeback.instruction.isEcall = true := by
  cases other : m.row.writeback.instruction.isEcall with
  | true => rfl
  | false =>
    obtain ⟨finished, finishes, same⟩ := cycled.finished
    rw [finish_of_not_ecall other] at finishes
    cases finishes
    have last : m'.platform.hart.exitCode =
        (m.row.writeback.settle { m.platform with memory := m'.platform.memory }).hart.exitCode :=
      congrArg (·.hart.exitCode) same
    have kept : (m.row.writeback.settle
        { m.platform with memory := m'.platform.memory }).hart.exitCode = none := by
      unfold Latch.settle
      split
      · exact (Hart.exitCode_deliver.trans Hart.exitCode_deliver).trans running
      · exact running
    exact absurd (last.trans kept) exits

/-- When a call finishes, there is only the instruction that was fetched behind it. -/
theorem row_of_call (cycled : m.Cycled m') (settled : m.Settled)
    (ecall : m.row.writeback.instruction.isEcall = true) :
    m'.row.decode.isLive = true ∧ m'.row.execute = Latch.empty ∧ m'.row.memory = Latch.empty ∧
      m'.row.writeback = Latch.empty := by
  obtain ⟨decode, execute, memory⟩ := settled.behindWriteback ecall
  obtain ⟨loaded, -, writeback⟩ := cycled.moved
  have nothing := decoded_of_empty decode
  have third : m'.row.memory = Latch.empty := by rw [cycled.memory, execute, Latch.executed_empty]
  have fourth : m'.row.writeback = Latch.empty := by rw [writeback, memory]; rfl
  cases cycled.advanced with
  | redirected _ leads =>
    rw [execute] at leads
    cases leads
  | held _ holds =>
    -- nothing is left in front that could hold fetching back
    rcases holds with holds | ecall'
    · rw [execute] at holds
      exact absurd holds not_holdsBack_empty
    · rw [memory] at ecall'
      cases ecall'
  | moved _ _ _ _ decode' execute' =>
    rw [nothing] at decode'
    refine ⟨?_, ?_, third, fourth⟩
    · rw [decode']
      exact FlatMemory.fetched_isLive
    · rw [execute', decode]
      rfl

end FlatMachine

namespace Machine

variable {machine start last next : Machine} {settings : Settings} {heuristic : Heuristic}
  {host : Host} {log : Log} {image : List Load} {entry : Word} {done : List Instruction}

/-- The instructions that retire in the given number of cycles, in order. -/
def retirements : (count : Nat) → Machine → List Instruction
  | 0, _ => []
  | count + 1, machine =>
    machine.latches.committed.retiring ++
      match step.run machine with
      | .ok _ next => retirements count next
      | .error _ _ => []

/-- The law for the counters of a whole run and the instructions that have retired in it. -/
structure Balanced (c : Counters) (finished : List Instruction) : Prop where
  cycles : c.cycles =
    1 + c.retired + 4 * c.environmentCalls + c.loadUseHazards + 2 * c.controlHazards
  stalls : c.fetchStalls = c.loadUseHazards + 3 * c.environmentCalls
  retired : c.retired = finished.length
  predictions : c.predictionsRight + c.predictionsWrong = finished.countP Instruction.isBranch
  redirections : c.controlHazards = c.predictionsWrong + finished.countP Instruction.isJalr

/-- Cycles keep the law, and each counts itself. -/
theorem accounted_of_steps (sound : machine.platform.space.Sound) (ready : machine.ready = true)
    (accounted : machine.flat.Accounted done) {count : Nat}
    (run : (steps count).run machine = .ok () last) :
    last.flat.Accounted (done ++ machine.retirements count) ∧
      last.flat.tally.cycles = machine.flat.tally.cycles + count := by
  induction count generalizing machine done with
  | zero =>
    cases run
    rw [retirements, List.append_nil]
    exact ⟨accounted, rfl⟩
  | succ count ih =>
    obtain ⟨_, next, first, rest⟩ := run_bind_eq_ok_iff.mp run
    obtain ⟨follows, cycle⟩ := (step_ends sound ready).of_ok first
    obtain ⟨later, cycles⟩ :=
      ih follows.sound (follows.ready.trans ready) (accounted.next cycle) rest
    have counted : next.flat.tally.cycles = machine.flat.tally.cycles + 1 := by
      rw [FlatMachine.tally_of_cycle accounted.settled cycle]
      rfl
    rw [retirements, first, ← List.append_assoc]
    exact ⟨later, by omega⟩

/-- A step of a run is a cycle, after which the program may have asked to exit. -/
theorem step_of_runStep {code : Option Int} (run : runStep.run machine = .ok code next) :
    step.run machine = .ok () next ∧ code = next.platform.hart.exitCode := by
  unfold runStep at run
  obtain ⟨_, _, got, run⟩ := run_bind_eq_ok_iff.mp run
  cases got
  have later {code : Option Int} {next : Machine}
      (run : (do step; return (← get).platform.hart.exitCode : Action (Option Int)).run machine =
        .ok code next) :
      step.run machine = .ok () next ∧ code = next.platform.hart.exitCode := by
    obtain ⟨_, between, stepped, rest⟩ := run_bind_eq_ok_iff.mp run
    cases rest
    exact ⟨stepped, rfl⟩
  split at run
  · split at run
    · cases run
    · exact later run
  · exact later run

/-- A run that exits has gone through cycles, and the last one was the first to ask for it. -/
theorem steps_of_runFor {fuel : Nat} {code : Int}
    (running : machine.platform.hart.exitCode = none)
    (run : (runFor fuel).run machine = .ok (some code) last) :
    ∃ count before, (steps count).run machine = .ok () before ∧
      before.platform.hart.exitCode = none ∧ step.run before = .ok () last ∧
      last.platform.hart.exitCode = some code := by
  induction fuel generalizing machine with
  | zero => cases run
  | succ fuel ih =>
    obtain ⟨found, next, first, rest⟩ := run_bind_eq_ok_iff.mp run
    obtain ⟨stepped, rfl⟩ := step_of_runStep first
    cases exits : next.platform.hart.exitCode with
    | some found =>
      rw [exits] at rest
      cases rest
      exact ⟨0, machine, rfl, running, stepped, exits⟩
    | none =>
      rw [exits] at rest
      obtain ⟨count, before, steps, others⟩ := ih exits rest
      exact ⟨count + 1, before, run_bind_eq_ok_iff.mpr ⟨(), next, stepped, steps⟩, others⟩

theorem steps_succ_of_step {count : Nat} (run : (steps count).run machine = .ok () next)
    (stepped : step.run next = .ok () last) : (steps (count + 1)).run machine = .ok () last := by
  induction count generalizing machine with
  | zero =>
    cases run
    exact run_bind_eq_ok_iff.mpr ⟨(), last, stepped, rfl⟩
  | succ count ih =>
    obtain ⟨_, first, begins, rest⟩ := run_bind_eq_ok_iff.mp run
    exact run_bind_eq_ok_iff.mpr ⟨(), first, begins, ih rest⟩

/-- The law at the exit, when there is only one instruction left behind the first stage. -/
theorem balanced_of_accounted (accounted : last.flat.Accounted done)
    (decode : last.flat.row.decode.isLive = true) (execute : last.flat.row.execute = Latch.empty)
    (memory : last.flat.row.memory = Latch.empty)
    (writeback : last.flat.row.writeback = Latch.empty) :
    Balanced last.platform.hart.counters done := by
  have cycles := accounted.cycles
  have stalls := accounted.stalls
  have predictions := accounted.predictions
  have redirections := accounted.redirections
  have places : last.flat.row.vacancies = 3 := by
    rw [Row.vacancies, Latch.vacancy_of_isLive decode, execute, memory, writeback]
    rfl
  have waiting : last.flat.row.waiting = 0 := by
    rw [Row.waiting, execute, memory, writeback]
    rfl
  rw [places] at cycles
  rw [waiting] at stalls
  rw [memory, writeback] at predictions redirections
  have drained : last.flat.tally.cycles = 1 + last.flat.tally.retired +
      4 * last.flat.tally.environmentCalls + last.flat.tally.loadUseHazards +
      2 * last.flat.tally.controlHazards := by omega
  exact ⟨drained, stalls, accounted.retired, predictions, redirections⟩

/-- The law holds at the exit if it holds at the start of a run. -/
theorem balanced_of_runFor (sound : machine.platform.space.Sound) (ready : machine.ready = true)
    (running : machine.platform.hart.exitCode = none) (accounted : machine.flat.Accounted [])
    (none_so_far : machine.flat.tally.cycles = 0) {fuel : Nat} {code : Int}
    (run : (runFor fuel).run machine = .ok (some code) last) :
    let cycles := last.platform.hart.counters.cycles
    (steps cycles).run machine = .ok () last ∧
      Balanced last.platform.hart.counters (machine.retirements cycles) := by
  intro cycles
  obtain ⟨count, before, stepped, still, final, exits⟩ := steps_of_runFor running run
  have whole := steps_succ_of_step stepped final
  obtain ⟨follows, -⟩ := (steps_ends sound ready count).of_ok stepped
  obtain ⟨accounted', -⟩ := accounted_of_steps sound ready accounted stepped
  obtain ⟨atExit, counted⟩ := accounted_of_steps sound ready accounted whole
  obtain ⟨-, cycle⟩ := (step_ends follows.sound (follows.ready.trans ready)).of_ok final
  have cycled := FlatMachine.cycled_of_cycle accounted'.settled cycle
  have asked : last.flat.platform.hart.exitCode ≠ none := by
    have here : last.flat.platform.hart.exitCode = some code := exits
    rw [here]
    exact Option.some_ne_none code
  have calls := FlatMachine.isEcall_of_exits cycled still asked
  obtain ⟨decode, execute, memory, writeback⟩ :=
    FlatMachine.row_of_call cycled accounted'.settled calls
  -- each cycle has counted itself, so the counter says how many there were
  have same : cycles = count + 1 := by
    have total : cycles = machine.flat.tally.cycles + (count + 1) := counted
    omega
  rw [same]
  rw [List.nil_append] at atExit
  exact ⟨whole, balanced_of_accounted atExit decode execute memory writeback⟩

/-- A launched machine has counted nothing. -/
theorem tally_of_launch (launched : launch settings heuristic host log image entry = .ok start) :
    start.flat.tally = {} := by
  obtain ⟨-, -, hart⟩ := start_of_launch launched
  have counters : start.flat.tally =
      { start.platform.hart.counters with ticks := 0, dataHazards := 0 } := rfl
  rw [counters, hart]
  rfl

/-- An empty pipeline that has counted nothing obeys the law. -/
theorem accounted_of_launch
    (launched : launch settings heuristic host log image entry = .ok start) :
    start.flat.Accounted [] := by
  obtain ⟨-, latches, -⟩ := start_of_launch launched
  have row : start.flat.row = (Latches.start entry).committed := congrArg Latches.committed latches
  refine ⟨(ready_of_launch launched).onTrack.tracks.settled, ?_, ?_, ?_, ?_, ?_, ?_⟩
  · intro live
    rw [row] at live
    cases live
  all_goals
    rw [tally_of_launch launched]
    try rw [row]
    rfl

/-- Every cycle of a run that exits is accounted for, whatever its limit on cycles: by the
instructions that have retired, by the calls, by the loads and redirections that have held fetching
up, and by one instruction that was fetched too many. -/
theorem balanced_of_run (launched : launch settings heuristic host log image entry = .ok start)
    (limit : Option Nat) {code : Int}
    (exits : run.run { start with cycleLimit := limit } = .ok code last) :
    let cycles := last.platform.hart.counters.cycles
    (steps cycles).run { start with cycleLimit := limit } = .ok () last ∧
      Balanced last.platform.hart.counters
        (retirements cycles { start with cycleLimit := limit }) := by
  obtain ⟨sound, ready, -⟩ := ready_of_launch launched
  obtain ⟨-, -, hart⟩ := start_of_launch launched
  have running : start.platform.hart.exitCode = none := by
    rw [hart]
    rfl
  have accounted := accounted_of_launch launched
  have none_so_far : start.flat.tally.cycles = 0 := congrArg Counters.cycles
    (tally_of_launch launched)
  obtain ⟨found, after, ran, rest⟩ := run_bind_eq_ok_iff.mp exits
  cases found with
  | none => cases rest
  | some found =>
    cases rest
    exact balanced_of_runFor sound ready running accounted none_so_far ran

/-- A program with a load that is needed at once, a branch that is taken, an indirect jump, and an
exit. -/
def loadAndJump : Bytes :=
  [0x05d00893, 0xff113c23, 0xff813503, 0x00150513, 0x00000463, 0x00000013, 0x00000297, 0x00c28067,
    0x00000013, 0x00000073].flatMap (Bytes.ofNat 4)

/-- The program takes seventeen cycles for seven instructions and one call. -/
theorem balanced_of_run_loadAndJump : ∃ start last,
    launch smallSettings .bimodal {} {} [.bytes 0x1000 loadAndJump 40] 0x1000 = .ok start ∧
      run.run { start with cycleLimit := none } = .ok 94 last ∧
      last.platform.hart.counters.cycles = 17 ∧ last.platform.hart.counters.retired = 7 ∧
      Balanced last.platform.hart.counters (retirements 17 { start with cycleLimit := none }) := by
  have checked :
    (launch smallSettings .bimodal {} {} [.bytes 0x1000 loadAndJump 40] 0x1000).toOption.any
      (fun start => (start.flat.runCycles countableCycles).toOption.any fun result =>
        result.1 == some 94 && result.2.tally.cycles == 17 && result.2.tally.retired == 7) =
          true := by
    decide +kernel
  obtain ⟨start, launched, checked⟩ := exists_ok_of_any checked
  obtain ⟨⟨code, flat⟩, cycles, checked⟩ := exists_ok_of_any checked
  simp only [Bool.and_eq_true, beq_iff_eq] at checked
  obtain ⟨⟨rfl, counted⟩, retired⟩ := checked
  obtain ⟨sound, ready, -⟩ := ready_of_launch launched
  have ends := @runFor_ends { start with cycleLimit := none } sound ready rfl countableCycles
  obtain ⟨found, last, ran, -, cycles'⟩ := ends.exists_ok
    fun failure _ failed => by cases cycles.symm.trans failed
  obtain ⟨rfl, rfl⟩ := Prod.mk.inj (Except.ok.inj (cycles.symm.trans cycles'))
  have exits : run.run { start with cycleLimit := none } = .ok 94 last :=
    run_bind_eq_ok_iff.mpr ⟨some 94, last, ran, rfl⟩
  have total : last.platform.hart.counters.cycles = 17 := counted
  obtain ⟨-, balanced⟩ := balanced_of_run launched none exits
  rw [total] at balanced
  exact ⟨start, last, launched, exits, total, retired, balanced⟩

end Machine

end FiveStage
