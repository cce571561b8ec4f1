import FiveStage.Proofs.Pipeline.Stages

/-!
# What a cycle does

A cycle moves every latch on by one stage, unless fetching is redirected or instructions are held
back. The instruction that comes in front of the third stage has the operands that the registers
will have once the instructions before it are done; forwarding sees to that.

## Main definitions

* `FlatMachine.Settled`: a machine between two cycles
* `FlatMachine.Advanced`: how the front of the pipeline moves
* `FlatMachine.Cycled`: what one cycle does

## Main results

* `FlatMachine.cycled_of_cycle`: a cycle that succeeds does so
* `FlatMachine.failure_of_cycle`: where a cycle fails
-/

namespace FiveStage

namespace FlatMachine

variable {m m' : FlatMachine} {latch : Latch}

/-- What is fetched in the next cycle. -/
def fetched (m : FlatMachine) : Latch :=
  m.platform.memory.fetched m.predictor m.row.fetch.predictedPc

/-- What is decoded in the next cycle. -/
def decoded (m : FlatMachine) : Latch := m.row.decode.decoded m.platform.hart

/-- A machine between two cycles. Nothing is held back, empty places are really empty, and behind an
environment call there is nothing. -/
structure Settled (m : FlatMachine) : Prop where
  fetching : m.row.fetch.bubble = false ∧ m.row.fetch.stall = false
  decode : m.row.decode.isLive = true ∨ m.row.decode = Latch.empty
  execute : m.row.execute.isLive = true ∨ m.row.execute = Latch.empty
  memory : m.row.memory.isLive = true ∨ m.row.memory = Latch.empty
  writeback : m.row.writeback.isLive = true ∨ m.row.writeback = Latch.empty
  executeDirected : m.row.execute.WellDirected
  memoryDirected : m.row.memory.WellDirected
  writebackDirected : m.row.writeback.WellDirected
  behindExecute : m.row.execute.instruction.isEcall = true → m.row.decode = Latch.empty
  behindMemory : m.row.memory.instruction.isEcall = true →
    m.row.decode = Latch.empty ∧ m.row.execute = Latch.empty
  behindWriteback : m.row.writeback.instruction.isEcall = true →
    m.row.decode = Latch.empty ∧ m.row.execute = Latch.empty ∧ m.row.memory = Latch.empty
  forwarded : m.latches.forwardedA = false ∧ m.latches.forwardedB = false

/-- In front of an instruction there is no environment call on its way. -/
theorem Settled.calm_of_execute (settled : m.Settled) (live : m.row.execute.isLive = true) :
    m.row.memory.instruction.isEcall = false ∧ m.row.writeback.instruction.isEcall = false := by
  constructor
  · apply Bool.eq_false_iff.mpr
    intro ecall
    rw [(settled.behindMemory ecall).2] at live
    cases live
  · apply Bool.eq_false_iff.mpr
    intro ecall
    rw [(settled.behindWriteback ecall).2.1] at live
    cases live

theorem Settled.calm_of_memory (settled : m.Settled) (live : m.row.memory.isLive = true) :
    m.row.writeback.instruction.isEcall = false := by
  apply Bool.eq_false_iff.mpr
  intro ecall
  rw [(settled.behindWriteback ecall).2.2] at live
  cases live

/-- How the front of the pipeline moves: fetching is redirected, the instructions stay where they
are, or each moves on by one stage. -/
inductive Advanced (m m' : FlatMachine) : Prop
  | redirected (target : Word) (leads : m.row.execute.executed.redirection = some target)
      (fetch : m'.row.fetch.predictedPc = target) (decode : m'.row.decode = Latch.empty)
      (execute : m'.row.execute = Latch.empty)
  | held (straight : m.row.execute.executed.redirection = none)
      (holds : HoldsBack m.row.execute.executed m.decoded ∨ m.row.memory.instruction.isEcall = true)
      (fetch : m'.row.fetch.predictedPc = m.row.fetch.predictedPc)
      (decode : m'.row.decode = m.row.decode) (execute : m'.row.execute = Latch.empty)
  | moved (straight : m.row.execute.executed.redirection = none)
      (free : ¬ HoldsBack m.row.execute.executed m.decoded)
      (calm : m.row.memory.instruction.isEcall = false)
      (fetch : m'.row.fetch.predictedPc =
        if m.decoded.instruction.isEcall then m.row.fetch.predictedPc else m.fetched.next)
      (decode : m'.row.decode = if m.decoded.instruction.isEcall then Latch.empty else m.fetched)
      (execute : m'.row.execute = (m.row.decode.decoded m'.platform.hart).supply
        ((m'.row.memory.computedTo, m'.row.memory.computed) :: m'.row.writeback.results))

/-- What one cycle does. -/
structure Cycled (m m' : FlatMachine) : Prop where
  executable : m.row.execute.isLive = true → m.row.execute.fault = none
  memory : m'.row.memory = m.row.execute.executed
  moved : ∃ loaded, m.row.memory.transferred m.platform.memory = .ok (loaded, m'.platform.memory) ∧
    m'.row.writeback = m.row.memory.accessed loaded
  finished : ∃ finished, m.row.writeback.finish
    { m.platform with memory := m'.platform.memory } = .ok finished ∧
    m'.platform.essential = finished.essential
  advanced : Advanced m m'
  settled : m'.Settled

/-! ### The first two stages -/

/-- The latches behind the second stage. -/
def front (m : FlatMachine) : Latches :=
  { m.latches with
    committed := { m.row with
      fetch := { m.row.fetch with
        predictedPc := m.fetched.next, stall := m.decoded.instruction.isEcall } }
    staged := { m.latches.staged with
      decode := if m.decoded.instruction.isEcall then Latch.empty else m.fetched
      execute := m.decoded } }

/-- Between two cycles fetching is neither stalled nor done for nothing, so that a latch is
fetched. -/
theorem fetch_eq (settled : m.Settled) :
    m.fetch = ((m.onHart ({ · with pc := m.row.fetch.predictedPc })).onCommitted fun row =>
      { row with fetch := { row.fetch with predictedPc := m.fetched.next } }).onStaged
        ({ · with decode := m.fetched }) := by
  unfold fetch
  dsimp only
  rw [if_neg (by simp [settled.fetching.1])]
  rfl

theorem latches_front (settled : m.Settled) : m.fetch.decode.latches = m.front := by
  have fetched := fetch_eq settled
  have free := settled.fetching.2
  have decoded : m.row.decode.decoded m.fetch.platform.hart = m.decoded := by
    rw [fetched]
    exact Latch.decoded_congr fun _ => rfl
  have input : m.fetch.latches.committed.decode = m.row.decode := by rw [fetched]; rfl
  unfold FlatMachine.decode front
  dsimp only
  rw [input, decoded]
  cases ecall : m.decoded.instruction.isEcall with
  | true =>
    rw [if_pos rfl, fetched]
    rfl
  | false =>
    rw [if_neg Bool.false_ne_true, fetched]
    simp only [onStaged, onCommitted, onHart, free, Bool.false_eq_true, if_false]

/-- The front leaves the instruction in the third stage where it is. -/
theorem execute_front (settled : m.Settled) : m.fetch.decode.row.execute = m.row.execute := by
  rw [FlatMachine.row, latches_front settled]
  rfl

/-- The front forwards nothing. -/
theorem forwarded_front (settled : m.Settled) :
    m.fetch.decode.latches.forwardedA = false ∧ m.fetch.decode.latches.forwardedB = false := by
  rw [latches_front settled]
  exact settled.forwarded

theorem uncounted_front (settled : m.Settled) :
    m.fetch.decode.platform.uncounted =
      (m.platform.onHart ({ · with pc := m.row.fetch.predictedPc })).uncounted := by
  unfold FlatMachine.decode
  dsimp only
  have fetched : m.fetch.platform = m.platform.onHart
      ({ · with pc := m.row.fetch.predictedPc }) := by
    rw [fetch_eq settled]
    rfl
  split
  · exact congrArg FlatPlatform.uncounted fetched
  · exact congrArg FlatPlatform.uncounted fetched

theorem stall_of_settled (settled : latch.isLive = true ∨ latch = Latch.empty) :
    latch.stall = false := by
  rcases settled with live | rfl
  · exact (Latch.isLive_iff.mp live).2
  · rfl

theorem released_of_free (free : latch.stall = false) : { latch with stall := false } = latch := by
  rw [← free]

/-! ### The end of a cycle -/

/-- What the last two stages make of the latches behind the third: an environment call holds back
everything, and otherwise only results are handed over. -/
structure Passed (m : FlatMachine) (third last : Latches) (late : Results) : Prop where
  row : last.committed =
    if m.row.memory.isLive && m.row.memory.instruction.isEcall then
      ((third.committed.hold .fetch).hold .decode).hold .execute
    else third.committed
  decode : last.staged.decode = third.staged.decode
  supplied : ∀ latch results, third.Supplied latch results → last.Supplied latch (results ++ late)

/-- The latches in front of the first three stages at the end of a cycle. -/
inductive Front (m : FlatMachine) (late : Results) (row : Row) : Prop
  | redirected (target : Word) (leads : m.row.execute.executed.redirection = some target)
      (fetch : row.fetch.predictedPc = target) (decode : row.decode = Latch.empty)
      (execute : row.execute = Latch.empty)
  | held (straight : m.row.execute.executed.redirection = none)
      (holds : HoldsBack m.row.execute.executed m.decoded ∨ m.row.memory.instruction.isEcall = true)
      (fetch : row.fetch.predictedPc = m.row.fetch.predictedPc) (decode : row.decode = m.row.decode)
      (execute : row.execute = Latch.empty)
  | moved (straight : m.row.execute.executed.redirection = none)
      (free : ¬ HoldsBack m.row.execute.executed m.decoded)
      (calm : m.row.memory.instruction.isEcall = false)
      (fetch : row.fetch.predictedPc =
        if m.decoded.instruction.isEcall then m.row.fetch.predictedPc else m.fetched.next)
      (decode : row.decode = if m.decoded.instruction.isEcall then Latch.empty else m.fetched)
      (execute : row.execute = m.decoded.supply
        ((m.row.execute.executed.computedTo, m.row.execute.executed.computed) :: late))

section Commit

variable {third last : Latches} {late : Results}

theorem Passed.deliver (passed : Passed m third last late) (results : Results) :
    Passed m third (last.deliver results) (late ++ results) := by
  have only := last.onlyExecute_deliver results
  refine ⟨only.committed.trans passed.row, only.decode.trans passed.decode,
    fun latch others before => ?_⟩
  rw [← List.append_assoc]
  exact (passed.supplied latch others before).deliver results

theorem Passed.row_of_calm (passed : Passed m third last late)
    (calm : m.row.memory.instruction.isEcall = false) : last.committed = third.committed := by
  have row := passed.row
  rwa [calm, Bool.and_false, if_neg Bool.false_ne_true] at row

theorem front_of_redirected (settled : m.Settled) (passed : Passed m third last late)
    {target : Word} (leads : m.row.execute.executed.redirection = some target)
    (committed : third.committed = (m.front.redirectTo target).committed)
    (staged : third.staged.decode = Latch.empty) (execute : third.Supplied Latch.empty []) :
    let row := (last.commit m.row.fetch.predictedPc).2.committed
    (row.fetch.bubble = false ∧ row.fetch.stall = false) ∧ Front m late row := by
  -- behind an environment call there is nothing that could redirect fetching
  have calm : m.row.memory.instruction.isEcall = false := by
    apply Bool.eq_false_iff.mpr
    intro ecall
    rw [(settled.behindMemory ecall).2] at leads
    cases leads
  have execute' := (passed.supplied _ _ execute).execute
  simp only [Latches.commit, Latches.advance, passed.row_of_calm calm, committed, front,
    Latches.redirectTo, passed.decode, staged, execute']
  refine ⟨⟨rfl, rfl⟩, .redirected target leads rfl rfl ?_⟩
  rw [stall_of_settled settled.execute]
  rfl

theorem front_of_held (settled : m.Settled) (passed : Passed m third last late)
    (straight : m.row.execute.executed.redirection = none)
    (holds : HoldsBack m.row.execute.executed m.decoded)
    (committed : third.committed = (m.front.committed.hold .fetch).hold .decode)
    (execute : third.Supplied Latch.empty []) :
    let row := (last.commit m.row.fetch.predictedPc).2.committed
    (row.fetch.bubble = false ∧ row.fetch.stall = false) ∧ Front m late row := by
  have calm : m.row.memory.instruction.isEcall = false := by
    apply Bool.eq_false_iff.mpr
    intro ecall
    rw [(settled.behindMemory ecall).2] at holds
    exact not_holdsBack_empty holds
  have execute' := (passed.supplied _ _ execute).execute
  simp only [Latches.commit, Latches.advance, passed.row_of_calm calm, committed, front, Row.hold,
    Row.set, Row.get, execute']
  refine ⟨⟨settled.fetching.1, rfl⟩, .held straight (.inl holds) rfl ?_ ?_⟩
  · rw [if_pos trivial]
    exact released_of_free (stall_of_settled settled.decode)
  · rw [stall_of_settled settled.execute]
    rfl

/-- An environment call in front of the fourth stage holds everything back. -/
theorem front_of_ecall (settled : m.Settled) (passed : Passed m third last late)
    (ecall : m.row.memory.instruction.isEcall = true)
    (straight : m.row.execute.executed.redirection = none)
    (committed : third.committed = m.front.committed) :
    let row := (last.commit m.row.fetch.predictedPc).2.committed
    (row.fetch.bubble = false ∧ row.fetch.stall = false) ∧ Front m late row := by
  have live := Latch.isLive_of_isEcall settled.memory ecall
  have row := passed.row
  rw [live, ecall, Bool.and_self, if_pos rfl] at row
  simp only [Latches.commit, Latches.advance, row, committed, front, Row.hold, Row.set, Row.get]
  refine ⟨⟨settled.fetching.1, rfl⟩, .held straight (.inr ecall) rfl ?_ ?_⟩
  · rw [if_pos trivial]
    exact released_of_free (stall_of_settled settled.decode)
  · rw [if_pos trivial, released_of_free (stall_of_settled settled.execute)]
    exact (settled.behindMemory ecall).2

theorem front_of_moved (settled : m.Settled) (passed : Passed m third last late)
    (calm : m.row.memory.instruction.isEcall = false)
    (straight : m.row.execute.executed.redirection = none)
    (free : ¬ HoldsBack m.row.execute.executed m.decoded)
    (committed : third.committed = m.front.committed)
    (staged : third.staged.decode = m.front.staged.decode)
    (execute : third.Supplied m.decoded
      [(m.row.execute.executed.computedTo, m.row.execute.executed.computed)]) :
    let row := (last.commit m.row.fetch.predictedPc).2.committed
    (row.fetch.bubble = false ∧ row.fetch.stall = false) ∧ Front m late row := by
  have execute' := (passed.supplied _ _ execute).execute
  simp only [Latches.commit, Latches.advance, passed.row_of_calm calm, committed, front,
    passed.decode, staged, execute', stall_of_settled settled.decode,
    stall_of_settled settled.execute]
  refine ⟨?_, .moved straight free calm ?_ ?_ rfl⟩
  · split
    · exact ⟨settled.fetching.1, rfl⟩
    · next free => exact ⟨settled.fetching.1, by simpa using free⟩
  · split <;> rfl
  · rfl

/-- The latches at the end of a cycle, from those behind the third stage. -/
theorem front_of_commit (settled : m.Settled)
    (executed : Executed m.row.execute.executed m.front third) (passed : Passed m third last late) :
    let row := (last.commit m.row.fetch.predictedPc).2.committed
    (row.fetch.bubble = false ∧ row.fetch.stall = false) ∧ Front m late row := by
  cases executed with
  | redirected target leads committed staged execute =>
    exact front_of_redirected settled passed leads committed staged execute
  | held straight holds committed execute =>
    exact front_of_held settled passed straight holds committed execute
  | straight straight free committed staged execute =>
    cases ecall : m.row.memory.instruction.isEcall with
    | true => exact front_of_ecall settled passed ecall straight committed
    | false => exact front_of_moved settled passed ecall straight free committed staged execute

end Commit

/-- The machine behind the third stage. -/
theorem executed_of_front (settled : m.Settled) (done : m.fetch.decode.execute = .ok m') :
    (m.row.execute.isLive = true → m.row.execute.fault = none) ∧
      Executed m.row.execute.executed m.front m'.latches ∧
      m'.latches.staged.memory = m.row.execute.executed ∧
      m'.row.memory = m.row.memory ∧ m'.row.writeback = m.row.writeback ∧
      m'.platform.uncounted = (m.platform.onHart
        ({ · with pc := m.row.fetch.predictedPc })).uncounted := by
  obtain ⟨freeA, freeB⟩ := forwarded_front settled
  obtain ⟨fine, executed, staged, uncounted⟩ := executed_of_execute freeA freeB done
  have here : m.fetch.decode.latches.committed.execute = m.row.execute := execute_front settled
  rw [here] at fine executed staged
  rw [latches_front settled] at executed
  obtain ⟨-, memory, writeback⟩ := executed.kept
  exact ⟨fine, executed, staged, memory, writeback, uncounted.trans (uncounted_front settled)⟩

/-- The fifth stage finds the platform as the fourth leaves it. -/
theorem essential_withMemory {p q : FlatPlatform} {pc : Word} {memory : FlatMemory}
    (same : p.uncounted = (q.onHart ({ · with pc })).uncounted) :
    { p with memory }.essential = { q with memory }.essential := by
  obtain ⟨hart, -, host⟩ :=
    FlatPlatform.essential_eq_iff.mp (FlatPlatform.essential_of_uncounted same)
  exact FlatPlatform.essential_eq_iff.mpr ⟨hart, rfl, host⟩

theorem latches_endCycle : m.endCycle.latches = (m.latches.commit m.platform.hart.pc).2 := by
  unfold endCycle
  dsimp only
  split <;> rfl

theorem row_endCycle : m.endCycle.row = (m.latches.commit m.platform.hart.pc).2.committed :=
  congrArg (·.committed) latches_endCycle

theorem memory_endCycle (free : m.row.memory.stall = false) :
    m.endCycle.row.memory = m.latches.staged.memory := by
  rw [row_endCycle, Latches.commit, Latches.advance_of_free free]

theorem writeback_endCycle (free : m.row.writeback.stall = false) :
    m.endCycle.row.writeback = m.latches.staged.writeback := by
  rw [row_endCycle, Latches.commit, Latches.advance_of_free free]

theorem forwarded_endCycle :
    m.endCycle.latches.forwardedA = false ∧ m.endCycle.latches.forwardedB = false := by
  rw [latches_endCycle]
  exact ⟨rfl, rfl⟩

theorem essential_endCycle : m.endCycle.platform.essential = m.platform.essential := by
  unfold endCycle
  dsimp only
  split <;> rfl

/-! ### Between two cycles -/

namespace Advanced

theorem decode_isLive_or_empty (advanced : Advanced m m') (settled : m.Settled) :
    m'.row.decode.isLive = true ∨ m'.row.decode = Latch.empty := by
  cases advanced with
  | redirected _ _ _ decode => exact .inr decode
  | held _ _ _ decode =>
    rw [decode]
    exact settled.decode
  | moved _ _ _ _ decode =>
    rw [decode]
    split
    · exact .inr rfl
    · exact .inl FlatMemory.fetched_isLive

theorem execute_isLive_or_empty (advanced : Advanced m m') :
    m'.row.execute.isLive = true ∨ m'.row.execute = Latch.empty := by
  cases advanced with
  | redirected _ _ _ _ execute => exact .inr execute
  | held _ _ _ _ execute => exact .inr execute
  | moved _ _ _ _ _ execute =>
    rw [execute]
    exact Latch.supply_isLive_or_empty (Latch.decoded_isLive_or_empty _ _)

theorem executeDirected (advanced : Advanced m m') : m'.row.execute.WellDirected := by
  cases advanced with
  | redirected _ _ _ _ execute =>
    rw [execute]
    exact Latch.wellDirected_empty
  | held _ _ _ _ execute =>
    rw [execute]
    exact Latch.wellDirected_empty
  | moved _ _ _ _ _ execute =>
    rw [execute]
    exact (Latch.wellDirected_decoded _ _).supply

/-- Nothing is fetched behind an environment call. -/
theorem behindExecute (advanced : Advanced m m')
    (ecall : m'.row.execute.instruction.isEcall = true) :
    m'.row.decode = Latch.empty := by
  cases advanced with
  | redirected _ _ _ decode => exact decode
  | held _ _ _ _ execute =>
    rw [execute] at ecall
    cases ecall
  | moved _ _ _ _ decode execute =>
    rw [execute, Latch.instruction_supply,
      Latch.instruction_decoded m'.platform.hart m.platform.hart] at ecall
    rw [decode, FlatMachine.decoded, if_pos ecall]

/-- Nothing follows an environment call into the third stage. -/
theorem behindMemory (advanced : Advanced m m') (settled : m.Settled)
    (live : m.row.execute.isLive = true) (ecall : m.row.execute.instruction.isEcall = true) :
    m'.row.decode = Latch.empty ∧ m'.row.execute = Latch.empty := by
  have calls : m.row.execute.executed.instruction.isEcall = true := by
    rw [Latch.isEcall_executed, live, ecall]
    rfl
  cases advanced with
  | redirected _ leads => cases leads.symm.trans (Latch.redirection_of_ecall calls)
  | held _ _ _ decode execute => exact ⟨decode.trans (settled.behindExecute ecall), execute⟩
  | moved _ free => exact absurd (.inl calls) free

/-- Nothing follows an environment call into the fourth stage. -/
theorem behindWriteback (advanced : Advanced m m') (settled : m.Settled)
    (ecall : m.row.memory.instruction.isEcall = true) :
    m'.row.decode = Latch.empty ∧ m'.row.execute = Latch.empty := by
  obtain ⟨noDecode, noExecute⟩ := settled.behindMemory ecall
  cases advanced with
  | redirected _ leads =>
    rw [noExecute] at leads
    cases leads
  | held _ _ _ decode execute => exact ⟨decode.trans noDecode, execute⟩
  | moved _ _ calm => cases calm.symm.trans ecall

end Advanced

/-- A cycle leaves a machine between two cycles. -/
theorem Settled.next (settled : m.Settled) {loaded : Option Word}
    (memory : m'.row.memory = m.row.execute.executed)
    (writeback : m'.row.writeback = m.row.memory.accessed loaded) (advanced : Advanced m m')
    (fetching : m'.row.fetch.bubble = false ∧ m'.row.fetch.stall = false)
    (released : m'.latches.forwardedA = false ∧ m'.latches.forwardedB = false) : m'.Settled where
  fetching := fetching
  forwarded := released
  decode := advanced.decode_isLive_or_empty settled
  execute := advanced.execute_isLive_or_empty
  memory := memory ▸ Latch.executed_isLive_or_empty _
  writeback := writeback ▸ Latch.accessed_isLive_or_empty _ _
  executeDirected := advanced.executeDirected
  memoryDirected := memory ▸ settled.executeDirected.executed
  writebackDirected := writeback ▸ settled.memoryDirected.accessed
  behindExecute := advanced.behindExecute
  behindMemory ecall := by
    rw [memory, Latch.isEcall_executed, Bool.and_eq_true] at ecall
    exact advanced.behindMemory settled ecall.1 ecall.2
  behindWriteback ecall := by
    rw [writeback, Latch.isEcall_accessed, Bool.and_eq_true] at ecall
    obtain ⟨decode, execute⟩ := advanced.behindWriteback settled ecall.2
    exact ⟨decode, execute, by rw [memory, (settled.behindMemory ecall.2).2, Latch.executed_empty]⟩

/-! ### One cycle -/

/-- The machine in front of the fifth stage. -/
structure Behind (m fourth : FlatMachine) (third : Latches) (loaded : Option Word)
    (memory : FlatMemory) : Prop where
  executable : m.row.execute.isLive = true → m.row.execute.fault = none
  executed : Executed m.row.execute.executed m.front third
  moved : m.row.memory.transferred m.platform.memory = .ok (loaded, memory)
  essential : fourth.platform.essential = { m.platform with memory }.essential
  place : fourth.platform.hart.pc = m.row.fetch.predictedPc
  rowMemory : fourth.row.memory = m.row.memory
  rowWriteback : fourth.row.writeback = m.row.writeback
  memory : fourth.latches.staged.memory = m.row.execute.executed
  writeback : fourth.latches.staged.writeback = m.row.memory.accessed loaded
  passed : Passed m third fourth.latches (m.row.memory.accessed loaded).results

theorem Behind.writebackDirected {fourth : FlatMachine} {third : Latches} {loaded : Option Word}
    {memory : FlatMemory} (settled : m.Settled) (behind : Behind m fourth third loaded memory) :
    fourth.row.writeback.WellDirected := by
  rw [behind.rowWriteback]
  exact settled.writebackDirected

theorem behind_of_accessMemory (settled : m.Settled) {third fourth : FlatMachine}
    (executes : m.fetch.decode.execute = .ok third) (accesses : third.accessMemory = .ok fourth) :
    ∃ loaded memory, Behind m fourth third.latches loaded memory := by
  obtain ⟨fine, executed, stagedMemory, rowMemory, rowWriteback, uncounted⟩ :=
    executed_of_front settled executes
  obtain ⟨loaded, memory, moved, uncounted', writeback, decode, stagedMemory', row, supplied⟩ :=
    accessed_of_accessMemory accesses
  have here : third.platform.memory = m.platform.memory := congrArg (·.memory) uncounted
  rw [rowMemory] at moved writeback row supplied
  rw [here] at moved
  refine ⟨loaded, memory, fine, executed, moved, ?_, ?_, ?_, ?_, ?_, writeback,
    ⟨row, decode, supplied⟩⟩
  · exact (FlatPlatform.essential_of_uncounted uncounted').trans (essential_withMemory uncounted)
  · have same : fourth.platform.hart.pc = third.platform.hart.pc := congrArg (·.hart.pc) uncounted'
    exact same.trans (congrArg (·.hart.pc) uncounted)
  · rw [row]
    split <;> exact rowMemory
  · rw [row]
    split <;> exact rowWriteback
  · exact stagedMemory'.trans stagedMemory

/-- The front of the pipeline moves as the latches say, with operands from the registers after the
cycle. -/
theorem advanced_of_front (settled : m.Settled) {loaded : Option Word}
    (front : Front m ((m.row.memory.accessed loaded).results ++ m.row.writeback.finalResults)
      m'.row) (memory : m'.row.memory = m.row.execute.executed)
    (writeback : m'.row.writeback = m.row.memory.accessed loaded)
    (registers : m.row.writeback.instruction.isEcall = false → ∀ r, m'.platform.hart.register r =
      (m.row.writeback.finalResults.value? r.toNat).getD (m.platform.hart.register r)) :
    Advanced m m' := by
  cases front with
  | redirected target leads fetch decode execute =>
    exact .redirected target leads fetch decode execute
  | held straight holds fetch decode execute => exact .held straight holds fetch decode execute
  | moved straight free calm fetch decode execute =>
    refine .moved straight free calm fetch decode (execute.trans ?_)
    rw [memory, writeback]
    cases ecall : m.row.writeback.instruction.isEcall with
    | true =>
      rw [decoded, (settled.behindWriteback ecall).1]
      rfl
    | false =>
      rw [← List.cons_append]
      exact Latch.supply_decoded fun r _ => registers ecall r

/-- The fifth stage and the end of the cycle. -/
theorem Behind.cycled (settled : m.Settled) {fourth next : FlatMachine} {third : Latches}
    {loaded : Option Word} {memory : FlatMemory} (behind : Behind m fourth third loaded memory)
    (writes : fourth.writeBack = .ok next) : m.Cycled next.endCycle := by
  rcases writeBack_eq (behind.writebackDirected settled) with
    ⟨failure, failed, -⟩ | ⟨written, finished, wrote, finishes, uncounted, latches⟩
  · cases failed.symm.trans writes
  obtain rfl : written = next := Except.ok.inj (wrote.symm.trans writes)
  rw [behind.rowWriteback] at finishes latches
  have only := fourth.latches.onlyExecute_deliver m.row.writeback.finalResults
  rw [← latches] at only
  have essential : written.endCycle.platform.essential = finished.essential :=
    essential_endCycle.trans (FlatPlatform.essential_of_uncounted uncounted)
  have place : written.platform.hart.pc = m.row.fetch.predictedPc := by
    have last : written.platform.hart.pc = finished.hart.pc := congrArg (·.hart.pc) uncounted
    rw [last, Latch.pc_of_finish finishes, behind.place]
  have memoryAfter : written.endCycle.platform.memory = memory := by
    have last : written.endCycle.platform.memory = finished.memory := congrArg (·.memory) essential
    rw [last, Latch.memory_of_finish finishes]
    exact congrArg (·.memory) behind.essential
  have registers (other : m.row.writeback.instruction.isEcall = false) (r : Reg) :
      written.endCycle.platform.hart.register r =
        (m.row.writeback.finalResults.value? r.toNat).getD (m.platform.hart.register r) := by
    have before : fourth.platform.hart.register r = m.platform.hart.register r :=
      congrArg (·.hart.register r) behind.essential
    have after : written.endCycle.platform.hart.register r = finished.hart.register r :=
      congrArg (·.hart.register r) essential
    rw [after, Latch.register_finish settled.writebackDirected other finishes, before]
  have passed := behind.passed.deliver m.row.writeback.finalResults
  rw [← latches] at passed
  obtain ⟨fetching, front⟩ := front_of_commit settled behind.executed passed
  rw [← place, ← row_endCycle] at fetching front
  have memoryLatch : written.endCycle.row.memory = m.row.execute.executed := by
    rw [memory_endCycle, only.memory, behind.memory]
    rw [FlatMachine.row, only.committed, behind.rowMemory]
    exact stall_of_settled settled.memory
  have writebackLatch : written.endCycle.row.writeback = m.row.memory.accessed loaded := by
    rw [writeback_endCycle, only.writeback, behind.writeback]
    rw [FlatMachine.row, only.committed, behind.rowWriteback]
    exact stall_of_settled settled.writeback
  have advanced := advanced_of_front settled front memoryLatch writebackLatch registers
  obtain ⟨last, finishes', same⟩ :=
    exists_ok_of_map_eq (m.row.writeback.finish_congr behind.essential) finishes
  rw [← memoryAfter] at finishes'
  exact ⟨behind.executable, memoryLatch, ⟨loaded, memoryAfter ▸ behind.moved, writebackLatch⟩,
    ⟨last, finishes', essential.trans same⟩, advanced,
    settled.next memoryLatch writebackLatch advanced fetching forwarded_endCycle⟩

/-- The stages of a cycle that succeeds, one after the other. -/
theorem stages_of_cycle (settled : m.Settled) (done : m.cycle = .ok m') :
    ∃ third fourth fifth loaded memory, m.fetch.decode.execute = .ok third ∧
      third.accessMemory = .ok fourth ∧ fourth.writeBack = .ok fifth ∧ fifth.endCycle = m' ∧
      Behind m fourth third.latches loaded memory := by
  obtain ⟨third, executes, done⟩ := bind_eq_ok_iff.mp done
  obtain ⟨fourth, accesses, done⟩ := bind_eq_ok_iff.mp done
  obtain ⟨fifth, writes, done⟩ := bind_eq_ok_iff.mp done
  obtain ⟨loaded, memory, behind⟩ := behind_of_accessMemory settled executes accesses
  exact ⟨third, fourth, fifth, loaded, memory, executes, accesses, writes, Except.ok.inj done,
    behind⟩

/-- A cycle that succeeds does what `Cycled` says. -/
theorem cycled_of_cycle (settled : m.Settled) (done : m.cycle = .ok m') : m.Cycled m' := by
  obtain ⟨third, fourth, fifth, loaded, memory, -, -, writes, rfl, behind⟩ :=
    stages_of_cycle settled done
  exact behind.cycled settled writes

theorem failure_of_execute {failure : Failure} (failed : m.execute = .error failure) :
    m.row.execute.isLive = true ∧
      ∃ fault, m.row.execute.fault = some fault ∧
        failure = fault.raised m.row.execute.encoding m.row.execute.pc := by
  obtain ⟨-, same⟩ | ⟨-, -, same⟩ | ⟨live, fault, faulty, same⟩ := m.execute_cases <;>
    rw [same] at failed <;> cases failed
  exact ⟨live, fault, faulty, rfl⟩

theorem failure_of_accessMemory {failure : Failure} (failed : m.accessMemory = .error failure) :
    ∃ cause, m.row.memory.transferred m.platform.memory = .error cause ∧
      failure = .memory cause := by
  obtain ⟨-, same⟩ | ⟨-, loaded, memory, -, same⟩ | ⟨-, cause, refused, same⟩ :=
    m.accessMemory_cases <;> rw [same] at failed <;> cases failed
  exact ⟨cause, refused, rfl⟩

/-- A cycle fails in its third stage, or else in its fourth, or else in its fifth. -/
theorem failure_of_cycle (settled : m.Settled) {failure : Failure}
    (failed : m.cycle = .error failure) :
    (m.row.execute.isLive = true ∧ m.row.execute.raised? = some failure) ∨
      ((m.row.execute.isLive = true → m.row.execute.fault = none) ∧
        ((∃ cause, m.row.memory.transferred m.platform.memory = .error cause ∧
          failure = .memory cause) ∨
          ∃ loaded memory, m.row.memory.transferred m.platform.memory = .ok (loaded, memory) ∧
            m.row.writeback.finish { m.platform with memory } = .error failure)) := by
  have execute := execute_front settled
  cases executes : m.fetch.decode.execute with
  | error cause =>
    simp only [cycle, executes, error_bind] at failed
    cases failed
    obtain ⟨live, fault, faulty, raised⟩ := failure_of_execute executes
    rw [execute] at live faulty raised
    exact .inl ⟨live, by rw [Latch.raised?, faulty, raised]; rfl⟩
  | ok third =>
    obtain ⟨fine, -, -, rowMemory, -, uncounted⟩ := executed_of_front settled executes
    -- the stages in front have not moved any data yet
    have here : third.platform.memory = m.platform.memory := congrArg (·.memory) uncounted
    refine .inr ⟨fine, ?_⟩
    simp only [cycle, executes, ok_bind] at failed
    cases accesses : third.accessMemory with
    | error cause =>
      simp only [accesses, error_bind] at failed
      cases failed
      obtain ⟨cause, refused, raised⟩ := failure_of_accessMemory accesses
      rw [rowMemory, here] at refused
      exact .inl ⟨cause, refused, raised⟩
    | ok fourth =>
      obtain ⟨loaded, memory, behind⟩ := behind_of_accessMemory settled executes accesses
      refine .inr ⟨loaded, memory, behind.moved, ?_⟩
      simp only [accesses, ok_bind] at failed
      rcases writeBack_eq (behind.writebackDirected settled) with
        ⟨cause, writes, finishes⟩ | ⟨written, finished, wrote, -⟩
      · rw [writes] at failed
        cases failed
        rw [behind.rowWriteback] at finishes
        exact eq_error_of_map_eq (m.row.writeback.finish_congr behind.essential) finishes
      · rw [wrote] at failed
        cases failed

end FlatMachine

end FiveStage
