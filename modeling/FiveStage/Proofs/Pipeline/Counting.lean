import FiveStage.Proofs.Pipeline.Cycle

/-!
# What a cycle counts

The third stage counts branches that it resolves, redirections, and instructions that it holds back
for a load; the fifth stage counts instructions that are done; and at the end of a cycle a stalled
fetch is counted. So the counters after a cycle are a function of those before it and of the
latches. Left out is only how often a result was handed over.

## Main definitions

* `Instruction.isBranch`, `Instruction.isJalr`: the instructions that may redirect fetching
* `FlatMachine.tally`: the counters but for the data hazards
* `Latch.countResolved`, `Latch.countExecuted`, `Latch.countFinished`: what the third and the fifth
  stage count
* `FlatMachine.stalls`: whether fetching is stalled in a cycle

## Main results

* `FlatMachine.tally_of_cycle`: the counters after a cycle
-/

namespace FiveStage

namespace Instruction

/-- The instruction is a conditional branch. -/
def isBranch (inst : Instruction) : Bool := inst.mnemonic.opcode == .branch

/-- The instruction is an indirect jump. -/
def isJalr (inst : Instruction) : Bool := inst.mnemonic.opcode == .jalr

end Instruction

namespace Latch

/-- The counters after a branch or an indirect jump has been resolved. -/
def countResolved (output : Latch) (c : Counters) : Counters :=
  { c with
    controlHazards := c.controlHazards + output.redirection.isSome.toNat
    predictionsRight := c.predictionsRight +
      (output.instruction.isBranch && output.redirection.isNone).toNat
    predictionsWrong := c.predictionsWrong +
      (output.instruction.isBranch && output.redirection.isSome).toNat }

/-- The instruction loads what the one behind it needs. -/
def loadsFor (output behind : Latch) : Bool :=
  output.loadedTo.any fun number => !behind.bubble && behind.reads number

/-- The counters after the third stage. Behind a redirection there is nothing left that could wait
for a load. -/
def countExecuted (output behind : Latch) (c : Counters) : Counters :=
  { output.countResolved c with
    loadUseHazards := c.loadUseHazards +
      (output.redirection.isNone && output.loadsFor behind).toNat }

/-- The counters after the fifth stage. -/
def countFinished (latch : Latch) (c : Counters) : Counters :=
  { c with
    retired := c.retired + (latch.isLive && !latch.instruction.isEcall).toNat
    environmentCalls := c.environmentCalls + (latch.isLive && latch.instruction.isEcall).toNat }

theorem loadsFor_of_bubble {output behind : Latch} (bubble : behind.bubble = true) :
    output.loadsFor behind = false := by
  unfold loadsFor
  rw [bubble]
  cases output.loadedTo <;> rfl

end Latch

namespace FlatMachine

variable {m m' : FlatMachine} {output latch : Latch}

/-- The counters but for the data hazards, which depend on the results handed over. -/
def tally (m : FlatMachine) : Counters := { m.platform.hart.counters with dataHazards := 0 }

/-! ### The stages -/

theorem tally_forwardTo {destination : Option Nat} {value : Word} :
    (m.forwardTo destination value).tally = m.tally := by
  unfold forwardTo
  split
  · rfl
  · dsimp only
    split <;> rfl

theorem tally_decode : m.fetch.decode.tally = m.tally := by
  have fetched : m.fetch.tally = m.tally := by
    unfold fetch
    dsimp only
    split <;> rfl
  unfold FlatMachine.decode
  dsimp only
  split
  · exact fetched
  · exact fetched

theorem tally_redirect : (m.redirect output).tally = output.countResolved m.tally := by
  unfold redirect Latch.countResolved Latch.redirection Instruction.isBranch
  dsimp only
  cases output.instruction.mnemonic.opcode
  case branch =>
    unfold resolveBranch
    by_cases same : output.instruction.branches output.operandA output.operandB =
        output.predictedTaken
    · simp only [if_pos same]
      rfl
    · simp only [if_neg same]
      rfl
  all_goals rfl

theorem tally_holdForLoad :
    (m.holdForLoad output.loadedTo).tally =
      { m.tally with loadUseHazards := m.tally.loadUseHazards +
        (output.loadsFor m.latches.staged.execute).toNat } := by
  unfold holdForLoad Latch.loadsFor
  cases output.loadedTo with
  | none => rfl
  | some number =>
    dsimp only [Option.any_some]
    split
    · next needed =>
      rw [needed]
      rfl
    · next free =>
      rw [Bool.eq_false_iff.mpr free]
      rfl

theorem tally_handedOn : (m.handedOn output).tally = output.countResolved m.tally :=
  tally_forwardTo.trans tally_redirect

/-- What the third stage counts for an instruction that executes. -/
theorem tally_executeLive {input : Latch} (freeA : m.latches.forwardedA = false)
    (freeB : m.latches.forwardedB = false) :
    (m.executeLive input).tally =
      (Machine.computeResults input).countExecuted m.latches.staged.execute m.tally := by
  have counted : (m.executeLive input).tally =
      ((m.handedOn (Machine.computeResults input)).holdForLoad
        (Machine.computeResults input).loadedTo).tally := by
    rw [executeLive_eq]
    dsimp only
    split <;> rfl
  rw [counted, tally_holdForLoad, tally_handedOn, Latch.countExecuted]
  cases leads : (Machine.computeResults input).redirection with
  | some target =>
    have redirected : (m.redirect (Machine.computeResults input)).latches =
        m.latches.redirectTo target := by
      rw [latches_redirect, leads]
    have handed := handedOn_of_redirect redirected (.of_bubble rfl rfl)
    rw [Latch.loadsFor_of_bubble (handed.behind 0).1]
    rfl
  | none =>
    have handed := handedOn_of_straight freeA freeB leads
    have same : (Machine.computeResults input).loadsFor
        (m.handedOn (Machine.computeResults input)).latches.staged.execute =
          (Machine.computeResults input).loadsFor m.latches.staged.execute := by
      unfold Latch.loadsFor
      congr 1
      funext number
      rw [(handed.behind number).1, (handed.behind number).2]
    rw [same, Option.isNone_none, Bool.true_and]
    rfl

theorem tally_execute (settled : m.Settled) (done : m.fetch.decode.execute = .ok m') :
    m'.tally = m.row.execute.executed.countExecuted m.decoded m.tally := by
  have here : m.fetch.decode.latches.committed.execute = m.row.execute := execute_front settled
  have behind : m.fetch.decode.latches.staged.execute = m.decoded := by
    rw [latches_front settled]
    rfl
  unfold Latch.executed
  obtain ⟨live, same⟩ | ⟨live, -, same⟩ | ⟨-, fault, -, same⟩ := execute_cases m.fetch.decode <;>
    rw [same] at done <;> cases done
  · rw [here] at live
    rw [live]
    exact tally_decode
  · rw [here] at live ⊢
    rw [live]
    obtain ⟨freeA, freeB⟩ := forwarded_front settled
    rw [tally_executeLive freeA freeB, behind, tally_decode]
    rfl

theorem tally_stageLoaded {loaded : Word} : (m.stageLoaded latch loaded).tally = m.tally := by
  unfold stageLoaded
  dsimp only
  split
  · exact tally_forwardTo.trans tally_forwardTo
  · exact tally_forwardTo.trans tally_forwardTo

theorem tally_accessMemory (done : m.accessMemory = .ok m') : m'.tally = m.tally := by
  obtain ⟨-, same⟩ | ⟨-, loaded, memory, -, same⟩ | ⟨-, cause, -, same⟩ :=
    m.accessMemory_cases <;> rw [same] at done <;> cases done
  · rfl
  · exact tally_stageLoaded

theorem tally_writeResult {destination : Option Nat} {value : Word}
    (done : m.writeResult destination value = .ok m') : m'.tally = m.tally := by
  unfold writeResult at done
  split at done
  · cases done
    rfl
  · split at done
    · cases done
    · cases done
      rw [tally_forwardTo]
      unfold tally onHart FlatPlatform.onHart Hart.setRegister
      dsimp only
      split <;> rfl

theorem tally_writeBack (done : m.writeBack = .ok m') :
    m'.tally = m.row.writeback.countFinished m.tally := by
  unfold writeBack at done
  unfold Latch.countFinished
  dsimp only at done
  cases live : m.row.writeback.isLive with
  | false =>
    rw [live] at done
    cases done
    rfl
  | true =>
    rw [live] at done
    cases ecall : m.row.writeback.instruction.isEcall with
    | true =>
      rw [ecall] at done
      obtain ⟨platform, served, done⟩ := bind_eq_ok_iff.mp done
      cases done
      rw [tally, FlatPlatform.counters_of_environmentCall served]
      rfl
    | false =>
      rw [ecall] at done
      obtain ⟨first, wrote, done⟩ := bind_eq_ok_iff.mp done
      obtain ⟨second, wrote', done⟩ := bind_eq_ok_iff.mp done
      cases done
      rw [← (tally_writeResult wrote').trans (tally_writeResult wrote)]
      rfl

theorem tally_endCycle : m.endCycle.tally =
    { m.tally with
      cycles := m.tally.cycles + 1
      fetchStalls := m.tally.fetchStalls + m.row.fetch.stall.toNat } := by
  unfold endCycle
  dsimp only [Latches.commit]
  cases m.row.fetch.stall <;> rfl

/-! ### One cycle -/

/-- Whether fetching is stalled in this cycle. -/
def stalls (m : FlatMachine) : Bool :=
  m.row.execute.executed.redirection.isNone &&
    (m.row.execute.executed.instruction.isEcall || m.row.execute.executed.loadsFor m.decoded ||
      m.row.memory.instruction.isEcall || m.decoded.instruction.isEcall)

theorem holdsBack_iff {output behind : Latch} :
    HoldsBack output behind ↔
      (output.instruction.isEcall || output.loadsFor behind) = true := by
  unfold HoldsBack Latch.loadsFor
  cases output.loadedTo with
  | none => simp
  | some number => simp

/-- The stall that the end of the cycle finds. -/
theorem stall_of_passed (settled : m.Settled) {third last : Latches} {late : Results}
    (executed : Executed m.row.execute.executed m.front third) (passed : Passed m third last late) :
    last.committed.fetch.stall = m.stalls := by
  have row := passed.row
  have behind : m.front.staged.execute = m.decoded := rfl
  unfold stalls
  cases ecall : m.row.memory.instruction.isEcall with
  | true =>
    -- behind the call nothing executes, and fetching is held back by the call itself
    have live := Latch.isLive_of_isEcall settled.memory ecall
    obtain ⟨-, empty⟩ := settled.behindMemory ecall
    rw [live, ecall, Bool.and_self, if_pos rfl] at row
    rw [row, empty]
    rfl
  | false =>
    rw [passed.row_of_calm ecall]
    cases executed with
    | redirected target leads committed =>
      rw [committed, leads]
      rfl
    | held straight holds committed =>
      rw [behind, holdsBack_iff] at holds
      rw [committed, straight, holds]
      rfl
    | straight straight free committed =>
      rw [behind, holdsBack_iff, Bool.not_eq_true] at free
      rw [committed, straight, free]
      rfl

/-- The counters after a cycle. -/
theorem tally_of_cycle (settled : m.Settled) (done : m.cycle = .ok m') :
    let counted :=
      m.row.writeback.countFinished (m.row.execute.executed.countExecuted m.decoded m.tally)
    m'.tally =
      { counted with
        cycles := counted.cycles + 1
        fetchStalls := counted.fetchStalls + m.stalls.toNat } := by
  intro counted
  obtain ⟨third, fourth, fifth, loaded, memory, executes, accesses, writes, rfl, behind⟩ :=
    stages_of_cycle settled done
  have tally : fifth.tally = counted := by
    rw [tally_writeBack writes, behind.rowWriteback, tally_accessMemory accesses,
      tally_execute settled executes]
  have stall : fifth.row.fetch.stall = m.stalls := by
    rcases writeBack_eq (behind.writebackDirected settled) with
      ⟨failure, failed, -⟩ | ⟨next, -, wrote, -, -, latches⟩
    · cases failed.symm.trans writes
    · obtain rfl : next = fifth := Except.ok.inj (wrote.symm.trans writes)
      have only := fourth.latches.onlyExecute_deliver fourth.row.writeback.finalResults
      rw [row, latches, only.committed]
      exact stall_of_passed settled behind.executed behind.passed
  rw [tally_endCycle, tally, stall]

end FlatMachine

end FiveStage
