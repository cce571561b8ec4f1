import FiveStage.Proofs.Pipeline.Handover

/-!
# Stages

The third stage sends fetching elsewhere, holds back what is behind it, or lets it move on; the
fourth and the fifth stage only add their results to those handed over before. Nothing else of a
stage matters but its counters.

## Main definitions

* `FlatMachine.HoldsBack`: the instruction that executes holds back the one behind it
* `FlatMachine.Executed`: what the third stage makes of the latches

## Main results

* `FlatMachine.execute_cases`, `FlatMachine.accessMemory_cases`: the endings of two stages
* `FlatMachine.executed_of_execute`, `FlatMachine.accessed_of_accessMemory`,
  `FlatMachine.writeBack_eq`: the last three stages
-/

namespace FiveStage

namespace Latches

variable {latches : Latches}

/-- Fetching is sent to the target, and the two instructions behind the one that executes are
dropped. -/
def redirectTo (target : Word) (latches : Latches) : Latches :=
  { latches with
    committed := { latches.committed with
      fetch := { latches.committed.fetch with
        predictedPc := target, stall := false, bubble := false }
      decode := Latch.empty }
    staged := { latches.staged with decode := Latch.empty, execute := Latch.empty } }

theorem advance_of_free {old new : Latch} (free : old.stall = false) : advance old new = new := by
  rw [advance, free, if_neg Bool.false_ne_true]

/-- The two instructions behind the one that executes stay where they are. -/
def holdBack (latches : Latches) : Latches :=
  { latches with
    committed := (latches.committed.hold .fetch).hold .decode
    staged := { latches.staged with execute := Latch.empty } }

end Latches

namespace FlatMachine

variable {m m' : FlatMachine} {output latch : Latch}

/-- The latches that the stages find. -/
abbrev row (m : FlatMachine) : Row := m.latches.committed

/-! ### The stages without their counters -/

@[simp] theorem latches_count {change : Counters → Counters} :
    (m.count change).latches = m.latches := rfl

theorem latches_forwardTo {destination : Option Nat} {value : Word} :
    (m.forwardTo destination value).latches = m.latches.forwardTo destination value := by
  unfold forwardTo Latches.forwardTo
  split
  · rfl
  · dsimp only
    split <;> rfl

theorem uncounted_forwardTo {destination : Option Nat} {value : Word} :
    (m.forwardTo destination value).platform.uncounted = m.platform.uncounted := by
  unfold forwardTo
  split
  · rfl
  · dsimp only
    split <;> rfl

theorem latches_redirect :
    (m.redirect output).latches =
      match output.redirection with
      | some target => m.latches.redirectTo target
      | none => m.latches := by
  unfold redirect Latch.redirection
  dsimp only
  cases output.instruction.mnemonic.opcode
  case branch =>
    unfold resolveBranch
    dsimp only
    split <;> rfl
  all_goals rfl

theorem uncounted_redirect : (m.redirect output).platform.uncounted = m.platform.uncounted := by
  unfold redirect
  dsimp only
  split
  · rfl
  · unfold resolveBranch
    dsimp only
    split <;> rfl
  · rfl

theorem latches_holdForLoad_of_needed {number : Nat}
    (live : m.latches.staged.execute.bubble = false)
    (reads : m.latches.staged.execute.reads number = true) :
    (m.holdForLoad (some number)).latches = m.latches.holdBack := by
  simp only [holdForLoad, live, reads, Bool.not_false, Bool.true_and, if_true]
  rfl

theorem latches_holdForLoad_of_free {destination : Option Nat}
    (free : ∀ number, destination = some number → m.latches.staged.execute.bubble = false →
      m.latches.staged.execute.reads number = false) :
    (m.holdForLoad destination).latches = m.latches := by
  unfold holdForLoad
  split
  · rfl
  · next number =>
    dsimp only
    split
    · next needed =>
      obtain ⟨live, reads⟩ := Bool.and_eq_true_iff.mp needed
      cases (free number rfl (by simpa using live)).symm.trans reads
    · rfl

theorem latches_holdForLoad (m : FlatMachine) (destination : Option Nat) :
    (m.holdForLoad destination).latches = m.latches ∨
      (m.holdForLoad destination).latches = m.latches.holdBack := by
  unfold holdForLoad
  split
  · exact .inl rfl
  · dsimp only
    split
    · exact .inr rfl
    · exact .inl rfl

theorem uncounted_holdForLoad {destination : Option Nat} :
    (m.holdForLoad destination).platform.uncounted = m.platform.uncounted := by
  unfold holdForLoad
  split
  · rfl
  · dsimp only
    split <;> rfl

/-! ### The third stage -/

/-- The instruction that executes holds back the one behind it: it is an environment call, or it
loads what the other needs. -/
def HoldsBack (output behind : Latch) : Prop :=
  output.instruction.isEcall = true ∨
    ∃ number, output.loadedTo = some number ∧ behind.bubble = false ∧ behind.reads number = true

/-- What the third stage makes of the latches in front of the first three stages and of what is
staged for the second and the third. -/
inductive Executed (output : Latch) (before after : Latches) : Prop
  | redirected (target : Word) (leads : output.redirection = some target)
      (committed : after.committed = (before.redirectTo target).committed)
      (decode : after.staged.decode = Latch.empty) (execute : after.Supplied Latch.empty [])
  | held (straight : output.redirection = none) (holds : HoldsBack output before.staged.execute)
      (committed : after.committed = (before.committed.hold .fetch).hold .decode)
      (execute : after.Supplied Latch.empty [])
  | straight (straight : output.redirection = none)
      (free : ¬ HoldsBack output before.staged.execute)
      (committed : after.committed = before.committed)
      (decode : after.staged.decode = before.staged.decode)
      (execute : after.Supplied before.staged.execute [(output.computedTo, output.computed)])

theorem not_holdsBack_empty {behind : Latch} : ¬ HoldsBack Latch.empty behind := by
  rintro (ecall | ⟨number, loads, -⟩)
  · cases ecall
  · cases loads

/-- The third stage holds back no instruction that has passed it. -/
theorem Executed.kept {before after : Latches} (executed : Executed output before after) :
    after.committed.execute = before.committed.execute ∧
      after.committed.memory = before.committed.memory ∧
      after.committed.writeback = before.committed.writeback := by
  cases executed with
  | redirected _ _ committed => rw [committed]; exact ⟨rfl, rfl, rfl⟩
  | held _ _ committed => rw [committed]; exact ⟨rfl, rfl, rfl⟩
  | straight _ _ committed => rw [committed]; exact ⟨rfl, rfl, rfl⟩

/-- The machine in its third stage, after it has handed over the result. -/
def handedOn (output : Latch) (machine : FlatMachine) : FlatMachine :=
  ((machine.redirect output).onStaged ({ · with memory := output })).forwardTo output.computedTo
    output.computed

theorem executeLive_eq (m : FlatMachine) (input : Latch) :
    m.executeLive input =
      let executed := (m.handedOn (Machine.computeResults input)).holdForLoad
        (Machine.computeResults input).loadedTo
      if input.instruction.isEcall then
        (executed.onCommitted fun row => (row.hold .fetch).hold .decode).onStaged
          ({ · with execute := Latch.empty })
      else executed := rfl

/-- What handing over the result makes of the latches that a redirection leaves behind. -/
structure HandedOn (output : Latch) (before : Latches) (behind : Latch) (after : Latches) :
    Prop where
  committed : after.committed = before.committed
  decode : after.staged.decode = before.staged.decode
  memory : after.staged.memory = output
  supplied : after.Supplied behind [(output.computedTo, output.computed)]

theorem handedOn_of_redirect {before : Latches} {behind : Latch}
    (redirected : (m.redirect output).latches = before) (fresh : before.Supplied behind []) :
    HandedOn output before behind (m.handedOn output).latches := by
  let staged : Latches := { before with staged := { before.staged with memory := output } }
  have latches : (m.handedOn output).latches =
      staged.forwardTo output.computedTo output.computed := by
    rw [handedOn, latches_forwardTo]
    simp only [onStaged, redirected]
    rfl
  have only := staged.onlyExecute_forwardTo output.computedTo output.computed
  have supplied : staged.Supplied behind [] := ⟨fresh.execute, fresh.forwardedA, fresh.forwardedB⟩
  have supplied := supplied.forwardTo output.computedTo output.computed
  rw [← latches] at only supplied
  exact ⟨only.committed, only.decode, only.memory, supplied⟩

section Executing

variable {input : Latch}

theorem executed_of_redirected {target : Word}
    (leads : (Machine.computeResults input).redirection = some target) :
    Executed (Machine.computeResults input) m.latches (m.executeLive input).latches ∧
      (m.executeLive input).latches.staged.memory = Machine.computeResults input := by
  have other : input.instruction.isEcall = false := by
    cases ecall : input.instruction.isEcall with
    | false => rfl
    | true => cases leads.symm.trans (Latch.redirection_of_ecall ecall)
  have redirected : (m.redirect (Machine.computeResults input)).latches =
      m.latches.redirectTo target := by
    rw [latches_redirect, leads]
  have handed := handedOn_of_redirect redirected (.of_bubble rfl rfl)
  rw [executeLive_eq]
  dsimp only
  rw [other, if_neg Bool.false_ne_true, latches_holdForLoad_of_free fun number _ live => ?_]
  · exact ⟨.redirected target leads handed.committed handed.decode
      (.of_bubble rfl handed.supplied.execute), handed.memory⟩
  · rw [handed.supplied.execute] at live
    cases live

/-- Behind an instruction that does not redirect fetching everything is as before, until something
is held back. -/
theorem handedOn_of_straight (freeA : m.latches.forwardedA = false)
    (freeB : m.latches.forwardedB = false) (straight : output.redirection = none) :
    HandedOn output m.latches m.latches.staged.execute (m.handedOn output).latches := by
  have redirected : (m.redirect output).latches = m.latches := by rw [latches_redirect, straight]
  exact handedOn_of_redirect redirected ⟨by simp, by simp [freeA], by simp [freeB]⟩

theorem HandedOn.behind {before after : Latches} {behind : Latch}
    (handed : HandedOn output before behind after) (number : Nat) :
    after.staged.execute.bubble = behind.bubble ∧
      after.staged.execute.reads number = behind.reads number := by
  rw [handed.supplied.execute]
  exact ⟨Latch.bubble_supply, Latch.reads_supply⟩

theorem latches_of_holdsBack
    (handed : HandedOn (Machine.computeResults input) m.latches m.latches.staged.execute
      (m.handedOn (Machine.computeResults input)).latches)
    (holds : HoldsBack (Machine.computeResults input) m.latches.staged.execute) :
    (m.executeLive input).latches =
      (m.handedOn (Machine.computeResults input)).latches.holdBack := by
  rw [executeLive_eq]
  dsimp only
  rcases holds with ecall | ⟨number, loads, live, needs⟩
  · rw [if_pos (show input.instruction.isEcall = true from ecall)]
    rcases latches_holdForLoad (m.handedOn (Machine.computeResults input))
      (Machine.computeResults input).loadedTo with same | held
    · exact congrArg Latches.holdBack same
    · exact (congrArg Latches.holdBack held).trans rfl
  · obtain ⟨bubble, reads⟩ := handed.behind number
    have held := latches_holdForLoad_of_needed (bubble.trans live) (reads.trans needs)
    rw [loads]
    split
    · exact (congrArg Latches.holdBack held).trans rfl
    · exact held

theorem latches_of_free
    (handed : HandedOn (Machine.computeResults input) m.latches m.latches.staged.execute
      (m.handedOn (Machine.computeResults input)).latches)
    (free : ¬ HoldsBack (Machine.computeResults input) m.latches.staged.execute) :
    (m.executeLive input).latches = (m.handedOn (Machine.computeResults input)).latches := by
  have other : ¬ input.instruction.isEcall = true := fun ecall => free (.inl ecall)
  rw [executeLive_eq]
  dsimp only
  rw [if_neg other]
  apply latches_holdForLoad_of_free
  intro number loads live
  obtain ⟨bubble, reads⟩ := handed.behind number
  rw [bubble] at live
  rw [reads]
  exact Bool.eq_false_iff.mpr fun needs => free (.inr ⟨number, loads, live, needs⟩)

theorem executed_of_executeLive (input : Latch) (freeA : m.latches.forwardedA = false)
    (freeB : m.latches.forwardedB = false) :
    Executed (Machine.computeResults input) m.latches (m.executeLive input).latches ∧
      (m.executeLive input).latches.staged.memory = Machine.computeResults input := by
  cases leads : (Machine.computeResults input).redirection with
  | some target => exact executed_of_redirected leads
  | none =>
    have handed := handedOn_of_straight freeA freeB leads
    by_cases holds : HoldsBack (Machine.computeResults input) m.latches.staged.execute
    · rw [latches_of_holdsBack handed holds]
      have committed := congrArg (fun row => (row.hold .fetch).hold .decode) handed.committed
      exact ⟨.held leads holds committed (.of_bubble rfl rfl), handed.memory⟩
    · rw [latches_of_free handed holds]
      exact ⟨.straight leads holds handed.committed handed.decode handed.supplied, handed.memory⟩

end Executing

theorem uncounted_executeLive {input : Latch} :
    (m.executeLive input).platform.uncounted = m.platform.uncounted := by
  unfold executeLive
  dsimp only
  split
  · exact uncounted_holdForLoad.trans (uncounted_forwardTo.trans uncounted_redirect)
  · exact uncounted_holdForLoad.trans (uncounted_forwardTo.trans uncounted_redirect)

/-! ### The last three stages -/

/-- What the third stage can do: clear the place behind it, execute, or raise a fault. -/
theorem execute_cases (m : FlatMachine) :
    (m.row.execute.isLive = false ∧
      m.execute = .ok (m.onStaged ({ · with memory := Latch.empty }))) ∨
    (m.row.execute.isLive = true ∧ m.row.execute.fault = none ∧
      m.execute = .ok (m.executeLive m.row.execute)) ∨
    (m.row.execute.isLive = true ∧ ∃ fault, m.row.execute.fault = some fault ∧
      m.execute = .error (fault.raised m.row.execute.encoding m.row.execute.pc)) := by
  unfold execute
  dsimp only
  cases live : m.row.execute.isLive with
  | false => exact .inl ⟨rfl, rfl⟩
  | true =>
    cases faulty : m.row.execute.fault with
    | none => exact .inr (.inl ⟨rfl, rfl, rfl⟩)
    | some fault => exact .inr (.inr ⟨rfl, fault, rfl, rfl⟩)

/-- What the fourth stage can do: clear the place behind it, or move data, which may be refused. -/
theorem accessMemory_cases (m : FlatMachine) :
    (m.row.memory.isLive = false ∧
      m.accessMemory = .ok (m.onStaged ({ · with writeback := Latch.empty }))) ∨
    (m.row.memory.isLive = true ∧ ∃ loaded memory,
      m.row.memory.transferred m.platform.memory = .ok (loaded, memory) ∧ m.accessMemory =
        .ok ((m.withMemory memory).stageLoaded m.row.memory (loaded.getD m.row.memory.loaded))) ∨
    (m.row.memory.isLive = true ∧ ∃ cause,
      m.row.memory.transferred m.platform.memory = .error cause ∧
      m.accessMemory = .error (.memory cause)) := by
  unfold accessMemory Latch.transferred
  dsimp only
  cases live : m.row.memory.isLive with
  | false => exact .inl ⟨rfl, rfl⟩
  | true =>
    simp only [Bool.not_true, Bool.false_eq_true, if_false, if_true]
    cases moved : m.platform.memory.transfer m.row.memory.instruction.mnemonic m.row.memory.computed
        m.row.memory.operandB with
    | ok result => exact .inr (.inl ⟨trivial, result.1, result.2, rfl, rfl⟩)
    | error cause => exact .inr (.inr ⟨trivial, cause, rfl, rfl⟩)

theorem executed_of_execute (freeA : m.latches.forwardedA = false)
    (freeB : m.latches.forwardedB = false) (done : m.execute = .ok m') :
    (m.row.execute.isLive = true → m.row.execute.fault = none) ∧
      Executed m.row.execute.executed m.latches m'.latches ∧
      m'.latches.staged.memory = m.row.execute.executed ∧
      m'.platform.uncounted = m.platform.uncounted := by
  unfold Latch.executed
  obtain ⟨live, same⟩ | ⟨live, fine, same⟩ | ⟨-, fault, -, same⟩ := m.execute_cases <;>
    rw [same] at done <;> cases done
  · rw [live]
    refine ⟨by rintro ⟨⟩, .straight rfl ?_ rfl rfl ?_, rfl, rfl⟩
    · exact not_holdsBack_empty
    · have fresh : (m.onStaged ({ · with memory := Latch.empty })).latches.Supplied
        m.latches.staged.execute [] :=
        ⟨by simp [onStaged], by simp [onStaged, freeA], by simp [onStaged, freeB]⟩
      exact fresh.forwardTo none 0
  · rw [live]
    obtain ⟨executed, staged⟩ := executed_of_executeLive m.row.execute freeA freeB
    exact ⟨fun _ => fine, executed, staged, uncounted_executeLive⟩

/-- What the fourth stage makes of a machine that has loaded a word, or nothing. -/
structure Accessed (m : FlatMachine) (loaded : Option Word) (memory : FlatMemory)
    (m' : FlatMachine) : Prop where
  moved : m.row.memory.transferred m.platform.memory = .ok (loaded, memory)
  uncounted : m'.platform.uncounted = { m.platform with memory }.uncounted
  writeback : m'.latches.staged.writeback = m.row.memory.accessed loaded
  decode : m'.latches.staged.decode = m.latches.staged.decode
  memory : m'.latches.staged.memory = m.latches.staged.memory
  row : m'.row =
    if m.row.memory.isLive && m.row.memory.instruction.isEcall then
      ((m.row.hold .fetch).hold .decode).hold .execute
    else m.row
  supplied : ∀ latch results, m.latches.Supplied latch results →
    m'.latches.Supplied latch (results ++ (m.row.memory.accessed loaded).results)

theorem accessed_of_not_isLive (idle : m.row.memory.isLive = false) :
    Accessed m none m.platform.memory (m.onStaged ({ · with writeback := Latch.empty })) := by
  have left : m.row.memory.accessed none = Latch.empty := by
    rw [Latch.accessed, idle, if_neg Bool.false_ne_true]
  refine ⟨?_, rfl, left.symm, rfl, rfl, ?_, fun latch results supplied => ?_⟩
  · rw [Latch.transferred, idle, if_neg Bool.false_ne_true]
  · rw [idle, Bool.false_and, if_neg Bool.false_ne_true]
    rfl
  · have same : (m.onStaged ({ · with writeback := Latch.empty })).latches.Supplied latch results :=
      ⟨supplied.execute, supplied.forwardedA, supplied.forwardedB⟩
    rw [left]
    exact same.deliver Latch.empty.results

/-- The fourth stage hands over both results of its instruction. -/
theorem accessed_of_stageLoaded {loaded : Option Word} {memory : FlatMemory}
    (live : m.row.memory.isLive = true)
    (moved : m.row.memory.transferred m.platform.memory = .ok (loaded, memory)) :
    Accessed m loaded memory
      ((m.withMemory memory).stageLoaded m.row.memory (loaded.getD m.row.memory.loaded)) := by
  let output : Latch := { m.row.memory with loaded := loaded.getD m.row.memory.loaded }
  have left : m.row.memory.accessed loaded = output := by rw [Latch.accessed, live, if_pos rfl]
  let staged := (m.withMemory memory).onStaged ({ · with writeback := output })
  let forwarded :=
    (staged.forwardTo output.computedTo output.computed).forwardTo output.loadedTo output.loaded
  have latches : forwarded.latches = staged.latches.deliver output.results := by
    simp only [forwarded, latches_forwardTo]
    rfl
  have only := staged.latches.onlyExecute_deliver output.results
  have supplied (latch : Latch) (results : Results) (before : m.latches.Supplied latch results) :
      forwarded.latches.Supplied latch (results ++ output.results) := by
    have fresh : staged.latches.Supplied latch results :=
      ⟨before.execute, before.forwardedA, before.forwardedB⟩
    rw [latches]
    exact fresh.deliver output.results
  have uncounted : forwarded.platform.uncounted = { m.platform with memory }.uncounted :=
    uncounted_forwardTo.trans uncounted_forwardTo
  rw [← latches] at only
  unfold stageLoaded
  dsimp only
  split
  · next ecall =>
    refine ⟨moved, uncounted, only.writeback.trans left.symm, only.decode, only.memory, ?_, ?_⟩
    · rw [live, ecall, Bool.and_self, if_pos rfl]
      exact congrArg (fun row => ((row.hold .fetch).hold .decode).hold .execute) only.committed
    · intro latch results before
      obtain ⟨execute, forwardedA, forwardedB⟩ := supplied latch results before
      rw [left]
      exact ⟨execute, forwardedA, forwardedB⟩
  · next other =>
    refine ⟨moved, uncounted, only.writeback.trans left.symm, only.decode, only.memory, ?_,
      left ▸ supplied⟩
    rw [live, Bool.true_and, if_neg other]
    exact only.committed

theorem accessed_of_accessMemory (done : m.accessMemory = .ok m') :
    ∃ loaded memory, Accessed m loaded memory m' := by
  obtain ⟨live, same⟩ | ⟨live, loaded, memory, moved, same⟩ | ⟨-, cause, -, same⟩ :=
    m.accessMemory_cases <;> rw [same] at done <;> cases done
  · exact ⟨none, m.platform.memory, accessed_of_not_isLive live⟩
  · exact ⟨loaded, memory, accessed_of_stageLoaded live moved⟩

theorem writeResult_of_register {destination : Option Nat}
    (directed : ∀ n, destination = some n → n < 32) (value : Word) :
    ∃ next, m.writeResult destination value = .ok next ∧
      next.platform.uncounted = (m.platform.onHart (·.deliver destination value)).uncounted ∧
      next.latches = m.latches.forwardTo destination value := by
  unfold writeResult
  cases destination with
  | none => exact ⟨m, rfl, rfl, rfl⟩
  | some number =>
    have found : Reg.ofNumber? number = some (BitVec.ofNat 5 number) := if_pos (directed number rfl)
    simp only [found]
    refine ⟨_, rfl, ?_, latches_forwardTo⟩
    rw [uncounted_forwardTo]
    simp [onHart, Hart.deliver, found]

/-- The fifth stage does what is left to do for its instruction. -/
theorem writeBack_eq (directed : m.row.writeback.WellDirected) :
    (∃ failure, m.writeBack = .error failure ∧ m.row.writeback.finish m.platform = .error failure) ∨
      ∃ next finished, m.writeBack = .ok next ∧ m.row.writeback.finish m.platform = .ok finished ∧
        next.platform.uncounted = finished.uncounted ∧
        next.latches = m.latches.deliver m.row.writeback.finalResults := by
  unfold writeBack Latch.finish Latch.finalResults
  dsimp only
  cases live : m.row.writeback.isLive with
  | false => exact .inr ⟨m, m.platform, rfl, rfl, rfl, rfl⟩
  | true =>
    cases ecall : m.row.writeback.instruction.isEcall with
    | true =>
      -- the call is counted before it is served here, and after it by the sequential platform
      have served := FlatPlatform.environmentCall_onHart (p := m.platform) (Hart.aside_count
        (f := fun c => { c with environmentCalls := c.environmentCalls + 1 }))
      simp only [Bool.not_true, Bool.false_eq_true, if_false, if_true, Bool.and_false]
      cases call : m.platform.environmentCall with
      | error failure =>
        rw [call] at served
        exact .inl ⟨failure, by rw [count, onHart]; simp only [served]; rfl, rfl⟩
      | ok platform =>
        rw [call] at served
        let counted :=
          platform.onHart (·.count fun c => { c with environmentCalls := c.environmentCalls + 1 })
        exact .inr ⟨{ m with platform := counted }, counted, by
          rw [count, onHart]; simp only [served]; rfl, rfl, rfl, rfl⟩
    | false =>
      obtain ⟨first, wrote, uncounted, latches⟩ :=
        writeResult_of_register (m := m) directed.loadedTo m.row.writeback.loaded
      obtain ⟨second, wrote', uncounted', latches'⟩ :=
        writeResult_of_register (m := first) directed.computedTo m.row.writeback.computed
      refine .inr ⟨second.count fun c => { c with retired := c.retired + 1 },
        m.platform.onHart m.row.writeback.retire, ?_, rfl, ?_, ?_⟩
      · simp only [Bool.not_true, Bool.false_eq_true, if_false, wrote, wrote', ok_bind, pure_eq_ok]
      · have delivered (destination : Option Nat) (value : Word) (hart : Hart) :
            (hart.deliver destination value).uncounted =
            (hart.uncounted.deliver destination value).uncounted := by
          rw [Hart.uncounted_deliver, Hart.uncounted_deliver]
          rfl
        have second :=
          uncounted'.trans (FlatPlatform.uncounted_onHart_congr (delivered _ _) uncounted)
        exact FlatPlatform.uncounted_onHart_congr (fun _ => rfl) second
      · rw [latches_count, latches', latches]
        rfl

end FlatMachine

end FiveStage
