import FiveStage.Proofs.Pipeline.Flat
import FiveStage.Proofs.Platform.Simulation

/-!
# Machines act as flat machines

Each stage of a machine has the effect on the flat machine that the function of the same name
describes, and fails where that function fails. What a cycle costs is added up beside, and nothing
that the stages do depends on it.

## Main definitions

* `Machine.Simulates`: an action with the effect of a function on flat machines

## Main results

* `Machine.step_simulates`: one cycle
* `Machine.steps_ends`: cycles one after the other
-/

namespace FiveStage

namespace Machine

variable {machine next : Machine}

/-- The address space is sound, and what a run does not change is as in another machine. -/
structure Follows (machine next : Machine) : Prop where
  sound : next.platform.space.Sound
  ticks : next.ticks = machine.ticks
  ready : next.ready = machine.ready
  cycleLimit : next.cycleLimit = machine.cycleLimit

theorem Follows.refl (sound : machine.platform.space.Sound) : Follows machine machine :=
  ⟨sound, rfl, rfl, rfl⟩

theorem Follows.trans {last : Machine} (first : Follows machine next) (second : Follows next last) :
    Follows machine last :=
  ⟨second.sound, second.ticks.trans first.ticks, second.ready.trans first.ready,
    second.cycleLimit.trans first.cycleLimit⟩

/-- The action has the effect that a function describes, or its failure. -/
def Simulates (action : Action Unit) (effect : FlatMachine → Except Failure FlatMachine) : Prop :=
  ∀ machine : Machine, machine.platform.space.Sound →
    Ends action machine
      (fun _ next => Follows machine next ∧ effect machine.flat = .ok next.flat)
      (fun failure _ => effect machine.flat = .error failure)

namespace Simulates

variable {first second : Action Unit} {effect effect' : FlatMachine → Except Failure FlatMachine}

theorem congr (here : Simulates first effect) (same : ∀ flat, effect flat = effect' flat) :
    Simulates first effect' := by
  rwa [← funext same]

/-- Actions one after the other have the effects one after the other. -/
theorem bind (here : Simulates first effect) (there : Simulates second effect') :
    Simulates (do first; second) fun flat => effect flat >>= effect' := by
  intro machine sound
  rw [ends_bind]
  refine (here machine sound).mono (fun _ next ends => ?_) fun failure _ fails => ?_
  · refine (there next ends.1.sound).mono
      (fun _ _ later => ⟨ends.1.trans later.1, ?_⟩) fun _ _ fails => ?_
    · exact (congrArg (· >>= effect') ends.2).trans later.2
    · exact (congrArg (· >>= effect') ends.2).trans fails
  · exact congrArg (· >>= effect') fails

end Simulates

/-! ### Single steps -/

/-- The action changes nothing but timing, caches and log. -/
abbrev Idles (action : Action Unit) : Prop := Simulates action .ok

theorem pure_idles : Idles (pure ()) := fun _ sound => ⟨.refl sound, rfl⟩

theorem raiseTicks_idles (ticks : Nat) : Idles (raiseTicks ticks) :=
  fun _ sound => ⟨⟨sound, rfl, rfl, rfl⟩, rfl⟩

theorem report_idles (line : Unit → String) : Idles (report line) :=
  fun _ sound => ⟨⟨sound, rfl, rfl, rfl⟩, rfl⟩

theorem onCommitted_simulates (change : Row → Row) :
    Simulates (onCommitted change) fun flat => .ok (flat.onCommitted change) :=
  fun _ sound => ⟨⟨sound, rfl, rfl, rfl⟩, rfl⟩

theorem onStaged_simulates (change : Row → Row) :
    Simulates (onStaged change) fun flat => .ok (flat.onStaged change) :=
  fun _ sound => ⟨⟨sound, rfl, rfl, rfl⟩, rfl⟩

theorem onHart_simulates (change : Hart → Hart)
    (blind : ∀ hart, (change hart).untimed = change hart.untimed) :
    Simulates (onHart change) fun flat => .ok (flat.onHart change) := by
  refine fun machine sound => ⟨⟨sound, rfl, rfl, rfl⟩, ?_⟩
  simp only [FlatMachine.onHart, FlatPlatform.onHart, flat, Platform.flat, ← blind]
  rfl

theorem count_simulates (change : Counters → Counters)
    (blind : ∀ counters : Counters, { change counters with ticks := 0 } = change
      { counters with ticks := 0 }) :
    Simulates (count change) fun flat => .ok (flat.count change) :=
  onHart_simulates _ fun hart =>
  congrArg (fun counters => { hart with cycleTicks := 0, counters }) (blind _)

/-! ### Fetch and decode -/

theorem readEncoding_ends (sound : machine.platform.space.Sound) (pc : Word) :
    Ends (readEncoding pc) machine
      (fun result next => Follows machine next ∧ next.flat = machine.flat ∧
        machine.flat.platform.memory.fetch pc = result.map Prod.fst)
      fun _ _ => False := by
  have read := Platform.spaceRead_ends sound pc.toNat 4
  unfold Ends at read
  simp only [Ends, readEncoding, EStateM.run, FlatMemory.fetch] at read ⊢
  cases run : Platform.spaceOf.act (AddressSpace.read pc.toNat 4) machine.platform with
  | ok result platform =>
    rw [run] at read
    obtain ⟨still, value⟩ := read
    refine ⟨⟨still.sound, rfl, rfl, rfl⟩, congrArg (FlatMachine.mk · _ _) still.flat, ?_⟩
    exact congrArg (· >>= fun word => pure (word.setWidth 32)) value
  | error fault platform =>
    rw [run] at read
    obtain ⟨still, refused⟩ := read
    refine ⟨⟨still.sound, rfl, rfl, rfl⟩, congrArg (FlatMachine.mk · _ _) still.flat, ?_⟩
    exact congrArg (· >>= fun word => pure (word.setWidth 32)) refused

/-- A failed read of an encoding is one that an instruction can carry. -/
theorem ofFetch?_of_fetch {memory : FlatMemory} {pc : Word} {cause : MemoryFault}
    (failed : memory.fetch pc = .error cause) : ∃ fault, Fault.ofFetch? cause = some fault := by
  have refused : memory.check pc.toNat 4 = .error cause := by
    unfold FlatMemory.fetch FlatMemory.read at failed
    cases checked : memory.check pc.toNat 4 with
    | ok _ =>
      rw [checked] at failed
      cases failed
    | error fault =>
      rw [checked] at failed
      exact congrArg Except.error (Except.error.inj failed)
  rcases FlatMemory.fault_of_check refused with ⟨address, kind, rfl⟩ | ⟨address, rfl⟩
  · exact ⟨_, rfl⟩
  · exact ⟨_, rfl⟩

theorem predictNext_fst (predictor : Predictor) (pc : Word) (e : Encoding) :
    (predictNext predictor pc e).1 =
      Latch.next { pc, encoding := e, predictedTaken := (predictNext predictor pc e).2 } := by
  unfold predictNext Latch.next
  simp only [Option.isSome_none, Bool.false_eq_true, if_false]
  split
  · rfl
  · split
    · rfl
    · rfl

theorem fetchAt_simulates (pc : Word) :
    Simulates (onHart ({ · with pc })) fun flat => .ok (flat.onHart ({ · with pc })) :=
  fun _ sound => ⟨⟨sound, rfl, rfl, rfl⟩, rfl⟩

theorem stageFetched_simulates (pc : Word) (e : Encoding) (cycles : Nat) :
    Simulates (stageFetched pc e cycles) fun flat =>
      let prediction := predictNext flat.predictor pc e
      .ok ((flat.onCommitted fun row =>
        { row with fetch := { row.fetch with predictedPc := prediction.1 } }).onStaged
          ({ · with decode := { pc, encoding := e, predictedTaken := prediction.2 } })) :=
  fun _ sound => ⟨⟨sound, rfl, rfl, rfl⟩, rfl⟩

theorem stageFault_simulates {pc : Word} {cause : MemoryFault} {fault : Fault}
    (carried : Fault.ofFetch? cause = some fault) :
    Simulates (stageFault pc cause) fun flat => .ok ((flat.onCommitted fun row =>
      { row with fetch := { row.fetch with predictedPc := pc + 4 } }).onStaged
        ({ · with decode := { pc, fault := some fault } })) := by
  simp only [stageFault, carried]
  exact fun _ sound => ⟨⟨sound, rfl, rfl, rfl⟩, rfl⟩

theorem fetch_simulates : Simulates fetch fun flat => .ok flat.fetch := by
  intro machine sound
  simp only [fetch, FlatMachine.fetch, ends_bind, ends_get]
  rw [show machine.flat.latches = machine.latches from rfl]
  generalize machine.latches.committed.fetch.predictedPc = pc
  split
  · exact ⟨⟨sound, rfl, rfl, rfl⟩, rfl⟩
  · rw [ends_bind]
    refine (fetchAt_simulates pc machine sound).mono
      (fun _ placed here => ?_) fun _ _ fails => by cases fails
    obtain ⟨follows, flat⟩ := here
    rw [ends_bind]
    refine (readEncoding_ends follows.sound pc).mono
      (fun result next read => ?_) fun _ _ none => none.elim
    obtain ⟨follows', same, value⟩ := read
    have memory : placed.flat.platform.memory = machine.flat.platform.memory :=
      congrArg (·.platform.memory) (Except.ok.inj flat).symm
    rw [memory] at value
    cases result with
    | ok found =>
      obtain ⟨e, cycles⟩ := found
      have fetched : machine.flat.platform.memory.fetch pc = .ok e := value
      refine (stageFetched_simulates pc e cycles next follows'.sound).mono (fun _ last staged => ?_)
        fun _ _ fails => by cases fails
      refine ⟨follows.trans (follows'.trans staged.1), ?_⟩
      rw [← staged.2, same, ← Except.ok.inj flat]
      simp only [FlatMemory.fetched, fetched, ← predictNext_fst]
      rfl
    | error cause =>
      have failed : machine.flat.platform.memory.fetch pc = .error cause := value
      -- the fault travels with the latch, and is raised where the latch executes
      obtain ⟨fault, carried⟩ := ofFetch?_of_fetch failed
      refine (stageFault_simulates carried next follows'.sound).mono (fun _ last staged => ?_)
        fun _ _ fails => by cases fails
      refine ⟨follows.trans (follows'.trans staged.1), ?_⟩
      rw [← staged.2, same, ← Except.ok.inj flat]
      simp only [FlatMemory.fetched, failed, carried]
      rfl

theorem decode_simulates : Simulates decode fun flat => .ok flat.decode := by
  intro machine sound
  simp only [decode, FlatMachine.decode, ends_bind, ends_get, Latch.decoded]
  rw [show machine.flat.latches = machine.latches from rfl]
  generalize machine.latches.committed.decode = input
  split
  · exact ⟨⟨sound, rfl, rfl, rfl⟩, rfl⟩
  · split
    · exact ⟨⟨sound, rfl, rfl, rfl⟩, rfl⟩
    · cases Instruction.decode input.encoding input.pc with
      | error _ => exact ⟨⟨sound, rfl, rfl, rfl⟩, rfl⟩
      | ok inst =>
        have calls : (readOperands machine.flat.platform.hart inst
            { pc := input.pc, encoding := input.encoding, predictedTaken := input.predictedTaken
              }).instruction.isEcall =
              inst.isEcall := rfl
        simp only [calls]
        cases inst.isEcall
        · exact ⟨⟨sound, rfl, rfl, rfl⟩, rfl⟩
        · exact ⟨⟨sound, rfl, rfl, rfl⟩, rfl⟩

/-! ### Execute -/

theorem flush_simulates (target : Word) :
    Simulates (flush target) fun flat => .ok (flat.flush target) :=
  ((onCommitted_simulates _).bind ((onStaged_simulates _).bind
    ((count_simulates _ fun _ => rfl).bind (report_idles _)))).congr fun _ => rfl

theorem resolveBranch_simulates (branch : Latch) (taken : Bool) :
    Simulates (resolveBranch branch taken) fun flat => .ok (flat.resolveBranch branch taken) := by
  have learns : Simulates
      (modify fun machine => { machine with predictor := machine.predictor.update branch.pc taken })
      fun flat => .ok { flat with predictor := flat.predictor.update branch.pc taken } :=
    fun _ sound => ⟨⟨sound, rfl, rfl, rfl⟩, rfl⟩
  unfold resolveBranch FlatMachine.resolveBranch
  split
  · next right => exact ((count_simulates _ fun _ => rfl).bind learns).congr fun _ => rfl
  · next wrong =>
    exact ((flush_simulates _).bind ((count_simulates _ fun _ => rfl).bind learns)).congr
      fun _ => rfl

theorem redirect_simulates (output : Latch) :
    Simulates (redirect output) fun flat => .ok (flat.redirect output) := by
  simp only [redirect, FlatMachine.redirect]
  cases output.instruction.mnemonic.opcode
  case jalr => exact flush_simulates _
  case branch => exact resolveBranch_simulates _ _
  all_goals exact pure_idles

theorem forwardTo_simulates (destination : Option Nat) (value : Word) :
    Simulates (forwardTo destination value) fun flat => .ok (flat.forwardTo destination value) := by
  cases destination with
  | none => exact pure_idles
  | some number =>
    intro machine sound
    simp only [forwardTo, FlatMachine.forwardTo, ends_bind, ends_get, ends_set]
    rw [show machine.flat.latches = machine.latches from rfl]
    split
    · exact ⟨⟨sound, rfl, rfl, rfl⟩, rfl⟩
    · exact ⟨⟨sound, rfl, rfl, rfl⟩, rfl⟩

theorem holdForLoad_simulates (destination : Option Nat) :
    Simulates (holdForLoad destination) fun flat => .ok (flat.holdForLoad destination) := by
  cases destination with
  | none => exact pure_idles
  | some number =>
    intro machine sound
    simp only [holdForLoad, FlatMachine.holdForLoad, ends_bind, ends_get]
    rw [show machine.flat.latches = machine.latches from rfl]
    split
    · exact ⟨⟨sound, rfl, rfl, rfl⟩, rfl⟩
    · exact ⟨⟨sound, rfl, rfl, rfl⟩, rfl⟩

theorem execute_simulates : Simulates execute FlatMachine.execute := by
  intro machine sound
  simp only [execute, FlatMachine.execute, ends_bind, ends_get]
  rw [show machine.flat.latches = machine.latches from rfl]
  generalize machine.latches.committed.execute = input
  split
  · exact ⟨⟨sound, rfl, rfl, rfl⟩, rfl⟩
  · cases input.fault with
    | some fault => exact rfl
    | none =>
      have stalls : Simulates (do if input.instruction.isEcall then
          onCommitted fun row => (row.hold .fetch).hold .decode
          stageExecute Latch.empty) fun flat =>
          .ok (if input.instruction.isEcall then
            (flat.onCommitted fun row => (row.hold .fetch).hold .decode).onStaged
            ({ · with execute := Latch.empty })
          else flat) := by
        cases input.instruction.isEcall
        · exact pure_idles
        · exact fun _ sound => ⟨⟨sound, rfl, rfl, rfl⟩, rfl⟩
      exact ((raiseTicks_idles _).bind ((redirect_simulates (computeResults input)).bind
        ((report_idles _).bind ((onStaged_simulates _).bind ((forwardTo_simulates _ _).bind
          ((holdForLoad_simulates _).bind stalls)))))) machine sound

/-! ### Memory and write back -/

theorem onPlatform_ends {α : Type} {action : Platform.Action α} {ok : α → Platform → Prop}
    {failed : Failure → Platform → Prop} (ends : Ends action machine.platform ok failed) :
    Ends (onPlatform action) machine
      (fun a next => ∃ platform, next = { machine with platform } ∧ ok a platform)
      (fun failure next => failed failure next.platform) := by
  rw [onPlatform, ends_act]
  exact ends.mono (fun _ platform held => ⟨platform, rfl, held⟩) fun _ _ held => held

theorem transfer_ends (sound : machine.platform.space.Sound) (input : Latch) :
    Ends (transfer input) machine
      (fun value next => Follows machine next ∧ ∃ loaded, value = loaded.getD input.loaded ∧
        machine.flat.platform.memory.transfer input.instruction.mnemonic input.computed
        input.operandB =
          .ok (loaded, next.flat.platform.memory) ∧
        next.flat = machine.flat.withMemory next.flat.platform.memory)
      (fun failure _ => ∃ fault, failure = .memory fault ∧
        machine.flat.platform.memory.transfer input.instruction.mnemonic input.computed
        input.operandB =
          .error fault) := by
  simp only [transfer, FlatMemory.transfer, ends_ite]
  split
  · rw [ends_bind]
    refine (onPlatform_ends (Platform.read_ends sound _ _)).mono (fun result next read => ?_)
      fun failure _ refused => ?_
    · obtain ⟨platform, rfl, still, value⟩ := read
      have flat : ({ machine with platform } : Machine).flat = machine.flat :=
        congrArg (FlatMachine.mk · machine.predictor machine.latches) still.flat
      have value' : machine.flat.platform.memory.read input.computed.toNat
          input.instruction.mnemonic.accessSize = .ok result.1 := value
      refine ⟨⟨still.sound, rfl, rfl, rfl⟩, some (input.instruction.mnemonic.extendLoaded result.1),
        rfl, ?_, ?_⟩
      · rw [value', ok_bind, pure_eq_ok]
        exact congrArg (fun flat : FlatMachine => Except.ok (_, flat.platform.memory)) flat.symm
      · exact flat.trans (congrArg
          (fun flat : FlatMachine => machine.flat.withMemory flat.platform.memory) flat.symm)
    · obtain ⟨fault, rfl, refused⟩ := refused
      exact ⟨fault, rfl, congrArg (· >>= _) refused⟩
  · split
    · rw [ends_bind]
      refine (onPlatform_ends (Platform.write_ends sound _ _ _)).mono
        (fun cycles next written => ?_)
        fun failure _ refused => ?_
      · obtain ⟨platform, rfl, sound', flat, memory⟩ := written
        refine ⟨⟨sound', rfl, rfl, rfl⟩, none, rfl, congrArg (· >>= _) memory, ?_⟩
        exact congrArg (FlatMachine.mk · machine.predictor machine.latches) flat
      · obtain ⟨fault, rfl, refused⟩ := refused
        exact ⟨fault, rfl, congrArg (· >>= _) refused⟩
    · exact ⟨.refl sound, none, rfl, rfl, rfl⟩

theorem stageLoaded_simulates (input : Latch) (loaded : Word) :
    Simulates (do
      onStaged ({ · with writeback := { input with loaded } })
      forwardTo input.computedTo input.computed
      forwardTo input.loadedTo loaded
      if input.instruction.isEcall then
        onCommitted fun row => ((row.hold .fetch).hold .decode).hold .execute) fun flat =>
      .ok (flat.stageLoaded input loaded) := by
  have holds : Simulates (do if input.instruction.isEcall then
      onCommitted fun row => ((row.hold .fetch).hold .decode).hold .execute) fun flat =>
      .ok (if input.instruction.isEcall then
        flat.onCommitted fun row => ((row.hold .fetch).hold .decode).hold .execute else flat) := by
    cases input.instruction.isEcall
    · exact pure_idles
    · exact fun _ sound => ⟨⟨sound, rfl, rfl, rfl⟩, rfl⟩
  exact (onStaged_simulates _).bind
    ((forwardTo_simulates _ _).bind ((forwardTo_simulates _ _).bind holds))

theorem accessMemory_simulates : Simulates accessMemory FlatMachine.accessMemory := by
  intro machine sound
  simp only [accessMemory, FlatMachine.accessMemory, ends_bind, ends_get]
  rw [show machine.flat.latches = machine.latches from rfl]
  generalize machine.latches.committed.memory = input
  split
  · exact ⟨⟨sound, rfl, rfl, rfl⟩, rfl⟩
  · rw [ends_bind]
    refine (transfer_ends sound input).mono
      (fun value next transferred => ?_) fun failure _ refused => ?_
    · obtain ⟨follows, loaded, rfl, memory, flat⟩ := transferred
      rw [memory, mapError_ok, ok_bind, pure_eq_ok]
      dsimp only
      rw [← flat]
      exact (stageLoaded_simulates input (loaded.getD input.loaded) next follows.sound).mono
        (fun _ last ends => ⟨follows.trans ends.1, ends.2⟩) fun failure _ fails => fails
    · obtain ⟨fault, rfl, refused⟩ := refused
      rw [refused, mapError_error, error_bind]

theorem writeResult_simulates (destination : Option Nat) (value : Word) :
    Simulates (writeResult destination value) (·.writeResult destination value) := by
  cases destination with
  | none => exact pure_idles
  | some number =>
    simp only [writeResult, FlatMachine.writeResult]
    cases Reg.ofNumber? number with
    | none => exact fun _ _ => rfl
    | some r =>
      exact (onHart_simulates (·.setRegister r value) fun _ => Hart.untimed_setRegister).bind
        (forwardTo_simulates (some number) value)

theorem environmentCall_simulates :
    Simulates (do
      let cycles ← onPlatform Platform.environmentCall
      raiseTicks cycles) fun flat => do
      return { flat with platform := ← flat.platform.environmentCall } := by
  intro machine sound
  rw [ends_bind]
  refine (onPlatform_ends (Platform.environmentCall_simulates machine.platform sound)).mono
    (fun cycles next served => ?_) fun failure _ refused => ?_
  · obtain ⟨platform, rfl, sound', flat⟩ := served
    have effect : machine.flat.platform.environmentCall = .ok platform.flat := flat
    exact ⟨⟨sound', rfl, rfl, rfl⟩, congrArg
      (· >>= fun platform => pure { machine.flat with platform }) effect⟩
  · have effect : machine.flat.platform.environmentCall = .error failure := refused
    exact congrArg (· >>= fun platform => pure { machine.flat with platform }) effect

theorem writeBack_simulates : Simulates writeBack FlatMachine.writeBack := by
  intro machine sound
  simp only [writeBack, FlatMachine.writeBack, ends_bind, ends_get]
  rw [show machine.flat.latches = machine.latches from rfl]
  generalize machine.latches.committed.writeback = input
  cases input.isLive
  · exact ⟨⟨sound, rfl, rfl, rfl⟩, rfl⟩
  · cases input.instruction.isEcall
    · exact ((writeResult_simulates input.loadedTo input.loaded).bind
        ((writeResult_simulates input.computedTo input.computed).bind
          (count_simulates _ fun _ => rfl)))
          machine sound
    · exact ((count_simulates
        (fun c => { c with environmentCalls := c.environmentCalls + 1 }) fun _ => rfl).bind
        environmentCall_simulates) machine sound

/-! ### Cycles -/

theorem endCycle_simulates : Simulates endCycle fun flat => .ok flat.endCycle := by
  intro machine sound
  simp only [endCycle, commit, FlatMachine.endCycle, ends_bind, ends_get, ends_set, ends_pure]
  rw [show machine.flat.latches = machine.latches from rfl,
    show machine.flat.platform.hart.pc = machine.platform.hart.pc from rfl]
  cases (machine.latches.commit machine.platform.hart.pc).1
  · exact ⟨⟨sound, rfl, rfl, rfl⟩, rfl⟩
  · exact ⟨⟨sound, rfl, rfl, rfl⟩, rfl⟩

/-- A cycle of a prepared machine acts as that of its flat machine. -/
theorem step_ends (sound : machine.platform.space.Sound) (ready : machine.ready = true) :
    Ends step machine
      (fun _ next => Follows machine next ∧ machine.flat.cycle = .ok next.flat)
      (fun failure _ => machine.flat.cycle = .error failure) := by
  have restart : Idles (onHart ({ · with cycleTicks := 1 })) :=
    fun _ sound => ⟨⟨sound, rfl, rfl, rfl⟩, rfl⟩
  have stages := restart.bind (fetch_simulates.bind (decode_simulates.bind (execute_simulates.bind
    (accessMemory_simulates.bind (writeBack_simulates.bind endCycle_simulates)))))
  unfold step
  rw [ends_bind, ends_get]
  simp only [ready, Bool.not_true, Bool.false_eq_true, if_false]
  exact stages machine sound

/-- As many cycles as given. -/
def steps : (count : Nat) → Action Unit
  | 0 => pure ()
  | count + 1 => do
    step
    steps count

/-- Cycles of a prepared machine act as those of its flat machine. -/
theorem steps_ends (sound : machine.platform.space.Sound) (ready : machine.ready = true)
    (count : Nat) :
    Ends (steps count) machine
      (fun _ next => Follows machine next ∧ machine.flat.cycles count = .ok next.flat)
      (fun failure _ => machine.flat.cycles count = .error failure) := by
  induction count generalizing machine with
  | zero => exact ⟨.refl sound, rfl⟩
  | succ count ih =>
    simp only [steps, FlatMachine.cycles, ends_bind]
    refine (step_ends sound ready).mono
      (fun _ next ends => ?_) fun failure _ fails => by rw [fails, error_bind]
    obtain ⟨follows, flat⟩ := ends
    rw [flat, ok_bind]
    exact (ih follows.sound (follows.ready.trans ready)).mono
      (fun _ _ later => ⟨follows.trans later.1, later.2⟩)
      fun _ _ fails => fails

/-- Runs without a limit on cycles act as those of the flat machine. -/
theorem runFor_ends (sound : machine.platform.space.Sound) (ready : machine.ready = true)
    (unlimited : machine.cycleLimit = none) (fuel : Nat) :
    Ends (runFor fuel) machine
      (fun code next => Follows machine next ∧ machine.flat.runCycles fuel = .ok (code, next.flat))
      (fun failure _ => machine.flat.runCycles fuel = .error failure) := by
  induction fuel generalizing machine with
  | zero => exact ⟨.refl sound, rfl⟩
  | succ fuel ih =>
    simp only [runFor, runStep, FlatMachine.runCycles, ends_bind, ends_get, unlimited]
    refine (step_ends sound ready).mono
      (fun _ next ends => ?_) fun failure _ fails => by rw [fails, error_bind]
    obtain ⟨follows, flat⟩ := ends
    rw [flat, ok_bind, show next.flat.platform.hart.exitCode = next.platform.hart.exitCode from rfl]
    simp only [ends_pure]
    cases next.platform.hart.exitCode with
    | some code => exact ⟨follows, rfl⟩
    | none =>
      exact (ih follows.sound (follows.ready.trans ready) (follows.cycleLimit.trans unlimited)).mono
        (fun _ _ later => ⟨follows.trans later.1, later.2⟩) fun _ _ fails => fails

end Machine

end FiveStage
