import FiveStage.Proofs.Pipeline.Refinement

/-!
# Which failure is reported

A word that is no instruction is raised in the third stage, a load or a store fails in the fourth,
and an environment call in the fifth. A machine reports the failure with which the sequential
platform stops, except where that is the failure of a load or a store and the word behind it is no
instruction: that word is raised first.

## Main definitions

* `FlatPlatform.Reported`: the failure that is reported for the one of the sequential platform
* `Machine.Fails`: the machine comes to an end with a failure

## Main results

* `FlatMachine.OnTrack.runCycles_fails`: a machine fails where the platform that it follows does
* `Machine.fails_refines`: a launched machine reports the failure of its platform, or of the word
  behind
* `Machine.fails_out_of_order`: these are not the same
-/

namespace FiveStage

namespace FlatPlatform

variable {start p last : FlatPlatform} {failure reported : Failure}

/-- What is reported if the run from the start fails in the end: the failure itself, but for a load
or a store the failure of the word behind it, if that was none as it was in memory at most two
instructions before. -/
structure Reported (start last : FlatPlatform) (failure reported : Failure) : Prop where
  inOrder : ¬ last.Accesses → reported = failure
  overtaken : last.Accesses → ∃ earlier, start.Reaches earlier ∧ earlier.ReachesWithin 2 last ∧
    reported = (earlier.memory.refusal? (last.hart.pc + 4)).getD failure

theorem Reported.refl (other : ¬ p.Accesses) : start.Reported p failure failure :=
  ⟨fun _ => rfl, fun access => absurd access other⟩

theorem accesses_iff {predictor : Predictor} (fine : (p.issued predictor).fault = none) :
    p.Accesses ↔ (p.issued predictor).instruction.mnemonic.isAccess = true := by
  obtain ⟨inst, predictedTaken, next, -, -, -, issued⟩ := issued_of_fine fine
  rw [issued]
  constructor
  · rintro ⟨found, there, access⟩
    obtain rfl : found = inst := Except.ok.inj (there.symm.trans next)
    exact access
  · exact fun access => ⟨inst, next, access⟩

theorem not_accesses_of_refusal (refused : p.memory.refusal? p.hart.pc = some failure) :
    ¬ p.Accesses := by
  rintro ⟨inst, next, -⟩
  unfold FlatMemory.refusal? at refused
  obtain ⟨e, here, decoded⟩ := bind_eq_ok_iff.mp next
  rw [mapError_eq_ok_iff.mp here] at refused
  simp only [decoded] at refused
  cases refused

end FlatPlatform

namespace FlatMachine

variable {m : FlatMachine} {p start : FlatPlatform} {failure reported : Failure}

/-- Where the cycle of a machine fails, the platform stops now or after one more instruction. -/
theorem OnTrack.executeNext_of_failed (onTrack : OnTrack start p m) (failed : Failed p m reported) :
    ∃ q failure, (p = q ∨ p.Steps q) ∧ q.hart.exitCode = none ∧ q.executeNext = .error failure ∧
      start.Reported q failure reported := by
  obtain ⟨-, running, tracks, trailing⟩ := onTrack
  cases failed with
  | refused q past running' refused =>
    exact ⟨q, reported, eq_or_steps_of_past running past, running',
      FlatPlatform.executeNext_of_refusal refused,
      .refl (FlatPlatform.not_accesses_of_refusal refused)⟩
  | call ecall fails =>
    obtain ⟨predictor, fine, call⟩ := tracks.calling ecall
    refine ⟨p, reported, .inl rfl, running, fails, .refl fun access => ?_⟩
    cases (not_isEcall_of_isAccess ((FlatPlatform.accesses_iff fine).mp access)).symm.trans call
  | access moving fails behind =>
    obtain ⟨predictor, fine, output⟩ := tracks.memory moving
    refine ⟨p, reported, .inl rfl, running, fails, ⟨fun _ => rfl, fun access => ?_⟩⟩
    obtain ⟨earlier, reached, within, raised⟩ := trailing.execute
      (by rw [output]; exact (FlatPlatform.accesses_iff fine).mp access)
    have fine' : m.row.execute.raised? = none := by
      rcases tracks.settled.execute with live | empty
      · exact behind live
      · rw [empty]
        rfl
    exact ⟨earlier, reached, within, by rw [← raised, fine', Option.getD_none]⟩
  | overtaken first moving fails live raised =>
    obtain ⟨predictor, fine, output⟩ := tracks.memory moving
    have access : p.Accesses := by
      obtain ⟨inst, predictedTaken, next, -, -, -, issued⟩ := FlatPlatform.issued_of_fine fine
      have calm := (tracks.settled.calm_of_execute live).1
      rw [output, issued] at calm
      exact FlatPlatform.accesses_of_error fails next calm
    refine ⟨p, first, .inl rfl, running, fails, ⟨fun other => absurd access other, fun _ => ?_⟩⟩
    obtain ⟨earlier, reached, within, same⟩ := trailing.execute
      (by rw [output]; exact (FlatPlatform.accesses_iff fine).mp access)
    exact ⟨earlier, reached, within, by rw [← same, raised, Option.getD_some]⟩

/-- A machine fails where the platform that it follows does. -/
theorem OnTrack.runCycles_fails (onTrack : OnTrack start p m) (early : start.FetchesEarly)
    {fuel : Nat} (run : p.runInstructions fuel = .error failure) :
    ∃ last reported cycles, start.Reaches last ∧ last.hart.exitCode = none ∧
      last.executeNext = .error failure ∧
      start.Reported last failure reported ∧ m.runCycles cycles = .error reported := by
  induction fuel generalizing p m with
  | zero => cases run
  | succ fuel ih =>
    obtain ⟨m₁, goesOn, onTrack₁, turn⟩ := onTrack.proceed early
    suffices ends : ∃ last reported cycles, start.Reaches last ∧ last.hart.exitCode = none ∧
        last.executeNext = .error failure ∧ start.Reported last failure reported ∧
        m₁.runCycles cycles = .error reported by
      obtain ⟨last, reported, cycles, reached, running, fails, same, runs⟩ := ends
      obtain ⟨more, longer⟩ := goesOn.runCycles cycles
      exact ⟨last, reported, more, reached, running, fails, same, longer.trans runs⟩
    unfold FlatPlatform.runInstructions at run
    cases turn with
    | goesOn m' q goes step onTrack' =>
      rw [step.2, ok_bind, onTrack'.running] at run
      obtain ⟨last, reported, cycles, reached, running, fails, same, runs⟩ := ih onTrack' run
      refine ⟨last, reported, cycles + 1, reached, running, fails, same, ?_⟩
      simp only [runCycles, goes.1, ok_bind, goes.2, runs]
    | exits m' q cycle step exits =>
      obtain ⟨found, exits⟩ := Option.ne_none_iff_exists'.mp exits
      rw [step.2, ok_bind, exits] at run
      cases run
    | fails reported cycle failed =>
      have runs : m₁.runCycles 1 = .error reported := by simp only [runCycles, cycle, error_bind]
      obtain ⟨q, first, near, running, fails, same⟩ := onTrack₁.executeNext_of_failed failed
      -- the machine may report what comes right behind the instruction of the platform
      rcases near with rfl | step
      · rw [fails] at run
        cases run
        exact ⟨p, reported, 1, onTrack₁.reached, running, fails, same, runs⟩
      · rw [step.2, ok_bind, running] at run
        cases fuel with
        | zero => cases run
        | succ fuel =>
          unfold FlatPlatform.runInstructions at run
          rw [fails] at run
          cases run
          exact ⟨q, reported, 1, onTrack₁.reached.tail step, running, fails, same, runs⟩

/-- A machine fails in one way only. -/
theorem runCycles_unique {cycles cycles' : Nat} {failure' : Failure}
    (run : m.runCycles cycles = .error failure)
    (run' : m.runCycles cycles' = .error failure') : failure = failure' := by
  induction cycles generalizing m cycles' with
  | zero => cases run
  | succ cycles ih =>
    cases cycles' with
    | zero => cases run'
    | succ cycles' =>
      unfold runCycles at run run'
      cases cycle : m.cycle with
      | error first =>
        rw [cycle] at run run'
        exact Except.error.inj (run.symm.trans run')
      | ok next =>
        rw [cycle, ok_bind] at run run'
        cases exited : next.platform.hart.exitCode with
        | some code =>
          rw [exited] at run
          cases run
        | none =>
          rw [exited] at run run'
          exact ih run run'

end FlatMachine

namespace Machine

variable {machine : Machine} {settings : Settings} {heuristic : Heuristic} {host : Host} {log : Log}
  {image : List Load} {entry : Word} {failure : Failure}

/-- The machine comes to an end with a failure. -/
def Fails (machine : Machine) (failure : Failure) : Prop :=
  ∃ fuel last, (runFor fuel).run machine = .error failure last

theorem Ready.fails_iff (ready : machine.Ready) :
    machine.Fails failure ↔ ∃ cycles, machine.flat.runCycles cycles = .error failure := by
  have ends := runFor_ends ready.sound ready.ready ready.unlimited
  constructor
  · rintro ⟨fuel, last, run⟩
    exact ⟨fuel, (ends fuel).of_error run⟩
  · rintro ⟨cycles, run⟩
    cases run' : (runFor cycles).run machine with
    | ok code next => cases run.symm.trans ((ends cycles).of_ok run').2
    | error found next =>
      obtain rfl : failure = found :=
        Except.error.inj (run.symm.trans ((ends cycles).of_error run'))
      exact ⟨cycles, next, run'⟩

/-- If the sequential platform of a launched machine stops with a failure, the machine stops with
that failure too, or else with that of the word behind the load or the store that fails. -/
theorem fails_refines (launched : launch settings heuristic host log image entry = .ok machine)
    (undisturbed : machine.platform.flat.Undisturbed)
    (fails : machine.platform.flat.Fails failure) :
    ∃ last reported, machine.platform.flat.Reaches last ∧ last.hart.exitCode = none ∧
      last.executeNext = .error failure ∧ machine.platform.flat.Reported last failure reported ∧
      ∀ found, machine.Fails found ↔ found = reported := by
  have ready := ready_of_launch launched
  obtain ⟨fuel, run⟩ := fails
  obtain ⟨last, reported, cycles, reached, running, fails, same, run'⟩ :=
    ready.onTrack.runCycles_fails undisturbed.fetchesEarly run
  refine ⟨last, reported, reached, running, fails, same, fun found => ⟨fun fails' => ?_, ?_⟩⟩
  · obtain ⟨cycles', run''⟩ := ready.fails_iff.mp fails'
    exact FlatMachine.runCycles_unique run'' run'
  · rintro rfl
    exact ready.fails_iff.mpr ⟨cycles, run'⟩

/-- The machine stops with the failure of its platform where the first word is no instruction. -/
theorem fails_refines_illegal : ∃ machine,
    launch smallSettings .bimodal {} {} [.bytes 0x1000 [] 4] 0x1000 = .ok machine ∧
      machine.platform.flat.Undisturbed ∧
      machine.platform.flat.Fails (.illegalInstruction 0 0x1000) ∧
      machine.Fails (.illegalInstruction 0 0x1000) := by
  have checked : (launch smallSettings .bimodal {} {} [.bytes 0x1000 [] 4] 0x1000).toOption.any
      (fun machine => machine.platform.flat.leavesCode 1 [] &&
        (failsWith (.illegalInstruction 0 0x1000) machine.platform.flat.nextInstruction &&
        failsWith (.illegalInstruction 0 0x1000) (machine.platform.flat.runInstructions 1))) =
          true := by
    decide +kernel
  obtain ⟨machine, launched, checked⟩ := exists_ok_of_any checked
  obtain ⟨leaves, checked⟩ := Bool.and_eq_true_iff.mp checked
  obtain ⟨next, run⟩ := Bool.and_eq_true_iff.mp checked
  have next := eq_error_of_failsWith next
  have fails : machine.platform.flat.Fails (.illegalInstruction 0 0x1000) :=
    ⟨1, eq_error_of_failsWith run⟩
  have undisturbed := (FlatPlatform.leavesCode_sound leaves).2
  obtain ⟨last, reported, reached, -, -, same, only⟩ := fails_refines launched undisturbed fails
  have here : machine.platform.flat = last := by
    refine reached.cases_head.resolve_right ?_
    rintro ⟨q, step, -⟩
    obtain ⟨inst, there, -⟩ := bind_eq_ok_iff.mp step.2
    cases next.symm.trans there
  have other : ¬ last.Accesses := by
    rintro ⟨inst, there, -⟩
    rw [← here] at there
    cases next.symm.trans there
  exact ⟨machine, launched, undisturbed, fails, (only _).mpr (same.inOrder other).symm⟩

/-- A program that loads from a page that is not mapped, with a word behind that is no instruction.
-/
def loadAndStop : Bytes := [0x00003503, 0x00000000].flatMap (Bytes.ofNat 4)

/-- A machine does not always stop with the failure of its platform. -/
theorem fails_out_of_order :
    ¬ ∀ (settings : Settings) (heuristic : Heuristic) (host : Host) (log : Log)
    (image : List Load) (entry : Word) (machine : Machine) (failure : Failure),
    launch settings heuristic host log image entry = .ok machine →
      machine.platform.flat.Undisturbed →
      machine.platform.flat.Fails failure → machine.Fails failure := by
  intro inOrder
  have checked :
    (launch smallSettings .bimodal {} {} [.bytes 0x1000 loadAndStop 8] 0x1000).toOption.any
      (fun machine => machine.platform.flat.leavesCode 1 [] &&
        (failsWith (.memory (.unmapped 0)) (machine.platform.flat.runInstructions 1) &&
        failsWith (.illegalInstruction 0 0x1004) (machine.flat.runCycles 4))) = true := by
    decide +kernel
  obtain ⟨machine, launched, checked⟩ := exists_ok_of_any checked
  obtain ⟨leaves, checked⟩ := Bool.and_eq_true_iff.mp checked
  obtain ⟨run, run'⟩ := Bool.and_eq_true_iff.mp checked
  have undisturbed := (FlatPlatform.leavesCode_sound leaves).2
  have fails := inOrder _ _ _ _ _ _ machine _ launched undisturbed ⟨1, eq_error_of_failsWith run⟩
  obtain ⟨cycles, first⟩ := (ready_of_launch launched).fails_iff.mp fails
  cases FlatMachine.runCycles_unique first (eq_error_of_failsWith run')

end Machine

end FiveStage
