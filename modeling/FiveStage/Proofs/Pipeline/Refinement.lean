import FiveStage.Proofs.Pipeline.Timing
import FiveStage.Proofs.Pipeline.Trailing

/-!
# The pipeline refines the sequential platform

A prepared machine starts on the track of its flat platform. As long as no store overwrites an
instruction that is fetched later, it stays on the track of the platforms of the run, so it exits if
the run does, with the same outcome.

## Main definitions

* `Machine.launch`: a machine in which a program has been placed and prepared
* `Machine.Exits`: the machine comes to an end with an exit code
* `Machine.SameOutcome`: a machine and a platform that a program leaves alike

## Main results

* `FlatMachine.OnTrack.runCycles_exits`, `FlatMachine.OnTrack.runInstructions_exits`: the machine
  exits where the platform does, and the other way round
* `Machine.exits_refines`: a launched machine and its platform exit alike
-/

namespace FiveStage

namespace FlatMachine

variable {m m' : FlatMachine} {p start final : FlatPlatform} {code : Int}

/-! ### Runs -/

/-- A machine that follows a platform exits if the platform does. -/
theorem OnTrack.runCycles_exits (onTrack : OnTrack start p m) (early : start.FetchesEarly)
    {fuel : Nat} (run : p.runInstructions fuel = .ok (some code, final)) :
    ∃ cycles last, m.runCycles cycles = .ok (some code, last) ∧
      last.platform.essential = final.essential := by
  induction fuel generalizing p m with
  | zero => cases run
  | succ fuel ih =>
    obtain ⟨next, executed, rest⟩ := bind_eq_ok_iff.mp run
    obtain ⟨m₁, goesOn, onTrack₁, turn⟩ := onTrack.proceed early
    -- it is enough to follow the platform from where the machine has caught up
    suffices ends : ∃ cycles last, m₁.runCycles cycles = .ok (some code, last) ∧
        last.platform.essential = final.essential by
      obtain ⟨cycles, last, runs, same⟩ := ends
      obtain ⟨more, longer⟩ := goesOn.runCycles cycles
      exact ⟨more, last, longer.trans runs, same⟩
    cases turn with
    | goesOn m' q goes step onTrack' =>
      obtain rfl : next = q := Except.ok.inj (executed.symm.trans step.2)
      rw [onTrack'.running] at rest
      obtain ⟨cycles, last, runs, same⟩ := ih onTrack' rest
      refine ⟨cycles + 1, last, ?_, same⟩
      simp only [runCycles, goes.1, ok_bind, goes.2, runs]
    | exits m' q cycle step exits essential =>
      obtain rfl : next = q := Except.ok.inj (executed.symm.trans step.2)
      obtain ⟨found, exits⟩ := Option.ne_none_iff_exists'.mp exits
      rw [exits] at rest
      cases rest
      have exits' : m'.platform.hart.exitCode = some code :=
        (congrArg (·.hart.exitCode) essential).trans exits
      refine ⟨1, m', ?_, essential⟩
      simp only [runCycles, cycle, ok_bind, exits', pure_eq_ok]
    | fails failure cycle failed =>
      cases failed with
      | call _ fails => cases executed.symm.trans fails
      | access _ fails => cases executed.symm.trans fails
      | overtaken _ _ fails => cases executed.symm.trans fails
      | refused q past running refused =>
        have fails := FlatPlatform.executeNext_of_refusal refused
        -- what cannot be fetched or decoded stops the platform before it could exit
        rcases eq_or_steps_of_past onTrack₁.running past with rfl | step
        · cases executed.symm.trans fails
        · obtain rfl : next = q := Except.ok.inj (executed.symm.trans step.2)
          rw [running] at rest
          cases fuel with
          | zero => cases rest
          | succ fuel =>
            simp only [FlatPlatform.runInstructions, fails, error_bind] at rest
            cases rest

/-- A platform exits if a machine that follows it does. -/
theorem OnTrack.runInstructions_exits (onTrack : OnTrack start p m) (early : start.FetchesEarly)
    {cycles : Nat} (run : m.runCycles cycles = .ok (some code, m')) :
    ∃ fuel final, p.runInstructions fuel = .ok (some code, final) ∧
      m'.platform.essential = final.essential := by
  induction cycles generalizing p m with
  | zero => cases run
  | succ cycles ih =>
    obtain ⟨next, cycle, rest⟩ := bind_eq_ok_iff.mp run
    rcases onTrack.turn early with turn | ⟨m₁, goes, onTrack', -⟩
    · cases turn with
      | fails failure failed => cases cycle.symm.trans failed
      | goesOn m₁ q goes step onTrack' =>
        obtain rfl : next = m₁ := Except.ok.inj (cycle.symm.trans goes.1)
        rw [goes.2] at rest
        obtain ⟨fuel, final, runs, same⟩ := ih onTrack' rest
        refine ⟨fuel + 1, final, ?_, same⟩
        simp only [FlatPlatform.runInstructions, step.2, ok_bind, onTrack'.running, runs]
      | exits m₁ q done step exits essential =>
        obtain rfl : next = m₁ := Except.ok.inj (cycle.symm.trans done)
        obtain ⟨found, exits⟩ := Option.ne_none_iff_exists'.mp exits
        have exits' : next.platform.hart.exitCode = some found :=
          (congrArg (·.hart.exitCode) essential).trans exits
        rw [exits'] at rest
        cases rest
        refine ⟨1, q, ?_, essential⟩
        simp only [FlatPlatform.runInstructions, step.2, ok_bind, exits, pure_eq_ok]
    · obtain rfl : next = m₁ := Except.ok.inj (cycle.symm.trans goes.1)
      rw [goes.2] at rest
      exact ih onTrack' rest

end FlatMachine

namespace Machine

variable {machine last : Machine} {settings : Settings} {heuristic : Heuristic} {host : Host}
    {log : Log}
  {image : List Load} {entry : Word}

/-- A new machine in whose memory a program has been placed, prepared at an entry. -/
def launch (settings : Settings) (heuristic : Heuristic) (host : Host) (log : Log)
    (image : List Load) (entry : Word) : Except Failure Machine := do
  let new ← (ofSettings settings heuristic host log).mapError .memory
  match (do place image; prepare entry : Action Unit).run new with
  | .ok _ machine => return machine
  | .error failure _ => throw failure

/-- The machine comes to an end with an exit code. -/
def Exits (machine : Machine) (code : Int) (last : Machine) : Prop :=
  ∃ fuel, (runFor fuel).run machine = .ok (some code) last

/-- A program has left the same behind in a machine and on a platform. -/
structure SameOutcome (last : Machine) (final : FlatPlatform) : Prop where
  exitCode : last.platform.hart.exitCode = final.hart.exitCode
  registers : last.platform.hart.registers = final.hart.registers
  host : last.platform.host = final.host
  memory : ∀ address, last.platform.space.byteSeen address = final.memory.read address 1
  retired : last.platform.hart.counters.retired = final.hart.counters.retired
  environmentCalls : last.platform.hart.counters.environmentCalls =
    final.hart.counters.environmentCalls

theorem sameOutcome_of_essential (sound : last.platform.space.Sound) {final : FlatPlatform}
    (essential : last.flat.platform.essential = final.essential) : last.SameOutcome final where
  exitCode := congrArg (·.hart.exitCode) essential
  registers := congrArg (·.hart.registers) essential
  host := congrArg (·.host) essential
  memory address := by
    rw [AddressSpace.byteSeen_eq_flat sound]
    exact congrArg (·.memory.read address 1) essential
  retired := congrArg (·.hart.counters.retired) essential
  environmentCalls := congrArg (·.hart.counters.environmentCalls) essential

/-- What is known of a prepared machine. -/
structure Ready (machine : Machine) : Prop where
  sound : machine.platform.space.Sound
  ready : machine.ready = true
  unlimited : machine.cycleLimit = none
  onTrack : machine.flat.OnTrack machine.platform.flat machine.platform.flat

theorem place_ends (image : List Load) :
    Ends (place image) machine
      (fun _ next => next.cycleLimit = machine.cycleLimit) fun _ _ => True := by
  induction image generalizing machine with
  | nil => rfl
  | cons load rest ih =>
    cases load with
    | bytes address bytes memorySize =>
      simp only [place, loadSegment, onPlatform, ends_bind, ends_act]
      exact (ends_somehow _ _).mono (fun _ _ _ => ih) fun _ _ _ => trivial
    | executable executable =>
      simp only [place, onPlatform, ends_bind, ends_discard, ends_act]
      exact (ends_somehow _ _).mono (fun _ _ _ => ih) fun _ _ _ => trivial

/-- A prepared machine stands at its entry, with nothing in its pipeline. -/
theorem prepare_ends (entry : Word) :
    Ends (prepare entry) machine
      (fun _ next => next.cycleLimit = machine.cycleLimit ∧ next.latches = Latches.start entry ∧
        next.platform.hart = Hart.start entry (BitVec.ofNat 64 stackTop)) fun _ _ => True := by
  simp only [prepare, onPlatform, ends_bind, ends_act]
  exact (ends_somehow _ _).mono (fun _ _ _ => ⟨rfl, rfl, rfl⟩) fun _ _ _ => trivial

/-- A launched machine was new, and then the program was placed and prepared in it. -/
theorem prepared_of_launch
    (launched : launch settings heuristic host log image entry = .ok machine) :
    ∃ new, ofSettings settings heuristic host log = .ok new ∧
      (do place image; prepare entry : Action Unit).run new = .ok () machine := by
  obtain ⟨new, made, launched⟩ := bind_eq_ok_iff.mp launched
  refine ⟨new, mapError_eq_ok_iff.mp made, ?_⟩
  cases run : (do place image; prepare entry : Action Unit).run new with
  | ok _ next =>
    simp only [run] at launched
    cases launched
    rfl
  | error failure next =>
    simp only [run] at launched
    cases launched

/-- A launched machine stands at its entry, with nothing in its pipeline and nothing counted. -/
theorem start_of_launch (launched : launch settings heuristic host log image entry = .ok machine) :
    machine.cycleLimit = none ∧ machine.latches = Latches.start entry ∧
      machine.platform.hart = Hart.start entry (BitVec.ofNat 64 stackTop) := by
  obtain ⟨new, made, run⟩ := prepared_of_launch launched
  have unlimited : new.cycleLimit = none := by
    obtain ⟨space, -, made⟩ := bind_eq_ok_iff.mp made
    cases made
    rfl
  have prepared : Ends (do place image; prepare entry : Action Unit) new
      (fun _ next => next.cycleLimit = new.cycleLimit ∧ next.latches = Latches.start entry ∧
        next.platform.hart = Hart.start entry (BitVec.ofNat 64 stackTop)) fun _ _ => True := by
    rw [ends_bind]
    refine (place_ends image).mono (fun _ loaded same => ?_) fun _ _ _ => trivial
    rw [← same]
    exact prepare_ends entry
  obtain ⟨limit, latches, hart⟩ := prepared.of_ok run
  exact ⟨limit.trans unlimited, latches, hart⟩

theorem ready_of_launch (launched : launch settings heuristic host log image entry = .ok machine) :
    machine.Ready := by
  obtain ⟨new, made, run⟩ := prepared_of_launch launched
  obtain ⟨unlimited, latches, hart⟩ := start_of_launch launched
  have twins := twins_of_ofSettings made made
  have loading : EndAlike (fun next next' => next.Twins next' ∧ next.ready = true)
      ((do place image; prepare entry : Action Unit).run new)
      ((do place image; prepare entry : Action Unit).run new) :=
    (place_alike twins image).bind fun _ _ _ twins' => prepare_alike twins' entry
  rw [run] at loading
  obtain ⟨-, twins', ready⟩ := loading
  have place : machine.platform.flat.hart.pc = entry := congrArg Hart.pc hart
  have running : machine.platform.flat.hart.exitCode = none := congrArg Hart.exitCode hart
  have tracks := FlatMachine.tracks_start machine.predictor place
  rw [← latches] at tracks
  refine ⟨twins'.platforms.spaces.unused.sound, ready, unlimited, .refl, running, tracks, ?_⟩
  have row : machine.flat.row = (Latches.start entry).committed :=
    congrArg Latches.committed latches
  exact FlatMachine.trailing_of_empty (by rw [row]; rfl) (by rw [row]; rfl)

/-- What a launched machine reaches, whatever its limit on cycles is, its flat machine reaches. -/
theorem cycles_of_steps {start : Machine}
    (launched : launch settings heuristic host log image entry = .ok start) {limit : Option Nat}
    {count : Nat} (run : (steps count).run { start with cycleLimit := limit } = .ok () machine) :
    machine.platform.space.Sound ∧ machine.ready = true ∧
      start.flat.cycles count = .ok machine.flat := by
  obtain ⟨sound, ready, -⟩ := ready_of_launch launched
  have ends := @steps_ends { start with cycleLimit := limit } sound ready count
  obtain ⟨follows, cycles⟩ := ends.of_ok run
  exact ⟨follows.sound, follows.ready.trans ready, cycles⟩

/-- A machine that has been launched exits if and only if the sequential platform does, if no store
of that run overwrites an instruction that is fetched later, and then both have the same outcome. -/
theorem exits_refines (launched : launch settings heuristic host log image entry = .ok machine)
    (undisturbed : machine.platform.flat.Undisturbed) :
    (∀ code, (∃ last, machine.Exits code last) ↔ ∃ final, machine.platform.flat.Exits code final) ∧
      ∀ code last code' final, machine.Exits code last → machine.platform.flat.Exits code' final →
        code = code' ∧ last.SameOutcome final := by
  obtain ⟨sound, ready, unlimited, onTrack⟩ := ready_of_launch launched
  have early := undisturbed.fetchesEarly
  have forth (code : Int) (last : Machine) (exits : machine.Exits code last) :
      ∃ final, machine.platform.flat.Exits code final ∧ last.SameOutcome final := by
    obtain ⟨fuel, run⟩ := exits
    obtain ⟨follows, flat⟩ := (runFor_ends sound ready unlimited fuel).of_ok run
    obtain ⟨fuel', final, run', same⟩ := onTrack.runInstructions_exits early flat
    exact ⟨final, ⟨fuel', run'⟩, sameOutcome_of_essential follows.sound same⟩
  have back (code : Int) (final : FlatPlatform) (exits : machine.platform.flat.Exits code final) :
      ∃ last, machine.Exits code last := by
    obtain ⟨fuel, run⟩ := exits
    obtain ⟨cycles, last, run', -⟩ := onTrack.runCycles_exits early run
    have ends := runFor_ends sound ready unlimited cycles
    cases run'' : (runFor cycles).run machine with
    | ok code' next =>
      obtain ⟨-, flat⟩ := ends.of_ok run''
      obtain rfl : some code = code' := congrArg Prod.fst (Except.ok.inj (run'.symm.trans flat))
      exact ⟨next, cycles, run''⟩
    | error failure next => cases run'.symm.trans (ends.of_error run'')
  refine ⟨fun code => ⟨?_, ?_⟩, fun code last code' final exits exits' => ?_⟩
  · rintro ⟨last, exits⟩
    obtain ⟨final, exits', -⟩ := forth code last exits
    exact ⟨final, exits'⟩
  · rintro ⟨final, exits⟩
    exact back code final exits
  · obtain ⟨final', exits'', same⟩ := forth code last exits
    obtain ⟨rfl, rfl⟩ := exits''.unique exits'
    exact ⟨rfl, same⟩

/-- The program that stores a word, loads it again and exits with it. -/
theorem exits_refines_storeAndLoad : ∃ machine,
    launch smallSettings .bimodal {} {} [.bytes 0x1000 storeAndLoad 16] 0x1000 = .ok machine ∧
      machine.platform.flat.Undisturbed ∧ ∃ last, machine.Exits 93 last := by
  have checked :
    (launch smallSettings .bimodal {} {} [.bytes 0x1000 storeAndLoad 16] 0x1000).toOption.any
      (fun machine => machine.platform.flat.leavesCode 5 [] &&
        (machine.platform.flat.runInstructions 4).toOption.any fun result => result.1 == some 93) =
          true := by
    decide +kernel
  obtain ⟨machine, launched, checked⟩ := exists_ok_of_any checked
  obtain ⟨leaves, exits⟩ := Bool.and_eq_true_iff.mp checked
  have undisturbed := (FlatPlatform.leavesCode_sound leaves).2
  obtain ⟨⟨code, final⟩, run, exits⟩ := exists_ok_of_any exits
  obtain rfl : code = some 93 := eq_of_beq exits
  exact ⟨machine, launched, undisturbed, ((exits_refines launched undisturbed).1 93).mpr
    ⟨final, 4, run⟩⟩

end Machine

end FiveStage
