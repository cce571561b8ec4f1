import FiveStage.Executable.Loading
import FiveStage.Proofs.Memory.Loading
import FiveStage.Proofs.Pipeline.Simulation

/-!
# Settings never change what a program does

Two machines with different caches and different latencies load a program alike, and from then on
they have the same flat machine. So they go through the same cycles: what differs is how long the
cycles take, and what lies in the caches.

## Main definitions

* `Machine.Twins`: machines without a used cache that have the same flat machine
* `Machine.SameToProgram`: machines in which a program can find no difference
* `Load`, `Machine.course`: loading a program, and running it for a number of cycles

## Main results

* `Machine.place_alike`, `Machine.prepare_alike`: programs are loaded alike
* `Machine.course_alike`: for equal programs, settings make no difference but to the time
-/

namespace FiveStage

/-- Two platforms with unused caches and the same flat platform. -/
structure Platform.Twins (platform twin : Platform) : Prop where
  spaces : platform.space.Twins twin.space
  hart : platform.hart.untimed = twin.hart.untimed
  host : platform.host = twin.host

namespace Platform

variable {platforms : Platform → Platform → Prop}

/-- A program is loaded alike on platforms whose relation lasts while the log grows and images are
put into memory. -/
theorem loadExecutable_parallel
    (reports : ∀ severity line, Parallel Eq platforms (report severity line) (report severity line))
    (loads : ∀ address bytes length, Parallel Eq platforms
      (useSpace (AddressSpace.loadImage address bytes length))
      (useSpace (AddressSpace.loadImage address bytes length))) (executable : Executable) :
    Parallel Eq platforms (loadExecutable executable) (loadExecutable executable) := by
  have segment (segment : Segment) : Parallel Eq platforms (loadSegment executable segment)
      (loadSegment executable segment) := by
    refine .ite Iff.rfl (parallel_throw_bind _) ?_
    refine Parallel.bind (parallel_settle (.refl _)).failingAs fun bytes _ same => same ▸ ?_
    exact (reports _ _).bind fun _ _ _ => loads _ _ _
  have segments (segments : List Segment) : Parallel Eq platforms
      (loadSegments executable segments) (loadSegments executable segments) := by
    induction segments with
    | nil => exact parallel_pure rfl
    | cons first rest ih => exact (segment first).bind fun _ _ _ => ih
  exact (segments _).bind fun _ _ _ => (reports _ _).bind fun _ _ _ => parallel_pure rfl

theorem useSpace_twins {use : AddressSpace.Use Unit}
    (parallel : Parallel Eq (Logged.Related AddressSpace.Twins) use use) :
    Parallel Eq Twins (useSpace use) (useSpace use) :=
  (parallel.act (fun _ _ twins => twins.spaces)
    fun _ _ _ _ twins spaces => ⟨spaces, twins.hart, twins.host⟩).failingAs

theorem loadExecutable_twins (executable : Executable) :
    Parallel Eq Twins (loadExecutable executable) (loadExecutable executable) :=
  loadExecutable_parallel
    (fun _ _ => parallel_modify fun _ _ twins => ⟨twins.spaces, twins.hart, twins.host⟩)
    (fun _ _ _ => useSpace_twins (AddressSpace.lasts_twins.loadImage _ _ _)) executable

end Platform

namespace Machine

variable {machine twin : Machine}

/-- Two machines with unused caches and the same flat machine. -/
structure Twins (machine twin : Machine) : Prop where
  platforms : machine.platform.Twins twin.platform
  predictor : machine.predictor = twin.predictor
  latches : machine.latches = twin.latches
  ready : machine.ready = twin.ready

theorem Twins.flat_eq (twins : machine.Twins twin) : machine.flat = twin.flat := by
  simp only [flat, Platform.flat, twins.platforms.hart, twins.platforms.host, twins.predictor,
    twins.latches, twins.platforms.spaces.flat_eq]

/-- Nothing that a program can find out tells the machines apart. -/
structure SameToProgram (machine twin : Machine) : Prop where
  registers : machine.platform.hart.registers = twin.platform.hart.registers
  pc : machine.platform.hart.pc = twin.platform.hart.pc
  exitCode : machine.platform.hart.exitCode = twin.platform.hart.exitCode
  counters : { machine.platform.hart.counters with ticks := 0 } =
    { twin.platform.hart.counters with ticks := 0 }
  latches : machine.latches = twin.latches
  predictor : machine.predictor = twin.predictor
  host : machine.platform.host = twin.platform.host
  memory : machine.platform.space.byteSeen = twin.platform.space.byteSeen

theorem sameToProgram_of_flat (sound : machine.platform.space.Sound)
    (sound' : twin.platform.space.Sound)
    (flat : machine.flat = twin.flat) : machine.SameToProgram twin where
  registers := congrArg (·.platform.hart.registers) flat
  pc := congrArg (·.platform.hart.pc) flat
  exitCode := congrArg (·.platform.hart.exitCode) flat
  counters := congrArg (·.platform.hart.counters) flat
  latches := congrArg (·.latches) flat
  predictor := congrArg (·.predictor) flat
  host := congrArg (·.platform.host) flat
  memory := by
    funext address
    rw [AddressSpace.byteSeen_eq_flat sound, AddressSpace.byteSeen_eq_flat sound']
    exact congrArg (·.platform.memory.read address 1) flat

/-! ### Loading -/

/-- New machines are twins, whatever their settings. -/
theorem twins_of_ofSettings {settings settings' : Settings} {heuristic : Heuristic} {host : Host}
    {log log' : Log} (made : ofSettings settings heuristic host log = .ok machine)
    (made' : ofSettings settings' heuristic host log' = .ok twin) : machine.Twins twin := by
  obtain ⟨space, spaceMade, made⟩ := bind_eq_ok_iff.mp made
  obtain ⟨space', spaceMade', made'⟩ := bind_eq_ok_iff.mp made'
  obtain rfl := Except.ok.inj made
  obtain rfl := Except.ok.inj made'
  exact ⟨⟨AddressSpace.twins_of_ofSettings spaceMade spaceMade', rfl, rfl⟩, rfl, rfl, rfl⟩

/-- A part of a program: bytes at an address with the size they take in memory, or an executable. -/
inductive Load
  | bytes (address : Nat) (bytes : Bytes) (memorySize : Nat)
  | executable (executable : Executable)

/-- Puts one part of a program after the other into memory. -/
def place : List Load → Action Unit
  | [] => pure ()
  | .bytes address bytes memorySize :: rest => do
    loadSegment address bytes memorySize
    place rest
  | .executable executable :: rest => do
    discard (onPlatform (Platform.loadExecutable executable))
    place rest

/-- A program is placed alike in machines whose relation lasts while images and executables are
loaded. -/
theorem place_parallel {machines : Machine → Machine → Prop}
    (loads : ∀ address bytes length, Parallel Eq machines
      (onPlatform (Platform.useSpace (AddressSpace.loadImage address bytes length)))
      (onPlatform (Platform.useSpace (AddressSpace.loadImage address bytes length))))
    (executables : ∀ executable, Parallel Eq machines
      (onPlatform (Platform.loadExecutable executable))
      (onPlatform (Platform.loadExecutable executable))) (image : List Load) :
    Parallel Eq machines (place image) (place image) := by
  induction image with
  | nil => exact parallel_pure rfl
  | cons load rest ih =>
    cases load with
    | bytes address bytes memorySize => exact (loads _ _ _).bind fun _ _ _ => ih
    | executable executable => exact (executables _).discard.bind fun _ _ _ => ih

theorem onPlatform_twins {α : Type} {action : Platform.Action α}
    (parallel : Parallel Eq Platform.Twins action action) :
    Parallel Eq Twins (onPlatform action) (onPlatform action) :=
  parallel.act (fun _ _ twins => twins.platforms)
    fun _ _ _ _ twins platforms => { twins with platforms }

theorem place_alike (twins : machine.Twins twin) (image : List Load) :
    EndAlike Twins ((place image).run machine) ((place image).run twin) := by
  have placed : Parallel Eq Twins (place image) (place image) :=
    place_parallel
      (fun _ _ _ => onPlatform_twins (Platform.useSpace_twins
        (AddressSpace.lasts_twins.loadImage _ _ _)))
      (fun executable => onPlatform_twins (Platform.loadExecutable_twins executable)) image
  exact (placed machine twin twins).endAlike

/-- Twins are prepared alike, and are ready then. -/
theorem prepare_alike (twins : machine.Twins twin) (entry : Word) :
    EndAlike (fun next next' => next.Twins next' ∧ next.ready = true)
      ((prepare entry).run machine) ((prepare entry).run twin) := by
  have mapped := onPlatform_twins (Platform.useSpace_twins AddressSpace.lasts_twins.mapStack)
  apply (mapped machine twin twins).endAlike.bind
  intro _ next next' twins'
  exact ⟨rfl, ⟨⟨twins'.platforms.spaces, rfl, twins'.platforms.host⟩, twins'.predictor, rfl, rfl⟩,
    rfl⟩

/-! ### Running -/

/-- Loads a program, prepares the machine at its entry and carries out a number of cycles. -/
def course (image : List Load) (entry : Word) (count : Nat) : Action Unit := do
  place image
  prepare entry
  steps count

/-- Prepared machines with the same flat machine go through the same cycles. -/
theorem steps_alike (sound : machine.platform.space.Sound) (sound' : twin.platform.space.Sound)
    (ready : machine.ready = true) (ready' : twin.ready = true) (flat : machine.flat = twin.flat)
    (count : Nat) :
    EndAlike SameToProgram ((steps count).run machine) ((steps count).run twin) := by
  have ends := steps_ends sound ready count
  have ends' := steps_ends sound' ready' count
  rw [← flat] at ends'
  unfold Ends at ends ends'
  cases run : (steps count).run machine <;> cases run' : (steps count).run twin <;>
    rw [run] at ends <;> rw [run'] at ends'
  · exact ⟨rfl, sameToProgram_of_flat ends.1.sound ends'.1.sound
      (Except.ok.inj (ends.2.symm.trans ends'.2))⟩
  · cases ends.2.symm.trans ends'
  · cases ends.symm.trans ends'.2
  · exact Except.error.inj (ends.symm.trans ends')

/-- Settings make no difference but to the time: machines with any two settings and the same
heuristic, host and program either fail alike within a number of cycles, or are the same to the
program after them. -/
theorem course_alike {settings settings' : Settings} {heuristic : Heuristic} {host : Host}
    {log log' : Log} (made : ofSettings settings heuristic host log = .ok machine)
    (made' : ofSettings settings' heuristic host log' = .ok twin)
    (image : List Load) (entry : Word) (count : Nat) :
    EndAlike SameToProgram ((course image entry count).run machine)
      ((course image entry count).run twin) := by
  apply (place_alike (twins_of_ofSettings made made') image).bind
  intro _ loaded loaded' twins
  apply (prepare_alike twins entry).bind
  intro _ prepared prepared' same
  obtain ⟨twins', ready⟩ := same
  exact steps_alike twins'.platforms.spaces.unused.sound twins'.platforms.spaces.unused'.sound ready
    (twins'.ready ▸ ready) twins'.flat_eq count

/-- The default settings with a small and slow first cache that writes through. -/
def smallSettings : Settings :=
  Settings.default.modifyLevel .l1 fun _ => ⟨⟨128, 1, 2, true, true⟩, ⟨7, 3⟩⟩

/-- A program that stores a word below the top of the stack, loads it again and exits with it. -/
def storeAndLoad : Bytes := [0x05d00893, 0xff113c23, 0xff813503, 0x00000073].flatMap (Bytes.ofNat 4)

/-- Small caches that write through, with one latency for everything. -/
def evenSettings (latency : Nat) : Settings where
  memoryLatency := ⟨latency, latency⟩
  levels _ := ⟨⟨128, 1, 2, true, true⟩, ⟨latency, latency⟩⟩
  ticks _ := latency

/-- The program exits with the default settings as it does with small and slow caches. -/
theorem course_alike_evenSettings : ∃ machine twin last last',
    ofSettings Settings.default .bimodal {} {} = .ok machine ∧
      ofSettings (evenSettings 3) .bimodal {} {} = .ok twin ∧
      (course [.bytes 0x1000 storeAndLoad 16] 0x1000 9).run machine = .ok () last ∧
      (course [.bytes 0x1000 storeAndLoad 16] 0x1000 9).run twin = .ok () last' ∧
      last'.platform.hart.exitCode = some 93 ∧ last.SameToProgram last' := by
  have checked : (ofSettings (evenSettings 3) .bimodal {} {}).toOption.any (fun twin =>
      let last := leftBy (course [.bytes 0x1000 storeAndLoad 16] 0x1000 9) twin
      succeeds (course [.bytes 0x1000 storeAndLoad 16] 0x1000 9) twin ∧
        last.platform.hart.exitCode = some 93) = true := by
    decide +kernel
  obtain ⟨twin, made', checked⟩ := exists_ok_of_any checked
  obtain ⟨done, exited⟩ := of_decide_eq_true checked
  obtain ⟨_, run'⟩ := run_of_succeeds done
  obtain ⟨machine, made⟩ : ∃ machine, ofSettings Settings.default .bimodal {} {} = .ok machine :=
    ⟨_, rfl⟩
  have alike := course_alike made made' [.bytes 0x1000 storeAndLoad 16] 0x1000 9
  cases run : (course [.bytes 0x1000 storeAndLoad 16] 0x1000 9).run machine with
  | error failure last =>
    rw [run, run'] at alike
    exact alike.elim
  | ok a last =>
    rw [run, run'] at alike
    exact ⟨machine, twin, last, _, made, made', run, run', exited, alike.2⟩

end Machine

end FiveStage
