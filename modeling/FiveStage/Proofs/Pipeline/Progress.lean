import FiveStage.Proofs.Pipeline.Accounting

/-!
# The pipeline makes progress

Stalls repeat a fetch and redirections drop what was fetched, but both come from an older
instruction that itself moves on. So the oldest instruction in the pipeline always advances by one
stage, and if there is none, one is fetched. The number of cycles until an instruction is in front
of the last stage is therefore known from the latches alone: it goes down by one in each cycle, and
is three at most when an instruction has just left the pipeline.

## Main definitions

* `Row.ahead`, `Row.delay`: the cycles until an instruction is in front of the last stage
* `FlatMachine.finished`: the instructions and environment calls that have finished

## Main results

* `FlatMachine.delay_of_cycled`: the oldest instruction moves on
* `Machine.cycles_le_of_steps`: cycles are bounded by what has finished
-/

namespace FiveStage

namespace Row

/-- The cycles until an instruction from behind the last stage is in front of it, if the oldest one
is never held up. -/
def ahead (row : Row) : Nat :=
  if row.memory.isLive then 0
  else if row.execute.isLive then 1
  else if row.decode.isLive then 2
  else 3

/-- The cycles in which nothing will finish. -/
def delay (row : Row) : Nat := if row.writeback.isLive then 0 else row.ahead + 1

theorem ahead_le (row : Row) : row.ahead ≤ 3 := by
  unfold ahead
  split
  · omega
  · split
    · omega
    · split <;> omega

end Row

namespace FlatMachine

variable {m m' : FlatMachine}

/-- The instructions and the environment calls that have finished. -/
def finished (m : FlatMachine) : Nat := m.tally.retired + m.tally.environmentCalls

/-- A cycle finishes what is in front of the last stage. -/
theorem finished_of_cycle (settled : m.Settled) (cycle : m.cycle = .ok m') :
    m'.finished = m.finished + m.row.writeback.isLive.toNat := by
  have tally := tally_of_cycle settled cycle
  rw [finished, tally, finished]
  dsimp only [Latch.countFinished, Latch.countExecuted, Latch.countResolved]
  cases m.row.writeback.isLive with
  | false => rfl
  | true => cases m.row.writeback.instruction.isEcall <;> simp <;> omega

theorem cycles_of_cycle (settled : m.Settled) (cycle : m.cycle = .ok m') :
    m'.tally.cycles = m.tally.cycles + 1 := congrArg Counters.cycles (tally_of_cycle settled cycle)

namespace Advanced

/-- With nothing in front of it that could redirect fetching or hold it back, what is decoded moves
on. -/
theorem moved_of_idle (advanced : Advanced m m') (settled : m.Settled)
    (memory : m.row.memory.isLive = false) (execute : m.row.execute.isLive = false) :
    m'.row.execute.isLive = m.row.decode.isLive ∧
      (m.row.decode.isLive = false → m'.row.decode.isLive = true) := by
  cases advanced with
  | redirected target leads =>
    cases execute.symm.trans (executed_of_redirection settled leads).1
  | held _ holds =>
    rcases holds with holds | ecall
    · rw [settled.execute.resolve_left (by simp [execute])] at holds
      exact absurd holds not_holdsBack_empty
    · cases memory.symm.trans (Latch.isLive_of_isEcall settled.memory ecall)
  | moved _ _ _ _ decode execute' =>
    constructor
    · rw [execute', Latch.isLive_supply, Latch.isLive_decoded_eq]
    · intro idle
      have empty := decoded_of_empty (settled.decode.resolve_left (by simp [idle]))
      rw [decode, empty]
      exact FlatMemory.fetched_isLive

end Advanced

/-- The oldest instruction moves on by one stage. -/
theorem delay_of_cycled (settled : m.Settled) (cycled : m.Cycled m') :
    m'.row.delay = m.row.ahead := by
  obtain ⟨loaded, -, writeback⟩ := cycled.moved
  unfold Row.delay Row.ahead
  rw [writeback, Latch.isLive_accessed, cycled.memory, Latch.isLive_executed]
  cases memory : m.row.memory.isLive with
  | true => rfl
  | false =>
    cases execute : m.row.execute.isLive with
    | true => rfl
    | false =>
      obtain ⟨moved, fetched⟩ := cycled.advanced.moved_of_idle settled memory execute
      rw [moved]
      cases decode : m.row.decode.isLive with
      | true => rfl
      | false =>
        rw [fetched decode]
        rfl

theorem delay_le_of_cycled (settled : m.Settled) (cycled : m.Cycled m') : m'.row.delay ≤ 3 := by
  rw [delay_of_cycled settled cycled]
  exact m.row.ahead_le

/-- What finishes pays for four cycles: the one in which it finishes, and three that may follow. -/
theorem pays_of_cycle (settled : m.Settled) (cycle : m.cycle = .ok m') :
    1 + m'.row.delay + 4 * m.finished ≤ m.row.delay + 4 * m'.finished := by
  have cycled := cycled_of_cycle settled cycle
  have ahead := m.row.ahead_le
  rw [finished_of_cycle settled cycle, delay_of_cycled settled cycled, Row.delay]
  cases m.row.writeback.isLive with
  | true =>
    rw [Bool.toNat_true, if_pos rfl]
    omega
  | false =>
    rw [Bool.toNat_false, if_neg Bool.false_ne_true]
    omega

/-- What has finished in a number of cycles pays for all of them. -/
theorem pays_of_cycles (settled : m.Settled) {count : Nat} (done : m.cycles count = .ok m') :
    m'.tally.cycles = m.tally.cycles + count ∧
      count + m'.row.delay + 4 * m.finished ≤ m.row.delay + 4 * m'.finished := by
  induction count generalizing m with
  | zero =>
    cases done
    exact ⟨rfl, by omega⟩
  | succ count ih =>
    obtain ⟨next, cycle, rest⟩ := bind_eq_ok_iff.mp done
    obtain ⟨counted, pays⟩ := ih (cycled_of_cycle settled cycle).settled rest
    have counts := cycles_of_cycle settled cycle
    have first := pays_of_cycle settled cycle
    omega

/-- After its first cycle a machine always has a delay of three cycles at most. -/
theorem delay_le_of_cycles (settled : m.Settled) {count : Nat} (some_cycle : 0 < count)
    (done : m.cycles count = .ok m') : m'.Settled ∧ m'.row.delay ≤ 3 := by
  cases count with
  | zero => cases some_cycle
  | succ count =>
    obtain ⟨next, cycle, rest⟩ := bind_eq_ok_iff.mp done
    have later (machine machine' : FlatMachine) (settled : machine.Settled)
        (cycle : machine.cycle = .ok machine') : machine'.Settled ∧ machine'.row.delay ≤ 3 := by
      have cycled := cycled_of_cycle settled cycle
      exact ⟨cycled.settled, delay_le_of_cycled settled cycled⟩
    exact invariant_of_cycles (fun machine machine' here => later machine machine' here.1)
      (later m next settled cycle) rest

end FlatMachine

namespace Machine

variable {machine start : Machine} {settings : Settings} {heuristic : Heuristic} {host : Host}
  {log : Log} {image : List Load} {entry : Word}

/-- The instructions and the environment calls that have finished. -/
def finished (machine : Machine) : Nat :=
  machine.platform.hart.counters.retired + machine.platform.hart.counters.environmentCalls

/-- The next cycles, as many as given, succeed and finish nothing. -/
def IdlesFor (machine : Machine) (idle : Nat) : Prop :=
  ∃ later, (steps idle).run machine = .ok () later ∧ later.finished = machine.finished

/-- Cycles are bounded by what has finished: after the first cycle there are never more than three
in a row that find nothing in front of the last stage, and so finish nothing. -/
theorem cycles_le_of_steps
    (launched : launch settings heuristic host log image entry = .ok start) (limit : Option Nat)
    {count : Nat} (run : (steps count).run { start with cycleLimit := limit } = .ok () machine) :
    machine.platform.hart.counters.cycles = count ∧ count ≤ 4 * machine.finished + 4 ∧
      (∀ next, step.run machine = .ok () next → next.finished =
        machine.finished + machine.latches.committed.writeback.isLive.toNat) ∧
      (0 < count → ∀ idle, machine.IdlesFor idle → idle ≤ 3) := by
  obtain ⟨sound, ready, cycles⟩ := cycles_of_steps launched run
  have settled := (ready_of_launch launched).onTrack.tracks.settled
  have settled' : machine.flat.Settled := FlatMachine.invariant_of_cycles
    (fun _ _ settled cycle => (FlatMachine.cycled_of_cycle settled cycle).settled) settled cycles
  obtain ⟨counted, pays⟩ := FlatMachine.pays_of_cycles settled cycles
  have none_so_far := tally_of_launch launched
  obtain ⟨-, latches, -⟩ := start_of_launch launched
  have empty : start.flat.row = (Latches.start entry).committed :=
    congrArg Latches.committed latches
  have delay : start.flat.row.delay = 4 := by rw [empty]; rfl
  have finished : start.flat.finished = 0 := by
    rw [FlatMachine.finished, none_so_far]
    rfl
  rw [delay, finished] at pays
  rw [none_so_far] at counted
  have same : machine.flat.finished = machine.finished := rfl
  refine ⟨counted.trans (Nat.zero_add count), by omega, fun next stepped => ?_,
    fun some_cycle idle idles => ?_⟩
  · exact FlatMachine.finished_of_cycle settled' ((step_ends sound ready).of_ok stepped).2
  · obtain ⟨later, run', nothing⟩ := idles
    obtain ⟨-, within⟩ := FlatMachine.delay_le_of_cycles settled some_cycle cycles
    obtain ⟨-, pays'⟩ :=
      FlatMachine.pays_of_cycles settled' ((steps_ends sound ready idle).of_ok run').2
    have same' : later.flat.finished = later.finished := rfl
    omega

/-- Behind an indirect jump, the seventh instruction of a program, two cycles find nothing in front
of the last stage, and four cannot. -/
theorem cycles_le_of_steps_loadAndJump : ∃ start machine,
    launch smallSettings .bimodal {} {} [.bytes 0x1000 loadAndJump 40] 0x1000 = .ok start ∧
      (steps 14).run { start with cycleLimit := none } = .ok () machine ∧
      machine.platform.hart.counters.cycles = 14 ∧ machine.finished = 7 ∧
      machine.IdlesFor 2 ∧ ¬ machine.IdlesFor 4 := by
  have checked :
    (launch smallSettings .bimodal {} {} [.bytes 0x1000 loadAndJump 40] 0x1000).toOption.any
      (fun start => (start.flat.cycles 14).toOption.any fun flat =>
        flat.finished == 7 && (flat.cycles 2).toOption.any fun later => later.finished == 7) =
          true := by
    decide +kernel
  obtain ⟨start, launched, checked⟩ := exists_ok_of_any checked
  obtain ⟨flat, cycles, checked⟩ := exists_ok_of_any checked
  simp only [Bool.and_eq_true, beq_iff_eq] at checked
  obtain ⟨finished, checked⟩ := checked
  obtain ⟨idle, cycles', nothing⟩ := exists_ok_of_any checked
  obtain ⟨sound, ready, -⟩ := ready_of_launch launched
  obtain ⟨_, machine, run, follows, same⟩ :=
    (@steps_ends { start with cycleLimit := none } sound ready 14).exists_ok
      fun failure _ failed => by cases cycles.symm.trans failed
  obtain rfl : flat = machine.flat := Except.ok.inj (cycles.symm.trans same)
  obtain ⟨_, later, run', -, same'⟩ :=
    (steps_ends follows.sound (follows.ready.trans ready) 2).exists_ok
      fun failure _ failed => by cases cycles'.symm.trans failed
  obtain rfl : idle = later.flat := Except.ok.inj (cycles'.symm.trans same')
  obtain ⟨counted, -, -, bound⟩ := cycles_le_of_steps launched none run
  have idles : machine.IdlesFor 2 := ⟨later, run', (eq_of_beq nothing).trans finished.symm⟩
  refine ⟨start, machine, launched, run, counted, finished, idles, fun longer => ?_⟩
  exact absurd (bound (by decide) 4 longer) (by decide)

end Machine

end FiveStage
