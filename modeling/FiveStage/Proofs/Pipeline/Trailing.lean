import FiveStage.Proofs.Pipeline.Tracking

/-!
# What trails a load or a store

A load or a store fails in the fourth stage. By then the word behind it stands in front of the third
stage, and if it is no instruction, that is raised first. It is the word at the next address, and it
was fetched before the stores of the two instructions in front of the load or the store had reached
memory.

## Main definitions

* `FlatMachine.Trailing`: what stands behind a load or a store
* `FlatMachine.OnTrack`: the machine follows a platform of a run
* `FlatMachine.Turn`: how the platform moves next

## Main results

* `FlatMachine.Trailing.next`: a cycle keeps what stands behind loads and stores
* `FlatMachine.OnTrack.proceed`: after some cycles, the platform moves
-/

namespace FiveStage

namespace FlatMachine

variable {m m' : FlatMachine} {p q r start : FlatPlatform}

/-- Behind a load or a store there is the word at the next address, as it was in memory at most two
instructions before. -/
structure Trailing (start p : FlatPlatform) (m : FlatMachine) : Prop where
  decode : ∀ q, p.Past m.oldest q → m.row.execute.instruction.mnemonic.isAccess = true →
    ∃ earlier predictor, start.Reaches earlier ∧ earlier.ReachesWithin 2 q ∧
      m.row.decode = earlier.memory.fetched predictor (q.hart.pc + 4)
  execute : m.row.memory.instruction.mnemonic.isAccess = true →
    ∃ earlier, start.Reaches earlier ∧ earlier.ReachesWithin 2 p ∧
      m.row.execute.raised? = earlier.memory.refusal? (p.hart.pc + 4)

theorem trailing_of_empty (execute : m.row.execute = Latch.empty)
    (memory : m.row.memory = Latch.empty) :
    Trailing start p m where
  decode q _ access := by
    rw [execute] at access
    cases access
  execute access := by
    rw [memory] at access
    cases access

/-! ### The word behind a load or a store -/

theorem not_isEcall_of_isAccess {inst : Instruction} (access : inst.mnemonic.isAccess = true) :
    inst.isEcall = false := by
  apply Bool.eq_false_iff.mpr
  intro ecall
  rw [show inst.mnemonic = .ecall from eq_of_beq ecall] at access
  cases access

theorem eq_or_steps_of_past {latch : Latch} (running : p.hart.exitCode = none)
    (past : p.Past latch q) :
    p = q ∨ p.Steps q := by
  cases live : latch.isLive with
  | false => exact .inl ((past_of_not_isLive live).mp past).symm
  | true => exact .inr ⟨running, (past_of_isLive live).mp past⟩

/-- Behind a load or a store that comes in front of the third stage, the word at the next address is
fetched. -/
theorem fetched_behind_access (issuing : Issuing p m) (past : p.Past m.row.execute q)
    (straight : m.row.execute.executed.redirection = none)
    (access : m.decoded.instruction.mnemonic.isAccess = true) :
    m.row.fetch.predictedPc = q.hart.pc + 4 := by
  have fetching := fetching_of_straight issuing past straight
  cases live : m.row.decode.isLive with
  | false =>
    rw [FlatMachine.decoded, Latch.decoded_of_not_isLive live] at access
    cases access
  | true =>
    obtain ⟨predictor, fetched⟩ := fetching.decode live
    have here := fetching.fetch
    rw [live, if_pos rfl, fetched] at here
    have same : m.decoded.instruction = (q.issued predictor).instruction := by
      rw [FlatMachine.decoded, fetched]
      exact Latch.instruction_decoded _ _
    rw [same] at access
    have fine : (q.issued predictor).fault = none := by
      apply Decidable.byContradiction
      intro faulty
      rw [FlatPlatform.issued, (Latch.of_fault_decoded faulty).1] at access
      cases access
    have opcode := Mnemonic.opcode_of_isAccess access
    have next := FlatPlatform.next_issued fine (by rintro jal; simp [jal] at opcode)
      (by rintro branch; simp [branch] at opcode)
    exact here.trans ((Latch.next_decoded_fetched fine).symm.trans next)

/-- A word that is held back because of its registers is an instruction. -/
theorem raised?_decoded_of_holdsBack (issuing : Issuing p m) (live : m.row.execute.isLive = true)
    (access : m.row.execute.executed.instruction.mnemonic.isAccess = true)
    (holds : HoldsBack m.row.execute.executed m.decoded) : m.decoded.raised? = none := by
  obtain ⟨predictor, issued⟩ := issuing.execute live
  have output : m.row.execute.executed.loadedTo = m.row.execute.loadedTo := by
    rw [Latch.executed, live, if_pos rfl]
    rfl
  rcases holds with ecall | ⟨number, loads, -, reads⟩
  · cases (not_isEcall_of_isAccess access).symm.trans ecall
  · have sound : m.decoded.fault = none := by
      -- a word with a fault reads no register but the zero register, for which nothing is loaded
      apply Decidable.byContradiction
      intro faulty
      obtain ⟨-, sourceA, sourceB⟩ := Latch.of_fault_decoded faulty
      rw [FlatMachine.decoded, Latch.reads, sourceA, sourceB, Bool.or_self] at reads
      rw [← eq_of_beq reads, output, issued] at loads
      exact Latch.loadedTo_decoded_ne_zero _ _ loads
    rw [Latch.raised?, sound]
    rfl

theorem Trailing.decode_next (tracks : Tracks p m) (cycled : Cycled m m')
    (reached : start.Reaches p)
    (running : p.hart.exitCode = none) (running' : q.hart.exitCode = none)
    (passed : p.Past m.oldest q)
    (past : q.Past m'.oldest r) (access : m'.row.execute.instruction.mnemonic.isAccess = true) :
    ∃ earlier predictor, start.Reaches earlier ∧ earlier.ReachesWithin 2 r ∧
      m'.row.decode = earlier.memory.fetched predictor (r.hart.pc + 4) := by
  cases cycled.advanced with
  | redirected _ _ _ _ execute =>
    rw [execute] at access
    cases access
  | held _ _ _ _ execute =>
    rw [execute] at access
    cases access
  | moved straight _ calm _ decode execute =>
    rw [execute, Latch.instruction_supply, Latch.instruction_decoded m'.platform.hart
      m.platform.hart] at access
    have calm' : m'.row.writeback.instruction.isEcall = false := by
      obtain ⟨loaded, -, writeback⟩ := cycled.moved
      rw [writeback, Latch.isEcall_accessed, calm, Bool.and_false]
    rw [oldest_of_not_ecall calm', cycled.memory, FlatPlatform.Past, Latch.isLive_executed,
      ← FlatPlatform.Past] at past
    -- behind an access fetching goes straight on, and has done so before the access moves its data
    have behind := fetched_behind_access (tracks.behind q passed) past straight access
    rw [show m.decoded.instruction.isEcall = false from not_isEcall_of_isAccess access,
      if_neg Bool.false_ne_true, FlatMachine.fetched, behind, tracks.memory_eq] at decode
    exact ⟨p, m.predictor, reached,
      ⟨q, ⟨p, rfl, eq_or_steps_of_past running passed⟩, eq_or_steps_of_past running' past⟩, decode⟩

theorem Trailing.execute_next (trailing : Trailing start p m) (tracks : Tracks p m)
    (cycled : Cycled m m')
    (passed : p.Past m.oldest q) (access : m'.row.memory.instruction.mnemonic.isAccess = true) :
    ∃ earlier, start.Reaches earlier ∧ earlier.ReachesWithin 2 q ∧
      m'.row.execute.raised? = earlier.memory.refusal? (q.hart.pc + 4) := by
  rw [cycled.memory] at access
  have live : m.row.execute.isLive = true := by
    apply Decidable.byContradiction
    intro idle
    rw [Latch.executed, if_neg idle] at access
    cases access
  have same : m.row.execute.executed.instruction = m.row.execute.instruction := by
    rw [Latch.executed, live, if_pos rfl]
    rfl
  obtain ⟨earlier, predictor, reached, within, decode⟩ := trailing.decode q passed (same ▸ access)
  refine ⟨earlier, reached, within, ?_⟩
  have raised (hart : Hart) :
      (m.row.decode.decoded hart).raised? = earlier.memory.refusal? (q.hart.pc + 4) := by
    rw [decode]
    exact Latch.raised?_decoded_fetched
  cases cycled.advanced with
  | redirected _ leads => cases (Latch.redirection_of_isAccess access).symm.trans leads
  | held _ holds _ _ execute =>
    rcases holds with holds | ecall
    · rw [execute, ← raised m.platform.hart]
      exact (raised?_decoded_of_holdsBack (tracks.behind q passed) live access holds).symm
    · rw [(tracks.settled.behindMemory ecall).2] at live
      cases live
  | moved _ _ _ _ _ execute =>
    rw [execute, ← raised m'.platform.hart]
    exact Latch.raised?_supply

/-- A cycle keeps what stands behind loads and stores. -/
theorem Trailing.next (trailing : Trailing start p m) (tracks : Tracks p m) (cycled : Cycled m m')
    (reached : start.Reaches p) (running : p.hart.exitCode = none)
    (running' : q.hart.exitCode = none) (passed : p.Past m.oldest q) : Trailing start q m' where
  decode _ past access := decode_next tracks cycled reached running running' passed past access
  execute access := trailing.execute_next tracks cycled passed access

/-- There is nothing behind an environment call. -/
theorem trailing_of_cycled (cycled : Cycled m m')
    (nothing : m.row.decode = Latch.empty ∧ m.row.execute = Latch.empty) : Trailing start q m' := by
  obtain ⟨noDecode, noExecute⟩ := nothing
  have memory : m'.row.memory = Latch.empty := by
    rw [cycled.memory, noExecute, Latch.executed_empty]
  have execute : m'.row.execute = Latch.empty := by
    cases cycled.advanced with
    | redirected _ _ _ _ execute => exact execute
    | held _ _ _ _ execute => exact execute
    | moved _ _ _ _ _ execute =>
      rw [execute, noDecode]
      rfl
  exact trailing_of_empty execute memory

/-! ### Runs -/

/-- The machine follows a platform of the run from the start, which has not ended there. -/
structure OnTrack (start p : FlatPlatform) (m : FlatMachine) : Prop where
  reached : start.Reaches p
  running : p.hart.exitCode = none
  tracks : Tracks p m
  trailing : Trailing start p m

/-- A cycle after which the program goes on. -/
def Goes (m m' : FlatMachine) : Prop := m.cycle = .ok m' ∧ m'.platform.hart.exitCode = none

/-- Any number of cycles after which the program goes on. -/
abbrev GoesOn : FlatMachine → FlatMachine → Prop := Relation.ReflTransGen Goes

/-- How the platform moves next: the machine fails, or it goes on with the platform, or both exit.
-/
inductive Turn (start p : FlatPlatform) (m : FlatMachine) : Prop
  | fails (failure : Failure) (cycle : m.cycle = .error failure) (failed : Failed p m failure)
  | goesOn (m' : FlatMachine) (q : FlatPlatform) (goes : m.Goes m') (step : p.Steps q)
      (onTrack : OnTrack start q m')
  | exits (m' : FlatMachine) (q : FlatPlatform) (cycle : m.cycle = .ok m') (step : p.Steps q)
      (exits : q.hart.exitCode ≠ none) (essential : m'.platform.essential = q.essential)

theorem Tracks.exitCode_eq (tracks : Tracks p m) : m.platform.hart.exitCode = p.hart.exitCode := by
  have same : (m.row.writeback.settle m.platform).hart.exitCode = p.hart.exitCode :=
    congrArg (·.hart.exitCode) tracks.essential
  rw [← same, Latch.settle]
  split
  · exact (Hart.exitCode_deliver.trans Hart.exitCode_deliver).symm
  · rfl

/-- In each cycle the platform moves, or else the lag gets smaller. -/
theorem OnTrack.turn (onTrack : OnTrack start p m) (early : start.FetchesEarly) :
    Turn start p m ∨ ∃ m', m.Goes m' ∧ OnTrack start p m' ∧ m'.lag < m.lag := by
  obtain ⟨reached, running, tracks, trailing⟩ := onTrack
  cases cycle : m.cycle with
  | error failure => exact .inl (.fails failure cycle (tracks.failure running cycle))
  | ok m' =>
    have cycled := cycled_of_cycle tracks.settled cycle
    cases tracks.step (fun r => early p r reached) running cycle with
    | goesOn q step running' past tracks' =>
      have trailing' := trailing.next tracks cycled reached running running' past
      exact .inl (.goesOn m' q ⟨cycle, tracks'.exitCode_eq.trans running'⟩ step
        ⟨reached.tail step, running', tracks', trailing'⟩)
    | exits q step exits essential => exact .inl (.exits m' q cycle step exits essential)
    | waits still tracks' less =>
      refine .inr ⟨m', ⟨cycle, tracks'.exitCode_eq.trans running⟩,
        ⟨reached, running, tracks', ?_⟩, less⟩
      rcases still with past | nothing
      · exact trailing.next tracks cycled reached running running past
      · exact trailing_of_cycled cycled nothing

/-- After some cycles, the platform moves. -/
theorem OnTrack.proceed (onTrack : OnTrack start p m) (early : start.FetchesEarly) :
    ∃ m', m.GoesOn m' ∧ OnTrack start p m' ∧ Turn start p m' := by
  induction lagging : m.lag using Nat.strongRecOn generalizing m with
  | ind lag later =>
  rcases onTrack.turn early with turn | ⟨m', goes, onTrack', less⟩
  · exact ⟨m, .refl, onTrack, turn⟩
  · obtain ⟨last, goesOn, onTrack'', turn⟩ := later m'.lag (lagging ▸ less) onTrack' rfl
    exact ⟨last, .head goes goesOn, onTrack'', turn⟩

/-- What follows after some cycles comes of a longer run. -/
theorem GoesOn.runCycles (goesOn : m.GoesOn m') (cycles : Nat) :
    ∃ more, m.runCycles more = m'.runCycles cycles := by
  induction goesOn using Relation.ReflTransGen.head_induction_on with
  | refl => exact ⟨cycles, rfl⟩
  | head goes _ ih =>
    obtain ⟨more, same⟩ := ih
    refine ⟨more + 1, ?_⟩
    simp only [FlatMachine.runCycles, goes.1, ok_bind, goes.2, same]

end FlatMachine

end FiveStage
