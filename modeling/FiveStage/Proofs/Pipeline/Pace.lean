import FiveStage.Proofs.Pipeline.Timing
import FiveStage.Proofs.Platform.Pace

/-!
# Ticks grow with latencies

The ticks of a cycle are the longest of what its stages took, and each of these is a sum of
latencies along what was looked up, brought in and written through. Latencies decide nothing about
that, so of two machines that differ in them alone the one with the smaller ones goes through the
same cycles in no more ticks. Each cycle takes a tick at least.

## Main definitions

* `Machine.Outpaces`: machines that differ in latencies, clocks and logs only
* `Machine.Ahead`: what can be told of their counters

## Main results

* `Machine.step_outpaces`: one cycle keeps a machine ahead
* `Machine.course_outpaces`: ticks are monotone in latencies
-/

namespace FiveStage

namespace Machine

variable {α β : Type} {least : Nat} {machine twin : Machine}

/-- Machines that differ in latencies, clocks and logs only, of which the first one is ahead. -/
structure Outpaces (least : Nat) (machine twin : Machine) : Prop where
  platform : machine.platform.Outpaces least twin.platform
  predictor : machine.predictor = twin.predictor
  latches : machine.latches = twin.latches
  ready : machine.ready = twin.ready
  ticks : ∀ m, machine.ticks m ≤ twin.ticks m

/-- Actions that keep the first machine ahead. -/
abbrev Paced (least : Nat) (results : α → β → Prop) (action : Action α) (twin : Action β) : Prop :=
  Parallel results (Outpaces least) action twin

/-! ### Single steps -/

theorem onPlatform_outpaces {results : α → β → Prop} {action : Platform.Action α}
    {action' : Platform.Action β} (paced : Platform.Paced least results action action') :
    Paced least results (onPlatform action) (onPlatform action') :=
  paced.act (fun _ _ ahead => ahead.platform)
    fun _ _ _ _ ahead platform => { ahead with platform }

theorem onHart_outpaces {change change' : Hart → Hart}
    (keeps : ∀ hart twin : Hart, hart.Outpaces least twin →
      (change hart).Outpaces least (change' twin)) :
    Paced least Eq (onHart change) (onHart change') :=
  onPlatform_outpaces (Platform.onHart_outpaces keeps)

/-- Counting something other than cycles and ticks. -/
theorem count_outpaces {change : Counters → Counters}
    (blind : ∀ c, { change c with ticks := 0 } =
      ({ change { c with ticks := 0 } with ticks := 0 } : Counters))
    (keeps : ∀ c, (change c).ticks = c.ticks ∧ (change c).cycles = c.cycles) :
    Paced least Eq (count change) (count change) := by
  refine onHart_outpaces fun _ _ ahead => ahead.change (·.count change) (fun h => ?_) fun h => ?_
  · exact congrArg (fun counters => { h with cycleTicks := 0, counters }) (blind h.counters)
  · simp only [Hart.clocks, Hart.count, keeps h.counters]

theorem raiseTicks_outpaces {ticks ticks' : Nat} (fewer : ticks ≤ ticks') :
    Paced least Eq (raiseTicks ticks) (raiseTicks ticks') :=
  onHart_outpaces fun _ _ ahead => ahead.raiseTicks fewer

theorem report_outpaces (line line' : Unit → String) :
    Paced least Eq (report line) (report line') :=
  onPlatform_outpaces (Platform.report_outpaces _ _ _)

theorem onCommitted_outpaces (change : Row → Row) :
    Paced least Eq (onCommitted change) (onCommitted change) :=
  parallel_modify fun _ _ ahead =>
    { ahead with
      latches := congrArg (fun l : Latches => { l with committed := change l.committed })
        ahead.latches }

theorem onStaged_outpaces (change : Row → Row) :
    Paced least Eq (onStaged change) (onStaged change) :=
  parallel_modify fun _ _ ahead =>
    { ahead with
      latches := congrArg (fun l : Latches => { l with staged := change l.staged }) ahead.latches }

/-! ### Fetch and decode -/

/-- The same encoding is read in no more cycles, or the reading fails alike. -/
theorem readEncoding_outpaces (pc : Word) :
    Paced least (SameEnd Sooner) (readEncoding pc) (readEncoding pc) := by
  intro machine twin ahead
  have reads : Parallel Sooner (Platform.Outpaces least)
      (Platform.spaceOf.act (AddressSpace.read pc.toNat 4))
      (Platform.spaceOf.act (AddressSpace.read pc.toNat 4)) :=
    (AddressSpace.read_outpaces pc.toNat 4).act (fun _ _ ahead => ahead.space)
      fun _ _ _ _ ahead space => ⟨ahead.hart, space, ahead.host⟩
  have ends := reads machine.platform twin.platform ahead.platform
  -- a failure is a result here, so both ways to end go on
  simp only [EStateM.run, readEncoding] at ends ⊢
  generalize Platform.spaceOf.act (AddressSpace.read pc.toNat 4) machine.platform = result,
    Platform.spaceOf.act (AddressSpace.read pc.toNat 4) twin.platform = result' at ends ⊢
  cases result <;> cases result'
  · obtain ⟨⟨word, fewer⟩, platform⟩ := ends
    exact ⟨.ok (.intro _ fewer), { ahead with platform }⟩
  · exact ends.elim
  · exact ends.elim
  · obtain ⟨rfl, platform⟩ := ends
    exact ⟨.error _, { ahead with platform }⟩

theorem stageFetched_outpaces (pc : Word) (e : Encoding) {cycles cycles' : Nat}
    (fewer : cycles ≤ cycles') :
    Paced least Eq (stageFetched pc e cycles) (stageFetched pc e cycles') := by
  refine (raiseTicks_outpaces fewer).bind fun _ _ _ =>
    parallel_get.bind fun machine twin ahead => ?_
  rw [ahead.predictor]
  exact (onCommitted_outpaces _).bind fun _ _ _ => (report_outpaces _ _).bind fun _ _ _ =>
    onStaged_outpaces _

theorem stageFault_outpaces (pc : Word) (cause : MemoryFault) :
    Paced least Eq (stageFault pc cause) (stageFault pc cause) := by
  rw [stageFault]
  cases Fault.ofFetch? cause with
  | none => exact parallel_throw _
  | some fault =>
    exact (report_outpaces _ _).bind fun _ _ _ => (onCommitted_outpaces _).bind fun _ _ _ =>
      onStaged_outpaces _

theorem fetch_outpaces : Paced least Eq fetch fetch := by
  refine parallel_get.bind fun machine twin ahead => ?_
  rw [ahead.latches]
  refine .ite Iff.rfl (onStaged_outpaces _) ?_
  have goes (pc : Word) : Paced least Eq (onHart ({ · with pc })) (onHart ({ · with pc })) :=
    onHart_outpaces fun _ _ ahead => ahead.change ({ · with pc }) (fun _ => rfl) fun _ => rfl
  refine (goes _).bind fun _ _ _ => ?_
  refine (readEncoding_outpaces _).bind fun result result' same => ?_
  cases same with
  | error cause => exact stageFault_outpaces _ cause
  | ok reads =>
    obtain ⟨e, fewer⟩ := reads
    exact stageFetched_outpaces _ e fewer

theorem decode_outpaces : Paced least Eq decode decode := by
  refine parallel_get.bind fun machine twin ahead => ?_
  rw [ahead.latches]
  have stages (latch : Latch) : Paced least Eq (stageExecute latch) (stageExecute latch) :=
    onStaged_outpaces _
  refine .ite Iff.rfl (stages _) (.ite Iff.rfl (stages _) ?_)
  cases Instruction.decode twin.latches.committed.decode.encoding
      twin.latches.committed.decode.pc with
  | error failure => exact (report_outpaces _ _).bind fun _ _ _ => stages _
  | ok inst =>
    have operands (carried : Latch) : readOperands machine.platform.hart inst carried =
        readOperands twin.platform.hart inst carried := by
      simp only [readOperands, ahead.platform.hart.register_eq]
    refine (report_outpaces _ _).bind fun _ _ _ => ?_
    rw [operands]
    refine .ite Iff.rfl ?_ (stages _)
    exact (onCommitted_outpaces _).bind fun _ _ _ =>
      (onStaged_outpaces _).bind fun _ _ _ => stages _

/-! ### Execute -/

theorem flush_outpaces (target : Word) : Paced least Eq (flush target) (flush target) :=
  (onCommitted_outpaces _).bind fun _ _ _ => (onStaged_outpaces _).bind fun _ _ _ =>
    Parallel.bind (count_outpaces (fun _ => rfl) fun _ => ⟨rfl, rfl⟩) fun _ _ _ =>
      report_outpaces _ _

theorem resolveBranch_outpaces (branch : Latch) (taken : Bool) :
    Paced least Eq (resolveBranch branch taken) (resolveBranch branch taken) := by
  have learns : Paced least Eq
      (modify fun machine =>
        { machine with predictor := machine.predictor.update branch.pc taken })
      (modify fun machine =>
        { machine with predictor := machine.predictor.update branch.pc taken }) :=
    parallel_modify fun _ _ ahead =>
      { ahead with predictor := congrArg (·.update branch.pc taken) ahead.predictor }
  refine .ite Iff.rfl ?_ ?_
  · exact Parallel.bind (count_outpaces (fun _ => rfl) fun _ => ⟨rfl, rfl⟩) fun _ _ _ => learns
  · refine (flush_outpaces _).bind fun _ _ _ => ?_
    exact Parallel.bind (count_outpaces (fun _ => rfl) fun _ => ⟨rfl, rfl⟩) fun _ _ _ => learns

theorem redirect_outpaces (output : Latch) :
    Paced least Eq (redirect output) (redirect output) := by
  rw [redirect]
  cases output.instruction.mnemonic.opcode with
  | jalr => exact flush_outpaces _
  | branch => exact resolveBranch_outpaces _ _
  | _ => exact parallel_pure rfl

theorem forwardTo_outpaces (destination : Option Nat) (value : Word) :
    Paced least Eq (forwardTo destination value) (forwardTo destination value) := by
  cases destination with
  | none => exact parallel_pure rfl
  | some number =>
    refine parallel_get.bind fun machine twin ahead => ?_
    rw [ahead.latches]
    refine Parallel.bind (parallel_set { ahead with latches := rfl }) fun _ _ _ => ?_
    exact .ite Iff.rfl (count_outpaces (fun _ => rfl) fun _ => ⟨rfl, rfl⟩) (parallel_pure rfl)

theorem holdForLoad_outpaces (destination : Option Nat) :
    Paced least Eq (holdForLoad destination) (holdForLoad destination) := by
  cases destination with
  | none => exact parallel_pure rfl
  | some number =>
    refine parallel_get.bind fun machine twin ahead => ?_
    rw [ahead.latches]
    refine .ite Iff.rfl ?_ (parallel_pure rfl)
    refine (onCommitted_outpaces _).bind fun _ _ _ => (onStaged_outpaces _).bind fun _ _ _ => ?_
    exact Parallel.bind (count_outpaces (fun _ => rfl) fun _ => ⟨rfl, rfl⟩) fun _ _ _ =>
      report_outpaces _ _

/-- What an operation takes to execute is as in the settings. -/
theorem execute_outpaces : Paced least Eq execute execute := by
  refine parallel_get.bind fun machine twin ahead => ?_
  rw [ahead.latches]
  refine .ite Iff.rfl (onStaged_outpaces _) ?_
  cases twin.latches.committed.execute.fault with
  | some fault => exact parallel_throw _
  | none =>
    refine (raiseTicks_outpaces (ahead.ticks _)).bind fun _ _ _ => ?_
    refine (redirect_outpaces _).bind fun _ _ _ => (report_outpaces _ _).bind fun _ _ _ => ?_
    refine (onStaged_outpaces _).bind fun _ _ _ => (forwardTo_outpaces _ _).bind fun _ _ _ => ?_
    refine (holdForLoad_outpaces _).bind fun _ _ _ => .ite Iff.rfl ?_ (parallel_pure rfl)
    exact (onCommitted_outpaces _).bind fun _ _ _ => onStaged_outpaces _

/-! ### Memory and write back -/

theorem transfer_outpaces (input : Latch) : Paced least Eq (transfer input) (transfer input) := by
  refine .ite Iff.rfl ?_ (.ite Iff.rfl ?_ (parallel_pure rfl))
  · refine (onPlatform_outpaces (Platform.useSpace_outpaces (AddressSpace.read_outpaces _ _))).bind
      fun read read' reads => ?_
    obtain ⟨raw, fewer⟩ := reads
    exact (raiseTicks_outpaces fewer).bind fun _ _ _ => (report_outpaces _ _).bind fun _ _ _ =>
      parallel_pure rfl
  · refine (onPlatform_outpaces
      (Platform.useSpace_outpaces (AddressSpace.write_outpaces _ _ _))).bind
        fun cycles cycles' fewer => ?_
    exact (raiseTicks_outpaces fewer).bind fun _ _ _ => (report_outpaces _ _).bind fun _ _ _ =>
      parallel_pure rfl

theorem accessMemory_outpaces : Paced least Eq accessMemory accessMemory := by
  refine parallel_get.bind fun machine twin ahead => ?_
  rw [ahead.latches]
  refine .ite Iff.rfl (onStaged_outpaces _) ?_
  refine (transfer_outpaces _).bind fun loaded _ same => same ▸ ?_
  refine (onStaged_outpaces _).bind fun _ _ _ => (forwardTo_outpaces _ _).bind fun _ _ _ => ?_
  exact (forwardTo_outpaces _ _).bind fun _ _ _ =>
    .ite Iff.rfl (onCommitted_outpaces _) (parallel_pure rfl)

theorem writeResult_outpaces (destination : Option Nat) (value : Word) :
    Paced least Eq (writeResult destination value) (writeResult destination value) := by
  cases destination with
  | none => exact parallel_pure rfl
  | some number =>
    simp only [writeResult]
    cases Reg.ofNumber? number with
    | none => exact parallel_throw _
    | some r =>
      exact Parallel.bind (onHart_outpaces fun _ _ ahead => ahead.setRegister _ _) fun _ _ _ =>
        forwardTo_outpaces _ _

theorem writeBack_outpaces : Paced least Eq writeBack writeBack := by
  refine parallel_get.bind fun machine twin ahead => ?_
  rw [ahead.latches]
  refine .ite Iff.rfl (.ite Iff.rfl ?_ ?_) (parallel_pure rfl)
  · refine Parallel.bind (count_outpaces (fun _ => rfl) fun _ => ⟨rfl, rfl⟩) fun _ _ _ => ?_
    exact (onPlatform_outpaces Platform.environmentCall_outpaces).bind fun _ _ fewer =>
      raiseTicks_outpaces fewer
  · refine (writeResult_outpaces _ _).bind fun _ _ _ =>
      (writeResult_outpaces _ _).bind fun _ _ _ => ?_
    exact count_outpaces (fun _ => rfl) fun _ => ⟨rfl, rfl⟩

/-! ### Cycles -/

/-- The end of a cycle that took a tick at least. -/
theorem endCycle_outpaces : Paced 1 Eq endCycle endCycle := by
  refine parallel_get.bind fun machine twin ahead => ?_
  have commits : Paced 1 Eq (commit machine.platform.hart.pc) (commit twin.platform.hart.pc) := by
    have pc : machine.platform.hart.pc = twin.platform.hart.pc :=
      congrArg (·.pc) ahead.platform.hart.untimed
    rw [pc]
    refine parallel_get.bind fun machine' twin' ahead' => ?_
    rw [ahead'.latches]
    exact Parallel.bind (parallel_set { ahead' with latches := rfl }) fun _ _ _ => parallel_pure rfl
  refine commits.bind fun stalled _ same => same ▸ ?_
  have counts : Paced 1 Eq
      (onHart fun hart => hart.count fun c =>
        { c with cycles := c.cycles + 1, ticks := c.ticks + hart.cycleTicks })
      (onHart fun hart => hart.count fun c =>
        { c with cycles := c.cycles + 1, ticks := c.ticks + hart.cycleTicks }) :=
    onHart_outpaces fun _ _ ahead => ahead.endCycle
  refine .ite Iff.rfl ?_ counts
  exact Parallel.bind (count_outpaces (fun _ => rfl) fun _ => ⟨rfl, rfl⟩) fun _ _ _ => counts

/-- One cycle is carried out alike, in no more ticks. -/
theorem step_outpaces : Paced 0 Eq step step := by
  refine parallel_get.bind fun machine twin ahead => ?_
  rw [ahead.ready]
  refine .ite Iff.rfl (parallel_throw_bind _) ?_
  have stages : Paced 1 Eq (do fetch; decode; execute; accessMemory; writeBack; endCycle)
      (do fetch; decode; execute; accessMemory; writeBack; endCycle) :=
    fetch_outpaces.bind fun _ _ _ => decode_outpaces.bind fun _ _ _ =>
      execute_outpaces.bind fun _ _ _ => accessMemory_outpaces.bind fun _ _ _ =>
      writeBack_outpaces.bind fun _ _ _ => endCycle_outpaces
  -- from its start on the cycle takes a tick at least
  refine Parallel.within (fun _ _ ahead => ?_) stages fun _ _ ahead => ?_
  · exact { ahead with platform := { ahead.platform with hart := ahead.platform.hart.startCycle } }
  · exact { ahead with platform := { ahead.platform with hart := ahead.platform.hart.mono } }

theorem steps_outpaces (count : Nat) : Paced 0 Eq (steps count) (steps count) := by
  induction count with
  | zero => exact parallel_pure rfl
  | succ count ih => exact step_outpaces.bind fun _ _ _ => ih

/-! ### Whole runs -/

theorem place_outpaces (image : List Load) : Paced least Eq (place image) (place image) := by
  have loads (address : Nat) (bytes : Bytes) (length : Nat) : Platform.Paced least Eq
      (Platform.useSpace (AddressSpace.loadImage address bytes length))
      (Platform.useSpace (AddressSpace.loadImage address bytes length)) :=
    Platform.useSpace_outpaces (AddressSpace.lasts_outpaces.loadImage _ _ _)
  exact place_parallel (fun _ _ _ => onPlatform_outpaces (loads _ _ _)) (fun executable =>
    onPlatform_outpaces (Platform.loadExecutable_parallel
      (fun _ _ => Platform.report_outpaces _ _ _) loads executable)) image

theorem prepare_outpaces (entry : Word) : Paced 0 Eq (prepare entry) (prepare entry) := by
  refine (onPlatform_outpaces
    (Platform.useSpace_outpaces AddressSpace.lasts_outpaces.mapStack)).bind fun _ _ _ => ?_
  have starts : Paced 0 Eq (onHart fun _ => Hart.start entry (BitVec.ofNat 64 stackTop))
      (onHart fun _ => Hart.start entry (BitVec.ofNat 64 stackTop)) :=
    onHart_outpaces fun _ _ _ => .start _ _
  refine starts.bind fun _ _ _ => Parallel.bind (parallel_modify fun _ _ ahead => ?_) fun _ _ _ =>
    onPlatform_outpaces (Platform.report_outpaces _ _ _)
  exact { ahead with latches := rfl, ready := rfl }

/-- New machines are as their settings are. -/
theorem outpaces_of_ofSettings {settings settings' : Settings} (ahead : settings.Outpaces settings')
    {heuristic : Heuristic} {host : Host} {log log' : Log}
    (made : ofSettings settings heuristic host log = .ok machine)
    (made' : ofSettings settings' heuristic host log' = .ok twin) : machine.Outpaces 0 twin := by
  obtain ⟨space, spaceMade, made⟩ := bind_eq_ok_iff.mp made
  obtain ⟨space', spaceMade', made'⟩ := bind_eq_ok_iff.mp made'
  obtain rfl := Except.ok.inj made
  obtain rfl := Except.ok.inj made'
  have space := AddressSpace.outpaces_of_ofSettings ahead spaceMade spaceMade'
  exact ⟨⟨.start _ _, space, rfl⟩, rfl, rfl, rfl, ahead.ticks⟩

/-- Every storage has counted the same in no more time, and no more ticks have passed; in neither
machine are there more cycles than ticks. -/
structure Ahead (machine twin : Machine) : Prop where
  counts : ∀ depth, (machine.platform.space.storage.statisticsAt depth).untimed =
    (twin.platform.space.storage.statisticsAt depth).untimed
  time : ∀ depth, (machine.platform.space.storage.statisticsAt depth).time ≤
    (twin.platform.space.storage.statisticsAt depth).time
  ticks : machine.platform.hart.counters.ticks ≤ twin.platform.hart.counters.ticks
  cycles : machine.platform.hart.counters.cycles ≤ machine.platform.hart.counters.ticks
  cycles' : twin.platform.hart.counters.cycles ≤ twin.platform.hart.counters.ticks

theorem Outpaces.ahead (ahead : machine.Outpaces least twin) : machine.Ahead twin := by
  have hart := ahead.platform.hart
  have same : machine.platform.hart.counters.cycles = twin.platform.hart.counters.cycles :=
    congrArg (·.counters.cycles) hart.untimed
  refine ⟨fun depth => ?_, fun depth => ?_, hart.ticks, hart.cycles, ?_⟩
  · exact (ahead.platform.space.storage.statisticsAt depth).counts
  · exact (ahead.platform.space.storage.statisticsAt depth).time
  · exact same ▸ hart.cycles.trans hart.ticks

/-- Ticks are monotone in latencies: of two machines with the same geometries, the one with the
smaller latencies and ticks is ahead after any number of cycles of any program, and fails where the
other one fails. -/
theorem course_outpaces {settings settings' : Settings} (ahead : settings.Outpaces settings')
    {heuristic : Heuristic} {host : Host} {log log' : Log}
    (made : ofSettings settings heuristic host log = .ok machine)
    (made' : ofSettings settings' heuristic host log' = .ok twin)
    (image : List Load) (entry : Word) (count : Nat) :
    EndRelated Eq Ahead ((course image entry count).run machine)
      ((course image entry count).run twin) := by
  have paced : Paced 0 Eq (course image entry count) (course image entry count) :=
    (place_outpaces image).bind fun _ _ _ => (prepare_outpaces entry).bind fun _ _ _ =>
      steps_outpaces count
  exact (paced machine twin (outpaces_of_ofSettings ahead made made')).mono (fun _ _ same => same)
    fun _ _ ahead' => ahead'.ahead

theorem outpaces_evenSettings {latency latency' : Nat} (fewer : latency ≤ latency') :
    (evenSettings latency).Outpaces (evenSettings latency') :=
  ⟨fun _ => rfl, fun _ => ⟨fewer, fewer⟩, ⟨fewer, fewer⟩, fun _ => fewer⟩

/-- A program takes its 30 ticks at least where all latencies are doubled. -/
theorem course_outpaces_evenSettings : ∃ machine twin last last',
    ofSettings (evenSettings 1) .bimodal {} {} = .ok machine ∧
      ofSettings (evenSettings 2) .bimodal {} {} = .ok twin ∧
      (course [.bytes 0x1000 storeAndLoad 16] 0x1000 9).run machine = .ok () last ∧
      (course [.bytes 0x1000 storeAndLoad 16] 0x1000 9).run twin = .ok () last' ∧
      last.platform.hart.counters.ticks = 30 ∧ last.Ahead last' := by
  have checked : (ofSettings (evenSettings 1) .bimodal {} {}).toOption.any (fun machine =>
      let last := leftBy (course [.bytes 0x1000 storeAndLoad 16] 0x1000 9) machine
      succeeds (course [.bytes 0x1000 storeAndLoad 16] 0x1000 9) machine ∧
        last.platform.hart.counters.ticks = 30) = true := by
    decide +kernel
  obtain ⟨machine, made, checked⟩ := exists_ok_of_any checked
  obtain ⟨done, ticks⟩ := of_decide_eq_true checked
  obtain ⟨_, run⟩ := run_of_succeeds done
  obtain ⟨twin, made'⟩ : ∃ twin, ofSettings (evenSettings 2) .bimodal {} {} = .ok twin := ⟨_, rfl⟩
  have alike := course_outpaces (outpaces_evenSettings (by decide)) made made'
    [.bytes 0x1000 storeAndLoad 16] 0x1000 9
  cases run' : (course [.bytes 0x1000 storeAndLoad 16] 0x1000 9).run twin with
  | error failure last' =>
    rw [run, run'] at alike
    exact alike.elim
  | ok a' last' =>
    rw [run, run'] at alike
    exact ⟨machine, twin, _, last', made, made', run, run', ticks, alike.2⟩

end Machine

end FiveStage
