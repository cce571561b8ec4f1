import FiveStage.Proofs.Memory.Pace
import FiveStage.Proofs.Platform.Simulation
import Mathlib.Order.MinMax

/-!
# Platforms that keep ahead

What a program does on a platform does not depend on the time that it takes. Two platforms that
differ only in their latencies carry out every action alike, and the hart of the faster one never
gets behind: its cycles take no more ticks, and neither do all of them together.

## Main definitions

* `Hart.Outpaces`: harts that differ only in their clocks, of which the first one is ahead
* `Platform.Outpaces`, `Platform.Paced`: such platforms, and actions that keep them so

## Main results

* `Platform.environmentCall_outpaces`: environment calls
-/

namespace FiveStage

/-! ### Harts -/

/-- The time of the current cycle, and the ticks and cycles counted so far. -/
def Hart.clocks (hart : Hart) : Nat × Nat × Nat :=
  (hart.cycleTicks, hart.counters.ticks, hart.counters.cycles)

/-- The same hart but for its clocks, which show no more than those of the other. The current cycle
takes at least the given time, and no fewer ticks than cycles have been counted. -/
structure Hart.Outpaces (least : Nat) (hart twin : Hart) : Prop where
  untimed : hart.untimed = twin.untimed
  least : least ≤ hart.cycleTicks
  cycleTicks : hart.cycleTicks ≤ twin.cycleTicks
  ticks : hart.counters.ticks ≤ twin.counters.ticks
  cycles : hart.counters.cycles ≤ hart.counters.ticks

namespace Hart.Outpaces

variable {least : Nat} {hart twin : Hart}

/-- Changes that have nothing to do with the clocks. -/
theorem change (ahead : hart.Outpaces least twin) (change : Hart → Hart)
    (blind : ∀ h, (change h).untimed = (change h.untimed).untimed)
    (keeps : ∀ h, (change h).clocks = h.clocks) :
    (change hart).Outpaces least (change twin) := by
  obtain ⟨cycleTicks, ticks, cycles⟩ : _ ∧ _ ∧ _ := by
    simpa only [clocks, Prod.mk.injEq] using keeps hart
  obtain ⟨cycleTicks', ticks', -⟩ : _ ∧ _ ∧ _ := by
    simpa only [clocks, Prod.mk.injEq] using keeps twin
  constructor
  · exact (blind hart).trans ((congrArg (fun h => (change h).untimed) ahead.untimed).trans
      (blind twin).symm)
  · exact cycleTicks ▸ ahead.least
  · exact cycleTicks ▸ cycleTicks' ▸ ahead.cycleTicks
  · exact ticks ▸ ticks' ▸ ahead.ticks
  · exact ticks ▸ cycles ▸ ahead.cycles

theorem setRegister (ahead : hart.Outpaces least twin) (r : Reg) (value : Word) :
    (hart.setRegister r value).Outpaces least (twin.setRegister r value) := by
  refine ahead.change (·.setRegister r value) (fun h => ?_) fun h => ?_
  · rw [untimed_setRegister, untimed_setRegister]
    rfl
  · rw [Hart.setRegister]
    split <;> rfl

theorem register_eq (ahead : hart.Outpaces least twin) (r : Reg) :
    hart.register r = twin.register r :=
  congrArg (·.register r) ahead.untimed

/-- The cycle may take longer where it does for the other one as well. -/
theorem raiseTicks (ahead : hart.Outpaces least twin) {ticks ticks' : Nat}
    (fewer : ticks ≤ ticks') :
    (hart.raiseTicks ticks).Outpaces least (twin.raiseTicks ticks') where
  untimed := ahead.untimed
  least := le_trans ahead.least (Nat.le_max_left ..)
  cycleTicks := max_le_max ahead.cycleTicks fewer
  ticks := ahead.ticks
  cycles := ahead.cycles

/-- A new cycle. -/
theorem startCycle (ahead : hart.Outpaces least twin) :
    Outpaces 1 { hart with cycleTicks := 1 } { twin with cycleTicks := 1 } :=
  ⟨ahead.untimed, Nat.le_refl 1, Nat.le_refl 1, ahead.ticks, ahead.cycles⟩

/-- A cycle that took a tick at least is counted with its time. -/
theorem endCycle (ahead : hart.Outpaces 1 twin) :
    Outpaces 1
      (hart.count fun c =>
        { c with cycles := c.cycles + 1, ticks := c.ticks + hart.cycleTicks })
      (twin.count fun c =>
        { c with cycles := c.cycles + 1, ticks := c.ticks + twin.cycleTicks }) where
  untimed :=
    congrArg (·.count fun c => { c with cycles := c.cycles + 1 }) ahead.untimed
  least := ahead.least
  cycleTicks := ahead.cycleTicks
  ticks := Nat.add_le_add ahead.ticks ahead.cycleTicks
  cycles := Nat.add_le_add ahead.cycles ahead.least

/-- Before the first cycle all clocks are at zero. -/
theorem start (entry top : Word) : (Hart.start entry top).Outpaces 0 (Hart.start entry top) :=
  ⟨rfl, Nat.zero_le _, Nat.le_refl _, Nat.le_refl _, Nat.le_refl _⟩

theorem mono (ahead : hart.Outpaces least twin) : hart.Outpaces 0 twin :=
  { ahead with least := Nat.zero_le _ }

end Hart.Outpaces

/-! ### Platforms -/

namespace Platform

variable {α β : Type} {least : Nat}

/-- Platforms that differ in latencies, clocks and logs only, of which the first one is ahead. -/
structure Outpaces (least : Nat) (platform twin : Platform) : Prop where
  hart : platform.hart.Outpaces least twin.hart
  space : platform.space.Outpaces twin.space
  host : platform.host = twin.host

/-- Actions that keep the first platform ahead. -/
abbrev Paced (least : Nat) (results : α → β → Prop) (action : Action α) (twin : Action β) : Prop :=
  Parallel results (Outpaces least) action twin

theorem useSpace_outpaces {results : α → β → Prop} {use : AddressSpace.Use α}
    {use' : AddressSpace.Use β} (paced : AddressSpace.Paced results use use') :
    Paced least results (useSpace use) (useSpace use') :=
  (paced.act (fun _ _ ahead => ahead.space)
    fun _ _ _ _ ahead space => ⟨ahead.hart, space, ahead.host⟩).failingAs

theorem onHart_outpaces {change change' : Hart → Hart}
    (keeps : ∀ hart twin : Hart, hart.Outpaces least twin →
      (change hart).Outpaces least (change' twin)) :
    Paced least Eq (onHart change) (onHart change') :=
  parallel_modify fun _ _ ahead => { ahead with hart := keeps _ _ ahead.hart }

theorem register_outpaces (r : Reg) : Paced least Eq (register r) (register r) :=
  parallel_get.bind fun _ _ ahead => parallel_pure (ahead.hart.register_eq r)

theorem print_outpaces (text : String) : Paced least Eq (print text) (print text) :=
  parallel_modify fun _ _ ahead => { ahead with host := congrArg (·.print text) ahead.host }

/-- What is logged may differ. -/
theorem report_outpaces (severity : Severity) (line line' : Unit → String) :
    Paced least Eq (report severity line) (report severity line') :=
  parallel_modify fun _ _ ahead => ⟨ahead.hart, ahead.space, ahead.host⟩

theorem readInput_outpaces : Paced least Eq readInput readInput := by
  refine parallel_get.bind fun platform twin ahead => ?_
  rw [ahead.host]
  refine Parallel.bind (parallel_set ⟨ahead.hart, ahead.space, rfl⟩) fun _ _ _ => ?_
  exact (parallel_settle (.refl _)).failingAs

/-! ### Environment calls -/

/-- The same characters were read, in no more cycles. -/
structure Scan.Outpaces (scan twin : Scan) : Prop where
  characters : scan.characters = twin.characters
  ended : scan.ended = twin.ended
  address : scan.address = twin.address
  cycles : scan.cycles ≤ twin.cycles

theorem scanString_outpaces {scan twin : Scan} (ahead : scan.Outpaces twin) (limit : Nat) :
    Paced least Scan.Outpaces (scanString scan limit) (scanString twin limit) := by
  induction limit generalizing scan twin with
  | zero => exact parallel_pure ahead
  | succ limit ih =>
    rw [scanString, scanString, ahead.address]
    refine (useSpace_outpaces (AddressSpace.read_outpaces _ _)).bind fun read read' reads => ?_
    obtain ⟨byte, fewer⟩ := reads
    have most := max_le_max ahead.cycles fewer
    refine .ite Iff.rfl (parallel_pure ⟨ahead.characters, rfl, rfl, most⟩) (ih ⟨?_, ?_, ?_, most⟩)
    · exact congrArg (· ++ [characterOf byte]) ahead.characters
    · exact ahead.ended
    · rfl

theorem printString_outpaces (address : Nat) :
    Paced least (· ≤ ·) (printString address) (printString address) := by
  refine (scanString_outpaces ⟨rfl, rfl, rfl, Nat.le_refl 0⟩ _).bind fun scan scan' scans => ?_
  rw [scans.ended, scans.address, scans.characters]
  let finish (overlong : Bool) (cycles : Nat) : Action Nat := do
    if overlong then
      report .warn fun _ => s!"string at {Text.hex address} truncated"
    let remark := if overlong then "\nprintf str too long!" else ""
    print (String.ofList scan'.characters ++ remark ++ "\n")
    return cycles
  have finished (overlong : Bool) {cycles cycles' : Nat} (fewer : cycles ≤ cycles') :
      Paced least (· ≤ ·) (finish overlong cycles) (finish overlong cycles') := by
    have prints (text : String) : Paced least (· ≤ ·) (do print text; return cycles)
        (do print text; return cycles') :=
      (print_outpaces text).bind fun _ _ _ => parallel_pure fewer
    exact .ite Iff.rfl ((report_outpaces _ _ _).bind fun _ _ _ => prints _) (prints _)
  refine .ite Iff.rfl (finished false scans.cycles) ?_
  refine (useSpace_outpaces (AddressSpace.read_outpaces _ _)).bind fun read read' reads => ?_
  obtain ⟨byte, fewer⟩ := reads
  exact finished (decide (byte ≠ 0)) (max_le_max scans.cycles fewer)

/-- An environment call is served alike, in no more cycles. -/
theorem environmentCall_outpaces : Paced least (· ≤ ·) environmentCall environmentCall := by
  refine (register_outpaces _).bind fun number _ same => same ▸ ?_
  refine (register_outpaces _).bind fun argument _ same => same ▸ ?_
  have nothing : Paced least (· ≤ ·) (pure 0) (pure 0) := parallel_pure (Nat.le_refl 0)
  cases HostService.ofNumber? number.toNat with
  | none => exact (report_outpaces _ _ _).bind fun _ _ _ => nothing
  | some service =>
    cases service with
    | sleep => exact (report_outpaces _ _ _).bind fun _ _ _ => nothing
    | printInteger | printCharacter =>
      exact (report_outpaces _ _ _).bind fun _ _ _ => (print_outpaces _).bind fun _ _ _ => nothing
    | printString =>
      exact (report_outpaces _ _ _).bind fun _ _ _ => printString_outpaces _
    | readInteger =>
      refine (report_outpaces _ _ _).bind fun _ _ _ => ?_
      refine readInput_outpaces.bind fun n _ same => same ▸ ?_
      exact Parallel.bind (onHart_outpaces fun _ _ ahead => ahead.setRegister _ _) fun _ _ _ =>
        nothing
    | exit =>
      refine (report_outpaces _ _ _).bind fun _ _ _ => ?_
      refine Parallel.bind (onHart_outpaces fun _ _ ahead => ?_) fun _ _ _ => nothing
      exact ahead.change ({ · with exitCode := some argument.toInt }) (fun _ => rfl) fun _ => rfl

end Platform

end FiveStage
