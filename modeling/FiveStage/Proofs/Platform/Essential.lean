import FiveStage.Proofs.Platform.Flat

/-!
# What a run is about

The registers, the exit code, the memory, the host and two of the counters are what a program is run
for. The program counter and the other counters depend on how it is run, and environment calls do
not depend on them.

## Main definitions

* `Hart.uncounted`, `FlatPlatform.uncounted`: the hart and the platform without the other counters
* `Hart.essential`, `FlatPlatform.essential`: the same without the program counter
* `Hart.Aside`: a change of the rest

## Main results

* `FlatPlatform.environmentCall_onHart`: an environment call commutes with a change of the rest
* `FlatPlatform.environmentCall_cases`: what an environment call can change
-/

namespace FiveStage

namespace Hart

variable {hart : Hart} {change : Hart → Hart} {r : Reg} {value : Word}

@[simp] theorem pc_setRegister : (hart.setRegister r value).pc = hart.pc := by
  unfold setRegister
  split <;> rfl

@[simp] theorem counters_setRegister : (hart.setRegister r value).counters = hart.counters := by
  unfold setRegister
  split <;> rfl

@[simp] theorem exitCode_setRegister : (hart.setRegister r value).exitCode = hart.exitCode := by
  unfold setRegister
  split <;> rfl

/-- The hart without the counters that depend on how a program is run. -/
def uncounted (hart : Hart) : Hart :=
  { hart with
    cycleTicks := 0
    counters :=
      { retired := hart.counters.retired, environmentCalls := hart.counters.environmentCalls } }

/-- The hart without its program counter and without the counters that depend on how a program is
run. -/
def essential (hart : Hart) : Hart := { hart.uncounted with pc := 0 }

/-- A change that concerns neither the registers nor the exit code. -/
structure Aside (change : Hart → Hart) : Prop where
  register : ∀ hart r, (change hart).register r = hart.register r
  setRegister : ∀ hart r value,
    change (hart.setRegister r value) = (change hart).setRegister r value
  exit : ∀ hart exitCode, change { hart with exitCode } = { change hart with exitCode }

/-- A change concerns neither the registers nor the exit code if it may be exchanged with setting
them. -/
theorem Aside.of_exchange (kept : ∀ hart, (change hart).registers = hart.registers)
    (registers : ∀ hart registers, change { hart with registers } = { change hart with registers })
    (exit : ∀ hart exitCode, change { hart with exitCode } = { change hart with exitCode }) :
    Aside change where
  register hart r := by rw [Hart.register, kept, Hart.register]
  setRegister hart r value := by
    unfold Hart.setRegister
    split
    · rfl
    · rw [registers, kept]
  exit := exit

theorem aside_count {f : Counters → Counters} : Aside (·.count f) :=
  .of_exchange (fun _ => rfl) (fun _ _ => rfl) fun _ _ => rfl

theorem aside_essential : Aside essential :=
  .of_exchange (fun _ => rfl) (fun _ _ => rfl) fun _ _ => rfl

theorem aside_uncounted : Aside uncounted :=
  .of_exchange (fun _ => rfl) (fun _ _ => rfl) fun _ _ => rfl

end Hart

namespace FlatPlatform

variable {p q : FlatPlatform} {change : Hart → Hart}

/-- The platform without the counters that depend on how a program is run. -/
def uncounted (platform : FlatPlatform) : FlatPlatform := platform.onHart Hart.uncounted

/-- The platform with the essential part of its hart. -/
def essential (platform : FlatPlatform) : FlatPlatform := platform.onHart Hart.essential

theorem essential_of_uncounted (same : p.uncounted = q.uncounted) : p.essential = q.essential :=
  congrArg (·.onHart ({ · with pc := 0 })) same

/-- A change of the hart that does not depend on the other counters. -/
theorem uncounted_onHart_congr
    (independent : ∀ hart, (change hart).uncounted = (change hart.uncounted).uncounted)
    (same : p.uncounted = q.uncounted) :
    (p.onHart change).uncounted = (q.onHart change).uncounted := by
  simp only [uncounted, onHart, FlatPlatform.mk.injEq] at same ⊢
  exact ⟨by rw [independent p.hart, same.1, ← independent q.hart], same.2⟩

/-- A change of the hart that depends on its essential part only. -/
theorem essential_onHart_congr
    (independent : ∀ hart, (change hart).essential = (change hart.essential).essential)
    (same : p.essential = q.essential) :
    (p.onHart change).essential = (q.onHart change).essential := by
  simp only [essential, onHart, FlatPlatform.mk.injEq] at same ⊢
  exact ⟨by rw [independent p.hart, same.1, ← independent q.hart], same.2⟩

/-- Platforms with the same essential part. -/
theorem essential_eq_iff :
    p.essential = q.essential ↔ p.hart.essential = q.hart.essential ∧ p.memory = q.memory ∧
      p.host = q.host := by
  simp [essential, onHart]

/-- An environment call depends on registers only, and leaves the rest of the hart alone. -/
theorem environmentCall_onHart (aside : Hart.Aside change) :
    (p.onHart change).environmentCall = p.environmentCall.map (·.onHart change) := by
  have register (r : Reg) : (p.onHart change).hart.register r = p.hart.register r :=
    aside.register p.hart r
  unfold environmentCall
  simp only [register]
  split
  · rfl
  · rfl
  · simp only [onHart]
    cases p.memory.stringAt (p.hart.register argumentRegister).toNat <;> rfl
  · have read : (p.onHart change).readInput = p.readInput.map fun result =>
      (result.1, result.2.onHart change) := by
      unfold readInput onHart
      cases p.host.input.next.1 <;> rfl
    rw [read]
    cases p.readInput with
    | error fault => rfl
    | ok result =>
      exact congrArg (fun hart => Except.ok { result.2 with hart }) (aside.setRegister _ _ _).symm
  · exact congrArg (fun hart => Except.ok { p with hart }) (aside.exit _ _).symm
  · rfl
  · rfl

/-- What an environment call can do: apart from the host, it changes nothing, the register of its
result or the exit code. -/
theorem environmentCall_cases (served : p.environmentCall = .ok q) : ∃ host : Host,
    q = { p with host } ∨
    (∃ value, q = { p with host, hart := p.hart.setRegister argumentRegister value }) ∨
    ∃ code, q = { p with host, hart := { p.hart with exitCode := some code } } := by
  unfold environmentCall at served
  dsimp only at served
  split at served
  · cases served
    exact ⟨_, .inl rfl⟩
  · cases served
    exact ⟨_, .inl rfl⟩
  · obtain ⟨text, -, served⟩ := bind_eq_ok_iff.mp served
    cases served
    exact ⟨_, .inl rfl⟩
  · obtain ⟨⟨n, left⟩, taken, served⟩ := bind_eq_ok_iff.mp served
    obtain ⟨read, -, kept⟩ := bind_eq_ok_iff.mp (mapError_eq_ok_iff.mp taken)
    cases kept
    cases served
    exact ⟨_, .inr (.inl ⟨_, rfl⟩)⟩
  · cases served
    exact ⟨p.host, .inr (.inr ⟨_, rfl⟩)⟩
  · cases served
    exact ⟨p.host, .inl rfl⟩
  · cases served
    exact ⟨p.host, .inl rfl⟩

/-- An environment call does not move the program counter. -/
theorem pc_of_environmentCall (served : p.environmentCall = .ok q) : q.hart.pc = p.hart.pc := by
  obtain ⟨host, rfl | ⟨value, rfl⟩ | ⟨code, rfl⟩⟩ := environmentCall_cases served
  · rfl
  · exact Hart.pc_setRegister
  · rfl

/-- An environment call does not count anything. -/
theorem counters_of_environmentCall (served : p.environmentCall = .ok q) :
    q.hart.counters = p.hart.counters := by
  obtain ⟨host, rfl | ⟨value, rfl⟩ | ⟨code, rfl⟩⟩ := environmentCall_cases served
  · rfl
  · exact Hart.counters_setRegister
  · rfl

/-- An environment call writes no register but the one of its result. -/
theorem register_of_environmentCall (served : p.environmentCall = .ok q) {r : Reg}
    (other : r ≠ argumentRegister) : q.hart.register r = p.hart.register r := by
  obtain ⟨host, rfl | ⟨value, rfl⟩ | ⟨code, rfl⟩⟩ := environmentCall_cases served
  · rfl
  · exact Hart.register_setRegister_of_ne other.symm
  · rfl

/-- An environment call leaves memory alone. -/
theorem memory_of_environmentCall (served : p.environmentCall = .ok q) : q.memory = p.memory := by
  obtain ⟨host, rfl | ⟨value, rfl⟩ | ⟨code, rfl⟩⟩ := environmentCall_cases served <;> rfl

/-- Platforms with the same essential part serve the same environment calls. -/
theorem environmentCall_of_essential (same : p.essential = q.essential) :
    p.environmentCall.map essential = q.environmentCall.map essential := by
  have commutes (p : FlatPlatform) :
      p.environmentCall.map essential = p.essential.environmentCall :=
    (environmentCall_onHart Hart.aside_essential).symm
  rw [commutes, commutes, same]

end FlatPlatform

end FiveStage
