import FiveStage.Proofs.Platform.Flat

/-!
# Platforms act as flat platforms

Each action of a platform has the effect on the flat platform that the function of the same name
describes, and fails exactly where that function does, with the same failure. Timing, caches and log
are left out of the comparison, and therefore have no influence on it.

## Main definitions

* `Platform.Still`: nothing has changed but timing, caches and log
* `Platform.Simulates`: an action with the effect of a function on flat platforms

## Main results

* `Platform.read_ends`, `Platform.write_ends`: loads and stores
* `Platform.environmentCall_simulates`: environment calls
-/

namespace FiveStage

namespace Hart

variable {hart : Hart} {r : Reg} {value : Word}

@[simp] theorem untimed_setRegister :
    (hart.setRegister r value).untimed = hart.untimed.setRegister r value := by
  unfold setRegister
  split <;> rfl

end Hart

namespace Platform

variable {platform next : Platform} {address size : Nat} {α : Type}

theorem register_flat {r : Reg} : platform.flat.hart.register r = platform.hart.register r := rfl

/-- The next platform shows the same to a program, and its address space is sound. -/
structure Still (platform next : Platform) : Prop where
  sound : next.space.Sound
  flat : next.flat = platform.flat

/-- The action has the effect that a function describes, or its failure. -/
def Simulates (action : Action α) (effect : FlatPlatform → Except Failure FlatPlatform) : Prop :=
  ∀ platform : Platform, platform.space.Sound →
    Ends action platform
      (fun _ next => next.space.Sound ∧ effect platform.flat = .ok next.flat)
      (fun failure _ => effect platform.flat = .error failure)

/-! ### Single steps -/

section Steps

variable {ok : Unit → Platform → Prop} {failed : Failure → Platform → Prop}

@[simp] theorem ends_onHart {change : Hart → Hart} :
    Ends (onHart change) platform ok failed ↔
      ok () { platform with hart := change platform.hart } := Iff.rfl

@[simp] theorem ends_register {r : Reg} {ok : Word → Platform → Prop} :
    Ends (register r) platform ok failed ↔ ok (platform.hart.register r) platform := Iff.rfl

@[simp] theorem ends_print {text : String} :
    Ends (print text) platform ok failed ↔
      ok () { platform with host := platform.host.print text } := Iff.rfl

@[simp] theorem ends_report {severity : Severity} {line : Unit → String} :
    Ends (report severity line) platform ok failed ↔
      ok () { platform with log := platform.log.add severity line } := Iff.rfl

end Steps

theorem spaceRead_ends (sound : platform.space.Sound) (address size : Nat) :
    Ends (spaceOf.act (AddressSpace.read address size)) platform
      (fun result next => Still platform next ∧
        platform.flat.memory.read address size = .ok result.1)
      (fun fault next => Still platform next ∧
        platform.flat.memory.read address size = .error fault) := by
  rw [ends_act]
  refine Ends.mono (AddressSpace.read_ends ?_ address size) (fun result next served => ?_)
    fun fault next refused => ?_
  · exact sound
  · exact ⟨⟨served.1.sound, congrArg (FlatPlatform.mk _ · _) served.1.flat⟩, served.2⟩
  · exact ⟨⟨refused.1.sound, congrArg (FlatPlatform.mk _ · _) refused.1.flat⟩, refused.2⟩

theorem read_ends (sound : platform.space.Sound) (address size : Nat) :
    Ends (useSpace (AddressSpace.read address size)) platform
      (fun result next => Still platform next ∧
        platform.flat.memory.read address size = .ok result.1)
      (fun failure _ => ∃ fault, failure = .memory fault ∧
        platform.flat.memory.read address size = .error fault) := by
  rw [useSpace, ends_failingAs]
  exact (spaceRead_ends sound address size).mono (fun _ _ served => served)
    fun fault _ refused => ⟨fault, rfl, refused.2⟩

theorem write_ends (sound : platform.space.Sound) (address : Nat) (value : Word) (size : Nat) :
    Ends (useSpace (AddressSpace.write address value size)) platform
      (fun _ next => next.space.Sound ∧
        next.flat = { platform.flat with memory := next.flat.memory } ∧
        platform.flat.memory.write address value size = .ok next.flat.memory)
      (fun failure _ => ∃ fault, failure = .memory fault ∧
        platform.flat.memory.write address value size = .error fault) := by
  rw [useSpace, ends_failingAs, ends_act]
  refine Ends.mono (AddressSpace.write_ends ?_ address value size) (fun _ next served => ?_)
    fun fault next refused => ?_
  · exact sound
  · exact ⟨served.1.sound, rfl, served.2⟩
  · exact ⟨fault, rfl, refused.2⟩

/-! ### Environment calls -/

theorem scanString_ends (sound : platform.space.Sound) (scan : Scan) (unended : scan.ended = false)
    (limit : Nat) :
    Ends (scanString scan limit) platform
      (fun result next => Still platform next ∧
        platform.flat.memory.scanString scan.characters scan.address limit =
          .ok (result.characters, result.ended, result.address))
      (fun failure _ => ∃ fault, failure = .memory fault ∧
        platform.flat.memory.scanString scan.characters scan.address limit = .error fault) := by
  induction limit generalizing scan platform with
  | zero => exact ⟨⟨sound, rfl⟩, by rw [unended]; rfl⟩
  | succ limit ih =>
    simp only [scanString, FlatMemory.scanString, ends_bind]
    refine (read_ends sound scan.address 1).mono
      (fun result next served => ?_) fun failure _ refused => ?_
    · obtain ⟨still, value⟩ := served
      rw [value, ok_bind, ends_ite]
      split
      · exact ⟨still, rfl⟩
      · have later := ih still.sound { scan with
          cycles := max scan.cycles result.2
          characters := scan.characters ++ [characterOf result.1]
          address := scan.address + 1 } unended
        rw [still.flat] at later
        exact later.mono (fun _ last served =>
          ⟨⟨served.1.sound, served.1.flat.trans still.flat⟩, served.2⟩)
          fun _ _ refused => refused
    · obtain ⟨fault, rfl, refused⟩ := refused
      exact ⟨fault, rfl, by rw [refused, error_bind]⟩

theorem printString_ends (sound : platform.space.Sound) (address : Nat) :
    Ends (printString address) platform
      (fun _ next => next.space.Sound ∧ ∃ text, platform.flat.memory.stringAt address = .ok text ∧
        next.flat = platform.flat.print text)
      (fun failure _ => ∃ fault, failure = .memory fault ∧
        platform.flat.memory.stringAt address = .error fault) := by
  simp only [printString, FlatMemory.stringAt, ends_bind]
  refine (scanString_ends sound { address } rfl stringLimit).mono (fun scan next scanned => ?_)
    fun failure _ refused => ?_
  · obtain ⟨still, characters⟩ := scanned
    rw [characters, ok_bind]
    cases ended : scan.ended with
    | true =>
      simp only [if_true, ends_bind, ends_pure, ends_print, Bool.false_eq_true, if_false,
        pure_eq_ok, ok_bind]
      exact ⟨still.sound, _, rfl, congrArg (FlatPlatform.print · _) still.flat⟩
    | false =>
      simp only [Bool.false_eq_true, if_false, ends_bind, ends_pure, pure_eq_ok]
      -- a string without an end is looked at once more, for the remark
      refine (read_ends still.sound scan.address 1).mono
        (fun result last served => ?_) fun failure _ refused => ?_
      · obtain ⟨still', value⟩ := served
        rw [still.flat] at value
        rw [value, ok_bind, ok_bind]
        have flat := still'.flat.trans still.flat
        by_cases null : result.1 = 0
        · simp only [null, ne_eq, not_true_eq_false, decide_false, Bool.false_eq_true, if_false]
          exact ⟨still'.sound, _, rfl, congrArg (FlatPlatform.print · _) flat⟩
        · simp only [null, ne_eq, not_false_eq_true, decide_true, if_true, ends_bind, ends_report,
            ends_print]
          exact ⟨still'.sound, _, rfl, congrArg (FlatPlatform.print · _) flat⟩
      · obtain ⟨fault, rfl, refused⟩ := refused
        rw [still.flat] at refused
        exact ⟨fault, rfl, by rw [refused]; rfl⟩
  · obtain ⟨fault, rfl, refused⟩ := refused
    exact ⟨fault, rfl, by rw [refused, error_bind]⟩

theorem environmentCall_simulates : Simulates environmentCall FlatPlatform.environmentCall := by
  intro platform sound
  simp only [environmentCall, FlatPlatform.environmentCall, ends_bind, ends_register, register_flat]
  generalize HostService.ofNumber? (platform.hart.register callRegister).toNat = service
  generalize platform.hart.register argumentRegister = argument
  rcases service with - | service
  · exact ⟨sound, rfl⟩
  cases service with
  | sleep => exact ⟨sound, rfl⟩
  | printInteger => exact ⟨sound, rfl⟩
  | printCharacter => exact ⟨sound, rfl⟩
  | exit => exact ⟨sound, rfl⟩
  | printString =>
    simp only [ends_bind, ends_report]
    refine (printString_ends ?_ argument.toNat).mono
      (fun _ next printed => ?_) fun failure _ refused => ?_
    · exact sound
    · obtain ⟨sound', text, characters, flat⟩ := printed
      have characters' : platform.flat.memory.stringAt argument.toNat = .ok text := characters
      refine ⟨sound', ?_⟩
      rw [characters', mapError_ok, ok_bind, flat]
      rfl
    · obtain ⟨fault, rfl, refused⟩ := refused
      have refused' : platform.flat.memory.stringAt argument.toNat = .error fault := refused
      rw [refused', mapError_error, error_bind]
  | readInteger =>
    simp only [readInput, FlatPlatform.readInput, ends_bind, ends_report, ends_get, ends_set,
      ends_failingAs]
    rw [show platform.flat.host = platform.host from rfl]
    cases taken : platform.host.input.next.1 with
    | ok n =>
      simp only [ends_settle_ok, ends_onHart, ends_pure, ok_bind, pure_eq_ok, mapError_ok]
      refine ⟨sound, ?_⟩
      simp only [flat, FlatPlatform.onHart, Hart.untimed_setRegister]
    | error fault =>
      simp only [ends_settle_error, error_bind, mapError_error]

end Platform

end FiveStage
