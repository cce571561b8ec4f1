import FiveStage.Pipeline.Run
import FiveStage.Proofs.Memory.Candidates

/-!
# Loading into memory that is in use

A segment can be loaded at any time, also into pages that are mapped and that a program has used. It
is put into physical memory past the caches, which go on to show what they hold. So a loaded byte is
what is read from then on if no cache had its block, and in any case what is read is either the
loaded byte or one that could be read before. Behind the given bytes nothing is put: there are zeros
where nothing was put before.

The proof follows what is done to the memory, and keeps track of the bytes that may be read at each
address.

## Main definitions

* `Machine.Deed`, `Machine.afterDeeds`: loading segments and using the memory, in any order
* `Machine.candidates`: the bytes that may be read after that
* `Machine.Deed.InSpace`: deeds at 64-bit addresses
* `Machine.Spared`: an address that is not touched
* `Machine.TakesEffect`: what a segment that was loaded does to memory

## Main results

* `Machine.onward_afterDeeds`: the bytes that may be read are those that are tracked
* `Machine.takesEffect_of_loadSegment`: loading a segment takes effect, after any deeds
-/

namespace FiveStage

namespace Machine

open AddressSpace (laid)

variable {machine next : Machine} {before : Nat → Set UInt8} {deeds : List Deed}
  {touches touches' : Deed → Nat → Prop} {address memorySize x : Nat} {bytes : Bytes}

/-! ### Deeds -/

/-- What is done to the memory of a machine: a segment is loaded, or a program uses it. -/
inductive Deed
  | load (address : Nat) (bytes : Bytes) (memorySize : Nat)
  | call (call : AddressSpace.Call)

namespace Deed

/-- The deed as an action of the machine. -/
def act : Deed → Action Unit
  | load address bytes memorySize => loadSegment address bytes memorySize
  | call asked => onPlatform (Platform.useSpace asked.use)

/-- The deed puts a byte at the address. -/
def Puts : Deed → Nat → Prop
  | load address bytes _, x => address ≤ x ∧ x < address + bytes.length
  | call (.write address _ size), x => address ≤ x ∧ x < address + size
  | call _, _ => False

/-- The address is one of those that the deed is about: a segment may be longer than its bytes. -/
def Spans : Deed → Nat → Prop
  | load address bytes memorySize, x => address ≤ x ∧ x < address + max memorySize bytes.length
  | deed, x => deed.Puts x

/-- The deed keeps to addresses that are words; those of a segment or a range are added up in words
as well. -/
def InSpace : Deed → Prop
  | load address bytes memorySize => address + max memorySize bytes.length < 2 ^ 64
  | call (.mapRange address length) => address + length < 2 ^ 64
  | call (.mapPage address) | call (.read address _) | call (.write address _ _) => address < 2 ^ 64

/-- What may be read after a deed that succeeded. Where a cache had the block of a loaded byte, it
may still show what it had. -/
def leaves (machine : Machine) (before : Nat → Set UInt8) : Deed → Nat → Set UInt8
  | load address bytes _ => laid machine.platform.space.Cached address bytes before
  | call asked => asked.leaves before

/-- What may be read after a deed, given what could be read before. A deed that fails puts
nothing. -/
def candidates (deed : Deed) (machine : Machine) (before : Nat → Set UInt8) : Nat → Set UInt8 :=
  match deed.act.run machine with
  | .ok _ _ => deed.leaves machine before
  | .error _ _ => before

theorem spans_of_puts {deed : Deed} (puts : deed.Puts x) : deed.Spans x := by
  cases deed with
  | load address bytes memorySize =>
    obtain ⟨from_start, below⟩ := puts
    exact ⟨from_start, Nat.lt_of_lt_of_le below (by omega)⟩
  | call asked => exact puts

theorem leaves_of_not_puts {deed : Deed} (away : ¬ deed.Puts x) :
    deed.leaves machine before x = before x := by
  cases deed with
  | load address bytes memorySize => exact AddressSpace.laid_of_outside away
  | call asked =>
    cases asked with
    | write address value size =>
      apply AddressSpace.laid_of_outside
      rwa [Bytes.length_ofNat]
    | mapPage | mapRange | read => rfl

end Deed

/-- Using the address space changes the address space and the log. -/
theorem ends_useSpace {α : Type} {use : AddressSpace.Use α} {ok : α → Machine → Prop}
    {failed : Failure → Machine → Prop} :
    Ends (onPlatform (Platform.useSpace use)) machine ok failed ↔
      Ends use (Platform.spaceOf.get machine.platform)
        (fun a piece => ok a (platformOf.put (Platform.spaceOf.put piece machine.platform) machine))
        fun fault piece => failed (.memory fault)
          (platformOf.put (Platform.spaceOf.put piece machine.platform) machine) := by
  simp only [onPlatform, Platform.useSpace, ends_act, ends_failingAs]
  rfl

/-- A segment that is loaded is in memory, and the caches do not know of it. -/
theorem loadSegment_ends (offers : machine.platform.space.Offers before) :
    Ends (loadSegment address bytes memorySize) machine
      (fun _ next => machine.platform.space.Onward
          (laid machine.platform.space.Cached address bytes before) next.platform.space ∧
        machine.platform.space.Holding address bytes (max memorySize bytes.length)
          next.platform.space)
      fun _ next => machine.platform.space.Onward before next.platform.space := by
  have offers' : (Platform.spaceOf.get machine.platform).value.Offers before := offers
  exact ends_useSpace.mpr (AddressSpace.loadImage_offers offers' (Nat.le_max_right ..))

/-- After a deed, the bytes that may be read are those that are tracked. -/
theorem Deed.act_onward (deed : Deed) (offers : machine.platform.space.Offers before) :
    machine.platform.space.Onward (deed.candidates machine before)
      (leftBy deed.act machine).platform.space := by
  have ends : Ends deed.act machine
      (fun _ next => machine.platform.space.Onward (deed.leaves machine before) next.platform.space)
      fun _ next => machine.platform.space.Onward before next.platform.space := by
    cases deed with
    | load address bytes memorySize =>
      exact (loadSegment_ends offers).mono (fun _ _ loaded => loaded.1) fun _ _ kept => kept
    | call asked =>
      have offers' : (Platform.spaceOf.get machine.platform).value.Offers before := offers
      exact ends_useSpace.mpr (asked.use_offers offers')
  unfold candidates leftBy
  cases run : deed.act.run machine with
  | ok _ next => exact ends.of_ok run
  | error _ next => exact ends.of_error run

/-! ### Many deeds -/

/-- The machine after deeds that are done one after the other, whether they succeed or fail. -/
def afterDeeds (deeds : List Deed) (machine : Machine) : Machine :=
  deeds.foldl (fun machine deed => leftBy deed.act machine) machine

/-- What may be read after deeds, given what could be read before. -/
def candidates : List Deed → Machine → (Nat → Set UInt8) → Nat → Set UInt8
  | [], _, before => before
  | deed :: rest, machine, before =>
    candidates rest (leftBy deed.act machine) (deed.candidates machine before)

/-- No deed that touches the address succeeds. -/
def Spared (touches : Deed → Nat → Prop) (x : Nat) : List Deed → Machine → Prop
  | [], _ => True
  | deed :: rest, machine =>
    (touches deed x → ∃ failure next, deed.act.run machine = .error failure next) ∧
      Spared touches x rest (leftBy deed.act machine)

theorem Spared.mono (less : ∀ deed, touches' deed x → touches deed x)
    (spared : Spared touches x deeds machine) : Spared touches' x deeds machine := by
  induction deeds generalizing machine with
  | nil => trivial
  | cons deed rest ih =>
    obtain ⟨here, later⟩ := spared
    exact ⟨fun touched => here (less deed touched), ih later⟩

/-- After any deeds, the bytes that may be read are those that are tracked. -/
theorem onward_afterDeeds (deeds : List Deed) (offers : machine.platform.space.Offers before) :
    machine.platform.space.Onward (candidates deeds machine before)
      (afterDeeds deeds machine).platform.space := by
  induction deeds generalizing machine before with
  | nil => exact offers.onward rfl
  | cons deed rest ih =>
    have first := deed.act_onward offers
    exact first.trans (ih first.offers)

/-- What may be read at an address is a matter of the deeds that put bytes there. -/
theorem candidates_of_spared (spared : Spared Deed.Puts x deeds machine) :
    candidates deeds machine before x = before x := by
  induction deeds generalizing machine before with
  | nil => rfl
  | cons deed rest ih =>
    obtain ⟨here, later⟩ := spared
    rw [candidates, ih later, Deed.candidates]
    cases run : deed.act.run machine with
    | error failure next => rfl
    | ok _ next =>
      apply Deed.leaves_of_not_puts
      intro puts
      obtain ⟨failure, last, fails⟩ := here puts
      cases run.symm.trans fails

/-! ### Segments -/

/-- What a segment does to memory that is loaded into a machine after some deeds. It is in physical
memory as a whole, and the caches and the counters are as they were. Its bytes are read from then
on, until another deed is about their addresses; but where a cache had the block of one, that byte
or one that could be read before is read. Behind its bytes zeros are read where nothing was put
before. -/
structure TakesEffect (machine : Machine) (earlier : List Deed) (address : Nat) (bytes : Bytes)
    (memorySize : Nat) (after : Machine) : Prop where
  holding : (afterDeeds earlier machine).platform.space.Holding address bytes
    (max memorySize bytes.length) after.platform.space
  read : ∀ later : List Deed, (∀ deed ∈ later, deed.InSpace) →
    ∀ i < max memorySize bytes.length, Spared Deed.Spans (address + i) later after →
      ∃ b : UInt8, (afterDeeds later after).platform.space.byteSeen (address + i) =
          .ok (BitVec.ofNat 64 b.toNat) ∧
        (i < bytes.length → b = bytes.getD i 0 ∨
          (afterDeeds earlier machine).platform.space.Cached (address + i) ∧
            b ∈ candidates earlier machine (fun _ => {0}) (address + i)) ∧
        (bytes.length ≤ i → Spared Deed.Puts (address + i) earlier machine → b = 0)

theorem offers_of_ofSettings {settings : Settings} {heuristic : Heuristic} {host : Host} {log : Log}
    (made : ofSettings settings heuristic host log = .ok machine) :
    machine.platform.space.Offers fun _ => {0} := by
  obtain ⟨space, fresh, same⟩ := bind_eq_ok_iff.mp made
  obtain rfl := Except.ok.inj same
  exact AddressSpace.offers_of_ofSettings fresh

/-- A segment takes effect whenever it is loaded: after any segments that were loaded before, any
pages that were mapped and any accesses of a program, in any order. Segments and pages end inside
the address space; what is added up beyond it is no word. -/
theorem takesEffect_of_loadSegment {settings : Settings} {heuristic : Heuristic} {host : Host}
    {log : Log} {after : Machine} (made : ofSettings settings heuristic host log = .ok machine)
    (earlier : List Deed) (_inSpace : ∀ deed ∈ earlier, deed.InSpace)
    (_ends_inSpace : address + max memorySize bytes.length < 2 ^ 64)
    (loaded : (loadSegment address bytes memorySize).run (afterDeeds earlier machine) =
      .ok () after) : TakesEffect machine earlier address bytes memorySize after := by
  -- what could be read before is tracked from the fresh machine on, and what may be read later
  -- from the loading on
  have ready := (onward_afterDeeds earlier (offers_of_ofSettings made)).offers
  obtain ⟨onward, holding⟩ := (loadSegment_ends ready).of_ok loaded
  refine ⟨holding, fun later _ i inside spared => ?_⟩
  have last := onward_afterDeeds later onward.offers
  have mapped : (afterDeeds later after).platform.space.pages.isMapped (address + i) = true := by
    apply last.pages.isMapped
    exact holding.mapped _ (Nat.le_add_right ..) (by omega)
  obtain ⟨b, shown, seen⟩ := AddressSpace.byteSeen_mem last.offers mapped
  rw [candidates_of_spared (spared.mono fun _ => Deed.spans_of_puts)] at shown
  refine ⟨b, seen, fun within => ?_, fun behind untouched => ?_⟩
  · rw [laid, if_pos (by omega), Nat.add_sub_cancel_left] at shown
    exact shown
  · rw [AddressSpace.laid_of_outside (by omega), candidates_of_spared untouched] at shown
    exact shown

/-- The default settings with caches of two lines. -/
def tinySettings : Settings :=
  { Settings.default with levels := fun _ => ⟨⟨128, 1, 2, false, false⟩, ⟨1, 1⟩⟩ }

/-- A segment across the end of a page, the first of whose bytes is in a block that was read. -/
theorem takesEffect_of_loadSegment_acrossPages : ∃ machine after,
    ofSettings tinySettings .bimodal {} {} = .ok machine ∧
      TakesEffect machine [.load 0x1000 [1, 2] 0x1000, .call (.read 0x1ffe 1)] 0x1fff [3, 4] 8
        after := by
  have checked : (ofSettings tinySettings .bimodal {} {}).toOption.any (fun machine =>
      succeeds (loadSegment 0x1fff [3, 4] 8)
        (afterDeeds [.load 0x1000 [1, 2] 0x1000, .call (.read 0x1ffe 1)] machine)) = true := by
    decide +kernel
  obtain ⟨machine, made, checked⟩ := exists_ok_of_any checked
  obtain ⟨_, loaded⟩ := run_of_succeeds checked
  have inSpace : ∀ deed ∈ [Deed.load 0x1000 [1, 2] 0x1000, .call (.read 0x1ffe 1)],
      deed.InSpace := by
    simp [Deed.InSpace]
  exact ⟨machine, _, made, takesEffect_of_loadSegment made _ inSpace (by decide) loaded⟩

/-- A byte that a program has read is read again after another one was loaded in its place. -/
theorem outdated_after_loadSegment : ∃ machine after,
    ofSettings tinySettings .bimodal {} {} = .ok machine ∧
      (loadSegment 0x1000 [3] 1).run
        (afterDeeds [.load 0x1000 [1] 1, .call (.read 0x1000 1)] machine) = .ok () after ∧
      after.platform.space.byteSeen 0x1000 = .ok 1 := by
  have checked : (ofSettings tinySettings .bimodal {} {}).toOption.any (fun machine =>
      let before := afterDeeds [.load 0x1000 [1] 1, .call (.read 0x1000 1)] machine
      let after := leftBy (loadSegment 0x1000 [3] 1) before
      succeeds (loadSegment 0x1000 [3] 1) before ∧
        after.platform.space.byteSeen 0x1000 = .ok 1) = true := by
    decide +kernel
  obtain ⟨machine, made, checked⟩ := exists_ok_of_any checked
  obtain ⟨done, seen⟩ := of_decide_eq_true checked
  obtain ⟨_, loaded⟩ := run_of_succeeds done
  exact ⟨machine, _, made, loaded, seen⟩

end Machine

end FiveStage
