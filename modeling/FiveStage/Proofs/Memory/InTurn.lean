import Mathlib.Data.Set.Subsingleton
import FiveStage.Proofs.Memory.Candidates

/-!
# Bytes that are read in turn

A program that goes along a string reads one byte after the other. Each of the reads goes through
the caches and changes what they hold, so that a byte may depend on the reads before it: if an image
was loaded over a block that a cache has, the read of another block can make the cache give it up.
Where only one byte may be read, however, this is the byte that is read at any time.

## Main definitions

* `AddressSpace.afterByte`, `AddressSpace.afterBytes`: an address space after a byte was read, and
  after several were
* `AddressSpace.byteInTurn`: the byte that is read after those before it

## Main results

* `AddressSpace.read_inTurn`: reading a byte, whatever was reported before
* `AddressSpace.exists_inTurn`: the bytes of a string are some that may be read
* `AddressSpace.byteSeen_eq`: where only one byte may be read, it stays the same
-/

namespace FiveStage

namespace AddressSpace

variable {space next : AddressSpace} {candidates : Nat → Set UInt8} {address x : Nat}

/-- The address space after a byte was read. -/
def afterByte (space : AddressSpace) (address : Nat) : AddressSpace :=
  (leftBy (AddressSpace.read address 1) ⟨space, {}⟩).value

/-- The address space after the given number of bytes were read, one after the other, from an
address on. -/
def afterBytes (space : AddressSpace) (address : Nat) : Nat → AddressSpace
  | 0 => space
  | n + 1 => (space.afterBytes address n).afterByte (address + n)

/-- The byte that is read at a distance from an address, after all those before it were read. -/
def byteInTurn (space : AddressSpace) (address distance : Nat) : Except MemoryFault Word :=
  (space.afterBytes address distance).byteSeen (address + distance)

/-! ### The log -/

/-- An action that does the same whatever was logged before. -/
abbrev Unlogged {α : Type} (use : Use α) : Prop := Parallel Eq (Logged.Related Eq) use use

theorem request_unlogged (request : Request) : Unlogged (AddressSpace.request request) := by
  refine parallel_get.bind fun state twin same => ?_
  obtain ⟨space, log⟩ := state
  obtain ⟨space', log'⟩ := twin
  obtain rfl : space = space' := same
  refine Parallel.bind (parallel_set rfl) fun _ _ _ => ?_
  refine (parallel_settle (.refl _)).bind fun access access' same => ?_
  exact parallel_pure (by rw [same])

theorem readBytes_unlogged (address length : Nat) : Unlogged (readBytes address length) := by
  refine parallel_get.bind fun state twin same => ?_
  rw [show state.value = twin.value from same]
  refine (parallel_settle (.refl _)).bind fun physical physical' same => ?_
  rw [← same]
  exact request_unlogged _

/-- What is read and what is left behind do not depend on the log. -/
theorem read_unlogged (address size : Nat) : Unlogged (AddressSpace.read address size) := by
  have checked : Unlogged (checkSize address size) :=
    .ite Iff.rfl (parallel_throw _) (parallel_pure rfl)
  refine checked.bind fun _ _ _ => ?_
  refine (readBytes_unlogged address size).bind fun served served' same => ?_
  exact parallel_pure (by rw [same])

/-! ### One byte -/

/-- Where no page is mapped, the read of a byte fails and changes nothing. -/
theorem read_inTurn_of_unmapped (unmapped : space.pages.isMapped address = false) (log : Log) :
    Ends (AddressSpace.read address 1) ⟨space, log⟩ (fun _ _ => False)
      fun fault next => fault = .unmapped address ∧ next.value = space := by
  have nowhere : space.pages.translate address = .error (.unmapped address) := by
    unfold PageTable.isMapped at unmapped
    unfold PageTable.translate
    cases frame : space.pages.frame? address with
    | none => rfl
    | some frame' =>
      rw [frame] at unmapped
      cases unmapped
  simp only [AddressSpace.read, readBytes, translate, ends_bind, checkSize_ends, ends_get, nowhere]
  rw [if_neg (by decide)]
  exact ⟨rfl, rfl⟩

theorem byteSeen_of_unmapped (unmapped : space.pages.isMapped address = false) :
    space.byteSeen address = .error (.unmapped address) := by
  have read := read_inTurn_of_unmapped unmapped {}
  unfold byteSeen
  cases run : (AddressSpace.read address 1).run ⟨space, {}⟩ with
  | ok result next => exact (read.of_ok run).elim
  | error fault next => exact congrArg Except.error (read.of_error run).1

/-- Where a page is mapped, the read of a byte gives what is seen there. -/
theorem read_inTurn (offers : space.Offers candidates)
    (mapped : space.pages.isMapped address = true) (log : Log) :
    Ends (AddressSpace.read address 1) ⟨space, log⟩
      (fun result next => space.byteSeen address = .ok result.1 ∧
        next.value = space.afterByte address) fun _ _ => False := by
  obtain ⟨b, -, seen⟩ := byteSeen_mem offers mapped
  have alike := read_unlogged address 1 ⟨space, log⟩ ⟨space, {}⟩ rfl
  unfold byteSeen at seen ⊢
  unfold Ends afterByte leftBy
  cases run : (AddressSpace.read address 1).run ⟨space, log⟩ <;>
    cases run' : (AddressSpace.read address 1).run ⟨space, {}⟩ <;> rw [run, run'] at alike
  · obtain ⟨rfl, same⟩ := alike
    exact ⟨rfl, same⟩
  · exact alike.elim
  · exact alike.elim
  · rw [run'] at seen
    cases seen

/-- Reading leaves the pages alone. -/
theorem pages_afterByte (space : AddressSpace) (address : Nat) :
    (space.afterByte address).pages = space.pages := by
  have ends : Ends (AddressSpace.read address 1) ⟨space, {}⟩
      (fun _ next => next.value.pages = space.pages)
      fun _ next => next.value.pages = space.pages := by
    simp only [AddressSpace.read, readBytes, AddressSpace.request, translate, ends_bind,
      checkSize_ends, ends_get, ends_set]
    rw [if_neg (by decide)]
    cases space.pages.translate address with
    | error fault => exact rfl
    | ok physical =>
      simp only [ends_settle_ok]
      cases (space.storage.serve (.read physical 1)).1.outcome <;> exact rfl
  exact ends.leftBy

theorem offers_afterByte (offers : space.Offers candidates) (address : Nat) :
    (space.afterByte address).Offers candidates := by
  have offers' : (Logged.mk space {}).value.Offers candidates := offers
  have ends : Ends (AddressSpace.read address 1) ⟨space, {}⟩
      (fun _ next => space.Onward candidates next.value)
      fun _ next => space.Onward candidates next.value := read_offers offers' address 1
  exact ends.leftBy.offers

/-! ### Many bytes -/

theorem pages_afterBytes (space : AddressSpace) (address n : Nat) :
    (space.afterBytes address n).pages = space.pages := by
  induction n with
  | zero => rfl
  | succ n ih => rw [afterBytes, pages_afterByte, ih]

theorem offers_afterBytes (offers : space.Offers candidates) (address n : Nat) :
    (space.afterBytes address n).Offers candidates := by
  induction n with
  | zero => exact offers
  | succ n ih => exact offers_afterByte ih _

/-- The bytes from an address on, as far as pages are mapped: the ones that are read in turn, each
of which is among those that may be read. -/
theorem exists_inTurn (offers : space.Offers candidates) (address : Nat) :
    ∃ string : Nat → UInt8, ∀ i, space.pages.isMapped (address + i) = true →
      space.byteInTurn address i = .ok (BitVec.ofNat 64 (string i).toNat) ∧
        string i ∈ candidates (address + i) := by
  have each (i : Nat) : ∃ b : UInt8, space.pages.isMapped (address + i) = true →
      space.byteInTurn address i = .ok (BitVec.ofNat 64 b.toNat) ∧
        b ∈ candidates (address + i) := by
    by_cases mapped : space.pages.isMapped (address + i) = true
    · have mapped' : (space.afterBytes address i).pages.isMapped (address + i) = true := by
        rwa [pages_afterBytes]
      obtain ⟨b, shown, seen⟩ := byteSeen_mem (offers_afterBytes offers address i) mapped'
      exact ⟨b, fun _ => ⟨seen, shown⟩⟩
    · exact ⟨0, fun mapped' => absurd mapped' mapped⟩
  exact ⟨fun i => (each i).choose, fun i => (each i).choose_spec⟩

/-- Where only one byte may be read, spaces with the same pages show the same. -/
theorem byteSeen_eq (offers : space.Offers candidates) (offers' : next.Offers candidates)
    (pages : next.pages = space.pages) (settled : (candidates x).Subsingleton) :
    next.byteSeen x = space.byteSeen x := by
  cases mapped : space.pages.isMapped x with
  | true =>
    obtain ⟨b, shown, seen⟩ := byteSeen_mem offers mapped
    obtain ⟨b', shown', seen'⟩ := byteSeen_mem offers' (pages ▸ mapped)
    rw [seen, seen', settled shown shown']
  | false => rw [byteSeen_of_unmapped mapped, byteSeen_of_unmapped (pages ▸ mapped)]

end AddressSpace

end FiveStage
