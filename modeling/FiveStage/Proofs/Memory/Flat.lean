import FiveStage.AddressSpace
import FiveStage.Proofs.Cache.Flatness
import FiveStage.Proofs.Memory.Pages

/-!
# Address spaces as flat memories

To a program, an address space is a page table with one byte at each mapped address. Whether an
access is possible depends on the page table alone, and what it reads or leaves does not depend on
the caches.

## Main definitions

* `FlatMemory`: a page table with the bytes at virtual addresses
* `FlatMemory.check`, `FlatMemory.read`, `FlatMemory.write`: accesses to a flat memory
* `AddressSpace.Sound`, `AddressSpace.flat`: a sound address space, and the flat memory it shows
* `AddressSpace.Unchanged`, `AddressSpace.Overwritten`: what a read and a write leave
* `AddressSpace.byteSeen`: the byte that a program reads at an address

## Main results

* `AddressSpace.read_ends`, `AddressSpace.write_ends`: an address space serves accesses as the flat
  memory that it shows
-/

namespace FiveStage

/-- A page table, and the bytes at virtual addresses. -/
structure FlatMemory where
  pages : PageTable
  bytes : Contents

namespace FlatMemory

/-- Refuses an access that is too large, whose page is not mapped, or that leaves its block. The
block is one of physical memory. -/
def check (memory : FlatMemory) (address size : Nat) : Except MemoryFault Unit := do
  if size > 8 then
    throw (.access address (.invalidSize size))
  let physical ← memory.pages.translate address
  if blockOffset physical + size > blockSize then
    throw (.access physical (.crossesBlock size))

section Check

variable {memory : FlatMemory} {address size physical : Nat} {fault : MemoryFault}

theorem check_of_large (large : size > 8) :
    memory.check address size = .error (.access address (.invalidSize size)) := by
  simp only [check, if_pos large]
  rfl

theorem check_of_unmapped (small : ¬ size > 8)
    (there : memory.pages.translate address = .error fault) :
    memory.check address size = .error fault := by
  simp only [check, if_neg small, there]
  rfl

theorem check_of_crosses (small : ¬ size > 8) (here : memory.pages.translate address = .ok physical)
    (crosses : ¬ blockOffset physical + size ≤ blockSize) :
    memory.check address size = .error (.access physical (.crossesBlock size)) := by
  simp only [check, if_neg small, here]
  exact if_pos (Nat.lt_of_not_le crosses)

theorem check_of_inBlock (small : ¬ size > 8) (here : memory.pages.translate address = .ok physical)
    (inBlock : blockOffset physical + size ≤ blockSize) : memory.check address size = .ok () := by
  simp only [check, if_neg small, here]
  exact if_neg (Nat.not_lt.mpr inBlock)

theorem fault_of_check (refused : memory.check address size = .error fault) :
    (∃ a kind, fault = .access a kind) ∨ ∃ a, fault = .unmapped a := by
  by_cases large : size > 8
  · rw [check_of_large large] at refused
    exact .inl ⟨_, _, (Except.error.inj refused).symm⟩
  · cases here : memory.pages.translate address with
    | error cause =>
      rw [check_of_unmapped large here] at refused
      obtain rfl := Except.error.inj refused
      unfold PageTable.translate at here
      split at here
      · cases here
      · exact .inr ⟨_, (Except.error.inj here).symm⟩
    | ok physical =>
      by_cases inBlock : blockOffset physical + size ≤ blockSize
      · rw [check_of_inBlock large here inBlock] at refused
        cases refused
      · rw [check_of_crosses large here inBlock] at refused
        exact .inl ⟨_, _, (Except.error.inj refused).symm⟩

end Check

/-- Reads a little-endian number of the given size. -/
def read (memory : FlatMemory) (address size : Nat) : Except MemoryFault Word := do
  memory.check address size
  return BitVec.ofNat 64 (memory.bytes.read address size).toNat

/-- Writes the low bytes of a word as a little-endian number of the given size. -/
def write (memory : FlatMemory) (address : Nat) (value : Word) (size : Nat) :
    Except MemoryFault FlatMemory := do
  memory.check address size
  return { memory with bytes := memory.bytes.write address (Bytes.ofNat size value.toNat) }

end FlatMemory

namespace AddressSpace

variable {space : AddressSpace} {state : Logged AddressSpace} {address size physical : Nat}
    {request : Request}

/-- The page table and the storage of an address space are in order. -/
structure Sound (space : AddressSpace) : Prop where
  pages : space.pages.Sound
  storage : space.storage.Coherent (space.pages.frames * pageSize)

/-- The flat memory that a program sees; where nothing is mapped there are zeros. -/
def flat (space : AddressSpace) : FlatMemory where
  pages := space.pages
  bytes address :=
    match space.pages.translate address with
    | .ok physical => space.storage.view physical
    | .error _ => 0

theorem flat_bytes_of_translate (here : space.pages.translate address = .ok physical) :
    space.flat.bytes address = space.storage.view physical := by
  simp only [flat, here]

theorem flat_congr {other : AddressSpace} (pages : other.pages = space.pages)
    (view : other.storage.view = space.storage.view) : other.flat = space.flat := by
  simp only [flat, pages, view]

/-! ### Requests -/

/-- A block lies inside a page. -/
theorem pageOffset_add_lt (here : space.pages.translate address = .ok physical)
    (inBlock : blockOffset physical + size ≤ blockSize) {offset : Nat} (inside : offset < size) :
    pageOffset address + offset < pageSize := by
  obtain ⟨frame, -, place⟩ := PageTable.translate_eq_ok_iff.mp here
  simp only [blockOffset, blockSize, pageOffset, pageSize] at *
  omega

/-- Inside a block translations advance with the addresses. -/
theorem translate_of_inside (here : space.pages.translate address = .ok physical)
    (inBlock : blockOffset physical + size ≤ blockSize) {place : Nat}
    (inside : physical ≤ place ∧ place < physical + size) :
    space.pages.translate (address + (place - physical)) = .ok place := by
  have there := PageTable.translate_add here
    (pageOffset_add_lt here inBlock (show place - physical < size by omega))
  rwa [Nat.add_sub_cancel' inside.1] at there

/-- What is read at a virtual address is what the storage shows at its translation. -/
theorem read_flat_bytes (here : space.pages.translate address = .ok physical)
    (inBlock : blockOffset physical + size ≤ blockSize) :
    space.flat.bytes.read address size = space.storage.view.read physical size := by
  apply Contents.eq_read_of_getD Contents.length_read
  intro offset inside
  rw [Contents.getD_read inside]
  exact flat_bytes_of_translate
    (PageTable.translate_add here (pageOffset_add_lt here inBlock inside))

/-- Bytes were written at the translation of an address, inside a block. -/
structure Overwritten (space next : AddressSpace) (address : Nat) (bytes : Bytes) : Prop where
  sound : next.Sound
  pages : next.pages = space.pages
  place : ∃ physical, space.pages.translate address = .ok physical ∧
    blockOffset physical + bytes.length ≤ blockSize ∧
    next.storage.view = space.storage.view.write physical bytes

namespace Overwritten

variable {next : AddressSpace} {bytes : Bytes}

/-- Outside of the access nothing is translated into it. -/
theorem outside (overwritten : space.Overwritten next address bytes) (sound : space.pages.Sound)
    {a place : Nat} (there : space.pages.translate a = .ok place)
    (away : a < address ∨ address + bytes.length ≤ a) :
    next.storage.view place = space.storage.view place := by
  obtain ⟨physical, here, inBlock, view⟩ := overwritten.place
  rw [view]
  by_cases inside : physical ≤ place ∧ place < physical + bytes.length
  · have same := sound.translate_inj there (translate_of_inside here inBlock inside)
    omega
  · exact Contents.write_of_outside (by omega)

/-- What is written at a translation is written at the virtual address, and nowhere else. -/
theorem flat_bytes (overwritten : space.Overwritten next address bytes)
    (sound : space.pages.Sound) :
    next.flat.bytes = space.flat.bytes.write address bytes := by
  obtain ⟨physical, here, inBlock, view⟩ := overwritten.place
  funext a
  by_cases within : address ≤ a ∧ a < address + bytes.length
  · have there := PageTable.translate_add here
      (pageOffset_add_lt here inBlock (show a - address < bytes.length by omega))
    rw [Nat.add_sub_cancel' within.1] at there
    rw [Contents.write, if_pos within, flat_bytes_of_translate (overwritten.pages ▸ there), view,
      Contents.write, if_pos (by omega), Nat.add_sub_cancel_left]
  · rw [Contents.write_of_outside (by omega)]
    simp only [flat, overwritten.pages]
    cases there : space.pages.translate a with
    | error fault => rfl
    | ok place => exact overwritten.outside sound there (by omega)

/-- What no address is translated to stays. -/
theorem elsewhere (overwritten : space.Overwritten next address bytes) {place : Nat}
    (nowhere : ∀ a, space.pages.translate a ≠ .ok place) :
    next.storage.view place = space.storage.view place := by
  obtain ⟨physical, here, inBlock, view⟩ := overwritten.place
  rw [view]
  by_cases inside : physical ≤ place ∧ place < physical + bytes.length
  · exact absurd (translate_of_inside here inBlock inside) (nowhere _)
  · exact Contents.write_of_outside (by omega)

end Overwritten

theorem request_ends_of_inBlock (sound : state.value.Sound) (inBlock : request.InBlock)
    (inside : request.address < state.value.pages.frames * pageSize) :
    Ends (AddressSpace.request request) state
      (fun result next => next.value.Sound ∧ next.value.pages = state.value.pages ∧
        next.value.storage.view = request.apply state.value.storage.view ∧ (request.kind = .read →
          result.2 = state.value.storage.view.read request.address request.length))
      fun _ _ => False := by
  have aligned : state.value.pages.frames * pageSize % blockSize = 0 := by
    simp only [pageSize, blockSize]
    omega
  obtain ⟨coherent, answers⟩ :=
    Chain.transparent aligned 3 request state.value.storage sound.storage inBlock
  simp only [AddressSpace.request, ends_bind, ends_get, ends_set]
  unfold Answers at answers
  cases outcome : (state.value.storage.serve request).1.outcome with
  | ok access =>
    rw [outcome] at answers
    obtain ⟨after, -, delivers⟩ := answers
    simp only [ends_settle_ok, ends_pure]
    exact ⟨⟨sound.pages, coherent⟩, trivial, after,
      fun reads => by rw [delivers reads, Option.getD_some]⟩
  | error fault =>
    rw [outcome] at answers
    exact absurd answers.2.1 (Nat.not_le.mpr inside)

/-- A request that leaves its block is refused by the cache at the top. -/
theorem request_ends_of_crosses
    (arranged : ∀ cache below, state.value.storage = .level cache below → cache.Arranged)
    (leaves : ¬ request.InBlock) :
    Ends (AddressSpace.request request) state (fun _ _ => False)
      fun fault next => next.value = state.value ∧
        fault = .access request.address (.crossesBlock request.length) := by
  obtain ⟨⟨storage, pages⟩, log⟩ := state
  cases storage with
  | level cache below =>
    have configured : cache.isConfigured = true := (arranged cache below rfl).isConfigured
    have refused : cache.refusal? request = some (.crossesBlock request.length) := by
      rw [Cache.refusal?, configured, if_neg (by simp), if_pos (Nat.lt_of_not_le leaves)]
    simp only [AddressSpace.request, ends_bind, ends_get, ends_set, Chain.serve, Cache.serve,
      refused, ends_settle_error, and_self]

theorem Sound.arranged (sound : space.Sound) {cache : Cache Unit} {below : Chain Unit 2}
    (top : space.storage = .level cache below) : cache.Arranged := by
  have coherent := sound.storage
  rw [top] at coherent
  exact coherent.2.arranged

/-! ### Accesses -/

/-- The next state has the same pages and shows the same storage. -/
structure Unchanged (state next : Logged AddressSpace) : Prop where
  sound : next.value.Sound
  pages : next.value.pages = state.value.pages
  view : next.value.storage.view = state.value.storage.view

theorem Unchanged.flat {next : Logged AddressSpace} (unchanged : Unchanged state next) :
    next.value.flat = state.value.flat :=
  flat_congr unchanged.pages unchanged.view

theorem checkSize_ends {ok : Unit → Logged AddressSpace → Prop}
    {failed : MemoryFault → Logged AddressSpace → Prop} :
    Ends (checkSize address size) state ok failed ↔
      if size > 8 then failed (.access address (.invalidSize size)) state else ok () state := by
  unfold checkSize
  split <;> rfl

/-- How an access goes: the check of the flat memory turns it away, which changes nothing, or it
becomes a request that stays inside its block. -/
theorem access_ends {make : Nat → Request} {ok : Access × Bytes → Logged AddressSpace → Prop}
    {failed : MemoryFault → Logged AddressSpace → Prop}
    (arranged : ∀ cache below, state.value.storage = .level cache below → cache.Arranged)
    (makes : ∀ physical, (make physical).address = physical ∧ (make physical).length = size)
    (served : ∀ physical, state.value.flat.check address size = .ok () →
      state.value.pages.translate address = .ok physical → (make physical).InBlock →
      Ends (AddressSpace.request (make physical)) state ok failed)
    (refused : ∀ fault next, state.value.flat.check address size = .error fault →
      next.value = state.value → failed fault next) :
    if size > 8 then failed (.access address (.invalidSize size)) state
    else Ends (settle (state.value.pages.translate address)) state
      (fun physical next => Ends (AddressSpace.request (make physical)) next ok failed) failed := by
  split
  · next large => exact refused _ _ (FlatMemory.check_of_large large) rfl
  · next small =>
    cases here : state.value.pages.translate address with
    | error fault => exact refused _ _ (FlatMemory.check_of_unmapped small here) rfl
    | ok physical =>
      obtain ⟨place, length⟩ := makes physical
      have fits : (make physical).InBlock ↔ blockOffset physical + size ≤ blockSize := by
        rw [Request.InBlock, place, length]
      rw [ends_settle_ok]
      by_cases inBlock : (make physical).InBlock
      · exact served physical (FlatMemory.check_of_inBlock small here (fits.mp inBlock)) here
          inBlock
      · refine (request_ends_of_crosses arranged inBlock).mono (fun _ _ none => none.elim)
          fun fault next crossing => ?_
        obtain ⟨same, rfl⟩ := crossing
        rw [place, length]
        exact refused _ _ (FlatMemory.check_of_crosses small here (inBlock ∘ fits.mpr)) same

/-- A read gives what the flat memory gives, or fails as it does; the memory stays. -/
theorem read_ends (sound : state.value.Sound) (address size : Nat) :
    Ends (AddressSpace.read address size) state
      (fun result next => Unchanged state next ∧ state.value.flat.read address size = .ok result.1)
      (fun fault next => Unchanged state next ∧
        state.value.flat.read address size = .error fault) := by
  simp only [AddressSpace.read, readBytes, translate, ends_bind, checkSize_ends, ends_get,
    ends_pure, FlatMemory.read]
  refine access_ends (fun _ _ => sound.arranged) (fun _ => ⟨rfl, rfl⟩)
    (fun physical checked here inBlock => ?_) fun fault next checked same => ?_
  · refine (request_ends_of_inBlock sound inBlock (sound.pages.translate_lt here)).mono
      (fun result next served => ?_) fun _ _ none => none.elim
    obtain ⟨sound', pages, view, delivers⟩ := served
    refine ⟨⟨sound', pages, view⟩, ?_⟩
    have bytes := (read_flat_bytes here inBlock).trans (delivers rfl).symm
    simp only [Request.length] at bytes
    rw [checked, bytes]
    rfl
  · exact ⟨⟨same ▸ sound, by rw [same], by rw [same]⟩, by rw [checked]; rfl⟩

/-- A write leaves what the flat memory leaves, or fails as it does and leaves the memory as it
is. -/
theorem write_ends (sound : state.value.Sound) (address : Nat) (value : Word) (size : Nat) :
    Ends (AddressSpace.write address value size) state
      (fun _ next => state.value.Overwritten next.value address (Bytes.ofNat size value.toNat) ∧
        state.value.flat.write address value size = .ok next.value.flat)
      (fun fault next => Unchanged state next ∧
        state.value.flat.write address value size = .error fault) := by
  simp only [AddressSpace.write, writeBytes, translate, ends_bind, checkSize_ends, ends_get,
    ends_pure, FlatMemory.write]
  refine access_ends (fun _ _ => sound.arranged) (fun _ => ⟨rfl, Bytes.length_ofNat ..⟩)
    (fun physical checked here inBlock => ?_) fun fault next checked same => ?_
  · refine (request_ends_of_inBlock sound inBlock (sound.pages.translate_lt here)).mono
      (fun result next served => ?_) fun _ _ none => none.elim
    obtain ⟨sound', pages, view, -⟩ := served
    have overwritten : state.value.Overwritten next.value address (Bytes.ofNat size value.toNat) :=
      ⟨sound', pages, physical, here, inBlock, view⟩
    refine ⟨overwritten, ?_⟩
    have bytes := overwritten.flat_bytes sound.pages
    have pages' : next.value.flat.pages = state.value.flat.pages := pages
    rw [checked, ← bytes, ← pages']
    rfl
  · exact ⟨⟨same ▸ sound, by rw [same], by rw [same]⟩, by rw [checked]; rfl⟩

/-- The byte that a program reads at an address, or the fault of reading there. -/
def byteSeen (space : AddressSpace) (address : Nat) : Except MemoryFault Word :=
  match (AddressSpace.read address 1).run ⟨space, {}⟩ with
  | .ok (byte, _) _ => .ok byte
  | .error fault _ => .error fault

theorem byteSeen_eq_flat {space : AddressSpace} (sound : space.Sound) (address : Nat) :
    space.byteSeen address = space.flat.read address 1 := by
  have read : Ends (AddressSpace.read address 1) ⟨space, {}⟩ _ _ :=
    read_ends sound address 1
  unfold byteSeen
  cases run : (AddressSpace.read address 1).run ⟨space, {}⟩ with
  | ok result next => exact (read.of_ok run).2.symm
  | error fault next => exact (read.of_error run).2.symm

end AddressSpace

end FiveStage
