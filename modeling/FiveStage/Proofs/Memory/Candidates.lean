import FiveStage.Proofs.Cache.Outdated
import FiveStage.Proofs.Memory.ByteMap

/-!
# What may be read in an address space

Once an image was loaded over pages that are in use, an address space need not be a map of bytes any
more: a cache may have the block of a loaded byte, and goes on to show what it has. For each address
there is a set of bytes of which a read gives one. After a write it has the written byte alone, and
so it is after loading where no cache has the block; where one has it, the loaded byte comes in
addition to what could be read before.

Pages are mapped all the time. What carries the proof is therefore also true of the frames that are
not in use: no cache has a block of them, and they hold zeros.

## Main definitions

* `PageTable.Opened`: the blocks in the frames of mapped pages
* `AddressSpace.Cached`: addresses whose block is in some cache
* `AddressSpace.laid`: what may be read after bytes were put somewhere
* `AddressSpace.Offers`: what may be read at each address, now and later
* `AddressSpace.Onward`: a later space with the bytes that may be read there
* `AddressSpace.Holding`: a later space with an image in its memory
* `AddressSpace.stored`: the bytes in physical memory, by virtual address

## Main results

* `AddressSpace.byteSeen_mem`: a read of a byte gives one of those that may be read
* `AddressSpace.Call.use_offers`: what may be read after a call
* `AddressSpace.loadImage_offers`: what may be read after an image was loaded
* `AddressSpace.offers_of_ofSettings`: a fresh address space offers zeros
-/

namespace FiveStage

namespace PageTable

variable {table next : PageTable} {address physical n : Nat}

/-- The block is in the frame of a mapped page. -/
def Opened (table : PageTable) (n : Nat) : Prop :=
  ∃ address physical, table.translate address = .ok physical ∧ physical / blockSize = n

theorem opened_of_translate (here : table.translate address = .ok physical) :
    table.Opened (physical / blockSize) := ⟨address, physical, here, rfl⟩

theorem Grown.opened (grown : table.Grown next) (opens : table.Opened n) : next.Opened n := by
  obtain ⟨address, physical, here, number⟩ := opens
  exact ⟨address, physical, grown.translate here, number⟩

/-- Frames consist of whole blocks. -/
theorem Sound.inside (sound : table.Sound) (opens : table.Opened n) :
    (n + 1) * blockSize ≤ table.frames * pageSize := by
  obtain ⟨address, physical, here, number⟩ := opens
  have below := sound.translate_lt here
  simp only [blockSize, pageSize] at *
  omega

/-- A page that was just mapped has a frame that was not in use. -/
theorem Grown.not_opened (grown : table.Grown next)
    (here : next.translate address = .ok physical) (new : ∀ p, table.translate address ≠ .ok p) :
    ¬ table.Opened (physical / blockSize) := by
  rintro ⟨other, place, there, number⟩
  obtain ⟨frame, mapped, rfl⟩ := translate_eq_ok_iff.mp here
  obtain ⟨frame', mapped', rfl⟩ := translate_eq_ok_iff.mp there
  have offset := pageOffset_lt address
  have offset' := pageOffset_lt other
  simp only [pageSize, blockSize] at number offset offset'
  obtain rfl : frame = frame' := by omega
  -- the page that had the frame before is the one that has it now
  have page := grown.sound.injective _ _ _ mapped (grown.kept _ _ mapped')
  have before : table.frame? address = some frame := by
    rw [frame?, page]
    exact mapped'
  exact new _ (translate_eq_ok_iff.mpr ⟨frame, before, rfl⟩)

end PageTable

namespace AddressSpace

variable {space next : AddressSpace} {state : Logged AddressSpace} {address size physical : Nat}
  {bytes : Bytes} {request : Request} {candidates : Nat → Set UInt8} {stale : Nat → Prop}

/-! ### What may be read -/

/-- Some cache has the block of the address. -/
def Cached (space : AddressSpace) (address : Nat) : Prop :=
  ∃ physical, space.pages.translate address = .ok physical ∧
    ∃ cache ∈ space.storage.caches, cache.contains physical = true

/-- What may be read after bytes were put from an address on: each of them at its place, and where
copies are stale, what could be read there before. -/
def laid (stale : Nat → Prop) (address : Nat) (bytes : Bytes) (candidates : Nat → Set UInt8) :
    Nat → Set UInt8 := fun a =>
  if address ≤ a ∧ a < address + bytes.length then
    {b | b = bytes.getD (a - address) 0 ∨ stale a ∧ b ∈ candidates a}
  else candidates a

/-- What may be seen at a place of physical memory through the caches. -/
abbrev OffersAt (space : AddressSpace) (physical : Nat) (seen : Set UInt8) : Prop :=
  space.storage.Offers (space.pages.frames * pageSize) space.pages.Opened physical seen

/-- What may be read at each address, now and later. The frames that are not in use hold zeros, so
that it includes zero where no page is mapped yet. -/
structure Offers (space : AddressSpace) (candidates : Nat → Set UInt8) : Prop where
  pages : space.pages.Sound
  byte : ∀ {address physical}, space.pages.translate address = .ok physical →
    space.OffersAt physical (candidates address)
  blank : ∀ {physical}, (∀ a, space.pages.translate a ≠ .ok physical) → space.OffersAt physical {0}
  zero : ∀ {address}, space.pages.isMapped address = false → 0 ∈ candidates address

theorem laid_of_outside (outside : ¬ (address ≤ size ∧ size < address + bytes.length)) :
    laid stale address bytes candidates size = candidates size := if_neg outside

@[simp] theorem laid_nil : laid stale address [] candidates = candidates := by
  funext a
  apply laid_of_outside
  simp only [List.length_nil]
  omega

/-- Bytes are put one after the other. -/
theorem laid_cons {b : UInt8} : laid stale address (b :: bytes) candidates =
    laid stale (address + 1) bytes (laid stale address [b] candidates) := by
  funext a
  simp only [laid, List.length_cons, List.length_nil]
  by_cases first : a = address
  · rw [if_pos (by omega), if_neg (by omega), if_pos (by omega), first, Nat.sub_self]
    rfl
  · have single : ¬ (address ≤ a ∧ a < address + (0 + 1)) := by omega
    rw [if_neg single]
    by_cases later : address + 1 ≤ a ∧ a < address + 1 + bytes.length
    · rw [if_pos (by omega), if_pos later, show a - address = a - (address + 1) + 1 by omega,
        List.getD_cons_succ]
    · rw [if_neg (by omega), if_neg later]

namespace Offers

theorem somewhere (offers : space.Offers candidates) (physical : Nat) :
    ∃ seen, space.OffersAt physical seen := by
  by_cases used : ∃ a, space.pages.translate a = .ok physical
  · obtain ⟨a, here⟩ := used
    exact ⟨_, offers.byte here⟩
  · exact ⟨_, offers.blank fun a here => used ⟨a, here⟩⟩

/-- What every place goes on to offer may be read as before. -/
theorem kept (offers : space.Offers candidates) (pages : next.pages = space.pages)
    (each : ∀ physical seen, space.OffersAt physical seen → next.OffersAt physical seen) :
    next.Offers candidates where
  pages := pages ▸ offers.pages
  byte here := each _ _ (offers.byte (pages ▸ here))
  blank nowhere := each _ _ (offers.blank (pages ▸ nowhere))
  zero absent := offers.zero (pages ▸ absent)

/-- Bytes were written at the translation of an address, inside a block. -/
theorem written (offers : space.Offers candidates)
    (here : space.pages.translate address = .ok physical)
    (inBlock : (Request.write physical bytes).InBlock) (pages : next.pages = space.pages)
    (each : ∀ place seen, space.OffersAt place seen →
      next.OffersAt place ((Request.write physical bytes).leaves place seen)) :
    next.Offers (laid (fun _ => False) address bytes candidates) := by
  have fits : blockOffset physical + bytes.length ≤ blockSize := inBlock
  have advance {a : Nat} (within : address ≤ a ∧ a < address + bytes.length) :
      space.pages.translate a = .ok (physical + (a - address)) := by
    have there := PageTable.translate_add here
      (pageOffset_add_lt here fits (show a - address < bytes.length by omega))
    rwa [Nat.add_sub_cancel' within.1] at there
  refine ⟨pages ▸ offers.pages, fun {a place} there => ?_, fun {place} nowhere => ?_,
    fun {a} absent => ?_⟩
  · rw [pages] at there
    have now := each place _ (offers.byte there)
    by_cases within : address ≤ a ∧ a < address + bytes.length
    · obtain rfl : place = physical + (a - address) :=
        Except.ok.inj (there.symm.trans (advance within))
      refine now.mono (fun _ => id) ?_
      rw [Request.leaves, if_pos (by omega), Nat.add_sub_cancel_left, laid, if_pos within,
        Set.singleton_subset_iff]
      exact .inl rfl
    · have away : ¬ (physical ≤ place ∧ place < physical + bytes.length) := by
        intro inside
        have there' := translate_of_inside here fits inside
        have same := offers.pages.translate_inj there there'
        omega
      rw [Request.leaves, if_neg away] at now
      rwa [laid_of_outside within]
  · rw [pages] at nowhere
    have now := each place _ (offers.blank nowhere)
    have away : ¬ (physical ≤ place ∧ place < physical + bytes.length) :=
      fun inside => nowhere _ (translate_of_inside here fits inside)
    rwa [Request.leaves, if_neg away] at now
  · rw [pages] at absent
    have outside : ¬ (address ≤ a ∧ a < address + bytes.length) := by
      intro within
      cases absent.symm.trans (PageTable.isMapped_of_translate (advance within))
    rw [laid_of_outside outside]
    exact offers.zero absent

/-- A page that is mapped shows the zeros of its frame, which no cache has. -/
theorem mapped (offers : space.Offers candidates) {table : PageTable}
    (grown : space.pages.Grown table) : Offers { space with pages := table } candidates := by
  have each (place : Nat) (seen : Set UInt8) (before : space.OffersAt place seen) :
      OffersAt { space with pages := table } place seen := by
    unfold OffersAt at *
    rw [grown.frames]
    exact before.mono (fun _ => grown.opened) (Set.Subset.refl _)
  refine ⟨grown.sound, fun {a place} here => ?_, fun {place} nowhere => ?_, fun {a} absent => ?_⟩
  · cases before : space.pages.translate a with
    | ok place' =>
      obtain rfl : place' = place := Except.ok.inj ((grown.translate before).symm.trans here)
      exact each _ _ (offers.byte before)
    | error fault =>
      have unused : ∀ other, space.pages.translate other ≠ .ok place := by
        intro other there
        obtain rfl := grown.sound.translate_inj here (grown.translate there)
        cases before.symm.trans there
      have unmapped : space.pages.isMapped a = false := by
        by_contra mapped
        obtain ⟨place', there⟩ := PageTable.exists_translate (Bool.eq_true_of_not_eq_false mapped)
        cases before.symm.trans there
      apply (each _ _ (offers.blank unused)).mono (fun _ => id)
      exact Set.singleton_subset_iff.mpr (offers.zero unmapped)
  · exact each _ _ (offers.blank fun a there => nowhere a (grown.translate there))
  · apply offers.zero
    by_contra mapped
    cases absent.symm.trans (grown.isMapped (Bool.eq_true_of_not_eq_false mapped))

/-- Mapping pages puts nothing into the caches, and no block of a new page was there before. -/
theorem cached_mapped (offers : space.Offers candidates) {table : PageTable}
    (grown : space.pages.Grown table) (address : Nat) :
    Cached { space with pages := table } address ↔ space.Cached address := by
  constructor
  · rintro ⟨place, here, held⟩
    cases before : space.pages.translate address with
    | ok place' =>
      obtain rfl : place' = place := Except.ok.inj ((grown.translate before).symm.trans here)
      exact ⟨place', before, held⟩
    | error fault =>
      obtain ⟨seen, bounded⟩ := offers.somewhere place
      have closed := grown.not_opened here fun p there => by cases before.symm.trans there
      exact absurd held (bounded.not_contains closed)
  · rintro ⟨place, here, held⟩
    exact ⟨place, grown.translate here, held⟩

end Offers

/-! ### Accesses -/

/-- The next space keeps the pages of this one, and the given bytes may be read there. -/
structure Onward (space : AddressSpace) (candidates : Nat → Set UInt8) (next : AddressSpace) :
    Prop where
  pages : space.pages.Grown next.pages
  offers : next.Offers candidates

theorem Offers.onward (offers : next.Offers candidates) (same : next.pages = space.pages) :
    space.Onward candidates next := ⟨same ▸ offers.pages.grown, offers⟩

theorem Onward.trans {last : AddressSpace} {candidates' : Nat → Set UInt8}
    (first : space.Onward candidates next) (second : next.Onward candidates' last) :
    space.Onward candidates' last := ⟨first.pages.trans second.pages, second.offers⟩

/-- A request to a block of a mapped page is served, and every place keeps to what may be seen. -/
theorem request_meets (offers : state.value.Offers candidates) (inBlock : request.InBlock)
    (opens : state.value.pages.Opened (request.address / blockSize)) :
    Ends (AddressSpace.request request) state
      (fun result next => next.value.pages = state.value.pages ∧
        ∀ place seen, state.value.OffersAt place seen →
          next.value.OffersAt place (request.leaves place seen) ∧
            request.Brings place seen (some result.2))
      fun _ _ => False := by
  have upholds (place : Nat) : Storage.Upholds (Chain.serve (σ := Unit) (n := 3))
      state.value.pages.Opened place fun seen chain =>
        chain.Offers (state.value.pages.frames * pageSize) state.value.pages.Opened place seen :=
    Chain.upholds_serve (fun _ opens => offers.pages.inside opens) 3
  obtain ⟨seen, bounded⟩ := offers.somewhere 0
  obtain ⟨access, outcome⟩ := ((upholds 0).meets bounded inBlock opens).served
  simp only [AddressSpace.request, ends_bind, ends_get, ends_set, outcome, ends_settle_ok,
    ends_pure]
  refine ⟨trivial, fun place seen bounded => ?_⟩
  have meets := (upholds place).meets bounded inBlock opens
  refine ⟨meets.leaves, fun address length reads => ?_⟩
  obtain ⟨bytes, delivered, rest⟩ := meets.brings address length reads
  refine ⟨bytes, ?_, rest⟩
  rw [delivered]
  rfl

theorem Offers.arranged (offers : space.Offers candidates) {cache : Cache Unit}
    {below : Chain Unit 2} (top : space.storage = .level cache below) : cache.Arranged := by
  obtain ⟨seen, bounded⟩ := offers.somewhere 0
  rw [OffersAt, top] at bounded
  exact bounded.tidy.arranged

/-- Reading changes nothing about what may be read. -/
theorem read_offers (offers : state.value.Offers candidates) (address size : Nat) :
    Ends (AddressSpace.read address size) state
      (fun _ next => state.value.Onward candidates next.value)
      fun _ next => state.value.Onward candidates next.value := by
  simp only [AddressSpace.read, readBytes, translate, ends_bind, checkSize_ends, ends_get,
    ends_pure]
  refine access_ends (fun _ _ => offers.arranged) (fun _ => ⟨rfl, rfl⟩)
    (fun physical _ here inBlock => ?_) fun _ next _ same => same ▸ offers.onward rfl
  refine (request_meets offers inBlock (PageTable.opened_of_translate here)).mono
    (fun _ next served => ?_) fun _ _ none => none.elim
  obtain ⟨pages, each⟩ := served
  exact (offers.kept pages fun place seen bounded => (each place seen bounded).1).onward pages

/-- Where a write succeeds nothing but its bytes may be read. -/
theorem write_offers (offers : state.value.Offers candidates) (address : Nat) (value : Word)
    (size : Nat) :
    Ends (AddressSpace.write address value size) state
      (fun _ next => state.value.Onward
        (laid (fun _ => False) address (Bytes.ofNat size value.toNat) candidates) next.value)
      fun _ next => state.value.Onward candidates next.value := by
  simp only [AddressSpace.write, writeBytes, translate, ends_bind, checkSize_ends, ends_get,
    ends_pure]
  refine access_ends (fun _ _ => offers.arranged) (fun _ => ⟨rfl, Bytes.length_ofNat ..⟩)
    (fun physical _ here inBlock => ?_) fun _ next _ same => same ▸ offers.onward rfl
  refine (request_meets offers inBlock (PageTable.opened_of_translate here)).mono
    (fun _ next served => ?_) fun _ _ none => none.elim
  obtain ⟨pages, each⟩ := served
  refine Offers.onward (offers.written here inBlock pages ?_) pages
  exact fun place seen bounded => (each place seen bounded).1

/-- A byte of a mapped page is always read, and it is one of those that may be read there. -/
theorem byteSeen_mem (offers : space.Offers candidates)
    (mapped : space.pages.isMapped address = true) :
    ∃ b ∈ candidates address, space.byteSeen address = .ok (BitVec.ofNat 64 b.toNat) := by
  obtain ⟨physical, here⟩ := PageTable.exists_translate mapped
  have read : Ends (AddressSpace.read address 1) ⟨space, {}⟩
      (fun result _ => ∃ b ∈ candidates address, result.1 = BitVec.ofNat 64 b.toNat)
      fun _ _ => False := by
    have inBlock : (Request.read physical 1).InBlock := Request.inBlock_read_one physical
    have offers' : (Logged.mk space {}).value.Offers candidates := offers
    simp only [AddressSpace.read, readBytes, translate, ends_bind, checkSize_ends, ends_get, here]
    rw [if_neg (by decide)]
    simp only [ends_settle_ok, ends_pure]
    refine (request_meets offers' inBlock (PageTable.opened_of_translate here)).mono
      (fun result _ served => ?_) fun _ _ none => none
    obtain ⟨bytes, delivered, single, byte⟩ :=
      (served.2 physical _ (offers.byte here)).2 physical 1 rfl
    obtain ⟨b, rfl⟩ := List.length_eq_one_iff.mp single
    have shown : b ∈ candidates address := byte 0 Nat.one_pos rfl
    have same : result.2 = [b] := Option.some.inj delivered
    refine ⟨b, shown, ?_⟩
    simp [same, Bytes.toNat]
  unfold byteSeen
  cases run : (AddressSpace.read address 1).run ⟨space, {}⟩ with
  | ok result next =>
    obtain ⟨b, shown, word⟩ := read.of_ok run
    exact ⟨b, shown, congrArg Except.ok word⟩
  | error fault next => exact (read.of_error run).elim

/-- What may be read after a call that succeeded. -/
def Call.leaves : Call → (Nat → Set UInt8) → Nat → Set UInt8
  | write address value size, candidates =>
    laid (fun _ => False) address (Bytes.ofNat size value.toNat) candidates
  | _, candidates => candidates

theorem Call.use_offers (call : Call) (offers : state.value.Offers candidates) :
    Ends call.use state (fun _ next => state.value.Onward (call.leaves candidates) next.value)
      fun _ next => state.value.Onward candidates next.value := by
  have mapped {table : PageTable} (grown : state.value.pages.Grown table) :
      state.value.Onward candidates { state.value with pages := table } :=
    ⟨grown, offers.mapped grown⟩
  cases call with
  | mapPage address =>
    have mapping : Ends (PageTable.mapPage address) (pageTable.get state) _ _ :=
      PageTable.mapPage_ends offers.pages
    refine ends_discard.mpr (ends_act.mpr ?_)
    exact mapping.mono (fun _ _ given => mapped given.1) fun _ _ grown => mapped grown
  | mapRange address length =>
    have mapping : Ends (PageTable.mapRange address length) (pageTable.get state) _ _ :=
      PageTable.mapRange_ends offers.pages
    refine ends_act.mpr ?_
    exact mapping.mono (fun _ _ given => mapped given.1) fun _ _ grown => mapped grown
  | read address size => exact ends_discard.mpr (read_offers offers address size)
  | write address value size => exact ends_discard.mpr (write_offers offers address value size)

/-! ### Loading -/

/-- The bytes in physical memory, with zeros where no page is mapped. -/
def stored (space : AddressSpace) : Contents := fun address =>
  match space.pages.translate address with
  | .ok physical => space.storage.memory.byteAt physical
  | .error _ => 0

/-- The space after a byte was put at a place of physical memory. -/
def withByte (space : AddressSpace) (physical : Nat) (b : UInt8) : AddressSpace :=
  { space with
    storage := space.storage.modifyMemory fun _ =>
      { space.storage.memory with
        bytes := Memory.store space.storage.memory.bytes physical [b] } }

theorem byteAt_withByte (space : AddressSpace) (physical : Nat) (b : UInt8) :
    (space.withByte physical b).storage.memory.byteAt =
      Contents.write space.storage.memory.byteAt physical [b] := by
  rw [withByte, Chain.memory_modifyMemory]
  exact Memory.byteAt_store _ physical [b]

theorem cached_withByte (space : AddressSpace) (physical : Nat) (b : UInt8) :
    (space.withByte physical b).Cached = space.Cached := by
  funext a
  simp only [Cached, withByte, Chain.caches_modifyMemory]

/-- A byte that is put at the translation of an address is stored there and nowhere else. -/
theorem stored_withByte (sound : space.pages.Sound) {b : UInt8}
    (here : space.pages.translate address = .ok physical) :
    (space.withByte physical b).stored = space.stored.write address [b] := by
  funext a
  have pages : (space.withByte physical b).pages = space.pages := rfl
  simp only [stored, pages, byteAt_withByte]
  by_cases same : a = address
  · subst same
    simp [here, Contents.write]
  · have outside : ¬ (address ≤ a ∧ a < address + [b].length) := by
      simp only [List.length_singleton]
      omega
    rw [Contents.write, if_neg outside, stored]
    cases there : space.pages.translate a with
    | error fault => rfl
    | ok place =>
      have other : place ≠ physical := by
        rintro rfl
        exact same (sound.translate_inj there here)
      exact if_neg (by simp only [List.length_singleton]; omega)

namespace Offers

theorem size_memory (offers : space.Offers candidates) :
    space.storage.memory.size = space.pages.frames * pageSize := by
  obtain ⟨seen, bounded⟩ := offers.somewhere 0
  exact bounded.size_memory

theorem withByte (offers : space.Offers candidates) {b : UInt8}
    (here : space.pages.translate address = .ok physical) :
    (space.withByte physical b).Offers (laid space.Cached address [b] candidates) := by
  have byte := byteAt_withByte space physical b
  have within {a : Nat} : address ≤ a ∧ a < address + [b].length ↔ a = address := by
    simp only [List.length_singleton]
    omega
  have outside {a : Nat} (other : a ≠ address) :
      laid space.Cached address [b] candidates a = candidates a :=
    laid_of_outside fun inside => other (within.mp inside)
  have elsewhere {place : Nat} {seen : Set UInt8} (other : place ≠ physical)
      (bounded : space.OffersAt place seen) :
      (space.withByte physical b).OffersAt place seen := by
    refine bounded.elsewhere offers.size_memory ?_
    rw [Memory.byteAt_store]
    exact if_neg (by simp only [List.length_singleton]; omega)
  refine ⟨offers.pages, fun {a place} there => ?_, fun {place} nowhere => ?_, fun {a} absent => ?_⟩
  · by_cases same : a = address
    · subst same
      obtain rfl : place = physical := Except.ok.inj (there.symm.trans here)
      rw [laid, if_pos (within.mpr rfl), Nat.sub_self]
      refine (offers.byte here).loaded offers.size_memory ?_ fun held c shown => ?_
      · rw [Memory.byteAt_store, Contents.write, if_pos (by simp), Nat.sub_self]
        exact .inl rfl
      · exact .inr ⟨⟨place, here, held⟩, shown⟩
    · rw [outside same]
      refine elsewhere ?_ (offers.byte there)
      rintro rfl
      exact same (offers.pages.translate_inj there here)
  · refine elsewhere ?_ (offers.blank nowhere)
    rintro rfl
    exact nowhere address here
  · rw [outside]
    · exact offers.zero absent
    · rintro rfl
      cases absent.symm.trans (PageTable.isMapped_of_translate here)

end Offers

/-- Bytes are placed where the pages are mapped, all of them. -/
theorem placeBytes_offers (offers : state.value.Offers candidates)
    (mapped : ∀ a, address ≤ a → a < address + bytes.length →
      state.value.pages.isMapped a = true) :
    Ends (placeBytes address bytes) state
      (fun _ next => next.value.Offers (laid state.value.Cached address bytes candidates) ∧
        next.value.stored = state.value.stored.write address bytes)
      fun _ _ => False := by
  induction bytes generalizing address state candidates with
  | nil =>
    rw [laid_nil, Contents.write_nil]
    exact ⟨offers, rfl⟩
  | cons b rest ih =>
    obtain ⟨physical, here, holds⟩ := exists_place offers.pages offers.size_memory
      (mapped address (Nat.le_refl _) (by simp only [List.length_cons]; omega))
    simp only [placeBytes, translate, ends_bind, ends_get, ends_set, here, ends_settle_ok,
      Memory.load, List.length_singleton, if_pos holds]
    have placing : Ends (placeBytes (address + 1) rest)
        ⟨state.value.withByte physical b, state.log⟩ _ _ :=
      ih (offers.withByte here) fun a from_next below =>
        mapped a (by omega) (by simp only [List.length_cons]; omega)
    refine placing.mono (fun _ next placed => ?_) fun _ _ none => none
    rw [cached_withByte, stored_withByte offers.pages here] at placed
    rwa [laid_cons, Contents.write_cons]

/-- What is stored at an address of a mapped page is found there past the caches. -/
theorem peek_one (offers : space.Offers candidates) (mapped : space.pages.isMapped address = true) :
    space.peek address 1 = .ok [space.stored address] := by
  obtain ⟨physical, here, holds⟩ := exists_place offers.pages offers.size_memory mapped
  simp [peek, translate, stored, here, Memory.peek, holds, Memory.bytesAt]

/-- After an image was loaded its bytes are in memory, and the caches and all counters are as they
were. -/
structure Holding (space : AddressSpace) (address : Nat) (bytes : Bytes) (length : Nat)
    (next : AddressSpace) : Prop where
  caches : next.storage.caches = space.storage.caches
  statistics : ∀ depth, next.storage.statisticsAt depth = space.storage.statisticsAt depth
  mapped : ∀ a, address ≤ a → a < address + length → next.pages.isMapped a = true
  peek : ∀ i < bytes.length, next.peek (address + i) 1 = .ok [bytes.getD i 0]

/-- What may be read at the addresses of an image that was loaded is a matter of what the caches had
of it. -/
theorem loadImage_offers (offers : state.value.Offers candidates) {length : Nat}
    (fits : bytes.length ≤ length) :
    Ends (loadImage address bytes length) state
      (fun _ next =>
        state.value.Onward (laid state.value.Cached address bytes candidates) next.value ∧
          state.value.Holding address bytes length next.value)
      fun _ next => state.value.Onward candidates next.value := by
  have mapping : Ends (PageTable.mapRange address length) (pageTable.get state) _ _ :=
    PageTable.mapRange_ends offers.pages
  simp only [loadImage, ends_bind, ends_act]
  refine mapping.mono (fun _ table given => ?_) fun _ _ grown => ⟨grown, offers.mapped grown⟩
  obtain ⟨grown, mapped⟩ := given
  have ready := offers.mapped grown
  have placing : Ends (placeBytes address bytes) (pageTable.put table state) _ _ :=
    placeBytes_offers ready fun a from_start below => mapped a from_start (by omega)
  refine (placing.and (placeBytes_onlyBytes address bytes _)).mono (fun _ next placed => ?_)
    fun _ _ none => none.1.elim
  obtain ⟨⟨offers', stored⟩, only⟩ := placed
  have cached : Cached (pageTable.put table state).value = state.value.Cached := by
    funext a
    exact propext (offers.cached_mapped grown a)
  have mapped' : ∀ a, address ≤ a → a < address + length → next.value.pages.isMapped a = true := by
    intro a from_start below
    rw [only.pages]
    exact mapped a from_start below
  rw [cached] at offers'
  refine ⟨⟨only.pages ▸ grown, offers'⟩, only.caches, only.statisticsAt, mapped', ?_⟩
  intro i inside
  rw [peek_one offers' (mapped' _ (Nat.le_add_right ..) (by omega)), stored, Contents.write,
    if_pos (by omega), Nat.add_sub_cancel_left]

/-! ### Fresh address spaces -/

/-- In a fresh address space zeros may be read, and nothing else. -/
theorem offers_of_ofSettings {settings : Settings} (made : ofSettings settings = .ok space) :
    space.Offers fun _ => {0} := by
  have unused := unused_of_ofSettings made
  have zeros (physical : Nat) : space.storage.memory.byteAt physical = 0 := by
    obtain ⟨_, _, _, _, _, _, rfl⟩ := ofSettings_eq_ok_iff.mp made
    exact Std.TreeMap.getD_emptyc
  have each (physical : Nat) : space.OffersAt physical {0} := by
    have bounded : space.storage.Offers space.storage.memory.size space.pages.Opened physical _ :=
      Chain.offers_of_fresh unused.fresh unused.plain
    rwa [zeros, unused.memory] at bounded
  exact ⟨unused.pages, fun _ => each _, fun _ => each _, fun _ => Set.mem_singleton _⟩

end AddressSpace

end FiveStage
