import FiveStage.Proofs.Memory.Loading

/-!
# An address space is a map of bytes

Behind an address there are a page table, three caches and physical memory, and an image is loaded
past the caches. None of this shows. An access is refused by its size, by the page of its address
and by its place in the block, for no other reason; a read gives the bytes that were last written or
loaded, or zeros; and an access that is refused changes nothing that can be seen.

Pages are mapped all the time, and a page that is mapped late must show zeros as well. What carries
the proof is therefore also true of the part of memory that no address is translated to: it holds
zeros, whatever was written elsewhere.

## Main definitions

* `AddressSpace.refusal?`: why an access is refused
* `AddressSpace.Shows`: the bytes seen in an address space, with zeros where no page is mapped
* `AddressSpace.Recorded`: an address space with the bytes that were put there
* `AddressSpace.history`: loading pieces of an image, and using the memory afterwards
* `AddressSpace.Recorded.IsByteMap`: accesses end as they should, for the bytes put there

## Main results

* `AddressSpace.placeBytes_ends`: bytes for mapped pages are always placed
* `AddressSpace.isByteMap_of_history`: after every history, the address space of a machine is a map
  of bytes
-/

namespace FiveStage

namespace AddressSpace

variable {space next : AddressSpace} {state : Logged AddressSpace} {contents : Contents}
  {address size : Nat} {bytes : Bytes}

/-! ### Refused accesses -/

/-- Why an access is refused, if it is: it is too large, its page is not mapped, or it leaves its
block. -/
def refusal? (space : AddressSpace) (address size : Nat) : Option MemoryFault :=
  if size > 8 then some (.access address (.invalidSize size))
  else
    match space.pages.frame? address with
    | none => some (.unmapped address)
    | some frame =>
      if blockOffset address + size > blockSize then
        some (.access (frame * pageSize + pageOffset address) (.crossesBlock size))
      else none

/-- A flat memory refuses what it should. Pages consist of blocks, so an address has the same place
in its block as its translation. -/
theorem check_flat :
    space.flat.check address size = (space.refusal? address size).elim (.ok ()) .error := by
  unfold refusal?
  split
  · next large => exact FlatMemory.check_of_large large
  · next small =>
    cases here : space.pages.frame? address with
    | none =>
      have there : space.flat.pages.translate address = .error (.unmapped address) := by
        simp only [flat, PageTable.translate, here]
      exact FlatMemory.check_of_unmapped small there
    | some frame =>
      have there : space.flat.pages.translate address =
          .ok (frame * pageSize + pageOffset address) := by
        simp only [flat, PageTable.translate, here]
      have place : blockOffset (frame * pageSize + pageOffset address) = blockOffset address := by
        simp only [blockOffset, blockSize, pageOffset, pageSize]
        omega
      by_cases crosses : blockOffset address + size > blockSize
      · simp only [if_pos crosses, Option.elim]
        exact FlatMemory.check_of_crosses small there (by omega)
      · simp only [if_neg crosses, Option.elim]
        exact FlatMemory.check_of_inBlock small there (by omega)

theorem size_le_of_refusal?_eq_none (served : space.refusal? address size = none) : size ≤ 8 := by
  unfold refusal? at served
  split at served
  · cases served
  · next small => exact Nat.not_lt.mp small

/-- Where an access is served, it is still served when more pages are mapped. -/
theorem refusal?_eq_none_of_grown (grown : space.pages.Grown next.pages)
    (served : space.refusal? address size = none) : next.refusal? address size = none := by
  unfold refusal? at *
  cases mapped : space.pages.frame? address with
  | none =>
    rw [mapped] at served
    split at served <;> cases served
  | some frame =>
    have mapped' : next.pages.frame? address = some frame := grown.kept _ _ mapped
    rwa [mapped', ← mapped]

/-- A read of a flat memory gives the bytes as a number, unless it is refused. -/
theorem read_flat :
    space.flat.read address size = (space.refusal? address size).elim
      (.ok (BitVec.ofNat 64 (space.flat.bytes.read address size).toNat)) .error := by
  rw [FlatMemory.read, check_flat]
  cases space.refusal? address size <;> rfl

/-- A write to a flat memory puts the bytes there, unless it is refused. -/
theorem write_flat {value : Word} :
    space.flat.write address value size = (space.refusal? address size).elim
      (.ok { space.flat with
        bytes := space.flat.bytes.write address (Bytes.ofNat size value.toNat) }) .error := by
  rw [FlatMemory.write, check_flat]
  cases space.refusal? address size <;> rfl

/-! ### What is seen -/

/-- The given bytes are seen in an address space. Nothing lies where no address is translated to. -/
structure Shows (space : AddressSpace) (contents : Contents) : Prop where
  sound : space.Sound
  bytes : space.flat.bytes = contents
  blank : ∀ physical, (∀ a, space.pages.translate a ≠ .ok physical) →
    space.storage.view physical = 0

namespace Shows

/-- An access that changes nothing shows the same bytes. -/
theorem unchanged {next : Logged AddressSpace} (seen : state.value.Shows contents)
    (unchanged : Unchanged state next) : next.value.Shows contents where
  sound := unchanged.sound
  bytes := by rw [unchanged.flat, seen.bytes]
  blank physical nowhere := by
    rw [unchanged.view]
    exact seen.blank physical (unchanged.pages ▸ nowhere)

/-- Written bytes are seen. -/
theorem overwritten (seen : space.Shows contents)
    (overwritten : space.Overwritten next address bytes) :
    next.Shows (contents.write address bytes) where
  sound := overwritten.sound
  bytes := by rw [overwritten.flat_bytes seen.sound.pages, seen.bytes]
  blank physical nowhere := by
    have nowhere' : ∀ a, space.pages.translate a ≠ .ok physical := overwritten.pages ▸ nowhere
    rw [overwritten.elsewhere nowhere']
    exact seen.blank physical nowhere'

/-- New pages show zeros, as the addresses did before they were mapped. -/
theorem mapped (seen : space.Shows contents) {table : PageTable}
    (grown : space.pages.Grown table) : Shows { space with pages := table } contents where
  sound := ⟨grown.sound, grown.frames ▸ seen.sound.storage⟩
  bytes := by
    rw [← seen.bytes]
    funext a
    simp only [flat]
    cases before : space.pages.translate a with
    | ok physical => rw [grown.translate before]
    | error fault =>
      cases after : table.translate a with
      | error fault => rfl
      | ok physical =>
        -- an address that had the place before would have it still, and so would be the new one
        refine seen.blank physical fun other there => ?_
        obtain rfl := grown.sound.translate_inj after (grown.translate there)
        cases before.symm.trans there
  blank physical nowhere :=
    seen.blank physical fun a there => nowhere a (grown.translate there)

/-- A byte that is seen is still seen when more pages are mapped. -/
theorem byteSeen_of_grown (seen : space.Shows contents) (seen' : next.Shows contents)
    (grown : space.pages.Grown next.pages) {byte : Word}
    (visible : space.byteSeen address = .ok byte) : next.byteSeen address = .ok byte := by
  rw [byteSeen_eq_flat seen.sound, read_flat, seen.bytes] at visible
  rw [byteSeen_eq_flat seen'.sound, read_flat, seen'.bytes]
  obtain ⟨served, same⟩ := elim_eq_ok_iff.mp visible
  exact elim_eq_ok_iff.mpr ⟨refusal?_eq_none_of_grown grown served, same⟩

/-- A single byte of a mapped page is always read, and it is the one that is shown. -/
theorem read_byte (seen : state.value.Shows contents)
    (mapped : state.value.pages.isMapped address = true) :
    Ends (AddressSpace.read address 1) state
      (fun result _ => result.1 = BitVec.ofNat 64 (contents address).toNat) fun _ _ => False := by
  obtain ⟨frame, mapped⟩ := Option.isSome_iff_exists.mp mapped
  have inBlock : ¬ blockOffset address + 1 > blockSize :=
    Nat.not_lt.mpr (Nat.mod_lt _ (by decide))
  have served : state.value.refusal? address 1 = none := by
    simp only [refusal?, mapped, if_neg inBlock]
    rfl
  have answer : state.value.flat.read address 1 = _ := read_flat
  simp only [served, Option.elim, seen.bytes] at answer
  refine (read_ends seen.sound address 1).mono (fun result _ given => ?_) fun fault _ failed => ?_
  · have same := answer.symm.trans given.2
    simpa [Contents.read, Bytes.toNat] using (Except.ok.inj same).symm
  · cases answer.symm.trans failed.2

end Shows

/-! ### Loading -/

/-- In a fresh address space there are zeros. -/
theorem shows_of_ofSettings {settings : Settings} (made : ofSettings settings = .ok space) :
    space.Shows fun _ => 0 := by
  have unused := unused_of_ofSettings made
  have zeros : space.storage.view = fun _ => 0 := by
    rw [unused.coherent.2]
    obtain ⟨_, _, _, _, _, _, rfl⟩ := ofSettings_eq_ok_iff.mp made
    funext physical
    exact Std.TreeMap.getD_emptyc
  refine ⟨unused.sound, ?_, fun physical _ => congrFun zeros physical⟩
  funext a
  simp only [flat, zeros]
  split <;> rfl

/-- A byte of physical memory that changes before the caches are used is overwritten. -/
theorem Unused.overwritten (unused : space.Unused) {physical : Nat} {b : UInt8}
    (here : space.pages.translate address = .ok physical) :
    space.Overwritten { space with
      storage := space.storage.modifyMemory fun _ =>
        { space.storage.memory with
          bytes := Memory.store space.storage.memory.bytes physical [b] } } address [b] := by
  have unused' := @Unused.modifyMemory _ unused { space.storage.memory with
    bytes := Memory.store space.storage.memory.bytes physical [b] } rfl
  refine ⟨unused'.sound, rfl, physical, here, Nat.mod_lt _ (by decide), ?_⟩
  rw [unused'.coherent.2, unused.coherent.2, Chain.memory_modifyMemory]
  exact Memory.byteAt_store _ physical [b]

/-- There is room in physical memory behind every translation. -/
theorem exists_place (sound : space.pages.Sound)
    (sized : space.storage.memory.size = space.pages.frames * pageSize)
    (mapped : space.pages.isMapped address = true) :
    ∃ physical, space.pages.translate address = .ok physical ∧
      space.storage.memory.holds physical 1 = true := by
  obtain ⟨physical, here⟩ := PageTable.exists_translate mapped
  have inside := sound.translate_lt here
  rw [← sized] at inside
  exact ⟨physical, here, decide_eq_true inside⟩

/-- Bytes are placed where the pages are mapped, all of them. -/
theorem placeBytes_ends (unused : state.value.Unused) (seen : state.value.Shows contents)
    (mapped : ∀ a, address ≤ a → a < address + bytes.length →
      state.value.pages.isMapped a = true) :
    Ends (placeBytes address bytes) state
      (fun _ next => next.value.Unused ∧ next.value.Shows (contents.write address bytes))
      fun _ _ => False := by
  induction bytes generalizing address state contents with
  | nil => exact ⟨unused, by rwa [Contents.write_nil]⟩
  | cons b rest ih =>
    obtain ⟨physical, here, holds⟩ := exists_place unused.pages unused.memory
      (mapped address (Nat.le_refl _) (by simp only [List.length_cons]; omega))
    have overwritten := unused.overwritten (b := b) here
    simp only [placeBytes, translate, ends_bind, ends_get, ends_set, here, ends_settle_ok,
      Memory.load, List.length_singleton, if_pos holds]
    rw [Contents.write_cons]
    exact ih (unused.modifyMemory rfl) (seen.overwritten overwritten) fun a from_next below =>
      mapped a (by omega) (by simp only [List.length_cons]; omega)

/-- An image is loaded as a whole, or no frame is left for it and its bytes are not seen. -/
theorem loadImage_ends (unused : state.value.Unused) (seen : state.value.Shows contents)
    {length : Nat} (fits : bytes.length ≤ length) :
    Ends (loadImage address bytes length) state
      (fun _ next => next.value.Unused ∧ next.value.Shows (contents.write address bytes))
      fun _ next => next.value.Unused ∧ next.value.Shows contents := by
  have mapping : Ends (PageTable.mapRange address length) (pageTable.get state) _ _ :=
    PageTable.mapRange_ends unused.pages
  simp only [loadImage, ends_bind, ends_act]
  refine mapping.mono (fun _ table mapped => ?_) fun _ _ grown =>
    ⟨unused.mapped grown, seen.mapped grown⟩
  obtain ⟨grown, mapped⟩ := mapped
  have placing : Ends (placeBytes address bytes) (pageTable.put table state) _ _ :=
    placeBytes_ends (unused.mapped grown) (seen.mapped grown) fun a from_start below =>
      mapped a from_start (by omega)
  exact placing.mono (fun _ _ placed => placed) fun _ _ none => none.elim

/-! ### Histories -/

/-- An address space with its log, and the bytes that were last written to it or loaded into it. -/
structure Recorded where
  state : Logged AddressSpace
  contents : Contents

namespace Recorded

/-- What a use leaves that puts bytes in their places if it succeeds. A use that fails puts
nothing. -/
def after (before : Recorded) (use : Use Unit) (effect : Contents → Contents) : Recorded :=
  match use.run before.state with
  | .ok _ state => ⟨state, effect before.contents⟩
  | .error _ state => ⟨state, before.contents⟩

/-- What is left is what holds of both endings. -/
theorem after_of_ends (Holds : Recorded → Prop) {before : Recorded} {use : Use Unit}
    {effect : Contents → Contents}
    (ends : Ends use before.state (fun _ next => Holds ⟨next, effect before.contents⟩)
      fun _ next => Holds ⟨next, before.contents⟩) : Holds (before.after use effect) := by
  unfold after
  cases run : use.run before.state with
  | ok _ next => exact ends.of_ok run
  | error _ next => exact ends.of_error run

/-- The bytes put there are shown, and the caches are still unused. -/
structure Prepared (recorded : Recorded) : Prop where
  unused : recorded.state.value.Unused
  seen : recorded.state.value.Shows recorded.contents

end Recorded

/-- A piece of an image: the bytes at its start, and the number of bytes that it takes up. -/
structure Piece where
  address : Nat
  bytes : Bytes
  length : Nat

/-- The memory after a piece was loaded. -/
def Piece.load (before : Recorded) (piece : Piece) : Recorded :=
  before.after (loadImage piece.address piece.bytes piece.length)
    fun contents => contents.write piece.address piece.bytes

/-- What is asked of the memory of a running program. -/
inductive Call
  | mapPage (address : Nat)
  | mapRange (address length : Nat)
  | read (address size : Nat)
  | write (address : Nat) (value : Word) (size : Nat)

namespace Call

/-- The call as a use of the address space. -/
def use : Call → Use Unit
  | mapPage address => discard (pageTable.act (PageTable.mapPage address))
  | mapRange address length => pageTable.act (PageTable.mapRange address length)
  | read address size => discard (AddressSpace.read address size)
  | write address value size => discard (AddressSpace.write address value size)

/-- The bytes that the call puts in their places. -/
def effect : Call → Contents → Contents
  | write address value size, contents =>
    contents.write address (Bytes.ofNat size value.toNat)
  | _, contents => contents

/-- The memory after a call. -/
def make (before : Recorded) (call : Call) : Recorded := before.after call.use call.effect

end Call

/-- What is left of a fresh address space after loading the pieces and making the calls, one after
the other, whether they succeed or fail. -/
def history (space : AddressSpace) (log : Log) (pieces : List Piece) (calls : List Call) :
    Recorded :=
  calls.foldl Call.make (pieces.foldl Piece.load ⟨⟨space, log⟩, fun _ => 0⟩)

/-- Accesses end as in a map from addresses to bytes. They fail exactly if there is a reason for it,
and with that reason; a read that does not fail gives the bytes put there, as a little-endian
number; and no call that fails changes a byte that is seen. -/
structure Recorded.IsByteMap (recorded : Recorded) : Prop where
  read : ∀ address size : Nat, Ends (AddressSpace.read address size) recorded.state
    (fun result _ => recorded.state.value.refusal? address size = none ∧
      result.1.toNat = (recorded.contents.read address size).toNat)
    (fun fault _ => recorded.state.value.refusal? address size = some fault)
  write : ∀ (address : Nat) (value : Word) (size : Nat),
    Ends (AddressSpace.write address value size) recorded.state
      (fun _ _ => recorded.state.value.refusal? address size = none)
      (fun fault _ => recorded.state.value.refusal? address size = some fault)
  kept : ∀ call : Call, Ends call.use recorded.state (fun _ _ => True) fun _ next =>
    ∀ (address : Nat) (byte : Word), recorded.state.value.byteSeen address = .ok byte →
      next.value.byteSeen address = .ok byte

theorem prepared_of_ofSettings {settings : Settings} (made : ofSettings settings = .ok space)
    (log : Log) : Recorded.Prepared ⟨⟨space, log⟩, fun _ => 0⟩ :=
  ⟨unused_of_ofSettings made, shows_of_ofSettings made⟩

/-- Loading a piece prepares the memory further. -/
theorem Piece.prepared_load {piece : Piece} (fits : piece.bytes.length ≤ piece.length)
    {before : Recorded} (prepared : before.Prepared) : (load before piece).Prepared := by
  refine Recorded.after_of_ends Recorded.Prepared ?_
  exact (loadImage_ends prepared.unused prepared.seen fits).mono
    (fun _ _ loaded => ⟨loaded.1, loaded.2⟩) fun _ _ failed => ⟨failed.1, failed.2⟩

theorem prepared_of_loads (pieces : List Piece)
    (fit : ∀ piece ∈ pieces, piece.bytes.length ≤ piece.length) {before : Recorded}
    (prepared : before.Prepared) : (pieces.foldl Piece.load before).Prepared := by
  induction pieces generalizing before with
  | nil => exact prepared
  | cons piece rest ih =>
    obtain ⟨fits, later⟩ := List.forall_mem_cons.mp fit
    exact ih later (Piece.prepared_load fits prepared)

/-- Every call leaves the pages mapped and the right bytes seen, also if it fails. -/
theorem Call.use_ends (call : Call) (seen : state.value.Shows contents) :
    Ends call.use state
      (fun _ next => state.value.pages.Grown next.value.pages ∧
        next.value.Shows (call.effect contents))
      fun _ next => state.value.pages.Grown next.value.pages ∧ next.value.Shows contents := by
  have sound := seen.sound
  have unchanged : ∀ next, Unchanged state next →
      state.value.pages.Grown next.value.pages ∧ next.value.Shows contents :=
    fun next same => ⟨same.pages ▸ sound.pages.grown, seen.unchanged same⟩
  cases call with
  | mapPage address =>
    have mapping : Ends (PageTable.mapPage address) (pageTable.get state) _ _ :=
      PageTable.mapPage_ends sound.pages
    refine ends_discard.mpr (ends_act.mpr ?_)
    exact mapping.mono (fun _ _ mapped => ⟨mapped.1, seen.mapped mapped.1⟩)
      fun _ _ grown => ⟨grown, seen.mapped grown⟩
  | mapRange address length =>
    have mapping : Ends (PageTable.mapRange address length) (pageTable.get state) _ _ :=
      PageTable.mapRange_ends sound.pages
    refine ends_act.mpr ?_
    exact mapping.mono (fun _ _ mapped => ⟨mapped.1, seen.mapped mapped.1⟩)
      fun _ _ grown => ⟨grown, seen.mapped grown⟩
  | read address size =>
    refine ends_discard.mpr ?_
    exact (read_ends sound address size).mono (fun _ next given => unchanged next given.1)
      fun _ next failed => unchanged next failed.1
  | write address value size =>
    refine ends_discard.mpr ?_
    refine (write_ends sound address value size).mono (fun _ next given => ?_)
      fun _ next failed => unchanged next failed.1
    obtain ⟨overwritten, -⟩ := given
    exact ⟨overwritten.pages ▸ sound.pages.grown, seen.overwritten overwritten⟩

theorem shows_of_calls (calls : List Call) {before : Recorded}
    (seen : before.state.value.Shows before.contents) :
    (calls.foldl Call.make before).state.value.Shows (calls.foldl Call.make before).contents := by
  induction calls generalizing before with
  | nil => exact seen
  | cons call rest ih =>
    refine ih (Recorded.after_of_ends (fun after => after.state.value.Shows after.contents) ?_)
    exact (call.use_ends seen).mono (fun _ _ given => given.2) fun _ _ failed => failed.2

/-- An address space that shows the bytes put there is a map of bytes. -/
theorem isByteMap_of_shows {recorded : Recorded}
    (seen : recorded.state.value.Shows recorded.contents) : recorded.IsByteMap where
  read address size := by
    refine (read_ends seen.sound address size).mono (fun result next given => ?_)
      fun fault next failed => ?_
    · obtain ⟨-, given⟩ := given
      rw [read_flat, seen.bytes] at given
      obtain ⟨served, word⟩ := elim_eq_ok_iff.mp given
      have bound := Bytes.toNat_lt (recorded.contents.read address size)
      rw [Contents.length_read] at bound
      have few := size_le_of_refusal?_eq_none served
      have fits : 1 <<< (8 * size) ≤ 2 ^ 64 := by
        rw [Nat.shiftLeft_eq, Nat.one_mul]
        exact Nat.pow_le_pow_right (by decide) (by omega)
      refine ⟨served, ?_⟩
      rw [← word, BitVec.toNat_ofNat, Nat.mod_eq_of_lt (Nat.lt_of_lt_of_le bound fits)]
    · obtain ⟨-, failed⟩ := failed
      rw [read_flat] at failed
      exact elim_eq_error_iff.mp failed
  write address value size := by
    refine (write_ends seen.sound address value size).mono (fun _ next given => ?_)
      fun fault next failed => ?_
    · obtain ⟨-, given⟩ := given
      rw [write_flat] at given
      exact (elim_eq_ok_iff.mp given).1
    · obtain ⟨-, failed⟩ := failed
      rw [write_flat] at failed
      exact elim_eq_error_iff.mp failed
  kept call :=
    (call.use_ends seen).mono (fun _ _ _ => trivial) fun _ _ failed _ _ visible =>
      seen.byteSeen_of_grown failed.2 failed.1 visible

/-- The address space of a machine is a map of bytes, with zeros at first: whatever pieces of an
image were loaded, and whatever pages were mapped and accesses made after that, successful or not,
accesses end as in the map of the bytes that were put there last. Pieces may overlap, and then the
later one wins. -/
theorem isByteMap_of_history {settings : Settings} (made : ofSettings settings = .ok space)
    (log : Log) (pieces : List Piece) (fit : ∀ piece ∈ pieces, piece.bytes.length ≤ piece.length)
    (calls : List Call) : (history space log pieces calls).IsByteMap := by
  have loaded := prepared_of_loads pieces fit (prepared_of_ofSettings made log)
  exact isByteMap_of_shows (shows_of_calls calls loaded.seen)

/-- A piece lies across the end of a page. One of its bytes is written, and a write that would leave
its block is refused. -/
theorem isByteMap_of_history_acrossPages : ∃ space, ofSettings Settings.default = .ok space ∧
    let recorded := history space {} [⟨0x2ffe, [1, 2, 3, 4], 16⟩, ⟨0x3010, [5], 1⟩]
      [.write 0x2fff 0xbbaa 1, .mapPage 0x5000, .write 0x303c 6 8]
    recorded.IsByteMap ∧ recorded.contents.read 0x2ffe 5 = [1, 0xaa, 3, 4, 0] ∧
      recorded.state.value.refusal? 0x303c 8 = some (.access 0x103c (.crossesBlock 8)) := by
  have checked : (ofSettings Settings.default).toOption.any (fun space =>
      let recorded := history space {} [⟨0x2ffe, [1, 2, 3, 4], 16⟩, ⟨0x3010, [5], 1⟩]
        [.write 0x2fff 0xbbaa 1, .mapPage 0x5000, .write 0x303c 6 8]
      recorded.contents.read 0x2ffe 5 = [1, 0xaa, 3, 4, 0] ∧
        recorded.state.value.refusal? 0x303c 8 = some (.access 0x103c (.crossesBlock 8))) := by
    decide +kernel
  obtain ⟨space, made, checked⟩ := exists_ok_of_any checked
  have fit : ∀ piece ∈ [(⟨0x2ffe, [1, 2, 3, 4], 16⟩ : Piece), ⟨0x3010, [5], 1⟩],
      piece.bytes.length ≤ piece.length := by decide
  exact ⟨space, made, isByteMap_of_history made {} _ fit _, of_decide_eq_true checked⟩

end AddressSpace

end FiveStage
