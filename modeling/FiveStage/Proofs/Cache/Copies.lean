import FiveStage.Proofs.Cache.Integrity
import Mathlib.Data.Set.Insert

/-!
# The copies of one byte

Bytes that are put into memory past the caches leave the copies in the caches as they are. A clean
line may then differ from what is below it, and nothing that is seen at the top is a flat array any
more. What is left can be said of one place at a time: a set of bytes bounds what may be seen there,
whatever is asked next. A line that is clean and the storage below it have to keep to the same set,
since either may be asked; under a dirty line anything may lie, since the line is written back
before it is forgotten.

A chain without outdated copies keeps to the set of the one byte that is seen.

## Main definitions

* `Request.leaves`: what may be seen at a place after a request
* `Storage.Upholds`: a storage that serves requests to some blocks, and keeps to what may be seen
* `Cache.Shields`, `Cache.beneath`: what the storage below a cache may show
* `Cache.Offers`: what may be seen at a place, now and later

## Main results

* `Cache.Offers.giveUp`, `Cache.Offers.fill`, `Cache.Offers.store`, `Cache.Offers.pass`: the ways in
  which a cache changes its blocks
* `Cache.Offers.leaves_writeBack`, `Cache.Offers.beneath_store`: what is below it then
-/

namespace FiveStage

/-! ### Requests -/

namespace Request

variable {place address : Nat} {bytes : Bytes} {seen seen' : Set UInt8} {request : Request}

/-- What may be seen at a place after a request: where a write has a byte, that byte. -/
def leaves (place : Nat) (seen : Set UInt8) : Request → Set UInt8
  | read .. => seen
  | write address bytes =>
    if address ≤ place ∧ place < address + bytes.length then {bytes.getD (place - address) 0}
    else seen

/-- A read has brought as many bytes as were asked for, and for the place one that may be seen. -/
def Brings (place : Nat) (seen : Set UInt8) (request : Request) (delivered : Option Bytes) : Prop :=
  ∀ address length, request = .read address length →
    ∃ bytes, delivered = some bytes ∧ bytes.length = length ∧
      ∀ offset < length, address + offset = place → bytes.getD offset 0 ∈ seen

theorem leaves_of_block_ne (inBlock : request.InBlock)
    (other : place / blockSize ≠ request.address / blockSize) :
    request.leaves place seen = seen := by
  cases request with
  | read => rfl
  | write address bytes =>
    apply if_neg
    exact fun within => other (blockNumber_of_inBlock inBlock within.1 within.2)

/-- A flat array that keeps to what may be seen does so after the request. -/
theorem apply_mem_leaves {contents : Contents} (byte : contents place ∈ seen) :
    request.apply contents place ∈ request.leaves place seen := by
  cases request with
  | read => exact byte
  | write address bytes =>
    simp only [apply, Contents.write, leaves]
    split
    · exact Set.mem_singleton _
    · exact byte

theorem brings_write (delivered : Option Bytes) :
    (write address bytes).Brings place seen delivered := nofun

/-- The part of a block that a read asks for. -/
theorem brings_slice {data : Bytes} {length : Nat} (whole : data.length = blockSize)
    (inBlock : (read address length).InBlock)
    (byte : address / blockSize = place / blockSize → data.getD (blockOffset place) 0 ∈ seen) :
    (read address length).Brings place seen (some (data.slice (blockOffset address) length)) := by
  rintro _ _ ⟨⟩
  have fits : blockOffset address + length ≤ blockSize := inBlock
  refine ⟨_, rfl, Bytes.length_slice (whole ▸ fits), fun offset inside here => ?_⟩
  have number := blockNumber_of_inBlock fits (Nat.le_add_right address offset) (by omega)
  have start : blockOffset place = blockOffset address + offset := by
    simp only [blockOffset, blockSize] at *
    omega
  have same := byte (by rw [← here, number])
  rw [start, List.getD_eq_getElem?_getD] at same
  rwa [List.getD_eq_getElem?_getD, Bytes.slice, List.getElem?_take_of_lt inside, List.getElem?_drop]

end Request

/-- Where some bytes bound what may be seen, so do these and others. -/
def Widening {S : Type} (Offers : Set UInt8 → S → Prop) : Prop :=
  ∀ ⦃seen seen' : Set UInt8⦄, seen ⊆ seen' → ∀ state, Offers seen state → Offers seen' state

/-- A storage has served a request as it should, if the given set bounds what may be seen. -/
structure Storage.Meets {S : Type} (place : Nat) (Offers : Set UInt8 → S → Prop)
    (seen : Set UInt8) (request : Request) (answer : Reply × S) : Prop where
  served : ∃ access, answer.1.outcome = .ok access
  brings : request.Brings place seen answer.1.delivered
  leaves : Offers (request.leaves place seen) answer.2

/-- A storage that serves all requests to some blocks, and keeps to what may be seen at a place. -/
structure Storage.Upholds {S : Type} (storage : Storage S) (opened : Nat → Prop) (place : Nat)
    (Offers : Set UInt8 → S → Prop) : Prop where
  mono : Widening Offers
  meets : ∀ {seen request state}, Offers seen state → request.InBlock →
    opened (request.address / blockSize) →
    Storage.Meets place Offers seen request (storage request state)

theorem Bytes.getD_overwrite {data piece : Bytes} {offset : Nat}
    (fits : offset + piece.length ≤ data.length) (k : Nat) :
    (data.overwrite offset piece).getD k 0 =
      if offset ≤ k ∧ k < offset + piece.length then piece.getD (k - offset) 0
      else data.getD k 0 := by
  by_cases inside : k < data.length
  · have same : data = Contents.read (data.getD · 0) 0 data.length :=
      Contents.eq_read_of_getD rfl fun _ _ => by rw [Nat.zero_add]
    have written : (Contents.read (data.getD · 0) 0 data.length).overwrite offset piece = _ :=
      Contents.overwrite_read fits
    rw [← same, Nat.zero_add] at written
    rw [written, Contents.getD_read inside, Nat.zero_add]
    rfl
  · have beyond : ¬ (offset ≤ k ∧ k < offset + piece.length) := by omega
    have past : (data.overwrite offset piece).length ≤ k := by
      rw [length_overwrite fits]
      omega
    rw [if_neg beyond, List.getD_eq_getElem?_getD, List.getD_eq_getElem?_getD,
      List.getElem?_eq_none past, List.getElem?_eq_none (by omega)]

/-- A block that keeps to what may be seen does so after bytes were put into it. -/
theorem Request.overwrite_mem_leaves {data bytes : Bytes} {place address : Nat} {seen : Set UInt8}
    (whole : data.length = blockSize) (inBlock : (Request.write address bytes).InBlock)
    (number : place / blockSize = address / blockSize)
    (byte : data.getD (blockOffset place) 0 ∈ seen) :
    (data.overwrite (blockOffset address) bytes).getD (blockOffset place) 0 ∈
      (Request.write address bytes).leaves place seen := by
  have fits : blockOffset address + bytes.length ≤ data.length := whole ▸ inBlock
  have distance : blockOffset place - blockOffset address = place - address := by
    simp only [blockOffset, blockSize] at *
    omega
  have within : blockOffset address ≤ blockOffset place ∧
      blockOffset place < blockOffset address + bytes.length ↔
        address ≤ place ∧ place < address + bytes.length := by
    simp only [blockOffset, blockSize] at *
    omega
  rw [Bytes.getD_overwrite fits]
  simp only [Request.leaves, within, distance]
  split
  · exact Set.mem_singleton _
  · exact byte

/-! ### Caches -/

namespace Cache

variable {σ S : Type} {cache next : Cache σ} {lower : Storage S} {opened : Nat → Prop}
  {place index address i n set : Nat} {Lower : Set UInt8 → S → Prop} {seen seen' : Set UInt8}
  {below below' : S} {state after : ServiceState σ S} {request : Request}

/-- A dirty line has the place. What is below it there is not seen before the line is written
back. -/
def Shields (cache : Cache σ) (place : Nat) : Prop :=
  ∃ i, cache.HoldsAt i (place / blockSize) ∧ (cache.line i).dirty = true

/-- What the storage below may show at a place. -/
def beneath (cache : Cache σ) (place : Nat) (seen : Set UInt8) : Set UInt8 :=
  {b | cache.Shields place ∨ b ∈ seen}

theorem beneath_subset (shields : cache.Shields place → next.Shields place) (wider : seen ⊆ seen') :
    cache.beneath place seen ⊆ next.beneath place seen' :=
  fun _ shown => shown.imp shields (@wider _)

theorem beneath_of_not_shields (bare : ¬ cache.Shields place) :
    cache.beneath place seen = seen := by
  ext b
  exact or_iff_right bare

/-- What may be seen at a place through a cache: every line keeps to it that has the place, and so
does the storage below unless it is shielded there. The cache holds whole blocks, and only such as
may be asked for. -/
structure Offers (opened : Nat → Prop) (place : Nat) (Lower : Set UInt8 → S → Prop)
    (seen : Set UInt8) (cache : Cache σ) (below : S) : Prop where
  tidy : cache.Tidy
  plain : cache.policy = Policy.plain σ
  opened : ∀ i n, cache.HoldsAt i n → opened n
  whole : ∀ i n, cache.HoldsAt i n → (cache.line i).data.length = blockSize
  byte : ∀ i, cache.HoldsAt i (place / blockSize) →
    (cache.line i).data.getD (blockOffset place) 0 ∈ seen
  below : Lower (cache.beneath place seen) below

/-- The same of the cache and the storage below between two steps of a request. -/
abbrev Offering (opened : Nat → Prop) (place : Nat) (Lower : Set UInt8 → S → Prop)
    (seen : Set UInt8) (state : ServiceState σ S) : Prop :=
  state.cache.Offers opened place Lower seen state.below

theorem SameBlocks.tidy (same : cache.SameBlocks next) (tidy : cache.Tidy) : next.Tidy where
  arranged := same.arranged tidy.arranged
  unique i j n held held' :=
    tidy.unique i j n (same.holdsAt_iff.mp held) (same.holdsAt_iff.mp held')
  lawful i := by
    by_cases inside : i < cache.lines.size
    · obtain ⟨-, -, valid, dirty⟩ := same.line i inside
      rw [Line.Lawful, valid, dirty, same.geometry]
      exact tidy.lawful i
    · rw [line_eq_empty (same.size ▸ inside)]
      exact Line.lawful_of_clean rfl

theorem SameBlocks.shields (same : cache.SameBlocks next) (shields : cache.Shields place) :
    next.Shields place := by
  obtain ⟨i, held, dirty⟩ := shields
  exact ⟨i, same.holdsAt_iff.mpr held, (same.line i held.1).2.2.2.trans dirty⟩

/-- After a block came in, a line with a block is the new one or has what it had. -/
theorem holdsAt_filled (arranged : cache.Arranged) (data : Bytes)
    (inSet : cache.setOfLine index = cache.setOf address) :
    let filled := cache.modifyLine index fun l =>
      { l with data, tag := cache.tagOf address, valid := true, dirty := false }
    (filled.touch index).HoldsAt i n →
      n = address / blockSize ∧ ((filled.touch index).line i).data = data ∨
        cache.HoldsAt i n ∧ ((filled.touch index).line i).data = (cache.line i).data := by
  intro filled held
  have touched : filled.SameBlocks (filled.touch index) := .touch ..
  rw [touched.holdsAt_iff] at held
  rw [(touched.line i held.1).2.1]
  rcases (holdsAt_fill arranged data inSet).mp held with ⟨rfl, number⟩ | ⟨other, before⟩
  · have inside : i < cache.lines.size := by simpa [filled] using held.1
    exact .inl ⟨number, by rw [line_modifyLine_self inside]⟩
  · exact .inr ⟨before, by rw [line_modifyLine_of_ne other]⟩

namespace Offers

theorem blocks (offers : cache.Offers opened place Lower seen below)
    (mono : Widening Lower)
    (same : cache.SameBlocks next) : next.Offers opened place Lower seen below where
  tidy := same.tidy offers.tidy
  plain := same.policy.trans offers.plain
  opened i n held := offers.opened i n (same.holdsAt_iff.mp held)
  whole i n held := by
    rw [same.holdsAt_iff] at held
    rw [(same.line i held.1).2.1]
    exact offers.whole i n held
  byte i held := by
    rw [same.holdsAt_iff] at held
    rw [(same.line i held.1).2.1]
    exact offers.byte i held
  below := mono (beneath_subset same.shields subset_rfl) _ offers.below

theorem count (offers : cache.Offers opened place Lower seen below) (mono : Widening Lower)
    (change : Statistics → Statistics) :
    (cache.count change).Offers opened place Lower seen below :=
  offers.blocks mono (.count cache change)

theorem mono {opened' : Nat → Prop} {Lower' : Set UInt8 → S → Prop}
    (offers : cache.Offers opened place Lower seen below) (opens : ∀ n, opened n → opened' n)
    (wider : seen ⊆ seen')
    (lowers : ∀ {seen seen' : Set UInt8}, seen ⊆ seen' → Lower seen below → Lower' seen' below) :
    cache.Offers opened' place Lower' seen' below where
  tidy := offers.tidy
  plain := offers.plain
  opened i n held := opens n (offers.opened i n held)
  whole := offers.whole
  byte i held := wider (offers.byte i held)
  below := lowers (beneath_subset id wider) offers.below

/-- A line gives way once the storage below keeps to what may be seen without it. -/
theorem giveUp (offers : cache.Offers opened place Lower seen below) (inSets : set < cache.sets)
    (full : cache.vacant? set = none) :
    let dropped := cache.modifyLine (cache.victim set) fun l =>
      { l with valid := false, dirty := false }
    Lower (dropped.beneath place seen) below' → dropped.Offers opened place Lower seen below' := by
  intro dropped below
  have kept {i n : Nat} (held : dropped.HoldsAt i n) :
      cache.HoldsAt i n ∧ dropped.line i = cache.line i := by
    obtain ⟨other, held⟩ := holdsAt_giveUp.mp held
    exact ⟨held, line_modifyLine_of_ne other⟩
  refine ⟨offers.tidy.step (.giveUp inSets full), offers.plain, fun i n held => ?_,
    fun i n held => ?_, fun i held => ?_, below⟩
  · exact offers.opened i n (kept held).1
  · rw [(kept held).2]
    exact offers.whole i n (kept held).1
  · rw [(kept held).2]
    exact offers.byte i (kept held).1

/-- A dirty line elsewhere stays when a line gives way. -/
theorem shields_giveUp (held : cache.HoldsAt index n)
    (elsewhere : place / blockSize = n → (cache.line index).dirty = false)
    (shields : cache.Shields place) :
    (cache.modifyLine index fun l => { l with valid := false, dirty := false }).Shields place := by
  obtain ⟨i, held', dirty⟩ := shields
  have other : i ≠ index := by
    rintro rfl
    have clean := elsewhere (held'.2.2.symm.trans held.2.2)
    cases clean.symm.trans dirty
  refine ⟨i, holdsAt_giveUp.mpr ⟨other, held'⟩, ?_⟩
  rwa [line_modifyLine_of_ne other]

/-- A block that comes in has a byte at the place that may be seen there. -/
theorem fill (offers : cache.Offers opened place Lower seen below) {data : Bytes}
    (mono : Widening Lower)
    (inSet : cache.setOfLine index = cache.setOf address)
    (vacant : (cache.line index).valid = false) (absent : cache.lookup address = none)
    (opens : opened (address / blockSize)) (whole : data.length = blockSize)
    (byte : address / blockSize = place / blockSize → data.getD (blockOffset place) 0 ∈ seen)
    (below : Lower (cache.beneath place seen) below') :
    let filled := cache.modifyLine index fun l =>
      { l with data, tag := cache.tagOf address, valid := true, dirty := false }
    (filled.touch index).Offers opened place Lower seen below' := by
  intro filled
  have after {i n : Nat} (held : (filled.touch index).HoldsAt i n) :=
    holdsAt_filled offers.tidy.arranged data inSet held
  refine ⟨offers.tidy.step (.fill data inSet vacant absent), offers.plain, fun i n held => ?_,
    fun i n held => ?_, fun i held => ?_, mono (beneath_subset ?_ subset_rfl) _ below⟩
  · rcases after held with ⟨rfl, -⟩ | ⟨held, -⟩
    · exact opens
    · exact offers.opened i n held
  · rcases after held with ⟨-, same⟩ | ⟨held, same⟩
    · rwa [same]
    · rw [same]
      exact offers.whole i n held
  · rcases after held with ⟨number, same⟩ | ⟨held, same⟩
    · rw [same]
      exact byte number.symm
    · rw [same]
      exact offers.byte i held
  · rintro ⟨i, held, dirty⟩
    have other : i ≠ index := by
      rintro rfl
      cases vacant.symm.trans held.2.1
    have kept : filled.HoldsAt i (place / blockSize) :=
      (holdsAt_fill offers.tidy.arranged data inSet).mpr (.inr ⟨other, held⟩)
    refine SameBlocks.shields (.touch filled index) ⟨i, kept, ?_⟩
    rwa [line_modifyLine_of_ne other]

/-- Bytes are stored in the line that has their block. -/
theorem store (offers : cache.Offers opened place Lower seen below) {bytes : Bytes}
    (held : cache.HoldsAt index (address / blockSize))
    (inBlock : (Request.write address bytes).InBlock) :
    let stored := cache.modifyLine index fun l =>
      { l with
        data := l.data.overwrite (blockOffset address) bytes
        dirty := !cache.geometry.writeThrough }
    let seen' := (Request.write address bytes).leaves place seen
    Lower (stored.beneath place seen') below' →
      stored.Offers opened place Lower seen' below' := by
  intro stored seen' below
  have fits : blockOffset address + bytes.length ≤ (cache.line index).data.length := by
    rw [offers.whole _ _ held]
    exact inBlock
  have self : stored.line index = _ := line_modifyLine_self held.1
  have old (i : Nat) (other : i ≠ index) : stored.line i = cache.line i :=
    line_modifyLine_of_ne other
  refine ⟨offers.tidy.step (.store held.2.1 (·.overwrite (blockOffset address) bytes)),
    offers.plain, fun i n held' => ?_, fun i n held' => ?_, fun i held' => ?_, below⟩
  · exact offers.opened i n (holdsAt_store.mp held')
  · have whole := offers.whole i n (holdsAt_store.mp held')
    by_cases here : i = index
    · subst here
      rw [self]
      exact (Bytes.length_overwrite fits).trans whole
    · rwa [old i here]
  · have before := holdsAt_store.mp held'
    have byte := offers.byte i before
    by_cases here : i = index
    · subst here
      have number : place / blockSize = address / blockSize := before.2.2.symm.trans held.2.2
      rw [self]
      exact Request.overwrite_mem_leaves (offers.whole _ _ held) inBlock number byte
    · have other : place / blockSize ≠ address / blockSize := by
        intro number
        exact here (offers.tidy.unique i index _ before (number ▸ held))
      rw [old i here]
      simpa only [seen', Request.leaves_of_block_ne inBlock other] using byte

/-- A block that is written back leaves below it what may be seen of it. -/
theorem leaves_writeBack (offers : cache.Offers opened place Lower seen below)
    (held : cache.HoldsAt index n) :
    let dropped := cache.modifyLine index fun l => { l with valid := false, dirty := false }
    let flush := Request.write (n * blockSize) (cache.line index).data
    flush.leaves place (cache.beneath place seen) ⊆
      dropped.beneath place seen := by
  intro dropped flush
  have whole := offers.whole index n held
  have within : n * blockSize ≤ place ∧ place < n * blockSize + (cache.line index).data.length ↔
      place / blockSize = n := by
    simp only [whole, blockSize]
    omega
  simp only [flush, Request.leaves, within]
  split
  · next here =>
    subst here
    have distance : place - place / blockSize * blockSize = blockOffset place := by
      simp only [blockOffset, blockSize]
      omega
    rw [distance, Set.singleton_subset_iff]
    exact .inr (offers.byte index held)
  · next elsewhere =>
    exact beneath_subset (shields_giveUp held fun here => absurd here elsewhere) (Set.Subset.refl _)

/-- A write to a block that is not in the cache is for the storage below. -/
theorem pass (offers : cache.Offers opened place Lower seen below)
    (absent : cache.lookup request.address = none) (inBlock : request.InBlock)
    (passed : Lower (request.leaves place (cache.beneath place seen)) below') :
    cache.Offers opened place Lower (request.leaves place seen) below' := by
  by_cases here : place / blockSize = request.address / blockSize
  · have nowhere (i : Nat) : ¬ cache.HoldsAt i (place / blockSize) := by
      rw [here]
      exact offers.tidy.arranged.lookup_eq_none_iff.mp absent i
    have bare : ¬ cache.Shields place := fun ⟨i, held, _⟩ => nowhere i held
    rw [beneath_of_not_shields bare] at passed
    refine { offers with byte := fun i held => absurd held (nowhere i), below := ?_ }
    rwa [beneath_of_not_shields bare]
  · rw [Request.leaves_of_block_ne inBlock here] at passed ⊢
    exact { offers with below := passed }

/-- What is below a line that takes a write need not change if the line is dirty afterwards. -/
theorem beneath_store {bytes : Bytes} (held : cache.HoldsAt index (address / blockSize))
    (inBlock : (Request.write address bytes).InBlock)
    (late : cache.geometry.writeThrough = false) :
    let stored := cache.modifyLine index fun l =>
      { l with
        data := l.data.overwrite (blockOffset address) bytes
        dirty := !cache.geometry.writeThrough }
    cache.beneath place seen ⊆
      stored.beneath place ((Request.write address bytes).leaves place seen) := by
  intro stored
  have self : stored.line index = _ := line_modifyLine_self held.1
  by_cases here : place / blockSize = address / blockSize
  · have shields : stored.Shields place := by
      refine ⟨index, holdsAt_store.mpr (here ▸ held), ?_⟩
      rw [self, late]
      rfl
    exact fun _ _ => .inl shields
  · rw [Request.leaves_of_block_ne inBlock here]
    apply beneath_subset _ (Set.Subset.refl _)
    rintro ⟨i, held', dirty⟩
    have other : i ≠ index := by
      rintro rfl
      exact here (held'.2.2.symm.trans held.2.2)
    refine ⟨i, holdsAt_store.mpr held', ?_⟩
    rwa [line_modifyLine_of_ne other]

/-- Where writes go through at once nothing is shielded. -/
theorem not_shields_of_through (offers : cache.Offers opened place Lower seen below)
    (through : cache.geometry.writeThrough = true) : ¬ cache.Shields place := by
  rintro ⟨i, -, dirty⟩
  cases through.symm.trans (offers.tidy.lawful i dirty).2

end Offers

end Cache

end FiveStage
