import FiveStage.Proofs.Cache.Steps

/-!
# The parts of an address

Every geometry that a cache can have distributes the lines over the sets without a rest, also one
whose number of ways was filled in wrongly, for the number of lines in a set is found from the size
and the sets alone. Since the sets are a power of two, the offset, the set and the tag of a 64-bit
address are fields of the word: they are cut out by shifts and masks, no bit of a field is lost when
it is shifted back, and the fields together are the address.

## Main definitions

* `KeepsBits`: a shift to the left that loses nothing
* `AddressFields.offset`, `AddressFields.index`, `AddressFields.tag`, `AddressFields.join`: the
  fields of a word, and the address of a block from its fields
* `Cache.LaidOut`: the lines of a cache and all addresses are divided among the sets of a geometry
* `Cache.CutsByBits`: the parts of an address are the fields of the word

## Main results

* `AddressFields.join_add_offset`: the fields of a word together are the word
* `Cache.laidOut_after`: a cache that was given its lines is laid out by its geometry and cuts
  addresses by bits, whatever it is asked
-/

namespace FiveStage

/-! ### Words and powers of two -/

theorem log2?_two_pow (k : Nat) : log2? (2 ^ k) = some k := by
  rw [log2?, if_neg (Nat.two_pow_pos k).ne', Nat.log2_two_pow]

/-- A mask keeps the remainder by a power of two. -/
theorem toNat_and_lowMask {bits : Nat} (fits : bits ≤ 64) (w : Word) :
    (w &&& lowMask bits).toNat = w.toNat % 2 ^ bits := by
  have inside : 2 ^ bits - 1 < 2 ^ 64 :=
    (Nat.sub_one_lt (Nat.two_pow_pos bits).ne').trans_le (Nat.pow_le_pow_right (by decide) fits)
  rw [BitVec.toNat_and, lowMask, Nat.min_eq_left fits, Nat.one_shiftLeft, BitVec.toNat_ofNat,
    Nat.mod_eq_of_lt inside, Nat.and_two_pow_sub_one_eq_mod]

/-- A word loses no bit when it is shifted to the left. -/
def KeepsBits (n : Nat) (w : Word) : Prop := w <<< n >>> n = w

/-- No bit is lost if the multiple by the power of two is a word. -/
theorem keepsBits_iff {n : Nat} {w : Word} : KeepsBits n w ↔ w.toNat * 2 ^ n < 2 ^ 64 := by
  rw [KeepsBits, ← BitVec.toNat_inj, BitVec.toNat_ushiftRight, BitVec.toNat_shiftLeft,
    Nat.shiftLeft_eq, Nat.shiftRight_eq_div_pow]
  constructor
  · intro kept
    calc w.toNat * 2 ^ n = w.toNat * 2 ^ n % 2 ^ 64 / 2 ^ n * 2 ^ n := by rw [kept]
      _ ≤ w.toNat * 2 ^ n % 2 ^ 64 := Nat.div_mul_le_self ..
      _ < 2 ^ 64 := Nat.mod_lt _ (by decide)
  · intro fits
    rw [Nat.mod_eq_of_lt fits, Nat.mul_div_cancel _ (Nat.two_pow_pos n)]

/-! ### Fields of an address -/

/-- The number of bits of an offset in a block. -/
def blockBits : Nat := 6

namespace AddressFields

variable {bits : Nat}

/-- The place in the block: the lowest bits of an address. -/
def offset (address : Word) : Word := address &&& lowMask blockBits

/-- The set of the block: so many bits above the offset. -/
def index (bits : Nat) (address : Word) : Word := address >>> blockBits &&& lowMask bits

/-- The tag of the block: all bits above those of the set. -/
def tag (bits : Nat) (address : Word) : Word := address >>> (blockBits + bits)

/-- The address of a block with a tag in a set. -/
def join (bits : Nat) (tag index : Word) : Word :=
  tag <<< (blockBits + bits) ||| index <<< blockBits

theorem toNat_offset (address : Word) : (offset address).toNat = blockOffset address.toNat :=
  toNat_and_lowMask (by decide) address

theorem toNat_index (width : blockBits + bits ≤ 64) (address : Word) :
    (index bits address).toNat = address.toNat / blockSize % 2 ^ bits := by
  rw [index, toNat_and_lowMask (Nat.le_of_add_left_le width), BitVec.toNat_ushiftRight,
    Nat.shiftRight_eq_div_pow]
  rfl

theorem toNat_tag (address : Word) :
    (tag bits address).toNat = address.toNat / blockSize / 2 ^ bits := by
  rw [tag, BitVec.toNat_ushiftRight, Nat.shiftRight_eq_div_pow, Nat.pow_add,
    ← Nat.div_div_eq_div_mul]
  rfl

theorem toNat_index_lt (width : blockBits + bits ≤ 64) (address : Word) :
    (index bits address).toNat < 2 ^ bits := by
  rw [toNat_index width]
  exact Nat.mod_lt _ (Nat.two_pow_pos bits)

/-- What has so many bits ends below the tag when it is shifted above the offset. -/
theorem mul_two_pow_blockBits_lt {n : Nat} (inside : n < 2 ^ bits) :
    n * 2 ^ blockBits < 2 ^ (blockBits + bits) := by
  rw [Nat.pow_add, Nat.mul_comm]
  exact Nat.mul_lt_mul_of_pos_left inside (Nat.two_pow_pos _)

theorem index_kept (width : blockBits + bits ≤ 64) (address : Word) :
    KeepsBits blockBits (index bits address) := by
  have low := mul_two_pow_blockBits_lt (toNat_index_lt width address)
  exact keepsBits_iff.mpr (low.trans_le (Nat.pow_le_pow_right (by decide) width))

theorem tag_kept (address : Word) : KeepsBits (blockBits + bits) (tag bits address) := by
  rw [keepsBits_iff, tag, BitVec.toNat_ushiftRight, Nat.shiftRight_eq_div_pow]
  exact (Nat.div_mul_le_self ..).trans_lt address.isLt

/-- Fields that lose no bit are put side by side. -/
theorem toNat_join {tag index : Word} (width : blockBits + bits ≤ 64)
    (kept : KeepsBits (blockBits + bits) tag) (inside : index.toNat < 2 ^ bits) :
    (join bits tag index).toNat = (tag.toNat * 2 ^ bits + index.toNat) * blockSize := by
  have low := mul_two_pow_blockBits_lt inside
  have low_fits := low.trans_le (Nat.pow_le_pow_right (by decide) width)
  rw [keepsBits_iff] at kept
  calc (join bits tag index).toNat
      = tag.toNat <<< (blockBits + bits) ||| index.toNat * 2 ^ blockBits := by
        rw [join, BitVec.toNat_or, BitVec.toNat_shiftLeft, BitVec.toNat_shiftLeft,
          Nat.shiftLeft_eq index.toNat, Nat.mod_eq_of_lt low_fits, Nat.shiftLeft_eq,
          Nat.mod_eq_of_lt kept]
    _ = tag.toNat <<< (blockBits + bits) + index.toNat * 2 ^ blockBits :=
        (Nat.shiftLeft_add_eq_or_of_lt low _).symm
    _ = (tag.toNat * 2 ^ bits + index.toNat) * 2 ^ blockBits := by
        rw [Nat.shiftLeft_eq, Nat.pow_add, Nat.add_mul, Nat.mul_comm (2 ^ blockBits), Nat.mul_assoc]

/-- The fields of an address together are the address. -/
theorem join_add_offset (width : blockBits + bits ≤ 64) (address : Word) :
    join bits (tag bits address) (index bits address) + offset address = address := by
  have inside := toNat_index_lt width address
  apply BitVec.eq_of_toNat_eq
  rw [BitVec.toNat_add, toNat_join width (tag_kept address) inside, toNat_tag, toNat_index width,
    toNat_offset, Nat.div_add_mod', blockNumber_mul_add_blockOffset,
    Nat.mod_eq_of_lt address.isLt]

end AddressFields

namespace Geometry

variable {geometry : Geometry}

/-- The number of sets of an accepted geometry leaves room for a tag in a word. -/
theorem exists_indexBits (accepted : geometry.fault? = none) (countable : geometry.size < 2 ^ 64) :
    ∃ bits, geometry.sets = 2 ^ bits ∧ blockBits + bits < 64 := by
  obtain ⟨-, -, shared, bits, sets⟩ := fault?_eq_none_iff.mp accepted
  refine ⟨bits, sets, ?_⟩
  -- a size that is a word has fewer than `2 ^ 58` blocks, and there are no more sets than blocks
  have bound : 2 ^ bits < 2 ^ 58 :=
    calc 2 ^ bits = geometry.sets := sets.symm
      _ ≤ geometry.entries := Nat.le_of_dvd (entries_pos accepted) shared
      _ < 2 ^ 58 := by
        simp only [entries, blockSize]
        omega
  have narrow := (Nat.pow_lt_pow_iff_right (by decide)).mp bound
  simp only [blockBits]
  omega

end Geometry

namespace Cache

variable {σ S : Type} {cache unconfigured : Cache σ} {geometry : Geometry} {bits : Nat}

/-! ### Lines and addresses in sets -/

/-- The lines of a cache and all addresses are divided among the sets of a geometry. Every set has
the same number of lines, which are lines of the cache, and every line is in one set only. An
address is put together again from its tag, its set and its offset, and its tag and its set tell its
block from all others. -/
structure LaidOut (geometry : Geometry) (cache : Cache σ) : Prop where
  size : cache.lines.size = geometry.entries
  ways : cache.ways * geometry.sets = geometry.entries
  within : ∀ set < geometry.sets, ∀ i ∈ cache.linesOf set, i < cache.lines.size
  owner : ∀ i < cache.lines.size, ∃! set, set < geometry.sets ∧ i ∈ cache.linesOf set
  setOf_lt : ∀ address, cache.setOf address < geometry.sets
  rejoined : ∀ address,
    cache.addressOf (cache.tagOf address) (cache.setOf address) + blockOffset address = address
  sameBlock : ∀ address other,
    cache.tagOf address = cache.tagOf other ∧ cache.setOf address = cache.setOf other ↔
      address / blockSize = other / blockSize

theorem Arranged.laidOut (arranged : cache.Arranged) (sets : cache.sets = geometry.sets)
    (size : cache.lines.size = geometry.entries) : cache.LaidOut geometry where
  size := size
  ways := by rw [← size, arranged.size_eq, sets, Nat.mul_comm]
  within set inside i member := by
    rw [← sets] at inside
    rw [arranged.mem_linesOf_iff] at member
    exact arranged.lt_size_of_setOfLine_lt (member ▸ inside)
  owner i inside := by
    refine ⟨cache.setOfLine i, ⟨sets ▸ arranged.setOfLine_lt inside, ?_⟩, fun set owns => ?_⟩
    · exact arranged.mem_linesOf_iff.mpr rfl
    · exact (arranged.mem_linesOf_iff.mp owns.2).symm
  setOf_lt address := sets ▸ arranged.setOf_lt address
  rejoined address := by
    rw [addressOf, tagOf_mul_add_setOf, blockNumber_mul_add_blockOffset]
  sameBlock address other := by
    constructor
    · rintro ⟨tag, set⟩
      rw [← tagOf_mul_add_setOf cache address, tag, set, tagOf_mul_add_setOf]
    · intro same
      exact ⟨by rw [tagOf, same, tagOf], by rw [setOf, same, setOf]⟩

/-! ### Fields of words -/

/-- The parts of every 64-bit address are fields of the word: the offset, `bits` bits for the set,
and the tag. A field loses no bit when it is shifted back, so that the fields together are the
address, and where none is lost the joined fields are the address of the block. -/
structure CutsByBits (bits : Nat) (cache : Cache σ) : Prop where
  width : blockBits + bits < 64
  offset : ∀ address : Word, (AddressFields.offset address).toNat = blockOffset address.toNat
  index : ∀ address : Word, (AddressFields.index bits address).toNat = cache.setOf address.toNat
  tag : ∀ address : Word, (AddressFields.tag bits address).toNat = cache.tagOf address.toNat
  join : ∀ tag index : Word, KeepsBits (blockBits + bits) tag → index.toNat < cache.sets →
    (AddressFields.join bits tag index).toNat = cache.addressOf tag.toNat index.toNat
  index_kept : ∀ address : Word, KeepsBits blockBits (AddressFields.index bits address)
  tag_kept : ∀ address : Word, KeepsBits (blockBits + bits) (AddressFields.tag bits address)
  rejoined : ∀ address : Word,
    AddressFields.join bits (AddressFields.tag bits address) (AddressFields.index bits address) +
      AddressFields.offset address = address

theorem cutsByBits (sets : cache.sets = 2 ^ bits) (width : blockBits + bits < 64) :
    cache.CutsByBits bits where
  width := width
  offset := AddressFields.toNat_offset
  index address := by rw [AddressFields.toNat_index width.le, setOf, sets]
  tag address := by rw [AddressFields.toNat_tag, tagOf, sets]
  join tag index kept inside := by
    rw [AddressFields.toNat_join width.le kept (sets ▸ inside), addressOf, sets]
  index_kept := AddressFields.index_kept width.le
  tag_kept := AddressFields.tag_kept
  rejoined := AddressFields.join_add_offset width.le

/-! ### Caches that were given their lines -/

/-- A cache without lines takes on an accepted geometry if there is room for the lines. -/
theorem exists_configure_iff (bare : unconfigured.isConfigured = false)
    (accepted : geometry.fault? = none) :
    (∃ cache, unconfigured.configure geometry = .ok cache) ↔ geometry.fits = true := by
  simp only [configure_eq_ok_iff, bare, accepted, true_and]
  exact ⟨fun ⟨_, fits, _⟩ => fits, fun fits => ⟨_, fits, rfl⟩⟩

/-- A cache keeps the shape that it was given. -/
theorem laidOut_of_configure (lower : Storage S) (below : S) (requests : List Request)
    (configured : unconfigured.configure geometry = .ok cache) :
    let last := (Storage.after (serve lower) requests (cache, below)).1
    last.sets = geometry.sets ∧ last.LaidOut geometry := by
  have fresh : cache.Fresh := ⟨unconfigured, geometry, configured⟩
  have steps := after_steps lower requests (cache, below) fresh.arranged
  obtain ⟨same, -, -⟩ := geometry_of_configure configured
  have shape := steps.shape
  have sets : (Storage.after (serve lower) requests (cache, below)).1.sets = geometry.sets := by
    rw [sets_congr shape.1 shape.2, fresh.sets_eq, same]
  refine ⟨sets, (steps.arranged fresh.arranged).laidOut sets ?_⟩
  rw [shape.2, fresh.size_lines, same]

/-- A size and a number of ways make a geometry if and only if they leave a power of two for the
sets, and a cache that is given its lines then has that many ways. Every geometry that is accepted
can be given to a cache if there is room for its lines, however its number of ways was filled in:
the cache is laid out by it, and cuts addresses by as many bits as the number of sets has below its
highest one. All of this remains true whatever the cache is asked. -/
theorem laidOut_after (lower : Storage S) (below : S) (requests : List Request)
    (bare : unconfigured.isConfigured = false) :
    let last := fun cache : Cache σ => (Storage.after (serve lower) requests (cache, below)).1
    (∀ size ways writeThrough writeAllocate geometry,
      (Geometry.make size ways writeThrough writeAllocate = .ok geometry ↔
        1 ≤ ways ∧ ways * blockSize < 2 ^ 64 ∧ ∃ k, size = ways * blockSize * 2 ^ k ∧
          geometry = ⟨size, ways, 2 ^ k, writeThrough, writeAllocate⟩) ∧
      (Geometry.make size ways writeThrough writeAllocate = .ok geometry →
        ((∃ cache, unconfigured.configure geometry = .ok cache) ↔ geometry.fits = true) ∧
        ∀ cache, unconfigured.configure geometry = .ok cache → (last cache).ways = ways)) ∧
    ∀ geometry : Geometry, geometry.validate = .ok () → geometry.size < 2 ^ 64 →
      ((∃ cache, unconfigured.configure geometry = .ok cache) ↔ geometry.fits = true) ∧
      ∃ bits, log2? geometry.sets = some bits ∧ geometry.sets = 2 ^ bits ∧
        ∀ cache, unconfigured.configure geometry = .ok cache →
          (last cache).LaidOut geometry ∧ (last cache).CutsByBits bits := by
  intro last
  refine ⟨fun size ways writeThrough writeAllocate geometry => ⟨Geometry.make_eq_ok_iff, ?_⟩, ?_⟩
  · intro made
    refine ⟨exists_configure_iff bare (Geometry.fault?_eq_none_of_make made), ?_⟩
    intro cache configured
    obtain ⟨-, laidOut⟩ := laidOut_of_configure lower below requests configured
    obtain ⟨-, -, k, rfl, rfl⟩ := Geometry.make_eq_ok_iff.mp made
    have entries : (last cache).ways * 2 ^ k = ways * 2 ^ k :=
      laidOut.ways.trans Geometry.entries_mul
    exact Nat.eq_of_mul_eq_mul_right (Nat.two_pow_pos k) entries
  · intro geometry valid countable
    have accepted := Geometry.validate_eq_ok_iff.mp valid
    obtain ⟨bits, sets, width⟩ := Geometry.exists_indexBits accepted countable
    have log : log2? geometry.sets = some bits := by rw [sets, log2?_two_pow]
    refine ⟨exists_configure_iff bare accepted, bits, log, sets, fun cache configured => ?_⟩
    obtain ⟨same, laidOut⟩ := laidOut_of_configure lower below requests configured
    exact ⟨laidOut, cutsByBits (same.trans sets) width⟩

/-- Four sets of three lines, filled in with seven ways. The last block of the address space is in
the last set, under the greatest tag. -/
theorem laidOut_after_threeWays :
    let unconfigured : Cache Unit := { name := "small", memo := () }
    let geometry : Geometry := ⟨768, 7, 4, false, true⟩
    let requests := [.write 0xffffffffffffffc5 [7], .read 0xc0 8, .read 0x1c8 8, .read 0x2c0 8]
    let last := fun cache : Cache Unit =>
      (Storage.after (serve Memory.serve) requests (cache, { size := 2 ^ 64 })).1
    (unconfigured.isConfigured = false ∧ geometry.validate = .ok () ∧ geometry.size < 2 ^ 64 ∧
      ∃ cache, unconfigured.configure geometry = .ok cache ∧ (last cache).ways = 3 ∧
        (last cache).LaidOut geometry ∧ (last cache).CutsByBits 2) ∧
      Geometry.make 768 3 false true = .ok ⟨768, 3, 4, false, true⟩ ∧
      (¬ ∃ geometry, Geometry.make 768 7 false true = .ok geometry) ∧
      AddressFields.index 2 0xffffffffffffffc5 = 3 ∧
      AddressFields.tag 2 0xffffffffffffffc5 = 0xffffffffffffff := by
  intro unconfigured geometry requests last
  have bare : unconfigured.isConfigured = false := rfl
  have valid : geometry.validate = .ok () := Geometry.validate_eq_ok_iff.mpr (by decide)
  have countable : geometry.size < 2 ^ 64 := by decide
  obtain ⟨making, accepting⟩ :=
    laidOut_after Memory.serve { size := 2 ^ 64 } requests bare
  obtain ⟨room, bits, log, -, shaped⟩ := accepting geometry valid countable
  obtain rfl : bits = 2 := Option.some.inj (log.symm.trans (log2?_two_pow 2))
  obtain ⟨cache, configured⟩ := room.mpr (by decide)
  obtain ⟨laidOut, cuts⟩ := shaped cache configured
  have ways : (last cache).ways * 4 = 12 := laidOut.ways.trans (by decide)
  refine ⟨⟨bare, valid, countable, cache, configured, by omega, laidOut, cuts⟩, ?_, ?_, ?_⟩
  · exact (making 768 3 false true _).1.mpr ⟨by decide, by decide, 2, rfl, rfl⟩
  · rintro ⟨made, isMade⟩
    obtain ⟨-, -, k, size, -⟩ := (making 768 7 false true made).1.mp isMade
    simp only [blockSize] at size
    omega
  · decide

end Cache

end FiveStage
