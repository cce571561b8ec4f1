import FiveStage.Cache.Basic
import FiveStage.Proofs.Cache.Geometry
import FiveStage.Proofs.Storage.Contents

/-!
# The blocks in a cache

The tag of a line and the set the line belongs to name one block, by its number in the address
space. A cache is *coherent* over a flat array if each block is in at most one line, and every clean
line agrees with the array. What a requester sees through the cache is the line of a block where
there is one, and the array everywhere else.

## Main definitions

* `Cache.HoldsAt`, `Line.Covers`: a line that holds the block with a number, and what it has to hold
* `Cache.Arranged`, `Policy.Prudent`, `Cache.Coherent`: what is true of a cache at all times
* `Cache.view`: the flat array that a requester sees

## Main results

* `Cache.lookup_eq_some_iff`, `Cache.lookup_eq_none_iff`: a lookup finds the line that holds a block
* `Cache.Coherent.view_of_holds`, `Cache.view_of_absent`: what is seen at an address
* `Cache.SameBlocks.coherent`, `Cache.SameBlocks.view_eq`: ages, counters and timing do not matter
* `Cache.configure_eq_ok_iff`: the caches that are given their lines
* `Cache.Fresh.coherent`: a cache with new lines is coherent over every array
-/

namespace FiveStage

theorem blockOffset_lt (address : Nat) : blockOffset address < blockSize := Nat.mod_lt _ (by decide)

theorem blockNumber_mul_add_blockOffset (address : Nat) :
    address / blockSize * blockSize + blockOffset address = address := Nat.div_add_mod' ..

theorem blockOf_eq_mul (address : Nat) : blockOf address = address / blockSize * blockSize := by
  have whole := blockNumber_mul_add_blockOffset address
  have split := blockOf_add_blockOffset address
  omega

/-- The policy never bypasses the cache, and brings in only blocks inside a storage of the given
size. -/
structure Policy.Prudent {σ : Type} (size : Nat) (policy : Policy σ) : Prop where
  never_bypasses : ∀ address kind memo, (policy.bypass address kind memo).1 = false
  prefetches_inside : ∀ address hit memo wanted,
    (policy.prefetch address hit memo).1 = some wanted → wanted < size

theorem Policy.prudent_plain {σ : Type} (size : Nat) : (Policy.plain σ).Prudent size :=
  ⟨fun _ _ _ => rfl, fun _ _ _ _ none_eq => by cases none_eq⟩

/-- The line is a proper copy of block number `n` of a storage of the given size: unless it is
dirty, its bytes are those that the storage shows, and in a cache that writes through it is never
dirty. -/
structure Line.Covers (size : Nat) (below : Contents) (writeThrough : Bool) (n : Nat)
    (line : Line) : Prop where
  whole : line.data.length = blockSize
  inside : (n + 1) * blockSize ≤ size
  clean : line.dirty = false → line.data = below.read (n * blockSize) blockSize
  through : writeThrough = true → line.dirty = false

namespace Cache

variable {σ : Type} {cache cache' : Cache σ} {below below' : Contents} {size i j n address : Nat}

/-- The number of the block for which a line is tagged. -/
def blockNumber (cache : Cache σ) (i : Nat) : Nat :=
  (cache.line i).tag * cache.sets + cache.setOfLine i

/-- Line `i` holds block number `n`. -/
def HoldsAt (cache : Cache σ) (i n : Nat) : Prop :=
  i < cache.lines.size ∧ (cache.line i).valid = true ∧ cache.blockNumber i = n

/-- The lines of the cache are distributed evenly over its sets. -/
structure Arranged (cache : Cache σ) : Prop where
  sets_pos : 0 < cache.sets
  ways_pos : 0 < cache.ways
  size_eq : cache.lines.size = cache.sets * cache.ways

/-- What is true of a cache over a storage of the given size that shows the bytes `below`. -/
structure Coherent (size : Nat) (below : Contents) (cache : Cache σ) : Prop where
  arranged : cache.Arranged
  prudent : cache.policy.Prudent size
  unique : ∀ i j n, cache.HoldsAt i n → cache.HoldsAt j n → i = j
  covers : ∀ i n, cache.HoldsAt i n → (cache.line i).Covers size below cache.geometry.writeThrough n

/-- The bytes seen through a cache over a storage that shows the bytes `below`. -/
def view (cache : Cache σ) (below : Contents) : Contents := fun address =>
  match cache.lookup address with
  | some i => (cache.line i).data.getD (blockOffset address) 0
  | none => below address

/-! ### Sets and lines -/

theorem line_eq_empty (outside : ¬ i < cache.lines.size) : cache.line i = Line.empty 0 := by
  simp only [line, Array.getD, outside, dif_neg, not_false_eq_true]

theorem lt_size_of_valid (valid : (cache.line i).valid = true) : i < cache.lines.size := by
  refine Decidable.byContradiction fun outside => ?_
  rw [line_eq_empty outside] at valid
  cases valid

theorem isConfigured_iff : cache.isConfigured = true ↔ 0 < cache.lines.size := by
  simp [isConfigured, Nat.pos_iff_ne_zero]

theorem sets_congr (geometry : cache'.geometry = cache.geometry)
    (size : cache'.lines.size = cache.lines.size) : cache'.sets = cache.sets := by
  simp only [sets, isConfigured_iff, size, geometry]

theorem setOf_congr {τ : Type} {other : Cache τ} (sets : other.sets = cache.sets) :
    other.setOf address = cache.setOf address := by
  rw [setOf, setOf, sets]

/-- The number of a block is made of its tag and its set. -/
theorem tagOf_mul_add_setOf (cache : Cache σ) (address : Nat) :
    cache.tagOf address * cache.sets + cache.setOf address = address / blockSize :=
  Nat.div_add_mod' ..

namespace Arranged

theorem setOfLine_lt (arranged : cache.Arranged) (inside : i < cache.lines.size) :
    cache.setOfLine i < cache.sets := by
  rw [arranged.size_eq] at inside
  exact Nat.div_lt_of_lt_mul (by rwa [Nat.mul_comm])

theorem isConfigured (arranged : cache.Arranged) : cache.isConfigured = true := by
  rw [isConfigured_iff, arranged.size_eq]
  exact Nat.mul_pos arranged.sets_pos arranged.ways_pos

theorem setOf_lt (arranged : cache.Arranged) (address : Nat) : cache.setOf address < cache.sets :=
  Nat.mod_lt _ arranged.sets_pos

theorem mem_linesOf_iff (arranged : cache.Arranged) {set : Nat} :
    i ∈ cache.linesOf set ↔ cache.setOfLine i = set := by
  have split : i / cache.ways * cache.ways + i % cache.ways = i := by
    rw [Nat.mul_comm, Nat.div_add_mod]
  have within := Nat.mod_lt i arranged.ways_pos
  simp only [linesOf, List.mem_range'_1, setOfLine]
  constructor
  · rintro ⟨low, high⟩
    exact Nat.div_eq_of_lt_le low (by rwa [Nat.succ_mul])
  · rintro rfl
    omega

theorem lt_size_of_setOfLine_lt (arranged : cache.Arranged)
    (below : cache.setOfLine i < cache.sets) :
    i < cache.lines.size := by
  rw [arranged.size_eq]
  exact (Nat.div_lt_iff_lt_mul arranged.ways_pos).mp below

/-- The set of a block is the remainder of its number. -/
theorem setOfLine_of_holdsAt (arranged : cache.Arranged) (held : cache.HoldsAt i n) :
    cache.setOfLine i = n % cache.sets := by
  rw [← held.2.2, blockNumber, Nat.mul_comm, Nat.mul_add_mod,
    Nat.mod_eq_of_lt (arranged.setOfLine_lt held.1)]

/-- A line of the set of an address holds the address's block if it is tagged for it. -/
theorem holdsAt_iff (arranged : cache.Arranged) :
    cache.HoldsAt i (address / blockSize) ↔
      cache.setOfLine i = cache.setOf address ∧ (cache.line i).valid = true ∧
        (cache.line i).tag = cache.tagOf address := by
  constructor
  · rintro ⟨inside, valid, number⟩
    have low := arranged.setOfLine_lt inside
    rw [blockNumber] at number
    -- the number of a block has the set as its remainder and the tag as its quotient
    refine ⟨arranged.setOfLine_of_holdsAt ⟨inside, valid, number⟩, valid, ?_⟩
    · rw [tagOf, ← number, Nat.mul_comm, Nat.mul_add_div arranged.sets_pos, Nat.div_eq_of_lt low,
        Nat.add_zero]
  · rintro ⟨set, valid, tag⟩
    refine ⟨arranged.lt_size_of_setOfLine_lt (set ▸ arranged.setOf_lt address), valid, ?_⟩
    rw [blockNumber, set, tag, tagOf_mul_add_setOf]

theorem lookup_eq_none_iff (arranged : cache.Arranged) :
    cache.lookup address = none ↔ ∀ i, ¬ cache.HoldsAt i (address / blockSize) := by
  simp only [lookup, List.find?_eq_none, arranged.mem_linesOf_iff, arranged.holdsAt_iff,
    Bool.and_eq_true, beq_iff_eq, not_and]

theorem holdsAt_of_lookup (arranged : cache.Arranged) (found : cache.lookup address = some i) :
    cache.HoldsAt i (address / blockSize) := by
  have member := List.mem_of_find?_eq_some found
  have accepted := List.find?_some found
  simp only [Bool.and_eq_true, beq_iff_eq] at accepted
  exact arranged.holdsAt_iff.mpr ⟨arranged.mem_linesOf_iff.mp member, accepted⟩

/-- Where no block is in two lines, a lookup finds the line that holds the block. -/
theorem lookup_eq_some_iff (arranged : cache.Arranged)
    (unique : ∀ i j n, cache.HoldsAt i n → cache.HoldsAt j n → i = j) :
    cache.lookup address = some i ↔ cache.HoldsAt i (address / blockSize) := by
  refine ⟨arranged.holdsAt_of_lookup, fun holds => ?_⟩
  cases found : cache.lookup address with
  | none => exact absurd holds (arranged.lookup_eq_none_iff.mp found i)
  | some j => rw [unique i j _ holds (arranged.holdsAt_of_lookup found)]

end Arranged

/-- The address of the block in a line is that of the block's number. -/
theorem addressOf_eq {set : Nat} (member : cache.setOfLine i = set) :
    cache.addressOf (cache.line i).tag set = cache.blockNumber i * blockSize := by
  rw [addressOf, blockNumber, member]

/-! ### What is seen -/

namespace Coherent

theorem lookup_eq_some_iff (coherent : cache.Coherent size below) :
    cache.lookup address = some i ↔ cache.HoldsAt i (address / blockSize) :=
  coherent.arranged.lookup_eq_some_iff coherent.unique

theorem view_of_holds (coherent : cache.Coherent size below)
    (holds : cache.HoldsAt i (address / blockSize)) :
    cache.view below address = (cache.line i).data.getD (blockOffset address) 0 := by
  rw [view, coherent.lookup_eq_some_iff.mpr holds]

/-- The data of a line is what is seen of its block. -/
theorem data_eq_read_view (coherent : cache.Coherent size below) (holds : cache.HoldsAt i n) :
    (cache.line i).data = (cache.view below).read (n * blockSize) blockSize := by
  apply Contents.eq_read_of_getD (coherent.covers i n holds).whole
  intro offset inside
  have number : (n * blockSize + offset) / blockSize = n := by
    simp only [blockSize] at inside ⊢
    omega
  have place : blockOffset (n * blockSize + offset) = offset := by
    simp only [blockOffset, blockSize] at inside ⊢
    omega
  rw [coherent.view_of_holds (by rwa [number]), place]

end Coherent

theorem Arranged.view_of_absent (arranged : cache.Arranged)
    (absent : ∀ i, ¬ cache.HoldsAt i (address / blockSize)) :
    cache.view below address = below address := by
  rw [view, arranged.lookup_eq_none_iff.mpr absent]

/-! ### Caches with the same blocks -/

/-- Two caches that hold the same blocks in the same lines and have the same policy. Ages, counters
and timing may differ. -/
structure SameBlocks (cache cache' : Cache σ) : Prop where
  geometry : cache'.geometry = cache.geometry
  size : cache'.lines.size = cache.lines.size
  policy : cache'.policy = cache.policy
  line : ∀ i < cache.lines.size, (cache'.line i).tag = (cache.line i).tag ∧
    (cache'.line i).data = (cache.line i).data ∧ (cache'.line i).valid = (cache.line i).valid ∧
    (cache'.line i).dirty = (cache.line i).dirty

namespace SameBlocks

theorem refl (cache : Cache σ) : cache.SameBlocks cache :=
  ⟨rfl, rfl, rfl, fun _ _ => ⟨rfl, rfl, rfl, rfl⟩⟩

theorem trans {third : Cache σ} (first : cache.SameBlocks cache')
    (second : cache'.SameBlocks third) :
    cache.SameBlocks third := by
  refine ⟨second.geometry.trans first.geometry, second.size.trans first.size,
    second.policy.trans first.policy, fun i inside => ?_⟩
  obtain ⟨tag, data, valid, dirty⟩ := first.line i inside
  obtain ⟨tag', data', valid', dirty'⟩ := second.line i (first.size ▸ inside)
  exact ⟨tag'.trans tag, data'.trans data, valid'.trans valid, dirty'.trans dirty⟩

theorem sets (same : cache.SameBlocks cache') : cache'.sets = cache.sets :=
  sets_congr same.geometry same.size

theorem ways (same : cache.SameBlocks cache') : cache'.ways = cache.ways := by
  rw [Cache.ways, Cache.ways, same.size, same.sets]

theorem setOfLine (same : cache.SameBlocks cache') : cache'.setOfLine i = cache.setOfLine i := by
  rw [Cache.setOfLine, Cache.setOfLine, same.ways]

theorem holdsAt_iff (same : cache.SameBlocks cache') : cache'.HoldsAt i n ↔ cache.HoldsAt i n := by
  simp only [HoldsAt, blockNumber, same.size, same.sets, same.setOfLine]
  apply and_congr_right
  intro inside
  rw [(same.line i inside).1, (same.line i inside).2.2.1]

theorem arranged (same : cache.SameBlocks cache') (arranged : cache.Arranged) : cache'.Arranged :=
  ⟨same.sets ▸ arranged.sets_pos, same.ways ▸ arranged.ways_pos, by
    rw [same.size, same.sets, same.ways, arranged.size_eq]⟩

theorem coherent (same : cache.SameBlocks cache') (coherent : cache.Coherent size below) :
    cache'.Coherent size below where
  arranged := same.arranged coherent.arranged
  prudent := same.policy ▸ coherent.prudent
  unique i j n holds holds' :=
    coherent.unique i j n (same.holdsAt_iff.mp holds) (same.holdsAt_iff.mp holds')
  covers i n holds := by
    rw [same.holdsAt_iff] at holds
    obtain ⟨-, data, -, dirty⟩ := same.line i holds.1
    have covers := coherent.covers i n holds
    exact ⟨data ▸ covers.whole, covers.inside, by rw [dirty, data]; exact covers.clean, by
      rw [dirty, same.geometry]; exact covers.through⟩

theorem view_eq (same : cache.SameBlocks cache') (coherent : cache.Coherent size below) :
    cache'.view below = cache.view below := by
  funext address
  cases found : cache.lookup address with
  | none =>
    have absent := coherent.arranged.lookup_eq_none_iff.mp found
    rw [coherent.arranged.view_of_absent absent,
      (same.arranged coherent.arranged).view_of_absent fun i holds =>
        absent i (same.holdsAt_iff.mp holds)]
  | some i =>
    have holds := coherent.lookup_eq_some_iff.mp found
    rw [coherent.view_of_holds holds,
      (same.coherent coherent).view_of_holds (same.holdsAt_iff.mpr holds),
      (same.line i holds.1).2.1]

theorem touch (cache : Cache σ) (index : Nat) : cache.SameBlocks (cache.touch index) := by
  have size := size_lines_touch cache index
  refine ⟨rfl, size, rfl, fun i inside => ?_⟩
  rw [line_touch inside]
  split <;> exact ⟨rfl, rfl, rfl, rfl⟩

theorem count (cache : Cache σ) (change : Statistics → Statistics) :
    cache.SameBlocks (cache.count change) := ⟨rfl, rfl, rfl, fun _ _ => ⟨rfl, rfl, rfl, rfl⟩⟩

end SameBlocks

/-! ### New caches -/

/-- A cache that was just given its lines. -/
def Fresh (cache : Cache σ) : Prop :=
  ∃ unconfigured : Cache σ, ∃ geometry, unconfigured.configure geometry = .ok cache

/-- A cache that was just given its lines and has not counted anything. -/
structure New (cache : Cache σ) : Prop where
  fresh : cache.Fresh
  unused : cache.statistics = {}

/-- A cache without lines is given those of an accepted geometry if there is room for them, and
nothing else changes. -/
theorem configure_eq_ok_iff {unconfigured : Cache σ} {geometry : Geometry} :
    unconfigured.configure geometry = .ok cache ↔
      unconfigured.isConfigured = false ∧ geometry.fault? = none ∧ geometry.fits = true ∧
        { unconfigured with geometry, lines := freshLines geometry } = cache := by
  unfold configure
  split
  · next lined => simp [lined]
  · next bare =>
    simp only [Bool.eq_false_iff.mpr bare, true_and, ← Geometry.validate_eq_ok_iff, bind_eq_ok_iff]
    constructor
    · rintro ⟨⟨⟩, valid, made⟩
      split at made
      · next fits => exact ⟨valid, fits, Except.ok.inj made⟩
      · cases made
    · rintro ⟨valid, fits, rfl⟩
      exact ⟨(), valid, if_pos fits⟩

/-- There may be no room for the lines of an accepted geometry. -/
theorem configure_of_not_fits {unconfigured : Cache σ} {geometry : Geometry}
    (bare : unconfigured.isConfigured = false) (accepted : geometry.fault? = none)
    (full : geometry.fits = false) :
    unconfigured.configure geometry = .error (.tooManyLines geometry.entries) := by
  have valid : geometry.validate = .ok () := Geometry.validate_eq_ok_iff.mpr accepted
  simp only [configure, bare, valid, full, Bool.false_eq_true, if_false, ok_bind]
  rfl

theorem geometry_of_configure {unconfigured : Cache σ} {geometry : Geometry}
    (configured : unconfigured.configure geometry = .ok cache) :
    cache.geometry = geometry ∧ geometry.fault? = none ∧ cache.lines = freshLines geometry := by
  obtain ⟨-, accepted, -, rfl⟩ := configure_eq_ok_iff.mp configured
  exact ⟨rfl, accepted, rfl⟩

namespace Fresh

theorem lines_eq (fresh : cache.Fresh) :
    cache.lines = freshLines cache.geometry ∧ cache.geometry.fault? = none := by
  obtain ⟨unconfigured, geometry, configured⟩ := fresh
  obtain ⟨rfl, accepted, lines⟩ := geometry_of_configure configured
  exact ⟨lines, accepted⟩

theorem size_lines (fresh : cache.Fresh) : cache.lines.size = cache.geometry.entries := by
  rw [fresh.lines_eq.1, size_freshLines]

/-- Every line is told its set. -/
theorem set_eq (fresh : cache.Fresh) {i : Nat} (inside : i < cache.lines.size) :
    (cache.line i).set = i / (cache.geometry.entries / cache.geometry.sets) := by
  simp only [fresh.lines_eq.1] at inside
  simp only [line, fresh.lines_eq.1, Array.getD, inside, dif_pos, Array.getInternal_eq_getElem,
    getElem_freshLines, Line.empty]

/-- No line holds anything yet. -/
theorem line_eq (fresh : cache.Fresh) (i : Nat) :
    cache.line i = Line.empty (cache.line i).set := by
  simp only [line, fresh.lines_eq.1, Array.getD]
  split
  · simp only [Array.getInternal_eq_getElem, getElem_freshLines, Line.empty]
  · rfl

/-- A geometry is accepted if there are as many sets as fill the size. -/
theorem geometry_divides (fresh : cache.Fresh) :
    0 < cache.geometry.entries ∧ 0 < cache.geometry.sets ∧
      cache.geometry.sets * (cache.geometry.entries / cache.geometry.sets) =
        cache.geometry.entries := by
  have accepted := fresh.lines_eq.2
  obtain ⟨-, -, shared, k, sets⟩ := Geometry.fault?_eq_none_iff.mp accepted
  exact ⟨Geometry.entries_pos accepted, sets ▸ Nat.two_pow_pos k, Nat.mul_div_cancel' shared⟩

theorem sets_eq (fresh : cache.Fresh) : cache.sets = cache.geometry.sets := by
  have configured : cache.isConfigured = true :=
    isConfigured_iff.mpr (fresh.size_lines ▸ fresh.geometry_divides.1)
  rw [Cache.sets, if_pos configured]

theorem arranged (fresh : cache.Fresh) : cache.Arranged := by
  obtain ⟨entries_pos, sets_pos, divides⟩ := fresh.geometry_divides
  have ways : cache.ways = cache.geometry.entries / cache.geometry.sets := by
    rw [Cache.ways, fresh.size_lines, fresh.sets_eq]
  refine ⟨fresh.sets_eq ▸ sets_pos, ?_, ?_⟩
  · rw [ways]
    exact Nat.pos_of_mul_pos_left (divides ▸ entries_pos)
  · rw [fresh.size_lines, fresh.sets_eq, ways, divides]

/-- A new cache holds nothing. -/
theorem not_holdsAt (fresh : cache.Fresh) : ¬ cache.HoldsAt i n := by
  rintro ⟨-, valid, -⟩
  rw [fresh.line_eq] at valid
  cases valid

/-- A new cache is coherent over every storage. -/
theorem coherent (fresh : cache.Fresh) (prudent : cache.policy.Prudent size) :
    cache.Coherent size below where
  arranged := fresh.arranged
  prudent := prudent
  unique _ _ _ holds := absurd holds fresh.not_holdsAt
  covers _ _ holds := absurd holds fresh.not_holdsAt

/-- Through a new cache the storage below is seen. -/
theorem view_eq (fresh : cache.Fresh) : cache.view below = below :=
  funext fun _ => fresh.arranged.view_of_absent fun _ => fresh.not_holdsAt

end Fresh

end Cache

end FiveStage
