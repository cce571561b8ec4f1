import FiveStage.Proofs.Cache.Blocks

/-!
# What keeps a cache coherent

A cache changes its blocks in four ways: it gives up a block, brings one in, writes into one it
holds, or lets a write pass to the storage below. Each change is described here on its own, with
what the storage below has to show for it: a dirty block is written below before it is forgotten, a
block that comes in is read from below, and a write through a clean line reaches the storage below
as well.

## Main definitions

* `Cache.LineChanged`: one line was changed, and one block of the storage below

## Main results

* `Cache.LineChanged.coherent`, `Cache.LineChanged.view_eq`: the cache stays coherent, and shows
  other blocks as before
* `Cache.Coherent.drop`, `Cache.Coherent.install`: a block is given up, and brought in
* `Cache.Coherent.store`, `Cache.Coherent.pass`: a write to a block that is held, and to one that is
  not
-/

namespace FiveStage

theorem blockNumber_of_inBlock {address length a : Nat}
    (inBlock : blockOffset address + length ≤ blockSize) (low : address ≤ a)
    (high : a < address + length) :
    a / blockSize = address / blockSize := by
  simp only [blockOffset, blockSize] at *
  omega

namespace Contents

/-- A write inside a block leaves the other blocks alone. -/
theorem write_of_block_ne {contents : Contents} {address a : Nat} {bytes : Bytes}
    (inBlock : blockOffset address + bytes.length ≤ blockSize)
    (other : a / blockSize ≠ address / blockSize) :
    contents.write address bytes a = contents a := by
  rw [write, if_neg]
  exact fun within => other (blockNumber_of_inBlock inBlock within.1 within.2)

/-- What is read of a block that was written is what was written. -/
theorem read_write_block {contents : Contents} {n : Nat} {bytes : Bytes}
    (whole : bytes.length = blockSize) :
    (contents.write (n * blockSize) bytes).read (n * blockSize) blockSize = bytes := by
  refine (eq_read_of_getD whole fun offset inside => ?_).symm
  rw [write, if_pos (by omega), Nat.add_sub_cancel_left]

/-- Arrays that agree on a block read the same there. -/
theorem read_block_congr {contents other : Contents} {n : Nat}
    (same : ∀ a, a / blockSize = n → contents a = other a) :
    contents.read (n * blockSize) blockSize = other.read (n * blockSize) blockSize := by
  refine read_congr fun offset inside => same _ ?_
  simp only [blockSize] at inside ⊢
  omega

/-- What is read of a block is what the array has there. -/
theorem getD_read_block (contents : Contents) (address : Nat) :
    (contents.read (address / blockSize * blockSize) blockSize).getD (blockOffset address) 0 =
      contents address := by
  rw [getD_read (blockOffset_lt address), blockNumber_mul_add_blockOffset]

end Contents

namespace Cache

variable {σ : Type} {cache : Cache σ} {below below' : Contents} {size index i n address : Nat}
  {change : Line → Line}

/-! ### One line changed -/

theorem sets_modifyLine : (cache.modifyLine index change).sets = cache.sets :=
  sets_congr rfl (size_lines_modifyLine ..)

theorem ways_modifyLine : (cache.modifyLine index change).ways = cache.ways := by
  rw [ways, ways, size_lines_modifyLine, sets_modifyLine]

theorem setOfLine_modifyLine : (cache.modifyLine index change).setOfLine i = cache.setOfLine i := by
  rw [setOfLine, setOfLine, ways_modifyLine]

theorem line_modifyLine_of_ne (other : i ≠ index) :
    (cache.modifyLine index change).line i = cache.line i := by
  by_cases inside : i < cache.lines.size
  · rw [line_modifyLine inside, if_neg other.symm]
  · rw [line_eq_empty inside, line_eq_empty (by rwa [size_lines_modifyLine])]

theorem line_modifyLine_self (inside : index < cache.lines.size) :
    (cache.modifyLine index change).line index = change (cache.line index) := by
  rw [line_modifyLine inside, if_pos rfl]

theorem holdsAt_modifyLine_of_ne (other : i ≠ index) :
    (cache.modifyLine index change).HoldsAt i n ↔ cache.HoldsAt i n := by
  simp only [HoldsAt, blockNumber, size_lines_modifyLine, sets_modifyLine, setOfLine_modifyLine,
    line_modifyLine_of_ne other]

theorem holdsAt_modifyLine_self :
    (cache.modifyLine index change).HoldsAt index n ↔
      index < cache.lines.size ∧ (change (cache.line index)).valid = true ∧
        (change (cache.line index)).tag * cache.sets + cache.setOfLine index = n := by
  simp only [HoldsAt, blockNumber, size_lines_modifyLine, sets_modifyLine, setOfLine_modifyLine]
  apply and_congr_right
  intro inside
  rw [line_modifyLine_self inside]

/-- A line that is given up holds nothing, and other lines hold what they held. -/
theorem holdsAt_giveUp :
    (cache.modifyLine index fun l => { l with valid := false, dirty := false }).HoldsAt i n ↔
      i ≠ index ∧ cache.HoldsAt i n := by
  by_cases here : i = index
  · subst here
    rw [holdsAt_modifyLine_self]
    exact ⟨fun held => (nomatch held.2.1), fun held => absurd rfl held.1⟩
  · rw [holdsAt_modifyLine_of_ne here]
    exact ⟨fun held => ⟨here, held⟩, And.right⟩

/-- A line that is filled holds the block that was put there, if it belongs to the block's set. -/
theorem holdsAt_fill (arranged : cache.Arranged) (data : Bytes)
    (place : cache.setOfLine index = cache.setOf address) :
    (cache.modifyLine index fun l =>
      { l with data, tag := cache.tagOf address, valid := true, dirty := false }).HoldsAt i n ↔
        i = index ∧ n = address / blockSize ∨ i ≠ index ∧ cache.HoldsAt i n := by
  have inside : index < cache.lines.size :=
    arranged.lt_size_of_setOfLine_lt (place ▸ arranged.setOf_lt address)
  have number : cache.tagOf address * cache.sets + cache.setOfLine index = address / blockSize := by
    rw [place, tagOf_mul_add_setOf]
  by_cases here : i = index
  · subst here
    rw [holdsAt_modifyLine_self]
    simp [inside, number, eq_comm]
  · rw [holdsAt_modifyLine_of_ne here]
    simp [here]

theorem Arranged.modifyLine (arranged : cache.Arranged) (index : Nat) (change : Line → Line) :
    (cache.modifyLine index change).Arranged where
  sets_pos := by rw [sets_modifyLine]; exact arranged.sets_pos
  ways_pos := by rw [ways_modifyLine]; exact arranged.ways_pos
  size_eq := by rw [size_lines_modifyLine, sets_modifyLine, ways_modifyLine, arranged.size_eq]

/-- One line was changed, and the storage below with it, as far as one block is concerned: before
the change the block was in that line or nowhere and the line held no other block, and after it the
line holds the block properly if it holds anything. -/
structure LineChanged (size : Nat) (below below' : Contents) (index n : Nat)
    (cache changed : Cache σ) : Prop where
  arranged : changed.Arranged
  policy : changed.policy = cache.policy
  geometry : changed.geometry = cache.geometry
  elsewhere : ∀ {i m}, i ≠ index → (changed.HoldsAt i m ↔ cache.HoldsAt i m)
  line_eq : ∀ {i m}, i ≠ index → cache.HoldsAt i m → changed.line i = cache.line i
  only : ∀ i, cache.HoldsAt i n → i = index
  old : ∀ m, cache.HoldsAt index m → m = n
  new : ∀ m, changed.HoldsAt index m →
    m = n ∧ (changed.line index).Covers size below' cache.geometry.writeThrough n
  others : ∀ a, a / blockSize ≠ n → below' a = below a

namespace LineChanged

variable {changed : Cache σ}

/-- The other lines hold other blocks. -/
theorem number_ne (change : LineChanged size below below' index n cache changed) {m : Nat}
    (away : i ≠ index) (held : cache.HoldsAt i m) : m ≠ n := by
  rintro rfl
  exact away (change.only i held)

theorem unique (change : LineChanged size below below' index n cache changed)
    (coherent : cache.Coherent size below) (i j m : Nat) (held : changed.HoldsAt i m)
    (held' : changed.HoldsAt j m) : i = j := by
  by_cases here : i = index <;> by_cases here' : j = index
  · rw [here, here']
  · subst here
    exact absurd (change.new m held).1 (change.number_ne here' ((change.elsewhere here').mp held'))
  · subst here'
    exact absurd (change.new m held').1 (change.number_ne here ((change.elsewhere here).mp held))
  · exact coherent.unique i j m ((change.elsewhere here).mp held)
      ((change.elsewhere here').mp held')

theorem covers (change : LineChanged size below below' index n cache changed)
    (coherent : cache.Coherent size below) (i m : Nat) (held : changed.HoldsAt i m) :
    (changed.line i).Covers size below' changed.geometry.writeThrough m := by
  rw [change.geometry]
  by_cases here : i = index
  · subst here
    rw [(change.new m held).1]
    exact (change.new m held).2
  · have held' := (change.elsewhere here).mp held
    obtain ⟨whole, inside, clean, through⟩ := coherent.covers i m held'
    rw [change.line_eq here held']
    refine ⟨whole, inside, fun unwritten => ?_, through⟩
    rw [clean unwritten]
    exact Contents.read_block_congr fun a number =>
      (change.others a (number ▸ change.number_ne here held')).symm

theorem coherent (change : LineChanged size below below' index n cache changed)
    (coherent : cache.Coherent size below) : changed.Coherent size below' where
  arranged := change.arranged
  prudent := change.policy ▸ coherent.prudent
  unique := change.unique coherent
  covers := change.covers coherent

/-- What is seen of other blocks stays. -/
theorem view_eq (change : LineChanged size below below' index n cache changed)
    (coherent : cache.Coherent size below) {a : Nat} (elsewhere : a / blockSize ≠ n) :
    changed.view below' a = cache.view below a := by
  cases found : cache.lookup a with
  | none =>
    have absent := coherent.arranged.lookup_eq_none_iff.mp found
    have absent' : ∀ i, ¬ changed.HoldsAt i (a / blockSize) := by
      intro i held
      by_cases here : i = index
      · subst here
        exact elsewhere (change.new _ held).1
      · exact absent i ((change.elsewhere here).mp held)
    rw [coherent.arranged.view_of_absent absent, change.arranged.view_of_absent absent',
      change.others a elsewhere]
  | some i =>
    have holds := coherent.lookup_eq_some_iff.mp found
    have away : i ≠ index := by
      rintro rfl
      exact elsewhere (change.old _ holds)
    rw [coherent.view_of_holds holds,
      (change.coherent coherent).view_of_holds ((change.elsewhere away).mpr holds),
      change.line_eq away holds]

end LineChanged

theorem lineChanged_modifyLine (coherent : cache.Coherent size below)
    (only : ∀ i, cache.HoldsAt i n → i = index) (old : ∀ m, cache.HoldsAt index m → m = n)
    (new : ∀ m, (cache.modifyLine index change).HoldsAt index m → m = n ∧
      (change (cache.line index)).Covers size below' cache.geometry.writeThrough n)
    (others : ∀ a, a / blockSize ≠ n → below' a = below a) :
    LineChanged size below below' index n cache (cache.modifyLine index change) where
  arranged := coherent.arranged.modifyLine index change
  policy := rfl
  geometry := rfl
  elsewhere := holdsAt_modifyLine_of_ne
  line_eq away _ := line_modifyLine_of_ne away
  only := only
  old := old
  new m held := by
    rw [line_modifyLine_self (by simpa using held.1)]
    exact new m held
  others := others

namespace Coherent

/-- A coherent cache stays coherent if the storage below changes only in a block that the cache
holds in no clean line, and all other blocks look as before. -/
theorem of_below (coherent : cache.Coherent size below)
    (dirty : ∀ i, cache.HoldsAt i n → (cache.line i).dirty = true)
    (others : ∀ a, a / blockSize ≠ n → below' a = below a) : cache.Coherent size below' where
  arranged := coherent.arranged
  prudent := coherent.prudent
  unique := coherent.unique
  covers i m holds := by
    obtain ⟨whole, inside, clean, through⟩ := coherent.covers i m holds
    refine ⟨whole, inside, fun unwritten => ?_, through⟩
    rw [clean unwritten]
    refine Contents.read_block_congr fun a number => (others a ?_).symm
    rintro rfl
    rw [number] at dirty
    exact absurd (dirty i holds) (by simp [unwritten])

/-- A block is given up after the storage below shows its bytes. -/
theorem drop (coherent : cache.Coherent size below) (holds : cache.HoldsAt index n)
    (others : ∀ a, a / blockSize ≠ n → below' a = below a)
    (written : below'.read (n * blockSize) blockSize = (cache.line index).data) :
    let dropped := cache.modifyLine index fun l => { l with valid := false, dirty := false }
    dropped.Coherent size below' ∧ dropped.view below' = cache.view below ∧
      ∀ m, ¬ dropped.HoldsAt index m := by
  intro dropped
  have gone : ∀ m, ¬ dropped.HoldsAt index m := fun m held => (holdsAt_giveUp.mp held).1 rfl
  have only : ∀ i, cache.HoldsAt i n → i = index :=
    fun i held => coherent.unique i index n held holds
  -- the dropped line was the only one that held the block
  have changed := lineChanged_modifyLine coherent only (fun m held => held.2.2.symm.trans holds.2.2)
    (fun m held => absurd held (gone m)) others
  have coherent' := changed.coherent coherent
  refine ⟨coherent', funext fun a => ?_, gone⟩
  by_cases here : a / blockSize = n
  · have absent : ∀ i, ¬ dropped.HoldsAt i (a / blockSize) := by
      intro i held
      by_cases at_index : i = index
      · subst at_index
        exact gone _ held
      · exact at_index (only i (here ▸ (holdsAt_modifyLine_of_ne at_index).mp held))
    rw [coherent'.arranged.view_of_absent absent, coherent.view_of_holds (here ▸ holds), ← written,
      ← here, Contents.getD_read_block]
  · exact changed.view_eq coherent here

/-- A block that was read from the storage below is put into a line that holds nothing. -/
theorem install (coherent : cache.Coherent size below) (place : index < cache.lines.size)
    (vacant : (cache.line index).valid = false) (set : cache.setOfLine index = cache.setOf address)
    (absent : ∀ i, ¬ cache.HoldsAt i (address / blockSize))
    (inside : (address / blockSize + 1) * blockSize ≤ size) :
    let filled := cache.modifyLine index fun l =>
      { l with
        data := below.read (blockOf address) blockSize
        tag := cache.tagOf address
        valid := true
        dirty := false }
    filled.Coherent size below ∧ filled.view below = cache.view below ∧
      filled.HoldsAt index (address / blockSize) := by
  intro filled
  have held_iff : ∀ m, filled.HoldsAt index m ↔ address / blockSize = m := by
    intro m
    rw [holdsAt_fill coherent.arranged _ set]
    simp [eq_comm]
  have changed := lineChanged_modifyLine coherent (fun i held => absurd held (absent i))
    (fun m held => absurd held.2.1 (by simp [vacant]))
    (fun m held => ⟨((held_iff m).mp held).symm, Contents.length_read, inside,
      fun _ => by rw [blockOf_eq_mul], fun _ => rfl⟩) fun _ _ => rfl
  have coherent' := changed.coherent coherent
  have held := (held_iff _).mpr rfl
  refine ⟨coherent', funext fun a => ?_, held⟩
  by_cases here : a / blockSize = address / blockSize
  · have line : filled.line index = _ := line_modifyLine_self place
    rw [coherent.arranged.view_of_absent (here ▸ absent),
      coherent'.view_of_holds (here ▸ held), line, blockOf_eq_mul, ← here, Contents.getD_read_block]
  · exact changed.view_eq coherent here

/-- A write to a block that the cache holds. A cache that writes through has the storage below
written as well. -/
theorem store (coherent : cache.Coherent size below) {bytes : Bytes}
    (holds : cache.HoldsAt index (address / blockSize))
    (inBlock : blockOffset address + bytes.length ≤ blockSize) :
    let stored := cache.modifyLine index fun l =>
      { l with
        data := l.data.overwrite (blockOffset address) bytes
        dirty := !cache.geometry.writeThrough }
    let below' := if cache.geometry.writeThrough then below.write address bytes else below
    stored.Coherent size below' ∧ stored.view below' = (cache.view below).write address bytes := by
  intro stored below'
  obtain ⟨whole, inside, clean, through⟩ := coherent.covers _ _ holds
  have seen := coherent.data_eq_read_view holds
  have data : ((cache.line index).data.overwrite (blockOffset address) bytes) =
      ((cache.view below).write address bytes).read (address / blockSize * blockSize)
        blockSize := by
    rw [seen, Contents.overwrite_read inBlock, blockNumber_mul_add_blockOffset]
  have others : ∀ a, a / blockSize ≠ address / blockSize → below' a = below a := by
    intro a elsewhere
    simp only [below']
    split
    · exact Contents.write_of_block_ne inBlock elsewhere
    · rfl
  have held_iff : ∀ m, stored.HoldsAt index m ↔ cache.HoldsAt index m :=
    fun m => holdsAt_modifyLine_self
  have covers : ({ cache.line index with
      data := (cache.line index).data.overwrite (blockOffset address) bytes
      dirty := !cache.geometry.writeThrough } : Line).Covers size below' cache.geometry.writeThrough
        (address / blockSize) := by
    refine ⟨?_, inside, fun unwritten => ?_, fun writes => by simp [writes]⟩
    · simp [data]
    · have writes : cache.geometry.writeThrough = true := by simpa using unwritten
      -- a clean line agreed with the storage below, and both were written
      have old := clean (through writes)
      simp only [below', if_pos writes]
      rw [old, Contents.overwrite_read inBlock, blockNumber_mul_add_blockOffset]
  have changed := lineChanged_modifyLine coherent
    (fun i held => coherent.unique i index _ held holds)
    (fun m held => held.2.2.symm.trans holds.2.2)
    (fun m held => ⟨((held_iff m).mp held).2.2.symm.trans holds.2.2, covers⟩) others
  have coherent' := changed.coherent coherent
  refine ⟨coherent', funext fun a => ?_⟩
  by_cases here : a / blockSize = address / blockSize
  · have line : stored.line index = _ := line_modifyLine_self holds.1
    rw [coherent'.view_of_holds (here ▸ (held_iff _).mpr holds), line, data, ← here,
      Contents.getD_read_block]
  · rw [changed.view_eq coherent here, Contents.write_of_block_ne inBlock here]

/-- A write to a block that the cache does not hold goes to the storage below. -/
theorem pass (coherent : cache.Coherent size below) {bytes : Bytes}
    (absent : ∀ i, ¬ cache.HoldsAt i (address / blockSize))
    (inBlock : blockOffset address + bytes.length ≤ blockSize) :
    cache.Coherent size (below.write address bytes) ∧
      cache.view (below.write address bytes) = (cache.view below).write address bytes := by
  have others : ∀ a, a / blockSize ≠ address / blockSize → below.write address bytes a = below a :=
    fun a elsewhere => Contents.write_of_block_ne inBlock elsewhere
  have coherent' := coherent.of_below (fun i holds => absurd holds (absent i)) others
  refine ⟨coherent', funext fun a => ?_⟩
  by_cases here : a / blockSize = address / blockSize
  · have seen : cache.view below a = below a := coherent.arranged.view_of_absent (here ▸ absent)
    rw [coherent.arranged.view_of_absent (here ▸ absent), Contents.write, Contents.write, seen]
  · rw [Contents.write_of_block_ne inBlock here]
    cases found : cache.lookup a with
    | none =>
      have nowhere := coherent.arranged.lookup_eq_none_iff.mp found
      rw [coherent.arranged.view_of_absent nowhere, coherent.arranged.view_of_absent nowhere,
        others a here]
    | some i =>
      have holds := coherent.lookup_eq_some_iff.mp found
      rw [coherent.view_of_holds holds, coherent'.view_of_holds holds]

end Coherent

end Cache

end FiveStage
