import FiveStage.Proofs.Cache.Recency

/-!
# What is always true of the lines

Whatever a cache is asked, whatever its policy wants and wherever the storage below fails, its lines
stay in order. There are as many of them as the geometry says, each in its set, each block is found
in one line only, and bytes that the storage below has not seen are in valid lines of a cache that
writes late. A request that fails between giving up a line and filling it leaves a line that holds
nothing and is not dirty.

## Main definitions

* `Cache.Tidy`: what each step keeps
* `Cache.Intact`: what is true of the lines of a cache with a given geometry

## Main results

* `Cache.Tidy.step`: no step makes the lines untidy
* `Cache.intact_after`: a cache that was given its lines stays intact, whatever it is asked
-/

namespace FiveStage

/-- Only a valid line is dirty, and only in a cache that writes late. -/
def Line.Lawful (writeThrough : Bool) (line : Line) : Prop :=
  line.dirty = true → line.valid = true ∧ writeThrough = false

theorem Line.lawful_of_clean {writeThrough : Bool} {line : Line} (clean : line.dirty = false) :
    line.Lawful writeThrough := by
  intro dirty
  cases clean.symm.trans dirty

namespace Cache

variable {σ S : Type} {cache next unconfigured : Cache σ} {geometry : Geometry} {used : List Nat}
  {index address i n : Nat}

/-- Each block is in one line at most, and every line is lawful. -/
structure Tidy (cache : Cache σ) : Prop where
  arranged : cache.Arranged
  unique : ∀ i j n, cache.HoldsAt i n → cache.HoldsAt j n → i = j
  lawful : ∀ i, (cache.line i).Lawful cache.geometry.writeThrough

/-- What is true of the lines of a cache with a geometry. Every line keeps the set that it was told
at first, every valid one is the line in which its own block is found, and no other line of its set
has the same tag. A line that holds nothing is not dirty, and neither is any line of a cache that
writes through. -/
structure Intact (geometry : Geometry) (cache : Cache σ) : Prop where
  size : cache.lines.size = geometry.size / blockSize
  place : ∀ i < cache.lines.size, (cache.line i).set = i / (geometry.entries / geometry.sets)
  found : ∀ i, (cache.line i).valid = true →
    cache.lookup (cache.addressOf (cache.line i).tag (cache.line i).set) = some i
  apart : ∀ i j, (cache.line i).valid = true → (cache.line j).valid = true →
    (cache.line i).set = (cache.line j).set → (cache.line i).tag = (cache.line j).tag → i = j
  clean : ∀ i, (cache.line i).valid = false → (cache.line i).dirty = false
  through : geometry.writeThrough = true → ∀ i, (cache.line i).dirty = false
  age : ∀ i, (cache.line i).age ≤ maxAge

/-! ### What a step keeps -/

theorem set_modifyLine {change : Line → Line} (keeps : ∀ l, (change l).set = l.set) :
    ((cache.modifyLine index change).line i).set = (cache.line i).set := by
  by_cases inside : i < cache.lines.size
  · rw [line_modifyLine inside]
    split
    · exact keeps _
    · rfl
  · rw [line_eq_empty inside, line_eq_empty (by rwa [size_lines_modifyLine])]

theorem set_touch : ((cache.touch index).line i).set = (cache.line i).set := by
  by_cases inside : i < cache.lines.size
  · rw [line_touch inside]
    split <;> rfl
  · rw [line_eq_empty inside, line_eq_empty (by rwa [size_lines_touch])]

/-- No line is told another set. -/
theorem Step.set_eq (step : Step cache used next) (i : Nat) :
    (next.line i).set = (cache.line i).set := by
  cases step with
  | idle same => rw [same.line_eq]
  | hit found => exact set_touch
  | store valid change => exact set_modifyLine fun _ => rfl
  | giveUp below full => exact set_modifyLine fun _ => rfl
  | fill data place vacant absent => exact set_touch.trans (set_modifyLine fun _ => rfl)

theorem Steps.set_eq (steps : Steps cache used next) (i : Nat) :
    (next.line i).set = (cache.line i).set := by
  induction steps with
  | refl => rfl
  | head step _ ih => exact ih.trans (step.set_eq i)

/-- No block comes into a second line. -/
theorem Step.unique (step : Step cache used next) (arranged : cache.Arranged)
    (unique : ∀ i j n, cache.HoldsAt i n → cache.HoldsAt j n → i = j) :
    ∀ i j n, next.HoldsAt i n → next.HoldsAt j n → i = j := by
  intro i j n held held'
  cases step with
  | idle same =>
    rw [same.blocks.holdsAt_iff] at held held'
    exact unique i j n held held'
  | hit found =>
    rw [(SameBlocks.touch ..).holdsAt_iff] at held held'
    exact unique i j n held held'
  | store valid change =>
    rw [holdsAt_store] at held held'
    exact unique i j n held held'
  | giveUp below full =>
    exact unique i j n (holdsAt_giveUp.mp held).2 (holdsAt_giveUp.mp held').2
  | fill data place vacant absent =>
    rw [(SameBlocks.touch ..).holdsAt_iff, holdsAt_fill arranged data place] at held held'
    -- the block that came in was in no line before
    have nowhere := arranged.lookup_eq_none_iff.mp absent
    rcases held with ⟨rfl, rfl⟩ | ⟨-, held⟩ <;> rcases held' with ⟨rfl, number⟩ | ⟨-, held'⟩
    · rfl
    · exact absurd held' (nowhere j)
    · exact absurd (number ▸ held) (nowhere i)
    · exact unique i j n held held'

/-- Only a write to a valid line turns it dirty, and only where writes are late. -/
theorem Step.lawful (step : Step cache used next)
    (lawful : ∀ i, (cache.line i).Lawful cache.geometry.writeThrough) (i : Nat) :
    (next.line i).Lawful next.geometry.writeThrough := by
  by_cases inside : i < cache.lines.size
  · rw [step.shape.1]
    cases step with
    | idle same =>
      rw [same.line_eq]
      exact lawful i
    | hit found =>
      rw [line_touch inside]
      split <;> exact lawful i
    | store valid change =>
      rw [line_modifyLine inside]
      split
      · next here =>
        subst here
        exact fun dirty => ⟨valid, by simpa using dirty⟩
      · exact lawful i
    | giveUp below full =>
      rw [line_modifyLine inside]
      split
      · exact Line.lawful_of_clean rfl
      · exact lawful i
    | fill data place vacant absent =>
      rw [line_touch (by rwa [size_lines_modifyLine]), line_modifyLine inside]
      split <;> split
      · exact Line.lawful_of_clean rfl
      · exact lawful i
      · exact Line.lawful_of_clean rfl
      · exact lawful i
  · rw [line_eq_empty (step.shape.2 ▸ inside)]
    exact Line.lawful_of_clean rfl

theorem Tidy.step (tidy : cache.Tidy) (step : Step cache used next) : next.Tidy where
  arranged := tidy.arranged.congr step.shape.1 step.shape.2
  unique := step.unique tidy.arranged tidy.unique
  lawful := step.lawful tidy.lawful

theorem Tidy.steps (tidy : cache.Tidy) (steps : Steps cache used next) : next.Tidy := by
  induction steps with
  | refl => exact tidy
  | head step _ ih => exact ih (tidy.step step)

theorem Fresh.tidy (fresh : cache.Fresh) : cache.Tidy where
  arranged := fresh.arranged
  unique _ _ _ held := absurd held fresh.not_holdsAt
  lawful i := by
    rw [fresh.line_eq]
    exact Line.lawful_of_clean rfl

/-! ### What is always true -/

/-- The line of a block is found at the block's address. -/
theorem Tidy.lookup_addressOf (tidy : cache.Tidy) (valid : (cache.line i).valid = true) :
    cache.lookup (cache.addressOf (cache.line i).tag (cache.setOfLine i)) = some i := by
  have number : cache.blockNumber i * blockSize / blockSize = cache.blockNumber i :=
    Nat.mul_div_cancel _ (by decide)
  rw [addressOf_eq rfl, tidy.arranged.lookup_eq_some_iff tidy.unique, number]
  exact ⟨lt_size_of_valid valid, valid, rfl⟩

/-- A cache that was given the lines of a geometry stays intact: whatever it is asked, whatever its
policy wants and whatever the storage below answers, failures included. -/
theorem intact_after (lower : Storage S) (below : S)
    (configured : unconfigured.configure geometry = .ok cache) (requests : List Request) :
    (Storage.after (serve lower) requests (cache, below)).1.Intact geometry := by
  have fresh : cache.Fresh := ⟨unconfigured, geometry, configured⟩
  have steps := after_steps lower requests (cache, below) fresh.arranged
  have aged := fresh.aged.steps steps
  have tidy := fresh.tidy.steps steps
  obtain ⟨same, -, -⟩ := geometry_of_configure configured
  obtain ⟨geometry_eq, size_eq⟩ := steps.shape
  generalize (Storage.after (serve lower) requests (cache, below)).1 = last at *
  have size : last.lines.size = geometry.entries := by
    rw [size_eq, fresh.size_lines, same]
  have place (i : Nat) (inside : i < last.lines.size) :
      (last.line i).set = i / (geometry.entries / geometry.sets) := by
    rw [steps.set_eq, fresh.set_eq (size_eq ▸ inside), same]
  have stands (i : Nat) (valid : (last.line i).valid = true) :
      (last.line i).set = last.setOfLine i := by
    rw [place i (lt_size_of_valid valid), setOfLine, ways, size, sets_congr geometry_eq size_eq,
      fresh.sets_eq, same]
  refine ⟨size, place, fun i valid => ?_, fun i j valid valid' set tag => ?_,
    fun i vacant => ?_, fun through i => ?_, fun i => ?_⟩
  · rw [stands i valid]
    exact tidy.lookup_addressOf valid
  · rw [stands i valid, stands j valid'] at set
    have number : last.blockNumber j = last.blockNumber i := by
      rw [blockNumber, blockNumber, set, tag]
    exact tidy.unique i j _ ⟨lt_size_of_valid valid, valid, rfl⟩
      ⟨lt_size_of_valid valid', valid', number⟩
  · by_contra dirty
    cases vacant.symm.trans (tidy.lawful i (by simpa using dirty)).1
  · by_contra dirty
    have late := (tidy.lawful i (by simpa using dirty)).2
    rw [geometry_eq, same, through] at late
    cases late
  · by_cases inside : i < last.lines.size
    · rw [aged.age i inside]
      exact Nat.min_le_left ..
    · rw [line_eq_empty inside]
      exact Nat.zero_le _

/-- A cache of two sets of two lines, whose policy always wants the block at 64. The block in line 0
is written and dirty when a read beyond the memory gives up line 1 for nothing; the last read leaves
its block and is refused. -/
theorem intact_after_twoSets :
    let unconfigured : Cache Unit := { twoLines with lines := #[], geometry := default }
    let geometry : Geometry := ⟨256, 2, 2, false, true⟩
    let cache : Cache Unit := { twoLines with lines := freshLines geometry, geometry }
    let requests := [.write 3 [7], .read 128 8, .write 3 [8], .read 256 8, .read 60 8]
    let last := (Storage.after (serve Memory.serve) requests (cache, { size := 256 })).1
    (unconfigured.configure geometry = .ok cache ∧ last.Intact geometry) ∧
      last.lookup 3 = some 0 ∧ (last.line 0).dirty = true ∧ (last.line 1).valid = false ∧
        last.lookup 64 = some 2 ∧ last.lines.toList.map Line.set = [0, 0, 1, 1] := by
  intro unconfigured geometry cache requests last
  have configured : unconfigured.configure geometry = .ok cache :=
    configure_eq_ok_iff.mpr ⟨rfl, by decide, by decide, rfl⟩
  exact ⟨⟨configured, intact_after Memory.serve { size := 256 } configured _⟩, by decide +kernel⟩

end Cache

end FiveStage
