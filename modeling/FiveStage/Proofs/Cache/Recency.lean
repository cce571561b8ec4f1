import FiveStage.Proofs.Cache.Steps
import Mathlib.Data.List.Basic

/-!
# Least recently used

A line's age counts the uses of other lines since its own last use, up to a limit, and all lines of
the cache age together. So the ages that a cache keeps are a function of its history, whichever
requests failed and whatever the policy bypassed or brought in, and among the lines of a set they
tell which one was used longest ago, as long as none has reached the limit.

## Main definitions

* `Cache.sinceUse`: the number of uses since a line was used last
* `Cache.OrderedByUse`: what the ages in a cache say about its history
* `Cache.ReplacesByUse`: what may give way for a request

## Main results

* `Cache.orderedByUse_after`: a new cache stays ordered by use, whatever it is asked, and what gives
  way is chosen in that order
-/

namespace FiveStage

namespace Cache

variable {σ S : Type} {cache next : Cache σ} {used : List Nat} {index i j set : Nat}

/-- The number of uses since line `i` was used last, or of all uses if it never was. -/
def sinceUse (used : List Nat) (i : Nat) : Nat := used.reverse.idxOf i

theorem sinceUse_self (used : List Nat) (i : Nat) : sinceUse (used ++ [i]) i = 0 := by
  rw [sinceUse, List.reverse_append, List.reverse_singleton, List.singleton_append,
    List.idxOf_cons_self]

theorem sinceUse_of_ne (used : List Nat) (other : i ≠ index) :
    sinceUse (used ++ [index]) i = sinceUse used i + 1 := by
  rw [sinceUse, List.reverse_append, List.reverse_singleton, List.singleton_append,
    List.idxOf_cons_ne _ other.symm, sinceUse]

/-- No two lines were used last at the same time. -/
theorem sinceUse_inj (member : i ∈ used) (same : sinceUse used i = sinceUse used j) : i = j :=
  (List.idxOf_inj (List.mem_reverse.mpr member)).mp same

/-! ### Ages and uses -/

/-- Every line is as old as its last use is long ago, and only lines that were used hold a block. -/
structure Aged (used : List Nat) (cache : Cache σ) : Prop where
  age : ∀ i < cache.lines.size, (cache.line i).age = min maxAge (sinceUse used i)
  valid : ∀ i, (cache.line i).valid = true → i ∈ used

/-- Other lines are one use older after a line was used. -/
theorem age_touch (ages : ∀ i < cache.lines.size, (cache.line i).age = min maxAge (sinceUse used i))
    (inside : i < cache.lines.size) :
    ((cache.touch index).line i).age = min maxAge (sinceUse (used ++ [index]) i) := by
  rw [line_touch inside]
  split
  · next same =>
    rw [same, sinceUse_self]
    rfl
  · next other =>
    rw [sinceUse_of_ne used other, Line.aged, ages i inside]
    dsimp only
    omega

theorem age_modifyLine {change : Line → Line} (keeps : ∀ l, (change l).age = l.age)
    (inside : i < cache.lines.size) :
    ((cache.modifyLine index change).line i).age = (cache.line i).age := by
  rw [line_modifyLine inside]
  split
  · exact keeps _
  · rfl

/-- Nothing but a use brings a block into a line. -/
theorem Step.valid (step : Step cache used next) (valid : (next.line i).valid = true) :
    (cache.line i).valid = true ∨ i ∈ used := by
  have inside : i < cache.lines.size := step.shape.2 ▸ lt_size_of_valid valid
  cases step with
  | idle same =>
    rw [same.line_eq] at valid
    exact .inl valid
  | hit found =>
    rw [line_touch inside] at valid
    split at valid <;> exact .inl valid
  | store held change =>
    rw [line_modifyLine inside] at valid
    split at valid <;> exact .inl valid
  | giveUp below full =>
    rw [line_modifyLine inside] at valid
    split at valid
    · cases valid
    · exact .inl valid
  | fill data place vacant absent =>
    rw [line_touch (by rwa [size_lines_modifyLine]), line_modifyLine inside] at valid
    split at valid
    · next same => exact .inr (List.mem_singleton.mpr same)
    · next other =>
      rw [if_neg (Ne.symm other)] at valid
      exact .inl valid

/-- A step keeps the ages in line with the uses. -/
theorem Aged.step {more : List Nat} (aged : Aged used cache) (step : Step cache more next) :
    Aged (used ++ more) next where
  age i inside := by
    rw [step.shape.2] at inside
    cases step with
    | idle same =>
      rw [List.append_nil, same.line_eq]
      exact aged.age i inside
    | hit found => exact age_touch aged.age inside
    | store valid change =>
      rw [List.append_nil, ← aged.age i inside]
      exact age_modifyLine (fun _ => rfl) inside
    | giveUp below full =>
      rw [List.append_nil, ← aged.age i inside]
      exact age_modifyLine (fun _ => rfl) inside
    | fill data place vacant absent =>
      refine age_touch (fun j inside' => ?_) (by rwa [size_lines_modifyLine])
      rw [size_lines_modifyLine] at inside'
      rw [← aged.age j inside']
      exact age_modifyLine (fun _ => rfl) inside'
  valid i held := by
    rcases step.valid held with held' | touched
    · exact List.mem_append_left _ (aged.valid i held')
    · exact List.mem_append_right _ touched

theorem Aged.steps {more : List Nat} (aged : Aged used cache) (steps : Steps cache more next) :
    Aged (used ++ more) next := by
  induction steps generalizing used with
  | refl => rwa [List.append_nil]
  | head step _ ih =>
    rw [← List.append_assoc]
    exact ih (aged.step step)

theorem Fresh.aged (fresh : cache.Fresh) : Aged [] cache := by
  constructor
  · intro i _
    rw [fresh.line_eq]
    rfl
  · intro i valid
    rw [fresh.line_eq] at valid
    cases valid

/-! ### The line that gives way -/

/-- A search through a stretch of lines for the oldest finds the first of the oldest ones. -/
theorem foldl_oldest (age : Nat → Nat) (start n : Nat) :
    let oldest := (List.range' start n).foldl
      (fun oldest i => if age i > age oldest then i else oldest) start
    oldest ≤ start + n ∧ ∀ i, start ≤ i → i < start + n →
      age i ≤ age oldest ∧ (age i = age oldest → oldest ≤ i) := by
  induction n with
  | zero => exact ⟨Nat.le_refl _, fun i low high => absurd high (by omega)⟩
  | succ n ih =>
    rw [List.range'_1_concat, List.foldl_append]
    generalize (List.range' start n).foldl _ start = oldest at ih ⊢
    obtain ⟨bound, first⟩ := ih
    simp only [List.foldl_cons, List.foldl_nil]
    split
    -- a line that is older than all before it is the only one of its age
    · next older =>
      refine ⟨by omega, fun i low high => ?_⟩
      by_cases last : i = start + n
      · subst last
        exact ⟨Nat.le_refl _, fun _ => Nat.le_refl _⟩
      · have := (first i low (by omega)).1
        exact ⟨by omega, fun _ => by omega⟩
    · next younger =>
      refine ⟨by omega, fun i low high => ?_⟩
      by_cases last : i = start + n
      · subst last
        exact ⟨by omega, fun _ => bound⟩
      · exact first i low (by omega)

/-- The victim of a set is the first of its oldest lines. -/
theorem victim_oldest (member : i ∈ cache.linesOf set) :
    (cache.line i).age ≤ (cache.line (cache.victim set)).age ∧
      ((cache.line i).age = (cache.line (cache.victim set)).age → cache.victim set ≤ i) := by
  obtain ⟨low, high⟩ := List.mem_range'_1.mp member
  exact (foldl_oldest (fun i => (cache.line i).age) (set * cache.ways) cache.ways).2 i low high

/-! ### The order of use -/

/-- The ages in a cache tell when its lines were used. Each line that holds a block counts the uses
since its own, up to the limit, so that ages differ below the limit. Where a block has to give way
in a set without a vacant line, it is the one that was used longest ago, or else the first one that
has reached the limit. -/
structure OrderedByUse (used : List Nat) (cache : Cache σ) : Prop where
  age : ∀ i, (cache.line i).valid = true →
    i ∈ used ∧ (cache.line i).age = min maxAge (sinceUse used i)
  tied : ∀ i j, (cache.line i).valid = true → (cache.line j).valid = true →
    (cache.line i).age = (cache.line j).age → i = j ∨ (cache.line i).age = maxAge
  oldest : ∀ set, cache.vacant? set = none →
    (∀ i ∈ cache.linesOf set, (cache.line i).age ≠ maxAge) →
    cache.victim set ∈ cache.linesOf set ∧ ∀ i ∈ cache.linesOf set, i ≠ cache.victim set →
      sinceUse used i < sinceUse used (cache.victim set)
  saturated : ∀ set, cache.vacant? set = none →
    (∃ i ∈ cache.linesOf set, (cache.line i).age = maxAge) →
    cache.victim set ∈ cache.linesOf set ∧ (cache.line (cache.victim set)).age = maxAge ∧
      ∀ i ∈ cache.linesOf set, (cache.line i).age = maxAge → cache.victim set ≤ i

theorem Aged.orderedByUse (aged : Aged used cache) (arranged : cache.Arranged) :
    OrderedByUse used cache := by
  have age : ∀ i, (cache.line i).valid = true →
      i ∈ used ∧ (cache.line i).age = min maxAge (sinceUse used i) :=
    fun i valid => ⟨aged.valid i valid, aged.age i (lt_size_of_valid valid)⟩
  have tied : ∀ i j, (cache.line i).valid = true → (cache.line j).valid = true →
      (cache.line i).age = (cache.line j).age → i = j ∨ (cache.line i).age = maxAge := by
    intro i j valid valid' same
    obtain ⟨member, age_i⟩ := age i valid
    obtain ⟨-, age_j⟩ := age j valid'
    by_cases limit : (cache.line i).age = maxAge
    · exact .inr limit
    · exact .inl (sinceUse_inj member (by omega))
  have full_valid {set : Nat} (full : cache.vacant? set = none) :
      ∀ i ∈ cache.linesOf set, (cache.line i).valid = true :=
    fun i member => by simpa using List.find?_eq_none.mp full i member
  refine ⟨age, tied, fun set full young => ?_, fun set full old => ?_⟩
  · have member := victim_mem arranged.ways_pos set
    refine ⟨member, fun i member' other => ?_⟩
    obtain ⟨used_i, age_i⟩ := age i (full_valid full i member')
    obtain ⟨-, age_v⟩ := age _ (full_valid full _ member)
    have older := (victim_oldest member').1
    have apart : sinceUse used i ≠ sinceUse used (cache.victim set) :=
      fun same => other (sinceUse_inj used_i same)
    have := young i member'
    have := young _ member
    omega
  · obtain ⟨i, member, limit⟩ := old
    have older := victim_oldest member
    have member' := victim_mem arranged.ways_pos set
    obtain ⟨-, age_v⟩ := age _ (full_valid full _ member')
    have reached : (cache.line (cache.victim set)).age = maxAge := by omega
    refine ⟨member', reached, fun j member'' limit' => ?_⟩
    exact (victim_oldest member'').2 (limit'.trans reached.symm)

/-- What gives way for a request is the victim of a full set. For the block of the request it is the
victim in the cache as it is, and for the one that the policy wants besides the victim in the cache
that has served the request, which is ordered by use as well. -/
def ReplacesByUse (lower : Storage S) (used : List Nat) (request : Request) (state : Cache σ × S) :
    Prop :=
  let after := (serve lower request state).2.1
  match halfway? lower request state with
  | none => state.1.SameLines after
  | some (served, wanted?) =>
    Displaces (some request.address) state.1 served ∧
      OrderedByUse (used ++ state.1.used served request.address) served ∧
      Displaces wanted? served after

theorem Aged.replacesByUse (lower : Storage S) (request : Request) {state : Cache σ × S}
    (aged : Aged used state.1) (arranged : state.1.Arranged) :
    ReplacesByUse lower used request state := by
  have halves := serve_handles lower request state arranged
  unfold ReplacesByUse
  cases half : halfway? lower request state with
  | none =>
    rw [half] at halves
    exact halves
  | some half =>
    rw [half] at halves
    obtain ⟨first, second⟩ := halves
    have aged' := aged.steps first.steps
    exact ⟨first.displaces, aged'.orderedByUse (first.steps.arranged arranged), second.displaces⟩

/-- A new cache stays ordered by use and replaces blocks in this order: whatever it is asked,
whatever its policy wants and whatever the storage below answers, failures included. -/
theorem orderedByUse_after (lower : Storage S) (below : S) (fresh : cache.Fresh)
    (requests : List Request) :
    let used := history lower requests (cache, below)
    let state := Storage.after (serve lower) requests (cache, below)
    OrderedByUse used state.1 ∧ ∀ request, ReplacesByUse lower used request state := by
  intro used state
  have steps : Steps cache used state.1 := after_steps lower requests (cache, below) fresh.arranged
  have aged : Aged used state.1 := fresh.aged.steps steps
  have arranged := steps.arranged fresh.arranged
  exact ⟨aged.orderedByUse arranged, fun request => aged.replacesByUse lower request arranged⟩

/-- A cache of two lines in one set, whose policy always wants the block at 64. -/
def twoLines : Cache Unit where
  name := "small"
  geometry := ⟨128, 2, 1, false, true⟩
  policy := { Policy.plain Unit with prefetch := fun _ _ memo => (some 64, memo) }
  memo := ()
  lines := freshLines ⟨128, 2, 1, false, true⟩

/-- Line 1 is filled twice by the policy: the read beyond the memory has given it up for nothing,
and uses no line. Then the block in line 0 gives way to the one that is read last. -/
theorem orderedByUse_after_twoLines :
    let requests := [.read 0 8, .write 3 [7], .read 256 8, .read 8 8]
    let used := history Memory.serve requests (twoLines, { size := 256 })
    let state := Storage.after (serve Memory.serve) requests (twoLines, { size := 256 })
    let last := (serve Memory.serve (.read 128 8) state).2.1
    (twoLines.Fresh ∧ OrderedByUse used state.1 ∧
      ReplacesByUse Memory.serve used (.read 128 8) state) ∧
      used = [0, 1, 0, 0, 1] ∧ state.1.vacant? 0 = none ∧ state.1.victim 0 = 0 ∧
        last.lookup 0 = none ∧ last.lookup 128 = some 0 := by
  have fresh : twoLines.Fresh :=
    ⟨{ twoLines with lines := #[], geometry := default }, ⟨128, 2, 1, false, true⟩, rfl⟩
  obtain ⟨ordered, replaces⟩ := orderedByUse_after Memory.serve { size := 256 } fresh
    [.read 0 8, .write 3 [7], .read 256 8, .read 8 8]
  exact ⟨⟨fresh, ordered, replaces _⟩, by decide +kernel⟩

end Cache

end FiveStage
