import FiveStage.Proofs.Cache.Placement

/-!
# How many lines hold a block

A line that is given up is one more vacant line of its set and one less that holds a block; a line
that is filled is the opposite, and nothing else changes these numbers.

## Main definitions

* `Cache.vacancies`: the number of lines of a set that hold nothing
* `Cache.occupancy`: the number of lines of a cache that hold a block

## Main results

* `Cache.vacancies_cleared`: there is a vacant line in a set after room was made
* `Cache.occupancy_giveUp`, `Cache.occupancy_fill`: giving up a line, and filling it
-/

namespace FiveStage

namespace Cache

variable {σ : Type} {cache next : Cache σ} {index set set' i : Nat}

/-! ### Vacant lines -/

/-- The number of lines of a set that hold nothing. -/
def vacancies (cache : Cache σ) (set : Nat) : Nat :=
  (cache.linesOf set).countP fun i => !(cache.line i).valid

/-- The number of the things with a property grows by one if one thing gets it. -/
theorem countP_of_changed {before after : Nat → Bool} {things : List Nat} (nodup : things.Nodup)
    (member : i ∈ things) (gets : after i = true) (lacked : before i = false)
    (others : ∀ j ∈ things, j ≠ i → after j = before j) :
    things.countP after = things.countP before + 1 := by
  have perm := List.perm_cons_erase member
  have rest : (things.erase i).countP after = (things.erase i).countP before := by
    refine List.countP_congr fun j member' => ?_
    obtain ⟨other, member'⟩ := nodup.mem_erase_iff.mp member'
    rw [others j member' other]
  rw [perm.countP_eq, perm.countP_eq before, List.countP_cons_of_pos gets,
    List.countP_cons_of_neg (by rw [lacked]; exact Bool.false_ne_true), rest]

theorem vacancies_congr (ways : next.ways = cache.ways)
    (valid : ∀ i ∈ cache.linesOf set, (next.line i).valid = (cache.line i).valid) :
    next.vacancies set = cache.vacancies set := by
  rw [vacancies, vacancies, linesOf, ways]
  exact List.countP_congr fun i member => by rw [valid i member]

theorem vacancies_eq_zero_iff : cache.vacancies set = 0 ↔ cache.vacant? set = none := by
  rw [vacancies, vacant?, List.countP_eq_zero, List.find?_eq_none]

theorem nodup_linesOf (cache : Cache σ) (set : Nat) : (cache.linesOf set).Nodup :=
  List.nodup_range' 1 Nat.one_pos

theorem Agrees.vacancies_eq (agrees : cache.Agrees next) :
    next.vacancies set = cache.vacancies set :=
  vacancies_congr agrees.ways fun i _ => agrees.valid i

theorem ways_touch : (cache.touch index).ways = cache.ways :=
  (SameBlocks.touch cache index).ways

theorem valid_touch : ((cache.touch index).line i).valid = (cache.line i).valid := by
  by_cases inside : i < cache.lines.size
  · exact ((SameBlocks.touch cache index).line i inside).2.2.1
  · rw [line_eq_empty inside, line_eq_empty (by rwa [size_lines_touch])]

theorem vacancies_touch : (cache.touch index).vacancies set = cache.vacancies set :=
  vacancies_congr ways_touch fun _ _ => valid_touch

theorem vacancies_modifyLine_of_ne (arranged : cache.Arranged) {change : Line → Line}
    (other : set ≠ cache.setOfLine index) :
    (cache.modifyLine index change).vacancies set = cache.vacancies set := by
  refine vacancies_congr ways_modifyLine fun i member => ?_
  rw [line_modifyLine_of_ne]
  rintro rfl
  exact other (arranged.mem_linesOf_iff.mp member).symm

/-- A line that is given up is one more vacant line of its set. -/
theorem vacancies_giveUp (arranged : cache.Arranged) (inside : index < cache.lines.size)
    (valid : (cache.line index).valid = true) :
    (cache.modifyLine index fun l => { l with valid := false, dirty := false }).vacancies
        (cache.setOfLine index) =
      cache.vacancies (cache.setOfLine index) + 1 := by
  rw [vacancies, vacancies, linesOf, ways_modifyLine]
  refine countP_of_changed (cache.nodup_linesOf _) (arranged.mem_linesOf_iff.mpr rfl) ?_ ?_
    fun i _ other => ?_
  · rw [line_modifyLine_self inside]
    rfl
  · rw [valid]
    rfl
  · rw [line_modifyLine_of_ne other]

/-- A line that is filled is one vacant line less in its set. -/
theorem vacancies_fill (arranged : cache.Arranged) (inside : index < cache.lines.size)
    (vacant : (cache.line index).valid = false) (data : Bytes) (tag : Nat) :
    cache.vacancies (cache.setOfLine index) =
      (cache.modifyLine index fun l =>
        { l with data, tag, valid := true, dirty := false }).vacancies (cache.setOfLine index) +
          1 := by
  rw [vacancies, vacancies, linesOf, linesOf, ways_modifyLine]
  refine countP_of_changed (cache.nodup_linesOf _) (arranged.mem_linesOf_iff.mpr rfl) ?_ ?_
    fun i _ other => ?_
  · rw [vacant]
    rfl
  · rw [line_modifyLine_self inside]
    rfl
  · rw [line_modifyLine_of_ne other]

/-- Clearing leaves a vacant line in the set, and changes nothing elsewhere. -/
theorem vacancies_cleared (arranged : cache.Arranged) (below : set < cache.sets) :
    (cache.cleared set).vacancies set' =
      if set' = set then max 1 (cache.vacancies set) else cache.vacancies set' := by
  unfold cleared
  cases found : cache.vacant? set with
  | some index =>
    have some_vacant : cache.vacancies set ≠ 0 := by
      rw [Ne, vacancies_eq_zero_iff, found]
      exact nofun
    change cache.vacancies set' = _
    by_cases same : set' = set
    · rw [if_pos same, same]
      omega
    · rw [if_neg same]
  | none =>
    obtain ⟨place, inside, valid, -⟩ := victim_holds arranged below found
    generalize cache.victim set = index at place inside valid
    subst place
    by_cases same : set' = cache.setOfLine index
    · rw [if_pos same, same, vacancies_eq_zero_iff.mpr found]
      refine (vacancies_giveUp arranged inside valid).trans ?_
      rw [vacancies_eq_zero_iff.mpr found]
      rfl
    · rw [if_neg same]
      exact vacancies_modifyLine_of_ne arranged same

/-! ### Lines that hold a block -/

/-- The number of lines that hold a block. -/
def occupancy (cache : Cache σ) : Nat :=
  (List.range cache.lines.size).countP fun i => (cache.line i).valid

theorem occupancy_congr (size : next.lines.size = cache.lines.size)
    (valid : ∀ i, (next.line i).valid = (cache.line i).valid) :
    next.occupancy = cache.occupancy := by
  rw [occupancy, occupancy, size]
  exact List.countP_congr fun i _ => by rw [valid i]

theorem occupancy_touch : (cache.touch index).occupancy = cache.occupancy :=
  occupancy_congr (size_lines_touch ..) fun _ => valid_touch

theorem occupancy_store {data : Line → Bytes} {dirty : Bool} :
    (cache.modifyLine index fun l => { l with data := data l, dirty }).occupancy =
      cache.occupancy := by
  refine occupancy_congr (size_lines_modifyLine ..) fun i => ?_
  by_cases here : i = index
  · subst here
    by_cases inside : i < cache.lines.size
    · rw [line_modifyLine_self inside]
    · rw [line_eq_empty inside, line_eq_empty (by rwa [size_lines_modifyLine])]
  · rw [line_modifyLine_of_ne here]

/-- One line less holds a block after a line was given up. -/
theorem occupancy_giveUp (valid : (cache.line index).valid = true) :
    cache.occupancy =
      (cache.modifyLine index fun l => { l with valid := false, dirty := false }).occupancy +
        1 := by
  have inside := lt_size_of_valid valid
  rw [occupancy, occupancy, size_lines_modifyLine]
  refine countP_of_changed List.nodup_range (List.mem_range.mpr inside) valid ?_ fun i _ other => ?_
  · rw [line_modifyLine_self inside]
  · rw [line_modifyLine_of_ne other]

/-- One line more holds a block after a line was filled. -/
theorem occupancy_fill (inside : index < cache.lines.size)
    (vacant : (cache.line index).valid = false) (data : Bytes) (tag : Nat) :
    (cache.modifyLine index fun l =>
      { l with data, tag, valid := true, dirty := false }).occupancy = cache.occupancy + 1 := by
  rw [occupancy, occupancy, size_lines_modifyLine]
  refine countP_of_changed List.nodup_range (List.mem_range.mpr inside) ?_ vacant
    fun i _ other => ?_
  · rw [line_modifyLine_self inside]
  · rw [line_modifyLine_of_ne other]

/-- A new cache holds nothing. -/
theorem Fresh.occupancy (fresh : cache.Fresh) : cache.occupancy = 0 := by
  rw [Cache.occupancy, List.countP_eq_zero]
  intro i _
  rw [fresh.line_eq]
  exact Bool.false_ne_true

end Cache

end FiveStage
