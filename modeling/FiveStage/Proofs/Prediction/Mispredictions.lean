import FiveStage.Proofs.Prediction.Traces
import Mathlib.Algebra.BigOperators.Group.Finset.Piecewise
import Mathlib.Algebra.Order.BigOperators.Group.Finset

/-!
# How often the adaptive heuristic can be wrong

If every outcome in a bucket is given by the four before it, then a counter of the bucket only ever
moves one way: up, where the rule says taken, and down from zero otherwise. The second of these
never mispredicts, and the first does so twice, until the counter has passed the middle. So the
mispredictions are paid for, one by one, by the first two visits to each context at which branches
are taken, and there are no more of them than that, however long the run is and whatever happens in
other buckets.

## Main definitions

* `Predictor.mispredictions`: how often a bucket was predicted wrongly in a trace
* `Predictor.Determined`: outcomes that follow from the four before them by a rule
* `Predictor.visits`: how often an outcome came after four given ones

## Main results

* `Predictor.mispredictions_eq`: the mispredictions are the first two visits to contexts of taken
  branches
* `Predictor.mispredictions_le`: there are at most two for each such context
-/

namespace FiveStage.Predictor

/-- How many branches of a bucket were predicted wrongly just before they were seen. -/
def mispredictions (heuristic : Heuristic) (trace : List (Word × Bool)) (number : Nat) : Nat :=
  (withPast trace).countP fun entry =>
    bucketNumber entry.2.1 = number ∧ (after heuristic entry.1).predict entry.2.1 ≠ entry.2.2

/-- Every outcome follows by a rule from the four before it. -/
def Determined (rule : Context → Bool) (outcomes : List Bool) : Prop :=
  ∀ entry ∈ withPast outcomes, entry.2 = rule (recent entry.1)

instance (rule : Context → Bool) (outcomes : List Bool) : Decidable (Determined rule outcomes) :=
  inferInstanceAs (Decidable (∀ entry ∈ withPast outcomes, entry.2 = rule (recent entry.1)))

/-- How many outcomes came after four given ones. -/
def visits (outcomes : List Bool) (context : Context) : Nat :=
  (outcomesAfter outcomes context).length

section Visits

variable {rule : Context → Bool} {outcomes : List Bool} {taken : Bool}

@[simp]
theorem visits_concat (context : Context) :
    visits (outcomes ++ [taken]) context =
      visits outcomes context + if recent outcomes = context then 1 else 0 := by
  by_cases here : recent outcomes = context <;> simp [visits, here]

theorem determined_concat :
    Determined rule (outcomes ++ [taken]) ↔
      Determined rule outcomes ∧ taken = rule (recent outcomes) := by
  simp only [Determined, withPast_concat, List.forall_mem_append, List.forall_mem_singleton]

/-- After four outcomes the rule always says the same. -/
theorem Determined.outcomesAfter_eq (determined : Determined rule outcomes) (context : Context) :
    outcomesAfter outcomes context = List.replicate (visits outcomes context) (rule context) := by
  apply List.eq_replicate_of_mem
  intro taken member
  obtain ⟨entry, chosen, rfl⟩ := List.mem_map.1 member
  obtain ⟨listed, here⟩ := List.mem_filter.1 chosen
  rw [determined entry listed, of_decide_eq_true here]

end Visits

/-! ### What the counters have become -/

theorem foldl_saturate_true (count : Nat) :
    (List.replicate count true).foldl saturate 0 = min count 3 := by
  induction count with
  | zero => rfl
  | succ count ih =>
    rw [List.replicate_succ', List.foldl_append, ih]
    simp only [List.foldl_cons, List.foldl_nil, saturate, if_true]
    omega

theorem foldl_saturate_false (count : Nat) :
    (List.replicate count false).foldl saturate 0 = 0 := by
  induction count with
  | zero => rfl
  | succ count ih => rw [List.replicate_succ', List.foldl_append, ih]; rfl

/-- A branch is predicted to be taken from the third visit on, where the rule says so. -/
theorem predict_after_of_determined {rule : Context → Bool} {trace : List (Word × Bool)} {pc : Word}
    (determined : Determined rule (outcomesIn trace (bucketNumber pc))) :
    let outcomes := outcomesIn trace (bucketNumber pc)
    (after .adaptive trace).predict pc =
      (rule (recent outcomes) && decide (2 ≤ visits outcomes (recent outcomes))) := by
  intro outcomes
  have counter : ((after .adaptive trace).counter pc).val =
      (List.replicate (visits outcomes (recent outcomes)) (rule (recent outcomes))).foldl
        saturate 0 := by
    rw [counter_after_adaptive, determined.outcomesAfter_eq]
  simp only [predict, heuristic_after, Counter.predict, counter]
  cases rule (recent outcomes) with
  | false => simp [foldl_saturate_false]
  | true => simp [foldl_saturate_true]

/-! ### The account of mispredictions -/

section Account

variable (rule : Context → Bool) (outcomes : List Bool)

/-- The first two visits to each context at which branches are taken. -/
def firstVisits : Nat :=
  ∑ context with rule context, min 2 (visits outcomes context)

theorem firstVisits_concat (taken : Bool) :
    firstVisits rule (outcomes ++ [taken]) =
      firstVisits rule outcomes +
        if rule (recent outcomes) ∧ visits outcomes (recent outcomes) < 2 then 1 else 0 := by
  have each (context : Context) :
      min 2 (visits (outcomes ++ [taken]) context) =
        min 2 (visits outcomes context) +
          if recent outcomes = context then
            (if visits outcomes (recent outcomes) < 2 then 1 else 0)
          else 0 := by
    rw [visits_concat]
    by_cases here : recent outcomes = context
    · subst here
      simp only [if_true]
      split <;> omega
    · simp [here]
  simp only [firstVisits, each, Finset.sum_add_distrib, Finset.sum_ite_eq, Finset.mem_filter,
    Finset.mem_univ, true_and, ite_and]

theorem firstVisits_le :
    firstVisits rule outcomes ≤ 2 * (Finset.univ.filter fun context => rule context).card := by
  rw [firstVisits, mul_comm]
  exact Finset.sum_le_card_nsmul _ _ 2 fun context _ => Nat.min_le_left _ _

end Account

theorem mispredictions_concat (trace : List (Word × Bool)) (branch : Word × Bool) (number : Nat) :
    mispredictions .adaptive (trace ++ [branch]) number =
      mispredictions .adaptive trace number +
        if bucketNumber branch.1 = number ∧
          (after .adaptive trace).predict branch.1 ≠ branch.2 then 1 else 0 := by
  simp [mispredictions, List.countP_append, List.countP_singleton]

/-- Every misprediction is one of the first two visits to a context at which branches are taken,
and every such visit is a misprediction. -/
theorem mispredictions_eq (rule : Context → Bool) (trace : List (Word × Bool)) (number : Nat)
    (determined : Determined rule (outcomesIn trace number)) :
    mispredictions .adaptive trace number = firstVisits rule (outcomesIn trace number) := by
  induction trace using List.reverseRecOn with
  | nil => simp [mispredictions, firstVisits, visits, outcomesIn, branchesIn, outcomesAfter]
  | append_singleton trace branch ih =>
    rw [mispredictions_concat, outcomesIn_concat]
    rw [outcomesIn_concat] at determined
    by_cases here : bucketNumber branch.1 = number
    · subst here
      simp only [if_true, determined_concat] at determined
      obtain ⟨earlier, outcome⟩ := determined
      rw [if_pos rfl, firstVisits_concat, ih earlier, predict_after_of_determined earlier, outcome]
      congr 1
      cases rule (recent (outcomesIn trace (bucketNumber branch.1))) with
      | false => simp
      | true => simp
    · simp only [here, if_false, List.append_nil] at determined
      simp [here, ih determined]

/-- However long the run, whatever branches of other buckets come in between and in whatever order
the rule walks through the contexts: a bucket whose outcomes follow from the four before them is
mispredicted at most twice for each context at which branches are taken. -/
theorem mispredictions_le (rule : Context → Bool) (trace : List (Word × Bool)) (number : Nat)
    (determined : Determined rule (outcomesIn trace number)) :
    mispredictions .adaptive trace number ≤
      2 * (Finset.univ.filter fun context => rule context).card ∧
    mispredictions .adaptive trace number ≤ 32 := by
  have bound := firstVisits_le rule (outcomesIn trace number)
  have contexts : (Finset.univ.filter fun context : Context => rule context).card ≤ 16 :=
    Finset.card_filter_le _ _
  rw [mispredictions_eq rule trace number determined]
  omega

/-- Two branches of one bucket that alternate, with a branch of the next bucket in between. -/
def alternation : List (Word × Bool) :=
  [(0x1000, true), (0x1004, true), (0x1040, false), (0x1000, true), (0x1004, false),
    (0x1040, false), (0x1000, true), (0x1040, false)]

theorem mispredictions_le_alternation :
    let rule : Context → Bool := fun context => !context 0
    Determined rule (outcomesIn alternation 0) ∧
    mispredictions .adaptive alternation 0 ≤
      2 * (Finset.univ.filter fun context => rule context).card ∧
    mispredictions .adaptive alternation 0 ≤ 32 :=
  ⟨by decide, mispredictions_le (fun context => !context 0) alternation 0 (by decide)⟩

example : mispredictions .adaptive alternation 0 = 3 := by decide +kernel

end FiveStage.Predictor
