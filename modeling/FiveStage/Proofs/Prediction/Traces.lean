import FiveStage.Prediction
import Mathlib.Data.List.Infix
import Mathlib.Data.List.Induction
import Mathlib.Data.Fintype.Pi

/-!
# What a predictor has learnt, as a function of the branches it saw

The heuristics that learn move a counter by the success of its own prediction, and the adaptive one
chooses the counter by a shift register. Here the same counters are read off the branches seen so
far, without any state: each is a number that went up with every branch that was taken and down with
every other, between zero and three, over those branches that concern it. For the bimodal heuristic
these are the branches of one bucket. For the adaptive one they are those branches of the bucket
that came after the same four outcomes as the next one will.

## Main definitions

* `withPast`: the entries of a list, each with those before it
* `Predictor.branchesIn`, `Predictor.outcomesIn`: the branches of a bucket in a trace and their
  outcomes
* `Predictor.recent`, `Predictor.outcomesAfter`: the last four outcomes, and the outcomes that came
  after the same four
* `Predictor.after`: a predictor that has seen a trace of branches

## Main results

* `Predictor.counter_after`: the counters after a trace
* `Predictor.predict_after`: the prediction of the adaptive heuristic after a trace
-/

namespace FiveStage

/-! ### Entries of a list with what came before them -/

section WithPast

variable {α : Type}

/-- The entries of a list, each with those before it. -/
def withPast (l : List α) : List (List α × α) := l.inits.zip l

@[simp]
theorem withPast_nil : withPast ([] : List α) = [] := rfl

theorem withPast_cons (a : α) (l : List α) :
    withPast (a :: l) = ([], a) :: (withPast l).map (Prod.map (a :: ·) id) := by
  simp [withPast, List.zip_map_left]

@[simp]
theorem withPast_concat (l : List α) (a : α) : withPast (l ++ [a]) = withPast l ++ [(l, a)] := by
  induction l with
  | nil => simp [withPast_cons]
  | cons b l ih => simp [withPast_cons, ih]

end WithPast

namespace Predictor

/-! ### Traces of branches -/

/-- The number of the bucket of a branch: its address in words, modulo sixteen. -/
def bucketNumber (pc : Word) : Nat := pc.toNat / 4 % 16

theorem val_bucketOf (pc : Word) : (bucketOf pc).val = bucketNumber pc := by
  simp [bucketOf, bucketNumber, Nat.shiftRight_eq_div_pow]

/-- The branches of a trace that belong to a bucket. -/
def branchesIn (trace : List (Word × Bool)) (number : Nat) : List (Word × Bool) :=
  trace.filter fun branch => bucketNumber branch.1 = number

/-- The outcomes of the branches of a trace that belong to a bucket. -/
def outcomesIn (trace : List (Word × Bool)) (number : Nat) : List Bool :=
  (branchesIn trace number).map Prod.snd

/-- A predictor that has seen a trace of branches, the first one first. -/
def after (heuristic : Heuristic) (trace : List (Word × Bool)) : Predictor :=
  trace.foldl (fun predictor branch => predictor.update branch.1 branch.2) (start heuristic)

/-- A number that follows the outcomes of branches between zero and three. -/
def saturate (count : Nat) (taken : Bool) : Nat := if taken then min (count + 1) 3 else count - 1

/-- Four outcomes, the latest one first. -/
abbrev Context := Fin 4 → Bool

/-- The last four of some outcomes; those that are missing count as not taken. -/
def recent (outcomes : List Bool) : Context := fun i => outcomes.reverse.getD i false

/-- Those outcomes that came after four given ones. -/
def outcomesAfter (outcomes : List Bool) (context : Context) : List Bool :=
  ((withPast outcomes).filter fun entry => recent entry.1 = context).map Prod.snd

section Traces

variable (trace : List (Word × Bool)) (branch : Word × Bool) (number : Nat)

@[simp]
theorem branchesIn_concat :
    branchesIn (trace ++ [branch]) number =
      branchesIn trace number ++ if bucketNumber branch.1 = number then [branch] else [] := by
  by_cases h : bucketNumber branch.1 = number <;> simp [branchesIn, h]

@[simp]
theorem outcomesIn_concat :
    outcomesIn (trace ++ [branch]) number =
      outcomesIn trace number ++ if bucketNumber branch.1 = number then [branch.2] else [] := by
  by_cases h : bucketNumber branch.1 = number <;> simp [outcomesIn, h]

@[simp]
theorem branchesIn_branchesIn :
    branchesIn (branchesIn trace number) number = branchesIn trace number := by
  simp [branchesIn]

@[simp]
theorem outcomesAfter_concat (outcomes : List Bool) (taken : Bool) (context : Context) :
    outcomesAfter (outcomes ++ [taken]) context =
      outcomesAfter outcomes context ++ if recent outcomes = context then [taken] else [] := by
  by_cases h : recent outcomes = context <;> simp [outcomesAfter, h]

@[simp]
theorem after_concat (heuristic : Heuristic) :
    after heuristic (trace ++ [branch]) = (after heuristic trace).update branch.1 branch.2 := by
  simp [after]

end Traces

end Predictor

/-! ### One bucket -/

namespace Bucket

open Predictor

/-- A bucket after one more outcome, as a heuristic learns it. -/
def learnAs : Heuristic → Bucket → Bool → Bucket
  | .alwaysTaken, bucket, _ | .alwaysNotTaken, bucket, _ => bucket
  | .bimodal, bucket, taken => { bucket with counter := bucket.counter.learn taken }
  | .adaptive, bucket, taken => bucket.learn taken

/-- A bucket that has seen some outcomes, the first one first. -/
def after (heuristic : Heuristic) (outcomes : List Bool) : Bucket :=
  outcomes.foldl (learnAs heuristic) ((start heuristic).bucket 0)

@[simp]
theorem after_concat (heuristic : Heuristic) (outcomes : List Bool) (taken : Bool) :
    after heuristic (outcomes ++ [taken]) = (after heuristic outcomes).learnAs heuristic taken := by
  simp [after]

theorem counter_after_bimodal (outcomes : List Bool) :
    (after .bimodal outcomes).counter.val = outcomes.foldl saturate 0 := by
  induction outcomes using List.reverseRecOn with
  | nil => rfl
  | append_singleton outcomes taken ih =>
    rw [after_concat, List.foldl_append, ← ih]
    exact Counter.val_learn _ taken

/-- The four outcomes that a shift register holds, the latest one in the lowest bit. -/
def context (history : BitVec 4) : Context := fun i => history.getLsbD i

theorem context_injective : Function.Injective context := by
  intro history history' h
  apply BitVec.eq_of_getLsbD_eq
  intro i hi
  exact congrFun h ⟨i, hi⟩

/-- A bucket of the adaptive heuristic agrees with the outcomes it has seen. -/
structure Follows (bucket : Bucket) (outcomes : List Bool) : Prop where
  /-- The register holds the last four. -/
  history : context bucket.history = recent outcomes
  /-- Each counter has followed the outcomes that came after its own four. -/
  patterns (history : BitVec 4) :
    bucket.patterns[history.toFin].val =
      (outcomesAfter outcomes (context history)).foldl saturate 0

namespace Follows

theorem empty : Follows {} [] where
  history := by decide
  patterns history := by simp [outcomesAfter]

variable {bucket : Bucket} {outcomes : List Bool}

theorem pattern (h : Follows bucket outcomes) :
    bucket.pattern.val = (outcomesAfter outcomes (recent outcomes)).foldl saturate 0 := by
  rw [← h.history]
  exact h.patterns bucket.history

theorem learn (h : Follows bucket outcomes) (taken : Bool) :
    Follows (bucket.learn taken) (outcomes ++ [taken]) where
  history := by
    funext i
    -- The new outcome is the lowest bit, and every other bit was one place lower.
    cases i using Fin.cases with
    | zero => simp [context, recent, Bucket.learn]
    | succ j =>
      have inside : j.val + 1 < 4 := by omega
      have inner : bucket.history.getLsbD j = outcomes.reverse[j.val]?.getD false := by
        simpa [context, recent] using congrFun h.history j.castSucc
      simp [context, recent, Bucket.learn, inside, ← inner, -BitVec.getLsbD_eq_getElem]
  patterns history := by
    have earlier := h.patterns history
    by_cases same : history = bucket.history
    · subst same
      rw [outcomesAfter_concat, if_pos h.history.symm, List.foldl_append, ← earlier]
      simp [Bucket.learn, Bucket.pattern, Counter.val_learn, saturate]
    · have apart : ¬ recent outcomes = context history := by
        rw [← h.history]
        exact fun eq => same (context_injective eq).symm
      have other : bucket.history.toNat ≠ history.toNat := fun eq =>
        same (BitVec.eq_of_toNat_eq eq.symm)
      rw [outcomesAfter_concat, if_neg apart, List.append_nil, ← earlier]
      simp [Bucket.learn, other]

end Follows

theorem follows_after (outcomes : List Bool) : Follows (after .adaptive outcomes) outcomes := by
  induction outcomes using List.reverseRecOn with
  | nil => exact Follows.empty
  | append_singleton outcomes taken ih =>
    rw [after_concat]
    exact ih.learn taken

end Bucket

/-! ### All buckets -/

namespace Predictor

@[simp]
theorem heuristic_update (predictor : Predictor) (pc : Word) (taken : Bool) :
    (predictor.update pc taken).heuristic = predictor.heuristic := by
  unfold update
  split <;> rfl

theorem bucket_modifyBucket (predictor : Predictor) (pc pc' : Word) (change : Bucket → Bucket) :
    (predictor.modifyBucket pc' change).bucket pc =
      if bucketNumber pc' = bucketNumber pc then change (predictor.bucket pc)
      else predictor.bucket pc := by
  rw [← val_bucketOf, ← val_bucketOf]
  by_cases same : (bucketOf pc').val = (bucketOf pc).val
  · rw [if_pos same]
    simp [bucket, modifyBucket, Fin.ext same]
  · simp [bucket, modifyBucket, same]

theorem bucket_update (predictor : Predictor) (pc pc' : Word) (taken : Bool) :
    (predictor.update pc' taken).bucket pc =
      if bucketNumber pc' = bucketNumber pc then
        (predictor.bucket pc).learnAs predictor.heuristic taken
      else predictor.bucket pc := by
  cases kind : predictor.heuristic <;>
    simp [update, kind, bucket_modifyBucket, Bucket.learnAs]

@[simp]
theorem heuristic_after (heuristic : Heuristic) (trace : List (Word × Bool)) :
    (after heuristic trace).heuristic = heuristic := by
  induction trace using List.reverseRecOn with
  | nil => rfl
  | append_singleton trace branch ih => simp [ih]

/-- A bucket has learnt the outcomes of its own branches and nothing else. -/
theorem bucket_after (heuristic : Heuristic) (trace : List (Word × Bool)) (pc : Word) :
    (after heuristic trace).bucket pc =
      Bucket.after heuristic (outcomesIn trace (bucketNumber pc)) := by
  induction trace using List.reverseRecOn with
  | nil => simp [bucket, after, start, outcomesIn, branchesIn, Bucket.after]
  | append_singleton trace branch ih =>
    rw [after_concat, bucket_update, outcomesIn_concat, ih, heuristic_after]
    by_cases same : bucketNumber branch.1 = bucketNumber pc <;> simp [same]

/-- Two predictors of one heuristic that agree on the bucket of a branch agree on the branch. -/
theorem predict_congr {first second : Predictor} {pc : Word}
    (kind : first.heuristic = second.heuristic) (same : first.bucket pc = second.bucket pc) :
    first.counter pc = second.counter pc ∧ first.predict pc = second.predict pc := by
  have counters : first.counter pc = second.counter pc := by simp only [counter, kind, same]
  exact ⟨counters, by simp only [predict, kind, counters]⟩

theorem bucket_branchesIn (heuristic : Heuristic) (trace : List (Word × Bool)) (pc : Word) :
    (after heuristic (branchesIn trace (bucketNumber pc))).bucket pc =
      (after heuristic trace).bucket pc := by
  rw [bucket_after, bucket_after, outcomesIn, branchesIn_branchesIn, outcomesIn]

theorem counter_after_adaptive (trace : List (Word × Bool)) (pc : Word) :
    ((after .adaptive trace).counter pc).val =
      (outcomesAfter (outcomesIn trace (bucketNumber pc))
        (recent (outcomesIn trace (bucketNumber pc)))).foldl saturate 0 := by
  simp only [counter, heuristic_after, bucket_after]
  exact (Bucket.follows_after _).pattern

/-- Whatever branches were seen, and in whatever order those of different buckets came: a counter
of the bimodal heuristic has followed the outcomes of its bucket, one of the adaptive heuristic
those outcomes of its bucket that came after the four latest ones, and what is known of a branch is
the same as if no branch of another bucket had been seen. -/
theorem counter_after (trace : List (Word × Bool)) (pc : Word) :
    let outcomes := outcomesIn trace (bucketNumber pc)
    ((after .bimodal trace).counter pc).val = outcomes.foldl saturate 0 ∧
    ((after .adaptive trace).counter pc).val =
      (outcomesAfter outcomes (recent outcomes)).foldl saturate 0 ∧
    (∀ i : Fin 4, ((after .adaptive trace).bucket pc).history.getLsbD i = recent outcomes i) ∧
    ∀ heuristic,
      ((after heuristic trace).counter pc).val ≤ 3 ∧
      ((after heuristic trace).bucket pc).history.toNat < 16 ∧
      (after heuristic trace).bucket pc =
        (after heuristic (branchesIn trace (bucketNumber pc))).bucket pc ∧
      (after heuristic trace).counter pc =
        (after heuristic (branchesIn trace (bucketNumber pc))).counter pc ∧
      (after heuristic trace).predict pc =
        (after heuristic (branchesIn trace (bucketNumber pc))).predict pc := by
  intro outcomes
  refine ⟨?bimodal, counter_after_adaptive trace pc, ?history, fun heuristic => ?any⟩
  case bimodal =>
    simp only [counter, heuristic_after, bucket_after]
    exact Bucket.counter_after_bimodal outcomes
  case history =>
    intro i
    rw [bucket_after]
    exact congrFun (Bucket.follows_after outcomes).history i
  case any =>
    have same := (bucket_branchesIn heuristic trace pc).symm
    have agree := predict_congr (by simp only [heuristic_after]) same
    exact ⟨by omega, by omega, same, agree⟩

end Predictor

end FiveStage
