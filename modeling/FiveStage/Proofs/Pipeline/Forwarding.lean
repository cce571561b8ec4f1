import FiveStage.Proofs.Pipeline.Issue

/-!
# Forwarding

While the instruction in front of the third stage waits for its turn, the later stages hand their
results over to it, the youngest first. In the end it has its operands from the youngest results for
its source registers, and from the registers where there are none.

## Main definitions

* `Results`, `Results.value?`: results on their way to registers, and what they have for a register
* `Latch.supply`: a latch with operands taken from results
* `Latches.Supplied`: the latch about to execute, with the results handed over so far

## Main results

* `Latches.Supplied.deliver`: handing results over
-/

namespace FiveStage

/-- Values for registers, the youngest first. -/
abbrev Results := List (Option Nat × Word)

namespace Results

variable {results others : Results} {number : Nat}

/-- The youngest value for a register; there is none for the zero register. -/
def value? (results : Results) (number : Nat) : Option Word :=
  if number = 0 then none
  else results.findSome? fun (destination, value) =>
    if destination = some number then some value else none

@[simp] theorem value?_nil : value? [] number = none := by
  simp [value?]

@[simp] theorem value?_zero : results.value? 0 = none := rfl

theorem value?_append :
    value? (results ++ others) number = (results.value? number).or (others.value? number) := by
  unfold value?
  split
  · rfl
  · exact List.findSome?_append

theorem value?_singleton {destination : Option Nat} {value : Word} :
    value? [(destination, value)] number =
      if number ≠ 0 ∧ destination = some number then some value else none := by
  by_cases zero : number = 0
  · simp [zero]
  · simp [value?, zero]

theorem value?_cons (result : Option Nat × Word) (others : Results) (number : Nat) :
    value? (result :: others) number = (value? [result] number).or (others.value? number) := by
  rw [← value?_append, List.singleton_append]

/-- Nothing is handed over without a destination. -/
theorem value?_snoc_none {value : Word} :
    value? (results ++ [(none, value)]) number = results.value? number := by
  rw [value?_append, value?_singleton, if_neg (by simp), Option.or_none]

theorem value?_snoc_zero {value : Word} :
    value? (results ++ [(some 0, value)]) number = results.value? number := by
  rw [value?_append, value?_singleton, if_neg, Option.or_none]
  rintro ⟨nonzero, same⟩
  exact nonzero (Option.some.inj same).symm

/-- One more result is taken if there was none so far. -/
theorem value?_snoc {n : Nat} {value : Word} (nonzero : n ≠ 0) :
    value? (results ++ [(some n, value)]) number =
      (results.value? number).or (if number = n then some value else none) := by
  rw [value?_append, value?_singleton]
  by_cases same : number = n
  · subst same
    simp [nonzero]
  · simp [same, Ne.symm same]

theorem getD_value?_snoc {n : Nat} {value operand : Word} (nonzero : n ≠ 0) :
    (value? (results ++ [(some n, value)]) number).getD operand =
      if !(results.value? number).isSome && number == n then value
      else (results.value? number).getD operand := by
  rw [value?_snoc nonzero]
  cases results.value? number with
  | some found => rfl
  | none => by_cases same : number = n <;> simp [same]

theorem isSome_value?_snoc {n : Nat} {value : Word} (nonzero : n ≠ 0) :
    (value? (results ++ [(some n, value)]) number).isSome =
      ((results.value? number).isSome || (!(results.value? number).isSome && number == n)) := by
  rw [value?_snoc nonzero]
  cases results.value? number with
  | some found => rfl
  | none => by_cases same : number = n <;> simp [same]

end Results

/-- The latch with its operands taken from the results, as far as there are any for them. -/
def Latch.supply (results : Results) (latch : Latch) : Latch :=
  if latch.bubble then latch
  else
    { latch with
      operandA := (results.value? latch.sourceA).getD latch.operandA
      operandB := (results.value? latch.sourceB).getD latch.operandB }

section Supply

variable {latch : Latch} {results : Results} {number : Nat}

@[simp] theorem Latch.supply_nil : latch.supply [] = latch := by
  unfold supply
  split <;> simp

theorem Latch.supply_of_bubble (bubble : latch.bubble = true) : latch.supply results = latch := by
  rw [supply, if_pos bubble]

@[simp] theorem Latch.bubble_supply : (latch.supply results).bubble = latch.bubble := by
  unfold supply
  split <;> rfl

@[simp] theorem Latch.stall_supply : (latch.supply results).stall = latch.stall := by
  unfold supply
  split <;> rfl

@[simp] theorem Latch.reads_supply : (latch.supply results).reads number = latch.reads number := by
  unfold supply
  split <;> rfl

end Supply

namespace Latches

variable {latches : Latches} {latch : Latch} {results others : Results}

/-- Hands a result to the instruction about to execute. -/
def forwardTo (destination : Option Nat) (value : Word) (latches : Latches) : Latches :=
  match destination with
  | none => latches
  | some number => (latches.forward number value).2

/-- Hands results to the instruction about to execute, one after the other. -/
def deliver (results : Results) (latches : Latches) : Latches :=
  results.foldl (fun latches (destination, value) => latches.forwardTo destination value) latches

/-- Nothing but the instruction about to execute and the record of its operands is different. -/
structure OnlyExecute (latches next : Latches) : Prop where
  committed : next.committed = latches.committed
  decode : next.staged.decode = latches.staged.decode
  memory : next.staged.memory = latches.staged.memory
  writeback : next.staged.writeback = latches.staged.writeback

theorem OnlyExecute.refl : latches.OnlyExecute latches := ⟨rfl, rfl, rfl, rfl⟩

theorem OnlyExecute.trans {next last : Latches} (first : latches.OnlyExecute next)
    (second : next.OnlyExecute last) :
    latches.OnlyExecute last :=
  ⟨second.committed.trans first.committed, second.decode.trans first.decode,
    second.memory.trans first.memory, second.writeback.trans first.writeback⟩

theorem onlyExecute_forwardTo (latches : Latches) (destination : Option Nat) (value : Word) :
    latches.OnlyExecute (latches.forwardTo destination value) := by
  unfold forwardTo
  split
  · exact .refl
  · unfold forward
    dsimp only
    split <;> exact ⟨rfl, rfl, rfl, rfl⟩

theorem onlyExecute_deliver (latches : Latches) (results : Results) :
    latches.OnlyExecute (latches.deliver results) := by
  induction results generalizing latches with
  | nil => exact .refl
  | cons result rest ih => exact (onlyExecute_forwardTo latches result.1 result.2).trans (ih _)

/-- The instruction about to execute is the given one, with the given results handed over so far. -/
structure Supplied (latches : Latches) (latch : Latch) (results : Results) : Prop where
  execute : latches.staged.execute = latch.supply results
  forwardedA : latch.bubble = false → latches.forwardedA = (results.value? latch.sourceA).isSome
  forwardedB : latch.bubble = false → latches.forwardedB = (results.value? latch.sourceB).isSome

theorem Supplied.congr (supplied : latches.Supplied latch results)
    (same : ∀ number, others.value? number = results.value? number) :
    latches.Supplied latch others := by
  constructor
  · simpa only [Latch.supply, same] using supplied.execute
  · simpa only [same] using supplied.forwardedA
  · simpa only [same] using supplied.forwardedB

/-- Nothing can be handed over to an empty place. -/
theorem Supplied.of_bubble (bubble : latch.bubble = true)
    (execute : latches.staged.execute = latch) :
    latches.Supplied latch results := by
  constructor
  · rw [execute, Latch.supply_of_bubble bubble]
  · exact fun live => by cases bubble.symm.trans live
  · exact fun live => by cases bubble.symm.trans live

theorem Supplied.forwardTo (supplied : latches.Supplied latch results) (destination : Option Nat)
    (value : Word) :
    (latches.forwardTo destination value).Supplied latch (results ++ [(destination, value)]) := by
  cases destination with
  | none => exact supplied.congr fun _ => Results.value?_snoc_none
  | some number =>
    by_cases zero : number = 0
    · subst zero
      have idle : latches.forwardTo (some 0) value = latches := by simp [Latches.forwardTo, forward]
      rw [idle]
      exact supplied.congr fun _ => Results.value?_snoc_zero
    · cases bubble : latch.bubble with
      | true =>
        have idle : latches.forwardTo (some number) value = latches := by
          simp [Latches.forwardTo, forward, supplied.execute, bubble]
        rw [idle]
        exact .of_bubble bubble (supplied.execute.trans (Latch.supply_of_bubble bubble))
      | false =>
        have live : ¬ latch.bubble = true := by simp [bubble]
        have execute := supplied.execute
        rw [Latch.supply, if_neg live] at execute
        have free : ¬ (number = 0 ∨ latch.bubble = true) := by simp [zero, bubble]
        have forwardedA := supplied.forwardedA bubble
        have forwardedB := supplied.forwardedB bubble
        constructor
        -- an operand takes the result if none has come for it before
        · simp only [Latches.forwardTo, forward, if_neg free, Latch.supply, if_neg live, execute,
            forwardedA, forwardedB, Results.getD_value?_snoc zero]
        · intro _
          simp only [Latches.forwardTo, forward, execute, if_neg free, forwardedA,
            Results.isSome_value?_snoc zero]
        · intro _
          simp only [Latches.forwardTo, forward, execute, if_neg free, forwardedB,
            Results.isSome_value?_snoc zero]

theorem Supplied.deliver (supplied : latches.Supplied latch results) (others : Results) :
    (latches.deliver others).Supplied latch (results ++ others) := by
  induction others generalizing latches results with
  | nil => simpa [Latches.deliver] using supplied
  | cons result rest ih =>
    have step := ih (supplied.forwardTo result.1 result.2)
    rwa [List.append_assoc] at step

end Latches

end FiveStage
