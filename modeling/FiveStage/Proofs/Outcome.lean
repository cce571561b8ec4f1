import FiveStage.Component

/-!
# How actions end

An action either gives a result or fails, and leaves a state in both cases. `Ends` says of both
endings at once what holds of them, so that a sequence of actions is followed from its first one on:
the rules below push `Ends` through an action as it is written, down to the steps that have rules of
their own.

## Main definitions

* `Ends`: what holds of the result or of the failure of an action, and of the state it leaves
* `leftBy`: the state that an action leaves
* `succeeds`: whether an action succeeds
* `EndAlike`: two runs with the same result or the same failure

## Main results

* `ends_bind`, `ends_act`, `ends_failingAs`, `ends_settle`: the rules for composed actions
* `Ends.mono`: weaker endings
* `ok_bind`, `error_bind`, `mapError_ok`, `mapError_error`: computations whose result or failure is
  known
-/

namespace FiveStage

variable {ε φ σ τ Whole α β : Type}

/-- How an action ends that starts in a state: `ok` holds of its result and `failed` of its failure,
each with the state left behind. -/
def Ends (action : EStateM ε σ α) (state : σ) (ok : α → σ → Prop) (failed : ε → σ → Prop) : Prop :=
  match action.run state with
  | .ok a next => ok a next
  | .error e next => failed e next

variable {action : EStateM ε σ α} {state next : σ} {ok ok' : α → σ → Prop}
    {failed failed' : ε → σ → Prop}

/-- Endings may be described more weakly. -/
theorem Ends.mono (ends : Ends action state ok failed) (onOk : ∀ a next, ok a next → ok' a next)
    (onFailed : ∀ e next, failed e next → failed' e next) : Ends action state ok' failed' := by
  unfold Ends at *
  split
  · next a next run => exact onOk a next (by simpa only [run] using ends)
  · next e next run => exact onFailed e next (by simpa only [run] using ends)

/-- What an action that ended with a result left behind. -/
theorem Ends.of_ok (ends : Ends action state ok failed) {a : α}
    (run : action.run state = .ok a next) :
    ok a next := by
  simpa only [Ends, run] using ends

/-- What an action that failed left behind. -/
theorem Ends.of_error (ends : Ends action state ok failed) {e : ε}
    (run : action.run state = .error e next) : failed e next := by
  simpa only [Ends, run] using ends

/-- What is known of an action's ending in two ways is known at once. -/
theorem Ends.and (ends : Ends action state ok failed) (ends' : Ends action state ok' failed') :
    Ends action state (fun a next => ok a next ∧ ok' a next)
      fun e next => failed e next ∧ failed' e next := by
  unfold Ends at *
  split
  · next a next run => exact ⟨by simpa only [run] using ends, by simpa only [run] using ends'⟩
  · next e next run => exact ⟨by simpa only [run] using ends, by simpa only [run] using ends'⟩

/-- An action that cannot fail gives a result. -/
theorem Ends.exists_ok (ends : Ends action state ok failed) (fine : ∀ e next, ¬ failed e next) :
    ∃ a next, action.run state = .ok a next ∧ ok a next := by
  cases run : action.run state with
  | ok a next => exact ⟨a, next, rfl, ends.of_ok run⟩
  | error e next => exact absurd (ends.of_error run) (fine e next)

/-- What an action leaves, whether it fails or not. -/
def leftBy (action : EStateM ε σ α) (state : σ) : σ :=
  match action.run state with
  | .ok _ next => next
  | .error _ next => next

/-- What is left is what holds of both endings. -/
theorem Ends.leftBy {holds : σ → Prop}
    (ends : Ends action state (fun _ next => holds next) fun _ next => holds next) :
    holds (leftBy action state) := by
  unfold FiveStage.leftBy
  cases run : action.run state with
  | ok a next => exact ends.of_ok run
  | error e next => exact ends.of_error run

/-- Whether an action succeeds. -/
def succeeds (action : EStateM ε σ α) (state : σ) : Bool :=
  match action.run state with
  | .ok _ _ => true
  | .error _ _ => false

theorem run_of_succeeds (done : succeeds action state = true) :
    ∃ a, action.run state = .ok a (leftBy action state) := by
  unfold succeeds at done
  unfold leftBy
  cases run : action.run state with
  | ok a next => exact ⟨a, rfl⟩
  | error e next =>
    rw [run] at done
    cases done

/-- Every action ends somehow. -/
theorem ends_somehow (action : EStateM ε σ α) (state : σ) :
    Ends action state (fun _ _ => True) fun _ _ => True := by
  unfold Ends
  split <;> trivial

/-! ### Rules -/

@[simp] theorem ends_pure {a : α} : Ends (pure a) state ok failed ↔ ok a state := Iff.rfl

@[simp] theorem ends_get {ok : σ → σ → Prop} :
    Ends (get : EStateM ε σ σ) state ok failed ↔ ok state state := Iff.rfl

@[simp] theorem ends_set {ok : Unit → σ → Prop} :
    Ends (set next : EStateM ε σ Unit) state ok failed ↔ ok () next := Iff.rfl

@[simp] theorem ends_bind {continuation : α → EStateM ε σ β} {ok : β → σ → Prop} :
    Ends (action >>= continuation) state ok failed ↔
      Ends action state (fun a next => Ends (continuation a) next ok failed) failed := by
  simp only [Ends, EStateM.run, bind, EStateM.bind]
  cases action state <;> rfl

@[simp] theorem ends_discard {ok : Unit → σ → Prop} :
    Ends (discard action) state ok failed ↔
      Ends action state (fun _ next => ok () next) failed := by
  simp only [Ends, EStateM.run, discard, Functor.discard, Functor.mapConst, EStateM.map,
    Function.comp_apply]
  cases action state <;> rfl

@[simp] theorem ends_ite {condition : Prop} [Decidable condition] {other : EStateM ε σ α} :
    Ends (if condition then action else other) state ok failed ↔
      if condition then Ends action state ok failed else Ends other state ok failed := by
  split <;> rfl

theorem run_bind_eq_ok_iff {continuation : α → EStateM ε σ β} {b : β} :
    (action >>= continuation).run state = .ok b next ↔
      ∃ a between, action.run state = .ok a between ∧
        (continuation a).run between = .ok b next := by
  simp only [EStateM.run, bind, EStateM.bind]
  cases action state with
  | ok a between =>
    refine ⟨fun done => ⟨a, between, rfl, done⟩, ?_⟩
    rintro ⟨a, between, ⟨⟩, done⟩
    exact done
  | error e between =>
    refine ⟨nofun, ?_⟩
    rintro ⟨a, between, ⟨⟩, -⟩

theorem run_bind_of_ok {continuation : α → EStateM ε σ β} {a : α}
    (run : action.run state = .ok a next) :
    (action >>= continuation).run state = (continuation a).run next := by
  simp only [EStateM.run, bind, EStateM.bind] at run ⊢
  rw [run]

theorem run_bind_of_error {continuation : α → EStateM ε σ β} {e : ε}
    (run : action.run state = .error e next) :
    (action >>= continuation).run state = .error e next := by
  simp only [EStateM.run, bind, EStateM.bind] at run ⊢
  rw [run]

/-- An action on a part leaves the rest of the whole alone. -/
@[simp] theorem ends_act {part : Component Whole σ} {whole : Whole} {ok : α → Whole → Prop}
    {failed : ε → Whole → Prop} :
    Ends (part.act action) whole ok failed ↔
      Ends action (part.get whole) (fun a piece => ok a (part.put piece whole))
        (fun e piece => failed e (part.put piece whole)) := by
  simp only [Ends, Component.act, EStateM.run]
  cases action (part.get whole) <;> rfl

@[simp] theorem ends_failingAs {embed : ε → φ} {failed : φ → σ → Prop} :
    Ends (failingAs embed action) state ok failed ↔
      Ends action state ok (fun e next => failed (embed e) next) := by
  simp only [Ends, failingAs, EStateM.run]
  cases action state <;> rfl

@[simp] theorem ends_settle_ok {a : α} :
    Ends (settle (.ok a) : EStateM ε σ α) state ok failed ↔ ok a state := Iff.rfl

@[simp] theorem ends_settle_error {e : ε} :
    Ends (settle (.error e) : EStateM ε σ α) state ok failed ↔ failed e state := Iff.rfl

/-! ### Two runs -/

/-- Two runs end alike if both have the same result and leave related states, or both fail alike. -/
def EndAlike (related : σ → τ → Prop) (first : EStateM.Result ε σ α)
    (second : EStateM.Result ε τ α) : Prop :=
  match first, second with
  | .ok a s, .ok b t => a = b ∧ related s t
  | .error e _, .error f _ => e = f
  | _, _ => False

theorem EndAlike.bind {related related' : σ → τ → Prop} {first : EStateM ε σ α}
    {second : EStateM ε τ α} {s : σ} {t : τ} {rest : α → EStateM ε σ β} {rest' : α → EStateM ε τ β}
    (alike : EndAlike related (first.run s) (second.run t))
    (later : ∀ a s t, related s t → EndAlike related' ((rest a).run s) ((rest' a).run t)) :
    EndAlike related' ((first >>= rest).run s) ((second >>= rest').run t) := by
  simp only [EStateM.run, Bind.bind, EStateM.bind] at *
  cases run : first s <;> cases run' : second t <;> rw [run, run'] at alike
  · obtain ⟨rfl, here⟩ := alike
    exact later _ _ _ here
  · exact alike.elim
  · exact alike.elim
  · exact alike

/-! ### Computations without a state -/

@[simp] theorem ok_bind {a : α} {continuation : α → Except ε β} :
    (Except.ok a >>= continuation) = continuation a := rfl

@[simp] theorem error_bind {e : ε} {continuation : α → Except ε β} :
    ((Except.error e : Except ε α) >>= continuation) = .error e := rfl

@[simp] theorem mapError_ok {embed : ε → φ} {a : α} :
    (Except.ok a : Except ε α).mapError embed = .ok a := rfl

@[simp] theorem mapError_error {embed : ε → φ} {e : ε} :
    (Except.error e : Except ε α).mapError embed = .error (embed e) := rfl

@[simp] theorem pure_eq_ok {a : α} : (pure a : Except ε α) = .ok a := rfl

theorem bind_eq_ok_iff {result : Except ε α} {continuation : α → Except ε β} {b : β} :
    (result >>= continuation) = .ok b ↔ ∃ a, result = .ok a ∧ continuation a = .ok b := by
  cases result <;> simp

theorem mapError_eq_ok_iff {result : Except ε α} {embed : ε → φ} {a : α} :
    result.mapError embed = .ok a ↔ result = .ok a := by
  cases result <;> simp

theorem elim_eq_ok_iff {reason : Option ε} {a b : α} :
    reason.elim (Except.ok a) Except.error = .ok b ↔ reason = none ∧ a = b := by
  cases reason <;> simp

theorem elim_eq_error_iff {reason : Option ε} {a : α} {e : ε} :
    reason.elim (Except.ok a) Except.error = .error e ↔ reason = some e := by
  cases reason <;> simp

/-- Of two computations that are the same up to a part of their results, the second fails as the
first. -/
theorem eq_error_of_map_eq {first second : Except ε α} {part : α → β} {e : ε}
    (same : first.map part = second.map part) (fails : first = .error e) : second = .error e := by
  rw [fails] at same
  cases second with
  | error found => exact congrArg Except.error (Except.error.inj same).symm
  | ok b => cases same

/-- Of two computations that are the same up to a part of their results, the second succeeds as the
first. -/
theorem exists_ok_of_map_eq {first second : Except ε α} {part : α → β} {a : α}
    (same : first.map part = second.map part) (done : first = .ok a) :
    ∃ b, second = .ok b ∧ part a = part b := by
  rw [done] at same
  cases second with
  | error found => cases same
  | ok b => exact ⟨b, rfl, Except.ok.inj same⟩

/-- A result that can be checked is there. -/
theorem exists_ok_of_any {result : Except ε α} {check : α → Bool}
    (checked : result.toOption.any check = true) :
    ∃ a, result = .ok a ∧ check a = true := by
  cases result with
  | ok a => exact ⟨a, rfl, checked⟩
  | error e => cases checked

/-- Whether a computation fails in the given way. -/
def failsWith [DecidableEq ε] (e : ε) : Except ε α → Bool
  | .ok _ => false
  | .error found => found = e

theorem eq_error_of_failsWith [DecidableEq ε] {result : Except ε α} {e : ε}
    (fails : failsWith e result = true) :
    result = .error e := by
  cases result with
  | ok a => cases fails
  | error found => rw [of_decide_eq_true fails]

end FiveStage
