import FiveStage.Log
import FiveStage.Proofs.Outcome

/-!
# Two runs side by side

Two actions run in parallel if they keep their states related: from related states they either both
give related results, or both fail alike, and leave related states again. Actions that are put
together from parallel ones are parallel.

## Main definitions

* `SameEnd`: two computations with related results or the same failure
* `EndRelated`: two runs with related results or the same failure, and with related states
* `Parallel`: actions that end so from all related states
* `Logged.Related`: states that are related but for their logs

## Main results

* `Parallel.bind`, `Parallel.discard`, `Parallel.ite`: composed actions
* `Parallel.act`, `Parallel.failingAs`: actions on a part, and failures that are worded otherwise
* `Parallel.within`: a stronger relation that holds for a while
* `EndRelated.endAlike`: what is left of this where failures leave nothing to compare
-/

namespace FiveStage

variable {ε φ σ τ Whole Whole' α β γ δ : Type}

/-- Two computations end the same way, with related results or with the same failure. -/
inductive SameEnd (results : α → β → Prop) : Except ε α → Except ε β → Prop
  | ok {a : α} {b : β} (same : results a b) : SameEnd results (.ok a) (.ok b)
  | error (e : ε) : SameEnd results (.error e) (.error e)

theorem SameEnd.refl (result : Except ε α) : SameEnd Eq result result := by
  cases result with
  | ok a => exact .ok rfl
  | error e => exact .error e

/-- Two runs end related if both have related results or both fail alike, and what they leave is
related in either case. -/
def EndRelated (results : α → β → Prop) (states : σ → τ → Prop) (first : EStateM.Result ε σ α)
    (second : EStateM.Result ε τ β) : Prop :=
  match first, second with
  | .ok a s, .ok b t => results a b ∧ states s t
  | .error e s, .error f t => e = f ∧ states s t
  | _, _ => False

/-- Related values, whatever was logged beside them. -/
def Logged.Related (values : α → β → Prop) (logged : Logged α) (twin : Logged β) : Prop :=
  values logged.value twin.value

/-- From related states the actions end related. -/
def Parallel (results : α → β → Prop) (states : σ → τ → Prop) (first : EStateM ε σ α)
    (second : EStateM ε τ β) : Prop :=
  ∀ s t, states s t → EndRelated results states (first.run s) (second.run t)

variable {results results' : α → β → Prop} {states states' : σ → τ → Prop}
  {first other : EStateM ε σ α} {second other' : EStateM ε τ β}

/-- Where the same results are asked for, runs end alike. -/
theorem EndRelated.endAlike {first : EStateM.Result ε σ α} {second : EStateM.Result ε τ α}
    (ends : EndRelated Eq states first second) : EndAlike states first second := by
  cases first <;> cases second
  · exact ends
  · exact ends.elim
  · exact ends.elim
  · exact ends.1

theorem EndRelated.mono {first : EStateM.Result ε σ α} {second : EStateM.Result ε τ β}
    (ends : EndRelated results states first second) (weaker : ∀ a b, results a b → results' a b)
    (weaker' : ∀ s t, states s t → states' s t) : EndRelated results' states' first second := by
  cases first <;> cases second
  · exact ⟨weaker _ _ ends.1, weaker' _ _ ends.2⟩
  · exact ends.elim
  · exact ends.elim
  · exact ⟨ends.1, weaker' _ _ ends.2⟩

/-- What is known of one of two runs that end related. -/
theorem EndRelated.and_ends {s : σ} {t : τ}
    (ends : EndRelated results states (first.run s) (second.run t)) {kept : σ → Prop}
    (known : Ends first s (fun _ next => kept next) fun _ next => kept next) :
    EndRelated results (fun next next' => states next next' ∧ kept next) (first.run s)
      (second.run t) := by
  unfold Ends at known
  cases run : first.run s <;> cases run' : second.run t <;> rw [run] at known <;>
    rw [run, run'] at ends
  · exact ⟨ends.1, ends.2, known⟩
  · exact ends.elim
  · exact ends.elim
  · exact ⟨ends.1, ends.2, known⟩

theorem EndRelated.act {part : Component Whole σ} {part' : Component Whole' τ}
    {wholes : Whole → Whole' → Prop} {whole : Whole} {whole' : Whole'}
    (ends : EndRelated results states (first.run (part.get whole)) (second.run (part'.get whole')))
    (put : ∀ s t, states s t → wholes (part.put s whole) (part'.put t whole')) :
    EndRelated results wholes ((part.act first).run whole) ((part'.act second).run whole') := by
  simp only [EStateM.run, Component.act] at ends ⊢
  cases run : first (part.get whole) <;> cases run' : second (part'.get whole') <;>
    rw [run, run'] at ends
  · exact ⟨ends.1, put _ _ ends.2⟩
  · exact ends.elim
  · exact ends.elim
  · exact ⟨ends.1, put _ _ ends.2⟩

theorem parallel_pure {a : α} {b : β} (same : results a b) :
    Parallel results states (pure a : EStateM ε σ α) (pure b : EStateM ε τ β) :=
  fun _ _ related => ⟨same, related⟩

theorem parallel_throw (e : ε) :
    Parallel results states (throw e : EStateM ε σ α) (throw e : EStateM ε τ β) :=
  fun _ _ related => ⟨rfl, related⟩

/-- Nothing is done behind a failure. -/
theorem parallel_throw_bind (e : ε) {rest : γ → EStateM ε σ α} {rest' : δ → EStateM ε τ β} :
    Parallel results states (throw e >>= rest) (throw e >>= rest') :=
  fun _ _ related => ⟨rfl, related⟩

theorem parallel_get : Parallel states states (get : EStateM ε σ σ) (get : EStateM ε τ τ) :=
  fun _ _ related => ⟨related, related⟩

theorem parallel_set {s : σ} {t : τ} (related : states s t) :
    Parallel Eq states (set s : EStateM ε σ Unit) (set t : EStateM ε τ Unit) :=
  fun _ _ _ => ⟨rfl, related⟩

theorem parallel_modify {change : σ → σ} {change' : τ → τ}
    (keeps : ∀ s t, states s t → states (change s) (change' t)) :
    Parallel Eq states (modify change : EStateM ε σ PUnit) (modify change') :=
  fun s t related => ⟨rfl, keeps s t related⟩

theorem parallel_settle {result : Except ε α} {result' : Except ε β}
    (same : SameEnd results result result') :
    Parallel results states (settle result) (settle result') := by
  cases same with
  | ok same => exact parallel_pure same
  | error e => exact parallel_throw e

namespace Parallel

theorem bind {rest : α → EStateM ε σ γ} {rest' : β → EStateM ε τ δ} {results' : γ → δ → Prop}
    (here : Parallel results states first second)
    (later : ∀ a b, results a b → Parallel results' states (rest a) (rest' b)) :
    Parallel results' states (first >>= rest) (second >>= rest') := by
  intro s t related
  have ends := here s t related
  simp only [EStateM.run, Bind.bind, EStateM.bind] at ends ⊢
  cases run : first s <;> cases run' : second t <;> rw [run, run'] at ends
  · exact later _ _ ends.1 _ _ ends.2
  · exact ends.elim
  · exact ends.elim
  · exact ends

/-- An action may change to a stronger relation first, for what is done behind it. -/
theorem within {inner : σ → τ → Prop} {change : σ → σ} {change' : τ → τ}
    {rest : PUnit → EStateM ε σ α} {rest' : PUnit → EStateM ε τ β}
    (enter : ∀ s t, states s t → inner (change s) (change' t))
    (here : Parallel results inner (rest ⟨⟩) (rest' ⟨⟩)) (leave : ∀ s t, inner s t → states s t) :
    Parallel results states (modify change >>= rest) (modify change' >>= rest') :=
  fun s t related => (here _ _ (enter s t related)).mono (fun _ _ same => same) leave

theorem discard (here : Parallel results states first second) :
    Parallel Eq states (discard first) (Functor.discard second) := by
  intro s t related
  have ends := here s t related
  simp only [EStateM.run, Functor.discard, Functor.mapConst, EStateM.map, Function.comp_apply]
    at ends ⊢
  cases run : first s <;> cases run' : second t <;> rw [run, run'] at ends
  · exact ⟨rfl, ends.2⟩
  · exact ends.elim
  · exact ends.elim
  · exact ends

theorem ite {condition condition' : Prop} [Decidable condition] [Decidable condition']
    (same : condition ↔ condition') (here : Parallel results states first second)
    (there : Parallel results states other other') :
    Parallel results states (if condition then first else other)
      (if condition' then second else other') := by
  by_cases holds : condition
  · rw [if_pos holds, if_pos (same.mp holds)]
    exact here
  · rw [if_neg holds, if_neg fun holds' => holds (same.mpr holds')]
    exact there

/-- Actions on a part are parallel if the parts are related where the wholes are. -/
theorem act {part : Component Whole σ} {part' : Component Whole' τ} {wholes : Whole → Whole' → Prop}
    (here : Parallel results states first second)
    (get : ∀ whole whole', wholes whole whole' → states (part.get whole) (part'.get whole'))
    (put : ∀ whole whole' s t, wholes whole whole' → states s t →
      wholes (part.put s whole) (part'.put t whole')) :
    Parallel results wholes (part.act first) (part'.act second) :=
  fun whole whole' related => EndRelated.act (here _ _ (get whole whole' related)) fun s t =>
    put whole whole' s t related

theorem failingAs {embed : ε → φ} (here : Parallel results states first second) :
    Parallel results states (failingAs embed first) (FiveStage.failingAs embed second) := by
  intro s t related
  have ends := here s t related
  simp only [EStateM.run, FiveStage.failingAs] at ends ⊢
  cases run : first s <;> cases run' : second t <;> rw [run, run'] at ends
  · exact ends
  · exact ends.elim
  · exact ends.elim
  · exact ⟨congrArg embed ends.1, ends.2⟩

end Parallel

end FiveStage
