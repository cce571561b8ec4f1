import FiveStage.Proofs.Cache.Failures

/-!
# What a cache does to its lines

Whatever the storage below answers, a cache changes its lines in a few ways only. It uses a line
that holds the block of a request, stores bytes there, gives up the oldest line of a full set, and
brings a missing block into a line that holds nothing. What happens while requests are served,
failing ones included, is a sequence of such steps, and which lines are used in it can be told from
where blocks are found before and after. A block that is lost on the way was in the victim of a full
set, and had to give way for the block of the request or for the one that the policy wanted besides.

## Main definitions

* `Cache.Step`, `Cache.Steps`: the steps of a cache, with the lines they use
* `Cache.Displaces`: the victim of a full set is all that gives way for a block
* `Cache.Leaves`: what holds of the cache that an action leaves, whether it fails or not
* `Cache.filled`, `Cache.used`: the line that got a block, and the line that served a request
* `Cache.halfway?`: what is there between serving a request and bringing in another block
* `Cache.touches`, `Cache.history`: the lines that requests use, in order

## Main results

* `Cache.serve_handles`: what is used and what gives way in the two halves of a request
* `Cache.after_steps`: serving requests is a sequence of steps that use the lines of the history
-/

namespace FiveStage

namespace Cache

variable {σ S : Type} {cache next last : Cache σ} {lower : Storage S} {state : ServiceState σ S}
  {request : Request} {index address : Nat}

/-! ### Steps -/

/-- The lines are as they were. -/
structure SameLines (before after : Cache σ) : Prop where
  geometry : after.geometry = before.geometry
  policy : after.policy = before.policy
  lines : after.lines = before.lines

/-- One step of a cache, and the line it uses if it uses one. -/
inductive Step : Cache σ → List Nat → Cache σ → Prop
  | idle {cache next : Cache σ} (same : cache.SameLines next) : Step cache [] next
  | hit {cache : Cache σ} {address index : Nat} (found : cache.lookup address = some index) :
    Step cache [index] (cache.touch index)
  | store {cache : Cache σ} {index : Nat} (valid : (cache.line index).valid = true)
    (change : Bytes → Bytes) :
    Step cache [] (cache.modifyLine index fun l =>
      { l with data := change l.data, dirty := !cache.geometry.writeThrough })
  | giveUp {cache : Cache σ} {set : Nat} (below : set < cache.sets)
    (full : cache.vacant? set = none) :
    Step cache [] (cache.modifyLine (cache.victim set) fun l =>
      { l with valid := false, dirty := false })
  | fill {cache : Cache σ} {index address : Nat} (data : Bytes)
    (place : cache.setOfLine index = cache.setOf address)
    (vacant : (cache.line index).valid = false) (absent : cache.lookup address = none) :
    Step cache [index] ((cache.modifyLine index fun l =>
      { l with data, tag := cache.tagOf address, valid := true, dirty := false }).touch index)

/-- Steps one after the other, and the lines they use. -/
inductive Steps : Cache σ → List Nat → Cache σ → Prop
  | refl (cache : Cache σ) : Steps cache [] cache
  | head {cache next last : Cache σ} {first rest : List Nat} (step : Step cache first next)
    (steps : Steps next rest last) : Steps cache (first ++ rest) last

theorem Step.steps {used : List Nat} (step : Step cache used next) : Steps cache used next := by
  simpa using Steps.head step (.refl next)

theorem Steps.trans {first second : List Nat} (steps : Steps cache first next)
    (later : Steps next second last) : Steps cache (first ++ second) last := by
  induction steps with
  | refl => exact later
  | head step _ ih =>
    rw [List.append_assoc]
    exact .head step (ih later)

theorem Steps.idle {used : List Nat} (steps : Steps cache used next)
    (same : next.SameLines last) : Steps cache used last := by
  simpa using steps.trans (Step.idle same).steps

/-- A cache keeps its shape. -/
theorem Step.shape {used : List Nat} (step : Step cache used next) :
    next.geometry = cache.geometry ∧ next.lines.size = cache.lines.size := by
  cases step with
  | idle same => exact ⟨same.geometry, congrArg Array.size same.lines⟩
  | hit found => exact ⟨rfl, size_lines_touch ..⟩
  | store valid change => exact ⟨rfl, size_lines_modifyLine ..⟩
  | giveUp below full => exact ⟨rfl, size_lines_modifyLine ..⟩
  | fill data place vacant absent =>
    exact ⟨rfl, (size_lines_touch ..).trans (size_lines_modifyLine ..)⟩

theorem Steps.shape {used : List Nat} (steps : Steps cache used next) :
    next.geometry = cache.geometry ∧ next.lines.size = cache.lines.size := by
  induction steps with
  | refl => exact ⟨rfl, rfl⟩
  | head step _ ih => exact ⟨ih.1.trans step.shape.1, ih.2.trans step.shape.2⟩

theorem Arranged.congr (arranged : cache.Arranged) (geometry : next.geometry = cache.geometry)
    (size : next.lines.size = cache.lines.size) : next.Arranged := by
  have sets := sets_congr geometry size
  have ways : next.ways = cache.ways := by rw [Cache.ways, Cache.ways, size, sets]
  exact ⟨sets ▸ arranged.sets_pos, ways ▸ arranged.ways_pos, by
    rw [size, sets, ways, arranged.size_eq]⟩

theorem Steps.arranged {used : List Nat} (steps : Steps cache used next)
    (arranged : cache.Arranged) : next.Arranged :=
  arranged.congr steps.shape.1 steps.shape.2

/-! ### Where blocks are found -/

/-- The line in which a block is found that was not found before. -/
def filled (before after : Cache σ) (address : Nat) : List Nat :=
  match before.lookup address with
  | some _ => []
  | none => (after.lookup address).toList

/-- The line that served a request: the one in which the block was found, or the one that was filled
with it. -/
def used (before after : Cache σ) (address : Nat) : List Nat :=
  (before.lookup address).toList ++ before.filled after address

namespace SameLines

theorem line_eq (same : cache.SameLines next) : next.line = cache.line := by
  funext i
  rw [line, line, same.lines]

theorem blocks (same : cache.SameLines next) : cache.SameBlocks next := by
  refine ⟨same.geometry, congrArg Array.size same.lines, same.policy, fun i _ => ?_⟩
  rw [same.line_eq]
  exact ⟨rfl, rfl, rfl, rfl⟩

theorem linesOf_eq (same : cache.SameLines next) : next.linesOf = cache.linesOf := by
  funext set
  rw [linesOf, linesOf, same.blocks.ways]

theorem lookup_eq (same : cache.SameLines next) : next.lookup address = cache.lookup address := by
  simp only [lookup, same.linesOf_eq, setOf, tagOf, same.blocks.sets, same.line_eq]

theorem used_eq (same : cache.SameLines next) :
    next.used last address = cache.used last address := by
  simp only [used, filled, same.lookup_eq]

theorem vacant?_eq (same : cache.SameLines next) : next.vacant? = cache.vacant? := by
  funext set
  simp only [vacant?, same.linesOf_eq, same.line_eq]

theorem victim_eq (same : cache.SameLines next) : next.victim = cache.victim := by
  funext set
  rw [victim, same.linesOf_eq, same.blocks.ways, same.line_eq, victim]

end SameLines

theorem sameLines_count (cache : Cache σ) (change : Statistics → Statistics) :
    cache.SameLines (cache.count change) := ⟨rfl, rfl, rfl⟩

theorem used_of_found (found : cache.lookup address = some index) :
    cache.used next address = [index] := by
  simp only [used, filled, found, Option.toList_some, List.append_nil]

theorem used_of_absent (absent : cache.lookup address = none) :
    cache.used next address = cache.filled next address := by
  simp only [used, absent, Option.toList_none, List.nil_append]

theorem filled_of_absent (absent : cache.lookup address = none) :
    cache.filled next address = (next.lookup address).toList := by
  simp only [filled, absent]

/-- A filled line is the one in which the block is found. -/
theorem lookup_fill (arranged : cache.Arranged) (data : Bytes)
    (place : cache.setOfLine index = cache.setOf address) (absent : cache.lookup address = none) :
    ((cache.modifyLine index fun l =>
      { l with data, tag := cache.tagOf address, valid := true, dirty := false }).touch
        index).lookup address = some index := by
  generalize modified_eq : cache.modifyLine index _ = modified
  have touched := SameBlocks.touch modified index
  have arranged' : (modified.touch index).Arranged := by
    rw [← modified_eq] at touched ⊢
    exact touched.arranged (arranged.modifyLine index _)
  have held_iff (i : Nat) : (modified.touch index).HoldsAt i (address / blockSize) ↔
      i = index ∨ i ≠ index ∧ cache.HoldsAt i (address / blockSize) := by
    rw [touched.holdsAt_iff, ← modified_eq, holdsAt_fill arranged data place]
    simp
  cases found : (modified.touch index).lookup address with
  | none => exact absurd ((held_iff index).mpr (.inl rfl)) (arranged'.lookup_eq_none_iff.mp found _)
  | some other =>
    rcases (held_iff other).mp (arranged'.holdsAt_of_lookup found) with same | ⟨-, held⟩
    · rw [same]
    · exact absurd held (arranged.lookup_eq_none_iff.mp absent other)

/-! ### What gives way -/

/-- A line that loses its block was the victim of a full set, which had to take the block of an
address. No line loses its block if that one was there already, or if none was looked for. -/
def Displaces (address? : Option Nat) (before after : Cache σ) : Prop :=
  ∀ i n, before.HoldsAt i n → ¬ after.HoldsAt i n →
    ∃ address, address? = some address ∧ before.lookup address = none ∧
      before.vacant? (before.setOf address) = none ∧ i = before.victim (before.setOf address)

theorem displaces_of_held {address? : Option Nat}
    (held : ∀ i n, cache.HoldsAt i n → next.HoldsAt i n) : Displaces address? cache next :=
  fun i n before gone => absurd (held i n before) gone

/-- Between two states of a cache these lines were used, and only a victim gave way to the block
that was looked for, if there was one. -/
structure Handles (address? : Option Nat) (used : List Nat) (before after : Cache σ) : Prop where
  steps : Steps before used after
  displaces : Displaces address? before after

theorem Handles.refl (address? : Option Nat) (cache : Cache σ) : Handles address? [] cache cache :=
  ⟨.refl cache, displaces_of_held fun _ _ held => held⟩

theorem Handles.idle {address? : Option Nat} {used : List Nat}
    (handles : Handles address? used cache next) (same : next.SameLines last) :
    Handles address? used cache last := by
  refine ⟨handles.steps.idle same, fun i n held gone => ?_⟩
  rw [same.blocks.holdsAt_iff] at gone
  exact handles.displaces i n held gone

theorem Handles.after {address? : Option Nat} {used : List Nat} (same : cache.SameLines next)
    (handles : Handles address? used next last) : Handles address? used cache last := by
  refine ⟨by simpa using (Step.idle same).steps.trans handles.steps, fun i n held gone => ?_⟩
  rw [← same.blocks.holdsAt_iff] at held
  simpa only [same.lookup_eq, same.vacant?_eq, same.victim_eq, setOf, same.blocks.sets] using
    handles.displaces i n held gone

/-- A block that was not found has been looked for below, and the line is used in which it is found
now. -/
def Brought (address : Nat) (before after : Cache σ) : Prop :=
  Handles (some address) (before.filled after address) before after

theorem Brought.idle (brought : Brought address cache next) (same : next.SameLines last) :
    Brought address cache last := by
  unfold Brought filled at *
  rw [same.lookup_eq]
  exact Handles.idle brought same

theorem Brought.after (same : cache.SameLines next) (brought : Brought address next last) :
    Brought address cache last := by
  unfold Brought filled at *
  rw [same.lookup_eq] at brought
  exact Handles.after same brought

theorem brought_of_sameLines (absent : cache.lookup address = none)
    (same : cache.SameLines next) : Brought address cache next := by
  rw [Brought, filled_of_absent absent, same.lookup_eq, absent]
  exact (Handles.refl _ cache).idle same

/-! ### The steps of a request -/

/-- What holds of the cache that an action leaves, whether it fails or not. -/
def Leaves {α : Type} (action : Service σ S α) (state : ServiceState σ S)
    (holds : Cache σ → Prop) : Prop :=
  Ends action state (fun _ next => holds next.cache) fun _ next => holds next.cache

/-- The state that an action leaves, whether it fails or not. -/
def stateAfter {α : Type} (action : Service σ S α) (state : ServiceState σ S) : ServiceState σ S :=
  match action.run state with
  | .ok _ next => next
  | .error _ next => next

theorem Leaves.stateAfter {α : Type} {action : Service σ S α} {holds : Cache σ → Prop}
    (leaves : Leaves action state holds) : holds (stateAfter action state).cache := by
  unfold Leaves Ends at leaves
  unfold Cache.stateAfter
  split <;> rename_i run <;> rwa [run] at leaves

theorem Leaves.mono {α : Type} {action : Service σ S α} {holds holds' : Cache σ → Prop}
    (leaves : Leaves action state holds) (weaker : ∀ next, holds next → holds' next) :
    Leaves action state holds' :=
  Ends.mono leaves (fun _ _ => weaker _) fun _ _ => weaker _

@[simp] theorem ends_ask {ok : Reply → ServiceState σ S → Prop}
    {failed : MemoryFault → ServiceState σ S → Prop} :
    Ends (ask lower request) state ok failed ↔
      ok (lower request state.below).1 { state with
        below := (lower request state.below).2
        journal := state.journal ++ (lower request state.below).1.journal.map Event.deeper } :=
  Iff.rfl

/-- Making room in a set brings no block in, and takes one out of the victim at most. -/
structure Cleared (set : Nat) (before after : Cache σ) : Prop where
  steps : Steps before [] after
  holds : ∀ i n, after.HoldsAt i n → before.HoldsAt i n
  displaced : ∀ i n, before.HoldsAt i n → ¬ after.HoldsAt i n →
    before.vacant? set = none ∧ i = before.victim set

theorem Cleared.lookup_eq_none {set : Nat} (cleared : Cleared set cache next)
    (arranged : cache.Arranged) (absent : cache.lookup address = none) :
    next.lookup address = none := by
  rw [(cleared.steps.arranged arranged).lookup_eq_none_iff]
  exact fun i held => arranged.lookup_eq_none_iff.mp absent i (cleared.holds i _ held)

theorem makeRoom_steps (arranged : state.cache.Arranged) {set : Nat}
    (below : set < state.cache.sets) :
    Ends (makeRoom lower set) state
      (fun index next => Cleared set state.cache next.cache ∧ next.cache.setOfLine index = set ∧
        (next.cache.line index).valid = false)
      (fun _ next => Cleared set state.cache next.cache) := by
  simp only [makeRoom, ends_bind, ends_current]
  cases found : state.cache.vacant? set with
  | some index =>
    have member := arranged.mem_linesOf_iff.mp (List.mem_of_find?_eq_some found)
    have vacant := List.find?_some found
    have cleared : Cleared set state.cache state.cache :=
      ⟨.refl _, fun _ _ held => held, fun _ _ held gone => absurd held gone⟩
    exact ⟨cleared, member, by simpa using vacant⟩
  | none =>
    obtain ⟨place, held⟩ := victim_holds arranged below found
    have gone := (Step.giveUp below found).steps
    generalize victim_eq : state.cache.victim set = index at place held gone ⊢
    generalize dropped_eq : state.cache.modifyLine index _ = dropped at gone ⊢
    have held_iff (i n : Nat) : dropped.HoldsAt i n ↔ i ≠ index ∧ state.cache.HoldsAt i n :=
      dropped_eq ▸ holdsAt_giveUp
    have cleared : Cleared set state.cache dropped := by
      refine ⟨gone, fun i n held' => ((held_iff i n).mp held').2, fun i n held' lost => ⟨found, ?_⟩⟩
      rw [victim_eq]
      exact Decidable.byContradiction fun away => lost ((held_iff i n).mpr ⟨away, held'⟩)
    have place' : dropped.setOfLine index = set := by
      rw [← dropped_eq, setOfLine_modifyLine, place]
    have vacant : (dropped.line index).valid = false := by
      rw [← dropped_eq, line_modifyLine_self held.1]
    have counted (change : Statistics → Statistics) :
        Cleared set state.cache (dropped.count change) ∧
          (dropped.count change).setOfLine index = set ∧
            ((dropped.count change).line index).valid = false :=
      ⟨⟨cleared.steps.idle (sameLines_count ..), cleared.holds, cleared.displaced⟩, place', vacant⟩
    subst dropped_eq
    simp only [ends_bind, ends_update]
    split
    · simp only [ends_bind, ends_ask, ends_discard, ends_note, ends_update, ends_pure]
      exact ends_spent (fun _ _ => counted _) fun _ _ => cleared
    · simp only [ends_bind, ends_update, ends_pure]
      exact counted _

/-- A block that comes in uses the line it comes into, where there was none. A failure changes
nothing. -/
theorem fill_steps (arranged : state.cache.Arranged)
    (place : state.cache.setOfLine index = state.cache.setOf address)
    (vacant : (state.cache.line index).valid = false) (absent : state.cache.lookup address = none) :
    Ends (fill lower index address) state
      (fun _ next => Steps state.cache [index] next.cache ∧
        next.cache.lookup address = some index ∧
          ∀ i n, state.cache.HoldsAt i n → next.cache.HoldsAt i n)
      (fun _ next => next.cache = state.cache) := by
  simp only [fill, ends_bind, ends_ask]
  refine ends_spent (fun _ _ => ?_) fun _ _ => rfl
  simp only [ends_update, ends_pure]
  refine ⟨(Step.fill _ place vacant absent).steps, lookup_fill arranged _ place absent,
    fun i n held => ?_⟩
  have other : i ≠ index := by
    rintro rfl
    cases vacant.symm.trans held.2.1
  exact (SameBlocks.touch _ index).holdsAt_iff.mpr ((holdsAt_modifyLine_of_ne other).mpr held)

theorem brought_of_cleared (arranged : cache.Arranged) (absent : cache.lookup address = none)
    (cleared : Cleared (cache.setOf address) cache next) : Brought address cache next := by
  rw [Brought, filled_of_absent absent, cleared.lookup_eq_none arranged absent]
  refine ⟨cleared.steps, fun i n held gone => ⟨address, rfl, absent, ?_⟩⟩
  exact cleared.displaced i n held gone

/-- Into the room that was made the block comes, unless the storage below fails. -/
theorem fill_brings (lower : Storage S) (arranged : cache.Arranged)
    (absent : cache.lookup address = none)
    (cleared : Cleared (cache.setOf address) cache state.cache)
    (place : state.cache.setOfLine index = cache.setOf address)
    (vacant : (state.cache.line index).valid = false) :
    Leaves (fill lower index address) state (Brought address cache) := by
  have setOf_eq : state.cache.setOf address = cache.setOf address :=
    setOf_congr (sets_congr cleared.steps.shape.1 cleared.steps.shape.2)
  have absent' := cleared.lookup_eq_none arranged absent
  refine (fill_steps (cleared.steps.arranged arranged) (place.trans setOf_eq.symm) vacant
    absent').mono (fun _ next filled => ?_) fun _ next same => ?_
  · obtain ⟨steps, found, kept⟩ := filled
    rw [Brought, filled_of_absent absent, found]
    refine ⟨cleared.steps.trans steps, fun i n held gone => ⟨address, rfl, absent, ?_⟩⟩
    exact cleared.displaced i n held fun held' => gone (kept i n held')
  · rw [same]
    exact brought_of_cleared arranged absent cleared

theorem prefetchBlock_steps (lower : Storage S) (address : Nat) (arranged : state.cache.Arranged) :
    Leaves (prefetchBlock lower address) state (Brought address state.cache) := by
  simp only [Leaves, prefetchBlock, ends_bind, ends_current]
  cases found : state.cache.lookup address with
  | some i =>
    have unused : Brought address state.cache state.cache := by
      unfold Brought filled
      rw [found]
      exact .refl _ _
    simpa [contains, found] using unused
  | none =>
    have set_lt := arranged.setOf_lt address
    simp only [contains, found, Option.isSome_none, Bool.false_eq_true, if_false, ends_bind]
    refine (makeRoom_steps arranged set_lt).mono (fun index room made => ?_) fun _ room cleared =>
      brought_of_cleared arranged found cleared
    obtain ⟨cleared, place, vacant⟩ := made
    simp only [ends_discard, ends_update]
    exact Ends.mono (fill_brings lower arranged found cleared place vacant)
      (fun _ _ brought => brought.idle (sameLines_count ..)) fun _ _ brought => brought

/-- Bytes are stored where the block is. -/
theorem holdsAt_store {data : Line → Bytes} {dirty : Bool} {i n : Nat} :
    (cache.modifyLine index fun l => { l with data := data l, dirty }).HoldsAt i n ↔
      cache.HoldsAt i n := by
  by_cases same : i = index
  · subst same
    exact holdsAt_modifyLine_self
  · exact holdsAt_modifyLine_of_ne same

/-- A hit uses the line of the block, whether the write is passed on or not. -/
theorem serveHit_steps (arranged : state.cache.Arranged)
    (found : state.cache.lookup request.address = some index) :
    Leaves (serveHit lower index request) state
      (Handles (some request.address) [index] state.cache) := by
  obtain ⟨inside, valid, -⟩ := arranged.holdsAt_of_lookup found
  simp only [Leaves, serveHit, countTime, ends_bind, ends_current, ends_update]
  generalize counted_eq : state.cache.count _ = counted
  have counts : state.cache.SameLines counted := counted_eq ▸ sameLines_count ..
  have found' : counted.lookup request.address = some index := counts.lookup_eq.trans found
  have touched := counts.blocks.trans (SameBlocks.touch counted index)
  have used : Handles (some request.address) [index] state.cache (counted.touch index) :=
    .after counts ⟨(Step.hit found').steps,
      displaces_of_held fun _ _ held => (SameBlocks.touch counted index).holdsAt_iff.mpr held⟩
  cases request with
  | read address length =>
    simp only [ends_bind, ends_deliver, ends_pure]
    exact used
  | write address bytes =>
    have valid' : ((counted.touch index).line index).valid = true :=
      (touched.line index inside).2.2.1.trans valid
    have store := (Step.store valid' fun data => data.overwrite (blockOffset address) bytes).steps
    have stored : Handles (some address) [index] state.cache _ :=
      ⟨used.steps.trans store, displaces_of_held fun _ _ held =>
        holdsAt_store.mpr (touched.holdsAt_iff.mpr held)⟩
    rw [touched.geometry] at stored
    simp only [ends_bind, ends_update]
    split
    · simp only [ends_bind, ends_ask, countForwarded, ends_update, ends_pure]
      exact ends_spent (fun _ _ => stored.idle (sameLines_count ..)) fun _ _ => stored
    · exact stored

/-- A request that is passed on leaves the lines alone. -/
theorem passOn_sameLines (lower : Storage S) (request : Request) (state : ServiceState σ S) :
    Leaves (passOn lower request) state state.cache.SameLines := by
  have failed : state.cache.SameLines state.cache := ⟨rfl, rfl, rfl⟩
  have counted := sameLines_count state.cache fun s => { s with forwarded := s.forwarded + 1 }
  simp only [Leaves, passOn, ends_bind, ends_ask, countForwarded]
  split
  · simp only [ends_bind, ends_deliver, ends_update, ends_pure]
    exact ends_spent (fun _ _ => counted) fun _ _ => failed
  · simp only [ends_bind, ends_update, ends_pure]
    exact ends_spent (fun _ _ => counted) fun _ _ => failed

theorem allocate_steps (arranged : state.cache.Arranged)
    (absent : state.cache.lookup request.address = none) :
    Leaves (allocate lower request) state (Brought request.address state.cache) := by
  have set_lt := arranged.setOf_lt request.address
  simp only [Leaves, allocate, countTime, countForwarded, ends_bind, ends_current]
  refine (makeRoom_steps arranged set_lt).mono (fun index room made => ?_) fun _ room cleared =>
    brought_of_cleared arranged absent cleared
  obtain ⟨cleared, place, vacant⟩ := made
  cases request with
  | read address length =>
    simp only [ends_pure, ends_bind, ends_update, ends_current, ends_deliver, ends_note]
    exact Ends.mono (fill_brings lower arranged absent cleared place vacant)
      (fun _ _ brought => brought.idle ⟨rfl, rfl, rfl⟩) fun _ _ brought => brought
  | write address bytes =>
    simp only [ends_pure, ends_bind, ends_ask, ends_update, ends_note]
    refine ends_spent (fun _ _ => ?_) fun _ _ => brought_of_cleared arranged absent cleared
    refine Ends.mono (fill_brings lower arranged absent ?_ ?_ ?_)
      (fun _ _ brought => brought.idle ⟨rfl, rfl, rfl⟩) fun _ _ brought => brought
    · exact cleared
    · exact place
    · exact vacant

theorem serveMiss_steps (arranged : state.cache.Arranged)
    (absent : state.cache.lookup request.address = none) :
    Leaves (serveMiss lower request) state (Brought request.address state.cache) := by
  simp only [Leaves, serveMiss, ends_bind, ends_current, ends_ite]
  split
  · exact (passOn_sameLines ..).mono fun _ same => brought_of_sameLines absent same
  · exact allocate_steps arranged absent

/-- Whether it hits or misses, a request uses the line that serves it. -/
theorem serveLookedUp_steps (lower : Storage S) (request : Request)
    (arranged : state.cache.Arranged) :
    Leaves (serveLookedUp lower request) state fun next =>
      Handles (some request.address) (state.cache.used next request.address) state.cache next := by
  simp only [Leaves, serveLookedUp, ends_bind, ends_current]
  cases found : state.cache.lookup request.address with
  | some index =>
    simp only [used_of_found found]
    exact serveHit_steps arranged found
  | none =>
    simp only [used_of_absent found, ends_bind, ends_update]
    generalize counted_eq : state.cache.count _ = counted
    have counts : state.cache.SameLines counted := counted_eq ▸ sameLines_count ..
    have brings : Leaves (serveMiss lower request) { state with cache := counted }
        (Brought request.address counted) :=
      serveMiss_steps (counts.blocks.arranged arranged) (counts.lookup_eq.trans found)
    exact brings.mono fun _ brought => brought.after counts

/-! ### The course of a request -/

/-- Whether the policy sends a request past the cache. -/
def bypasses (cache : Cache σ) (request : Request) : Bool :=
  (cache.policy.bypass request.address request.kind cache.memo).1

/-- The block that the policy wants besides, after a request was served. -/
def wanted? (cache : Cache σ) (request : Request) (access : Access) : Option Nat :=
  (cache.policy.prefetch request.address access.hit cache.memo).1

/-- The state in which the policy has been asked whether a request goes past the cache. -/
def admitted (request : Request) (state : ServiceState σ S) : ServiceState σ S :=
  let counted := state.cache.count fun s => { s with accesses := s.accesses + 1 }
  let memo := (counted.policy.bypass request.address request.kind counted.memo).2
  { state with
    cache := { counted with memo }
    journal := state.journal ++ [⟨0, .bypassAsked request.address request.kind⟩] }

/-- The state in which the policy has been told the set that is looked up. -/
def announced (address : Nat) (state : ServiceState σ S) : ServiceState σ S :=
  let set := state.cache.setOf address
  { state with
    cache := { state.cache with memo := state.cache.policy.announce set state.cache.memo }
    journal := state.journal ++ [⟨0, .setAnnounced set⟩] }

/-- The course of a request after it was served. -/
def followUp (lower : Storage S) (request : Request) (access : Access) : Service σ S Access := do
  if let some wanted ← consultPrefetch request.address access.hit then
    prefetchBlock lower wanted
  return access

theorem attend_run : (attend lower request).run state =
    if state.cache.bypasses request then (passOn lower request).run (admitted request state)
    else (serveLookedUp lower request >>= followUp lower request).run
      (announced request.address (admitted request state)) := by
  have decided : (attend lower request).run state =
      (if state.cache.bypasses request then passOn lower request
        else do
          announceSet request.address
          let access ← serveLookedUp lower request
          followUp lower request access).run (admitted request state) := rfl
  rw [decided]
  split <;> rfl

theorem ends_attend {ok : Access → ServiceState σ S → Prop}
    {failed : MemoryFault → ServiceState σ S → Prop} :
    Ends (attend lower request) state ok failed ↔
      if state.cache.bypasses request then
        Ends (passOn lower request) (admitted request state) ok failed
      else
        Ends (serveLookedUp lower request >>= followUp lower request)
          (announced request.address (admitted request state)) ok failed := by
  rw [Ends, attend_run]
  cases state.cache.bypasses request <;> rfl

theorem followUp_steps (lower : Storage S) (request : Request) (access : Access)
    (arranged : state.cache.Arranged) :
    let wanted? := state.cache.wanted? request access
    Leaves (followUp lower request access) state fun next =>
      Handles wanted? (wanted?.elim [] (state.cache.filled next)) state.cache next := by
  intro wanted?
  simp only [Leaves, followUp, consultPrefetch, ends_bind, ends_current, ends_update, ends_note,
    ends_pure]
  generalize asked_eq : Cache.mk _ _ _ _ _ _ _ = asked
  have asks : state.cache.SameLines asked := asked_eq ▸ ⟨rfl, rfl, rfl⟩
  have wants : (state.cache.policy.prefetch request.address access.hit state.cache.memo).1 =
    wanted? := rfl
  rw [wants]
  cases wanted? with
  | none => exact (Handles.refl none state.cache).idle asks
  | some wanted =>
    have brings : Leaves (prefetchBlock lower wanted)
        { state with
          cache := asked
          journal := state.journal ++ [⟨0, .prefetchAsked request.address access.hit⟩] }
        (Brought wanted asked) :=
      prefetchBlock_steps lower wanted (asks.blocks.arranged arranged)
    simp only [ends_bind, ends_pure]
    exact brings.mono fun _ brought => brought.after asks

/-- The cache after a request was served there, and the block that the policy wants besides. -/
def halfway (lower : Storage S) (request : Request) (state : ServiceState σ S) :
    Cache σ × Option Nat :=
  match (serveLookedUp lower request).run state with
  | .error _ served => (served.cache, none)
  | .ok access served => (served.cache, served.cache.wanted? request access)

/-- The same for a request from outside; one that is refused or bypassed does not come so far. -/
def halfway? (lower : Storage S) (request : Request) (state : Cache σ × S) :
    Option (Cache σ × Option Nat) :=
  if (state.1.refusal? request).isSome || state.1.bypasses request then none
  else
    let start : ServiceState σ S := { cache := state.1, below := state.2 }
    some (halfway lower request (announced request.address (admitted request start)))

/-- The lines that a request uses: the one that serves it, and the one that is filled with the block
that the policy wants besides. -/
def touches (lower : Storage S) (request : Request) (state : Cache σ × S) : List Nat :=
  match halfway? lower request state with
  | none => []
  | some (served, wanted?) =>
    state.1.used served request.address ++
      wanted?.elim [] (served.filled (serve lower request state).2.1)

/-- The lines that requests use, one after the other. -/
def history (lower : Storage S) : List Request → Cache σ × S → List Nat
  | [], _ => []
  | request :: rest, state =>
    touches lower request state ++ history lower rest (serve lower request state).2

theorem halfway_handles (lower : Storage S) (request : Request) (arranged : state.cache.Arranged) :
    let after := (stateAfter (serveLookedUp lower request >>= followUp lower request) state).cache
    let (served, wanted?) := halfway lower request state
    Handles (some request.address) (state.cache.used served request.address) state.cache served ∧
      Handles wanted? (wanted?.elim [] (served.filled after)) served after := by
  intro after
  have ends := serveLookedUp_steps lower request arranged
  unfold halfway
  cases run : (serveLookedUp lower request).run state with
  | error fault served =>
    have stops : after = served.cache := by
      simp only [after, stateAfter, run_bind_of_error run]
    exact ⟨Ends.of_error ends run, stops ▸ .refl none _⟩
  | ok access served =>
    have goes_on : after = (stateAfter (followUp lower request access) served).cache := by
      simp only [after, stateAfter, run_bind_of_ok run]
    have first := Ends.of_ok ends run
    have second := followUp_steps lower request access (first.steps.arranged arranged)
    exact ⟨first, goes_on ▸ second.stateAfter⟩

/-- Serving a request has two halves, unless it is refused or bypassed. In each of them one block is
looked for, and a block that gives way gives way to that one. -/
theorem serve_handles (lower : Storage S) (request : Request) (state : Cache σ × S)
    (arranged : state.1.Arranged) :
    let after := (serve lower request state).2.1
    match halfway? lower request state with
    | none => state.1.SameLines after
    | some (served, wanted?) =>
      Handles (some request.address) (state.1.used served request.address) state.1 served ∧
        Handles wanted? (wanted?.elim [] (served.filled after)) served after := by
  obtain ⟨cache, below⟩ := state
  intro after
  unfold halfway?
  cases refused : cache.refusal? request with
  | some kind =>
    simp only [after, serve, refused]
    exact ⟨rfl, rfl, rfl⟩
  | none =>
    have serves : after = (stateAfter (attend lower request) { cache, below }).cache := by
      simp only [after, serve, refused, stateAfter]
      cases (attend lower request).run { cache, below } <;> rfl
    rw [stateAfter, attend_run] at serves
    cases bypassed : cache.bypasses request with
    | true =>
      rw [bypassed, if_pos rfl] at serves
      have same := (passOn_sameLines lower request (admitted request { cache, below })).stateAfter
      rw [stateAfter, ← serves] at same
      exact ⟨same.geometry, same.policy, same.lines⟩
    | false =>
      rw [bypassed, if_neg Bool.false_ne_true] at serves
      -- asking the policy touches no line, so the two halves start from the same blocks
      generalize start_eq : announced request.address _ = start at serves
      have starts : cache.SameLines start.cache := start_eq ▸ ⟨rfl, rfl, rfl⟩
      have halves := halfway_handles lower request (starts.blocks.arranged arranged)
      simp only [stateAfter, starts.used_eq, ← serves] at halves
      simp only [Option.isSome_none, Bool.or_self, Bool.false_eq_true, if_false, start_eq]
      exact ⟨.after starts halves.1, halves.2⟩

/-- Serving a request is a sequence of steps that use the lines of its touches. -/
theorem serve_steps (lower : Storage S) (request : Request) (state : Cache σ × S)
    (arranged : state.1.Arranged) :
    Steps state.1 (touches lower request state) (serve lower request state).2.1 := by
  have halves := serve_handles lower request state arranged
  unfold touches
  cases half : halfway? lower request state with
  | none =>
    rw [half] at halves
    exact (Steps.refl _).idle halves
  | some half =>
    rw [half] at halves
    exact halves.1.steps.trans halves.2.steps

/-- Serving requests is a sequence of steps that use the lines of the history. -/
theorem after_steps (lower : Storage S) (requests : List Request) (state : Cache σ × S)
    (arranged : state.1.Arranged) :
    Steps state.1 (history lower requests state)
      (Storage.after (serve lower) requests state).1 := by
  induction requests generalizing state with
  | nil => exact .refl _
  | cons request rest ih =>
    have served := serve_steps lower request state arranged
    exact served.trans (ih _ (served.arranged arranged))

end Cache

end FiveStage
