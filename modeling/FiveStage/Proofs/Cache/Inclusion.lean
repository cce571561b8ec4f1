import FiveStage.Proofs.Cache.Occupancy

/-!
# A larger cache holds what a smaller one holds

Two caches with equally many sets are asked the same. The larger one then always holds every block
that the smaller one holds, so it hits wherever the smaller one does. For the victim of a full set
is the block that was used longest ago: if the larger cache gives up a block that the smaller one
holds as well, it is the oldest there too, and the smaller cache has even less room to keep it.

## Main definitions

* `Cache.Ranked`: the age of a block is its place in the order of use
* `Cache.Nested`: what holds between the smaller and the larger cache
* `Cache.Standing`: a cache with the plain policy over a memory

## Main results

* `Cache.Nested.clear`, `Cache.Nested.bringBoth`: caches stay nested when blocks give way
* `Cache.inclusion_after`: two new caches stay nested along every sequence of requests in which ages
  do not reach their limit
-/

namespace FiveStage

namespace Cache

variable {σ τ : Type} {cache next : Cache σ} {recent : List Nat}
  {request : Request} {index address set set' size i j n m : Nat} {data data' : Bytes}

/-! ### Where the block comes -/

theorem sets_cleared : (cache.cleared set).sets = cache.sets := by
  unfold cleared
  split
  · rfl
  · exact sets_modifyLine

theorem arranged_cleared (arranged : cache.Arranged) (set : Nat) :
    (cache.cleared set).Arranged := by
  unfold cleared
  split
  · exact arranged
  · exact arranged.modifyLine ..

theorem sets_brought : (cache.brought address data).sets = cache.sets := by
  rw [brought, installed, (SameBlocks.touch ..).sets, sets_modifyLine, sets_cleared]

theorem statistics_cleared : (cache.cleared set).statistics = cache.statistics := by
  unfold cleared
  split <;> rfl

theorem statistics_brought : (cache.brought address data).statistics = cache.statistics :=
  statistics_cleared

/-- Clearing takes away the block of the victim if the set is full, and nothing else. -/
theorem holdsAt_cleared : (cache.cleared set).HoldsAt i n ↔
    cache.HoldsAt i n ∧ ¬ (cache.vacant? set = none ∧ i = cache.victim set) := by
  unfold cleared
  cases cache.vacant? set with
  | some index => simp
  | none => simp [holdsAt_giveUp, and_comm]

/-- The room in a set is a line of the set, and holds nothing once the set is cleared. -/
theorem room_cleared (arranged : cache.Arranged) (below : set < cache.sets) :
    (cache.cleared set).setOfLine (cache.room set) = set ∧
      ((cache.cleared set).line (cache.room set)).valid = false := by
  unfold cleared room
  cases found : cache.vacant? set with
  | some index =>
    have member := arranged.mem_linesOf_iff.mp (List.mem_of_find?_eq_some found)
    have vacant := List.find?_some found
    exact ⟨member, by simpa using vacant⟩
  | none =>
    obtain ⟨place, inside, -⟩ := victim_holds arranged below found
    exact ⟨setOfLine_modifyLine.trans place, by simp [line_modifyLine_self inside]⟩

/-- After a block came in, it is in the room that was made, and other blocks are where they were
when the set was cleared. -/
theorem holdsAt_brought (arranged : cache.Arranged) :
    (cache.brought address data).HoldsAt i n ↔
      i = cache.room (cache.setOf address) ∧ n = address / blockSize ∨
        (cache.cleared (cache.setOf address)).HoldsAt i n := by
  obtain ⟨place, vacant⟩ := room_cleared arranged (arranged.setOf_lt address)
  rw [brought, installed, (SameBlocks.touch ..).holdsAt_iff,
    holdsAt_fill (arranged_cleared arranged _) data (place.trans (setOf_congr sets_cleared).symm)]
  refine or_congr_right ⟨And.right, fun held => ⟨?_, held⟩⟩
  rintro rfl
  cases vacant.symm.trans held.2.1

/-- A block that comes in takes a vacant line, unless another block gave way to it. -/
theorem vacancies_brought (arranged : cache.Arranged) :
    (cache.brought address data).vacancies set =
      if set = cache.setOf address then cache.vacancies set - 1 else cache.vacancies set := by
  have below := arranged.setOf_lt address
  have arranged' := arranged_cleared arranged (cache.setOf address)
  have cleared : (cache.cleared (cache.setOf address)).vacancies set = _ :=
    vacancies_cleared arranged below
  obtain ⟨place, vacant⟩ := room_cleared arranged below
  rw [brought, installed, vacancies_touch]
  generalize cache.room (cache.setOf address) = index at place vacant
  have inside : index < (cache.cleared (cache.setOf address)).lines.size := by
    refine arranged'.lt_size_of_setOfLine_lt ?_
    rw [place, sets_cleared]
    exact below
  by_cases same : set = cache.setOf address
  · have filled := vacancies_fill arranged' inside vacant data
      ((cache.cleared (cache.setOf address)).tagOf address)
    rw [place, ← same] at filled
    rw [if_pos same] at cleared ⊢
    rw [← same] at cleared ⊢
    omega
  · rw [if_neg same] at cleared ⊢
    rw [vacancies_modifyLine_of_ne arranged' (by rwa [place]), cleared]

/-! ### The order of use -/

/-- Each block in the cache was used, and is as old as its last use is long ago; the blocks are
listed from the one used last. -/
def Ranked (recent : List Nat) (cache : Cache σ) : Prop :=
  ∀ i n, cache.HoldsAt i n → n ∈ recent ∧ (cache.line i).age = min maxAge (recent.idxOf n)

/-- The block in a line is ranked first after the line was used, if no other line has it. -/
theorem ranked_touch
    (here : ∀ m, cache.HoldsAt index m → m = n)
    (elsewhere : ∀ i m, i ≠ index → cache.HoldsAt i m →
      m ≠ n ∧ m ∈ recent ∧ (cache.line i).age = min maxAge (recent.idxOf m)) :
    Ranked (n :: recent) (cache.touch index) := by
  intro i m held
  rw [(SameBlocks.touch ..).holdsAt_iff] at held
  rw [line_touch held.1]
  by_cases used : i = index
  · subst used
    rw [here m held, if_pos rfl, List.idxOf_cons_self]
    exact ⟨List.mem_cons_self, rfl⟩
  · obtain ⟨other, member, age⟩ := elsewhere i m used held
    rw [if_neg used, List.idxOf_cons_ne _ other.symm, Line.aged, age]
    refine ⟨List.mem_cons_of_mem _ member, ?_⟩
    dsimp only
    omega

theorem Ranked.hit (ranked : Ranked recent cache)
    (unique : ∀ i j n, cache.HoldsAt i n → cache.HoldsAt j n → i = j)
    (held : cache.HoldsAt index n) : Ranked (n :: recent) (cache.touch index) := by
  refine ranked_touch (fun m held' => held'.2.2.symm.trans held.2.2) fun i m other held' => ?_
  refine ⟨?_, ranked i m held'⟩
  rintro rfl
  exact other (unique i index m held' held)

theorem Ranked.clear (ranked : Ranked recent cache) (set : Nat) :
    Ranked recent (cache.cleared set) := by
  intro i n held
  have line : ((cache.cleared set).line i).age = (cache.line i).age := by
    unfold cleared
    split
    · rfl
    · refine age_modifyLine (fun _ => rfl) (holdsAt_cleared.mp held).1.1
  rw [line]
  exact ranked i n (holdsAt_cleared.mp held).1

theorem Ranked.bring (ranked : Ranked recent cache) (arranged : cache.Arranged)
    (absent : ∀ i, ¬ cache.HoldsAt i (address / blockSize)) :
    Ranked (address / blockSize :: recent) (cache.brought address data) := by
  obtain ⟨place, vacant⟩ := room_cleared arranged (arranged.setOf_lt address)
  have filled (i m : Nat) := holdsAt_fill (i := i) (n := m) (arranged_cleared arranged _) data
    (place.trans (setOf_congr sets_cleared).symm)
  refine ranked_touch (fun m held => ?_) fun i m other held => ?_
  · rcases (filled _ m).mp held with ⟨-, number⟩ | ⟨other, -⟩
    · exact number
    · exact absurd rfl other
  · rcases (filled i m).mp held with ⟨same, -⟩ | ⟨-, held⟩
    · exact absurd same other
    · rw [line_modifyLine_of_ne other]
      refine ⟨?_, ranked.clear _ i m held⟩
      rintro rfl
      exact absent i (holdsAt_cleared.mp held).1

/-! ### A smaller and a larger cache -/

/-- Some line holds block number `n`. -/
def Holds (cache : Cache σ) (n : Nat) : Prop := ∃ i, cache.HoldsAt i n

theorem contains_iff_holds (arranged : cache.Arranged) :
    cache.contains address = true ↔ cache.Holds (address / blockSize) := by
  rw [contains, Option.isSome_iff_ne_none, Ne, arranged.lookup_eq_none_iff, not_forall_not, Holds]

/-- Two caches with equally many sets, whose blocks were used in the same order. The larger one
holds the blocks of the smaller one, has at least as many vacant lines in each set, and has not
missed more often. -/
structure Nested (recent : List Nat) (small : Cache σ) (large : Cache τ) : Prop where
  sets : large.sets = small.sets
  ranked : small.Ranked recent
  ranked' : large.Ranked recent
  held : ∀ n, small.Holds n → large.Holds n
  room : ∀ set, small.vacancies set ≤ large.vacancies set
  misses : large.statistics.misses ≤ small.statistics.misses

namespace Nested

variable {small smallNext : Cache σ} {large largeNext : Cache τ} {below below' : Contents}

theorem congr (nested : Nested recent small large) (agrees : small.Agrees smallNext)
    (agrees' : large.Agrees largeNext) : Nested recent smallNext largeNext where
  sets := by rw [agrees.sets, agrees'.sets, nested.sets]
  ranked i n held := by
    rw [agrees.age]
    exact nested.ranked i n (agrees.holdsAt_iff.mp held)
  ranked' i n held := by
    rw [agrees'.age]
    exact nested.ranked' i n (agrees'.holdsAt_iff.mp held)
  held n := by
    rintro ⟨i, held⟩
    obtain ⟨j, held'⟩ := nested.held n ⟨i, agrees.holdsAt_iff.mp held⟩
    exact ⟨j, agrees'.holdsAt_iff.mpr held'⟩
  room set := by
    rw [agrees.vacancies_eq, agrees'.vacancies_eq]
    exact nested.room set
  misses := by
    rw [agrees.misses, agrees'.misses]
    exact nested.misses

theorem missSmall (nested : Nested recent small large) : Nested recent small.missed large :=
  ⟨nested.sets, nested.ranked, nested.ranked', nested.held, nested.room,
    Nat.le_succ_of_le nested.misses⟩

theorem missBoth (nested : Nested recent small large) :
    Nested recent small.missed large.missed :=
  ⟨nested.sets, nested.ranked, nested.ranked', nested.held, nested.room,
    Nat.succ_le_succ nested.misses⟩

/-- Where the larger cache has to give up a block that the smaller one holds, the smaller one has to
give it up as well. -/
theorem displaced (nested : Nested recent small large) (few : recent.length ≤ maxAge)
    (coherent : small.Coherent size below) (coherent' : large.Coherent size below')
    (set_lt : set < small.sets) (full : large.vacant? set = none)
    (gone : large.HoldsAt (large.victim set) n) (held : small.HoldsAt i n) :
    small.vacant? set = none ∧ i = small.victim set := by
  obtain ⟨place, -⟩ := victim_holds coherent'.arranged (nested.sets ▸ set_lt) full
  have full_small : small.vacant? set = none := by
    have room := nested.room set
    rw [← vacancies_eq_zero_iff] at full ⊢
    omega
  refine ⟨full_small, ?_⟩
  -- the victims of both caches hold a block each, and each block is in the other cache as well
  obtain ⟨place_small, held_victim⟩ := victim_holds coherent.arranged set_lt full_small
  generalize small.blockNumber (small.victim set) = m at held_victim
  obtain ⟨j, held_other⟩ := nested.held m ⟨_, held_victim⟩
  have here : i ∈ small.linesOf set := by
    rw [coherent.arranged.mem_linesOf_iff,
      coherent.arranged.setOfLine_of_holdsAt held, ← nested.sets,
      ← coherent'.arranged.setOfLine_of_holdsAt gone, place]
  have there : j ∈ large.linesOf set := by
    rw [coherent'.arranged.mem_linesOf_iff, coherent'.arranged.setOfLine_of_holdsAt held_other,
      nested.sets, ← coherent.arranged.setOfLine_of_holdsAt held_victim, place_small]
  have older := (victim_oldest here).1
  have older' := (victim_oldest there).1
  obtain ⟨used, age⟩ := nested.ranked i n held
  obtain ⟨used', age'⟩ := nested.ranked _ m held_victim
  rw [age, age'] at older
  rw [(nested.ranked' j m held_other).2, (nested.ranked' _ n gone).2] at older'
  have rank := List.idxOf_lt_length_of_mem used
  have rank' := List.idxOf_lt_length_of_mem used'
  obtain rfl : n = m := (List.idxOf_inj used).mp (by omega)
  exact coherent.unique i _ n held held_victim

/-- Both caches make room in a set. -/
theorem clear (nested : Nested recent small large) (few : recent.length ≤ maxAge)
    (coherent : small.Coherent size below) (coherent' : large.Coherent size below')
    (set_lt : set < small.sets) :
    Nested recent (small.cleared set) (large.cleared set) where
  sets := by rw [sets_cleared, sets_cleared, nested.sets]
  ranked := nested.ranked.clear set
  ranked' := nested.ranked'.clear set
  held n := by
    rintro ⟨i, held⟩
    obtain ⟨held, stays⟩ := holdsAt_cleared.mp held
    obtain ⟨j, held'⟩ := nested.held n ⟨i, held⟩
    refine ⟨j, holdsAt_cleared.mpr ⟨held', ?_⟩⟩
    rintro ⟨full, rfl⟩
    exact stays (nested.displaced few coherent coherent' set_lt full held' held)
  room set' := by
    rw [vacancies_cleared coherent.arranged set_lt,
      vacancies_cleared coherent'.arranged (nested.sets ▸ set_lt)]
    have room := nested.room set
    split
    · omega
    · exact nested.room set'
  misses := by
    rw [statistics_cleared, statistics_cleared]
    exact nested.misses

/-- Both caches use the line of a block. -/
theorem hit (nested : Nested recent small large) (coherent : small.Coherent size below)
    (coherent' : large.Coherent size below') (held : small.HoldsAt i n)
    (held' : large.HoldsAt j n) :
    Nested (n :: recent) (small.touch i) (large.touch j) where
  sets := by rw [(SameBlocks.touch ..).sets, (SameBlocks.touch ..).sets, nested.sets]
  ranked := nested.ranked.hit coherent.unique held
  ranked' := nested.ranked'.hit coherent'.unique held'
  held m := by
    simp only [Holds, (SameBlocks.touch ..).holdsAt_iff]
    exact nested.held m
  room set := by
    rw [vacancies_touch, vacancies_touch]
    exact nested.room set
  misses := nested.misses

/-- The smaller cache brings in a block that the larger one has already. -/
theorem bringSmall (nested : Nested recent small large) (coherent : small.Coherent size below)
    (coherent' : large.Coherent size below')
    (absent : ∀ i, ¬ small.HoldsAt i (address / blockSize))
    (held' : large.HoldsAt j (address / blockSize)) :
    Nested (address / blockSize :: recent) (small.brought address data) (large.touch j) where
  sets := by rw [sets_brought, (SameBlocks.touch ..).sets, nested.sets]
  ranked := nested.ranked.bring coherent.arranged absent
  ranked' := nested.ranked'.hit coherent'.unique held'
  held m := by
    rintro ⟨i, held⟩
    simp only [Holds, (SameBlocks.touch ..).holdsAt_iff]
    rcases (holdsAt_brought coherent.arranged).mp held with ⟨-, rfl⟩ | held
    · exact ⟨j, held'⟩
    · exact nested.held m ⟨i, (holdsAt_cleared.mp held).1⟩
  room set := by
    rw [vacancies_brought coherent.arranged, vacancies_touch]
    have room := nested.room set
    split <;> omega
  misses := by
    rw [statistics_brought]
    exact nested.misses

/-- Both caches bring in a block. -/
theorem bringBoth (nested : Nested recent small large) (few : recent.length ≤ maxAge)
    (coherent : small.Coherent size below) (coherent' : large.Coherent size below')
    (absent : ∀ i, ¬ small.HoldsAt i (address / blockSize))
    (absent' : ∀ i, ¬ large.HoldsAt i (address / blockSize)) :
    Nested (address / blockSize :: recent) (small.brought address data)
      (large.brought address data') where
  sets := by rw [sets_brought, sets_brought, nested.sets]
  ranked := nested.ranked.bring coherent.arranged absent
  ranked' := nested.ranked'.bring coherent'.arranged absent'
  held m := by
    have setOf_eq : large.setOf address = small.setOf address := setOf_congr nested.sets
    have cleared := nested.clear few coherent coherent' (coherent.arranged.setOf_lt address)
    rintro ⟨i, held⟩
    simp only [Holds, holdsAt_brought coherent'.arranged, setOf_eq]
    rcases (holdsAt_brought coherent.arranged).mp held with ⟨-, number⟩ | held
    · exact ⟨_, .inl ⟨rfl, number⟩⟩
    · obtain ⟨j, held'⟩ := cleared.held m ⟨i, held⟩
      exact ⟨j, .inr held'⟩
  room set := by
    have setOf_eq : large.setOf address = small.setOf address := setOf_congr nested.sets
    rw [vacancies_brought coherent.arranged, vacancies_brought coherent'.arranged, setOf_eq]
    have room := nested.room set
    split <;> omega
  misses := by
    rw [statistics_brought, statistics_brought]
    exact nested.misses

end Nested

/-! ### Two runs -/

/-- A cache with the plain policy over a memory of the given size. -/
structure Standing (size : Nat) (state : Cache σ × Memory) : Prop where
  sized : state.2.size = size
  coherent : state.1.Coherent size state.2.byteAt
  plain : state.1.policy = Policy.plain σ

/-- A request inside a block uses the line of its block or brings the block in, unless that lies
outside of the memory. -/
theorem Standing.serve (aligned : size % blockSize = 0) {state : Cache σ × Memory}
    (standing : Standing size state)
    (allocates : request.kind = .write → state.1.geometry.writeAllocate = true)
    (inBlock : request.InBlock) :
    let served := Cache.serve Memory.serve request state
    Standing size served.2 ∧
      ((∃ i, state.1.HoldsAt i (request.address / blockSize) ∧ served.1.isHit = true ∧
          (state.1.touch i).Agrees served.2.1) ∨
        (∀ i, ¬ state.1.HoldsAt i (request.address / blockSize)) ∧ served.1.isHit = false ∧
          if request.address < size then
            ∃ data, (state.1.brought request.address data).missed.Agrees served.2.1
          else (state.1.cleared (state.1.setOf request.address)).missed.Agrees served.2.1) := by
  obtain ⟨cache, memory⟩ := state
  obtain ⟨sized, coherent, plain⟩ := standing
  intro served
  obtain ⟨⟨sized', coherent'⟩, answers⟩ :=
    transparent (Memory.transparent aligned) request (cache, memory) ⟨sized, coherent⟩ inBlock
  have turn : Turn request.address cache served.1.outcome served.2.1 :=
    serve_turn Memory.serve memory plain allocates (refusal?_eq_none coherent.arranged inBlock)
  refine ⟨⟨sized', coherent', turn.policy_eq.trans plain⟩, ?_⟩
  have beyond (fault : MemoryFault) (failed : served.1.outcome = .error fault) :
      ¬ request.address < size := by
    rw [Answers, failed] at answers
    exact Nat.not_lt.mpr answers.2.1
  unfold Reply.isHit
  generalize served.1.outcome = outcome at turn beyond ⊢
  cases turn with
  | hit found hit agrees =>
    exact .inl ⟨_, coherent.lookup_eq_some_iff.mp found, hit, agrees⟩
  | unwritten found agrees =>
    have held := coherent.lookup_eq_some_iff.mp found
    exact absurd (coherent.inside_of_holds held inBlock).1 (beyond _ rfl)
  | brought absent miss agrees =>
    have held := agrees.holdsAt_iff.mpr ((holdsAt_brought coherent.arranged).mpr (.inl ⟨rfl, rfl⟩))
    have inside := (coherent'.inside_of_holds held inBlock).1
    refine .inr ⟨coherent.arranged.lookup_eq_none_iff.mp absent, miss, ?_⟩
    rw [if_pos inside]
    exact ⟨_, agrees⟩
  | cleared absent agrees =>
    refine .inr ⟨coherent.arranged.lookup_eq_none_iff.mp absent, rfl, ?_⟩
    rw [if_neg (beyond _ rfl)]
    exact agrees

/-- Two nested caches are nested after the next request as well, and if the smaller one hits, so
does the larger one. -/
theorem Nested.serve (aligned : size % blockSize = 0) {state : Cache σ × Memory}
    {state' : Cache τ × Memory} (nested : Nested recent state.1 state'.1)
    (few : recent.length ≤ maxAge) (standing : Standing size state)
    (standing' : Standing size state')
    (allocates : request.kind = .write →
      state.1.geometry.writeAllocate = true ∧ state'.1.geometry.writeAllocate = true)
    (inBlock : request.InBlock) :
    let served := Cache.serve Memory.serve request state
    let served' := Cache.serve Memory.serve request state'
    (served.1.isHit = true → served'.1.isHit = true) ∧
      ∃ recent', recent'.length ≤ recent.length + 1 ∧ Nested recent' served.2.1 served'.2.1 := by
  intro served served'
  have coherent := standing.coherent
  have coherent' := standing'.coherent
  obtain ⟨-, turn⟩ := standing.serve aligned (fun write => (allocates write).1) inBlock
  obtain ⟨-, turn'⟩ := standing'.serve aligned (fun write => (allocates write).2) inBlock
  have longer : (request.address / blockSize :: recent).length ≤ recent.length + 1 := Nat.le_refl _
  rcases turn with ⟨i, held, -, agrees⟩ | ⟨absent, miss, turn⟩ <;>
    rcases turn' with ⟨j, held', hit', agrees'⟩ | ⟨absent', miss', turn'⟩
  · refine ⟨fun _ => hit', _, longer, Nested.congr ?_ agrees agrees'⟩
    exact nested.hit coherent coherent' held held'
  · obtain ⟨j, held'⟩ := nested.held _ ⟨i, held⟩
    exact absurd held' (absent' j)
  · -- only the larger one hits, so the block is in the memory and the smaller one gets it as well
    rw [if_pos (coherent'.inside_of_holds held' inBlock).1] at turn
    obtain ⟨data, agrees⟩ := turn
    refine ⟨fun _ => hit', _, longer, Nested.congr ?_ agrees agrees'⟩
    exact (nested.bringSmall coherent coherent' absent held').missSmall
  · -- neither holds the block, and either both can get it or none of them
    refine ⟨fun hit => absurd hit (miss ▸ Bool.false_ne_true), ?_⟩
    by_cases inside : request.address < size
    · rw [if_pos inside] at turn turn'
      obtain ⟨data, agrees⟩ := turn
      obtain ⟨data', agrees'⟩ := turn'
      refine ⟨_, longer, Nested.congr ?_ agrees agrees'⟩
      exact (nested.bringBoth few coherent coherent' absent absent').missBoth
    · rw [if_neg inside] at turn turn'
      have setOf_eq : state'.1.setOf request.address = state.1.setOf request.address :=
        setOf_congr nested.sets
      rw [setOf_eq] at turn'
      refine ⟨recent, Nat.le_succ _, Nested.congr ?_ turn turn'⟩
      exact (nested.clear few coherent coherent' (coherent.arranged.setOf_lt _)).missBoth

/-- A cache with its memory, after the next request. -/
theorem Standing.served (aligned : size % blockSize = 0) {state : Cache σ × Memory}
    (standing : Standing size state)
    (allocates : request.kind = .write → state.1.geometry.writeAllocate = true) :
    Standing size (Cache.serve Memory.serve request state).2 := by
  by_cases inBlock : request.InBlock
  · exact (standing.serve aligned allocates inBlock).1
  · rw [serve_of_not_inBlock standing.coherent.arranged inBlock]
    exact standing

theorem geometry_serve (request : Request) {state : Cache σ × Memory}
    (arranged : state.1.Arranged) :
    (Cache.serve Memory.serve request state).2.1.geometry = state.1.geometry :=
  (serve_steps Memory.serve request state arranged).shape.1

/-- Caches that are nested stay nested as long as no age reaches the limit, and the larger one hits
wherever the smaller one does. -/
theorem Nested.run (aligned : size % blockSize = 0) (requests : List Request)
    {state : Cache σ × Memory} {state' : Cache τ × Memory} (nested : Nested recent state.1 state'.1)
    (few : recent.length + requests.length ≤ maxAge) (standing : Standing size state)
    (standing' : Standing size state')
    (allocates : ∀ request ∈ requests, request.kind = .write →
      state.1.geometry.writeAllocate = true ∧ state'.1.geometry.writeAllocate = true) :
    (∃ recent', Nested recent' (Storage.after (Cache.serve Memory.serve) requests state).1
        (Storage.after (Cache.serve Memory.serve) requests state').1) ∧
      List.Forall₂ (fun first second => first.2.isHit = true → second.2.isHit = true)
        (Storage.exchange (Cache.serve Memory.serve) requests state)
        (Storage.exchange (Cache.serve Memory.serve) requests state') := by
  induction requests generalizing recent state state' with
  | nil => exact ⟨⟨recent, nested⟩, .nil⟩
  | cons request rest ih =>
    rw [List.length_cons] at few
    have writes := allocates request List.mem_cons_self
    have step : ((Cache.serve Memory.serve request state).1.isHit = true →
          (Cache.serve Memory.serve request state').1.isHit = true) ∧
        ∃ recent', recent'.length ≤ recent.length + 1 ∧
          Nested recent' (Cache.serve Memory.serve request state).2.1
            (Cache.serve Memory.serve request state').2.1 := by
      by_cases inBlock : request.InBlock
      · exact nested.serve aligned (by omega) standing standing' writes inBlock
      · rw [serve_of_not_inBlock standing.coherent.arranged inBlock,
          serve_of_not_inBlock standing'.coherent.arranged inBlock]
        exact ⟨id, recent, Nat.le_succ _, nested⟩
    obtain ⟨hits, recent', longer, nested'⟩ := step
    obtain ⟨after, later⟩ := ih nested' (by omega)
      (standing.served aligned fun write => (writes write).1)
      (standing'.served aligned fun write => (writes write).2) fun other member => by
        rw [geometry_serve request standing.coherent.arranged,
          geometry_serve request standing'.coherent.arranged]
        exact allocates other (List.mem_cons_of_mem _ member)
    exact ⟨after, .cons hits later⟩

theorem Fresh.holds (fresh : cache.Fresh) (n : Nat) : ¬ cache.Holds n :=
  fun ⟨_, held⟩ => fresh.not_holdsAt held

/-- A set of a new cache has as many vacant lines as there are ways. -/
theorem Fresh.vacancies (fresh : cache.Fresh) (set : Nat) : cache.vacancies set = cache.ways := by
  have vacant : ∀ i ∈ cache.linesOf set, (!(cache.line i).valid) = true := fun i _ => by
    rw [fresh.line_eq]
    rfl
  rw [Cache.vacancies, List.countP_eq_length.mpr vacant, linesOf, List.length_range']

theorem New.nested {small : Cache σ} {large : Cache τ} (new : small.New) (new' : large.New)
    (sets : large.sets = small.sets) (ways : small.ways ≤ large.ways) : Nested [] small large where
  sets := sets
  ranked _ _ held := absurd held new.fresh.not_holdsAt
  ranked' _ _ held := absurd held new'.fresh.not_holdsAt
  held n held := absurd held (new.fresh.holds n)
  room set := by rwa [new.fresh.vacancies, new'.fresh.vacancies]
  misses := Nat.le_of_eq (by rw [new.unused, new'.unused])

theorem Fresh.standing (fresh : cache.Fresh) (plain : cache.policy = Policy.plain σ)
    (memory : Memory) : Standing memory.size (cache, memory) :=
  ⟨rfl, fresh.coherent (plain ▸ Policy.prudent_plain _), plain⟩

/-- Of two new caches with equally many sets and the plain policy, each over a memory of its own,
the one with more ways holds at all times what the other one holds. It hits whenever the other one
hits, and never misses more often. The requests may be any, failing ones included, as long as there
are no more of them than an age can count, and no writes unless both caches allocate for writes. -/
theorem inclusion_after (small : Cache σ) (large : Cache τ) (memory memory' : Memory)
    (new : small.New) (new' : large.New) (plain : small.policy = Policy.plain σ)
    (plain' : large.policy = Policy.plain τ) (sets : large.geometry.sets = small.geometry.sets)
    (ways : small.ways ≤ large.ways) (aligned : memory.size % blockSize = 0)
    (same_size : memory'.size = memory.size) (requests : List Request)
    (few : requests.length ≤ maxAge)
    (allocates : (∃ request ∈ requests, request.kind = .write) →
      small.geometry.writeAllocate = true ∧ large.geometry.writeAllocate = true) :
    (∀ done, done <+: requests →
      let last := (Storage.after (serve Memory.serve) done (small, memory)).1
      let last' := (Storage.after (serve Memory.serve) done (large, memory')).1
      (∀ address, last.contains address = true → last'.contains address = true) ∧
        last'.statistics.misses ≤ last.statistics.misses) ∧
      List.Forall₂ (fun first second => first.2.isHit = true → second.2.isHit = true)
        (Storage.exchange (serve Memory.serve) requests (small, memory))
        (Storage.exchange (serve Memory.serve) requests (large, memory')) := by
  have nested := new.nested new' (by rwa [new.fresh.sets_eq, new'.fresh.sets_eq]) ways
  have standing := new.fresh.standing plain memory
  have standing' := new'.fresh.standing plain' memory'
  rw [same_size] at standing'
  -- the induction is on the requests done so far, which are no more than an age can count
  have run (done : List Request) (before : done <+: requests) :=
    nested.run aligned done (by have := before.length_le; simp only [List.length_nil]; omega)
      standing standing' fun request member write =>
        allocates ⟨request, before.subset member, write⟩
  refine ⟨fun done before => ?_, (run requests (List.prefix_refl _)).2⟩
  obtain ⟨⟨recent, nested'⟩, -⟩ := run done before
  have arranged := (after_steps Memory.serve done (small, memory) new.fresh.arranged).arranged
    new.fresh.arranged
  have arranged' := (after_steps Memory.serve done (large, memory') new'.fresh.arranged).arranged
    new'.fresh.arranged
  refine ⟨fun address held => ?_, nested'.misses⟩
  rw [contains_iff_holds arranged] at held
  rw [contains_iff_holds arranged']
  exact nested'.held _ held

/-- A cache of two sets with the given number of ways that allocates for writes. -/
def twoSets (ways : Nat) (writeThrough : Bool) : Cache Unit where
  name := "pair"
  geometry := ⟨ways * 128, ways, 2, writeThrough, true⟩
  memo := ()
  lines := freshLines ⟨ways * 128, ways, 2, writeThrough, true⟩

/-- A block of the first set gives way in the cache with one way only, so that the third request
hits in the other one alone; then a read beyond the memory makes room in both for nothing. -/
theorem inclusion_after_twoSets :
    let requests : List Request := [.read 0 8, .write 130 [1], .read 4 4, .read 512 8]
    let last := (Storage.after (serve Memory.serve) requests (twoSets 1 false, { size := 512 })).1
    let last' := (Storage.after (serve Memory.serve) requests (twoSets 2 true, { size := 512 })).1
    (((∀ address, last.contains address = true → last'.contains address = true) ∧
        last'.statistics.misses ≤ last.statistics.misses) ∧
      List.Forall₂ (fun first second => first.2.isHit = true → second.2.isHit = true)
        (Storage.exchange (serve Memory.serve) requests (twoSets 1 false, { size := 512 }))
        (Storage.exchange (serve Memory.serve) requests (twoSets 2 true, { size := 512 }))) ∧
      last.statistics.misses = 4 ∧ last'.statistics.misses = 3 ∧
        last.contains 0 = false ∧ last'.contains 0 = true := by
  have new : (twoSets 1 false).New :=
    ⟨⟨{ name := "pair", memo := () }, ⟨128, 1, 2, false, true⟩, rfl⟩, rfl⟩
  have new' : (twoSets 2 true).New :=
    ⟨⟨{ name := "pair", memo := () }, ⟨256, 2, 2, true, true⟩, rfl⟩, rfl⟩
  obtain ⟨after, hits⟩ := inclusion_after (twoSets 1 false) (twoSets 2 true) { size := 512 }
    { size := 512 } new new' rfl rfl rfl (by decide) (by decide) rfl
    [.read 0 8, .write 130 [1], .read 4 4, .read 512 8] (by decide) fun _ => ⟨rfl, rfl⟩
  exact ⟨⟨after _ (List.prefix_refl _), hits⟩, by decide +kernel⟩

end Cache

end FiveStage
