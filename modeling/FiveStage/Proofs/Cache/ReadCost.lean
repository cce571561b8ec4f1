import FiveStage.Proofs.Cache.Inclusion
import FiveStage.Proofs.Cache.Setup
import Mathlib.Algebra.GroupWithZero.Nat

/-!
# What a read costs

A read that misses goes down to the first level that holds its block, and the block comes up again
through all levels above. On its way down it may push out dirty blocks, which are written to the
levels about to be asked. Where these do not allocate on writes, such a write changes neither which
blocks they hold nor what the read costs: the bus of each level passed, and the whole latency of the
level that held the block.

## Main definitions

* `Cache.ReadCourse`: the ways in which a read succeeds
* `Chain.holder`, `Chain.readCost`: the first level that holds a block, and the cycles of a read
  that is served there
* `Chain.ReadAt`: a read that was served at some depth

## Main results

* `Chain.held_write`: writes move no blocks in levels that do not allocate
* `Chain.read_served`: the cost of a read in a chain with such levels below the top
* `Chain.read_cost`: the same after any requests to new caches
-/

namespace FiveStage

namespace Cache

variable {σ S α β : Type} {cache : Cache σ} {lower : Storage S} {state : ServiceState σ S}
  {action other : Service σ S α} {request : Request} {index address set : Nat}

/-! ### Reads -/

/-- At most one block was written to the storage below. -/
def Flushed (lower : Storage S) (before after : S) : Prop :=
  after = before ∨ ∃ address data, after = (lower (.write address data) before).2

/-- The ways in which a read succeeds under the plain policy, by whether the cache holds the block:
from the line of the block, or with the block that is read below, after another one was pushed out.
-/
inductive ReadCourse (lower : Storage S) (address : Nat) (latency : Latency) (below : S) :
    Bool → Access → S → Prop
  | hit : ReadCourse lower address latency below true ⟨true, latency.hitTime⟩ below
  | miss {flushed : S} {access : Access} (flushes : Flushed lower below flushed)
    (served : (lower (.read (blockOf address) blockSize) flushed).1.outcome = .ok access) :
    ReadCourse lower address latency below false ⟨false, access.total + latency.bus⟩
      (lower (.read (blockOf address) blockSize) flushed).2

theorem makeRoom_flushes (lower : Storage S) (set : Nat) :
    Ends (makeRoom lower set) state (fun _ next => Flushed lower state.below next.below)
      fun _ _ => True := by
  simp only [makeRoom, ends_bind, ends_current]
  split
  · exact .inl rfl
  · simp only [ends_bind, ends_update]
    split
    · simp only [ends_bind, ends_ask, ends_discard, ends_note, ends_update, ends_pure]
      exact ends_spent (fun _ _ => .inr ⟨_, _, rfl⟩) fun _ _ => trivial
    · exact .inl rfl

theorem fill_reads (lower : Storage S) (index address : Nat) :
    Ends (fill lower index address) state
      (fun total next => ∃ access, access.total = total ∧
        (lower (.read (blockOf address) blockSize) state.below).1.outcome = .ok access ∧
        next.below = (lower (.read (blockOf address) blockSize) state.below).2)
      fun _ _ => True := by
  simp only [fill, ends_bind, ends_ask]
  exact ends_spent (fun access served => ⟨access, rfl, served, rfl⟩) fun _ _ => trivial

theorem allocate_reads (lower : Storage S) (address length : Nat) :
    Ends (allocate lower (.read address length)) state
      (fun access next => ReadCourse lower address state.cache.latency state.below false access
        next.below) fun _ _ => True := by
  simp only [allocate, countTime, countForwarded, ends_bind, ends_current, ends_pure]
  refine (makeRoom_flushes ..).mono (fun index room flushes => ?_) fun _ _ _ => trivial
  refine (fill_reads ..).mono (fun total next filled => ?_) fun _ _ _ => trivial
  obtain ⟨access, rfl, served, below⟩ := filled
  simp only [ends_update, ends_deliver, ends_note]
  rw [below, Nat.zero_add]
  exact .miss flushes served

theorem serveLookedUp_reads (lower : Storage S) (address length : Nat) :
    Ends (serveLookedUp lower (.read address length)) state
      (fun access next => ReadCourse lower address state.cache.latency state.below
        (state.cache.contains address) access next.below) fun _ _ => True := by
  simp only [serveLookedUp, ends_bind, ends_current]
  split
  · next index found =>
    rw [contains, show state.cache.lookup address = some index from found]
    exact .hit
  · next found =>
    rw [contains, show state.cache.lookup address = none from found]
    simp only [ends_bind, ends_update]
    exact allocate_reads lower address length

/-- Under the plain policy nothing is asked below after a request was served. -/
theorem followUp_below (plain : state.cache.policy = Policy.plain σ) (access : Access) :
    Ends (followUp lower request access) state
      (fun served next => served = access ∧ next.below = state.below) fun _ _ => False := by
  simp only [followUp, consultPrefetch, ends_bind, ends_current, ends_update, ends_note, ends_pure,
    plain, Policy.plain]
  exact ⟨trivial, trivial⟩

theorem attend_reads (lower : Storage S) (address length : Nat)
    (plain : state.cache.policy = Policy.plain σ) :
    Ends (attend lower (.read address length)) state
      (fun access next => ReadCourse lower address state.cache.latency state.below
        (state.cache.contains address) access next.below) fun _ _ => True := by
  rw [ends_attend, if_neg (not_bypasses_of_plain plain _), ends_bind]
  refine Ends.mono ((serveLookedUp_reads lower address length).and (serveLookedUp_setup ..))
    (fun access next served => ?_) fun _ _ _ => trivial
  obtain ⟨course, same⟩ := served
  have plain' : next.cache.policy = Policy.plain σ := (congrArg (·.2.2) same).trans plain
  refine (followUp_below plain' access).mono (fun last after follows => ?_) fun _ _ _ => trivial
  obtain ⟨rfl, below⟩ := follows
  rw [below]
  exact course

/-- A request that succeeds was not refused. -/
theorem refusal?_of_served {below : S} {access : Access}
    (served : (serve lower request (cache, below)).1.outcome = .ok access) :
    cache.refusal? request = none := by
  cases refused : cache.refusal? request with
  | none => rfl
  | some kind =>
    simp only [serve, refused] at served
    cases served

/-- A read that succeeds under the plain policy takes one of its courses. -/
theorem readCourse_of_served (lower : Storage S) {below : S} {length : Nat} {access : Access}
    (plain : cache.policy = Policy.plain σ)
    (served : (serve lower (.read address length) (cache, below)).1.outcome = .ok access) :
    ReadCourse lower address cache.latency below (cache.contains address) access
      (serve lower (.read address length) (cache, below)).2.2 := by
  refine serve_ends (motive := fun reply after => ∀ access, reply.outcome = .ok access →
    ReadCourse lower address cache.latency below (cache.contains address) access after.2)
    (refusal?_of_served served) ?_ access served
  refine (attend_reads lower address length plain).mono (fun access next course => ?_)
    fun fault next _ => nofun
  rintro access' ⟨⟩
  exact course

/-! ### Blocks that are held -/

theorem contains_congr {next : Cache σ} (arranged : cache.Arranged) (arranged' : next.Arranged)
    (same : ∀ i n, next.HoldsAt i n ↔ cache.HoldsAt i n) (address : Nat) :
    next.contains address = cache.contains address := by
  rw [Bool.eq_iff_iff, contains_iff_holds arranged, contains_iff_holds arranged']
  exact exists_congr fun i => same i _

theorem contains_of_agrees {next : Cache σ} (agrees : cache.Agrees next) (address : Nat) :
    next.contains address = cache.contains address := congrArg Option.isSome agrees.lookup_eq

theorem contains_touch (arranged : cache.Arranged) (index address : Nat) :
    (cache.touch index).contains address = cache.contains address :=
  have same := SameBlocks.touch cache index
  contains_congr arranged (same.arranged arranged) (fun _ _ => same.holdsAt_iff) address

/-- The block of a request that succeeds is held afterwards. -/
theorem Turn.contains {next : Cache σ} {access : Access} (arranged : cache.Arranged)
    (turn : Turn address cache (.ok access) next) : next.contains address = true := by
  cases turn with
  | hit found hit agrees =>
    rw [contains_of_agrees agrees, contains_touch arranged]
    exact Option.isSome_of_eq_some found
  | @brought _ data _ absent miss agrees =>
    have arranged' : (cache.brought address data).Arranged :=
      (SameBlocks.touch ..).arranged ((arranged_cleared arranged _).modifyLine ..)
    have held : (cache.brought address data).contains address = true :=
      (contains_iff_holds arranged').mpr ⟨_, (holdsAt_brought arranged).mpr (.inl ⟨rfl, rfl⟩)⟩
    rw [contains_of_agrees agrees]
    exact held

theorem contains_of_served (lower : Storage S) {below : S} {length : Nat} {access : Access}
    (arranged : cache.Arranged) (plain : cache.policy = Policy.plain σ)
    (served : (serve lower (.read address length) (cache, below)).1.outcome = .ok access) :
    (serve lower (.read address length) (cache, below)).2.1.contains address = true := by
  have turn : Turn address cache _ _ := serve_turn lower below plain
    (fun writes => by cases writes) (refusal?_of_served served)
  rw [served] at turn
  exact turn.contains arranged

/-! ### Writes that do not allocate -/

/-- The same blocks are held, and the storage below was asked the same at most. -/
structure Unmoved (lower : Storage S) (request : Request) (before after : ServiceState σ S) :
    Prop where
  held : ∀ address, after.cache.contains address = before.cache.contains address
  below : after.below = before.below ∨ after.below = (lower request before.below).2

theorem serveHit_unmoved (lower : Storage S) (index address : Nat) (bytes : Bytes)
    (arranged : state.cache.Arranged) :
    Ends (serveHit lower index (.write address bytes)) state
      (fun _ next => Unmoved lower (.write address bytes) state next)
      (fun _ next => Unmoved lower (.write address bytes) state next) := by
  have below : Ends (serveHit lower index (.write address bytes)) state
      (fun _ next => next.below = state.below ∨
        next.below = (lower (.write address bytes) state.below).2)
      (fun _ next => next.below = state.below ∨
        next.below = (lower (.write address bytes) state.below).2) := by
    simp only [serveHit, countTime, countForwarded, ends_bind, ends_current, ends_update]
    split
    · simp only [ends_bind, ends_ask, ends_update, ends_pure]
      exact ends_spent (fun _ _ => .inr rfl) fun _ _ => .inr rfl
    · exact .inl rfl
  have held {next : Cache σ} (agrees : (state.cache.touch index).Agrees next) (other : Nat) :
      next.contains other = state.cache.contains other :=
    (contains_of_agrees agrees other).trans (contains_touch arranged index other)
  exact Ends.mono ((serveHit_touches ..).and below)
    (fun _ _ served => ⟨held served.1.2, served.2⟩) fun _ _ failed => ⟨held failed.1, failed.2⟩

theorem passOn_unmoved (lower : Storage S) (request : Request) :
    Ends (passOn lower request) state (fun _ next => Unmoved lower request state next)
      (fun _ next => Unmoved lower request state next) := by
  simp only [passOn, countForwarded, ends_bind, ends_ask]
  split
  · simp only [ends_bind, ends_deliver, ends_update, ends_pure]
    exact ends_spent (fun _ _ => ⟨fun _ => rfl, .inr rfl⟩) fun _ _ => ⟨fun _ => rfl, .inr rfl⟩
  · simp only [ends_bind, ends_update, ends_pure]
    exact ends_spent (fun _ _ => ⟨fun _ => rfl, .inr rfl⟩) fun _ _ => ⟨fun _ => rfl, .inr rfl⟩

/-- A write to a cache that does not allocate moves no blocks there. -/
theorem serveLookedUp_unmoved (lower : Storage S) (address : Nat) (bytes : Bytes)
    (arranged : state.cache.Arranged) (quiet : state.cache.geometry.writeAllocate = false) :
    Ends (serveLookedUp lower (.write address bytes)) state
      (fun _ next => Unmoved lower (.write address bytes) state next)
      (fun _ next => Unmoved lower (.write address bytes) state next) := by
  simp only [serveLookedUp, ends_bind, ends_current]
  split
  · exact serveHit_unmoved lower _ address bytes arranged
  · simp only [ends_bind, ends_update, serveMiss, ends_current]
    have passes : ((Request.write address bytes).kind == .write &&
        !(state.cache.count fun s => { s with misses := s.misses + 1 }).geometry.writeAllocate) =
        true := by
      simp only [count, quiet]
      rfl
    rw [if_pos passes]
    exact (passOn_unmoved lower (.write address bytes)).mono
      (fun _ _ same => ⟨same.held, same.below⟩) fun _ _ same => ⟨same.held, same.below⟩

theorem serve_unmoved (lower : Storage S) (address : Nat) (bytes : Bytes) (below : S)
    (arranged : cache.Arranged) (plain : cache.policy = Policy.plain σ)
    (quiet : cache.geometry.writeAllocate = false) :
    let after := (serve lower (.write address bytes) (cache, below)).2
    Unmoved lower (.write address bytes) { cache, below }
      { cache := after.1, below := after.2 } := by
  intro after
  cases refused : cache.refusal? (.write address bytes) with
  | some kind =>
    simp only [after, serve, refused]
    exact ⟨fun _ => rfl, .inl rfl⟩
  | none =>
    refine serve_ends (motive := fun _ after => Unmoved lower (.write address bytes)
      { cache, below } { cache := after.1, below := after.2 }) refused ?_
    rw [ends_attend, if_neg (not_bypasses_of_plain plain _), ends_bind]
    generalize start_eq : announced (Request.write address bytes).address _ = start
    have starts : cache.SameLines start.cache := start_eq ▸ ⟨rfl, rfl, rfl⟩
    have starts_below : start.below = below := start_eq ▸ rfl
    have held (other : Nat) : start.cache.contains other = cache.contains other :=
      congrArg Option.isSome starts.lookup_eq
    refine Ends.mono ((serveLookedUp_unmoved lower address bytes (starts.blocks.arranged arranged)
      (starts.geometry ▸ quiet)).and (serveLookedUp_setup ..))
      (fun access next served => ?_) fun _ next failed => ?_
    · obtain ⟨unmoved, same⟩ := served
      have plain' : next.cache.policy = Policy.plain σ :=
        ((congrArg (·.2.2) same).trans starts.policy).trans plain
      refine ((followUp_plain lower _ access plain').and (followUp_below plain' access)).mono
        (fun _ last follows => ?_) fun _ _ none => none.2.elim
      obtain ⟨⟨-, agrees⟩, -, same_below⟩ := follows
      refine ⟨fun other => ?_, ?_⟩
      · exact (contains_of_agrees agrees other).trans ((unmoved.held other).trans (held other))
      · rw [← starts_below, same_below]
        exact unmoved.below
    · refine ⟨fun other => (failed.1.held other).trans (held other), ?_⟩
      rw [← starts_below]
      exact failed.1.below

end Cache

namespace Chain

variable {σ : Type} {n : Nat} {chain : Chain σ n} {address : Nat}

/-! ### Levels -/

/-- For each cache, from the top, whether it holds the block of an address. -/
def held (chain : Chain σ n) (address : Nat) : List Bool := chain.caches.map (·.contains address)

/-- The first level that holds the block of an address; the memory if no cache does. -/
def holder (chain : Chain σ n) (address : Nat) : Nat :=
  chain.caches.findIdx (·.contains address)

/-- The timing of the storage at the given depth: a cache, or the memory below all of them. -/
def latencyAt (depth : Nat) {n : Nat} (chain : Chain σ n) : Latency :=
  match chain.caches[depth]? with
  | some cache => cache.latency
  | none => chain.memory.latency

/-- The cycles of a read that is served at the given depth: the buses of the levels above, and the
whole latency there. -/
def readCost (depth : Nat) (chain : Chain σ n) : Nat :=
  ((chain.caches.take depth).map (·.latency.bus)).sum + (chain.latencyAt depth).hit +
    (chain.latencyAt depth).bus

/-- Every cache of the chain has its lines in sets, and the plain policy. -/
structure Regular (chain : Chain σ n) : Prop where
  arranged : ∀ cache ∈ chain.caches, cache.Arranged
  plain : ∀ cache ∈ chain.caches, cache.policy = Policy.plain σ

/-- No cache of the chain brings in blocks for writes. -/
def Quiet (chain : Chain σ n) : Prop :=
  ∀ cache ∈ chain.caches, cache.geometry.writeAllocate = false

theorem arranged_serve (request : Request) (chain : Chain σ n)
    (arranged : ∀ cache ∈ chain.caches, cache.Arranged) :
    ∀ cache ∈ (chain.serve request).2.caches, cache.Arranged := by
  induction n generalizing request with
  | zero =>
    cases chain with
    | ground memory => exact arranged
  | succ n ih =>
    cases chain with
    | level cache below =>
      obtain ⟨here, there⟩ := List.forall_mem_cons.mp arranged
      have steps := Cache.serve_steps serve request (cache, below) here
      have below' := (Cache.setup_serve serve
        (fun after : Chain σ n => ∀ cache ∈ after.caches, cache.Arranged)
        (fun request after kept => ih request after kept) request cache there).2
      exact List.forall_mem_cons.mpr ⟨steps.arranged here, below'⟩

theorem Regular.serve (regular : chain.Regular) (request : Request) :
    (chain.serve request).2.Regular where
  arranged := arranged_serve request chain regular.arranged
  plain := forall_of_map_setup (fun setup => setup.2.2 = Policy.plain σ)
    (congrArg Prod.fst (setup_serve request chain)) regular.plain

theorem Quiet.serve (quiet : chain.Quiet) (request : Request) : (chain.serve request).2.Quiet :=
  forall_of_map_setup (fun setup => setup.1.writeAllocate = false)
    (congrArg Prod.fst (setup_serve request chain)) quiet

theorem Regular.cons_iff {cache : Cache σ} {below : Chain σ n} :
    (Chain.level cache below).Regular ↔
      (cache.Arranged ∧ cache.policy = Policy.plain σ) ∧ below.Regular := by
  constructor
  · rintro ⟨arranged, plain⟩
    obtain ⟨arranged, arranged'⟩ := List.forall_mem_cons.mp arranged
    obtain ⟨plain, plain'⟩ := List.forall_mem_cons.mp plain
    exact ⟨⟨arranged, plain⟩, arranged', plain'⟩
  · rintro ⟨⟨arranged, plain⟩, arranged', plain'⟩
    exact ⟨List.forall_mem_cons.mpr ⟨arranged, arranged'⟩,
      List.forall_mem_cons.mpr ⟨plain, plain'⟩⟩

/-- Writes move no blocks in levels that do not allocate. -/
theorem held_write (chain : Chain σ n) (regular : chain.Regular) (quiet : chain.Quiet)
    (address other : Nat) (bytes : Bytes) :
    (chain.serve (.write address bytes)).2.held other = chain.held other := by
  induction n with
  | zero =>
    cases chain with
    | ground memory => rfl
  | succ n ih =>
    cases chain with
    | level cache below =>
      obtain ⟨⟨arranged, plain⟩, regular'⟩ := Regular.cons_iff.mp regular
      obtain ⟨here, there⟩ := List.forall_mem_cons.mp quiet
      have unmoved := Cache.serve_unmoved serve address bytes below arranged plain here
      refine congrArg₂ List.cons (unmoved.held other) ?_
      -- the level below was not asked, or it was asked the same
      rcases unmoved.below with same | asked
      · exact congrArg (held · other) same
      · exact (congrArg (held · other) asked).trans (ih below regular' there)

/-! ### Reads -/

theorem contains_blockOf (cache : Cache σ) (address : Nat) :
    cache.contains (blockOf address) = cache.contains address := by
  have number : blockOf address / blockSize = address / blockSize := by
    rw [blockOf_eq_mul, Nat.mul_div_cancel _ (by decide)]
  simp only [Cache.contains, Cache.lookup, Cache.setOf, Cache.tagOf, number]

theorem holder_eq_findIdx (chain : Chain σ n) (address : Nat) :
    chain.holder address = (chain.held address).findIdx id := by
  rw [held, List.findIdx_map]
  rfl

theorem holder_blockOf (chain : Chain σ n) (address : Nat) :
    chain.holder (blockOf address) = chain.holder address := by
  simp only [holder, contains_blockOf]

theorem latencyAt_eq_setup (chain : Chain σ n) (depth : Nat) : chain.latencyAt depth =
    (chain.setup.1[depth]?.map (·.2.1)).getD chain.setup.2 := by
  rw [latencyAt, setup, List.getElem?_map]
  cases chain.caches[depth]? <;> rfl

/-- What a read costs is a matter of the setup. -/
theorem readCost_congr {chain next : Chain σ n} (same : next.setup = chain.setup) (depth : Nat) :
    next.readCost depth = chain.readCost depth := by
  have buses (chain : Chain σ n) : (chain.caches.take depth).map (·.latency.bus) =
      (chain.setup.1.take depth).map (·.2.1.bus) := by
    rw [setup, ← List.map_take, List.map_map]
    rfl
  rw [readCost, readCost, buses, buses, latencyAt_eq_setup, latencyAt_eq_setup, same]

/-- A level that is passed costs its bus. -/
theorem readCost_succ (cache : Cache σ) (below : Chain σ n) (depth : Nat) :
    (Chain.level cache below).readCost (depth + 1) = below.readCost depth + cache.latency.bus := by
  have buses : (((Chain.level cache below).caches.take (depth + 1)).map (·.latency.bus)).sum =
      cache.latency.bus + ((below.caches.take depth).map (·.latency.bus)).sum := List.sum_cons
  have place : (Chain.level cache below).latencyAt (depth + 1) = below.latencyAt depth := rfl
  rw [readCost, readCost, buses, place]
  omega

theorem holder_level_of_held {cache : Cache σ} (below : Chain σ n)
    (held : cache.contains address = true) : (Chain.level cache below).holder address = 0 := by
  simp only [holder, caches, List.findIdx_cons, held, cond_true]

theorem holder_level_of_absent {cache : Cache σ} (below : Chain σ n)
    (absent : cache.contains address = false) :
    (Chain.level cache below).holder address = below.holder address + 1 := by
  simp only [holder, caches, List.findIdx_cons, absent, cond_false]

/-- Writing back a block changes neither the setup nor which blocks are held, where no cache
allocates. -/
theorem kept_of_flushed {chain next : Chain σ n} (regular : chain.Regular) (quiet : chain.Quiet)
    (flushes : Cache.Flushed serve chain next) (address : Nat) :
    next.Regular ∧ next.Quiet ∧ next.setup = chain.setup ∧
      next.holder address = chain.holder address := by
  rcases flushes with rfl | ⟨place, data, rfl⟩
  · exact ⟨regular, quiet, rfl, rfl⟩
  · refine ⟨regular.serve _, quiet.serve _, setup_serve _ _, ?_⟩
    rw [holder_eq_findIdx, holder_eq_findIdx, held_write chain regular quiet]

/-- A read that was served at the given depth: it cost what a read costs there, was a hit if that is
the top, and has left the block in all levels down to it. -/
structure ReadAt (before : Chain σ n) (address depth : Nat) (access : Access)
    (after : Chain σ n) : Prop where
  access_eq : access = ⟨decide (depth = 0), before.readCost depth⟩
  held : ∀ cache ∈ after.caches.take (depth + 1), cache.contains address = true

namespace ReadAt

variable {cache next : Cache σ} {below after : Chain σ n} {depth : Nat} {access : Access}

/-- A hit at the top. -/
theorem top (held : next.contains address = true) :
    ReadAt (.level cache below) address 0 ⟨true, cache.latency.hitTime⟩ (.level next after) where
  access_eq := by simp [readCost, latencyAt, caches, Latency.hitTime]
  held := by
    rw [caches, Nat.zero_add, List.take_succ_cons, List.take_zero, List.forall_mem_singleton]
    exact held

/-- A read that was served below, and has brought the block to the top as well. -/
theorem deeper (served : ReadAt below address depth access after)
    (held : next.contains address = true) :
    ReadAt (.level cache below) address (depth + 1) ⟨false, access.total + cache.latency.bus⟩
      (.level next after) where
  access_eq := by
    rw [served.access_eq, readCost_succ, decide_eq_false (Nat.succ_ne_zero _)]
  held := by
    rw [caches, List.take_succ_cons, List.forall_mem_cons]
    exact ⟨held, served.held⟩

/-- Reading its first byte's block is reading an address, in a chain that is set up alike. -/
theorem of_block {before : Chain σ n} (served : ReadAt before (blockOf address) depth access after)
    (same : before.setup = below.setup) : ReadAt below address depth access after where
  access_eq := by rw [served.access_eq, readCost_congr same]
  held cache member := contains_blockOf cache address ▸ served.held cache member

end ReadAt

/-- A read that succeeds is served at the first level that holds the block. -/
theorem read_served (chain : Chain σ n) (regular : chain.Regular)
    (quiet : ∀ cache ∈ chain.caches.tail, cache.geometry.writeAllocate = false)
    {length : Nat} {access : Access}
    (served : (chain.serve (.read address length)).1.outcome = .ok access) :
    chain.ReadAt address (chain.holder address) access (chain.serve (.read address length)).2 := by
  induction n generalizing address length access with
  | zero =>
    cases chain with
    | ground memory =>
      refine ⟨?_, nofun⟩
      simp only [serve, Memory.serve] at served
      split at served
      · rw [← Except.ok.inj served, readCost]
        simp [holder, latencyAt, caches, Chain.memory, Latency.hitTime]
      · cases served
  | succ n ih =>
    cases chain with
    | level cache below =>
      obtain ⟨⟨arranged, plain⟩, regular'⟩ := Regular.cons_iff.mp regular
      have course := Cache.readCourse_of_served serve plain served
      have brought := Cache.contains_of_served serve arranged plain served
      have after : ((Chain.level cache below).serve (.read address length)).2 =
          .level (Cache.serve serve (.read address length) (cache, below)).2.1
            (Cache.serve serve (.read address length) (cache, below)).2.2 := rfl
      rw [after]
      generalize Cache.serve serve (.read address length) (cache, below) = result at *
      obtain ⟨reply, next, last⟩ := result
      cases held : cache.contains address with
      | true =>
        rw [held] at course
        rw [holder_level_of_held below held]
        cases course
        exact .top brought
      | false =>
        rw [held] at course
        rw [holder_level_of_absent below held]
        cases course with
        | @miss flushed access flushes found =>
          -- the block that was pushed out changes nothing about the read below
          obtain ⟨regular'', quiet'', same, holder⟩ :=
            kept_of_flushed regular' quiet flushes address
          have read := ih flushed regular'' (fun cache member =>
            quiet'' cache (List.mem_of_mem_tail member)) found
          rw [holder_blockOf, holder] at read
          exact ReadAt.deeper (read.of_block same) brought

/-! ### New caches -/

theorem Regular.after (regular : chain.Regular) (requests : List Request) :
    (Storage.after Chain.serve requests chain).Regular := by
  induction requests generalizing chain with
  | nil => exact regular
  | cons request rest ih => exact ih (regular.serve request)

/-- What reads cost in a chain of new caches with the plain policy of which none below the top
allocates on writes, whatever was asked of it before, failing requests included: the bus of each
level above the first one that holds the block, and the whole latency of that one, added up in a
word. No block that is pushed out on the way is charged or changes which level that is. -/
theorem read_cost (memory : Memory) (caches : List (Cache σ))
    (fresh : ∀ cache ∈ caches, cache.Fresh)
    (plain : ∀ cache ∈ caches, cache.policy = Policy.plain σ)
    (quiet : ∀ cache ∈ caches.tail, cache.geometry.writeAllocate = false)
    (requests : List Request) (address length : Nat) (access : Access) :
    let configured := ofCaches memory caches
    let chain := Storage.after serve requests configured
    let depth := chain.holder address
    let served := chain.serve (.read address length)
    served.1.outcome = .ok access →
      access.total = configured.readCost depth ∧
        access.cycles = wrapped (configured.readCost depth) ∧ (access.hit = true ↔ depth = 0) ∧
        ∀ cache ∈ served.2.caches.take (depth + 1), cache.contains address = true := by
  intro configured chain depth served success
  have regular : configured.Regular := by
    refine ⟨fun cache member => ?_, fun cache member => ?_⟩ <;>
      rw [caches_ofCaches] at member
    · exact (fresh cache member).arranged
    · exact plain cache member
  have same : chain.setup = configured.setup := setup_after requests configured
  have setups : chain.caches.tail.map Cache.setup = configured.caches.tail.map Cache.setup := by
    rw [List.map_tail, List.map_tail]
    exact congrArg (·.1.tail) same
  have quiet' : ∀ cache ∈ chain.caches.tail, cache.geometry.writeAllocate = false := by
    refine forall_of_map_setup (fun setup => setup.1.writeAllocate = false) setups ?_
    rw [caches_ofCaches]
    exact quiet
  obtain ⟨rfl, held⟩ := read_served chain (regular.after requests) quiet' success
  have total := readCost_congr same depth
  exact ⟨total, congrArg wrapped total, decide_eq_true_iff, held⟩

/-- A cache of one line over one of two lines that does not allocate, each with a latency. -/
def pacedLevels : List (Cache Unit) :=
  [{ name := "upper", memo := (), geometry := ⟨64, 1, 1, false, true⟩, latency := ⟨1, 2⟩,
     lines := Cache.freshLines ⟨64, 1, 1, false, true⟩ },
    { name := "lower", memo := (), geometry := ⟨128, 1, 2, false, false⟩, latency := ⟨4, 8⟩,
      lines := Cache.freshLines ⟨128, 1, 2, false, false⟩ }]

/-- A dirty block is pushed out by a read of another block, which has to come from a memory so slow
that a word cannot hold all the cycles. -/
theorem read_cost_pacedLevels :
    let configured := ofCaches { size := 256, latency := ⟨2 ^ 64 - 1, 51⟩ } pacedLevels
    let chain := Storage.after serve [.read 0 8, .write 0 [7]] configured
    let served := chain.serve (.read 64 8)
    let access : Access := ⟨false, 2 ^ 64 + 60⟩
    (served.1.outcome = .ok access ∧ chain.holder 64 = 2 ∧ access.total = configured.readCost 2 ∧
      access.cycles = wrapped (configured.readCost 2) ∧
      ∀ cache ∈ served.2.caches.take 3, cache.contains 64 = true) ∧ access.cycles = 60 := by
  intro configured chain served access
  have new : ∀ cache ∈ pacedLevels, cache.Fresh ∧ cache.policy = Policy.plain Unit := by
    simp only [pacedLevels, List.forall_mem_cons, List.not_mem_nil, false_implies, implies_true,
      and_true]
    exact ⟨⟨{ name := "upper", memo := (), latency := ⟨1, 2⟩ }, ⟨64, 1, 1, false, true⟩, rfl⟩,
      ⟨{ name := "lower", memo := (), latency := ⟨4, 8⟩ }, ⟨128, 1, 2, false, false⟩, rfl⟩⟩
  have quiet : ∀ cache ∈ pacedLevels.tail, cache.geometry.writeAllocate = false := by
    simp [pacedLevels]
  have success : served.1.outcome = .ok access := by decide +kernel
  have depth : chain.holder 64 = 2 := by decide +kernel
  obtain ⟨cost, told, -, blocks⟩ := read_cost
    { size := 256, latency := ⟨2 ^ 64 - 1, 51⟩ } pacedLevels
    (fun cache member => (new cache member).1) (fun cache member => (new cache member).2) quiet
    [.read 0 8, .write 0 [7]] 64 8 access success
  rw [show Chain.holder _ 64 = 2 from depth] at cost told blocks
  exact ⟨⟨success, depth, cost, told, blocks⟩, by decide⟩

end Chain

end FiveStage
