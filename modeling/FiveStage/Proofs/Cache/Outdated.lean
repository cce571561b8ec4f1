import FiveStage.Proofs.Cache.Copies
import FiveStage.Proofs.Cache.Inclusion
import FiveStage.Proofs.Cache.Prefetching

/-!
# Chains with outdated copies

A chain keeps serving requests after bytes were put into its memory past the caches. It need not
show those bytes, but what it shows at a place is one of a set of bytes that can be told in advance:
the byte that was put there, and as long as a cache had the place, what could be seen there before.
A place that no cache had shows the new byte and nothing else.

## Main definitions

* `Chain.Offers`: what may be seen at a place of a chain, now and later

## Main results

* `Cache.upholds_serve`: a cache over a storage that keeps to what may be seen keeps to it itself
* `Chain.upholds_serve`: chains do, down to the memory
* `Chain.Offers.loaded`: what may be seen after a byte was put into memory
-/

namespace FiveStage

namespace Cache

variable {σ S : Type} {lower : Storage S} {opened : Nat → Prop} {place index address set : Nat}
  {Lower : Set UInt8 → S → Prop} {seen : Set UInt8} {state : ServiceState σ S} {request : Request}

/-! ### The steps of a request -/

section Steps

variable (upholds : lower.Upholds opened place Lower)
include upholds

theorem makeRoom_offers (offers : Offering opened place Lower seen state)
    (inSets : set < state.cache.sets) :
    Ends (makeRoom lower set) state (fun _ next => Offering opened place Lower seen next)
      fun _ _ => False := by
  simp only [makeRoom, ends_bind, ends_current]
  cases found : state.cache.vacant? set with
  | some index => exact offers
  | none =>
    obtain ⟨inSet, held⟩ := victim_holds offers.tidy.arranged inSets found
    have whole := offers.whole _ _ held
    simp only [ends_bind, ends_update]
    split
    · simp only [ends_bind, ends_ask, ends_discard, ends_note, ends_update, ends_pure]
      rw [addressOf_eq inSet]
      generalize request_eq : Request.write _ _ = request
      have inBlock : request.InBlock := by
        simp [← request_eq, Request.InBlock, Request.address, Request.length, whole, blockOffset]
      have number : request.address / blockSize =
          state.cache.blockNumber (state.cache.victim set) := by
        rw [← request_eq, Request.address, Nat.mul_div_cancel _ (by decide)]
      have meets := upholds.meets offers.below inBlock (number ▸ offers.opened _ _ held)
      obtain ⟨access, outcome⟩ := meets.served
      refine (ends_spent_of_ok outcome).mpr ?_
      have written := upholds.mono (request_eq ▸ offers.leaves_writeBack held) _ meets.leaves
      exact (offers.giveUp inSets found written).count upholds.mono
        fun s => { s with replacements := s.replacements + 1 }
    · next notDirty =>
      have clean : (state.cache.line (state.cache.victim set)).dirty = false := by
        simpa using notDirty
      have bare := upholds.mono (beneath_subset (Offers.shields_giveUp held fun _ => clean)
        (Set.Subset.refl _)) _ offers.below
      simp only [ends_bind, ends_update, ends_pure]
      exact (offers.giveUp inSets found bare).count upholds.mono
        fun s => { s with replacements := s.replacements + 1 }

theorem fill_offers (offers : Offering opened place Lower seen state)
    (inSet : state.cache.setOfLine index = state.cache.setOf address)
    (vacant : (state.cache.line index).valid = false) (absent : state.cache.lookup address = none)
    (opens : opened (address / blockSize)) :
    Ends (fill lower index address) state (fun _ next => Offering opened place Lower seen next)
      fun _ _ => False := by
  have start := blockOf_eq_mul address
  have number : blockOf address / blockSize = address / blockSize := by
    rw [start, Nat.mul_div_cancel _ (by decide)]
  have inBlock : (Request.read (blockOf address) blockSize).InBlock := by
    simp [Request.InBlock, Request.address, Request.length, start, blockOffset]
  have meets := upholds.meets offers.below inBlock (by rwa [Request.address, number])
  obtain ⟨access, outcome⟩ := meets.served
  obtain ⟨data, delivered, whole, byte⟩ := meets.brings _ _ rfl
  simp only [fill, ends_bind, ends_ask]
  refine (ends_spent_of_ok outcome).mpr ?_
  simp only [ends_update, ends_pure, delivered, Option.getD_some]
  refine offers.fill upholds.mono inSet vacant absent opens whole (fun here => ?_) meets.leaves
  have bare : ¬ state.cache.Shields place := by
    rintro ⟨i, held, -⟩
    exact offers.tidy.arranged.lookup_eq_none_iff.mp absent i (here ▸ held)
  have same : blockOf address + blockOffset place = place := by
    rw [start, here, blockNumber_mul_add_blockOffset]
  have shown := byte (blockOffset place) (blockOffset_lt place) same
  rwa [beneath_of_not_shields bare] at shown

theorem serveHit_offers (offers : Offering opened place Lower seen state)
    (found : state.cache.lookup request.address = some index) (inBlock : request.InBlock)
    (opens : opened (request.address / blockSize)) :
    Ends (serveHit lower index request) state
      (fun _ next => Offering opened place Lower (request.leaves place seen) next ∧
        request.Brings place seen next.delivered) fun _ _ => False := by
  have held := offers.tidy.arranged.holdsAt_of_lookup found
  simp only [serveHit, countTime, ends_bind, ends_current, ends_update]
  generalize used_eq : (state.cache.count _).touch index = used
  have same : state.cache.SameBlocks used := by
    rw [← used_eq]
    exact (SameBlocks.count ..).trans (SameBlocks.touch ..)
  have used_offers := offers.blocks upholds.mono same
  cases request with
  | read address length =>
    simp only [ends_bind, ends_deliver, ends_pure]
    refine ⟨used_offers, Request.brings_slice (offers.whole _ _ held) inBlock fun here => ?_⟩
    exact offers.byte index (here ▸ held)
  | write address bytes =>
    have held' := same.holdsAt_iff.mpr held
    simp only [ends_bind, ends_update]
    rw [← same.geometry]
    split
    · next through =>
      have meets := upholds.meets used_offers.below inBlock opens
      obtain ⟨access, outcome⟩ := meets.served
      simp only [ends_bind, ends_ask, countForwarded, ends_update, ends_pure]
      refine (ends_spent_of_ok outcome).mpr ⟨?_, Request.brings_write _⟩
      have written := meets.leaves
      rw [beneath_of_not_shields (used_offers.not_shields_of_through through)] at written
      have stored := used_offers.store held' inBlock (upholds.mono (fun _ => .inr) _ written)
      exact stored.count upholds.mono fun s => { s with forwarded := s.forwarded + 1 }
    · next late =>
      -- a dirty line shields the bytes below, whatever they are
      have below := upholds.mono (Offers.beneath_store held' inBlock (by simpa using late)) _
        used_offers.below
      exact ⟨used_offers.store held' inBlock below, Request.brings_write _⟩

theorem passOn_offers (offers : Offering opened place Lower seen state) {bytes : Bytes}
    (absent : state.cache.lookup address = none) (inBlock : (Request.write address bytes).InBlock)
    (opens : opened (address / blockSize)) :
    Ends (passOn lower (.write address bytes)) state
      (fun _ next => Offering opened place Lower
        ((Request.write address bytes).leaves place seen) next) fun _ _ => False := by
  have meets := upholds.meets offers.below inBlock opens
  obtain ⟨access, outcome⟩ := meets.served
  have passed : state.cache.Offers opened place Lower
      ((Request.write address bytes).leaves place seen) _ := offers.pass absent inBlock meets.leaves
  have counted := passed.count upholds.mono fun s => { s with forwarded := s.forwarded + 1 }
  simp only [passOn, countForwarded, ends_bind, ends_ask]
  split
  · simp only [ends_bind, ends_deliver, ends_update, ends_pure]
    exact (ends_spent_of_ok outcome).mpr counted
  · simp only [ends_bind, ends_update, ends_pure]
    exact (ends_spent_of_ok outcome).mpr counted

/-- When room was made for a block, the block is still in no line. -/
theorem makeRoom_absent_offers (offers : Offering opened place Lower seen state)
    (absent : state.cache.lookup address = none) :
    Ends (makeRoom lower (state.cache.setOf address)) state
      (fun index next => Offering opened place Lower seen next ∧
        next.cache.setOfLine index = next.cache.setOf address ∧
        (next.cache.line index).valid = false ∧ next.cache.lookup address = none)
      fun _ _ => False := by
  have inSets := offers.tidy.arranged.setOf_lt address
  refine Ends.mono ((makeRoom_offers upholds offers inSets).and
    (makeRoom_steps offers.tidy.arranged inSets)) (fun index next made => ?_) fun _ _ none => none.1
  obtain ⟨offers', cleared, inSet, vacant⟩ := made
  have sets : next.cache.setOf address = state.cache.setOf address :=
    setOf_congr (sets_congr cleared.steps.shape.1 cleared.steps.shape.2)
  exact ⟨offers', inSet.trans sets.symm, vacant,
    cleared.lookup_eq_none offers.tidy.arranged absent⟩

theorem allocate_offers (offers : Offering opened place Lower seen state)
    (absent : state.cache.lookup request.address = none) (inBlock : request.InBlock)
    (opens : opened (request.address / blockSize)) :
    Ends (allocate lower request) state
      (fun _ next => Offering opened place Lower (request.leaves place seen) next ∧
        request.Brings place seen next.delivered) fun _ _ => False := by
  have counted {seen : Set UInt8} {cache : Cache σ} {below : S} (time : Nat)
      (filled : cache.Offers opened place Lower seen below) :=
    (filled.count upholds.mono fun s => { s with time := s.time + time }).count upholds.mono
      fun s => { s with forwarded := s.forwarded + 1 }
  simp only [allocate, countTime, countForwarded, ends_bind, ends_current]
  refine (makeRoom_absent_offers upholds offers absent).mono (fun index room made => ?_)
    fun _ _ none => none
  obtain ⟨roomy, inSet, vacant, absent'⟩ := made
  cases request with
  | read address length =>
    simp only [ends_pure, ends_bind, ends_update, ends_current, ends_deliver, ends_note]
    refine Ends.mono ((fill_offers upholds roomy inSet vacant absent' opens).and
      (fill_steps roomy.tidy.arranged inSet vacant absent')) (fun _ next filled => ?_)
      fun _ _ none => none.1
    obtain ⟨full, -, found, -⟩ := filled
    have held := full.tidy.arranged.holdsAt_of_lookup found
    refine ⟨counted _ full, Request.brings_slice (full.whole _ _ held) inBlock fun here => ?_⟩
    exact full.byte index (here ▸ held)
  | write address bytes =>
    have meets := upholds.meets roomy.below inBlock opens
    obtain ⟨access, outcome⟩ := meets.served
    -- the write is below when the block is read, and comes with it
    have passed : room.cache.Offers opened place Lower
        ((Request.write address bytes).leaves place seen) _ :=
      roomy.pass absent' inBlock meets.leaves
    simp only [ends_pure, ends_bind, ends_ask, ends_update, ends_note]
    refine (ends_spent_of_ok outcome).mpr ?_
    refine (fill_offers upholds ?_ ?_ ?_ ?_ opens).mono
      (fun _ _ full => ⟨counted _ full, Request.brings_write _⟩) fun _ _ none => none
    · exact passed
    · exact inSet
    · exact vacant
    · exact absent'

theorem serveMiss_offers (offers : Offering opened place Lower seen state)
    (absent : state.cache.lookup request.address = none) (inBlock : request.InBlock)
    (opens : opened (request.address / blockSize)) :
    Ends (serveMiss lower request) state
      (fun _ next => Offering opened place Lower (request.leaves place seen) next ∧
        request.Brings place seen next.delivered) fun _ _ => False := by
  simp only [serveMiss, ends_bind, ends_current, ends_ite]
  split
  · next passes =>
    cases request with
    | read => simp [Request.kind] at passes
    | write address bytes =>
      exact (passOn_offers upholds offers absent inBlock opens).mono
        (fun _ _ passed => ⟨passed, Request.brings_write _⟩) fun _ _ none => none
  · exact allocate_offers upholds offers absent inBlock opens

theorem serveLookedUp_offers (offers : Offering opened place Lower seen state)
    (inBlock : request.InBlock) (opens : opened (request.address / blockSize)) :
    Ends (serveLookedUp lower request) state
      (fun _ next => Offering opened place Lower (request.leaves place seen) next ∧
        request.Brings place seen next.delivered) fun _ _ => False := by
  simp only [serveLookedUp, ends_bind, ends_current]
  cases found : state.cache.lookup request.address with
  | some index => exact serveHit_offers upholds offers found inBlock opens
  | none =>
    have counted := offers.count upholds.mono fun s => { s with misses := s.misses + 1 }
    simp only [ends_bind, ends_update]
    refine serveMiss_offers upholds ?_ ?_ inBlock opens
    · exact counted
    · exact found

/-- The plain policy passes no request by, and nothing follows one. -/
theorem attend_offers (offers : Offering opened place Lower seen state)
    (inBlock : request.InBlock) (opens : opened (request.address / blockSize)) :
    Ends (attend lower request) state
      (fun _ next => Offering opened place Lower (request.leaves place seen) next ∧
        request.Brings place seen next.delivered) fun _ _ => False := by
  rw [ends_attend, if_neg (not_bypasses_of_plain offers.plain _), ends_bind]
  generalize start_eq : announced request.address _ = start
  have start_offers : Offering opened place Lower seen start := by
    rw [← start_eq]
    exact offers.blocks upholds.mono ⟨rfl, rfl, rfl, fun _ _ => ⟨rfl, rfl, rfl, rfl⟩⟩
  refine (serveLookedUp_offers upholds start_offers inBlock opens).mono
    (fun access next served => ?_) fun _ _ none => none
  obtain ⟨offers', brings⟩ := served
  simp only [followUp, consultPrefetch, ends_bind, ends_current, ends_update, ends_note, ends_pure,
    offers'.plain, Policy.plain]
  refine ⟨offers'.blocks upholds.mono ?_, brings⟩
  exact ⟨rfl, rfl, offers'.plain.symm, fun _ _ => ⟨rfl, rfl, rfl, rfl⟩⟩

/-- A cache over a storage that keeps to what may be seen keeps to it itself. -/
theorem upholds_serve : Storage.Upholds (serve lower) opened place
    fun seen (pair : Cache σ × S) => pair.1.Offers opened place Lower seen pair.2 where
  mono _ _ wider _ offers := offers.mono (fun _ => id) wider fun wider => upholds.mono wider _
  meets {seen request state} offers inBlock opens := by
    obtain ⟨cache, below⟩ := state
    refine serve_ends (motive := fun reply after => Storage.Meets place
        (fun seen (pair : Cache σ × S) => pair.1.Offers opened place Lower seen pair.2) seen request
        (reply, after)) (refusal?_eq_none offers.tidy.arranged inBlock) ?_
    refine (attend_offers upholds offers inBlock opens).mono (fun access next served => ?_)
      fun _ _ none => none.elim
    exact ⟨⟨access, rfl⟩, served.2, served.1⟩

end Steps

end Cache

/-! ### Chains -/

namespace Memory

variable {opened : Nat → Prop} {place size : Nat} {memory : Memory} {request : Request}

theorem byteAt_serve (fits : request.address + request.length ≤ memory.size) :
    (memory.serve request).2.byteAt = request.apply memory.byteAt := by
  have holds : memory.holds request.address request.length = true := by simpa [holds] using fits
  unfold serve
  rw [if_pos holds]
  cases request with
  | read address length => rfl
  | write address bytes => exact byteAt_store memory.counted address bytes

/-- A memory of whole blocks serves all requests to them. -/
theorem upholds_serve (inside : ∀ n, opened n → (n + 1) * blockSize ≤ size) :
    Storage.Upholds serve opened place
      fun seen (memory : Memory) => memory.size = size ∧ memory.byteAt place ∈ seen where
  mono _ _ wider _ offers := ⟨offers.1, wider offers.2⟩
  meets {seen request memory} offers inBlock opens := by
    obtain ⟨sized, byte⟩ := offers
    have fits : request.address + request.length ≤ memory.size := by
      have whole := inside _ opens
      simp only [Request.InBlock, blockOffset, blockSize] at inBlock whole
      omega
    refine ⟨⟨_, outcome_serve fits⟩, ?_, (size_serve request memory).trans sized, ?_⟩
    · rintro address length rfl
      refine ⟨_, delivered_serve fits, length_bytesAt .., fun offset below here => ?_⟩
      rw [bytesAt_eq_read, Contents.getD_read below, here]
      exact byte
    · rw [byteAt_serve fits]
      exact Request.apply_mem_leaves byte

end Memory

namespace Chain

variable {σ : Type} {n size place : Nat} {opened opened' : Nat → Prop} {seen seen' : Set UInt8}
  {chain : Chain σ n}

/-- What may be seen at a place of a chain over a memory of the given size. -/
def Offers (size : Nat) (opened : Nat → Prop) (place : Nat) :
    {n : Nat} → Set UInt8 → Chain σ n → Prop
  | 0, seen, .ground memory => memory.size = size ∧ memory.byteAt place ∈ seen
  | _ + 1, seen, .level cache below =>
    cache.Offers opened place (fun seen below => Offers size opened place seen below) seen below

/-- A chain serves all requests to blocks of its memory, and keeps to what may be seen. -/
theorem upholds_serve (inside : ∀ n, opened n → (n + 1) * blockSize ≤ size) (n : Nat) :
    Storage.Upholds (serve (σ := σ) (n := n)) opened place
      fun seen chain => chain.Offers size opened place seen := by
  -- by the levels: the memory upholds it, and so does a cache if what is below it does
  induction n with
  | zero =>
    have upholds : Memory.serve.Upholds opened place _ := Memory.upholds_serve inside
    refine ⟨fun _ _ wider chain offers => ?_, fun {seen request chain} offers inBlock opens => ?_⟩
    · cases chain with
      | ground memory => exact upholds.mono wider memory offers
    · cases chain with
      | ground memory =>
        have meets := upholds.meets offers inBlock opens
        exact ⟨meets.served, meets.brings, meets.leaves⟩
  | succ n ih =>
    have upholds := Cache.upholds_serve (σ := σ) ih
    refine ⟨fun _ _ wider chain offers => ?_, fun {seen request chain} offers inBlock opens => ?_⟩
    · cases chain with
      | level cache below => exact upholds.mono wider (cache, below) offers
    · cases chain with
      | level cache below =>
        have meets :
            Storage.Meets place _ seen request (Cache.serve serve request (cache, below)) :=
          upholds.meets offers inBlock opens
        exact ⟨meets.served, meets.brings, meets.leaves⟩

namespace Offers

theorem mono (offers : chain.Offers size opened place seen) (opens : ∀ n, opened n → opened' n)
    (wider : seen ⊆ seen') : chain.Offers size opened' place seen' := by
  induction n generalizing seen seen' with
  | zero =>
    cases chain with
    | ground memory => exact ⟨offers.1, wider offers.2⟩
  | succ n ih =>
    cases chain with
    | level cache below =>
      exact Cache.Offers.mono offers opens wider fun wider lower => ih lower wider

theorem size_memory (offers : chain.Offers size opened place seen) : chain.memory.size = size := by
  induction n generalizing seen with
  | zero =>
    cases chain with
    | ground memory => exact offers.1
  | succ n ih =>
    cases chain with
    | level cache below => exact ih offers.below

/-- What is put into memory elsewhere is not seen at the place. -/
theorem elsewhere (offers : chain.Offers size opened place seen) {memory : Memory}
    (sized : memory.size = size) (same : memory.byteAt place = chain.memory.byteAt place) :
    (chain.modifyMemory fun _ => memory).Offers size opened place seen := by
  induction n generalizing seen with
  | zero =>
    cases chain with
    | ground before =>
      refine ⟨sized, ?_⟩
      rw [same]
      exact offers.2
  | succ n ih =>
    cases chain with
    | level cache below => exact { offers with below := ih offers.below same }

/-- A byte that is put into memory may be seen there from then on. If a cache has the place, so may
be what could be seen before. -/
theorem loaded (offers : chain.Offers size opened place seen) {memory : Memory}
    (sized : memory.size = size) (byte : memory.byteAt place ∈ seen')
    (stale : (∃ cache ∈ chain.caches, cache.contains place = true) → seen ⊆ seen') :
    (chain.modifyMemory fun _ => memory).Offers size opened place seen' := by
  induction n generalizing seen seen' with
  | zero =>
    cases chain with
    | ground before => exact ⟨sized, byte⟩
  | succ n ih =>
    cases chain with
    | level cache below =>
      refine { offers with byte := fun i held => ?_, below := ih offers.below (.inr byte) ?_ }
      · have here : cache.contains place = true :=
          (Cache.contains_iff_holds offers.tidy.arranged).mpr ⟨i, held⟩
        exact stale ⟨cache, List.mem_cons_self, here⟩ (offers.byte i held)
      · rintro ⟨deeper, member, here⟩
        apply Cache.beneath_subset id
        exact stale ⟨deeper, List.mem_cons_of_mem cache member, here⟩

/-- A block that may not be asked for is in no cache. -/
theorem not_contains (offers : chain.Offers size opened place seen)
    (closed : ¬ opened (place / blockSize)) :
    ¬ ∃ cache ∈ chain.caches, cache.contains place = true := by
  induction n generalizing seen with
  | zero =>
    cases chain with
    | ground memory => exact nofun
  | succ n ih =>
    cases chain with
    | level cache below =>
      rintro ⟨other, member, here⟩
      rcases List.mem_cons.mp member with rfl | deeper
      · obtain ⟨i, held⟩ := (Cache.contains_iff_holds offers.tidy.arranged).mp here
        exact closed (offers.opened i _ held)
      · exact ih offers.below ⟨other, deeper, here⟩

end Offers

/-- Through new caches the memory is seen. -/
theorem offers_of_fresh (fresh : ∀ cache ∈ chain.caches, cache.Fresh)
    (plain : ∀ cache ∈ chain.caches, cache.policy = Policy.plain σ) :
    chain.Offers chain.memory.size opened place {chain.memory.byteAt place} := by
  induction n with
  | zero =>
    cases chain with
    | ground memory => exact ⟨rfl, Set.mem_singleton _⟩
  | succ n ih =>
    cases chain with
    | level cache below =>
      obtain ⟨fresh, fresh'⟩ := List.forall_mem_cons.mp fresh
      obtain ⟨plain, plain'⟩ := List.forall_mem_cons.mp plain
      have empty {P : Prop} {i n : Nat} (held : cache.HoldsAt i n) : P :=
        absurd held fresh.not_holdsAt
      refine ⟨fresh.tidy, plain, fun _ _ => empty, fun _ _ => empty, fun _ => empty, ?_⟩
      exact (ih fresh' plain').mono (fun _ => id) fun _ => .inr

end Chain

end FiveStage
