import FiveStage.Proofs.Cache.Steps

/-!
# What a requester notices of a prefetch

A policy may want another block brought in after a request was served. The request has its bytes by
then, and its cycles are counted, so neither can change any more. Over a memory of whole blocks, a
dirty block that has to make room can always be written back as well. What is left is a wanted block
that is not in the memory: then the request fails although it was served.

Serving a request never looks at the policy, so two caches that differ in their policies alone serve
it alike. That the blocks of a cache can be written back is an invariant of all policies, including
those that bypass the cache and so let its lines fall behind the memory.

## Main definitions

* `Policy.quiet`: the policy without its prefetches
* `Cache.Blind`: an action that does not look at the policy
* `Cache.Housed`: every block in the cache has its place in the memory
* `Cache.afterUnder`: the state after requests, each under a policy of its own
* `Cache.Undisturbed`: what a prefetch may do to a reply

## Main results

* `Cache.blind_serveLookedUp`: a request is served alike under all policies
* `Cache.prefetchBlock_housed`: a prefetch fails if and only if the block is not in the memory
* `Cache.undisturbed_after`: a prefetch disturbs a request only if the block is not in the memory
-/

namespace FiveStage

namespace Memory

variable {memory : Memory} {request : Request}

theorem size_serve (request : Request) (memory : Memory) :
    (memory.serve request).2.size = memory.size := by
  unfold serve
  split
  · cases request <;> rfl
  · rfl

theorem outcome_serve (inside : request.address + request.length ≤ memory.size) :
    (memory.serve request).1.outcome = .ok ⟨true, memory.latency.hitTime⟩ := by
  rw [serve, if_pos (by simpa [holds] using inside)]
  cases request <;> rfl

theorem delivered_serve {address length : Nat} (inside : address + length ≤ memory.size) :
    (memory.serve (.read address length)).1.delivered = some (memory.bytesAt address length) := by
  have held : memory.holds address length = true := by simpa [holds] using inside
  rw [serve, Request.address, Request.length, if_pos held]

theorem serve_of_outside (outside : memory.size < request.address + request.length) :
    memory.serve request =
      ({ outcome := .error (.access request.address .outOfBounds) }, memory) := by
  rw [serve, if_neg (by simpa [holds] using outside)]

end Memory

/-- The policy that decides as this one, but never wants a block besides. -/
def Policy.quiet {σ : Type} (policy : Policy σ) : Policy σ :=
  { policy with prefetch := fun _ _ memo => (none, memo) }

/-- The same state with the cache under another policy. -/
def ServiceState.under {σ S : Type} (state : ServiceState σ S) (policy : Policy σ) :
    ServiceState σ S :=
  { state with cache := { state.cache with policy } }

namespace Cache

/-! ### Actions that do not look at the policy -/

section Blind

variable {σ S α β : Type} {lower : Storage S} {action other : Service σ S α}

/-- The action does the same under every policy, and leaves the policy as it is. -/
def Blind (action : Service σ S α) : Prop :=
  ∀ state policy, action.run (state.under policy) =
    match action.run state with
    | .ok a next => .ok a (next.under policy)
    | .error fault next => .error fault (next.under policy)

theorem Blind.bind {rest : α → Service σ S β} (blind : Blind action)
    (later : ∀ a, Blind (rest a)) : Blind (action >>= rest) := by
  intro state policy
  have first := blind state policy
  simp only [EStateM.run, Bind.bind, EStateM.bind] at first ⊢
  rw [first]
  cases action state with
  | ok a next => exact later a next policy
  | error fault next => rfl

theorem Blind.discard (blind : Blind action) : Blind (discard action) := by
  intro state policy
  have first := blind state policy
  simp only [EStateM.run, Functor.discard, Functor.mapConst, EStateM.map, Function.comp_apply]
    at first ⊢
  rw [first]
  cases action state <;> rfl

theorem Blind.ite {condition : Prop} [Decidable condition] (blind : Blind action)
    (blind' : Blind other) : Blind (if condition then action else other) := by
  split
  · exact blind
  · exact blind'

/-- An action may look at everything else in the cache. -/
theorem Blind.current_bind {rest : Cache σ → Service σ S α}
    (same : ∀ cache policy, rest { cache with policy } = rest cache)
    (blind : ∀ cache, Blind (rest cache)) : Blind (current >>= rest) := by
  intro state policy
  have starts : (current >>= rest).run (state.under policy) =
      (rest { state.cache with policy }).run (state.under policy) := rfl
  rw [starts, same, blind]
  rfl

theorem blind_pure (a : α) : Blind (pure a : Service σ S α) := fun _ _ => rfl

theorem blind_note (happening : Happening) : Blind (note happening : Service σ S Unit) :=
  fun _ _ => rfl

theorem blind_deliver (bytes : Bytes) : Blind (deliver bytes : Service σ S Unit) := fun _ _ => rfl

theorem blind_ask (lower : Storage S) (request : Request) :
    Blind (ask lower request : Service σ S Reply) := fun _ _ => rfl

theorem blind_update {change : Cache σ → Cache σ}
    (keeps : ∀ cache policy, change { cache with policy } = { change cache with policy }) :
    Blind (update change : Service σ S Unit) := by
  intro state policy
  exact congrArg (fun cache => EStateM.Result.ok () { state with cache }) (keeps state.cache policy)

theorem blind_spent (reply : Reply) : Blind (spent reply : Service σ S Nat) := by
  intro state policy
  unfold spent
  cases reply.outcome <;> rfl

theorem blind_countForwarded : Blind (countForwarded : Service σ S Unit) :=
  blind_update fun _ _ => rfl

theorem blind_makeRoom (lower : Storage S) (set : Nat) :
    Blind (makeRoom lower set : Service σ S Nat) := by
  refine .current_bind (fun _ _ => rfl) fun cache => ?_
  split
  · exact blind_pure _
  · refine .bind (blind_update fun _ _ => rfl) fun _ => ?_
    have counts : Blind (do
        update (·.count fun s => { s with replacements := s.replacements + 1 })
        return cache.victim set : Service σ S Nat) :=
      .bind (blind_update fun _ _ => rfl) fun _ => blind_pure _
    split
    · exact .bind (blind_ask _ _) fun _ => .bind (.discard (blind_spent _)) fun _ =>
        .bind (blind_note _) fun _ => counts
    · exact counts

theorem blind_fill (lower : Storage S) (index address : Nat) :
    Blind (fill lower index address : Service σ S Nat) :=
  .bind (blind_ask _ _) fun _ => .bind (blind_spent _) fun _ =>
    .bind (blind_update fun _ _ => rfl) fun _ => blind_pure _

theorem blind_serveHit (lower : Storage S) (index : Nat) (request : Request) :
    Blind (serveHit lower index request : Service σ S Access) := by
  refine .current_bind (fun _ _ => rfl) fun cache => ?_
  refine .bind (blind_update fun _ _ => rfl) fun _ =>
    .bind (blind_update fun _ _ => rfl) fun _ => ?_
  cases request with
  | read address length => exact .bind (blind_deliver _) fun _ => blind_pure _
  | write address bytes =>
    refine .bind (blind_update fun _ _ => rfl) fun _ => .ite ?_ (blind_pure _)
    exact .bind (blind_ask _ _) fun _ => .bind (blind_spent _) fun _ =>
      .bind blind_countForwarded fun _ => blind_pure _

theorem blind_passOn (lower : Storage S) (request : Request) :
    Blind (passOn lower request : Service σ S Access) := by
  refine .bind (blind_ask _ _) fun reply => ?_
  have rest : Blind (do
      let cycles ← spent reply
      countForwarded
      return ⟨false, cycles⟩ : Service σ S Access) :=
    .bind (blind_spent _) fun _ => .bind blind_countForwarded fun _ => blind_pure _
  split
  · exact .bind (blind_deliver _) fun _ => rest
  · exact rest

theorem blind_allocate (lower : Storage S) (request : Request) :
    Blind (allocate lower request : Service σ S Access) := by
  refine .current_bind (fun _ _ => rfl) fun cache => .bind (blind_makeRoom _ _) fun index => ?_
  cases request with
  | read address length =>
    refine .bind (blind_pure _) fun written => .bind (blind_fill _ _ _) fun filled => ?_
    refine .bind (blind_update fun _ _ => rfl) fun _ => .bind blind_countForwarded fun _ => ?_
    refine .current_bind (fun _ _ => rfl) fun filled => ?_
    exact .bind (blind_deliver _) fun _ => .bind (blind_note _) fun _ => blind_pure _
  | write address bytes =>
    refine .bind (blind_ask _ _) fun reply => .bind (blind_spent _) fun written => ?_
    refine .bind (blind_fill _ _ _) fun filled => .bind (blind_update fun _ _ => rfl) fun _ => ?_
    exact .bind blind_countForwarded fun _ => .bind (blind_note _) fun _ => blind_pure _

theorem blind_serveMiss (lower : Storage S) (request : Request) :
    Blind (serveMiss lower request : Service σ S Access) :=
  .current_bind (fun _ _ => rfl) fun _ => .ite (blind_passOn _ _) (blind_allocate _ _)

/-- A request is served alike under all policies. -/
theorem blind_serveLookedUp (lower : Storage S) (request : Request) :
    Blind (serveLookedUp lower request : Service σ S Access) := by
  refine .current_bind (fun _ _ => rfl) fun cache => ?_
  split
  · exact blind_serveHit _ _ _
  · exact .bind (blind_update fun _ _ => rfl) fun _ => blind_serveMiss _ _

end Blind

/-! ### Blocks with a place in the memory -/

variable {σ : Type} {size index address set : Nat} {cache next : Cache σ} {memory : Memory}
  {state : ServiceState σ Memory} {request : Request}

/-- The memory has the given size, and every block in the cache is a whole block of it. Whether the
memory shows the same bytes does not matter. -/
structure Housed (size : Nat) (cache : Cache σ) (memory : Memory) : Prop where
  sized : memory.size = size
  arranged : cache.Arranged
  inside : ∀ i n, cache.HoldsAt i n → (n + 1) * blockSize ≤ size
  whole : ∀ i n, cache.HoldsAt i n → (cache.line i).data.length = blockSize

namespace Housed

theorem blocks (housed : cache.Housed size memory) (same : cache.SameBlocks next) :
    next.Housed size memory where
  sized := housed.sized
  arranged := same.arranged housed.arranged
  inside i n held := housed.inside i n (same.holdsAt_iff.mp held)
  whole i n held := by
    rw [same.holdsAt_iff] at held
    rw [(same.line i held.1).2.1]
    exact housed.whole i n held

@[simp] theorem count_iff {change : Statistics → Statistics} :
    (cache.count change).Housed size memory ↔ cache.Housed size memory := by
  refine ⟨fun housed => ?_, fun housed => housed.blocks (.count ..)⟩
  exact housed.blocks ⟨rfl, rfl, rfl, fun _ _ => ⟨rfl, rfl, rfl, rfl⟩⟩

theorem touch (housed : cache.Housed size memory) (index : Nat) :
    (cache.touch index).Housed size memory := housed.blocks (.touch ..)

theorem ask (housed : cache.Housed size memory) (request : Request) :
    cache.Housed size (Memory.serve request memory).2 :=
  { housed with sized := (Memory.size_serve request memory).trans housed.sized }

theorem giveUp (housed : cache.Housed size memory) (index : Nat) :
    (cache.modifyLine index fun l => { l with valid := false, dirty := false }).Housed size
      memory where
  sized := housed.sized
  arranged := housed.arranged.modifyLine ..
  inside i n held := housed.inside i n (holdsAt_giveUp.mp held).2
  whole i n held := by
    obtain ⟨other, held⟩ := holdsAt_giveUp.mp held
    rw [line_modifyLine_of_ne other]
    exact housed.whole i n held

theorem fill (housed : cache.Housed size memory) {data : Bytes}
    (place : cache.setOfLine index = cache.setOf address) (whole : data.length = blockSize)
    (inside : (address / blockSize + 1) * blockSize ≤ size) :
    (cache.modifyLine index fun l =>
      { l with data, tag := cache.tagOf address, valid := true, dirty := false }).Housed size
        memory where
  sized := housed.sized
  arranged := housed.arranged.modifyLine ..
  inside i n held := by
    rcases (holdsAt_fill housed.arranged data place).mp held with ⟨-, rfl⟩ | ⟨-, held⟩
    · exact inside
    · exact housed.inside i n held
  whole i n held := by
    rcases (holdsAt_fill housed.arranged data place).mp held with ⟨rfl, -⟩ | ⟨other, held⟩
    · rw [line_modifyLine_self (by simpa using held.1)]
      exact whole
    · rw [line_modifyLine_of_ne other]
      exact housed.whole i n held

theorem store (housed : cache.Housed size memory) {bytes : Bytes} (index : Nat) (dirty : Bool)
    (inBlock : blockOffset address + bytes.length ≤ blockSize) :
    (cache.modifyLine index fun l =>
      { l with data := l.data.overwrite (blockOffset address) bytes, dirty }).Housed size
        memory where
  sized := housed.sized
  arranged := housed.arranged.modifyLine ..
  inside i n held := housed.inside i n (holdsAt_store.mp held)
  whole i n held := by
    have before := housed.whole i n (holdsAt_store.mp held)
    by_cases here : i = index
    · subst here
      rw [line_modifyLine_self (by simpa using held.1)]
      exact (Bytes.length_overwrite (by rwa [before])).trans before
    · rwa [line_modifyLine_of_ne here]

end Housed

/-- A block in the cache can be written back. -/
theorem Housed.writeBack (housed : cache.Housed size memory) (place : cache.setOfLine index = set)
    (held : cache.HoldsAt index (cache.blockNumber index)) :
    ∃ access, (memory.serve (.write (cache.addressOf (cache.line index).tag set)
      (cache.line index).data)).1.outcome = .ok access := by
  have inside := housed.inside _ _ held
  refine ⟨_, Memory.outcome_serve ?_⟩
  simp only [Request.address, Request.length, addressOf_eq place, housed.whole _ _ held,
    housed.sized]
  rwa [Nat.succ_mul] at inside

/-- A step of which the requester notices nothing. -/
structure Unnoticed (size : Nat) (before after : ServiceState σ Memory) : Prop where
  housed : after.cache.Housed size after.below
  delivered : after.delivered = before.delivered

/-- Making room never fails, since every block in the cache can be written back. -/
theorem makeRoom_housed (housed : state.cache.Housed size state.below)
    (below : set < state.cache.sets) :
    Ends (makeRoom Memory.serve set) state
      (fun index next => Unnoticed size state next ∧ next.cache.setOfLine index = set ∧
        next.cache.sets = state.cache.sets)
      fun _ _ => False := by
  simp only [makeRoom, ends_bind, ends_current]
  cases found : state.cache.vacant? set with
  | some index =>
    have member := housed.arranged.mem_linesOf_iff.mp (List.mem_of_find?_eq_some found)
    exact ⟨⟨housed, rfl⟩, member, rfl⟩
  | none =>
    obtain ⟨place, held⟩ := victim_holds housed.arranged below found
    generalize state.cache.victim set = index at place held ⊢
    have dropped := housed.giveUp index
    simp only [ends_bind, ends_update]
    split
    · simp only [ends_bind, ends_ask, ends_discard, ends_note, ends_update, ends_pure]
      obtain ⟨access, written⟩ := housed.writeBack place held
      exact (ends_spent_of_ok written).mpr
        ⟨⟨by simpa using dropped.ask _, rfl⟩, setOfLine_modifyLine.trans place, sets_modifyLine⟩
    · simp only [ends_bind, ends_update, ends_pure]
      exact ⟨⟨by simpa using dropped, rfl⟩, setOfLine_modifyLine.trans place, sets_modifyLine⟩

/-- The block of an address can be read if and only if the address is in the memory. -/
theorem fill_housed (aligned : size % blockSize = 0) (housed : state.cache.Housed size state.below)
    (place : state.cache.setOfLine index = state.cache.setOf address) :
    Ends (fill Memory.serve index address) state
      (fun _ next => Unnoticed size state next ∧ address < size)
      (fun fault next => Unnoticed size state next ∧ size ≤ address ∧
        fault = .access (blockOf address) .outOfBounds) := by
  have start := blockOf_eq_mul address
  simp only [fill, ends_bind, ends_ask]
  by_cases inside : address < size
  · have fits : (address / blockSize + 1) * blockSize ≤ size := by
      simp only [blockSize] at aligned ⊢
      omega
    have bound : blockOf address + blockSize ≤ state.below.size := by
      rw [start, housed.sized, ← Nat.succ_mul]
      exact fits
    have served : (state.below.serve (.read (blockOf address) blockSize)).1.outcome = _ :=
      Memory.outcome_serve bound
    have filled := (housed.ask (.read (blockOf address) blockSize)).fill place
      (Memory.length_bytesAt state.below (blockOf address) blockSize) fits
    refine (ends_spent_of_ok served).mpr ?_
    simp only [ends_update, ends_pure, Memory.delivered_serve bound, Option.getD_some]
    exact ⟨⟨filled.touch _, rfl⟩, inside⟩
  · have outside : state.below.size < blockOf address + blockSize := by
      have offset := blockOffset_lt address
      have split := blockOf_add_blockOffset address
      rw [housed.sized]
      omega
    have refused : state.below.serve (.read (blockOf address) blockSize) = _ :=
      Memory.serve_of_outside outside
    rw [refused]
    exact (ends_spent_of_error rfl).mpr ⟨⟨housed, rfl⟩, by omega, rfl⟩

/-- A prefetch fails if and only if the wanted block is not in the memory, and the requester has its
bytes in any case. -/
theorem prefetchBlock_housed (aligned : size % blockSize = 0)
    (housed : state.cache.Housed size state.below) :
    Ends (prefetchBlock Memory.serve address) state
      (fun _ next => Unnoticed size state next ∧ address < size)
      (fun fault next => Unnoticed size state next ∧ size ≤ address ∧
        fault = .access (blockOf address) .outOfBounds) := by
  simp only [prefetchBlock, ends_bind, ends_current]
  cases found : state.cache.lookup address with
  | some i =>
    have inside := housed.inside _ _ (housed.arranged.holdsAt_of_lookup found)
    have here : address < size := by
      simp only [blockSize] at inside
      omega
    simpa [contains, found] using ⟨⟨housed, rfl⟩, here⟩
  | none =>
    have set_lt := housed.arranged.setOf_lt address
    simp only [contains, found, Option.isSome_none, Bool.false_eq_true, if_false, ends_bind]
    refine (makeRoom_housed housed set_lt).mono (fun index room made => ?_)
      fun _ _ none => none.elim
    obtain ⟨⟨housed', delivered⟩, place, sets⟩ := made
    have place' := place.trans (setOf_congr sets).symm
    simp only [ends_discard, ends_update]
    refine (fill_housed aligned housed' place').mono (fun _ next filled => ?_)
      fun _ next refused => ?_
    · obtain ⟨⟨housed'', same⟩, inside⟩ := filled
      exact ⟨⟨by simpa using housed'', same.trans delivered⟩, inside⟩
    · obtain ⟨⟨housed'', same⟩, beyond⟩ := refused
      exact ⟨⟨housed'', same.trans delivered⟩, beyond⟩

/-! ### Blocks stay housed -/

/-- Whether the action fails or not, the blocks that it leaves in the cache are housed. -/
def Houses {α : Type} (size : Nat) (action : Service σ Memory α) (state : ServiceState σ Memory) :
    Prop :=
  Ends action state (fun _ next => next.cache.Housed size next.below)
    fun _ next => next.cache.Housed size next.below

theorem serveHit_houses (housed : state.cache.Housed size state.below)
    (inBlock : request.InBlock) : Houses size (serveHit Memory.serve index request) state := by
  simp only [Houses, serveHit, countTime, ends_bind, ends_current, ends_update]
  generalize counted_eq : state.cache.count _ = counted
  have used : (counted.touch index).Housed size state.below := by
    rw [← counted_eq]
    exact Housed.touch (by simpa using housed) index
  cases request with
  | read address length =>
    simp only [ends_bind, ends_deliver, ends_pure]
    exact used
  | write address bytes =>
    have stored := used.store index (!state.cache.geometry.writeThrough) inBlock
    simp only [ends_bind, ends_update]
    split
    · simp only [ends_bind, ends_ask, countForwarded, ends_update, ends_pure]
      exact ends_spent (fun _ _ => by simpa using stored.ask _) fun _ _ => stored.ask _
    · exact stored

theorem passOn_houses (housed : state.cache.Housed size state.below) :
    Houses size (passOn Memory.serve request) state := by
  have asked := housed.ask request
  simp only [Houses, passOn, ends_bind, ends_ask, countForwarded]
  split
  · simp only [ends_bind, ends_deliver, ends_update, ends_pure]
    exact ends_spent (fun _ _ => by simpa using asked) fun _ _ => asked
  · simp only [ends_bind, ends_update, ends_pure]
    exact ends_spent (fun _ _ => by simpa using asked) fun _ _ => asked

theorem allocate_houses (aligned : size % blockSize = 0)
    (housed : state.cache.Housed size state.below) :
    Houses size (allocate Memory.serve request) state := by
  have set_lt := housed.arranged.setOf_lt request.address
  simp only [Houses, allocate, countTime, countForwarded, ends_bind, ends_current]
  refine (makeRoom_housed housed set_lt).mono (fun index room made => ?_) fun _ _ none => none.elim
  obtain ⟨⟨housed', -⟩, place, sets⟩ := made
  have place' := place.trans (setOf_congr sets).symm
  cases request with
  | read address length =>
    simp only [ends_pure, ends_bind, ends_update, ends_current, ends_deliver, ends_note]
    exact (fill_housed aligned housed' place').mono
      (fun _ _ filled => by simpa using filled.1.housed)
      fun _ _ refused => refused.1.housed
  | write address bytes =>
    -- a write is passed on before the block is read, be it refused there or not
    have asked := housed'.ask (.write address bytes)
    simp only [ends_pure, ends_bind, ends_ask, ends_update, ends_note]
    refine ends_spent (fun _ _ => ?_) fun _ _ => asked
    refine Ends.mono (fill_housed aligned ?_ ?_) (fun _ _ filled => by simpa using filled.1.housed)
      fun _ _ refused => refused.1.housed
    · exact asked
    · exact place'

theorem serveLookedUp_houses (aligned : size % blockSize = 0)
    (housed : state.cache.Housed size state.below) (inBlock : request.InBlock) :
    Houses size (serveLookedUp Memory.serve request) state := by
  simp only [Houses, serveLookedUp, ends_bind, ends_current]
  split
  · exact serveHit_houses housed inBlock
  · simp only [ends_bind, ends_update, serveMiss, ends_current, ends_ite]
    split
    · exact passOn_houses (by simpa using housed)
    · exact allocate_houses aligned (by simpa using housed)

/-- What follows a request fails if and only if the wanted block is not in the memory. -/
theorem followUp_housed (aligned : size % blockSize = 0)
    (housed : state.cache.Housed size state.below) (access : Access) :
    Ends (followUp Memory.serve request access) state
      (fun given next => Unnoticed size state next ∧ given = access ∧
        ∀ wanted, state.cache.wanted? request access = some wanted → wanted < size)
      (fun fault next => Unnoticed size state next ∧
        ∃ wanted, state.cache.wanted? request access = some wanted ∧ size ≤ wanted ∧
          fault = .access (blockOf wanted) .outOfBounds) := by
  simp only [followUp, consultPrefetch, ends_bind, ends_current, ends_update, ends_note, ends_pure]
  generalize asked_eq : Cache.mk _ _ _ _ _ _ _ = asked
  have housed' : asked.Housed size state.below :=
    asked_eq ▸ housed.blocks ⟨rfl, rfl, rfl, fun _ _ => ⟨rfl, rfl, rfl, rfl⟩⟩
  have wants : (state.cache.policy.prefetch request.address access.hit state.cache.memo).1 =
    state.cache.wanted? request access := rfl
  rw [wants]
  -- only a wanted block beyond the memory makes this fail
  cases state.cache.wanted? request access with
  | none => exact ⟨⟨housed', rfl⟩, rfl, fun _ wants => by cases wants⟩
  | some wanted =>
    simp only [ends_bind, ends_pure]
    refine (prefetchBlock_housed aligned ?_).mono (fun _ next done => ?_) fun _ next refused => ?_
    · exact housed'
    · obtain ⟨⟨housed'', same⟩, inside⟩ := done
      refine ⟨⟨housed'', same⟩, trivial, ?_⟩
      rintro _ ⟨⟩
      exact inside
    · obtain ⟨⟨housed'', same⟩, beyond, fault⟩ := refused
      exact ⟨⟨housed'', same⟩, wanted, rfl, beyond, fault⟩

theorem attend_houses (aligned : size % blockSize = 0)
    (housed : state.cache.Housed size state.below) (inBlock : request.InBlock) :
    Houses size (attend Memory.serve request) state := by
  rw [Houses, ends_attend]
  split
  · refine passOn_houses ?_
    exact housed.blocks ⟨rfl, rfl, rfl, fun _ _ => ⟨rfl, rfl, rfl, rfl⟩⟩
  · rw [ends_bind]
    refine (serveLookedUp_houses aligned ?_ inBlock).mono (fun access next served => ?_)
      fun _ _ housed' => housed'
    · exact housed.blocks ⟨rfl, rfl, rfl, fun _ _ => ⟨rfl, rfl, rfl, rfl⟩⟩
    · exact (followUp_housed aligned served access).mono (fun _ _ done => done.1.housed)
        fun _ _ refused => refused.1.housed

/-- The blocks in a cache stay housed, whatever its policy is. -/
theorem Housed.serve (aligned : size % blockSize = 0) (housed : cache.Housed size memory)
    (request : Request) :
    let after := (Cache.serve Memory.serve request (cache, memory)).2
    after.1.Housed size after.2 := by
  by_cases inBlock : request.InBlock
  · exact serve_ends (motive := fun _ after => after.1.Housed size after.2)
      (refusal?_eq_none housed.arranged inBlock) (attend_houses aligned housed inBlock)
  · rw [serve_of_not_inBlock housed.arranged inBlock]
    exact housed

/-! ### What is noticed -/

/-- The reply to a request that was attended to. -/
def replyOf {S : Type} : EStateM.Result MemoryFault (ServiceState σ S) Access → Reply
  | .ok access state => ⟨.ok access, state.delivered, state.journal⟩
  | .error fault state => ⟨.error fault, state.delivered, state.journal⟩

theorem serve_reply {S : Type} {lower : Storage S} {below : S}
    (accepted : cache.refusal? request = none) : (serve lower request (cache, below)).1 =
      replyOf ((attend lower request).run { cache, below }) := by
  simp only [serve, accepted]
  cases (attend lower request).run { cache, below } <;> rfl

/-- The block that the policy wants besides, once a request was served. -/
def wantedAfter {S : Type} (lower : Storage S) (request : Request) (state : Cache σ × S) :
    Option Nat :=
  (halfway? lower request state).bind Prod.snd

/-- The reply is what it would be under a quiet policy. Only if a block is wanted that is not in the
memory, the request fails for it, although it was served. -/
structure Undisturbed (size : Nat) (wanted? : Option Nat) (quiet reply : Reply) : Prop where
  delivered : reply.delivered = quiet.delivered
  inside : (∀ wanted, wanted? = some wanted → wanted < size) → reply.outcome = quiet.outcome
  beyond : ∀ wanted, wanted? = some wanted → size ≤ wanted →
    (∃ access, quiet.outcome = .ok access) ∧
      reply.outcome = .error (.access (blockOf wanted) .outOfBounds)

theorem undisturbed_self (size : Nat) (reply : Reply) : Undisturbed size none reply reply :=
  ⟨rfl, fun _ => rfl, nofun⟩

theorem replyOf_under {S : Type} {action : Service σ S Access} (blind : Blind action)
    (state : ServiceState σ S) (policy : Policy σ) :
    replyOf (action.run (state.under policy)) = replyOf (action.run state) := by
  rw [blind]
  cases action.run state <;> rfl

/-- After a request was served, the requester notices a prefetch only if it fails. -/
theorem followUp_undisturbed (aligned : size % blockSize = 0)
    (housed : state.cache.Housed size state.below) (policy : Policy σ) (access : Access) :
    Undisturbed size (state.cache.wanted? request access)
      (replyOf ((followUp Memory.serve request access).run (state.under policy.quiet)))
      (replyOf ((followUp Memory.serve request access).run state)) := by
  have ends : Ends (followUp Memory.serve request access) state _ _ :=
    followUp_housed aligned housed access
  have quiet : ∃ journal, replyOf ((followUp Memory.serve request access).run
      (state.under policy.quiet)) = ⟨.ok access, state.delivered, journal⟩ := ⟨_, rfl⟩
  obtain ⟨journal, quiet⟩ := quiet
  rw [quiet]
  cases run : (followUp Memory.serve request access).run state with
  | ok given next =>
    obtain ⟨unnoticed, rfl, inside⟩ := ends.of_ok run
    refine ⟨unnoticed.delivered, fun _ => rfl, fun wanted wants beyond => ?_⟩
    exact absurd (inside wanted wants) (Nat.not_lt.mpr beyond)
  | error fault next =>
    obtain ⟨unnoticed, wanted, wants, beyond, rfl⟩ := ends.of_error run
    refine ⟨unnoticed.delivered, fun inside => ?_, fun other wants' _ => ⟨⟨access, rfl⟩, ?_⟩⟩
    · exact absurd (inside wanted wants) (Nat.not_lt.mpr beyond)
    · obtain rfl : wanted = other := Option.some.inj (wants.symm.trans wants')
      rfl

/-- From the lookup on, two caches that differ in their policies serve a request alike, up to what
follows it. -/
theorem lookedUp_undisturbed (aligned : size % blockSize = 0)
    (housed : state.cache.Housed size state.below) (inBlock : request.InBlock)
    (policy : Policy σ) :
    let course := serveLookedUp Memory.serve request >>= followUp Memory.serve request
    Undisturbed size (halfway Memory.serve request state).2
      (replyOf (course.run (state.under policy.quiet))) (replyOf (course.run state)) := by
  intro course
  have serves := serveLookedUp_houses aligned housed inBlock
  have alike := blind_serveLookedUp Memory.serve request state policy.quiet
  unfold halfway
  cases run : (serveLookedUp Memory.serve request).run state with
  | error fault served =>
    rw [run] at alike
    rw [run_bind_of_error run, run_bind_of_error alike]
    exact undisturbed_self ..
  | ok access served =>
    rw [run] at alike
    rw [run_bind_of_ok run, run_bind_of_ok alike]
    exact followUp_undisturbed aligned (serves.of_ok run) policy access

theorem Housed.undisturbed (aligned : size % blockSize = 0) (housed : cache.Housed size memory)
    (request : Request) :
    Undisturbed size (wantedAfter Memory.serve request (cache, memory))
      (Cache.serve Memory.serve request ({ cache with policy := cache.policy.quiet }, memory)).1
      (Cache.serve Memory.serve request (cache, memory)).1 := by
  have same : ({ cache with policy := cache.policy.quiet } : Cache σ).refusal? request =
    cache.refusal? request := rfl
  by_cases inBlock : request.InBlock
  · have accepted := refusal?_eq_none housed.arranged inBlock
    rw [serve_reply accepted, serve_reply (same.trans accepted), attend_run, attend_run]
    have asks : bypasses { cache with policy := cache.policy.quiet } request =
      cache.bypasses request := rfl
    simp only [asks, wantedAfter, halfway?, accepted, Option.isSome_none, Bool.false_or]
    cases cache.bypasses request with
    | true =>
      simp only [if_true, Option.bind_none]
      have quiet := replyOf_under (blind_passOn Memory.serve request)
        (admitted request { cache, below := memory }) cache.policy.quiet
      exact quiet.symm ▸ undisturbed_self ..
    | false =>
      simp only [Bool.false_eq_true, if_false, Option.bind_some]
      refine lookedUp_undisturbed aligned ?_ inBlock cache.policy
      exact housed.blocks ⟨rfl, rfl, rfl, fun _ _ => ⟨rfl, rfl, rfl, rfl⟩⟩
  · have refused := refusal?_of_not_inBlock housed.arranged inBlock
    simp only [Cache.serve, wantedAfter, halfway?, same, refused, Option.isSome_some, Bool.true_or,
      if_true, Option.bind_none]
    exact undisturbed_self ..

/-! ### After any history -/

/-- The state after requests, each of which finds the cache under a policy of its own. -/
def afterUnder {S : Type} (lower : Storage S) (requests : List (Policy σ × Request))
    (state : Cache σ × S) : Cache σ × S :=
  requests.foldl
    (fun state entry => (serve lower entry.2 ({ state.1 with policy := entry.1 }, state.2)).2) state

theorem Housed.under (housed : cache.Housed size memory) (policy : Policy σ) :
    ({ cache with policy } : Cache σ).Housed size memory where
  sized := housed.sized
  arranged := ⟨housed.arranged.sets_pos, housed.arranged.ways_pos, housed.arranged.size_eq⟩
  inside := housed.inside
  whole := housed.whole

theorem Housed.afterUnder (aligned : size % blockSize = 0)
    (requests : List (Policy σ × Request)) {state : Cache σ × Memory}
    (housed : state.1.Housed size state.2) :
    (afterUnder Memory.serve requests state).1.Housed size
      (Cache.afterUnder Memory.serve requests state).2 := by
  induction requests generalizing state with
  | nil => exact housed
  | cons entry rest ih => exact ih (Housed.serve aligned (housed.under entry.1) entry.2)

theorem Fresh.housed (fresh : cache.Fresh) (memory : Memory) :
    cache.Housed memory.size memory where
  sized := rfl
  arranged := fresh.arranged
  inside _ _ held := absurd held fresh.not_holdsAt
  whole _ _ held := absurd held fresh.not_holdsAt

/-- Over a memory of whole blocks, whatever a cache was asked and under which policies, a prefetch
leaves the reply to the next request as it is under a quiet policy: the requester gets the same
bytes, and the same outcome as long as the wanted block is in the memory. -/
theorem undisturbed_after (fresh : cache.Fresh) (memory : Memory)
    (aligned : memory.size % blockSize = 0) (requests : List (Policy σ × Request))
    (policy : Policy σ) (request : Request) :
    let last := afterUnder Memory.serve requests (cache, memory)
    Undisturbed memory.size
      (wantedAfter Memory.serve request ({ last.1 with policy }, last.2))
      (serve Memory.serve request ({ last.1 with policy := policy.quiet }, last.2)).1
      (serve Memory.serve request ({ last.1 with policy }, last.2)).1 := by
  intro last
  have housed : last.1.Housed memory.size last.2 :=
    (fresh.housed memory).afterUnder aligned requests
  exact (housed.under policy).undisturbed aligned request

/-- A policy that wants the next block after each miss. -/
def nextLine : Policy Unit :=
  { Policy.plain Unit with
    prefetch := fun address hit memo => (if hit then none else some (address + blockSize), memo) }

/-- A cache of one line. -/
def oneLine : Cache Unit where
  name := "only"
  geometry := ⟨64, 1, 1, false, false⟩
  latency := { hit := 1, bus := 2 }
  memo := ()
  lines := freshLines ⟨64, 1, 1, false, false⟩

theorem fresh_oneLine : oneLine.Fresh :=
  ⟨{ oneLine with lines := #[], geometry := default }, ⟨64, 1, 1, false, false⟩, rfl⟩

/-- A dirty block gives way to the one that is read, and that one to the next. -/
theorem undisturbed_after_oneLine :
    let requests := [(nextLine.quiet, .read 3 1), (nextLine.quiet, .write 3 [7])]
    let last := afterUnder Memory.serve requests (oneLine, { size := 192 })
    let reply := (serve Memory.serve (.read 64 1) ({ last.1 with policy := nextLine }, last.2)).1
    (oneLine.Fresh ∧ Undisturbed 192
      (wantedAfter Memory.serve (.read 64 1) ({ last.1 with policy := nextLine }, last.2))
      (serve Memory.serve (.read 64 1) ({ last.1 with policy := nextLine.quiet }, last.2)).1
      reply) ∧
      wantedAfter Memory.serve (.read 64 1) ({ last.1 with policy := nextLine }, last.2) =
        some 128 ∧
        reply.outcome = .ok ⟨false, 2⟩ ∧ reply.delivered = some [0] := by
  exact ⟨⟨fresh_oneLine, undisturbed_after fresh_oneLine { size := 192 } (by decide) _ _ _⟩,
    by decide +kernel, rfl, rfl⟩

/-- A read of the last block of the memory is served, and fails for the block behind it. -/
theorem disturbed_oneLine :
    let memory : Memory := { size := 64, latency := { bus := 50 } }
    oneLine.Fresh ∧
      (serve Memory.serve (.read 0 8)
        ({ oneLine with policy := nextLine.quiet }, memory)).1.outcome = .ok ⟨false, 52⟩ ∧
      (serve Memory.serve (.read 0 8) ({ oneLine with policy := nextLine }, memory)).1.outcome =
        .error (.access 64 .outOfBounds) := by
  exact ⟨fresh_oneLine, rfl, rfl⟩

end Cache

end FiveStage
