import FiveStage.Proofs.Cache.Occupancy
import Mathlib.Algebra.Group.Basic
import Mathlib.Algebra.Group.Nat.Defs

/-!
# Statistics balance

What a cache counts follows from the requests it has served and from what it asked of the storage
below for their sake. Each missing block that is brought in takes a vacant line or the line of a
block that gives way; a write to a missing block is passed on before the block is read; and a dirty
block that gives way is written back. As long as nothing fails, no request to the storage below goes
uncounted, and in a chain each cache has counted what the one above it has asked.

## Main definitions

* `Storage.Serves`: a sequence of requests without an error
* `missesOf`, `hitsOf`, `flushesOf`: what an exchange shows of the cache that served it
* `Cache.Flow`: what an action adds to the counters, to the blocks in the cache and to the requests
  to the storage below
* `Cache.Balanced`, `Chain.Balanced`: the laws for one cache, and for all levels of a chain

## Main results

* `Cache.attend_flow`: what one request adds
* `Cache.Balanced.served`: the laws are kept by a request that is served
* `Chain.balanced_after`: the laws hold for a new cache over any storage, and on all levels of a
  chain
-/

namespace FiveStage

/-! ### Sequences of requests without an error -/

namespace Storage

variable {S : Type} {storage : Storage S} {requests later : List Request} {before between after : S}

/-- The requests are served one after the other, none of them fails, and this leads from one state
to another. -/
inductive Serves (storage : Storage S) : List Request → S → S → Prop
  | nil (state : S) : Serves storage [] state state
  | cons {request : Request} {requests : List Request} {state last : S} {access : Access}
    (outcome : (storage request state).1.outcome = .ok access)
    (rest : Serves storage requests (storage request state).2 last) :
    Serves storage (request :: requests) state last

theorem Serves.append (first : Serves storage requests before between)
    (second : Serves storage later between after) :
    Serves storage (requests ++ later) before after := by
  induction first with
  | nil => exact second
  | cons outcome _ ih => exact .cons outcome (ih second)

theorem serves_one {request : Request} {access : Access}
    (outcome : (storage request before).1.outcome = .ok access) :
    Serves storage [request] before (storage request before).2 :=
  .cons outcome (.nil _)

/-- The counter grows by one with each request that is served. -/
def Counts (storage : Storage S) (counter : S → Nat) : Prop :=
  ∀ request state access, (storage request state).1.outcome = .ok access →
    counter (storage request state).2 = counter state + 1

theorem Serves.counted (serves : Serves storage requests before after) {counter : S → Nat}
    (counts : storage.Counts counter) : counter after = counter before + requests.length := by
  induction serves with
  | nil => rfl
  | cons outcome _ ih =>
    rw [ih, counts _ _ _ outcome, List.length_cons]
    omega

theorem length_exchange (requests : List Request) (state : S) :
    (storage.exchange requests state).length = requests.length := by
  induction requests generalizing state with
  | nil => rfl
  | cons request rest ih => rw [exchange, List.length_cons, ih, List.length_cons]

end Storage

/-- Requests that are all served lead to the state after them. -/
theorem Storage.serves_after {S : Type} {storage : Storage S} {requests : List Request} {state : S}
    (fine : (storage.exchange requests state).all fun entry => entry.2.outcome.isOk) :
    storage.Serves requests state (storage.after requests state) := by
  induction requests generalizing state with
  | nil => exact .nil state
  | cons request rest ih =>
    rw [exchange, List.all_cons, Bool.and_eq_true] at fine
    cases outcome : (storage request state).1.outcome with
    | ok access => exact .cons outcome (ih fine.2)
    | error fault =>
      rw [outcome] at fine
      cases fine.1

/-- The memory counts each request that it serves. -/
theorem Memory.counts : Storage.Counts serve fun memory : Memory => memory.statistics.accesses := by
  intro request memory access outcome
  unfold serve at outcome ⊢
  split at outcome
  · next holds =>
    rw [if_pos holds]
    cases request <;> rfl
  · cases outcome

/-! ### What an exchange shows -/

/-- The number of requests of a kind that missed. -/
def missesOf (kind : AccessKind) (exchange : List (Request × Reply)) : Nat :=
  exchange.countP fun (request, reply) => request.kind == kind && !reply.isHit

/-- The number of requests of a kind that hit. -/
def hitsOf (kind : AccessKind) (exchange : List (Request × Reply)) : Nat :=
  exchange.countP fun (request, reply) => request.kind == kind && reply.isHit

/-- Whether an event is the write-back of a dirty block in the storage asked itself. -/
def Event.isFlush : Event → Bool
  | ⟨0, .flushed ..⟩ => true
  | _ => false

/-- Write-backs of the storages below are not those of the storage asked. -/
@[simp] theorem isFlush_deeper (event : Event) : event.deeper.isFlush = false := rfl

@[simp] theorem isFlush_flushed (cache : String) (address : Nat) :
    Event.isFlush ⟨0, .flushed cache address⟩ = true := rfl

/-- The number of dirty blocks that a storage has written back. -/
def flushesOf (exchange : List (Request × Reply)) : Nat :=
  (exchange.flatMap fun (_, reply) => reply.journal).countP Event.isFlush

/-- The policy never sends a request past the cache. -/
def Policy.NeverBypasses {σ : Type} (policy : Policy σ) : Prop :=
  ∀ address kind memo, (policy.bypass address kind memo).1 = false

namespace Cache

variable {σ S : Type} {cache : Cache σ} {lower : Storage S} {request : Request}
  {state next start last : ServiceState σ S} {index address set : Nat}

/-! ### Gains -/

/-- What is added to the counters of a cache, to the blocks that were brought into it, and to the
requests that the storage below was asked, apart from write-backs. -/
structure Gain where
  accesses : Nat := 0
  misses : Nat := 0
  brought : Nat := 0
  forwarded : Nat := 0
  prefetches : Nat := 0
  asked : Nat := 0

instance : Add Gain where
  add first second :=
    { accesses := first.accesses + second.accesses
      misses := first.misses + second.misses
      brought := first.brought + second.brought
      forwarded := first.forwarded + second.forwarded
      prefetches := first.prefetches + second.prefetches
      asked := first.asked + second.asked }

theorem Gain.add_def (first second : Gain) : first + second =
    { accesses := first.accesses + second.accesses
      misses := first.misses + second.misses
      brought := first.brought + second.brought
      forwarded := first.forwarded + second.forwarded
      prefetches := first.prefetches + second.prefetches
      asked := first.asked + second.asked } := rfl

theorem Gain.zero_add (gain : Gain) : ({} : Gain) + gain = gain := by
  simp only [Gain.add_def, Nat.zero_add]

/-- The counters after a gain. -/
def Gain.counted (gain : Gain) (time : Nat) (statistics : Statistics) : Statistics :=
  { statistics with
    accesses := statistics.accesses + gain.accesses
    misses := statistics.misses + gain.misses
    forwarded := statistics.forwarded + gain.forwarded
    prefetches := statistics.prefetches + gain.prefetches
    time := statistics.time + time }

/-- The number of own write-backs noted so far. -/
def flushes (state : ServiceState σ S) : Nat := state.journal.countP Event.isFlush

/-- What happens between two states without an error. Blocks that were brought in are in the cache
or were replaced, only blocks that were replaced are written back, and none if the cache writes
through. -/
structure Flow (lower : Storage S) (gain : Gain) (state next : ServiceState σ S) : Prop where
  geometry : next.cache.geometry = state.cache.geometry
  policy : next.cache.policy = state.cache.policy
  accesses : next.cache.statistics.accesses = state.cache.statistics.accesses + gain.accesses
  misses : next.cache.statistics.misses = state.cache.statistics.misses + gain.misses
  forwarded : next.cache.statistics.forwarded = state.cache.statistics.forwarded + gain.forwarded
  prefetches : next.cache.statistics.prefetches =
    state.cache.statistics.prefetches + gain.prefetches
  blocks : next.cache.occupancy + next.cache.statistics.replacements =
    state.cache.occupancy + state.cache.statistics.replacements + gain.brought
  flushed : flushes next + state.cache.statistics.replacements ≤
    flushes state + next.cache.statistics.replacements
  through : state.cache.geometry.writeThrough = true → flushes next = flushes state
  -- the storage below is asked what the gain says and the write-backs, one request for each
  asked : ∃ passed, lower.Serves passed state.below next.below ∧
    passed.length + flushes state = flushes next + gain.asked

namespace Flow

variable {gain more : Gain}

theorem refl (state : ServiceState σ S) : Flow lower {} state state :=
  ⟨rfl, rfl, rfl, rfl, rfl, rfl, rfl, Nat.le_refl _, fun _ => rfl, [], .nil _, Nat.add_comm ..⟩

theorem trans (flow : Flow lower gain start state) (later : Flow lower more state last) :
    Flow lower (gain + more) start last where
  geometry := later.geometry.trans flow.geometry
  policy := later.policy.trans flow.policy
  accesses := by rw [later.accesses, flow.accesses, Nat.add_assoc]; rfl
  misses := by rw [later.misses, flow.misses, Nat.add_assoc]; rfl
  forwarded := by rw [later.forwarded, flow.forwarded, Nat.add_assoc]; rfl
  prefetches := by rw [later.prefetches, flow.prefetches, Nat.add_assoc]; rfl
  blocks := by rw [later.blocks, flow.blocks, Nat.add_assoc]; rfl
  flushed := by
    have first := flow.flushed
    have second := later.flushed
    omega
  through writes := by
    rw [later.through (flow.geometry ▸ writes), flow.through writes]
  asked := by
    obtain ⟨passed, serves, length⟩ := flow.asked
    obtain ⟨passed', serves', length'⟩ := later.asked
    refine ⟨passed ++ passed', serves.append serves', ?_⟩
    have total : (gain + more).asked = gain.asked + more.asked := rfl
    rw [List.length_append, total]
    omega

/-! ### What steps add -/

theorem count (flow : Flow lower gain start state) (more : Gain) (time : Nat)
    (brought : more.brought = 0) (asked : more.asked = 0) :
    Flow lower (gain + more) start { state with cache := state.cache.count (more.counted time) } :=
  flow.trans ⟨rfl, rfl, rfl, rfl, rfl, rfl, by rw [brought]; rfl, Nat.le_refl _, fun _ => rfl, [],
    .nil _, by rw [asked]; exact Nat.add_comm ..⟩

/-- A step that counts nothing and leaves as many blocks in the cache. -/
theorem idle (flow : Flow lower gain start state)
    (geometry : next.cache.geometry = state.cache.geometry)
    (policy : next.cache.policy = state.cache.policy)
    (statistics : next.cache.statistics = state.cache.statistics)
    (occupancy : next.cache.occupancy = state.cache.occupancy) (below : next.below = state.below)
    (quiet : flushes next = flushes state) : Flow lower gain start next := by
  have step : Flow lower {} state next := by
    refine ⟨geometry, policy, congrArg Statistics.accesses statistics,
      congrArg Statistics.misses statistics, congrArg Statistics.forwarded statistics,
      congrArg Statistics.prefetches statistics, ?_, ?_, fun _ => quiet, [], below ▸ .nil _, ?_⟩
    · rw [statistics, occupancy]
      rfl
    · exact Nat.le_of_eq (by rw [statistics, quiet])
    · rw [quiet]
      exact Nat.add_comm ..
  exact flow.trans step

theorem note (flow : Flow lower gain start state) {happening : Happening}
    (other : Event.isFlush ⟨0, happening⟩ = false) :
    Flow lower gain start { state with journal := state.journal ++ [⟨0, happening⟩] } := by
  refine flow.idle rfl rfl rfl rfl rfl ?_
  simp [flushes, other]

/-- A request to the storage below. The write-backs there are not the cache's own. -/
theorem ask (flow : Flow lower gain start state) {access : Access}
    (outcome : (lower request state.below).1.outcome = .ok access) :
    Flow lower (gain + { asked := 1 }) start
      { state with
        below := (lower request state.below).2
        journal := state.journal ++ (lower request state.below).1.journal.map Event.deeper } := by
  have own : flushes { state with
      below := (lower request state.below).2
      journal := state.journal ++ (lower request state.below).1.journal.map Event.deeper } =
        flushes state := by
    simp [flushes]
  refine flow.trans ⟨rfl, rfl, rfl, rfl, rfl, rfl, rfl, ?_, fun _ => own, [request],
    Storage.serves_one outcome, ?_⟩
  · exact Nat.le_of_eq (by rw [own])
  · rw [own]
    exact Nat.add_comm ..

/-- A block that is brought in takes a line that holds nothing. -/
theorem fill (flow : Flow lower gain start state) (inside : index < state.cache.lines.size)
    (vacant : (state.cache.line index).valid = false) (data : Bytes) (tag : Nat) :
    Flow lower (gain + { brought := 1 }) start
      { state with
        cache := (state.cache.modifyLine index fun l =>
          { l with data, tag, valid := true, dirty := false }).touch index } := by
  refine flow.trans ⟨rfl, rfl, rfl, rfl, rfl, rfl, ?_, Nat.le_refl _, fun _ => rfl, [], .nil _,
    Nat.add_comm ..⟩
  have occupancy := occupancy_fill inside vacant data tag
  rw [occupancy_touch, occupancy, Nat.add_right_comm]
  rfl

/-- A block gives way, and is written back at most once, unless the cache writes through. -/
theorem replace (flow : Flow lower gain start state) (valid : (state.cache.line index).valid = true)
    (cache : next.cache = (state.cache.modifyLine index fun l =>
      { l with valid := false, dirty := false }).count
        fun s => { s with replacements := s.replacements + 1 })
    (through : state.cache.geometry.writeThrough = true → flushes next = flushes state)
    (once : flushes next ≤ flushes state + 1)
    (asked : ∃ passed, lower.Serves passed state.below next.below ∧
      passed.length + flushes state = flushes next) : Flow lower gain start next := by
  have step : Flow lower {} state next := by
    obtain ⟨_, below, delivered, journal⟩ := next
    subst cache
    refine ⟨rfl, rfl, rfl, rfl, rfl, rfl, ?_, ?_, through, asked⟩
    · rw [occupancy_giveUp valid]
      exact (Nat.add_right_comm _ 1 _).symm
    · calc _ ≤ flushes state + 1 + _ := Nat.add_le_add_right once _
        _ = _ := Nat.add_right_comm ..
  exact flow.trans step

end Flow

/-! ### The course of a request -/

/-- A block gives way to the next one, and is written back if it is dirty. -/
theorem makeRoom_flow (lower : Storage S) (tidy : state.cache.Tidy)
    (below : set < state.cache.sets) :
    Ends (makeRoom lower set) state
      (fun index next => Flow lower {} state next ∧ index < next.cache.lines.size ∧
        (next.cache.line index).valid = false)
      fun _ _ => True := by
  simp only [makeRoom, ends_bind, ends_current]
  cases found : state.cache.vacant? set with
  | some index =>
    have member := tidy.arranged.mem_linesOf_iff.mp (List.mem_of_find?_eq_some found)
    have vacant := List.find?_some found
    exact ⟨.refl state, tidy.arranged.lt_size_of_setOfLine_lt (member ▸ below),
      by simpa using vacant⟩
  | none =>
    obtain ⟨-, inside, valid, -⟩ := victim_holds tidy.arranged below found
    generalize state.cache.victim set = index at inside valid ⊢
    have vacant : ((state.cache.modifyLine index fun l =>
        { l with valid := false, dirty := false }).line index).valid = false := by
      rw [line_modifyLine_self inside]
    simp only [ends_bind, ends_update]
    split
    · next dirty =>
      simp only [ends_bind, ends_ask, ends_discard, ends_note, ends_update, ends_pure]
      refine ends_spent (fun _ outcome => ⟨?_, by simpa [Cache.count] using inside, vacant⟩)
        fun _ _ => trivial
      refine (Flow.refl state).replace valid rfl (fun writes => ?_) ?_
        ⟨_, Storage.serves_one outcome, ?_⟩
      · cases writes.symm.trans (tidy.lawful index dirty).2
      · simp [flushes]
      · simp [flushes, Nat.add_comm]
    · simp only [ends_bind, ends_update, ends_pure]
      refine ⟨?_, by simpa [Cache.count] using inside, vacant⟩
      exact (Flow.refl state).replace valid rfl (fun _ => rfl) (Nat.le_succ _)
        ⟨[], .nil _, Nat.zero_add _⟩

theorem fill_flow (lower : Storage S) (address : Nat) (inside : index < state.cache.lines.size)
    (vacant : (state.cache.line index).valid = false) :
    Ends (fill lower index address) state
      (fun _ next => Flow lower { brought := 1, asked := 1 } state next) fun _ _ => True := by
  simp only [fill, ends_bind, ends_ask]
  refine ends_spent (fun _ outcome => ?_) fun _ _ => trivial
  have asked := (Flow.refl state).ask outcome
  exact asked.fill inside vacant _ _

/-- A block that is prefetched is brought in without being forwarded for a request. -/
theorem prefetchBlock_flow (lower : Storage S) (address : Nat) (tidy : state.cache.Tidy) :
    Ends (prefetchBlock lower address) state
      (fun _ next => ∃ n, Flow lower { brought := n, prefetches := n, asked := n } state next)
      fun _ _ => True := by
  simp only [prefetchBlock, ends_bind, ends_current, ends_ite]
  split
  · exact ⟨0, .refl state⟩
  · have set_lt := tidy.arranged.setOf_lt address
    refine (makeRoom_flow lower tidy set_lt).mono (fun index room made => ?_) fun _ _ _ => trivial
    obtain ⟨made, inside, vacant⟩ := made
    simp only [ends_discard, ends_update]
    refine (fill_flow lower address inside vacant).mono (fun _ next filled => ⟨1, ?_⟩)
      fun _ _ _ => trivial
    exact (made.trans filled).count { prefetches := 1 } 0 rfl rfl

/-- What a request adds that hits or misses in a cache of the given geometry. -/
def gainOf (geometry : Geometry) : Bool → AccessKind → Gain
  | true, .read => {}
  | true, .write => if geometry.writeThrough then { forwarded := 1, asked := 1 } else {}
  | false, .read => { misses := 1, brought := 1, forwarded := 1, asked := 1 }
  | false, .write =>
    if geometry.writeAllocate then { misses := 1, brought := 1, forwarded := 1, asked := 2 }
    else { misses := 1, forwarded := 1, asked := 1 }

theorem serveHit_flow (lower : Storage S) (index : Nat) (request : Request) :
    Ends (serveHit lower index request) state
      (fun access next => access.hit = true ∧
        Flow lower (gainOf state.cache.geometry true request.kind) state next)
      fun _ _ => True := by
  simp only [serveHit, countTime, ends_bind, ends_current, ends_update]
  have begins : Flow lower {} state state := .refl state
  have timed := begins.count {} state.cache.latency.hitTime rfl rfl
  cases request with
  | read address length =>
    simp only [ends_bind, ends_deliver, ends_pure]
    exact ⟨trivial, timed.idle rfl rfl rfl occupancy_touch rfl rfl⟩
  | write address bytes =>
    simp only [ends_bind, ends_update]
    generalize stored_eq : ServiceState.mk _ _ _ _ = stored
    have stores : Flow lower {} state stored := by
      rw [← stored_eq]
      exact timed.idle rfl rfl rfl (occupancy_store.trans occupancy_touch) rfl rfl
    simp only [gainOf, Request.kind]
    split
    · simp only [ends_bind, ends_ask, countForwarded, ends_update, ends_pure]
      refine ends_spent (fun _ outcome => ⟨trivial, ?_⟩) fun _ _ => trivial
      exact (stores.ask outcome).count { forwarded := 1 } 0 rfl rfl
    · exact ⟨rfl, stores⟩

theorem passOn_flow (lower : Storage S) (request : Request) :
    Ends (passOn lower request) state
      (fun access next => access.hit = false ∧
        Flow lower { forwarded := 1, asked := 1 } state next)
      fun _ _ => True := by
  simp only [passOn, ends_bind, ends_ask, countForwarded]
  split
  · simp only [ends_bind, ends_deliver, ends_update, ends_pure]
    refine ends_spent (fun _ outcome => ⟨trivial, ?_⟩) fun _ _ => trivial
    have asked := (Flow.refl state).ask outcome
    exact (asked.count { forwarded := 1 } 0 rfl rfl).idle rfl rfl rfl rfl rfl rfl
  · simp only [ends_bind, ends_update, ends_pure]
    refine ends_spent (fun _ outcome => ⟨trivial, ?_⟩) fun _ _ => trivial
    have asked := (Flow.refl state).ask outcome
    exact asked.count { forwarded := 1 } 0 rfl rfl

theorem allocate_flow (tidy : state.cache.Tidy) :
    Ends (allocate lower request) state
      (fun access next => access.hit = false ∧ Flow lower
        (match request.kind with
          | .read => { brought := 1, forwarded := 1, asked := 1 }
          | .write => { brought := 1, forwarded := 1, asked := 2 }) state next)
      fun _ _ => True := by
  have set_lt := tidy.arranged.setOf_lt request.address
  simp only [allocate, countTime, countForwarded, ends_bind, ends_current]
  refine (makeRoom_flow lower tidy set_lt).mono (fun index room made => ?_) fun _ _ _ => trivial
  obtain ⟨made, inside, vacant⟩ := made
  cases request with
  | read address length =>
    simp only [ends_pure, ends_bind, ends_update, ends_current, ends_deliver, ends_note]
    refine (fill_flow lower address inside vacant).mono (fun _ next filled => ⟨trivial, ?_⟩)
      fun _ _ _ => trivial
    have counted := ((made.trans filled).count {} state.cache.latency.bus rfl rfl).count
      { forwarded := 1 } 0 rfl rfl
    exact counted.idle rfl rfl rfl rfl rfl (by simp [flushes, Event.isFlush])
  | write address bytes =>
    -- the write is passed on before its block is read, so the storage below is asked twice
    simp only [ends_pure, ends_bind, ends_ask, ends_update, ends_note]
    refine ends_spent (fun _ outcome => ?_) fun _ _ => trivial
    have asked := made.ask outcome
    refine Ends.mono (fill_flow lower address ?_ ?_) (fun _ next filled => ⟨trivial, ?_⟩)
      fun _ _ _ => trivial
    · exact inside
    · exact vacant
    · have counted := ((asked.trans filled).count {} state.cache.latency.bus rfl rfl).count
        { forwarded := 1 } 0 rfl rfl
      exact counted.note rfl

theorem serveMiss_flow (tidy : state.cache.Tidy) (missed : Flow lower { misses := 1 } start state) :
    Ends (serveMiss lower request) state
      (fun access next => access.hit = false ∧
        Flow lower (gainOf start.cache.geometry false request.kind) start next)
      fun _ _ => True := by
  rw [← missed.geometry]
  simp only [serveMiss, ends_bind, ends_current, ends_ite]
  split
  · next passes =>
    simp only [Bool.and_eq_true, beq_iff_eq, Bool.not_eq_true'] at passes
    refine (passOn_flow lower request).mono (fun _ next served => ⟨served.1, ?_⟩)
      fun _ _ _ => trivial
    rw [passes.1, gainOf, if_neg (by simp [passes.2])]
    exact missed.trans served.2
  · next brings =>
    refine (allocate_flow tidy).mono (fun _ next served => ⟨served.1, ?_⟩) fun _ _ _ => trivial
    have flow := missed.trans served.2
    cases kind : request.kind with
    | read =>
      rw [kind] at flow
      exact flow
    | write =>
      rw [kind] at flow brings
      rw [gainOf, if_pos (by simpa using brings)]
      exact flow

theorem serveLookedUp_flow (lower : Storage S) (request : Request) (tidy : state.cache.Tidy) :
    Ends (serveLookedUp lower request) state
      (fun access next =>
        Flow lower (gainOf state.cache.geometry access.hit request.kind) state next)
      fun _ _ => True := by
  simp only [serveLookedUp, ends_bind, ends_current]
  split
  · exact (serveHit_flow lower _ request).mono (fun _ _ served => served.1 ▸ served.2)
      fun _ _ _ => trivial
  · have begins : Flow lower {} state state := .refl state
    have missed := begins.count { misses := 1 } 0 rfl rfl
    have tidy' := tidy.step (.idle (sameLines_count state.cache (Gain.counted { misses := 1 } 0)))
    exact (serveMiss_flow tidy' missed).mono (fun _ _ served => served.1 ▸ served.2)
      fun _ _ _ => trivial

theorem followUp_flow (lower : Storage S) (request : Request) (access : Access)
    (tidy : state.cache.Tidy) :
    Ends (followUp lower request access) state
      (fun given next => given = access ∧
        ∃ n, Flow lower { brought := n, prefetches := n, asked := n } state next)
      fun _ _ => True := by
  simp only [followUp, consultPrefetch, ends_bind, ends_current, ends_update, ends_note, ends_pure]
  generalize consulted_eq : ServiceState.mk _ _ _ _ = consulted
  have consults : Flow lower {} state consulted := by
    rw [← consulted_eq]
    exact (Flow.refl state).idle rfl rfl rfl rfl rfl (by simp [flushes, Event.isFlush])
  have tidy' : consulted.cache.Tidy := by
    rw [← consulted_eq]
    exact tidy.step (.idle ⟨rfl, rfl, rfl⟩)
  split
  · simp only [ends_bind, ends_pure]
    refine (prefetchBlock_flow lower _ tidy').mono (fun _ next fetched => ⟨trivial, ?_⟩)
      fun _ _ _ => trivial
    obtain ⟨n, fetched⟩ := fetched
    have flow := consults.trans fetched
    rw [Gain.zero_add] at flow
    exact ⟨n, flow⟩
  · exact ⟨rfl, 0, consults⟩

/-- What one request adds, and the block that is prefetched after it. -/
theorem attend_flow (lower : Storage S) (request : Request) (tidy : state.cache.Tidy)
    (stays : state.cache.bypasses request = false) :
    Ends (attend lower request) state
      (fun access next => ∃ n,
        Flow lower ({ accesses := 1 } + gainOf state.cache.geometry access.hit request.kind +
          { brought := n, prefetches := n, asked := n }) state next)
      fun _ _ => True := by
  rw [ends_attend, stays, if_neg Bool.false_ne_true, ends_bind]
  generalize begun_eq : announced request.address _ = begun
  have begins : Flow lower { accesses := 1 } state begun := by
    rw [← begun_eq]
    exact ((Flow.refl state).count { accesses := 1 } 0 rfl rfl).idle rfl rfl rfl rfl rfl
      (by simp [flushes, announced, admitted, Event.isFlush])
  have tidy' : begun.cache.Tidy := begun_eq ▸ tidy.step (.idle ⟨rfl, rfl, rfl⟩)
  refine ((serveLookedUp_flow lower request tidy').and
    (serveLookedUp_steps lower request tidy'.arranged)).mono (fun access next served => ?_)
      fun _ _ _ => trivial
  obtain ⟨served, handles⟩ := served
  rw [begins.geometry] at served
  refine (followUp_flow lower request access (tidy'.steps handles.steps)).mono
    (fun given last follows => ?_) fun _ _ _ => trivial
  obtain ⟨rfl, n, fetched⟩ := follows
  exact ⟨n, (begins.trans served).trans fetched⟩

theorem serve_flow (lower : Storage S) (below : S) (tidy : cache.Tidy)
    (stays : cache.bypasses request = false) {access : Access}
    (outcome : (serve lower request (cache, below)).1.outcome = .ok access) :
    let (reply, after) := serve lower request (cache, below)
    ∃ n, Flow lower ({ accesses := 1 } + gainOf cache.geometry access.hit request.kind +
        { brought := n, prefetches := n, asked := n })
      { cache, below } { cache := after.1, below := after.2, journal := reply.journal } := by
  cases refused : cache.refusal? request with
  | some kind =>
    rw [serve, refused] at outcome
    cases outcome
  | none =>
    revert access
    refine serve_ends (motive := fun reply after =>
        ∀ {access : Access}, reply.outcome = .ok access → ∃ n,
          Flow lower ({ accesses := 1 } + gainOf cache.geometry access.hit request.kind +
            { brought := n, prefetches := n, asked := n })
          { cache, below } { cache := after.1, below := after.2, journal := reply.journal }) refused
      ((attend_flow lower request tidy stays).mono (fun given next served => ?_) fun _ _ _ => ?_)
    · obtain ⟨n, flow⟩ := served
      rintro _ ⟨⟩
      exact ⟨n, flow.idle rfl rfl rfl rfl rfl rfl⟩
    · intro _ failed
      cases failed

/-! ### The laws -/

/-- The laws that the counters of a cache obey after an exchange in which nothing failed and no
request bypassed the cache. `asked` is the number of requests that the storage below has got.

Every block that was brought in is still there or was replaced. A write that misses is passed on for
its own sake, and its block is asked for besides if the cache allocates for writes. -/
structure Balanced (exchange : List (Request × Reply)) (asked : Nat) (cache : Cache σ) : Prop where
  accesses : cache.statistics.accesses = exchange.length
  misses : cache.statistics.misses = missesOf .read exchange + missesOf .write exchange
  blocks : cache.occupancy + cache.statistics.replacements =
    missesOf .read exchange +
      (if cache.geometry.writeAllocate then missesOf .write exchange else 0) +
        cache.statistics.prefetches
  forwarded : cache.statistics.forwarded =
    cache.statistics.misses + if cache.geometry.writeThrough then hitsOf .write exchange else 0
  asked : asked = cache.statistics.forwarded +
    (if cache.geometry.writeAllocate then missesOf .write exchange else 0) +
      cache.statistics.prefetches + flushesOf exchange
  flushed : flushesOf exchange ≤ cache.statistics.replacements
  through : cache.geometry.writeThrough = true → flushesOf exchange = 0

/-- What a request adds, told by its entry in the exchange. -/
theorem gainOf_eq (geometry : Geometry) {reply : Reply} {access : Access}
    (outcome : reply.outcome = .ok access) :
    let entry := [(request, reply)]
    let writeMisses := if geometry.writeAllocate then missesOf .write entry else 0
    let writeHits := if geometry.writeThrough then hitsOf .write entry else 0
    let misses := missesOf .read entry + missesOf .write entry
    gainOf geometry access.hit request.kind =
      { misses, brought := missesOf .read entry + writeMisses, forwarded := misses + writeHits,
        asked := misses + writeHits + writeMisses } := by
  have hit : reply.isHit = access.hit := by rw [Reply.isHit, outcome]
  simp only [missesOf, hitsOf, List.countP_singleton, hit]
  cases access.hit <;> cases request.kind
  · simp [gainOf]
  · cases allocates : geometry.writeAllocate <;> simp [gainOf, allocates]
  · simp [gainOf]
  · cases writes : geometry.writeThrough <;> simp [gainOf, writes]

/-- The laws are kept by a request that is served. -/
theorem Balanced.served {exchange : List (Request × Reply)} {asked n : Nat} {below : S}
    {next : ServiceState σ S} {reply : Reply} {access : Access}
    (balanced : Balanced exchange asked cache)
    (flow : Flow lower ({ accesses := 1 } + gainOf cache.geometry access.hit request.kind +
      { brought := n, prefetches := n, asked := n }) { cache, below } next)
    (outcome : reply.outcome = .ok access) (journal : reply.journal = next.journal) :
    ∃ passed, lower.Serves passed below next.below ∧
      Balanced (exchange ++ [(request, reply)]) (asked + passed.length) next.cache := by
  obtain ⟨passed, serves, length⟩ := flow.asked
  have start : flushes ({ cache, below } : ServiceState σ S) = 0 := rfl
  have flushes_eq : flushesOf (exchange ++ [(request, reply)]) =
      flushesOf exchange + flushes next := by
    simp [flushesOf, flushes, journal]
  have geometry : next.cache.geometry = cache.geometry := flow.geometry
  obtain ⟨-, -, accesses, misses, forwarded, prefetches, blocks, flushed, through, -⟩ := flow
  obtain ⟨accesses', misses', blocks', forwarded', asked', flushed', through'⟩ := balanced
  simp only [start, gainOf_eq cache.geometry outcome, Gain.add_def]
    at accesses misses forwarded prefetches blocks flushed through length
  have append (kind : AccessKind) : missesOf kind (exchange ++ [(request, reply)]) =
      missesOf kind exchange + missesOf kind [(request, reply)] := List.countP_append
  have append' (kind : AccessKind) : hitsOf kind (exchange ++ [(request, reply)]) =
      hitsOf kind exchange + hitsOf kind [(request, reply)] := List.countP_append
  refine ⟨passed, serves, ?_, ?_, ?_, ?_, ?_, ?_, fun writes => ?_⟩
  · rw [List.length_append, List.length_singleton]
    omega
  · rw [append, append]
    omega
  · rw [geometry, append, append, ite_add_zero]
    omega
  · rw [geometry, append', ite_add_zero]
    omega
  · rw [geometry, append, ite_add_zero, flushes_eq]
    omega
  · rw [flushes_eq]
    omega
  · rw [geometry] at writes
    rw [flushes_eq, through writes, through' writes]

theorem New.balanced (new : cache.New) : cache.Balanced [] 0 := by
  have empty := new.fresh.occupancy
  have unused := new.unused
  constructor <;> simp [unused, empty, missesOf, hitsOf, flushesOf]

theorem Balanced.run {exchange : List (Request × Reply)} {asked : Nat} {requests : List Request}
    {before after : Cache σ × S} (serves : (serve lower).Serves requests before after)
    (balanced : before.1.Balanced exchange asked) (tidy : before.1.Tidy)
    (stays : before.1.policy.NeverBypasses) :
    ∃ passed, lower.Serves passed before.2 after.2 ∧
      after.1.Balanced (exchange ++ Storage.exchange (serve lower) requests before)
        (asked + passed.length) := by
  induction serves generalizing exchange asked with
  | nil state => exact ⟨[], .nil _, by simpa [Storage.exchange] using balanced⟩
  | @cons request requests state last access outcome rest ih =>
    obtain ⟨cache, below⟩ := state
    obtain ⟨n, flow⟩ := serve_flow lower below tidy (stays ..) outcome
    have tidy' := tidy.steps (serve_steps lower request (cache, below) tidy.arranged)
    have stays' : (serve lower request (cache, below)).2.1.policy.NeverBypasses :=
      flow.policy ▸ stays
    obtain ⟨passed, served, balanced'⟩ := balanced.served flow outcome rfl
    obtain ⟨passed', served', balanced''⟩ := ih balanced' tidy' stays'
    refine ⟨passed ++ passed', served.append served', ?_⟩
    rw [List.append_assoc, List.singleton_append, Nat.add_assoc, ← List.length_append] at balanced''
    exact balanced''

end Cache

namespace Chain

variable {σ : Type} {n : Nat}

/-- The laws on all levels of a chain that was asked for an exchange. What each cache has asked is
what the storage below it has counted, and an exchange there that obeys the laws as well. -/
def Balanced : {n : Nat} → List (Request × Reply) → Chain σ n → Chain σ n → Prop
  | 0, exchange, _, .ground memory => memory.statistics.accesses = exchange.length
  | _ + 1, exchange, .level _ below, .level cache below' =>
    cache.Balanced exchange (below'.statisticsAt 0).accesses ∧
      ∃ passed, serve.Serves passed below below' ∧
        Balanced (Storage.exchange serve passed below) below below'

theorem Balanced.accesses {exchange : List (Request × Reply)} {before after : Chain σ n}
    (balanced : Balanced exchange before after) :
    (after.statisticsAt 0).accesses = exchange.length := by
  cases after with
  | ground memory =>
    have counted : memory.statistics.accesses = exchange.length := by
      simpa only [Balanced] using balanced
    exact counted
  | level cache below =>
    cases before with
    | level _ _ => exact balanced.1.accesses

/-- At the top of a chain the highest cache is asked. -/
theorem serves_level {requests : List Request} {last : Chain σ (n + 1)}
    (state : Cache σ × Chain σ n)
    (serves : serve.Serves requests (.level state.1 state.2) last) :
    ∃ after : Cache σ × Chain σ n, last = .level after.1 after.2 ∧
      (Cache.serve serve).Serves requests state after := by
  induction requests generalizing state with
  | nil =>
    cases serves
    exact ⟨state, rfl, .nil _⟩
  | cons request rest ih =>
    cases serves with
    | cons outcome serves =>
      obtain ⟨after, last_eq, serves'⟩ := ih (Cache.serve serve request state).2 serves
      exact ⟨after, last_eq, .cons outcome serves'⟩

theorem exchange_level (requests : List Request) (state : Cache σ × Chain σ n) :
    Storage.exchange serve requests (.level state.1 state.2) =
      Storage.exchange (Cache.serve serve) requests state := by
  induction requests generalizing state with
  | nil => rfl
  | cons request rest ih => exact congrArg (List.cons _) (ih (Cache.serve serve request state).2)

/-- No level of a chain of new caches loses or doubles a request. -/
theorem balanced_of_serves {requests : List Request} {chain last : Chain σ n}
    (new : ∀ cache ∈ chain.caches, cache.New ∧ cache.policy.NeverBypasses)
    (unused : chain.memory.statistics = {}) (serves : serve.Serves requests chain last) :
    Balanced (Storage.exchange serve requests chain) chain last := by
  induction n generalizing requests with
  | zero =>
    have counts : Storage.Counts serve fun chain : Chain σ 0 =>
        (chain.statisticsAt 0).accesses := by
      rintro request ⟨memory⟩ access outcome
      exact Memory.counts request memory access outcome
    have counted := serves.counted counts
    cases chain with
    | ground memory =>
      cases last with
      | ground memory' =>
        rw [Balanced, Storage.length_exchange]
        have start : memory.statistics.accesses = 0 := congrArg Statistics.accesses unused
        exact counted.trans (by rw [Nat.add_eq_right]; exact start)
  | succ n ih =>
    cases chain with
    | level cache below =>
      obtain ⟨after, rfl, serves'⟩ := serves_level (cache, below) serves
      obtain ⟨cache_new, stays⟩ := new cache List.mem_cons_self
      obtain ⟨passed, passes, balanced⟩ :=
        Cache.Balanced.run serves' cache_new.balanced cache_new.fresh.tidy stays
      -- what the highest cache has passed on is an exchange with the chain below it
      have below_balanced := ih (fun other member => new other (List.mem_cons_of_mem _ member))
        unused passes
      refine ⟨?_, passed, passes, below_balanced⟩
      rw [below_balanced.accesses, Storage.length_exchange, exchange_level requests (cache, below)]
      simpa using balanced

end Chain

/-- The counters of new caches whose policies never bypass them balance after every sequence of
requests without an error: those of one cache over any storage that counts what it serves, and those
of all caches of a chain with what the storages below them have counted. -/
theorem statistics_balance {σ : Type} :
    (∀ {S : Type} (lower : Storage S) (accesses : S → Nat) (cache : Cache σ) (below : S)
      (requests : List Request) (last : Cache σ × S), lower.Counts accesses → cache.New →
      cache.policy.NeverBypasses → (Cache.serve lower).Serves requests (cache, below) last →
        ∃ asked, accesses last.2 = accesses below + asked ∧
          last.1.Balanced (Storage.exchange (Cache.serve lower) requests (cache, below)) asked) ∧
    ∀ {n : Nat} (chain last : Chain σ n) (requests : List Request),
      (∀ cache ∈ chain.caches, cache.New ∧ cache.policy.NeverBypasses) →
      chain.memory.statistics = {} → Chain.serve.Serves requests chain last →
        Chain.Balanced (Storage.exchange Chain.serve requests chain) chain last := by
  constructor
  · intro S lower accesses cache below requests last counts new stays serves
    obtain ⟨passed, passes, balanced⟩ :=
      Cache.Balanced.run serves new.balanced new.fresh.tidy stays
    exact ⟨passed.length, passes.counted counts, by simpa using balanced⟩
  · intro n chain last requests new unused serves
    exact Chain.balanced_of_serves new unused serves

/-- In the first cache a dirty block gives way to a block that is prefetched: the memory is asked
for two reads and a write that miss, two prefetches and a write-back. In the chain both caches
miss. -/
theorem statistics_balance_twoLevels :
    let requests : List Request := [.write 3 [7], .write 3 [8], .read 130 2]
    let start : Cache Unit × Memory := (Cache.twoLines, { size := 256 })
    let last := Storage.after (Cache.serve Memory.serve) requests start
    let traffic := Storage.exchange (Cache.serve Memory.serve) requests start
    let chain := Chain.ofCaches { size := 256 } Chain.twoLevels
    let bottom := Storage.after Chain.serve requests chain
    (∃ asked, last.2.statistics.accesses = 0 + asked ∧ last.1.Balanced traffic asked) ∧
      Chain.Balanced (Storage.exchange Chain.serve requests chain) chain bottom ∧
      last.2.statistics.accesses = 6 ∧ last.1.occupancy = 2 ∧
      last.1.statistics.replacements = 2 ∧ flushesOf traffic = 1 ∧
      (bottom.statisticsAt 1).accesses = 4 ∧ (bottom.statisticsAt 2).accesses = 4 := by
  have stays : Cache.twoLines.policy.NeverBypasses := fun _ _ _ => rfl
  have new : Cache.twoLines.New :=
    ⟨⟨{ Cache.twoLines with lines := #[], geometry := default }, ⟨128, 2, 1, false, true⟩, rfl⟩,
      rfl⟩
  have levels : ∀ cache ∈ Chain.twoLevels, cache.New ∧ cache.policy.NeverBypasses := by
    simp only [Chain.twoLevels, List.forall_mem_cons, List.not_mem_nil, false_implies, implies_true,
      and_true]
    exact
      ⟨⟨⟨⟨{ name := "upper", memo := () }, ⟨64, 1, 1, false, true⟩, rfl⟩, rfl⟩, fun _ _ _ => rfl⟩,
        ⟨⟨⟨{ name := "lower", memo := () }, ⟨128, 1, 2, true, false⟩, rfl⟩, rfl⟩, fun _ _ _ => rfl⟩⟩
  have unused : (Chain.ofCaches { size := 256 } Chain.twoLevels).memory.statistics = {} := rfl
  obtain ⟨single, all⟩ := statistics_balance (σ := Unit)
  intro requests start last traffic chain bottom
  refine ⟨single Memory.serve _ Cache.twoLines { size := 256 } requests last
    Memory.counts new stays ?_,
    all chain bottom requests levels unused ?_, by decide +kernel⟩
  · exact Storage.serves_after (by decide +kernel)
  · exact Storage.serves_after (by decide +kernel)

end FiveStage
