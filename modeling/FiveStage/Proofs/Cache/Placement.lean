import FiveStage.Proofs.Cache.Integrity

/-!
# Where a request puts its block

What a request does to the blocks in a cache with the plain policy depends on the storage below in
one point only: whether the missing block can be had there. Either the line of the block is used, or
room is made in its set and the block comes in, or room is made for nothing. In a cache that is
coherent over a storage of whole blocks, the last case is that of a block outside of the storage.

## Main definitions

* `Cache.Agrees`: two caches that differ in what their blocks hold and in how they were counted
* `Cache.room`, `Cache.cleared`, `Cache.brought`: the line for the next block of a set, the cache
  that has made room in it, and the cache into which a block has come
* `Cache.Turn`: the three ways in which a request ends

## Main results

* `Cache.serve_turn`: a request to a coherent cache ends in one of the three ways
-/

namespace FiveStage

/-- Whether the storage asked served the request and held the block itself. -/
def Reply.isHit (reply : Reply) : Bool :=
  match reply.outcome with
  | .ok access => access.hit
  | .error _ => false

/-- Whether a line holds a block, which one, and how long ago it was used. -/
def Line.entry (line : Line) : Bool × Nat × Nat := (line.valid, line.tag, line.age)

namespace Cache

variable {σ S : Type} {cache next last : Cache σ} {lower : Storage S} {state : ServiceState σ S}
  {request : Request} {index address set size i n : Nat}

/-! ### Caches with the same entries -/

/-- Two caches with the same entries in their lines that have missed equally often. What their lines
hold of their blocks and all other counters may differ. -/
structure Agrees (cache next : Cache σ) : Prop where
  geometry : next.geometry = cache.geometry
  policy : next.policy = cache.policy
  size : next.lines.size = cache.lines.size
  misses : next.statistics.misses = cache.statistics.misses
  entry : ∀ i, (next.line i).entry = (cache.line i).entry

theorem entry_modifyLine {change : Line → Line} (i : Nat) :
    ((cache.modifyLine index change).line i).entry =
      if i = index ∧ i < cache.lines.size then (change (cache.line i)).entry
      else (cache.line i).entry := by
  split
  · next both => rw [line_modifyLine both.2, if_pos both.1.symm]
  · next outside =>
    by_cases here : i = index
    · have beyond : ¬ i < cache.lines.size := fun inside => outside ⟨here, inside⟩
      rw [line_eq_empty beyond, line_eq_empty (by rwa [size_lines_modifyLine])]
    · rw [line_modifyLine_of_ne here]

theorem entry_touch (i : Nat) :
    ((cache.touch index).line i).entry =
      if i < cache.lines.size then
        if i = index then (cache.line i).fresh.entry else (cache.line i).aged.entry
      else (Line.empty 0).entry := by
  split
  · next inside =>
    rw [line_touch inside]
    split <;> rfl
  · next outside => rw [line_eq_empty (by rwa [size_lines_touch])]

namespace Agrees

theorem refl (cache : Cache σ) : cache.Agrees cache := ⟨rfl, rfl, rfl, rfl, fun _ => rfl⟩

theorem trans (first : cache.Agrees next) (second : next.Agrees last) : cache.Agrees last where
  geometry := second.geometry.trans first.geometry
  policy := second.policy.trans first.policy
  size := second.size.trans first.size
  misses := second.misses.trans first.misses
  entry i := (second.entry i).trans (first.entry i)

theorem count (agrees : cache.Agrees next) {change : Statistics → Statistics}
    (keeps : ∀ s, (change s).misses = s.misses) : cache.Agrees (next.count change) :=
  ⟨agrees.geometry, agrees.policy, agrees.size, (keeps _).trans agrees.misses, agrees.entry⟩

theorem store (agrees : cache.Agrees next) {change : Line → Line}
    (keeps : ∀ l, (change l).entry = l.entry) : cache.Agrees (next.modifyLine index change) where
  geometry := agrees.geometry
  policy := agrees.policy
  size := (size_lines_modifyLine ..).trans agrees.size
  misses := agrees.misses
  entry i := by
    rw [entry_modifyLine, keeps, ite_self]
    exact agrees.entry i

theorem sets (agrees : cache.Agrees next) : next.sets = cache.sets :=
  sets_congr agrees.geometry agrees.size

theorem ways (agrees : cache.Agrees next) : next.ways = cache.ways := by
  rw [Cache.ways, Cache.ways, agrees.size, agrees.sets]

theorem valid (agrees : cache.Agrees next) (i : Nat) :
    (next.line i).valid = (cache.line i).valid := congrArg Prod.fst (agrees.entry i)

theorem tag (agrees : cache.Agrees next) (i : Nat) : (next.line i).tag = (cache.line i).tag :=
  congrArg (fun entry => entry.2.1) (agrees.entry i)

theorem age (agrees : cache.Agrees next) (i : Nat) : (next.line i).age = (cache.line i).age :=
  congrArg (fun entry => entry.2.2) (agrees.entry i)

theorem setOfLine (agrees : cache.Agrees next) : next.setOfLine i = cache.setOfLine i := by
  rw [Cache.setOfLine, Cache.setOfLine, agrees.ways]

theorem linesOf_eq (agrees : cache.Agrees next) : next.linesOf set = cache.linesOf set := by
  rw [linesOf, linesOf, agrees.ways]

theorem holdsAt_iff (agrees : cache.Agrees next) : next.HoldsAt i n ↔ cache.HoldsAt i n := by
  simp only [HoldsAt, blockNumber, agrees.size, agrees.valid, agrees.tag, agrees.sets,
    agrees.setOfLine]

theorem setOf_eq (agrees : cache.Agrees next) : next.setOf address = cache.setOf address :=
  setOf_congr agrees.sets

theorem tagOf_eq (agrees : cache.Agrees next) : next.tagOf address = cache.tagOf address := by
  rw [tagOf, tagOf, agrees.sets]

theorem lookup_eq (agrees : cache.Agrees next) : next.lookup address = cache.lookup address := by
  simp only [lookup, agrees.setOf_eq, agrees.tagOf_eq, agrees.linesOf_eq, agrees.valid, agrees.tag]

theorem vacant?_eq (agrees : cache.Agrees next) : next.vacant? set = cache.vacant? set := by
  simp only [vacant?, agrees.linesOf_eq, agrees.valid]

theorem victim_eq (agrees : cache.Agrees next) : next.victim set = cache.victim set := by
  simp only [victim, agrees.linesOf_eq, agrees.age, agrees.ways]

end Agrees

/-! ### Room and blocks -/

/-- The line into which the next block of a set comes. -/
def room (cache : Cache σ) (set : Nat) : Nat := (cache.vacant? set).getD (cache.victim set)

/-- The cache after a line gave way in a set without a vacant one. -/
def cleared (cache : Cache σ) (set : Nat) : Cache σ :=
  match cache.vacant? set with
  | some _ => cache
  | none => cache.modifyLine (cache.victim set) fun l => { l with valid := false, dirty := false }

/-- The cache after the block of an address came into a line. -/
def installed (cache : Cache σ) (index address : Nat) (data : Bytes) : Cache σ :=
  (cache.modifyLine index fun l =>
    { l with data, tag := cache.tagOf address, valid := true, dirty := false }).touch index

/-- The cache after the block of an address came into its set. -/
def brought (cache : Cache σ) (address : Nat) (data : Bytes) : Cache σ :=
  (cache.cleared (cache.setOf address)).installed (cache.room (cache.setOf address)) address data

/-- The cache with one more miss counted. -/
def missed (cache : Cache σ) : Cache σ := cache.count fun s => { s with misses := s.misses + 1 }

theorem cleared_missed : cache.missed.cleared set = (cache.cleared set).missed := by
  unfold cleared
  have vacant?_eq : cache.missed.vacant? set = cache.vacant? set := rfl
  rw [vacant?_eq]
  split <;> rfl

theorem brought_missed {data : Bytes} :
    cache.missed.brought address data = (cache.brought address data).missed := by
  rw [brought, cleared_missed]
  rfl

namespace Agrees

theorem touch (agrees : cache.Agrees next) (index : Nat) :
    (cache.touch index).Agrees (next.touch index) where
  geometry := agrees.geometry
  policy := agrees.policy
  size := by simpa using agrees.size
  misses := agrees.misses
  entry i := by
    rw [entry_touch, entry_touch, agrees.size]
    simp only [Line.entry, Line.fresh, Line.aged, agrees.valid, agrees.tag, agrees.age]

theorem missed (agrees : cache.Agrees next) : cache.missed.Agrees next.missed :=
  ⟨agrees.geometry, agrees.policy, agrees.size, congrArg (· + 1) agrees.misses, agrees.entry⟩

theorem modifyLine (agrees : cache.Agrees next) {change change' : Line → Line}
    (alike : ∀ i, (change' (next.line i)).entry = (change (cache.line i)).entry) :
    (cache.modifyLine index change).Agrees (next.modifyLine index change') where
  geometry := agrees.geometry
  policy := agrees.policy
  size := by simpa using agrees.size
  misses := agrees.misses
  entry i := by rw [entry_modifyLine, entry_modifyLine, alike, agrees.entry, agrees.size]

theorem cleared (agrees : cache.Agrees next) (set : Nat) :
    (cache.cleared set).Agrees (next.cleared set) := by
  unfold Cache.cleared
  rw [agrees.vacant?_eq, agrees.victim_eq]
  split
  · exact agrees
  · refine agrees.modifyLine fun i => ?_
    simp only [Line.entry, agrees.tag, agrees.age]

theorem installed (agrees : cache.Agrees next) (index address : Nat) (data : Bytes) :
    (cache.installed index address data).Agrees (next.installed index address data) := by
  refine (agrees.modifyLine fun i => ?_).touch index
  simp only [Line.entry, agrees.tagOf_eq, agrees.age]

theorem room_eq (agrees : cache.Agrees next) : next.room set = cache.room set := by
  rw [room, room, agrees.vacant?_eq, agrees.victim_eq]

theorem brought (agrees : cache.Agrees next) (address : Nat) (data : Bytes) :
    (cache.brought address data).Agrees (next.brought address data) := by
  rw [Cache.brought, Cache.brought, agrees.setOf_eq, agrees.room_eq]
  exact (agrees.cleared _).installed _ _ _

end Agrees

/-! ### The course of a request -/

theorem makeRoom_clears (lower : Storage S) (set : Nat) :
    Ends (makeRoom lower set) state
      (fun index next => index = state.cache.room set ∧ (state.cache.cleared set).Agrees next.cache)
      (fun _ next => (state.cache.cleared set).Agrees next.cache) := by
  simp only [makeRoom, room, cleared, ends_bind, ends_current]
  cases state.cache.vacant? set with
  | some index => exact ⟨rfl, .refl _⟩
  | none =>
    simp only [ends_bind, ends_update]
    split
    · simp only [ends_bind, ends_ask, ends_discard, ends_note, ends_update, ends_pure]
      exact ends_spent (fun _ _ => ⟨rfl, (Agrees.refl _).count fun _ => rfl⟩) fun _ _ => .refl _
    · simp only [ends_bind, ends_update, ends_pure]
      exact ⟨rfl, (Agrees.refl _).count fun _ => rfl⟩

theorem fill_installs (lower : Storage S) (index address : Nat) :
    Ends (fill lower index address) state
      (fun _ next => ∃ data, next.cache = state.cache.installed index address data)
      (fun _ next => next.cache = state.cache) := by
  simp only [fill, ends_bind, ends_ask]
  exact ends_spent (fun _ _ => ⟨_, rfl⟩) fun _ _ => rfl

/-- Into the room that was made the block comes, unless the storage below fails. -/
theorem fill_brought (lower : Storage S) (address : Nat)
    (room : (cache.cleared (cache.setOf address)).Agrees state.cache) :
    Ends (fill lower (cache.room (cache.setOf address)) address) state
      (fun _ next => ∃ data, (cache.brought address data).Agrees next.cache)
      (fun _ next => (cache.cleared (cache.setOf address)).Agrees next.cache) := by
  refine (fill_installs ..).mono (fun _ next filled => ?_) fun _ next same => ?_
  · obtain ⟨data, installed⟩ := filled
    rw [installed]
    exact ⟨data, room.installed _ _ _⟩
  · rwa [same]

theorem serveHit_touches (lower : Storage S) (index : Nat) (request : Request) :
    Ends (serveHit lower index request) state
      (fun access next => access.hit = true ∧ (state.cache.touch index).Agrees next.cache)
      (fun _ next => (state.cache.touch index).Agrees next.cache) := by
  have timed (cycles : Nat) : (state.cache.touch index).Agrees
      ((state.cache.count fun s => { s with time := s.time + cycles }).touch index) := by
    refine Agrees.touch ?_ index
    exact (Agrees.refl _).count fun _ => rfl
  simp only [serveHit, countTime, ends_bind, ends_current, ends_update]
  cases request with
  | read address length =>
    simp only [ends_bind, ends_deliver, ends_pure]
    exact ⟨trivial, timed _⟩
  | write address bytes =>
    simp only [ends_bind, ends_update]
    split
    · simp only [ends_bind, ends_ask, countForwarded, ends_update, ends_pure]
      refine ends_spent (fun _ _ => ⟨trivial, ?_⟩) fun _ _ => ?_
      · refine Agrees.count ?_ fun _ => rfl
        exact (timed _).store fun _ => rfl
      · exact (timed _).store fun _ => rfl
    · exact ⟨rfl, (timed _).store fun _ => rfl⟩

/-- A block that is missing is brought in, or room was made for it in vain. -/
theorem allocate_brings (lower : Storage S) (request : Request) :
    Ends (allocate lower request) state
      (fun access next => access.hit = false ∧
        ∃ data, (state.cache.brought request.address data).Agrees next.cache)
      (fun _ next => (state.cache.cleared (state.cache.setOf request.address)).Agrees
        next.cache) := by
  simp only [allocate, countTime, countForwarded, ends_bind, ends_current]
  refine (makeRoom_clears ..).mono (fun index room made => ?_) fun _ _ cleared => cleared
  obtain ⟨rfl, cleared⟩ := made
  have counted {next : Cache σ} (cycles : Nat)
      (brought : ∃ data, (state.cache.brought request.address data).Agrees next) :
      ∃ data, (state.cache.brought request.address data).Agrees
        ((next.count fun s => { s with time := s.time + cycles }).count
          fun s => { s with forwarded := s.forwarded + 1 }) := by
    obtain ⟨data, agrees⟩ := brought
    refine ⟨data, Agrees.count ?_ fun _ => rfl⟩
    exact agrees.count fun _ => rfl
  cases request with
  | read address length =>
    simp only [ends_pure, ends_bind, ends_update, ends_current, ends_deliver, ends_note]
    exact (fill_brought lower address cleared).mono
      (fun _ _ brought => ⟨trivial, counted _ brought⟩) fun _ _ cleared => cleared
  | write address bytes =>
    simp only [ends_pure, ends_bind, ends_ask, ends_update, ends_note]
    refine ends_spent (fun _ _ => ?_) fun _ _ => cleared
    exact (fill_brought lower address (by exact cleared)).mono
      (fun _ _ brought => ⟨trivial, counted _ brought⟩) fun _ _ cleared => cleared

/-- The ways in which a request for the block of an address ends: the line of the block is used, or
the block comes in, or room is made for nothing. Only a write that is passed on at once can fail
although its block is there. -/
inductive Turn (address : Nat) (cache : Cache σ) : Except MemoryFault Access → Cache σ → Prop
  | hit {next : Cache σ} {index : Nat} {access : Access} (found : cache.lookup address = some index)
    (hit : access.hit = true) (agrees : (cache.touch index).Agrees next) :
    Turn address cache (.ok access) next
  | unwritten {next : Cache σ} {index : Nat} {fault : MemoryFault}
    (found : cache.lookup address = some index) (agrees : (cache.touch index).Agrees next) :
    Turn address cache (.error fault) next
  | brought {next : Cache σ} {data : Bytes} {access : Access} (absent : cache.lookup address = none)
    (miss : access.hit = false) (agrees : (cache.brought address data).missed.Agrees next) :
    Turn address cache (.ok access) next
  | cleared {next : Cache σ} {fault : MemoryFault} (absent : cache.lookup address = none)
    (agrees : (cache.cleared (cache.setOf address)).missed.Agrees next) :
    Turn address cache (.error fault) next

theorem Turn.after (agrees : cache.Agrees next) {outcome : Except MemoryFault Access}
    (turn : Turn address next outcome last) : Turn address cache outcome last := by
  cases turn with
  | hit found hit same => exact .hit (agrees.lookup_eq ▸ found) hit ((agrees.touch _).trans same)
  | unwritten found same =>
    exact .unwritten (agrees.lookup_eq ▸ found) ((agrees.touch _).trans same)
  | brought absent miss same =>
    exact .brought (agrees.lookup_eq ▸ absent) miss ((agrees.brought _ _).missed.trans same)
  | cleared absent same =>
    refine .cleared (agrees.lookup_eq ▸ absent) (Agrees.trans ?_ same)
    exact agrees.setOf_eq ▸ (agrees.cleared _).missed

theorem Turn.trans {outcome : Except MemoryFault Access} (turn : Turn address cache outcome next)
    (agrees : next.Agrees last) : Turn address cache outcome last := by
  cases turn with
  | hit found hit same => exact .hit found hit (same.trans agrees)
  | unwritten found same => exact .unwritten found (same.trans agrees)
  | brought absent miss same => exact .brought absent miss (same.trans agrees)
  | cleared absent same => exact .cleared absent (same.trans agrees)

theorem Turn.policy_eq {outcome : Except MemoryFault Access}
    (turn : Turn address cache outcome next) : next.policy = cache.policy := by
  have cleared (set : Nat) : (cache.cleared set).policy = cache.policy := by
    unfold Cache.cleared
    split <;> rfl
  cases turn with
  | hit found hit same => exact same.policy
  | unwritten found same => exact same.policy
  | brought absent miss same => exact same.policy.trans (cleared _)
  | cleared absent same => exact same.policy.trans (cleared _)

/-- A request takes its turn unless it is a write that is passed on for want of its block. -/
theorem serveLookedUp_turn (lower : Storage S)
    (allocates : request.kind = .write → state.cache.geometry.writeAllocate = true) :
    Ends (serveLookedUp lower request) state
      (fun access next => Turn request.address state.cache (.ok access) next.cache)
      (fun fault next => Turn request.address state.cache (.error fault) next.cache) := by
  simp only [serveLookedUp, ends_bind, ends_current]
  cases found : state.cache.lookup request.address with
  | some index =>
    exact (serveHit_touches lower index request).mono
      (fun _ _ served => .hit found served.1 served.2) fun _ _ touched => .unwritten found touched
  | none =>
    simp only [ends_bind, ends_update, serveMiss, ends_current]
    split
    · next passes =>
      simp only [Bool.and_eq_true, beq_iff_eq, Bool.not_eq_true'] at passes
      cases passes.2.symm.trans (allocates passes.1)
    · exact (allocate_brings lower request).mono
        (fun _ _ served => .brought found served.1 (brought_missed ▸ served.2.choose_spec))
        fun _ _ cleared => .cleared found (cleared_missed ▸ cleared)

/-- Under the plain policy nothing follows a request. -/
theorem followUp_plain (lower : Storage S) (request : Request) (access : Access)
    (plain : state.cache.policy = Policy.plain σ) :
    Ends (followUp lower request access) state
      (fun served next => served = access ∧ state.cache.Agrees next.cache) fun _ _ => False := by
  simp only [followUp, consultPrefetch, ends_bind, ends_current, ends_update, ends_note, ends_pure,
    plain, Policy.plain]
  exact ⟨trivial, rfl, plain.symm, rfl, rfl, fun _ => rfl⟩

/-- The plain policy passes no request by. -/
theorem not_bypasses_of_plain {cache : Cache σ} (plain : cache.policy = Policy.plain σ)
    (request : Request) : ¬ cache.bypasses request = true := by
  rw [bypasses, plain]
  exact Bool.false_ne_true

/-- Under the plain policy a request takes its turn and nothing follows. -/
theorem attend_turn (lower : Storage S) (plain : state.cache.policy = Policy.plain σ)
    (allocates : request.kind = .write → state.cache.geometry.writeAllocate = true) :
    Ends (attend lower request) state
      (fun access next => Turn request.address state.cache (.ok access) next.cache)
      (fun fault next => Turn request.address state.cache (.error fault) next.cache) := by
  rw [ends_attend, if_neg (not_bypasses_of_plain plain _), ends_bind]
  generalize start_eq : announced request.address _ = start
  have starts : state.cache.Agrees start.cache := start_eq ▸ ⟨rfl, rfl, rfl, rfl, fun _ => rfl⟩
  refine (serveLookedUp_turn lower (starts.geometry ▸ allocates)).mono (fun access next turn => ?_)
    fun _ _ turn => turn.after starts
  have plain' := (turn.policy_eq.trans starts.policy).trans plain
  refine (followUp_plain lower request access plain').mono (fun served last follows => ?_)
    fun _ _ none => none.elim
  obtain ⟨rfl, agrees⟩ := follows
  exact (turn.after starts).trans agrees

/-- Under the plain policy a request that is not refused takes its turn. -/
theorem serve_turn (lower : Storage S) (below : S) (plain : cache.policy = Policy.plain σ)
    (allocates : request.kind = .write → cache.geometry.writeAllocate = true)
    (accepted : cache.refusal? request = none) :
    let served := serve lower request (cache, below)
    Turn request.address cache served.1.outcome served.2.1 := by
  exact serve_ends (motive := fun reply after => Turn request.address cache reply.outcome after.1)
    accepted (attend_turn lower plain allocates)

end Cache

end FiveStage
