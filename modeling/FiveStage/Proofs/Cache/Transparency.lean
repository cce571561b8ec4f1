import FiveStage.Cache.Service
import FiveStage.Proofs.Cache.Coherence
import FiveStage.Proofs.Outcome

/-!
# A cache over a flat array is a flat array

While a cache serves a request, its own state and the storage below change in several steps. Each
step keeps the cache coherent, and except for the write that was asked for, no step changes what is
seen through it. Making room never fails, since the block that gives way is inside the storage
below, and so a request fails only where it leaves the storage.

## Main definitions

* `Cache.Steady`, `Cache.seen`: the states between the steps of a request, and what is seen in them
* `Cache.Served`, `Cache.Refused`: how a request ends

## Main results

* `Cache.makeRoom_ends`, `Cache.fill_ends`, `Cache.prefetchBlock_ends`: the steps that change blocks
* `Cache.serveHit_ends`, `Cache.serveMiss_ends`, `Cache.attend_ends`: the course of a request
* `Cache.serve_ends`: what is known of the course of a request is known of its reply
* `Cache.transparent`: a coherent cache over a transparent storage is transparent
-/

namespace FiveStage

namespace Cache

variable {σ S : Type} {lower : Storage S} {size : Nat} {Sound : S → Prop} {lowerView : S → Contents}
  {state before : ServiceState σ S} {index address : Nat} {request : Request}

/-- Between two steps of a request the storage below is sound, and the cache is coherent over it. -/
structure Steady (size : Nat) (Sound : S → Prop) (lowerView : S → Contents)
    (state : ServiceState σ S) : Prop where
  below : Sound state.below
  coherent : state.cache.Coherent size (lowerView state.below)

/-- What is seen through the cache while it serves a request. -/
def seen (lowerView : S → Contents) (state : ServiceState σ S) : Contents :=
  state.cache.view (lowerView state.below)

/-- Nothing has changed that the requester can tell. -/
structure Kept (size : Nat) (Sound : S → Prop) (lowerView : S → Contents)
    (before state : ServiceState σ S) : Prop where
  steady : Steady size Sound lowerView state
  seen_eq : seen lowerView state = seen lowerView before
  delivered : state.delivered = before.delivered

theorem Kept.refl (steady : Steady size Sound lowerView state) :
    Kept size Sound lowerView state state :=
  ⟨steady, rfl, rfl⟩

theorem Kept.trans {next : ServiceState σ S} (first : Kept size Sound lowerView before state)
    (second : Kept size Sound lowerView state next) : Kept size Sound lowerView before next :=
  ⟨second.steady, second.seen_eq.trans first.seen_eq, second.delivered.trans first.delivered⟩

/-- A step that changes no block, nothing below and nothing delivered. -/
structure Idle (state next : ServiceState σ S) : Prop where
  blocks : state.cache.SameBlocks next.cache
  below : next.below = state.below
  delivered : next.delivered = state.delivered

theorem Idle.count (change : Statistics → Statistics) (journal : List Event) :
    Idle state { state with cache := state.cache.count change, journal } :=
  ⟨SameBlocks.count state.cache change, rfl, rfl⟩

theorem Idle.kept {next : ServiceState σ S} (idle : Idle state next)
    (steady : Steady size Sound lowerView state) : Kept size Sound lowerView state next :=
  ⟨⟨idle.below ▸ steady.below, idle.below ▸ idle.blocks.coherent steady.coherent⟩, by
    rw [seen, seen, idle.below, idle.blocks.view_eq steady.coherent], idle.delivered⟩

/-- The storage below was asked, and shows `contents` now. The cache is as it was. -/
structure Asked (Sound : S → Prop) (lowerView : S → Contents) (contents : Contents)
    (state next : ServiceState σ S) : Prop where
  cache : next.cache = state.cache
  delivered : next.delivered = state.delivered
  below : Sound next.below
  shows : lowerView next.below = contents

theorem Asked.kept {next : ServiceState σ S}
    (asked : Asked Sound lowerView (lowerView state.below) state next)
    (steady : Steady size Sound lowerView state) : Kept size Sound lowerView state next := by
  refine ⟨⟨asked.below, ?_⟩, ?_, asked.delivered⟩
  · rw [asked.cache, asked.shows]
    exact steady.coherent
  · rw [seen, asked.cache, asked.shows, seen]

/-- The cache has served a request. -/
structure Served (size : Nat) (Sound : S → Prop) (lowerView : S → Contents) (request : Request)
    (before state : ServiceState σ S) : Prop where
  steady : Steady size Sound lowerView state
  seen_eq : seen lowerView state = request.apply (seen lowerView before)
  inside : request.address + request.length ≤ size
  delivers : request.kind = .read →
    state.delivered = some ((seen lowerView before).read request.address request.length)

theorem Served.after {next : ServiceState σ S} (kept : Kept size Sound lowerView before state)
    (served : Served size Sound lowerView request state next) :
    Served size Sound lowerView request before next :=
  ⟨served.steady, by rw [served.seen_eq, kept.seen_eq], served.inside, fun reads => by
    rw [served.delivers reads, kept.seen_eq]⟩

theorem Served.trans_kept {next : ServiceState σ S}
    (served : Served size Sound lowerView request before state)
    (kept : Kept size Sound lowerView state next) :
    Served size Sound lowerView request before next :=
  ⟨kept.steady, kept.seen_eq.trans served.seen_eq, served.inside, fun reads =>
    kept.delivered.trans (served.delivers reads)⟩

/-- The request is out of bounds, and nothing has changed for the requester. -/
structure Refused (size : Nat) (Sound : S → Prop) (lowerView : S → Contents) (address : Nat)
    (fault : MemoryFault) (before state : ServiceState σ S) : Prop
    extends Kept size Sound lowerView before state where
  beyond : size ≤ address
  kind : ∃ a, fault = .access a .outOfBounds

theorem Refused.after {next : ServiceState σ S} {fault : MemoryFault}
    (kept : Kept size Sound lowerView before state)
    (refused : Refused size Sound lowerView address fault state next) :
    Refused size Sound lowerView address fault before next :=
  ⟨kept.trans refused.toKept, refused.beyond, refused.kind⟩

/-! ### Asking the storage below -/

section Asking

variable {α : Type} {ok : α → ServiceState σ S → Prop}
    {failed : MemoryFault → ServiceState σ S → Prop}

@[simp] theorem ends_update {change : Cache σ → Cache σ} {ok : Unit → ServiceState σ S → Prop} :
    Ends (update change) state ok failed ↔ ok () { state with cache := change state.cache } :=
    Iff.rfl

@[simp] theorem ends_current {ok : Cache σ → ServiceState σ S → Prop} :
    Ends current state ok failed ↔ ok state.cache state := Iff.rfl

@[simp] theorem ends_note {happening : Happening} {ok : Unit → ServiceState σ S → Prop} :
    Ends (note happening) state ok failed ↔
      ok () { state with journal := state.journal ++ [⟨0, happening⟩] } := Iff.rfl

@[simp] theorem ends_deliver {bytes : Bytes} {ok : Unit → ServiceState σ S → Prop} :
    Ends (deliver bytes) state ok failed ↔ ok () { state with delivered := some bytes } := Iff.rfl

theorem ends_spent {reply : Reply} {ok : Nat → ServiceState σ S → Prop}
    (served : ∀ access, reply.outcome = .ok access → ok access.total state)
    (refused : ∀ fault, reply.outcome = .error fault → failed fault state) :
    Ends (spent reply) state ok failed := by
  unfold spent
  cases outcome : reply.outcome with
  | ok access => exact served access outcome
  | error fault => exact refused fault outcome

theorem ends_spent_of_ok {reply : Reply} {access : Access} {ok : Nat → ServiceState σ S → Prop}
    (outcome : reply.outcome = .ok access) :
    Ends (spent reply) state ok failed ↔ ok access.total state := by
  unfold spent
  rw [outcome]
  exact ends_pure

theorem ends_spent_of_error {reply : Reply} {fault : MemoryFault}
    {ok : Nat → ServiceState σ S → Prop} (outcome : reply.outcome = .error fault) :
    Ends (spent reply) state ok failed ↔ failed fault state := by
  unfold spent
  rw [outcome]
  rfl

/-- A request to the storage below is served as by a flat array. -/
theorem ask_ends (transparent : lower.Transparent size Sound lowerView) (sound : Sound state.below)
    (inBlock : request.InBlock) {ok : Reply → ServiceState σ S → Prop}
    (served : ∀ reply next access, reply.outcome = .ok access →
      Asked Sound lowerView (request.apply (lowerView state.below)) state next →
      request.address + request.length ≤ size →
      (request.kind = .read → reply.delivered =
        some ((lowerView state.below).read request.address request.length)) → ok reply next)
    (refused : ∀ reply next fault, reply.outcome = .error fault →
      Asked Sound lowerView (lowerView state.below) state next → size ≤ request.address →
      reply.delivered = none → (∃ a, fault = .access a .outOfBounds) → ok reply next) :
    Ends (ask lower request) state ok failed := by
  obtain ⟨sound', answers⟩ := transparent request state.below sound inBlock
  simp only [ask, ends_bind, ends_get, ends_set, ends_pure]
  generalize lower request state.below = answer at sound' answers
  unfold Answers at answers
  cases outcome : answer.1.outcome with
  | ok access =>
    rw [outcome] at answers
    exact served answer.1 _ access outcome ⟨rfl, rfl, sound', answers.1⟩ answers.2.1 answers.2.2
  | error fault =>
    rw [outcome] at answers
    obtain ⟨shows, beyond, nothing, kind⟩ := answers
    exact refused answer.1 _ fault outcome ⟨rfl, rfl, sound', shows⟩ beyond nothing kind

end Asking

/-! ### Room and blocks -/

/-- The victim of a set is a line of the set. -/
theorem victim_mem {cache : Cache σ} (ways_pos : 0 < cache.ways) (set : Nat) :
    cache.victim set ∈ cache.linesOf set := by
  have first : set * cache.ways ∈ cache.linesOf set := by
    simp only [linesOf, List.mem_range'_1]
    omega
  have chosen : ∀ (rest : List Nat) (oldest : Nat), oldest ∈ cache.linesOf set →
      (∀ i ∈ rest, i ∈ cache.linesOf set) →
      rest.foldl (fun oldest i =>
        if (cache.line i).age > (cache.line oldest).age then i else oldest)
        oldest ∈ cache.linesOf set := by
    intro rest
    induction rest with
    | nil => exact fun oldest member _ => member
    | cons i rest ih =>
      intro oldest member inside
      refine ih _ ?_ fun j later => inside j (List.mem_cons_of_mem i later)
      dsimp only
      split
      · exact inside i List.mem_cons_self
      · exact member
  exact chosen _ _ first fun _ member => member

/-- Room was made at a line: the line holds nothing, and blocks were at most given up. -/
structure Room (size : Nat) (Sound : S → Prop) (lowerView : S → Contents) (set index : Nat)
    (before state : ServiceState σ S) : Prop extends Kept size Sound lowerView before state where
  geometry : state.cache.geometry = before.cache.geometry
  lines : state.cache.lines.size = before.cache.lines.size
  place : state.cache.setOfLine index = set
  vacant : (state.cache.line index).valid = false
  holds : ∀ i n, state.cache.HoldsAt i n → before.cache.HoldsAt i n

theorem Room.idle {set : Nat} {next : ServiceState σ S}
    (room : Room size Sound lowerView set index before state)
    (idle : Idle state next) (inside : index < state.cache.lines.size) :
    Room size Sound lowerView set index before next where
  toKept := room.toKept.trans (idle.kept room.steady)
  geometry := idle.blocks.geometry.trans room.geometry
  lines := idle.blocks.size.trans room.lines
  place := idle.blocks.setOfLine.trans room.place
  vacant := (idle.blocks.line index inside).2.2.1.trans room.vacant
  holds i n held := room.holds i n (idle.blocks.holdsAt_iff.mp held)

/-- A line gives way once the storage below shows its block. -/
theorem Steady.givenUp {set : Nat} {next : ServiceState σ S}
    (steady : Steady size Sound lowerView state) (place : state.cache.setOfLine index = set)
    (held : state.cache.HoldsAt index (state.cache.blockNumber index))
    (cache : next.cache = state.cache.modifyLine index fun l =>
      { l with valid := false, dirty := false })
    (delivered : next.delivered = state.delivered) (sound : Sound next.below)
    (others : ∀ a, a / blockSize ≠ state.cache.blockNumber index →
      lowerView next.below a = lowerView state.below a)
    (written : (lowerView next.below).read (state.cache.blockNumber index * blockSize) blockSize =
      (state.cache.line index).data) :
    Room size Sound lowerView set index state next := by
  -- the line held the only copy of its block, and the storage below has it now
  obtain ⟨coherent, view, gone⟩ := steady.coherent.drop held others written
  rw [← cache] at coherent view gone
  refine ⟨⟨⟨sound, coherent⟩, view, delivered⟩, ?_, ?_, ?_, ?_, fun i n held' => ?_⟩
  · rw [cache]
    rfl
  · rw [cache, size_lines_modifyLine]
  · rw [cache, setOfLine_modifyLine, place]
  · rw [cache, line_modifyLine_self held.1]
  · have away : i ≠ index := by
      rintro rfl
      exact gone n held'
    rw [cache] at held'
    exact (holdsAt_modifyLine_of_ne away).mp held'

/-- In a set without a vacant line, the victim is a line of the set and holds a block. -/
theorem victim_holds {cache : Cache σ} (arranged : cache.Arranged) {set : Nat}
    (below : set < cache.sets) (full : cache.vacant? set = none) :
    cache.setOfLine (cache.victim set) = set ∧
      cache.HoldsAt (cache.victim set) (cache.blockNumber (cache.victim set)) := by
  have member := victim_mem arranged.ways_pos set
  have place := arranged.mem_linesOf_iff.mp member
  have valid : (cache.line (cache.victim set)).valid = true := by
    simpa using List.find?_eq_none.mp full _ member
  have inside : cache.victim set < cache.lines.size := by
    refine arranged.lt_size_of_setOfLine_lt ?_
    rw [place]
    exact below
  exact ⟨place, inside, valid, rfl⟩

/-- Writing back a block never fails, and leaves the storage below as the line has it. -/
theorem writeBack_ends (transparent : lower.Transparent size Sound lowerView)
    (steady : Steady size Sound lowerView state) {set : Nat}
    (place : state.cache.setOfLine index = set)
    (held : state.cache.HoldsAt index (state.cache.blockNumber index)) :
    let dropped := state.cache.modifyLine index fun l => { l with valid := false, dirty := false }
    let line := state.cache.line index
    Ends (ask lower (.write (state.cache.addressOf line.tag set) line.data))
      { state with cache := dropped }
      (fun reply next => (∃ access, reply.outcome = .ok access) ∧ next.cache = dropped ∧
        Room size Sound lowerView set index state next)
      fun _ _ => False := by
  intro dropped line
  obtain ⟨whole, fits, -⟩ := steady.coherent.covers _ _ held
  have number : state.cache.blockNumber index * blockSize / blockSize =
      state.cache.blockNumber index :=
    Nat.mul_div_cancel _ (by decide)
  have inBlock : (Request.write (state.cache.blockNumber index * blockSize) line.data).InBlock := by
    have aligned : blockOffset (state.cache.blockNumber index * blockSize) = 0 := by
      simp [blockOffset]
    simp only [Request.InBlock, Request.address, Request.length, aligned, line, whole]
    omega
  rw [addressOf_eq place]
  refine ask_ends transparent ?_ inBlock ?_ ?_
  · exact steady.below
  · intro reply next access outcome asked _ _
    refine ⟨⟨access, outcome⟩, asked.cache, ?_⟩
    refine steady.givenUp place held asked.cache asked.delivered asked.below (fun a other => ?_) ?_
    · rw [asked.shows]
      exact Contents.write_of_block_ne inBlock (number.symm ▸ other)
    · rw [asked.shows]
      exact Contents.read_write_block whole
  · intro reply next fault outcome _ beyond _ _
    simp only [Request.address, blockSize] at beyond fits
    omega

/-- Making room never fails, since every block in the cache can be written back. -/
theorem makeRoom_ends (transparent : lower.Transparent size Sound lowerView)
    (steady : Steady size Sound lowerView state) {set : Nat} (below : set < state.cache.sets) :
    Ends (makeRoom lower set) state
      (fun index next => Room size Sound lowerView set index state next)
      fun _ _ => False := by
  have arranged := steady.coherent.arranged
  simp only [makeRoom, ends_bind, ends_current]
  cases found : state.cache.vacant? set with
  | some index =>
    have member := arranged.mem_linesOf_iff.mp (List.mem_of_find?_eq_some found)
    have vacant := List.find?_some found
    exact ⟨.refl steady, rfl, rfl, member, by simpa using vacant, fun _ _ held => held⟩
  | none =>
    obtain ⟨place, held⟩ := victim_holds arranged below found
    generalize state.cache.victim set = index at place held ⊢
    simp only [ends_bind, ends_update]
    split
    · simp only [ends_bind]
      refine (writeBack_ends transparent steady place held).mono (fun reply next written => ?_)
        fun _ _ none => none
      obtain ⟨⟨access, outcome⟩, cache, room⟩ := written
      simp only [ends_discard, ends_note, ends_update, ends_pure]
      refine (ends_spent_of_ok outcome).mpr ?_
      exact room.idle (.count ..) (by rw [cache, size_lines_modifyLine]; exact held.1)
    · next notDirty =>
        have clean := (steady.coherent.covers _ _ held).clean (by simpa using notDirty)
        simp only [ends_bind, ends_update, ends_pure]
        have room : Room size Sound lowerView set index state
            { state with cache := state.cache.modifyLine index _ } :=
          steady.givenUp place held rfl rfl steady.below (fun _ _ => rfl) clean.symm
        exact room.idle (.count ..) (by rw [size_lines_modifyLine]; exact held.1)

/-- The block of an address comes into a line that holds nothing, unless the address is out of
bounds. -/
theorem fill_ends (transparent : lower.Transparent size Sound lowerView)
    (steady : Steady size Sound lowerView state)
    (place : state.cache.setOfLine index = state.cache.setOf address)
    (vacant : (state.cache.line index).valid = false)
    (absent : ∀ i, ¬ state.cache.HoldsAt i (address / blockSize)) :
    Ends (fill lower index address) state
      (fun _ next => Kept size Sound lowerView state next ∧
        next.cache.HoldsAt index (address / blockSize))
      (fun fault next => Refused size Sound lowerView address fault state next) := by
  have start := blockOf_eq_mul address
  have offset := blockOffset_lt address
  have split := blockOf_add_blockOffset address
  have inBlock : (Request.read (blockOf address) blockSize).InBlock := by
    simp only [Request.InBlock, Request.address, Request.length, start, blockOffset,
      Nat.mul_mod_left]
    omega
  have inside : index < state.cache.lines.size := by
    refine steady.coherent.arranged.lt_size_of_setOfLine_lt ?_
    rw [place]
    exact steady.coherent.arranged.setOf_lt address
  simp only [fill, ends_bind]
  refine ask_ends transparent steady.below inBlock ?_ ?_
  · intro reply next access outcome asked bound delivers
    refine (ends_spent_of_ok outcome).mpr ?_
    have fits : (address / blockSize + 1) * blockSize ≤ size := by
      simp only [Request.address, Request.length, start] at bound
      rwa [Nat.succ_mul]
    obtain ⟨coherent, view, held⟩ := steady.coherent.install inside vacant place absent fits
    have touched := SameBlocks.touch (state.cache.modifyLine index fun l =>
      { l with
        data := (lowerView state.below).read (blockOf address) blockSize
        tag := state.cache.tagOf address
        valid := true
        dirty := false }) index
    have shows : lowerView next.below = lowerView state.below := asked.shows
    simp only [ends_update, ends_pure, delivers rfl, asked.cache, Option.getD_some]
    refine ⟨⟨⟨asked.below, ?_⟩, ?_, asked.delivered⟩, touched.holdsAt_iff.mpr held⟩
    · exact shows.symm ▸ touched.coherent coherent
    · rw [seen, shows]
      exact (touched.view_eq coherent).trans view
  · intro reply next fault outcome asked beyond _ kind
    refine (ends_spent_of_error outcome).mpr ?_
    refine ⟨asked.kept steady, ?_, kind⟩
    simp only [Request.address] at beyond
    omega

theorem Room.setOf_eq {set : Nat} (room : Room size Sound lowerView set index before state) :
    state.cache.setOf address = before.cache.setOf address :=
  setOf_congr (sets_congr room.geometry room.lines)

theorem Room.absent {set : Nat} (room : Room size Sound lowerView set index before state)
    (absent : ∀ i, ¬ before.cache.HoldsAt i (address / blockSize)) :
    ∀ i, ¬ state.cache.HoldsAt i (address / blockSize) :=
  fun i held => absent i (room.holds i _ held)

/-- A block inside the storage below can always be prefetched. -/
theorem prefetchBlock_ends (transparent : lower.Transparent size Sound lowerView)
    (steady : Steady size Sound lowerView state) (inside : address < size) :
    Ends (prefetchBlock lower address) state (fun _ next => Kept size Sound lowerView state next)
      fun _ _ => False := by
  simp only [prefetchBlock, ends_bind, ends_current]
  cases found : state.cache.lookup address with
  | some i => simpa [contains, found] using Kept.refl steady
  | none =>
    have absent := steady.coherent.arranged.lookup_eq_none_iff.mp found
    have set_lt := steady.coherent.arranged.setOf_lt address
    simp only [contains, found, Option.isSome_none, Bool.false_eq_true, if_false, ends_bind]
    refine (makeRoom_ends transparent steady set_lt).mono
      (fun index room made => ?_) fun _ _ none => none
    simp only [ends_discard, ends_update]
    refine (fill_ends transparent made.steady (made.place.trans made.setOf_eq.symm) made.vacant
      (made.absent absent)).mono (fun _ next filled => ?_) fun _ _ refused => ?_
    · exact (made.toKept.trans filled.1).trans (Idle.kept (.count ..) filled.1.steady)
    · exact absurd refused.beyond (by omega)

/-! ### Hits and misses -/

/-- What a line holds of a request's bytes is what is seen at the request's address. -/
theorem Coherent.slice_data {cache : Cache σ} {below : Contents} {length : Nat}
    (coherent : cache.Coherent size below) (holds : cache.HoldsAt index (address / blockSize))
    (inBlock : blockOffset address + length ≤ blockSize) :
    (cache.line index).data.slice (blockOffset address) length =
      (cache.view below).read address length := by
  rw [coherent.data_eq_read_view holds, Contents.slice_read inBlock,
    blockNumber_mul_add_blockOffset]

theorem Coherent.inside_of_holds {cache : Cache σ} {below : Contents}
    (coherent : cache.Coherent size below)
    (holds : cache.HoldsAt index (request.address / blockSize)) (inBlock : request.InBlock) :
    request.address < size ∧ request.address + request.length ≤ size := by
  have fits := (coherent.covers _ _ holds).inside
  simp only [Request.InBlock, blockOffset, blockSize] at fits inBlock
  omega

/-- A request whose block is in the cache is always served. -/
theorem serveHit_ends (transparent : lower.Transparent size Sound lowerView)
    (steady : Steady size Sound lowerView state) (inBlock : request.InBlock)
    (holds : state.cache.HoldsAt index (request.address / blockSize)) :
    Ends (serveHit lower index request) state
      (fun _ next => Served size Sound lowerView request state next) fun _ _ => False := by
  obtain ⟨before_end, inside⟩ := steady.coherent.inside_of_holds holds inBlock
  simp only [serveHit, countTime, ends_bind, ends_current, ends_update]
  generalize used_eq : (state.cache.count _).touch index = used
  have same : state.cache.SameBlocks used := by
    rw [← used_eq]
    exact (SameBlocks.count ..).trans (SameBlocks.touch ..)
  have coherent := same.coherent steady.coherent
  have view := same.view_eq steady.coherent
  have holds' := same.holdsAt_iff.mpr holds
  cases request with
  | read address length =>
    simp only [ends_bind, ends_deliver, ends_pure]
    exact ⟨⟨steady.below, coherent⟩, view, inside, fun _ => congrArg some
      (steady.coherent.slice_data holds inBlock)⟩
  | write address bytes =>
    obtain ⟨stored, written⟩ := coherent.store holds' inBlock
    rw [view] at written
    simp only [ends_bind, ends_update]
    rw [← same.geometry]
    split
    · next through =>
      rw [if_pos through] at stored written
      simp only [ends_bind]
      refine ask_ends transparent ?_ inBlock ?_ ?_
      · exact steady.below
      · intro reply next access outcome asked _ _
        refine (ends_spent_of_ok outcome).mpr ?_
        have shows : lowerView next.below = (lowerView state.below).write address bytes :=
          asked.shows
        have now : Steady size Sound lowerView next :=
          ⟨asked.below, by rw [asked.cache, shows]; exact stored⟩
        have kept :=
          Idle.kept (.count (fun s => { s with forwarded := s.forwarded + 1 }) next.journal) now
        refine ⟨kept.steady, kept.seen_eq.trans ?_, inside, fun reads => by cases reads⟩
        rw [seen, asked.cache, shows]
        exact written
      · intro reply next fault _ _ beyond _ _
        exact absurd beyond (by omega)
    · next late =>
      rw [if_neg late] at stored written
      exact ⟨⟨steady.below, stored⟩, written, inside, fun reads => by cases reads⟩

/-- A write to a block that is not in the cache went to the storage below alone. -/
theorem Asked.passed {next : ServiceState σ S} {bytes : Bytes}
    (asked : Asked Sound lowerView ((lowerView state.below).write address bytes) state next)
    (steady : Steady size Sound lowerView state) (inBlock : (Request.write address bytes).InBlock)
    (absent : ∀ i, ¬ state.cache.HoldsAt i (address / blockSize)) :
    Steady size Sound lowerView next ∧
      seen lowerView next = (seen lowerView state).write address bytes := by
  obtain ⟨coherent, view⟩ := steady.coherent.pass absent inBlock
  refine ⟨⟨asked.below, ?_⟩, ?_⟩
  · rw [asked.cache, asked.shows]
    exact coherent
  · rw [seen, asked.cache, asked.shows]
    exact view

/-- A write to a block that is not in the cache may go to the storage below alone. -/
theorem passOn_ends (transparent : lower.Transparent size Sound lowerView)
    (steady : Steady size Sound lowerView state) {bytes : Bytes}
    (inBlock : (Request.write address bytes).InBlock)
    (absent : ∀ i, ¬ state.cache.HoldsAt i (address / blockSize)) :
    Ends (passOn lower (.write address bytes)) state
      (fun _ next => Served size Sound lowerView (.write address bytes) state next)
      (fun fault next => Refused size Sound lowerView address fault state next) := by
  simp only [passOn, countForwarded, ends_bind]
  refine ask_ends transparent steady.below inBlock ?_ ?_
  · intro reply next access outcome asked bound _
    obtain ⟨now, written⟩ := asked.passed steady inBlock absent
    have passed : ∀ delivered journal, Served size Sound lowerView (.write address bytes) state
        { next with
          cache := next.cache.count fun s => { s with forwarded := s.forwarded + 1 }
          delivered
          journal } := by
      intro delivered journal
      have kept := Idle.kept (.count (fun s => { s with forwarded := s.forwarded + 1 }) journal) now
      exact ⟨⟨kept.steady.below, kept.steady.coherent⟩, kept.seen_eq.trans written, bound,
        fun reads => by cases reads⟩
    split
    · simp only [ends_bind, ends_deliver]
      exact (ends_spent_of_ok outcome).mpr (passed _ _)
    · simp only [ends_bind]
      exact (ends_spent_of_ok outcome).mpr (passed _ _)
  · intro reply next fault outcome asked beyond nothing kind
    simp only [nothing, ends_bind]
    refine (ends_spent_of_error outcome).mpr ?_
    exact ⟨asked.kept steady, beyond, kind⟩

/-- The bytes of a read are in the line into which its block has come. -/
theorem Kept.delivers {next : ServiceState σ S} {cache : Cache σ} {length : Nat}
    (journal : List Event)
    (kept : Kept size Sound lowerView state next)
    (held : next.cache.HoldsAt index (address / blockSize))
    (inBlock : (Request.read address length).InBlock) (same : next.cache.SameBlocks cache) :
    Served size Sound lowerView (.read address length) state
      { next with
        cache
        delivered := some ((cache.line index).data.slice (blockOffset address) length)
        journal } := by
  obtain ⟨-, inside⟩ := kept.steady.coherent.inside_of_holds held inBlock
  have coherent := same.coherent kept.steady.coherent
  have view := (same.view_eq kept.steady.coherent).trans kept.seen_eq
  have line := coherent.slice_data (same.holdsAt_iff.mpr held) inBlock
  rw [view] at line
  exact ⟨⟨kept.steady.below, coherent⟩, view, inside, fun _ => congrArg some line⟩

/-- The block of a request is brought in. A write goes to the storage below first, and comes back
with the block. -/
theorem allocate_ends (transparent : lower.Transparent size Sound lowerView)
    (steady : Steady size Sound lowerView state) (inBlock : request.InBlock)
    (absent : ∀ i, ¬ state.cache.HoldsAt i (request.address / blockSize)) :
    Ends (allocate lower request) state
      (fun _ next => Served size Sound lowerView request state next)
      (fun fault next => Refused size Sound lowerView request.address fault state next) := by
  have set_lt := steady.coherent.arranged.setOf_lt request.address
  simp only [allocate, countTime, countForwarded, ends_bind, ends_current]
  refine (makeRoom_ends transparent steady set_lt).mono
    (fun index room made => ?_) fun _ _ none => none.elim
  have place := made.place.trans made.setOf_eq.symm
  have absent' := made.absent absent
  cases request with
  | read address length =>
    simp only [ends_pure, ends_bind, ends_update, ends_current, ends_deliver, ends_note]
    refine (fill_ends transparent made.steady place made.vacant absent').mono
      (fun cycles next filled => ?_) fun _ _ refused => refused.after made.toKept
    exact (made.toKept.trans filled.1).delivers _ filled.2 inBlock
      ((SameBlocks.count ..).trans (.count ..))
  | write address bytes =>
    simp only [ends_bind]
    refine ask_ends transparent made.steady.below inBlock ?_ ?_
    · intro reply next access outcome asked bound _
      refine (ends_spent_of_ok outcome).mpr ?_
      obtain ⟨now, written⟩ := asked.passed made.steady inBlock absent'
      -- the block is read after the write, so it comes with the new bytes
      rw [made.seen_eq] at written
      rw [← asked.cache] at place absent'
      have vacant := made.vacant
      rw [← asked.cache] at vacant
      simp only [ends_pure, ends_update, ends_note]
      refine (fill_ends transparent now place vacant absent').mono (fun cycles last filled => ?_)
        fun fault last refused => ?_
      · have kept := filled.1
        have same := (SameBlocks.count last.cache fun s =>
          { s with time := s.time + state.cache.latency.bus }).trans
            (SameBlocks.count _ fun s => { s with forwarded := s.forwarded + 1 })
        exact ⟨⟨kept.steady.below, same.coherent kept.steady.coherent⟩,
          ((same.view_eq kept.steady.coherent).trans kept.seen_eq).trans written, bound,
          fun reads => by cases reads⟩
      · -- only the empty write can be served below and miss its block
        have empty : bytes = [] := by
          have beyond := refused.beyond
          simp only [Request.address, Request.length] at bound beyond
          exact List.eq_nil_of_length_eq_zero (by omega)
        refine ⟨⟨refused.steady, ?_, ?_⟩, refused.beyond, refused.kind⟩
        · rw [refused.seen_eq, written, empty, Contents.write_nil]
        · rw [refused.delivered, asked.delivered, made.delivered]
    · intro reply next fault outcome asked beyond nothing kind
      refine (ends_spent_of_error outcome).mpr ?_
      exact ⟨made.toKept.trans (asked.kept made.steady), beyond, kind⟩

theorem serveMiss_ends (transparent : lower.Transparent size Sound lowerView)
    (steady : Steady size Sound lowerView state) (inBlock : request.InBlock)
    (absent : ∀ i, ¬ state.cache.HoldsAt i (request.address / blockSize)) :
    Ends (serveMiss lower request) state
      (fun _ next => Served size Sound lowerView request state next)
      (fun fault next => Refused size Sound lowerView request.address fault state next) := by
  simp only [serveMiss, ends_bind, ends_current, ends_ite]
  split
  · next passes =>
    cases request with
    | read address length => cases passes
    | write address bytes => exact passOn_ends transparent steady inBlock absent
  · exact allocate_ends transparent steady inBlock absent

/-! ### The course of a request -/

/-- The lookup decides how a request is served, and what is seen does not depend on it. -/
theorem serveLookedUp_ends (transparent : lower.Transparent size Sound lowerView)
    (steady : Steady size Sound lowerView state) (inBlock : request.InBlock) :
    Ends (serveLookedUp lower request) state
      (fun _ next => Served size Sound lowerView request state next)
      (fun fault next => Refused size Sound lowerView request.address fault state next) := by
  simp only [serveLookedUp, ends_bind, ends_current]
  cases found : state.cache.lookup request.address with
  | some index =>
    have holds := steady.coherent.lookup_eq_some_iff.mp found
    exact (serveHit_ends transparent steady inBlock holds).mono (fun _ _ served => served)
      fun _ _ none => none.elim
  | none =>
    have absent := steady.coherent.arranged.lookup_eq_none_iff.mp found
    have counted :=
      Idle.kept (.count (fun s => { s with misses := s.misses + 1 }) state.journal) steady
    have same := SameBlocks.count state.cache fun s => { s with misses := s.misses + 1 }
    simp only [ends_bind, ends_update]
    exact (serveMiss_ends transparent counted.steady inBlock fun i held =>
      absent i (same.holdsAt_iff.mp held)).mono
        (fun _ _ => .after counted) fun _ _ => .after counted

theorem Idle.remember (cache : Cache σ) (memo : σ) (same : state.cache.SameBlocks cache)
    (journal : List Event) :
    Idle state { state with cache := { cache with memo }, journal } :=
  ⟨same.trans ⟨rfl, rfl, rfl, fun _ _ => ⟨rfl, rfl, rfl, rfl⟩⟩, rfl, rfl⟩

/-- A request inside a block is served as by a flat array. -/
theorem attend_ends (transparent : lower.Transparent size Sound lowerView)
    (steady : Steady size Sound lowerView state) (inBlock : request.InBlock) :
    Ends (attend lower request) state
      (fun _ next => Served size Sound lowerView request state next)
      (fun fault next => Refused size Sound lowerView request.address fault state next) := by
  simp only [attend, consultBypass, ends_bind, ends_update, ends_current, ends_note, ends_pure]
  generalize counted_eq : state.cache.count _ = counted
  have same : state.cache.SameBlocks counted := counted_eq ▸ SameBlocks.count ..
  have stays : (counted.policy.bypass request.address request.kind counted.memo).1 = false := by
    rw [same.policy]
    exact steady.coherent.prudent.never_bypasses ..
  rw [stays]
  simp only [Bool.false_eq_true, if_false, announceSet, consultPrefetch, ends_bind, ends_update,
    ends_current, ends_note, ends_pure]
  generalize announced_eq : ServiceState.mk _ _ _ _ = announced
  have kept : Kept size Sound lowerView state announced := by
    rw [← announced_eq]
    exact (Idle.remember counted _ same _).kept steady
  refine (serveLookedUp_ends transparent kept.steady inBlock).mono (fun access next served => ?_)
    fun _ _ refused => refused.after kept
  have whole := served.after kept
  have asked := (Idle.remember next.cache (next.cache.policy.prefetch request.address access.hit
    next.cache.memo).2 (.refl _)
      (next.journal ++ [⟨0, .prefetchAsked request.address access.hit⟩])).kept
    whole.steady
  have prefetched := whole.trans_kept asked
  split
  · next wanted prefetches =>
    -- and prefetches only what is inside, so that its failure is never the request's
    have inside := whole.steady.coherent.prudent.prefetches_inside _ _ _ _ prefetches
    simp only [ends_bind]
    exact (prefetchBlock_ends transparent asked.steady inside).mono
      (fun _ _ kept' => prefetched.trans_kept kept') fun _ _ none => none.elim
  · exact prefetched

theorem refusal?_eq_none {cache : Cache σ} (arranged : cache.Arranged) (inBlock : request.InBlock) :
    cache.refusal? request = none := by
  rw [refusal?, arranged.isConfigured, if_neg (by simp), if_neg (Nat.not_lt.mpr inBlock)]

theorem refusal?_of_not_inBlock {cache : Cache σ} (arranged : cache.Arranged)
    (leaves : ¬ request.InBlock) :
    cache.refusal? request = some (.crossesBlock request.length) := by
  rw [refusal?, arranged.isConfigured, if_neg (by simp), if_pos (Nat.lt_of_not_le leaves)]

/-- A request that leaves its block is refused before anything changes. -/
theorem serve_of_not_inBlock {cache : Cache σ} (arranged : cache.Arranged)
    (leaves : ¬ request.InBlock) (below : S) : serve lower request (cache, below) =
      ({ outcome := .error (.access request.address (.crossesBlock request.length)) },
        cache, below) := by
  simp only [serve, refusal?_of_not_inBlock arranged leaves]

/-- What is known of the course of a request is known of the reply and of what is left behind. -/
theorem serve_ends {cache : Cache σ} {below : S} {motive : Reply → Cache σ × S → Prop}
    (accepted : cache.refusal? request = none)
    (ends : Ends (attend lower request) { cache, below }
      (fun access next =>
        motive ⟨.ok access, next.delivered, next.journal⟩ (next.cache, next.below))
      fun fault next =>
        motive ⟨.error fault, next.delivered, next.journal⟩ (next.cache, next.below)) :
    motive (serve lower request (cache, below)).1 (serve lower request (cache, below)).2 := by
  simp only [serve, accepted]
  cases run : (attend lower request).run { cache, below } with
  | ok access next => exact ends.of_ok run
  | error fault next => exact ends.of_error run

/-- A coherent cache over a transparent storage is transparent. -/
theorem transparent (transparent : lower.Transparent size Sound lowerView) :
    Storage.Transparent (serve lower) size
      (fun (pair : Cache σ × S) => Sound pair.2 ∧ pair.1.Coherent size (lowerView pair.2))
      fun pair => pair.1.view (lowerView pair.2) := by
  rintro request ⟨cache, below⟩ ⟨sound, coherent⟩ inBlock
  have steady : Steady size Sound lowerView { cache, below } := ⟨sound, coherent⟩
  refine serve_ends (motive := fun reply after =>
      (Sound after.2 ∧ after.1.Coherent size (lowerView after.2)) ∧
        Answers size (cache.view (lowerView below)) (after.1.view (lowerView after.2)) request
          reply)
    (refusal?_eq_none coherent.arranged inBlock)
    ((attend_ends transparent steady inBlock).mono (fun access next served => ?_)
      fun fault next refused => ?_)
  · exact ⟨⟨served.steady.below, served.steady.coherent⟩, served.seen_eq, served.inside,
      served.delivers⟩
  · exact ⟨⟨refused.steady.below, refused.steady.coherent⟩, refused.seen_eq, refused.beyond,
      refused.delivered, refused.kind⟩

end Cache

end FiveStage
