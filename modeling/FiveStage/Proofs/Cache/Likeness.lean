import FiveStage.Cache.Chain
import FiveStage.Proofs.Cache.Placement
import FiveStage.Proofs.Parallel
import Mathlib.Data.List.Forall2

/-!
# What steers a storage

Neither the bytes that pass through a storage nor its latencies decide what it does. Storages that
differ in these alone serve requests alike: they hit and miss together, lose the same blocks and
count the same, and their bytes and times stay as much alike as they were.

## Main definitions

* `Likeness`: how far bytes and times may differ
* `Request.Alike`, `Reply.Alike`, `Cache.Alike`, `Memory.Alike`, `Chain.Alike`: what is alike so far
* `Storage.Alike`: storages that give like answers to like requests

## Main results

* `Cache.serve_alike`: caches over like storages are like storages
* `Chain.serve_alike`: like chains serve like requests alike
-/

namespace FiveStage

/-- How far the bytes and the times of two storages may differ. -/
structure Likeness where
  bytes : UInt8 → UInt8 → Prop
  time : Nat → Nat → Prop
  bytes_refl : ∀ b, bytes b b
  time_refl : ∀ t, time t t
  time_add : ∀ {s s' t t'}, time s s' → time t t' → time (s + t) (s' + t')

/-- Byte strings of one length whose bytes are alike. -/
def Likeness.strings (like : Likeness) : Bytes → Bytes → Prop := List.Forall₂ like.bytes

variable {like : Likeness}

namespace Likeness

theorem strings_refl (bytes : Bytes) : like.strings bytes bytes :=
  List.forall₂_same.mpr fun b _ => like.bytes_refl b

variable {bytes bytes' piece piece' : Bytes}

theorem strings_slice (same : like.strings bytes bytes') (offset length : Nat) :
    like.strings (bytes.slice offset length) (bytes'.slice offset length) :=
  List.forall₂_take length (List.forall₂_drop offset same)

theorem strings_overwrite (same : like.strings bytes bytes') (same' : like.strings piece piece')
    (offset : Nat) :
    like.strings (bytes.overwrite offset piece) (bytes'.overwrite offset piece') := by
  rw [Bytes.overwrite, Bytes.overwrite, same'.length_eq]
  refine List.rel_append (List.rel_append ?_ same') (List.forall₂_drop _ same)
  exact List.forall₂_take offset same

/-- Behind the end of like strings there is nothing to compare. -/
theorem strings_getD (same : like.strings bytes bytes') (i : Nat) :
    like.bytes (bytes.getD i 0) (bytes'.getD i 0) := by
  induction same generalizing i with
  | nil => exact like.bytes_refl 0
  | cons head _ ih =>
    cases i with
    | zero => exact head
    | succ i => exact ih i

end Likeness

/-! ### Requests and replies -/

/-- The same request, but for the bytes that it brings. -/
inductive Request.Alike (like : Likeness) : Request → Request → Prop
  | read (address length : Nat) : Alike like (.read address length) (.read address length)
  | write (address : Nat) {bytes bytes' : Bytes} (same : like.strings bytes bytes') :
    Alike like (.write address bytes) (.write address bytes')

/-- The same access, but for its time. -/
structure Access.Alike (like : Likeness) (access twin : Access) : Prop where
  hit : access.hit = twin.hit
  total : like.time access.total twin.total

/-- Like accesses or the same failure, and like bytes. The journals are not compared. -/
structure Reply.Alike (like : Likeness) (reply twin : Reply) : Prop where
  outcome : SameEnd (Access.Alike like) reply.outcome twin.outcome
  delivered : Option.Rel like.strings reply.delivered twin.delivered

/-- The block that a cache takes from a reply. -/
theorem Reply.Alike.block {reply twin : Reply} (same : reply.Alike like twin) :
    like.strings (reply.delivered.getD (Bytes.zeros blockSize))
      (twin.delivered.getD (Bytes.zeros blockSize)) := by
  have delivered := same.delivered
  generalize reply.delivered = found, twin.delivered = found' at delivered ⊢
  cases delivered with
  | some bytes => exact bytes
  | none => exact Likeness.strings_refl _

/-- Storages that give like answers to like requests, where their states are related. -/
def Storage.Alike {S T : Type} (like : Likeness) (states : S → T → Prop) (storage : Storage S)
    (twin : Storage T) : Prop :=
  ∀ request request' s t, Request.Alike like request request' → states s t →
    Reply.Alike like (storage request s).1 (twin request' t).1 ∧
      states (storage request s).2 (twin request' t).2

namespace Request.Alike

variable {request twin : Request}

theorem refl (request : Request) : Alike like request request := by
  cases request with
  | read address length => exact .read address length
  | write address bytes => exact .write address (Likeness.strings_refl bytes)

theorem address_eq (same : Alike like request twin) : request.address = twin.address := by
  cases same <;> rfl

theorem kind_eq (same : Alike like request twin) : request.kind = twin.kind := by
  cases same <;> rfl

theorem length_eq (same : Alike like request twin) : request.length = twin.length := by
  cases same with
  | read => rfl
  | write address same => exact same.length_eq

end Request.Alike

/-- The counters without the time. -/
def Statistics.untimed (statistics : Statistics) : Statistics := { statistics with time := 0 }

/-- The same counts, and like times. -/
structure Statistics.Alike (like : Likeness) (statistics twin : Statistics) : Prop where
  counts : statistics.untimed = twin.untimed
  time : like.time statistics.time twin.time

/-- Counting something other than time. -/
theorem Statistics.Alike.count {statistics twin : Statistics}
    (same : statistics.Alike like twin) {change : Statistics → Statistics}
    (blind : ∀ s, (change s).untimed = change s.untimed) (keeps : ∀ s, (change s).time = s.time) :
    (change statistics).Alike like (change twin) where
  counts := by rw [blind, blind, same.counts]
  time := by
    rw [keeps, keeps]
    exact same.time

/-- Like latencies. -/
structure Latency.Alike (like : Likeness) (latency twin : Latency) : Prop where
  hit : like.time latency.hit twin.hit
  bus : like.time latency.bus twin.bus

theorem Latency.Alike.hitTime {latency twin : Latency} (same : latency.Alike like twin) :
    like.time latency.hitTime twin.hitTime := like.time_add same.hit same.bus

/-! ### Caches -/

/-- The same line, but for its bytes. -/
structure Line.Alike (like : Likeness) (line twin : Line) : Prop where
  entry : line.entry = twin.entry
  dirty : line.dirty = twin.dirty
  data : like.strings line.data twin.data

theorem Line.Alike.refl (line : Line) : line.Alike like line :=
  ⟨rfl, rfl, Likeness.strings_refl _⟩

namespace Cache

variable {σ S T : Type} {cache twin : Cache σ} {index : Nat}

/-- The same cache, but for bytes and times. -/
structure Alike (like : Likeness) (cache twin : Cache σ) : Prop where
  geometry : cache.geometry = twin.geometry
  policy : cache.policy = twin.policy
  memo : cache.memo = twin.memo
  size : cache.lines.size = twin.lines.size
  line : ∀ i, (cache.line i).Alike like (twin.line i)
  latency : cache.latency.Alike like twin.latency
  statistics : cache.statistics.Alike like twin.statistics

namespace Alike

/-- Like caches have the same entries. -/
theorem agrees (same : cache.Alike like twin) : twin.Agrees cache where
  geometry := same.geometry
  policy := same.policy
  size := same.size
  misses := congrArg (·.misses) same.statistics.counts
  entry i := (same.line i).entry

theorem refusal?_eq (same : cache.Alike like twin) {request request' : Request}
    (requests : Request.Alike like request request') :
    cache.refusal? request = twin.refusal? request' := by
  have configured : cache.isConfigured = twin.isConfigured := by
    rw [Bool.eq_iff_iff, isConfigured_iff, isConfigured_iff, same.size]
  rw [refusal?, refusal?, configured, requests.address_eq, requests.length_eq]

/-- The block in a line is written back to the same place. -/
theorem writeBack (same : cache.Alike like twin) (i set : Nat) : Request.Alike like
    (.write (cache.addressOf (cache.line i).tag set) (cache.line i).data)
    (.write (twin.addressOf (twin.line i).tag set) (twin.line i).data) := by
  rw [addressOf, addressOf, same.agrees.tag, same.agrees.sets]
  exact .write _ (same.line i).data

theorem count (same : cache.Alike like twin) {change : Statistics → Statistics}
    (blind : ∀ s, (change s).untimed = change s.untimed) (keeps : ∀ s, (change s).time = s.time) :
    (cache.count change).Alike like (twin.count change) :=
  { same with statistics := same.statistics.count blind keeps }

theorem countTime (same : cache.Alike like twin) {time time' : Nat} (times : like.time time time') :
    (cache.count fun s => { s with time := s.time + time }).Alike like
      (twin.count fun s => { s with time := s.time + time' }) :=
  { same with
    statistics := ⟨same.statistics.counts, like.time_add same.statistics.time times⟩ }

theorem remember (same : cache.Alike like twin) (memo : σ) :
    Alike like { cache with memo } { twin with memo } :=
  { same with memo := rfl }

/-- Caches of one size have like lines where there are none. -/
theorem line_of_inside (size : cache.lines.size = twin.lines.size)
    (inside : ∀ i < cache.lines.size, (cache.line i).Alike like (twin.line i)) (i : Nat) :
    (cache.line i).Alike like (twin.line i) := by
  by_cases there : i < cache.lines.size
  · exact inside i there
  · rw [line_eq_empty there, line_eq_empty (size ▸ there)]
    exact .refl _

theorem modifyLine (same : cache.Alike like twin) {change change' : Line → Line}
    (keeps : ∀ l l', l.Alike like l' → (change l).Alike like (change' l')) :
    (cache.modifyLine index change).Alike like (twin.modifyLine index change') :=
  have size : (cache.modifyLine index change).lines.size =
      (twin.modifyLine index change').lines.size :=
    by simpa using same.size
  { same with
    size
    line := line_of_inside size fun i inside => by
      have inside : i < cache.lines.size := by simpa using inside
      rw [line_modifyLine inside, line_modifyLine (same.size ▸ inside)]
      split
      · exact keeps _ _ (same.line i)
      · exact same.line i }

theorem touch (same : cache.Alike like twin) : (cache.touch index).Alike like (twin.touch index) :=
  have size : (cache.touch index).lines.size = (twin.touch index).lines.size := by
    simpa using same.size
  { same with
    size
    line := line_of_inside size fun i inside => by
      have inside : i < cache.lines.size := by simpa using inside
      have before := same.line i
      have age : (cache.line i).age = (twin.line i).age := same.agrees.age i
      rw [line_touch inside, line_touch (same.size ▸ inside)]
      split
      · exact ⟨congrArg (fun e => (e.1, e.2.1, 0)) before.entry, before.dirty, before.data⟩
      · exact ⟨congrArg (fun e => (e.1, e.2.1, min (e.2.2 + 1) maxAge)) before.entry,
          before.dirty, before.data⟩ }

end Alike

end Cache

/-- Like caches over related storages, with like bytes delivered so far. -/
structure ServiceState.Alike {σ S T : Type} (like : Likeness) (below : S → T → Prop)
    (state : ServiceState σ S) (twin : ServiceState σ T) : Prop where
  cache : state.cache.Alike like twin.cache
  below : below state.below twin.below
  delivered : Option.Rel like.strings state.delivered twin.delivered

namespace Cache

variable {σ S T α β : Type} {below : S → T → Prop} {lower : Storage S} {lower' : Storage T}
  {request request' : Request} {index address : Nat}

/-! ### Single steps -/

/-- Actions that are carried out side by side by like caches. -/
abbrev Beside (like : Likeness) (below : S → T → Prop) (results : α → β → Prop)
    (action : Service σ S α) (twin : Service σ T β) : Prop :=
  Parallel results (ServiceState.Alike like below) action twin

theorem current_beside :
    Beside like below (Cache.Alike like) (current : Service σ S (Cache σ)) current :=
  fun _ _ same => ⟨same.cache, same⟩

theorem update_beside {change change' : Cache σ → Cache σ}
    (keeps : ∀ cache twin : Cache σ, cache.Alike like twin →
      (change cache).Alike like (change' twin)) :
    Beside like below Eq (update change : Service σ S Unit) (update change') :=
  fun _ _ same => ⟨rfl, { same with cache := keeps _ _ same.cache }⟩

theorem count_beside {change : Statistics → Statistics}
    (blind : ∀ s, (change s).untimed = change s.untimed) (keeps : ∀ s, (change s).time = s.time) :
    Beside like below Eq (update (·.count change) : Service σ S Unit) (update (·.count change)) :=
  update_beside fun _ _ same => same.count blind keeps

theorem countForwarded_beside :
    Beside like below Eq (countForwarded : Service σ S Unit) countForwarded :=
  count_beside (fun _ => rfl) fun _ => rfl

theorem countTime_beside {time time' : Nat} (times : like.time time time') :
    Beside like below Eq (countTime time : Service σ S Unit) (countTime time') :=
  update_beside fun _ _ same => same.countTime times

/-- What happens is noted in the journal only. -/
theorem note_beside (happening happening' : Happening) :
    Beside like below Eq (note happening : Service σ S Unit) (note happening') :=
  fun _ _ same => ⟨rfl, { same with }⟩

theorem deliver_beside {bytes bytes' : Bytes} (same : like.strings bytes bytes') :
    Beside like below Eq (deliver bytes : Service σ S Unit) (deliver bytes') :=
  fun _ _ states => ⟨rfl, { states with delivered := .some same }⟩

theorem ask_beside (lowers : lower.Alike like below lower')
    (requests : Request.Alike like request request') :
    Beside like below (Reply.Alike like) (ask lower request : Service σ S Reply)
      (ask lower' request') := by
  intro state twin same
  obtain ⟨replies, below'⟩ := lowers request request' _ _ requests same.below
  exact ⟨replies, { same with below := below' }⟩

theorem spent_beside {reply reply' : Reply} (same : reply.Alike like reply') :
    Beside like below like.time (spent reply : Service σ S Nat) (spent reply') := by
  have outcomes := same.outcome
  simp only [spent]
  generalize reply.outcome = outcome, reply'.outcome = outcome' at outcomes ⊢
  cases outcomes with
  | ok accesses => exact parallel_pure accesses.total
  | error fault => exact parallel_throw fault

/-! ### Room and blocks -/

theorem makeRoom_beside (lowers : lower.Alike like below lower') (set : Nat) :
    Beside like below Eq (makeRoom lower set : Service σ S Nat) (makeRoom lower' set) := by
  refine current_beside.bind fun cache twin same => ?_
  have agrees := same.agrees
  -- the entries are the same, so the same line is vacant or has to give way
  rw [← agrees.vacant?_eq, ← agrees.victim_eq]
  cases cache.vacant? set with
  | some index => exact parallel_pure rfl
  | none =>
    refine Parallel.bind (update_beside fun _ _ same => ?_) fun _ _ _ => ?_
    · refine same.modifyLine fun l l' lines => ⟨?_, rfl, lines.data⟩
      exact congrArg (fun e => (false, e.2)) lines.entry
    · have counts : Beside like below Eq (do
          update (·.count fun s => { s with replacements := s.replacements + 1 })
          return cache.victim set : Service σ S Nat) (do
          update (·.count fun s => { s with replacements := s.replacements + 1 })
          return cache.victim set) :=
        .bind (count_beside (fun _ => rfl) fun _ => rfl) fun _ _ _ => parallel_pure rfl
      refine .ite (by rw [(same.line _).dirty]) ?_ counts
      refine (ask_beside lowers (same.writeBack _ set)).bind fun _ _ replies => ?_
      exact (spent_beside replies).discard.bind fun _ _ _ =>
        (note_beside _ _).bind fun _ _ _ => counts

theorem fill_beside (lowers : lower.Alike like below lower') (index address : Nat) :
    Beside like below like.time (fill lower index address : Service σ S Nat)
      (fill lower' index address) := by
  refine (ask_beside lowers (.read _ _)).bind fun reply reply' replies => ?_
  refine (spent_beside replies).bind fun cycles cycles' times => ?_
  refine Parallel.bind (update_beside fun cache twin same => ?_) fun _ _ _ => parallel_pure times
  refine Alike.touch ?_
  refine same.modifyLine fun l l' lines => ⟨?_, rfl, replies.block⟩
  rw [← same.agrees.tagOf_eq]
  exact congrArg (fun e => (true, cache.tagOf address, e.2.2)) lines.entry

theorem prefetchBlock_beside (lowers : lower.Alike like below lower') (address : Nat) :
    Beside like below Eq (prefetchBlock lower address : Service σ S Unit)
      (prefetchBlock lower' address) := by
  refine current_beside.bind fun cache twin same => ?_
  have held : cache.contains address = twin.contains address :=
    congrArg Option.isSome same.agrees.lookup_eq
  refine .ite (by rw [held]) (parallel_pure rfl) ?_
  rw [← same.agrees.setOf_eq]
  refine (makeRoom_beside lowers _).bind fun index _ same => same ▸ ?_
  exact (fill_beside lowers index address).discard.bind fun _ _ _ =>
    count_beside (fun _ => rfl) fun _ => rfl

/-! ### Hits and misses -/

theorem serveHit_beside (lowers : lower.Alike like below lower') (index : Nat)
    (requests : Request.Alike like request request') :
    Beside like below (Access.Alike like) (serveHit lower index request : Service σ S Access)
      (serveHit lower' index request') := by
  refine current_beside.bind fun cache twin same => ?_
  have time := same.latency.hitTime
  refine (countTime_beside time).bind fun _ _ _ => ?_
  refine Parallel.bind (update_beside fun _ _ same => same.touch) fun _ _ _ => ?_
  cases requests with
  | read address length =>
    refine (deliver_beside ?_).bind fun _ _ _ => parallel_pure ⟨rfl, time⟩
    exact Likeness.strings_slice (same.line index).data _ _
  | write address bytes =>
    rw [same.geometry]
    refine Parallel.bind (update_beside fun _ _ same => ?_) fun _ _ _ => ?_
    · refine same.modifyLine fun l l' lines => ⟨lines.entry, rfl, ?_⟩
      exact Likeness.strings_overwrite lines.data bytes _
    · refine .ite Iff.rfl ?_ (parallel_pure ⟨rfl, time⟩)
      refine (ask_beside lowers (.write address bytes)).bind fun _ _ replies => ?_
      refine (spent_beside replies).bind fun _ _ times => ?_
      exact countForwarded_beside.bind fun _ _ _ => parallel_pure ⟨rfl, like.time_add time times⟩

theorem passOn_beside (lowers : lower.Alike like below lower')
    (requests : Request.Alike like request request') :
    Beside like below (Access.Alike like) (passOn lower request : Service σ S Access)
      (passOn lower' request') := by
  refine (ask_beside lowers requests).bind fun reply reply' replies => ?_
  have rest : Beside like below (Access.Alike like) (do
      let cycles ← spent reply
      countForwarded
      return ⟨false, cycles⟩ : Service σ S Access) (do
      let cycles ← spent reply'
      countForwarded
      return ⟨false, cycles⟩) :=
    (spent_beside replies).bind fun _ _ times => countForwarded_beside.bind fun _ _ _ =>
      parallel_pure ⟨rfl, times⟩
  have delivered := replies.delivered
  generalize reply.delivered = found, reply'.delivered = found' at delivered ⊢
  cases delivered with
  | some bytes => exact (deliver_beside bytes).bind fun _ _ _ => rest
  | none => exact rest

theorem allocate_beside (lowers : lower.Alike like below lower')
    (requests : Request.Alike like request request') :
    Beside like below (Access.Alike like) (allocate lower request : Service σ S Access)
      (allocate lower' request') := by
  refine current_beside.bind fun cache twin same => ?_
  rw [← requests.address_eq, ← same.agrees.setOf_eq]
  refine (makeRoom_beside lowers _).bind fun index _ indices => indices ▸ ?_
  have bus := same.latency.bus
  cases requests with
  | read address length =>
    refine Parallel.bind (parallel_pure (like.time_refl 0)) fun written written' times => ?_
    refine (fill_beside lowers _ _).bind fun filled filled' times' => ?_
    refine (countTime_beside bus).bind fun _ _ _ => countForwarded_beside.bind fun _ _ _ => ?_
    refine current_beside.bind fun full full' same' => ?_
    refine (deliver_beside (Likeness.strings_slice (same'.line index).data _ _)).bind
      fun _ _ _ => ?_
    exact (note_beside _ _).bind fun _ _ _ =>
      parallel_pure ⟨rfl, like.time_add (like.time_add times times') bus⟩
  | write address bytes =>
    refine (ask_beside lowers (.write address bytes)).bind fun _ _ replies => ?_
    refine (spent_beside replies).bind fun written written' times => ?_
    refine (fill_beside lowers _ _).bind fun filled filled' times' => ?_
    refine (countTime_beside bus).bind fun _ _ _ => countForwarded_beside.bind fun _ _ _ => ?_
    exact (note_beside _ _).bind fun _ _ _ =>
      parallel_pure ⟨rfl, like.time_add (like.time_add times times') bus⟩

theorem serveMiss_beside (lowers : lower.Alike like below lower')
    (requests : Request.Alike like request request') :
    Beside like below (Access.Alike like) (serveMiss lower request : Service σ S Access)
      (serveMiss lower' request') := by
  refine current_beside.bind fun cache twin same => ?_
  refine .ite ?_ (passOn_beside lowers requests) (allocate_beside lowers requests)
  rw [requests.kind_eq, same.geometry]

/-- Where a block is found does not depend on bytes and times. -/
theorem serveLookedUp_beside (lowers : lower.Alike like below lower')
    (requests : Request.Alike like request request') :
    Beside like below (Access.Alike like) (serveLookedUp lower request : Service σ S Access)
      (serveLookedUp lower' request') := by
  refine current_beside.bind fun cache twin same => ?_
  rw [← requests.address_eq, ← same.agrees.lookup_eq]
  cases cache.lookup request.address with
  | some index => exact serveHit_beside lowers index requests
  | none =>
    exact .bind (count_beside (fun _ => rfl) fun _ => rfl) fun _ _ _ =>
      serveMiss_beside lowers requests

/-! ### The course of a request -/

/-- Nor do the answers of the policy. -/
theorem consultBypass_beside (requests : Request.Alike like request request') :
    Beside like below Eq (consultBypass request : Service σ S Bool) (consultBypass request') := by
  refine current_beside.bind fun cache twin same => ?_
  rw [← requests.address_eq, ← requests.kind_eq, ← same.policy, ← same.memo]
  exact .bind (update_beside fun _ _ same => same.remember _) fun _ _ _ =>
    (note_beside _ _).bind fun _ _ _ => parallel_pure rfl

theorem announceSet_beside (address : Nat) :
    Beside like below Eq (announceSet address : Service σ S Unit) (announceSet address) := by
  refine current_beside.bind fun cache twin same => ?_
  rw [← same.policy, ← same.memo, ← same.agrees.setOf_eq]
  exact .bind (update_beside fun _ _ same => same.remember _) fun _ _ _ => note_beside _ _

theorem consultPrefetch_beside (address : Nat) (hit : Bool) :
    Beside like below Eq (consultPrefetch address hit : Service σ S (Option Nat))
      (consultPrefetch address hit) := by
  refine current_beside.bind fun cache twin same => ?_
  rw [← same.policy, ← same.memo]
  exact .bind (update_beside fun _ _ same => same.remember _) fun _ _ _ =>
    (note_beside _ _).bind fun _ _ _ => parallel_pure rfl

theorem attend_beside (lowers : lower.Alike like below lower')
    (requests : Request.Alike like request request') :
    Beside like below (Access.Alike like) (attend lower request : Service σ S Access)
      (attend lower' request') := by
  refine .bind (count_beside (fun _ => rfl) fun _ => rfl) fun _ _ _ => ?_
  refine (consultBypass_beside requests).bind fun bypassed _ same => same ▸ ?_
  refine .ite Iff.rfl (passOn_beside lowers requests) ?_
  rw [← requests.address_eq]
  refine (announceSet_beside _).bind fun _ _ _ => ?_
  refine (serveLookedUp_beside lowers requests).bind fun access access' accesses => ?_
  rw [← accesses.hit]
  refine (consultPrefetch_beside _ _).bind fun wanted? _ same => same ▸ ?_
  cases wanted? with
  | none => exact parallel_pure accesses
  | some wanted =>
    exact (prefetchBlock_beside lowers wanted).bind fun _ _ _ => parallel_pure accesses

/-- Like caches over like storages are like storages. -/
theorem serve_alike (lowers : lower.Alike like below lower') :
    Storage.Alike like (fun (state : Cache σ × S) (twin : Cache σ × T) =>
      state.1.Alike like twin.1 ∧ below state.2 twin.2) (serve lower) (serve lower') := by
  rintro request request' ⟨cache, state⟩ ⟨twin, state'⟩ requests ⟨same, related⟩
  simp only [serve, ← same.refusal?_eq requests]
  cases cache.refusal? request with
  | some kind =>
    rw [← requests.address_eq]
    exact ⟨⟨.error _, .none⟩, same, related⟩
  | none =>
    have ends := attend_beside lowers requests { cache, below := state }
      { cache := twin, below := state' } ⟨same, related, .none⟩
    simp only
    generalize (attend lower request).run _ = result, (attend lower' request').run _ = result'
      at ends ⊢
    cases result <;> cases result'
    · exact ⟨⟨.ok ends.1, ends.2.delivered⟩, ends.2.cache, ends.2.below⟩
    · exact ends.elim
    · exact ends.elim
    · obtain ⟨rfl, states⟩ := ends
      exact ⟨⟨.error _, states.delivered⟩, states.cache, states.below⟩

end Cache

/-! ### Memory -/

namespace Memory

variable {memory twin : Memory}

/-- The same memory, but for bytes and times. -/
structure Alike (like : Likeness) (memory twin : Memory) : Prop where
  size : memory.size = twin.size
  bytes : ∀ address, like.bytes (memory.byteAt address) (twin.byteAt address)
  latency : memory.latency.Alike like twin.latency
  statistics : memory.statistics.Alike like twin.statistics

theorem Alike.bytesAt (same : memory.Alike like twin) (address length : Nat) :
    like.strings (memory.bytesAt address length) (twin.bytesAt address length) := by
  induction length generalizing address with
  | zero => exact .nil
  | succ length ih => exact .cons (same.bytes address) (ih (address + 1))

theorem Alike.counted (same : memory.Alike like twin) : memory.counted.Alike like twin.counted where
  size := same.size
  bytes := same.bytes
  latency := same.latency
  statistics := by
    refine ⟨?_, like.time_add same.statistics.time same.latency.hitTime⟩
    exact congrArg (fun s : Statistics => { s with accesses := s.accesses + 1 })
      same.statistics.counts

/-- Like bytes are written to the same place. -/
theorem Alike.store (same : memory.Alike like twin) (address : Nat) {piece piece' : Bytes}
    (pieces : like.strings piece piece') :
    Alike like { memory with bytes := store memory.bytes address piece }
      { twin with bytes := Memory.store twin.bytes address piece' } :=
  { same with
    bytes := fun a => by
      simp only [byteAt, getD_store, pieces.length_eq]
      split
      · exact Likeness.strings_getD pieces _
      · exact same.bytes a }

/-- Bytes are put into like memories alike. -/
theorem Alike.load (same : memory.Alike like twin) (address : Nat) (bytes : Bytes) :
    SameEnd (Memory.Alike like) (memory.load address bytes) (twin.load address bytes) := by
  have holds : memory.holds address bytes.length = twin.holds address bytes.length := by
    rw [Memory.holds, Memory.holds, same.size]
  rw [Memory.load, Memory.load, holds]
  split
  · exact .ok (same.store address (Likeness.strings_refl bytes))
  · exact .error _

theorem serve_alike : Storage.Alike like (Memory.Alike like) serve serve := by
  intro request request' memory twin requests same
  have holds : memory.holds request.address request.length =
      twin.holds request'.address request'.length := by
    rw [holds, holds, requests.address_eq, requests.length_eq, same.size]
  simp only [serve, ← holds]
  split
  · have accesses : SameEnd (Access.Alike like) (.ok ⟨true, memory.latency.hitTime⟩)
        (.ok ⟨true, twin.latency.hitTime⟩ : Except MemoryFault Access) :=
      .ok ⟨rfl, same.latency.hitTime⟩
    cases requests with
    | read address length => exact ⟨⟨accesses, .some (same.bytesAt _ _)⟩, same.counted⟩
    | write address pieces => exact ⟨⟨accesses, .none⟩, same.counted.store address pieces⟩
  · rw [← requests.address_eq]
    exact ⟨⟨.error _, .none⟩, same⟩

end Memory

/-! ### Chains -/

namespace Chain

variable {σ : Type} {n : Nat}

/-- Like caches at each level, over like memories. -/
def Alike (like : Likeness) : {n : Nat} → Chain σ n → Chain σ n → Prop
  | 0, .ground memory, .ground twin => memory.Alike like twin
  | _ + 1, .level cache below, .level twin below' => cache.Alike like twin ∧ below.Alike like below'

/-- Storages at the same depth of like chains have counted alike. -/
theorem Alike.statisticsAt {chain twin : Chain σ n} (same : chain.Alike like twin) (depth : Nat) :
    (chain.statisticsAt depth).Alike like (twin.statisticsAt depth) := by
  induction n generalizing depth with
  | zero =>
    cases chain; cases twin
    exact same.statistics
  | succ n ih =>
    cases chain; cases twin
    cases depth with
    | zero => exact same.1.statistics
    | succ depth => exact ih same.2 depth

theorem Alike.memory {chain twin : Chain σ n} (same : chain.Alike like twin) :
    chain.memory.Alike like twin.memory := by
  induction n with
  | zero =>
    cases chain; cases twin
    exact same
  | succ n ih =>
    cases chain; cases twin
    exact ih same.2

/-- Like memories are put below the caches. -/
theorem Alike.withMemory {chain twin : Chain σ n} (same : chain.Alike like twin)
    {memory memory' : Memory} (memories : memory.Alike like memory') :
    (chain.modifyMemory fun _ => memory).Alike like (twin.modifyMemory fun _ => memory') := by
  induction n with
  | zero =>
    cases chain; cases twin
    exact memories
  | succ n ih =>
    cases chain; cases twin
    exact ⟨same.1, ih same.2⟩

/-- Like chains serve like requests alike. -/
theorem serve_alike (n : Nat) :
    Storage.Alike like (Chain.Alike like (σ := σ) (n := n)) serve serve := by
  induction n with
  | zero =>
    rintro request request' ⟨memory⟩ ⟨twin⟩ requests same
    exact Memory.serve_alike request request' memory twin requests same
  | succ n ih =>
    intro request request' chain twin requests same
    cases chain with
    | level cache below =>
      cases twin with
      | level twin below' =>
        exact Cache.serve_alike ih request request' (cache, below) (twin, below') requests same

end Chain

/-- Related states stay related under like requests. -/
theorem Storage.Alike.after {S T : Type} {states : S → T → Prop} {storage : Storage S}
    {twin : Storage T} (alike : storage.Alike like states twin) {requests requests' : List Request}
    (same : List.Forall₂ (Request.Alike like) requests requests') {s : S} {t : T}
    (related : states s t) : states (storage.after requests s) (twin.after requests' t) := by
  induction same generalizing s t with
  | nil => exact related
  | cons here _ ih => exact ih (alike _ _ s t here related).2

end FiveStage
