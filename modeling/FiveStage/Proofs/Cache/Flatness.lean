import FiveStage.Cache.Chain
import FiveStage.Proofs.Cache.Transparency

/-!
# Storage chains are flat

A chain of caches answers every sequence of requests as one flat byte array would. No level contains
what the levels below it contain, so a block may be out of date anywhere but in the highest cache
that holds it; what is seen at the top is therefore defined level by level, and each level only has
to be coherent over what the next one shows.

## Main definitions

* `Chain.view`, `Chain.Coherent`: the flat array seen at the top, and the chains that show one
* `Storage.exchange`: a sequence of requests with the replies to them
* `Faithful`: a request served as by a flat array, or not at all
* `ReadsFrom`: an exchange in which all reads agree with a flat array

## Main results

* `Chain.transparent`: coherent chains serve requests inside a block as a flat array does
* `Chain.exchange_readsFrom`: reads give what the successful writes so far have left
* `Chain.serve_ok`: no request inside a block of the memory fails
-/

namespace FiveStage

/-- The requests with the replies to them, one after the other. -/
def Storage.exchange {S : Type} (storage : Storage S) : List Request → S → List (Request × Reply)
  | [], _ => []
  | request :: rest, state =>
    (request, (storage request state).1) :: storage.exchange rest (storage request state).2

/-- The flat array after a request: a successful write is applied. -/
def Request.applyTo (flat : Bytes) (reply : Reply) : Request → Bytes
  | .read .. => flat
  | .write address bytes =>
    match reply.outcome with
    | .ok _ => flat.overwrite address bytes
    | .error _ => flat

/-- Each successful read of an exchange gives the bytes of the flat array to which the successful
writes so far have been applied. -/
def ReadsFrom (flat : Bytes) : List (Request × Reply) → Prop
  | [] => True
  | (request, reply) :: rest =>
    (∀ address length access, request = .read address length → reply.outcome = .ok access →
      reply.delivered = some (flat.slice address length)) ∧
    ReadsFrom (request.applyTo flat reply) rest

/-- The request is served as a flat array serves it, or nothing changes. -/
def Faithful (size : Nat) (before after : Contents) (request : Request) (reply : Reply) : Prop :=
  match reply.outcome with
  | .ok _ =>
    after = request.apply before ∧ request.address + request.length ≤ size ∧
      (request.kind = .read → reply.delivered = some (before.read request.address request.length))
  | .error _ => after = before

theorem Answers.faithful {size : Nat} {before after : Contents} {request : Request} {reply : Reply}
    (answers : Answers size before after request reply) :
    Faithful size before after request reply := by
  unfold Answers at answers
  unfold Faithful
  cases outcome : reply.outcome with
  | ok access => simpa only [outcome] using answers
  | error fault =>
    rw [outcome] at answers
    exact answers.1

namespace Faithful

variable {size : Nat} {before after : Contents} {request : Request} {reply : Reply}

/-- A read that succeeds gives the bytes of the flat array. -/
theorem delivered {address length : Nat} {access : Access}
    (answers : Faithful size before after (.read address length) reply)
    (outcome : reply.outcome = .ok access) :
    reply.delivered = some ((before.read 0 size).slice address length) := by
  unfold Faithful at answers
  rw [outcome] at answers
  obtain ⟨-, bound, delivers⟩ := answers
  have bound' : address + length ≤ size := bound
  rw [delivers rfl, Contents.slice_read bound', Nat.zero_add]
  rfl

/-- What is seen after a request is the flat array to which it was applied, if it succeeded. -/
theorem applyTo_read (answers : Faithful size before after request reply) :
    request.applyTo (before.read 0 size) reply = after.read 0 size := by
  unfold Faithful at answers
  cases request with
  | read address length =>
    split at answers
    · rw [answers.1, Request.apply, Request.applyTo]
    · rw [answers, Request.applyTo]
  | write address bytes =>
    unfold Request.applyTo
    split at answers
    · obtain ⟨written, bound, -⟩ := answers
      have inside : address + bytes.length ≤ size := bound
      have overwritten : (before.read 0 size).overwrite address bytes =
          (before.write (0 + address) bytes).read 0 size := Contents.overwrite_read inside
      rw [Nat.zero_add] at overwritten
      rw [written]
      exact overwritten
    · rw [answers]

end Faithful

namespace Chain

variable {σ : Type} {size n : Nat}

/-- The flat array seen at the top of a chain. -/
def view : {n : Nat} → Chain σ n → Contents
  | 0, .ground memory => memory.byteAt
  | _ + 1, .level cache below => cache.view below.view

/-- Every cache of the chain is coherent over what the levels below it show. -/
def Coherent (size : Nat) : {n : Nat} → Chain σ n → Prop
  | 0, .ground memory => memory.size = size
  | _ + 1, .level cache below => below.Coherent size ∧ cache.Coherent size below.view

/-- A chain is a flat array to requests that stay inside a block. -/
theorem transparent (aligned : size % blockSize = 0) (n : Nat) :
    Storage.Transparent (serve (σ := σ) (n := n)) size (fun chain => chain.Coherent size) view := by
  induction n with
  | zero =>
    -- the levels below a cache are a chain again, so the cache stands over something flat
    rintro request ⟨memory⟩ sized inBlock
    exact Memory.transparent aligned request memory sized inBlock
  | succ n ih =>
    intro request chain coherent inBlock
    cases chain with
    | level cache below => exact Cache.transparent ih request (cache, below) coherent inBlock

/-- A request that leaves a block is served by the memory alone; a cache refuses it. -/
theorem faithful_of_not_inBlock {chain : Chain σ n} {request : Request}
    (coherent : chain.Coherent size) (leaves : ¬ request.InBlock) :
    (chain.serve request).2.Coherent size ∧
      Faithful size chain.view (chain.serve request).2.view request (chain.serve request).1 := by
  cases chain with
  | ground memory =>
    have sized : memory.size = size := coherent
    simp only [serve, Memory.serve, view]
    by_cases holds : memory.holds request.address request.length = true
    · rw [if_pos holds]
      have bound : request.address + request.length ≤ size := by
        simpa [Memory.holds, sized] using holds
      cases request with
      | read address length =>
        exact ⟨sized, rfl, bound, fun _ => congrArg some (Memory.bytesAt_eq_read ..)⟩
      | write address bytes =>
        exact ⟨sized, Memory.byteAt_store memory.counted address bytes, bound,
          fun reads => by cases reads⟩
    · rw [if_neg holds]
      exact ⟨sized, rfl⟩
  | level cache below =>
    have refused : ∃ kind, cache.refusal? request = some kind := by
      unfold Cache.refusal?
      split
      · exact ⟨_, rfl⟩
      · rw [if_pos (Nat.lt_of_not_le leaves)]
        exact ⟨_, rfl⟩
    obtain ⟨kind, refused⟩ := refused
    simp only [serve, Cache.serve, refused]
    exact ⟨coherent, rfl⟩

/-- A chain serves any request as a flat array does, or leaves what is seen as it was. -/
theorem faithful (aligned : size % blockSize = 0) {chain : Chain σ n}
    (coherent : chain.Coherent size) (request : Request) :
    (chain.serve request).2.Coherent size ∧
      Faithful size chain.view (chain.serve request).2.view request (chain.serve request).1 := by
  by_cases inBlock : request.InBlock
  · obtain ⟨coherent', answers⟩ := transparent aligned n request chain coherent inBlock
    exact ⟨coherent', answers.faithful⟩
  · exact faithful_of_not_inBlock coherent inBlock

/-- A request that stays inside a block and inside the memory is always served. -/
theorem serve_ok (aligned : size % blockSize = 0) {chain : Chain σ n}
    (coherent : chain.Coherent size)
    {request : Request} (inBlock : request.InBlock) (inside : request.address < size) :
    ∃ access, (chain.serve request).1.outcome = .ok access := by
  obtain ⟨-, answers⟩ := transparent aligned n request chain coherent inBlock
  unfold Answers at answers
  split at answers
  · next access outcome => exact ⟨access, outcome⟩
  · exact absurd answers.2.1 (Nat.not_le.mpr inside)

/-- Along every sequence of requests to a coherent chain, reads give what is in the flat array. -/
theorem readsFrom_view (aligned : size % blockSize = 0) (requests : List Request)
    {chain : Chain σ n} (coherent : chain.Coherent size) :
    ReadsFrom (chain.view.read 0 size) (Storage.exchange serve requests chain) := by
  induction requests generalizing chain with
  | nil => trivial
  | cons request rest ih =>
    -- what is seen now is the flat array with this request applied, and the rest starts from there
    obtain ⟨coherent', answers⟩ := faithful aligned coherent request
    refine ⟨?_, ?_⟩
    · rintro address length access rfl outcome
      exact answers.delivered outcome
    · rw [answers.applyTo_read]
      exact ih coherent'

/-! ### New chains -/

@[simp] theorem caches_ofCaches (memory : Memory) (caches : List (Cache σ)) :
    (ofCaches memory caches).caches = caches := by
  induction caches with
  | nil => rfl
  | cons cache rest ih => exact congrArg (cache :: ·) ih

@[simp] theorem memory_ofCaches (memory : Memory) (caches : List (Cache σ)) :
    (ofCaches memory caches).memory = memory := by
  induction caches with
  | nil => rfl
  | cons cache rest ih => exact ih

/-- Caches that were just given their lines show the memory under them. -/
theorem coherent_of_fresh {chain : Chain σ n} (fresh : ∀ cache ∈ chain.caches, cache.Fresh)
    (prudent : ∀ cache ∈ chain.caches, cache.policy.Prudent chain.memory.size) :
    chain.Coherent chain.memory.size ∧ chain.view = chain.memory.byteAt := by
  induction chain with
  | ground memory => exact ⟨rfl, rfl⟩
  | level cache below ih =>
    obtain ⟨coherent, view⟩ := ih (fun other member => fresh other (List.mem_cons_of_mem _ member))
      fun other member => prudent other (List.mem_cons_of_mem _ member)
    have new := fresh cache List.mem_cons_self
    exact ⟨⟨coherent, new.coherent (prudent cache List.mem_cons_self)⟩, new.view_eq.trans view⟩

/-- New caches over a memory are a flat array: in every sequence of requests, each successful read
gives the bytes that the successful writes before it have left in the memory. -/
theorem exchange_readsFrom (memory : Memory) (aligned : memory.size % blockSize = 0)
    (caches : List (Cache σ)) (fresh : ∀ cache ∈ caches, cache.Fresh)
    (prudent : ∀ cache ∈ caches, cache.policy.Prudent memory.size) (requests : List Request) :
    ReadsFrom (memory.bytesAt 0 memory.size)
      (Storage.exchange serve requests (ofCaches memory caches)) := by
  rw [← caches_ofCaches memory caches] at fresh
  have prudent' : ∀ cache ∈ (ofCaches memory caches).caches,
      cache.policy.Prudent (ofCaches memory caches).memory.size := by
    rwa [caches_ofCaches, memory_ofCaches]
  obtain ⟨coherent, view⟩ := coherent_of_fresh fresh prudent'
  rw [memory_ofCaches] at coherent view
  rw [Memory.bytesAt_eq_read, ← view]
  exact readsFrom_view aligned requests coherent

/-- A cache of one line that writes back late, over one of two lines that writes through. -/
def twoLevels : List (Cache Unit) :=
  [{ name := "upper", memo := (), geometry := ⟨64, 1, 1, false, true⟩,
     lines := Cache.freshLines ⟨64, 1, 1, false, true⟩ },
    { name := "lower", memo := (), geometry := ⟨128, 1, 2, true, false⟩,
      lines := Cache.freshLines ⟨128, 1, 2, true, false⟩ }]

/-- A block that is written in the upper cache, pushed out by another one and read again: all three
requests succeed, and the last one finds the two bytes. -/
theorem exchange_readsFrom_twoLevels :
    let exchanged := Storage.exchange serve [.write 3 [7, 8], .read 130 2, .read 0 8]
      (ofCaches { size := 256 } twoLevels)
    (∀ cache ∈ twoLevels, cache.Fresh) ∧
      ReadsFrom (Memory.bytesAt { size := 256 } 0 256) exchanged ∧
      exchanged.all (·.2.outcome.isOk) = true ∧
      exchanged.map (·.2.delivered) = [none, some [0, 0], some [0, 0, 0, 7, 8, 0, 0, 0]] := by
  intro exchanged
  have fresh : ∀ cache ∈ twoLevels, cache.Fresh := by
    simp only [twoLevels, List.forall_mem_cons, List.not_mem_nil, false_implies, implies_true,
      and_true]
    exact ⟨⟨{ name := "upper", memo := () }, ⟨64, 1, 1, false, true⟩, rfl⟩,
      ⟨{ name := "lower", memo := () }, ⟨128, 1, 2, true, false⟩, rfl⟩⟩
  have prudent : ∀ cache ∈ twoLevels, cache.policy.Prudent 256 := by
    simp only [twoLevels, List.forall_mem_cons, List.not_mem_nil, false_implies, implies_true,
      and_true]
    exact ⟨Policy.prudent_plain 256, Policy.prudent_plain 256⟩
  exact ⟨fresh, exchange_readsFrom { size := 256 } (by decide) twoLevels fresh prudent _,
    by decide +kernel, by decide +kernel⟩

end Chain

end FiveStage
