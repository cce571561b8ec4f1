import FiveStage.Proofs.Cache.Flatness

/-!
# Requests that fail

A chain of caches finds out late that a request fails. What leaves its block is refused at the top,
before anything changes; what leaves the memory is only refused at the bottom, when each cache on
the way has already given up a block to make room. Nothing is lost in this: whatever the requests
before it were, a request that fails delivers nothing, and every byte is read as before it.

## Main definitions

* `Storage.after`: the state after a sequence of requests, failing ones included
* `Chain.shown`: a byte as a read at the top of a chain delivers it
* `Chain.FailsCleanly`: which requests fail, how, and what is left of them

## Main results

* `Chain.failsCleanly`: new caches with the plain policy fail cleanly, after every history
-/

namespace FiveStage

/-- The state after the requests, whether they succeed or fail. -/
def Storage.after {S : Type} (storage : Storage S) (requests : List Request) (state : S) : S :=
  requests.foldl (fun state request => (storage request state).2) state

theorem Request.inBlock_read_one (address : Nat) : (Request.read address 1).InBlock := by
  have below : address % blockSize < blockSize := Nat.mod_lt address (by decide)
  exact below

namespace Chain

variable {σ : Type} {size n : Nat}

/-- What a read of the one byte at an address delivers at the top of the chain. -/
def shown (chain : Chain σ n) (address : Nat) : Option Bytes :=
  (chain.serve (.read address 1)).1.delivered

/-- A request fails only where it leaves its block or the memory, and nothing is lost then. A
request that leaves its block changes nothing at all. -/
structure FailsCleanly (size : Nat) (chain : Chain σ n) (request : Request) : Prop where
  crossing : ¬ request.InBlock → chain.serve request =
    ({ outcome := .error (.access request.address (.crossesBlock request.length)) }, chain)
  beyond : request.InBlock → size < request.address + request.length →
    ∃ address, (chain.serve request).1.outcome = .error (.access address .outOfBounds)
  served : request.InBlock → request.address + request.length ≤ size →
    ∃ access, (chain.serve request).1.outcome = .ok access
  nothing : ∀ fault, (chain.serve request).1.outcome = .error fault →
    (chain.serve request).1.delivered = none
  kept : ∀ fault, (chain.serve request).1.outcome = .error fault → ∀ address < size,
    ∃ byte, chain.shown address = some [byte] ∧
      (chain.serve request).2.shown address = some [byte]

/-- A coherent chain shows its flat array byte by byte. -/
theorem shown_eq (aligned : size % blockSize = 0) {chain : Chain σ n}
    (coherent : chain.Coherent size) {address : Nat} (inside : address < size) :
    chain.shown address = some [chain.view address] := by
  have inBlock := Request.inBlock_read_one address
  obtain ⟨access, outcome⟩ := serve_ok aligned coherent inBlock inside
  obtain ⟨-, answers⟩ := transparent aligned n (.read address 1) chain coherent inBlock
  rw [Answers, outcome] at answers
  exact answers.2.2 rfl

/-- A chain stays coherent whatever it is asked. -/
theorem Coherent.after (aligned : size % blockSize = 0) (requests : List Request)
    {chain : Chain σ n} (coherent : chain.Coherent size) :
    (Storage.after serve requests chain).Coherent size := by
  induction requests generalizing chain with
  | nil => exact coherent
  | cons request rest ih => exact ih (faithful aligned coherent request).1

/-- The highest cache refuses a request that leaves its block, and so nothing else is asked. -/
theorem serve_of_not_inBlock {chain : Chain σ (n + 1)} (coherent : chain.Coherent size)
    {request : Request} (leaves : ¬ request.InBlock) : chain.serve request =
      ({ outcome := .error (.access request.address (.crossesBlock request.length)) }, chain) := by
  cases chain with
  | level cache below => rw [serve, Cache.serve_of_not_inBlock coherent.2.arranged leaves]

/-- A coherent chain with a cache at the top fails cleanly. -/
theorem failsCleanly_of_coherent (aligned : size % blockSize = 0) {chain : Chain σ (n + 1)}
    (coherent : chain.Coherent size) {request : Request} (nonempty : 0 < request.length) :
    chain.FailsCleanly size request := by
  have crossing := fun leaves : ¬ request.InBlock => serve_of_not_inBlock coherent leaves
  -- an error inside a block comes from the bottom, which was found to be too short
  have error_inBlock : request.InBlock → ∀ fault, (chain.serve request).1.outcome = .error fault →
      (chain.serve request).1.delivered = none ∧
        ∃ address, fault = .access address .outOfBounds := by
    intro inBlock fault failed
    obtain ⟨-, answers⟩ := transparent aligned (n + 1) request chain coherent inBlock
    rw [Answers, failed] at answers
    exact answers.2.2
  obtain ⟨coherent', faithful⟩ := faithful aligned coherent request
  refine ⟨crossing, fun inBlock outside => ?_, fun inBlock inside => ?_, fun fault failed => ?_,
    fun fault failed address inside => ⟨chain.view address, ?_, ?_⟩⟩
  · cases outcome : (chain.serve request).1.outcome with
    | ok access =>
      rw [Faithful, outcome] at faithful
      exact absurd faithful.2.1 (Nat.not_le.mpr outside)
    | error fault =>
      obtain ⟨-, address, rfl⟩ := error_inBlock inBlock fault outcome
      exact ⟨address, rfl⟩
  · exact serve_ok aligned coherent inBlock (by omega)
  · by_cases inBlock : request.InBlock
    · exact (error_inBlock inBlock fault failed).1
    · rw [crossing inBlock]
  · exact shown_eq aligned coherent inside
  · rw [Faithful, failed] at faithful
    rw [shown_eq aligned coherent' inside, faithful]

/-- A failing request loses nothing: over a memory of whole blocks, new caches with the plain policy
fail cleanly whatever they were asked before, failing requests included. -/
theorem failsCleanly (memory : Memory) (aligned : memory.size % blockSize = 0)
    (caches : List (Cache σ)) (some_cache : caches ≠ []) (fresh : ∀ cache ∈ caches, cache.Fresh)
    (plain : ∀ cache ∈ caches, cache.policy = Policy.plain σ) (requests : List Request)
    (request : Request) (nonempty : 0 < request.length) :
    (Storage.after serve requests (ofCaches memory caches)).FailsCleanly memory.size request := by
  have prudent : ∀ cache ∈ (ofCaches memory caches).caches,
      cache.policy.Prudent (ofCaches memory caches).memory.size := by
    intro cache member
    rw [caches_ofCaches] at member
    rw [plain cache member]
    exact Policy.prudent_plain _
  rw [← caches_ofCaches memory caches] at fresh
  obtain ⟨coherent, -⟩ := coherent_of_fresh fresh prudent
  rw [memory_ofCaches] at coherent
  cases caches with
  | nil => exact absurd rfl some_cache
  | cons cache rest =>
    exact failsCleanly_of_coherent aligned (coherent.after aligned requests) nonempty

/-- A block is changed in the upper cache, and a read behind the memory pushes it out. The read
fails, and the block is still shown. -/
theorem failsCleanly_twoLevels :
    let chain := Storage.after serve [.write 3 [7, 8], .read 60 8]
      (ofCaches { size := 256 } twoLevels)
    chain.FailsCleanly 256 (.read 256 8) ∧ (chain.serve (.read 256 8)).2.shown 3 = some [7] := by
  have new : ∀ cache ∈ twoLevels, cache.Fresh ∧ cache.policy = Policy.plain Unit := by
    simp only [twoLevels, List.forall_mem_cons, List.not_mem_nil, false_implies, implies_true,
      and_true]
    exact ⟨⟨{ name := "upper", memo := () }, ⟨64, 1, 1, false, true⟩, rfl⟩,
      ⟨{ name := "lower", memo := () }, ⟨128, 1, 2, true, false⟩, rfl⟩⟩
  refine ⟨?_, by decide +kernel⟩
  exact failsCleanly { size := 256 } (by decide) twoLevels (List.cons_ne_nil _ _)
    (fun cache member => (new cache member).1) (fun cache member => (new cache member).2) _ _
    (by decide)

end Chain

end FiveStage
