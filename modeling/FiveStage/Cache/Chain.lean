import FiveStage.Cache.Service
import FiveStage.Storage.Memory

/-!
# Storage chains

Caches stand over each other, and the last one over the memory. Each level asks the one below it, so
a chain is a storage again.

## Main definitions

* `Chain`: a memory under a number of caches
* `Chain.serve`: a request at the top
* `Chain.caches`, `Chain.memory`: the parts of a chain, from the top
-/

namespace FiveStage

/-- A memory under `n` caches whose policies remember values of type `σ`. -/
inductive Chain (σ : Type) : Nat → Type
  | ground (memory : Memory) : Chain σ 0
  | level {n : Nat} (cache : Cache σ) (below : Chain σ n) : Chain σ (n + 1)

namespace Chain

variable {σ : Type}

/-- Serves a request at the top of the chain. -/
def serve : {n : Nat} → Storage (Chain σ n)
  | 0, request, .ground memory =>
    let (reply, memory) := memory.serve request
    (reply, .ground memory)
  | _ + 1, request, .level cache below =>
    let (reply, cache, below) := Cache.serve serve request (cache, below)
    (reply, .level cache below)

/-- The caches, from the top. -/
def caches : {n : Nat} → Chain σ n → List (Cache σ)
  | 0, .ground _ => []
  | _ + 1, .level cache below => cache :: below.caches

/-- The memory at the bottom. -/
def memory : {n : Nat} → Chain σ n → Memory
  | 0, .ground memory => memory
  | _ + 1, .level _ below => below.memory

/-- The chain of the given caches over a memory. -/
def ofCaches (memory : Memory) : (caches : List (Cache σ)) → Chain σ caches.length
  | [] => .ground memory
  | cache :: rest => .level cache (ofCaches memory rest)

/-- The chain with its memory changed. -/
def modifyMemory (change : Memory → Memory) : {n : Nat} → Chain σ n → Chain σ n
  | 0, .ground memory => .ground (change memory)
  | _ + 1, .level cache below => .level cache (below.modifyMemory change)

/-- The statistics of the storage at the given depth: a cache, or the memory below all of them. -/
def statisticsAt (depth : Nat) {n : Nat} (chain : Chain σ n) : Statistics :=
  match chain.caches[depth]? with
  | some cache => cache.statistics
  | none => chain.memory.statistics

end Chain

end FiveStage
