import FiveStage.Cache.Basic

/-!
# How a cache serves requests

A cache stands over another storage. It serves a request from its own lines where it can, and asks
the storage below where it has to: for the block that is missing, to write back a dirty block that
gives way, and to pass on writes. A request that fails below fails, and leaves behind what was done
before.

## Main definitions

* `ServiceState`, `Service`: what a cache has at hand while it serves one request
* `Cache.makeRoom`, `Cache.fill`, `Cache.prefetchBlock`: the steps that change which blocks are held
* `Cache.serveHit`, `Cache.serveMiss`, `Cache.attend`: the course of a request
* `Cache.serve`: the storage made of a cache and the storage below it
-/

namespace FiveStage

/-- What a cache has at hand while it serves a request: itself, the storage below, the bytes already
delivered to the requester and what happened so far. -/
structure ServiceState (σ S : Type) where
  cache : Cache σ
  below : S
  delivered : Option Bytes := none
  journal : List Event := []

/-- A step of serving a request; a failing step keeps what was done before it. -/
abbrev Service (σ S : Type) := EStateM MemoryFault (ServiceState σ S)

namespace Cache

variable {σ S : Type}

/-- Applies a change to the cache. -/
def update (change : Cache σ → Cache σ) : Service σ S Unit :=
  modify fun state => { state with cache := change state.cache }

/-- The cache as it is now. -/
def current : Service σ S (Cache σ) := return (← get).cache

/-- Notes what happens in the cache. -/
def note (happening : Happening) : Service σ S Unit :=
  modify fun state => { state with journal := state.journal ++ [⟨0, happening⟩] }

/-- Hands bytes to the requester. -/
def deliver (bytes : Bytes) : Service σ S Unit :=
  modify fun state => { state with delivered := some bytes }

/-- Passes a request to the storage below. -/
def ask (lower : Storage S) (request : Request) : Service σ S Reply := do
  let state ← get
  let (reply, below) := lower request state.below
  set { state with below, journal := state.journal ++ reply.journal.map Event.deeper }
  return reply

/-- The cycles the storage below took; its failure is the cache's failure. -/
def spent (reply : Reply) : Service σ S Nat :=
  match reply.outcome with
  | .ok access => pure access.total
  | .error fault => throw fault

/-! ### Room and blocks -/

/-- A line of the set that holds nothing, after the oldest one gave way if need be. A dirty block is
written back first, which costs the requester nothing. -/
def makeRoom (lower : Storage S) (set : Nat) : Service σ S Nat := do
  let cache ← current
  match cache.vacant? set with
  | some index => return index
  | none =>
    let index := cache.victim set
    let line := cache.line index
    let address := cache.addressOf line.tag set
    -- the line is given up before its block is written back, so a failure there loses the block
    update (·.modifyLine index fun l => { l with valid := false, dirty := false })
    if line.dirty then
      let reply ← ask lower (.write address line.data)
      discard (spent reply)
      note (.flushed cache.name address)
    update (·.count fun s => { s with replacements := s.replacements + 1 })
    return index

/-- Brings the block of an address into a line and gives the cycles of the storage below. -/
def fill (lower : Storage S) (index address : Nat) : Service σ S Nat := do
  let reply ← ask lower (.read (blockOf address) blockSize)
  let cycles ← spent reply
  let data := reply.delivered.getD (Bytes.zeros blockSize)
  update fun cache =>
    (cache.modifyLine index fun l =>
      { l with data, tag := cache.tagOf address, valid := true, dirty := false }).touch index
  return cycles

/-- Brings in a block that was not asked for, unless it is there already. -/
def prefetchBlock (lower : Storage S) (address : Nat) : Service σ S Unit := do
  let cache ← current
  unless cache.contains address do
    let index ← makeRoom lower (cache.setOf address)
    discard (fill lower index address)
    update (·.count fun s => { s with prefetches := s.prefetches + 1 })

/-! ### Hits and misses -/

/-- Counts a request passed on to the storage below. -/
def countForwarded : Service σ S Unit :=
  update (·.count fun s => { s with forwarded := s.forwarded + 1 })

/-- Adds to the time the cache spent itself. -/
def countTime (cycles : Nat) : Service σ S Unit :=
  update (·.count fun s => { s with time := s.time + cycles })

/-- Serves a request from the line that holds its block. A write turns the line dirty, or is passed
on at once if the cache writes through. -/
def serveHit (lower : Storage S) (index : Nat) (request : Request) : Service σ S Access := do
  let cache ← current
  let time := cache.latency.hitTime
  let offset := blockOffset request.address
  countTime time
  update (·.touch index)
  match request with
  | .read _ length =>
    deliver ((cache.line index).data.slice offset length)
    return ⟨true, time⟩
  | .write _ bytes =>
    let through := cache.geometry.writeThrough
    update (·.modifyLine index fun l =>
      { l with data := l.data.overwrite offset bytes, dirty := !through })
    if through then
      let cycles ← spent (← ask lower request)
      countForwarded
      return ⟨true, time + cycles⟩
    return ⟨true, time⟩

/-- Passes a request on and reports it as a miss. -/
def passOn (lower : Storage S) (request : Request) : Service σ S Access := do
  let reply ← ask lower request
  if let some bytes := reply.delivered then
    deliver bytes
  let cycles ← spent reply
  countForwarded
  return ⟨false, cycles⟩

/-- Brings in the block of a request that was not there. A write is passed on before its block is
brought in, so the block has the written bytes. -/
def allocate (lower : Storage S) (request : Request) : Service σ S Access := do
  let cache ← current
  let set := cache.setOf request.address
  let index ← makeRoom lower set
  let written ←
    -- what the block misses has to be below before the block is read
    match request with
    | .read .. => pure 0
    | .write .. => spent (← ask lower request)
  let filled ← fill lower index request.address
  let time := written + filled + cache.latency.bus
  countTime cache.latency.bus
  countForwarded
  if let .read _ length := request then
    deliver (((← current).line index).data.slice (blockOffset request.address) length)
  note (.filled cache.name request.address set index time)
  return ⟨false, time⟩

/-- Serves a request whose block is not in the cache. -/
def serveMiss (lower : Storage S) (request : Request) : Service σ S Access := do
  let cache ← current
  if request.kind == .write && !cache.geometry.writeAllocate then
    passOn lower request
  else
    allocate lower request

/-! ### The course of a request -/

/-- Whether the policy sends a request straight to the storage below. -/
def consultBypass (request : Request) : Service σ S Bool := do
  let cache ← current
  let (bypassed, memo) := cache.policy.bypass request.address request.kind cache.memo
  update ({ · with memo })
  note (.bypassAsked request.address request.kind)
  return bypassed

/-- Tells the policy which set is looked up. -/
def announceSet (address : Nat) : Service σ S Unit := do
  let cache ← current
  let set := cache.setOf address
  update ({ · with memo := cache.policy.announce set cache.memo })
  note (.setAnnounced set)

/-- The block that the policy wants besides, after a request was served. -/
def consultPrefetch (address : Nat) (hit : Bool) : Service σ S (Option Nat) := do
  let cache ← current
  let (wanted, memo) := cache.policy.prefetch address hit cache.memo
  update ({ · with memo })
  note (.prefetchAsked address hit)
  return wanted

/-- Serves a request from the line of its block, or as a miss. -/
def serveLookedUp (lower : Storage S) (request : Request) : Service σ S Access := do
  match (← current).lookup request.address with
  | some index => serveHit lower index request
  | none =>
    update (·.count fun s => { s with misses := s.misses + 1 })
    serveMiss lower request

/-- Serves a request that stays inside one block. -/
def attend (lower : Storage S) (request : Request) : Service σ S Access := do
  update (·.count fun s => { s with accesses := s.accesses + 1 })
  if ← consultBypass request then
    passOn lower request
  else
    announceSet request.address
    let access ← serveLookedUp lower request
    if let some wanted ← consultPrefetch request.address access.hit then
      prefetchBlock lower wanted
    return access

/-- Why a cache refuses a request without looking at it. -/
def refusal? (cache : Cache σ) (request : Request) : Option AccessFault :=
  if !cache.isConfigured then some .unconfigured
  else if blockOffset request.address + request.length > blockSize then
    some (.crossesBlock request.length)
  else none

/-- A cache over a storage is a storage. -/
def serve (lower : Storage S) : Storage (Cache σ × S) := fun request (cache, below) =>
  match cache.refusal? request with
  | some kind => ({ outcome := .error (.access request.address kind) }, cache, below)
  | none =>
    match (attend lower request).run { cache, below } with
    | .ok access state =>
      (⟨.ok access, state.delivered, state.journal⟩, state.cache, state.below)
    | .error fault state =>
      (⟨.error fault, state.delivered, state.journal⟩, state.cache, state.below)

end Cache

end FiveStage
