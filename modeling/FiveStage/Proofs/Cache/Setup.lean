import FiveStage.Proofs.Cache.Steps

/-!
# What no request changes

Requests change the lines of a cache, its counters and the memo of its policy. Geometry, timing and
policy stay as they were set up, at every level, and what every request to the storage below keeps
there is kept by a cache above it.

## Main definitions

* `Cache.setup`, `Chain.setup`: geometry, timing and policy
* `Cache.KeepsSetup`: actions that leave the setup alone

## Main results

* `Cache.setup_serve`, `Chain.setup_serve`: requests
* `Chain.setup_after`: requests one after the other
-/

namespace FiveStage

namespace Cache

variable {σ S α β : Type} {cache : Cache σ} {lower : Storage S} {state : ServiceState σ S}
  {action other : Service σ S α}

/-- Geometry, timing and policy. -/
def setup (cache : Cache σ) : Geometry × Latency × Policy σ :=
  (cache.geometry, cache.latency, cache.policy)

/-- The action leaves the setup of the cache alone, and what is true of the storage below. -/
def KeepsSetup (Kept : S → Prop) (action : Service σ S α) : Prop :=
  ∀ state, Kept state.below → Ends action state
    (fun _ next => next.cache.setup = state.cache.setup ∧ Kept next.below)
    fun _ next => next.cache.setup = state.cache.setup ∧ Kept next.below

section Kept

variable {Kept : S → Prop}

namespace KeepsSetup

theorem bind {rest : α → Service σ S β} (keeps : KeepsSetup Kept action)
    (later : ∀ a, KeepsSetup Kept (rest a)) : KeepsSetup Kept (action >>= rest) := by
  intro state kept
  rw [ends_bind]
  refine (keeps state kept).mono (fun a next same => ?_) fun _ _ same => same
  exact (later a next same.2).mono (fun _ _ same' => ⟨same'.1.trans same.1, same'.2⟩)
    fun _ _ same' => ⟨same'.1.trans same.1, same'.2⟩

theorem discard (keeps : KeepsSetup Kept action) : KeepsSetup Kept (discard action) :=
  fun state kept => ends_discard.mpr (keeps state kept)

theorem ite {condition : Prop} [Decidable condition] (keeps : KeepsSetup Kept action)
    (keeps' : KeepsSetup Kept other) :
    KeepsSetup Kept (if condition then action else other) := by
  split
  · exact keeps
  · exact keeps'

end KeepsSetup

theorem keepsSetup_pure (a : α) : KeepsSetup Kept (pure a : Service σ S α) :=
  fun _ kept => ⟨rfl, kept⟩

theorem keepsSetup_current : KeepsSetup Kept (current : Service σ S (Cache σ)) :=
  fun _ kept => ⟨rfl, kept⟩

theorem keepsSetup_note (happening : Happening) :
    KeepsSetup Kept (note happening : Service σ S Unit) := fun _ kept => ⟨rfl, kept⟩

theorem keepsSetup_deliver (bytes : Bytes) :
    KeepsSetup Kept (deliver bytes : Service σ S Unit) := fun _ kept => ⟨rfl, kept⟩

theorem keepsSetup_spent (reply : Reply) :
    KeepsSetup Kept (spent reply : Service σ S Nat) :=
  fun _ kept => ends_spent (fun _ _ => ⟨rfl, kept⟩) fun _ _ => ⟨rfl, kept⟩

theorem keepsSetup_update {change : Cache σ → Cache σ}
    (keeps : ∀ cache, (change cache).setup = cache.setup) :
    KeepsSetup Kept (update change : Service σ S Unit) :=
  fun state kept => ⟨keeps state.cache, kept⟩

theorem keepsSetup_countForwarded : KeepsSetup Kept (countForwarded : Service σ S Unit) :=
  keepsSetup_update fun _ => rfl

variable (lawful : ∀ request below, Kept below → Kept (lower request below).2)
include lawful

theorem keepsSetup_ask (request : Request) :
    KeepsSetup Kept (ask lower request : Service σ S Reply) :=
  fun state kept => ⟨rfl, lawful request state.below kept⟩

theorem keepsSetup_makeRoom (set : Nat) :
    KeepsSetup Kept (makeRoom lower set : Service σ S Nat) := by
  refine .bind keepsSetup_current fun cache => ?_
  split
  · exact keepsSetup_pure _
  · refine .bind (keepsSetup_update fun _ => rfl) fun _ => ?_
    have counts : KeepsSetup Kept (do
        update (·.count fun s => { s with replacements := s.replacements + 1 })
        return cache.victim set : Service σ S Nat) :=
      .bind (keepsSetup_update fun _ => rfl) fun _ => keepsSetup_pure _
    refine .ite ?_ counts
    exact .bind (keepsSetup_ask lawful _) fun _ => .bind (keepsSetup_spent _).discard fun _ =>
      .bind (keepsSetup_note _) fun _ => counts

theorem keepsSetup_fill (index address : Nat) :
    KeepsSetup Kept (fill lower index address : Service σ S Nat) :=
  .bind (keepsSetup_ask lawful _) fun _ => .bind (keepsSetup_spent _) fun _ =>
    .bind (keepsSetup_update fun _ => rfl) fun _ => keepsSetup_pure _

theorem keepsSetup_prefetchBlock (address : Nat) :
    KeepsSetup Kept (prefetchBlock lower address : Service σ S Unit) := by
  refine .bind keepsSetup_current fun cache => .ite (keepsSetup_pure _) ?_
  exact .bind (keepsSetup_makeRoom lawful _) fun _ =>
    .bind (keepsSetup_fill lawful _ _).discard fun _ =>
    keepsSetup_update fun _ => rfl

theorem keepsSetup_serveHit (index : Nat) (request : Request) :
    KeepsSetup Kept (serveHit lower index request : Service σ S Access) := by
  refine .bind keepsSetup_current fun cache => .bind (keepsSetup_update fun _ => rfl) fun _ => ?_
  refine .bind (keepsSetup_update fun _ => rfl) fun _ => ?_
  cases request with
  | read address length => exact .bind (keepsSetup_deliver _) fun _ => keepsSetup_pure _
  | write address bytes =>
    refine .bind (keepsSetup_update fun _ => rfl) fun _ => .ite ?_ (keepsSetup_pure _)
    exact .bind (keepsSetup_ask lawful _) fun _ => .bind (keepsSetup_spent _) fun _ =>
      .bind keepsSetup_countForwarded fun _ => keepsSetup_pure _

theorem keepsSetup_passOn (request : Request) :
    KeepsSetup Kept (passOn lower request : Service σ S Access) := by
  refine .bind (keepsSetup_ask lawful _) fun reply => ?_
  have rest : KeepsSetup Kept (do
      let cycles ← spent reply
      countForwarded
      return ⟨false, cycles⟩ : Service σ S Access) :=
    .bind (keepsSetup_spent _) fun _ => .bind keepsSetup_countForwarded fun _ => keepsSetup_pure _
  split
  · exact .bind (keepsSetup_deliver _) fun _ => rest
  · exact rest

theorem keepsSetup_allocate (request : Request) :
    KeepsSetup Kept (allocate lower request : Service σ S Access) := by
  refine .bind keepsSetup_current fun cache => .bind (keepsSetup_makeRoom lawful _) fun index => ?_
  cases request with
  | read address length =>
    refine .bind (keepsSetup_pure _) fun _ => .bind (keepsSetup_fill lawful _ _) fun _ => ?_
    refine .bind (keepsSetup_update fun _ => rfl) fun _ =>
      .bind keepsSetup_countForwarded fun _ => ?_
    refine .bind keepsSetup_current fun _ => .bind (keepsSetup_deliver _) fun _ => ?_
    exact .bind (keepsSetup_note _) fun _ => keepsSetup_pure _
  | write address bytes =>
    refine .bind (keepsSetup_ask lawful _) fun _ => .bind (keepsSetup_spent _) fun _ => ?_
    refine .bind (keepsSetup_fill lawful _ _) fun _ =>
      .bind (keepsSetup_update fun _ => rfl) fun _ => ?_
    exact .bind keepsSetup_countForwarded fun _ => .bind (keepsSetup_note _) fun _ =>
      keepsSetup_pure _

theorem keepsSetup_serveLookedUp (request : Request) :
    KeepsSetup Kept (serveLookedUp lower request : Service σ S Access) := by
  refine .bind keepsSetup_current fun cache => ?_
  split
  · exact keepsSetup_serveHit lawful _ _
  · refine .bind (keepsSetup_update fun _ => rfl) fun _ => .bind keepsSetup_current fun _ => ?_
    exact .ite (keepsSetup_passOn lawful _) (keepsSetup_allocate lawful _)

theorem keepsSetup_followUp (request : Request) (access : Access) :
    KeepsSetup Kept (followUp lower request access : Service σ S Access) := by
  have asks : KeepsSetup Kept
      (consultPrefetch request.address access.hit : Service σ S (Option Nat)) :=
    .bind keepsSetup_current fun _ => .bind (keepsSetup_update fun _ => rfl) fun _ =>
      .bind (keepsSetup_note _) fun _ => keepsSetup_pure _
  refine .bind asks fun wanted? => ?_
  split
  · exact .bind (keepsSetup_prefetchBlock lawful _) fun _ => keepsSetup_pure _
  · exact keepsSetup_pure _

end Kept

/-- Whatever the storage below does, looking up a request leaves the setup alone. -/
theorem serveLookedUp_setup (lower : Storage S) (request : Request) :
    Ends (serveLookedUp lower request) state
      (fun _ next => next.cache.setup = state.cache.setup)
      fun _ next => next.cache.setup = state.cache.setup := by
  have keeps : KeepsSetup (fun _ => True) (serveLookedUp lower request : Service σ S Access) :=
    keepsSetup_serveLookedUp (fun _ _ _ => trivial) request
  exact (keeps state trivial).mono (fun _ _ same => same.1) fun _ _ same => same.1

/-- No request changes the setup of a cache, and what every request to the storage below keeps there
is kept. -/
theorem setup_serve (lower : Storage S) (Kept : S → Prop)
    (lawful : ∀ request below, Kept below → Kept (lower request below).2) (request : Request)
    (cache : Cache σ) {below : S} (kept : Kept below) :
    (serve lower request (cache, below)).2.1.setup = cache.setup ∧
      Kept (serve lower request (cache, below)).2.2 := by
  cases refused : cache.refusal? request with
  | some kind =>
    simp only [serve, refused]
    exact ⟨trivial, kept⟩
  | none =>
    refine serve_ends (motive := fun _ after => after.1.setup = cache.setup ∧ Kept after.2)
      refused ?_
    rw [ends_attend]
    split
    · exact keepsSetup_passOn lawful request _ kept
    · exact KeepsSetup.bind (keepsSetup_serveLookedUp lawful request)
        (fun access => keepsSetup_followUp lawful request access) _ kept

end Cache

namespace Chain

variable {σ : Type} {n : Nat}

/-- The setup of all caches, from the top, and the timing of the memory. -/
def setup (chain : Chain σ n) : List (Geometry × Latency × Policy σ) × Latency :=
  (chain.caches.map Cache.setup, chain.memory.latency)

theorem setup_level (cache : Cache σ) (below : Chain σ n) :
    (Chain.level cache below).setup = (cache.setup :: below.setup.1, below.setup.2) := rfl

/-- No request changes the setup of a level. -/
theorem setup_serve (request : Request) (chain : Chain σ n) :
    (chain.serve request).2.setup = chain.setup := by
  induction n generalizing request with
  | zero =>
    cases chain with
    | ground memory =>
      simp only [serve, Memory.serve]
      split
      · cases request <;> rfl
      · rfl
  | succ n ih =>
    cases chain with
    | level cache below =>
      obtain ⟨here, there⟩ := Cache.setup_serve serve (fun after => after.setup = below.setup)
        (fun request after kept => (ih request after).trans kept) request cache rfl
      rw [setup_level, ← here, ← there]
      rfl

/-- What is said of the setup of caches is true of other caches that are set up alike. -/
theorem forall_of_map_setup (holds : Geometry × Latency × Policy σ → Prop)
    {before after : List (Cache σ)} (same : after.map Cache.setup = before.map Cache.setup)
    (all : ∀ cache ∈ before, holds cache.setup) :
    ∀ cache ∈ after, holds cache.setup := by
  rwa [← List.forall_mem_map, same, List.forall_mem_map]

theorem setup_after (requests : List Request) (chain : Chain σ n) :
    (Storage.after serve requests chain).setup = chain.setup := by
  induction requests generalizing chain with
  | nil => rfl
  | cons request rest ih => exact (ih _).trans (setup_serve request chain)

end Chain

end FiveStage
