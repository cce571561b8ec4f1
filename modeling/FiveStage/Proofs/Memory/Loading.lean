import FiveStage.Proofs.Memory.Flat
import FiveStage.Proofs.Parallel

/-!
# Address spaces before a program runs

A program is loaded past the caches, while they are still empty. As long as they are, the address
space shows what is in physical memory, and loading depends on the page table and on physical memory
alone: address spaces with different caches are prepared alike.

## Main definitions

* `AddressSpace.Unused`: an address space whose caches have not been asked yet
* `AddressSpace.Twins`: unused address spaces that differ at most in their caches and timing
* `AddressSpace.OnlyBytes`: two states that differ at most in the bytes of physical memory
* `AddressSpace.Lasts`: relations between address spaces that outlive the loading of a program

## Main results

* `AddressSpace.Unused.sound`: unused address spaces are sound
* `AddressSpace.Lasts.loadImage`, `AddressSpace.Lasts.mapStack`: two address spaces are prepared
  alike
* `AddressSpace.lasts_twins`: twins stay twins while a program is loaded
* `AddressSpace.unused_of_ofSettings`: the fresh address space of a machine is unused
-/

namespace FiveStage

namespace Chain

variable {σ : Type} {n : Nat}

@[simp] theorem caches_modifyMemory (chain : Chain σ n) (change : Memory → Memory) :
    (chain.modifyMemory change).caches = chain.caches := by
  induction chain with
  | ground memory => rfl
  | level cache below ih => exact congrArg (cache :: ·) ih

@[simp] theorem memory_modifyMemory (chain : Chain σ n) (change : Memory → Memory) :
    (chain.modifyMemory change).memory = change chain.memory := by
  induction chain with
  | ground memory => rfl
  | level cache below ih => exact ih

end Chain

namespace PageTable

/-- Mapping does not depend on the log. -/
theorem mapPage_parallel (address : Nat) :
    Parallel Eq (Logged.Related Eq) (mapPage address) (mapPage address) := by
  refine parallel_get.bind fun state twin same => ?_
  obtain ⟨table, log⟩ := state
  obtain ⟨table', log'⟩ := twin
  obtain rfl : table = table' := same
  cases table.frame? address with
  | some frame => exact parallel_pure rfl
  | none =>
    cases table.freeFrame? with
    | some frame => exact Parallel.bind (parallel_set rfl) fun _ _ _ => parallel_pure rfl
    | none => exact parallel_throw _

theorem mapPages_parallel (page count : Nat) :
    Parallel Eq (Logged.Related Eq) (mapPages page count) (mapPages page count) := by
  induction count generalizing page with
  | zero => exact parallel_pure rfl
  | succ count ih => exact (mapPage_parallel _).discard.bind fun _ _ _ => ih _

theorem mapRange_parallel (address length : Nat) :
    Parallel Eq (Logged.Related Eq) (mapRange address length) (mapRange address length) :=
  .ite Iff.rfl (parallel_pure rfl) (mapPages_parallel _ _)

end PageTable

namespace AddressSpace

variable {space twin : AddressSpace} {state state' : Logged AddressSpace}

/-- The caches have their lines, and have not been asked yet. -/
structure Unused (space : AddressSpace) : Prop where
  pages : space.pages.Sound
  fresh : ∀ cache ∈ space.storage.caches, cache.Fresh
  plain : ∀ cache ∈ space.storage.caches, cache.policy = Policy.plain Unit
  memory : space.storage.memory.size = space.pages.frames * pageSize

namespace Unused

theorem coherent (unused : space.Unused) :
    space.storage.Coherent (space.pages.frames * pageSize) ∧
      space.storage.view = space.storage.memory.byteAt := by
  have prudent : ∀ cache ∈ space.storage.caches,
      cache.policy.Prudent space.storage.memory.size := by
    intro cache member
    rw [unused.plain cache member]
    exact Policy.prudent_plain _
  rw [← unused.memory]
  exact Chain.coherent_of_fresh unused.fresh prudent

theorem sound (unused : space.Unused) : space.Sound := ⟨unused.pages, unused.coherent.1⟩

/-- Changing bytes of physical memory does not use the caches. -/
theorem modifyMemory (unused : space.Unused) {memory : Memory}
    (size : memory.size = space.storage.memory.size) :
    Unused { space with storage := space.storage.modifyMemory fun _ => memory } where
  pages := unused.pages
  fresh := by simpa using unused.fresh
  plain := by simpa using unused.plain
  memory := by simpa [size] using unused.memory

/-- Mapping pages does not use the caches. -/
theorem mapped (unused : space.Unused) {table : PageTable} (grown : space.pages.Grown table) :
    Unused { space with pages := table } where
  pages := grown.sound
  fresh := unused.fresh
  plain := unused.plain
  memory := unused.memory.trans (by rw [grown.frames])

end Unused

/-- Two unused address spaces with the same pages and the same bytes in physical memory. -/
structure Twins (space twin : AddressSpace) : Prop where
  unused : space.Unused
  unused' : twin.Unused
  pages : space.pages = twin.pages
  bytes : space.storage.memory.bytes = twin.storage.memory.bytes

/-- Twins show the same memory. -/
theorem Twins.flat_eq (twins : space.Twins twin) : space.flat = twin.flat := by
  refine flat_congr twins.pages ?_
  rw [twins.unused.coherent.2, twins.unused'.coherent.2]
  funext address
  exact congrArg (·.getD address 0) twins.bytes

/-- Twins stay twins if their memories change alike. -/
theorem Twins.modifyMemory (twins : space.Twins twin) (memory memory' : Memory)
    (size : memory.size = space.storage.memory.size)
    (size' : memory'.size = twin.storage.memory.size) (bytes : memory.bytes = memory'.bytes) :
    Twins { space with storage := space.storage.modifyMemory fun _ => memory }
      { twin with storage := twin.storage.modifyMemory fun _ => memory' } where
  unused := twins.unused.modifyMemory size
  unused' := twins.unused'.modifyMemory size'
  pages := twins.pages
  bytes := by simpa using bytes

/-- Twins stay twins if pages are mapped alike. -/
theorem Twins.mapped (twins : space.Twins twin) {table : PageTable}
    (grown : space.pages.Grown table) :
    Twins { space with pages := table } { twin with pages := table } where
  unused := twins.unused.mapped grown
  unused' := twins.unused'.mapped (twins.pages ▸ grown)
  pages := rfl
  bytes := twins.bytes

/-! ### What loading leaves alone -/

/-- Only bytes of memory have changed: the pages, the caches and all counters are as before. -/
structure OnlyBytes (state next : Logged AddressSpace) : Prop where
  pages : next.value.pages = state.value.pages
  caches : next.value.storage.caches = state.value.storage.caches
  counters : next.value.storage.memory.statistics = state.value.storage.memory.statistics

theorem OnlyBytes.trans {next last : Logged AddressSpace} (first : OnlyBytes state next)
    (second : OnlyBytes next last) : OnlyBytes state last :=
  ⟨second.pages.trans first.pages, second.caches.trans first.caches,
    second.counters.trans first.counters⟩

theorem OnlyBytes.statisticsAt {next : Logged AddressSpace} (only : OnlyBytes state next)
    (depth : Nat) :
    next.value.storage.statisticsAt depth = state.value.storage.statisticsAt depth := by
  rw [Chain.statisticsAt, Chain.statisticsAt, only.caches, only.counters]

theorem placeBytes_onlyBytes (address : Nat) (bytes : Bytes) (state : Logged AddressSpace) :
    Ends (placeBytes address bytes) state (fun _ next => OnlyBytes state next)
      fun _ next => OnlyBytes state next := by
  have same : OnlyBytes state state := ⟨rfl, rfl, rfl⟩
  induction bytes generalizing address state with
  | nil => exact same
  | cons b rest ih =>
    simp only [placeBytes, ends_bind, ends_get, ends_set]
    cases state.value.translate address with
    | error fault => exact same
    | ok physical =>
      simp only [ends_settle_ok, Memory.load]
      split
      · have placed : OnlyBytes state (Logged.mk
            { state.value with storage := state.value.storage.modifyMemory fun _ =>
                { state.value.storage.memory with
                  bytes := Memory.store state.value.storage.memory.bytes physical [b] } }
            state.log) := ⟨rfl, by simp, by simp⟩
        exact (ih (address + 1) _ ⟨rfl, rfl, rfl⟩).mono (fun _ _ later => placed.trans later)
          fun _ _ later => placed.trans later
      · exact same

/-! ### Preparing two address spaces -/

/-- A relation that lasts while address spaces are prepared: the pages are the same, and more of
them may be mapped and bytes be put into physical memory on both sides. -/
structure Lasts (spaces : AddressSpace → AddressSpace → Prop) : Prop where
  pages : ∀ {space twin}, spaces space twin → space.pages = twin.pages
  sound : ∀ {space twin}, spaces space twin → space.pages.Sound
  mapped : ∀ {space twin table}, spaces space twin → space.pages.Grown table →
    spaces { space with pages := table } { twin with pages := table }
  loaded : ∀ {space twin}, spaces space twin → ∀ physical bytes,
    SameEnd (fun memory memory' =>
        spaces { space with storage := space.storage.modifyMemory fun _ => memory }
          { twin with storage := twin.storage.modifyMemory fun _ => memory' })
      (space.storage.memory.load physical bytes) (twin.storage.memory.load physical bytes)

namespace Lasts

variable {spaces : AddressSpace → AddressSpace → Prop}

theorem mapping (lasts : Lasts spaces) {mapping : PageTable.Mapping Unit}
    (parallel : Parallel Eq (Logged.Related Eq) mapping mapping)
    (grows : ∀ table : Logged PageTable, table.value.Sound →
      Ends mapping table (fun _ next => table.value.Grown next.value) fun _ next =>
      table.value.Grown next.value) :
    Parallel Eq (Logged.Related spaces) (pageTable.act mapping) (pageTable.act mapping) := by
  intro state state' related
  refine ((parallel (pageTable.get state) (pageTable.get state') (lasts.pages related)).and_ends
    (grows _ (lasts.sound related))).act fun next next' same => ?_
  obtain ⟨same, grown⟩ := same
  have tables : next.value = next'.value := same
  simp only [Logged.Related, pageTable, ← tables]
  exact lasts.mapped related grown

theorem placeBytes (lasts : Lasts spaces) (address : Nat) (bytes : Bytes) :
    Parallel Eq (Logged.Related spaces) (placeBytes address bytes)
      (AddressSpace.placeBytes address bytes) := by
  induction bytes generalizing address with
  | nil => exact parallel_pure rfl
  | cons b rest ih =>
    refine parallel_get.bind fun state state' related => ?_
    rw [translate, translate, lasts.pages related]
    refine (parallel_settle (.refl _)).bind fun physical _ same => same ▸ ?_
    refine (parallel_settle (lasts.loaded related physical [b])).bind fun _ _ placed => ?_
    exact Parallel.bind (parallel_set placed) fun _ _ _ => ih _

/-- A program is put into related address spaces alike. -/
theorem loadImage (lasts : Lasts spaces) (address : Nat) (bytes : Bytes) (length : Nat) :
    Parallel Eq (Logged.Related spaces) (loadImage address bytes length)
      (AddressSpace.loadImage address bytes length) := by
  refine Parallel.bind
    (lasts.mapping (PageTable.mapRange_parallel address length) fun _ sound => ?_)
    fun _ _ _ => lasts.placeBytes address bytes
  exact (PageTable.mapRange_ends sound).mono (fun _ _ mapped => mapped.1) fun _ _ grown => grown

/-- The stack is mapped alike in related address spaces. -/
theorem mapStack (lasts : Lasts spaces) :
    Parallel Eq (Logged.Related spaces) mapStack AddressSpace.mapStack :=
  lasts.mapping (PageTable.mapPages_parallel _ _) fun _ sound =>
    (PageTable.mapPages_ends sound).mono (fun _ _ mapped => mapped.1) fun _ _ grown => grown

end Lasts

/-- Twins stay twins while they are prepared. -/
theorem lasts_twins : Lasts Twins where
  pages twins := twins.pages
  sound twins := twins.unused.pages
  mapped twins grown := twins.mapped grown
  loaded {space twin} twins physical bytes := by
    -- both memories have room for the bytes or neither
    have holds : space.storage.memory.holds physical bytes.length =
        twin.storage.memory.holds physical bytes.length := by
      rw [Memory.holds, Memory.holds, twins.unused.memory, twins.unused'.memory, twins.pages]
    rw [Memory.load, Memory.load, holds]
    split
    · refine .ok (twins.modifyMemory _ _ rfl rfl ?_)
      exact congrArg (Memory.store · physical bytes) twins.bytes
    · exact .error _

/-! ### Fresh address spaces -/

theorem fresh_of_freshCache {settings : Settings} {level : CacheLevel} {cache : Cache Unit}
    (made : freshCache settings level = .ok cache) :
    cache.Fresh ∧ cache.policy = Policy.plain Unit := by
  refine ⟨⟨_, _, made⟩, ?_⟩
  obtain ⟨-, -, -, rfl⟩ := Cache.configure_eq_ok_iff.mp made
  rfl

/-- The parts of the fresh address space of a machine. -/
theorem ofSettings_eq_ok_iff {settings : Settings} :
    ofSettings settings = .ok space ↔ ∃ l1 l2 llc, freshCache settings .l1 = .ok l1 ∧
      freshCache settings .l2 = .ok l2 ∧ freshCache settings .llc = .ok llc ∧
      { storage := .level l1 (.level l2 (.level llc (.ground (freshMemory settings)))) :
        AddressSpace } = space := by
  simp only [ofSettings, bind_eq_ok_iff, pure_eq_ok, Except.ok.injEq]
  constructor
  · rintro ⟨l1, made1, l2, made2, llc, made3, eq⟩
    exact ⟨l1, l2, llc, made1, made2, made3, eq⟩
  · rintro ⟨l1, l2, llc, made1, made2, made3, eq⟩
    exact ⟨l1, made1, l2, made2, llc, made3, eq⟩

/-- The fresh address space of a machine has not been used. -/
theorem unused_of_ofSettings {settings : Settings} (made : ofSettings settings = .ok space) :
    space.Unused := by
  obtain ⟨l1, l2, llc, made1, made2, made3, rfl⟩ := ofSettings_eq_ok_iff.mp made
  have each : ∀ cache ∈ [l1, l2, llc], cache.Fresh ∧ cache.policy = Policy.plain Unit := by
    simp only [List.forall_mem_cons, List.not_mem_nil, false_implies, implies_true, and_true]
    exact ⟨fresh_of_freshCache made1, fresh_of_freshCache made2, fresh_of_freshCache made3⟩
  exact ⟨PageTable.sound_empty 1024, fun cache member => (each cache member).1,
    fun cache member => (each cache member).2, Nat.mul_comm pageSize 1024⟩

/-- Fresh address spaces are twins, whatever the settings. -/
theorem twins_of_ofSettings {settings settings' : Settings} (made : ofSettings settings = .ok space)
    (made' : ofSettings settings' = .ok twin) : space.Twins twin := by
  have unused := unused_of_ofSettings made
  have unused' := unused_of_ofSettings made'
  obtain ⟨_, _, _, _, _, _, rfl⟩ := ofSettings_eq_ok_iff.mp made
  obtain ⟨_, _, _, _, _, _, rfl⟩ := ofSettings_eq_ok_iff.mp made'
  exact ⟨unused, unused', rfl, rfl⟩

end AddressSpace

end FiveStage
