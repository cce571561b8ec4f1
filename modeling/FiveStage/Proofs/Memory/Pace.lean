import FiveStage.Proofs.Cache.Likeness
import FiveStage.Proofs.Memory.Loading

/-!
# Address spaces that keep ahead

Of two address spaces that differ only in their latencies, the one with the smaller latencies gives
the same bytes, in no more cycles. It has counted the same at every level, and has spent no more
time there.

## Main definitions

* `Likeness.paces`: the same bytes, and no later times
* `AddressSpace.Outpaces`: the same pages and like storages
* `Settings.Outpaces`: the same geometries, and no greater latencies

## Main results

* `AddressSpace.read_outpaces`, `AddressSpace.write_outpaces`: numbers are read and written ahead
* `AddressSpace.outpaces_of_ofSettings`: fresh address spaces
-/

namespace FiveStage

/-- The same bytes, and no later times. -/
def Likeness.paces : Likeness where
  bytes := Eq
  time := (· ≤ ·)
  bytes_refl _ := rfl
  time_refl := Nat.le_refl
  time_add := Nat.add_le_add

theorem Likeness.eq_of_paces {bytes bytes' : Bytes} (same : paces.strings bytes bytes') :
    bytes = bytes' := by
  induction same with
  | nil => rfl
  | cons head _ ih => exact congrArg₂ List.cons head ih

theorem Reply.Alike.getD_delivered {reply twin : Reply} (same : reply.Alike .paces twin) :
    reply.delivered.getD [] = twin.delivered.getD [] := by
  have delivered := same.delivered
  generalize reply.delivered = found, twin.delivered = found' at delivered ⊢
  cases delivered with
  | some bytes => exact Likeness.eq_of_paces bytes
  | none => rfl

/-- The same value, for no more cycles. -/
inductive Sooner {α : Type} : α × Nat → α × Nat → Prop
  | intro (value : α) {cycles cycles' : Nat} (fewer : cycles ≤ cycles') :
    Sooner (value, cycles) (value, cycles')

namespace AddressSpace

/-- The same pages, and storages that are alike but for their latencies. -/
structure Outpaces (space twin : AddressSpace) : Prop where
  pages : space.pages = twin.pages
  sound : space.pages.Sound
  storage : space.storage.Alike .paces twin.storage

/-- Uses of address spaces that keep the first one ahead. -/
abbrev Paced {α β : Type} (results : α → β → Prop) (use : Use α) (twin : Use β) : Prop :=
  Parallel results (Logged.Related Outpaces) use twin

variable {space twin : AddressSpace}

/-! ### Requests -/

theorem Outpaces.translate_eq (ahead : space.Outpaces twin) (address : Nat) :
    space.translate address = twin.translate address := by
  rw [translate, translate, ahead.pages]

theorem request_outpaces (physical : Request) :
    Paced (fun served served' => served.1.Alike .paces served'.1 ∧ served.2 = served'.2)
      (request physical) (request physical) := by
  refine parallel_get.bind fun state twin ahead => ?_
  obtain ⟨replies, storage⟩ := Chain.serve_alike 3 physical physical state.value.storage
    twin.value.storage (.refl physical) ahead.storage
  refine Parallel.bind (parallel_set ⟨ahead.pages, ahead.sound, storage⟩) fun _ _ _ => ?_
  refine (parallel_settle replies.outcome).bind fun access access' accesses => ?_
  exact parallel_pure ⟨accesses, replies.getD_delivered⟩

theorem readBytes_outpaces (address length : Nat) :
    Paced (fun served served' => served.1.Alike .paces served'.1 ∧ served.2 = served'.2)
      (readBytes address length) (readBytes address length) := by
  refine parallel_get.bind fun state twin ahead => ?_
  rw [ahead.translate_eq]
  refine (parallel_settle (.refl _)).bind fun physical physical' same => ?_
  rw [← same]
  exact request_outpaces _

theorem writeBytes_outpaces (address : Nat) (bytes : Bytes) :
    Paced (Access.Alike .paces) (writeBytes address bytes) (writeBytes address bytes) := by
  refine parallel_get.bind fun state twin ahead => ?_
  rw [ahead.translate_eq]
  refine (parallel_settle (.refl _)).bind fun physical physical' same => ?_
  rw [← same]
  exact (request_outpaces _).bind fun _ _ served => parallel_pure served.1

theorem checkSize_outpaces (address size : Nat) :
    Paced Eq (checkSize address size) (checkSize address size) :=
  .ite Iff.rfl (parallel_throw _) (parallel_pure rfl)

/-- The same number is read, in no more cycles. -/
theorem read_outpaces (address size : Nat) :
    Paced Sooner (read address size) (read address size) := by
  refine (checkSize_outpaces address size).bind fun _ _ _ => ?_
  refine (readBytes_outpaces address size).bind fun served served' same => ?_
  obtain ⟨access, bytes⟩ := served
  obtain ⟨access', bytes'⟩ := served'
  obtain ⟨accesses, rfl⟩ : access.Alike .paces access' ∧ bytes = bytes' := same
  exact parallel_pure (.intro _ accesses.total)

/-- A number is written in no more cycles. -/
theorem write_outpaces (address : Nat) (value : Word) (size : Nat) :
    Paced (· ≤ ·) (write address value size) (write address value size) := by
  refine (checkSize_outpaces address size).bind fun _ _ _ => ?_
  exact (writeBytes_outpaces address _).bind fun _ _ accesses => parallel_pure accesses.total

/-- The first address space stays ahead while both are prepared. -/
theorem lasts_outpaces : Lasts Outpaces where
  pages ahead := ahead.pages
  sound ahead := ahead.sound
  mapped ahead grown := ⟨rfl, grown.sound, ahead.storage⟩
  loaded {space twin} ahead physical bytes := by
    have loads := ahead.storage.memory.load physical bytes
    generalize space.storage.memory.load physical bytes = result,
      twin.storage.memory.load physical bytes = result' at loads ⊢
    cases loads with
    | ok memories => exact .ok ⟨ahead.pages, ahead.sound, ahead.storage.withMemory memories⟩
    | error fault => exact .error fault

end AddressSpace

/-! ### Fresh address spaces -/

/-- The same geometries, and no greater latencies and ticks. -/
structure Settings.Outpaces (settings twin : Settings) : Prop where
  geometry : ∀ level, (settings.levels level).geometry = (twin.levels level).geometry
  latency : ∀ level, (settings.levels level).latency.Alike .paces (twin.levels level).latency
  memoryLatency : settings.memoryLatency.Alike .paces twin.memoryLatency
  ticks : ∀ m, settings.ticks m ≤ twin.ticks m

namespace AddressSpace

variable {settings settings' : Settings}

theorem alike_of_freshCache (ahead : settings.Outpaces settings') {level : CacheLevel}
    {cache cache' : Cache Unit} (made : freshCache settings level = .ok cache)
    (made' : freshCache settings' level = .ok cache') : cache.Alike .paces cache' := by
  obtain ⟨-, -, -, rfl⟩ := Cache.configure_eq_ok_iff.mp made
  obtain ⟨-, -, -, rfl⟩ := Cache.configure_eq_ok_iff.mp made'
  have geometry := ahead.geometry level
  refine ⟨geometry, rfl, rfl, ?_, fun i => ?_, ahead.latency level, rfl, Nat.le_refl 0⟩
  · simp only [geometry]
  · simp only [Cache.line, geometry]
    exact .refl _

/-- Fresh address spaces are as their settings are. -/
theorem outpaces_of_ofSettings {space twin : AddressSpace} (ahead : settings.Outpaces settings')
    (made : ofSettings settings = .ok space) (made' : ofSettings settings' = .ok twin) :
    space.Outpaces twin := by
  obtain ⟨l1, l2, llc, made1, made2, made3, rfl⟩ := ofSettings_eq_ok_iff.mp made
  obtain ⟨l1', l2', llc', made1', made2', made3', rfl⟩ := ofSettings_eq_ok_iff.mp made'
  have memories : (freshMemory settings).Alike .paces (freshMemory settings') :=
    ⟨rfl, fun _ => rfl, ahead.memoryLatency, rfl, Nat.le_refl 0⟩
  exact ⟨rfl, PageTable.sound_empty 1024, alike_of_freshCache ahead made1 made1',
    alike_of_freshCache ahead made2 made2', alike_of_freshCache ahead made3 made3', memories⟩

end AddressSpace

end FiveStage
