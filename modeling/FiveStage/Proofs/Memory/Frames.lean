import FiveStage.Proofs.Memory.Pages
import Mathlib.Data.Finset.Sort
import Mathlib.Order.Interval.Finset.Nat

/-!
# Frames go to pages in order

Whatever pages and ranges were asked for, successfully or not, the frames that are in use are the
first ones, as many as there are mapped pages, and each of them belongs to one page. A range of
addresses can be mapped exactly if there are frames for all of its pages that are missing. If there
are too few, its lowest missing pages get them.

## Main definitions

* `MapCall`, `PageTable.afterCalls`: calls that map pages, and what they leave
* `PageTable.InStep`, `PageTable.MapsInOrder`: the map of pages and the frames in use agree, and
  ranges are mapped in ascending order
* `PageTable.overlapped`, `PageTable.missingIn`: the pages of a range of addresses, and those of
  them that are not mapped

## Main results

* `PageTable.mapRange_adds`: which pages a range adds
* `PageTable.orderly_afterCalls`: what is true of a page table at any time
-/

namespace FiveStage

open PageTable

/-- A call that maps pages. -/
inductive MapCall
  | page (address : Nat)
  | range (address length : Nat)

/-- Carries out a call. -/
def MapCall.carryOut : MapCall → Mapping Unit
  | page address => discard (mapPage address)
  | range address length => mapRange address length

/-- What a call leaves, whether it fails or not. -/
def MapCall.leave (state : Logged PageTable) (call : MapCall) : Logged PageTable :=
  match call.carryOut.run state with
  | .ok _ next => next
  | .error _ next => next

namespace PageTable

variable {table next : PageTable} {address length page : Nat} {state : Logged PageTable}

/-- What calls leave that are made one after the other, whether they fail or not. -/
def afterCalls (calls : List MapCall) (state : Logged PageTable) : Logged PageTable :=
  calls.foldl MapCall.leave state

/-! ### The pages of a range -/

/-- The pages that share a byte with the `length` bytes from an address on. -/
def overlapped (address length : Nat) : Finset Nat :=
  (Finset.Ico address (address + length)).image pageOf

/-- The pages of a range that are not mapped, in ascending order. -/
def missingIn (table : PageTable) (address length : Nat) : List Nat :=
  ((overlapped address length).filter fun page => table.mapping[page]? = none).sort (· ≤ ·)

theorem mem_missingIn_iff : page ∈ table.missingIn address length ↔
    page ∈ overlapped address length ∧ table.mapping[page]? = none := by
  rw [missingIn, Finset.mem_sort, Finset.mem_filter]

/-- The pages of a range are those from its first to its last byte. -/
theorem mem_overlapped_iff (nonempty : length ≠ 0) : page ∈ overlapped address length ↔
    pageOf address ≤ page ∧ page ≤ pageOf (address + length - 1) := by
  simp only [overlapped, Finset.mem_image, Finset.mem_Ico]
  constructor
  · rintro ⟨byte, ⟨low, high⟩, rfl⟩
    exact ⟨Nat.div_le_div_right low, Nat.div_le_div_right (by omega)⟩
  · rintro ⟨low, high⟩
    -- the first byte of the page is in the range, or the range begins inside the page
    refine ⟨max address (page * pageSize), ?_, ?_⟩
    · simp only [pageOf, pageSize] at *
      omega
    · simp only [pageOf, pageSize] at *
      omega

/-- The pages that are missing in a range are those missing in a stretch of pages. -/
theorem missingIn_eq (table : PageTable) (nonempty : length ≠ 0) : table.missingIn address length =
    table.missing (pageOf address) (pageOf (address + length - 1) + 1 - pageOf address) := by
  set stretch := table.missing (pageOf address) (pageOf (address + length - 1) + 1 - pageOf address)
  have same : ((overlapped address length).filter fun page => table.mapping[page]? = none) =
      stretch.toFinset := by
    ext page
    rw [Finset.mem_filter, mem_overlapped_iff nonempty, List.mem_toFinset, mem_missing_iff]
    have order : pageOf address ≤ pageOf (address + length - 1) :=
      Nat.div_le_div_right (by omega)
    constructor
    · rintro ⟨inside, absent⟩
      exact ⟨by omega, absent⟩
    · rintro ⟨inside, absent⟩
      exact ⟨by omega, absent⟩
  have nodup : stretch.Nodup := (List.nodup_range').filter _
  have ascending : stretch.Pairwise (· ≤ ·) :=
    ((List.pairwise_lt_range').filter _).imp Nat.le_of_lt
  rw [missingIn, same]
  exact (List.toFinset_sort _ nodup).mpr ascending

/-- Of a range of addresses the missing pages are added. If there are too few frames for them, the
lowest ones get the frames that are left, and the failure names the next one. -/
theorem mapRange_adds (sound : state.value.Sound) :
    let missing := state.value.missingIn address length
    let free := state.value.free
    Ends (mapRange address length) state
      (fun _ next => state.value.Adds missing next.value)
      (fun fault next => ∃ first, missing[free]? = some first ∧
        fault = .outOfFrames (first * pageSize) ∧
        state.value.Adds (missing.take free) next.value) := by
  intro missing free
  rw [mapRange]
  split
  · next empty =>
    have nothing : missing = [] := by
      simp only [missing, missingIn, overlapped, empty, Nat.add_zero, Finset.Ico_self,
        Finset.image_empty, Finset.filter_empty, Finset.sort_empty]
    rw [ends_pure, nothing]
    exact sound.addsNone
  · next nonempty =>
    simp only [missing, missingIn_eq _ nonempty]
    exact mapPages_adds sound

/-! ### At any time -/

/-- The map of pages and the list of frames in use agree, and translations are as they should be. -/
structure InStep (frames : Nat) (table : PageTable) : Prop where
  injective : ∀ page page' frame : Nat, table.mapping[page]? = some frame →
    table.mapping[page']? = some frame → page = page'
  owned : ∀ frame : Nat, (∃ page : Nat, table.mapping[page]? = some frame) ↔
    frame < table.mappedPages
  marked : ∀ frame : Nat, table.inUse[frame]? = some true ↔ frame < table.mappedPages
  counted : table.inUse.length = frames ∧ table.mappedPages ≤ frames
  distinct : ∀ address other physical : Nat, table.translate address = .ok physical →
    table.translate other = .ok physical → address = other
  offset : ∀ address physical : Nat, table.translate address = .ok physical →
    pageOffset physical = pageOffset address
  inside : ∀ address physical : Nat, table.translate address = .ok physical →
    physical < frames * pageSize

/-- A range is mapped exactly if there are frames for all of its missing pages, and then these pages
are added. Otherwise all frames are in use afterwards: the lowest missing pages got those that were
left, in ascending order. -/
def MapsInOrder (frames : Nat) (state : Logged PageTable) (address length : Nat) : Prop :=
  let missing := state.value.missingIn address length
  let free := frames - state.value.mappedPages
  Ends (mapRange address length) state
    (fun _ next => missing.length ≤ free ∧ state.value.Adds missing next.value ∧
      ∀ page : Nat, page ∈ next.value.mapping ↔
        page ∈ state.value.mapping ∨ page ∈ overlapped address length)
    (fun fault next => free < missing.length ∧
      (∃ first, missing[free]? = some first ∧ fault = .outOfFrames (first * pageSize)) ∧
      next.value.inUse = List.replicate frames true ∧ next.value.mappedPages = frames ∧
      state.value.Adds (missing.take free) next.value)

/-- What is true of a page table of the given size at any time, also of what comes later. -/
structure Orderly (frames : Nat) (state : Logged PageTable) : Prop where
  inStep : state.value.InStep frames
  lasting : ∀ (calls : List MapCall) (address physical : Nat),
    state.value.translate address = .ok physical →
      (afterCalls calls state).value.translate address = .ok physical
  ranges : ∀ address length : Nat, MapsInOrder frames state address length

/-- The frames in use are the first ones. -/
theorem Sound.getElem?_inUse_iff (sound : table.Sound) {frame : Nat} :
    table.inUse[frame]? = some true ↔ frame < table.mappedPages := by
  rw [sound.marked, List.getElem?_append, List.length_replicate, List.getElem?_replicate,
    List.getElem?_replicate, mappedPages]
  split
  · next below => simp [below]
  · next beyond =>
    simp only [beyond, iff_false]
    split <;> simp

theorem Sound.length_inUse (sound : table.Sound) : table.inUse.length = table.frames := by
  have enough := sound.enough
  rw [sound.marked, List.length_append, List.length_replicate, List.length_replicate]
  omega

theorem Sound.inStep (sound : table.Sound) : table.InStep table.frames where
  injective := sound.injective
  owned frame := by
    constructor
    · rintro ⟨page, mapped⟩
      exact sound.used page frame mapped
    · exact sound.onto frame
  marked _ := sound.getElem?_inUse_iff
  counted := ⟨sound.length_inUse, sound.enough⟩
  distinct _ _ _ := sound.translate_inj
  offset address physical here := by
    obtain ⟨frame, -, place⟩ := translate_eq_ok_iff.mp here
    rw [← place, pageOffset, Nat.mul_comm, Nat.mul_add_mod]
    exact Nat.mod_mod _ _
  inside _ _ := sound.translate_lt

/-- Once as many pages are mapped as there are frames, all frames are in use. -/
theorem Sound.inUse_of_full (sound : table.Sound) (full : table.mappedPages = table.frames) :
    table.inUse = List.replicate table.frames true := by
  have marked := sound.marked
  rwa [show table.mapping.size = table.frames from full, Nat.sub_self, List.replicate_zero,
    List.append_nil] at marked

/-- Adding the missing pages of a range maps the range, and nothing else. -/
theorem Adds.mem_mapping_iff (adds : table.Adds (table.missingIn address length) next) :
    page ∈ next.mapping ↔ page ∈ table.mapping ∨ page ∈ overlapped address length := by
  simp only [Std.TreeMap.mem_iff_isSome_getElem?]
  constructor
  · intro mapped
    obtain ⟨frame, mapped⟩ := Option.isSome_iff_exists.mp mapped
    rcases adds.only page frame mapped with before | added
    · exact .inl (Option.isSome_of_eq_some before)
    · exact .inr (mem_missingIn_iff.mp added).1
  · intro mapped
    cases before : table.mapping[page]? with
    | some frame => exact Option.isSome_of_eq_some (adds.kept page frame before)
    | none =>
      rcases mapped with mapped | member
      · simp [before] at mapped
      · exact adds.isSome (mem_missingIn_iff.mpr ⟨member, before⟩)

theorem mapsInOrder_of_sound (sound : state.value.Sound) (address length : Nat) :
    MapsInOrder state.value.frames state address length := by
  refine (mapRange_adds sound).mono (fun _ next adds => ?_) fun fault next refused => ?_
  · -- the pages that were added have frames of their own, so there were enough of them
    have enough := adds.sound.enough
    have size := adds.size
    rw [adds.frames] at enough
    simp only [mappedPages] at *
    exact ⟨by omega, adds, fun page => adds.mem_mapping_iff⟩
  · obtain ⟨first, found, named, adds⟩ := refused
    have few : state.value.free < _ := (List.getElem?_eq_some_iff.mp found).1
    have size := adds.size
    rw [List.length_take_of_le (Nat.le_of_lt few)] at size
    have full : next.value.mappedPages = state.value.frames := by
      have enough := sound.enough
      simp only [free, mappedPages] at *
      omega
    refine ⟨few, ⟨first, found, named⟩, ?_, full, adds⟩
    rw [← adds.frames] at full ⊢
    exact adds.sound.inUse_of_full full

/-- A call leaves a sound table that has kept its mappings, whether it fails or not. -/
theorem grown_leave (sound : state.value.Sound) (call : MapCall) :
    state.value.Grown (call.leave state).value := by
  have ends : Ends call.carryOut state (fun _ next => state.value.Grown next.value)
      fun _ next => state.value.Grown next.value := by
    cases call with
    | page address =>
      refine ends_discard.mpr ?_
      exact (mapPage_ends sound).mono (fun _ _ mapped => mapped.1) fun _ _ grown => grown
    | range address length =>
      exact (mapRange_ends sound).mono (fun _ _ mapped => mapped.1) fun _ _ grown => grown
  unfold MapCall.leave
  cases run : call.carryOut.run state with
  | ok _ next => exact ends.of_ok run
  | error _ next => exact ends.of_error run

theorem grown_afterCalls (sound : state.value.Sound) (calls : List MapCall) :
    state.value.Grown (afterCalls calls state).value := by
  induction calls generalizing state with
  | nil => exact sound.grown
  | cons call rest ih =>
    have grown := grown_leave sound call
    exact grown.trans (ih grown.sound)

/-- Page tables are orderly: whatever pages and ranges were asked for, the map of pages and the
frames in use are in step, translations last, and ranges get frames in ascending order. -/
theorem orderly_afterCalls (frames : Nat) (log : Log) (calls : List MapCall) :
    Orderly frames (afterCalls calls ⟨{ frames }, log⟩) := by
  have empty : (Logged.mk { frames : PageTable } log).value.Sound := sound_empty frames
  have grown := grown_afterCalls empty calls
  have sound := grown.sound
  have same : (afterCalls calls ⟨{ frames }, log⟩).value.frames = frames := grown.frames
  constructor
  · have inStep := sound.inStep
    rwa [same] at inStep
  · intro more address physical here
    exact (grown_afterCalls sound more).translate here
  · intro address length
    have inOrder := mapsInOrder_of_sound sound address length
    rwa [same] at inOrder

-- the range lacks pages 4, 6 and 7, and there are two frames left
example :
    let state := afterCalls [.page 0x5000, .range 0x4ffc 0x2008] ⟨{ frames := 3 }, {}⟩
    state.value.mapping.toList = [(4, 1), (5, 0), (6, 2)] ∧
      state.value.inUse = [true, true, true] := by
  decide +kernel

end PageTable

end FiveStage
