import FiveStage.Executable.Loading
import FiveStage.Proofs.Memory.ByteMap
import FiveStage.Proofs.Memory.Frames
import FiveStage.Proofs.Platform.Simulation
import Mathlib.Data.Finset.Union
import Mathlib.Data.List.Induction

/-!
# A program is in memory as it is in the file

Segments begin and end anywhere in their pages, and may share them. Each byte of a segment is put at
the translation of its own address, and nothing is put where the file has no byte: such places are
zero because frames are handed out once and memory is zero at first. So after loading into a fresh
address space every address of a mapped page shows what the segments say.

Loading fails for three reasons only: a segment whose addresses do not fit into a word, one whose
bytes are not all in the file, and too few frames for the pages of all segments together. Pages are
mapped segment by segment, so the third one is a sum over segments that may share pages.

## Main definitions

* `Executable.Loadable`: why an executable can be loaded
* `Executable.pagesOf`, `Executable.contentsOf`: the pages and the bytes of segments
* `AddressSpace.Gives`: a byte that is seen both in physical memory and through the caches
* `Executable.IsIn`: memory is as the executable says

## Main results

* `Platform.loadSegments_ends`: what is in memory after some segments were loaded
* `Platform.loadExecutable_ends`: when an executable is loaded, and what is in memory then
-/

namespace FiveStage

open PageTable (overlapped missingIn)

namespace AddressSpace

variable {state next : Logged AddressSpace} {contents : Contents} {address length : Nat}
  {bytes : Bytes}

/-! ### Single bytes -/

/-- What is left after reads that are made one after the other, each with an address and a size,
whether they fail or not. -/
def afterReads (reads : List (Nat × Nat)) (state : Logged AddressSpace) : Logged AddressSpace :=
  reads.foldl (fun state asked => leftBy (read asked.1 asked.2) state) state

/-- A byte is at an address: it is in physical memory, and it is what a program reads there, also
after other reads. -/
structure Gives (state : Logged AddressSpace) (address : Nat) (b : UInt8) : Prop where
  peek : state.value.peek address 1 = .ok [b]
  read (earlier : List (Nat × Nat)) :
    Ends (AddressSpace.read address 1) (afterReads earlier state)
      (fun result _ => result.1 = BitVec.ofNat 64 b.toNat) fun _ _ => False

theorem unchanged_afterReads (sound : state.value.Sound) (reads : List (Nat × Nat)) :
    Unchanged state (afterReads reads state) := by
  induction reads generalizing state with
  | nil => exact ⟨sound, rfl, rfl⟩
  | cons asked rest ih =>
    have first : Unchanged state (leftBy (AddressSpace.read asked.1 asked.2) state) := by
      apply Ends.leftBy
      exact (read_ends sound asked.1 asked.2).mono (fun _ _ given => given.1)
        fun _ _ failed => failed.1
    have later := ih first.sound
    exact ⟨later.sound, later.pages.trans first.pages, later.view.trans first.view⟩

/-- Before the caches are used, what is seen is in physical memory. -/
theorem Unused.gives (unused : state.value.Unused) (seen : state.value.Shows contents)
    (mapped : state.value.pages.isMapped address = true) :
    Gives state address (contents address) where
  peek := by
    obtain ⟨physical, here, holds⟩ := exists_place unused.pages unused.memory mapped
    have byte : contents address = state.value.storage.memory.byteAt physical := by
      rw [← seen.bytes, flat_bytes_of_translate here, unused.coherent.2]
    rw [AddressSpace.peek, translate, here, byte]
    simp [Memory.peek, holds, Memory.bytesAt, AddressSpace.peek]
  read earlier := by
    have unchanged := unchanged_afterReads seen.sound earlier
    exact (seen.unchanged unchanged).read_byte (unchanged.pages ▸ mapped)

/-! ### Images -/

/-- An image is loaded exactly if there are frames for the pages that it is missing. -/
theorem loadImage_adds (unused : state.value.Unused) (seen : state.value.Shows contents)
    (fits : bytes.length ≤ length) :
    let missing := state.value.pages.missingIn address length
    let free := state.value.pages.frames - state.value.pages.mappedPages
    Ends (loadImage address bytes length) state
      (fun _ next => missing.length ≤ free ∧ state.value.pages.Adds missing next.value.pages ∧
        next.value.Unused ∧ next.value.Shows (contents.write address bytes) ∧
        ∀ depth, next.value.storage.statisticsAt depth = state.value.storage.statisticsAt depth)
      fun _ _ => free < missing.length := by
  intro missing free
  have mapping : Ends (PageTable.mapRange address length) (pageTable.get state) _ _ :=
    (PageTable.mapsInOrder_of_sound unused.pages address length).and
      (PageTable.mapRange_ends unused.pages)
  simp only [loadImage, ends_bind, ends_act]
  refine mapping.mono (fun _ table given => ?_) fun _ _ refused => refused.1.1
  obtain ⟨⟨enough, adds, -⟩, grown, mapped⟩ := given
  have placing : Ends (placeBytes address bytes) (pageTable.put table state) _ _ :=
    placeBytes_ends (unused.mapped grown) (seen.mapped grown) fun a from_start below =>
      mapped a from_start (by omega)
  refine (placing.and (placeBytes_onlyBytes address bytes _)).mono (fun _ next placed => ?_)
    fun _ _ none => none.1.elim
  obtain ⟨⟨unused', seen'⟩, only⟩ := placed
  exact ⟨enough, only.pages ▸ adds, unused', seen', only.statisticsAt⟩

end AddressSpace

/-! ### The segments of an executable -/

/-- The addresses of a segment. -/
def Segment.range (segment : Segment) : Finset Nat :=
  Finset.Ico segment.address (segment.address + segment.extent)

namespace Executable

variable {executable : Executable} {segment : Segment} {segments done rest : List Segment}
  {a i : Nat}

/-- The addresses of a segment are words, and its bytes are in the file. -/
structure Fits (executable : Executable) (segment : Segment) : Prop where
  addresses : segment.address + segment.extent < 2 ^ 64
  bytes : segment.offset + segment.fileSize ≤ executable.file.length

instance : Decidable (executable.Fits segment) :=
  decidable_of_iff (segment.address + segment.extent < 2 ^ 64 ∧
      segment.offset + segment.fileSize ≤ executable.file.length)
    ⟨fun fits => ⟨fits.1, fits.2⟩, fun fits => ⟨fits.addresses, fits.bytes⟩⟩

/-- The pages that share an address with a segment. -/
def pagesOf (segments : List Segment) : Finset Nat :=
  segments.toFinset.biUnion fun segment => overlapped segment.address segment.extent

/-- All segments fit, and there are frames for their pages. -/
structure Loadable (executable : Executable) : Prop where
  fits : ∀ segment ∈ executable.segments, executable.Fits segment
  frames : (pagesOf executable.segments).card ≤ 1024

instance : Decidable executable.Loadable :=
  decidable_of_iff ((∀ segment ∈ executable.segments, executable.Fits segment) ∧
      (pagesOf executable.segments).card ≤ 1024)
    ⟨fun all => ⟨all.1, all.2⟩, fun loadable => ⟨loadable.fits, loadable.frames⟩⟩

/-- No two segments have an address in common. -/
def Apart (executable : Executable) : Prop :=
  executable.segments.Pairwise fun segment other => Disjoint segment.range other.range

instance : Decidable executable.Apart :=
  inferInstanceAs (Decidable (executable.segments.Pairwise _))

/-- What is in memory after segments were loaded, one after the other. -/
def contentsOf (executable : Executable) (segments : List Segment) : Contents :=
  segments.foldl (fun contents segment =>
    contents.write segment.address (executable.file.slice segment.offset segment.fileSize))
    fun _ => 0

theorem pagesOf_append (done rest : List Segment) :
    pagesOf (done ++ rest) = pagesOf done ∪ pagesOf rest := by
  rw [pagesOf, List.toFinset_append, Finset.union_biUnion]
  rfl

theorem pagesOf_singleton : pagesOf [segment] = overlapped segment.address segment.extent := by
  simp [pagesOf]

theorem contentsOf_concat : executable.contentsOf (done ++ [segment]) =
    (executable.contentsOf done).write segment.address
      (executable.file.slice segment.offset segment.fileSize) := by
  simp [contentsOf]

/-- Where no segment has a byte of the file there is zero. -/
theorem contentsOf_of_outside (outside : ∀ segment ∈ segments,
    a < segment.address ∨ segment.address + segment.fileSize ≤ a) :
    executable.contentsOf segments a = 0 := by
  induction segments using List.reverseRecOn with
  | nil => rfl
  | append_singleton done segment ih =>
    have short : (executable.file.slice segment.offset segment.fileSize).length ≤
        segment.fileSize := by simp [Bytes.slice]
    have here := outside segment (by simp)
    rw [contentsOf_concat, Contents.write_of_outside (by omega)]
    exact ih fun other member => outside other (by simp [member])

/-- A segment has its bytes in memory, whatever was loaded before or after it elsewhere. -/
theorem contentsOf_of_mem
    (apart : segments.Pairwise fun segment other => Disjoint segment.range other.range)
    (fits : ∀ segment ∈ segments, executable.Fits segment) (member : segment ∈ segments)
    (inside : i < segment.fileSize) :
    executable.file[segment.offset + i]? =
      some (executable.contentsOf segments (segment.address + i)) := by
  induction segments using List.reverseRecOn with
  | nil => cases member
  | append_singleton done last ih =>
    have firsts := (List.pairwise_append.mp apart).1
    have others := (List.pairwise_append.mp apart).2.2
    have short : (executable.file.slice last.offset last.fileSize).length = last.fileSize :=
      Bytes.length_slice (fits last (by simp)).bytes
    rw [contentsOf_concat]
    rcases List.mem_append.mp member with earlier | same
    · have away := Finset.disjoint_left.mp (others segment earlier last (by simp))
      have mine : segment.address + i ∈ segment.range := by
        simp only [Segment.range, Segment.extent, Finset.mem_Ico]
        omega
      have elsewhere := away mine
      simp only [Segment.range, Segment.extent, Finset.mem_Ico] at elsewhere
      rw [Contents.write_of_outside (by omega)]
      exact ih firsts (fun other member => fits other (by simp [member])) earlier
    · obtain rfl := List.mem_singleton.mp same
      have inFile := (fits segment (by simp)).bytes
      rw [Contents.write, if_pos (by omega), Nat.add_sub_cancel_left]
      simp only [Bytes.slice, List.getD_eq_getElem?_getD, List.getElem?_take_of_lt inside,
        List.getElem?_drop]
      rw [List.getElem?_eq_getElem (by omega), Option.getD_some]

/-- A fresh cache has counted nothing. -/
theorem statistics_of_freshCache {settings : Settings} {level : CacheLevel} {cache : Cache Unit}
    (made : AddressSpace.freshCache settings level = .ok cache) : cache.statistics = {} := by
  obtain ⟨-, -, -, rfl⟩ := Cache.configure_eq_ok_iff.mp made
  rfl

/-- Some of the segments are loaded: their pages are mapped, their bytes are in memory, and nothing
was counted. -/
structure Loaded (executable : Executable) (done : List Segment) (space : AddressSpace) : Prop where
  unused : space.Unused
  seen : space.Shows (executable.contentsOf done)
  frames : space.pages.frames = 1024
  mapped : ∀ page, page ∈ space.pages.mapping ↔ page ∈ pagesOf done
  counted : space.pages.mappedPages = (pagesOf done).card
  statistics : ∀ depth, space.storage.statisticsAt depth = {}

namespace Loaded

variable {space next : AddressSpace}

theorem of_ofSettings {settings : Settings} (made : AddressSpace.ofSettings settings = .ok space) :
    Loaded executable [] space := by
  have unused := AddressSpace.unused_of_ofSettings made
  have seen := AddressSpace.shows_of_ofSettings made
  obtain ⟨l1, l2, llc, made1, made2, made3, rfl⟩ := AddressSpace.ofSettings_eq_ok_iff.mp made
  refine ⟨unused, seen, rfl, fun page => ?_, rfl, fun depth => ?_⟩
  · simp [pagesOf]
  · match depth with
    | 0 => exact statistics_of_freshCache made1
    | 1 => exact statistics_of_freshCache made2
    | 2 => exact statistics_of_freshCache made3
    | _ + 3 => rfl

/-- The pages of one more segment are those that were there and those that it was missing. -/
theorem card_pagesOf (loaded : Loaded executable done space) :
    (pagesOf (done ++ [segment])).card = (pagesOf done).card +
      (space.pages.missingIn segment.address segment.extent).length := by
  have absent : (overlapped segment.address segment.extent).filter
      (fun page => space.pages.mapping[page]? = none) =
        overlapped segment.address segment.extent \ pagesOf done := by
    ext page
    rw [Finset.mem_filter, Finset.mem_sdiff, ← loaded.mapped, Std.TreeMap.mem_iff_isSome_getElem?]
    cases space.pages.mapping[page]? <;> simp
  rw [pagesOf_append, pagesOf_singleton, missingIn, Finset.length_sort, absent, Finset.union_comm,
    ← Finset.card_sdiff_add_card, Nat.add_comm]

end Loaded

end Executable

namespace Platform

open Executable

variable {platform : Platform} {executable : Executable} {segment : Segment}
  {done rest : List Segment}

/-- A segment is loaded after others exactly if it fits and there are frames for its pages. -/
theorem loadSegment_ends (loaded : Loaded executable done platform.space) :
    Ends (loadSegment executable segment) platform
      (fun _ next => executable.Fits segment ∧ (pagesOf (done ++ [segment])).card ≤ 1024 ∧
        Loaded executable (done ++ [segment]) next.space)
      fun _ _ => executable.Fits segment → 1024 < (pagesOf (done ++ [segment])).card := by
  have card : (pagesOf (done ++ [segment])).card = _ := loaded.card_pagesOf
  have enough := loaded.unused.pages.enough
  have frames := loaded.frames
  have counted := loaded.counted
  simp only [PageTable.mappedPages] at counted
  simp only [loadSegment, ends_bind, ends_ite, ends_failingAs]
  split
  · next beyond =>
    intro fits
    exact absurd fits.addresses (Nat.not_lt.mpr beyond)
  · next addresses =>
    simp only [bytesOf]
    split
    · next bytes =>
      have fits : executable.Fits segment := ⟨Nat.lt_of_not_le addresses, bytes⟩
      have short : (executable.file.slice segment.offset segment.fileSize).length ≤
          segment.extent := by
        rw [Bytes.length_slice bytes]
        exact Nat.le_max_right _ _
      simp only [ends_settle_ok, ends_report, useSpace, ends_failingAs, ends_act]
      refine (AddressSpace.loadImage_adds loaded.unused loaded.seen short).mono
        (fun _ next given => ?_) fun _ _ few _ => ?_
      · obtain ⟨room, adds, unused, seen, statistics⟩ := given
        simp only [spaceOf, PageTable.mappedPages] at room adds statistics ⊢
        refine ⟨fits, by omega, unused, ?_, adds.frames.trans frames, fun page => ?_, ?_, ?_⟩
        · rw [contentsOf_concat]
          exact seen
        · rw [adds.mem_mapping_iff, loaded.mapped, pagesOf_append, pagesOf_singleton,
            Finset.mem_union]
        · rw [adds.size, card, loaded.counted]
        · exact fun depth => (statistics depth).trans (loaded.statistics depth)
      · simp only [spaceOf, PageTable.mappedPages] at few
        omega
    · next bytes =>
      intro fits
      exact absurd fits.bytes bytes

/-- Segments are loaded after others exactly if all of them fit and there are frames for the pages
of all. -/
theorem loadSegments_ends (rest : List Segment) (loaded : Loaded executable done platform.space) :
    Ends (loadSegments executable rest) platform
      (fun _ next => (∀ segment ∈ rest, executable.Fits segment) ∧
        (pagesOf (done ++ rest)).card ≤ 1024 ∧ Loaded executable (done ++ rest) next.space)
      fun _ _ => (∀ segment ∈ rest, executable.Fits segment) →
        1024 < (pagesOf (done ++ rest)).card := by
  induction rest generalizing done platform with
  | nil =>
    simp only [loadSegments, ends_pure, List.append_nil]
    have enough := loaded.unused.pages.enough
    have counted := loaded.counted
    simp only [PageTable.mappedPages, loaded.frames] at counted enough
    exact ⟨by simp, by omega, loaded⟩
  | cons segment rest ih =>
    have split : done ++ segment :: rest = done ++ [segment] ++ rest := by simp
    simp only [loadSegments, ends_bind, split, List.forall_mem_cons]
    refine (loadSegment_ends loaded).mono (fun _ next first => ?_) fun _ _ failed => ?_
    · obtain ⟨fits, -, loaded'⟩ := first
      refine (ih loaded').mono (fun _ last later => ?_) fun _ _ failed => ?_
      · obtain ⟨others, frames, loaded''⟩ := later
        exact ⟨⟨fits, others⟩, frames, loaded''⟩
      · exact fun all => failed all.2
    · -- the pages of the first segments alone are too many
      intro all
      have few : (pagesOf (done ++ [segment])).card ≤
          (pagesOf (done ++ [segment] ++ rest)).card := by
        apply Finset.card_le_card
        rw [pagesOf_append (done ++ [segment])]
        exact Finset.subset_union_left
      exact Nat.lt_of_lt_of_le (failed all.1) few

end Platform

/-! ### The whole program -/

/-- An executable is in memory: exactly its pages are mapped, every byte is where its segment says,
all other bytes of these pages are zero, and nothing has been counted yet. -/
structure Executable.IsIn (executable : Executable) (state : Logged AddressSpace) : Prop where
  pages : ∀ page, page ∈ state.value.pages.mapping ↔
    ∃ segment ∈ executable.segments, page ∈ overlapped segment.address segment.extent
  bytes : ∀ segment ∈ executable.segments, ∀ i < segment.fileSize,
    ∃ b, executable.file[segment.offset + i]? = some b ∧
      AddressSpace.Gives state (segment.address + i) b
  zeros : ∀ segment ∈ executable.segments, ∀ i, segment.fileSize ≤ i → i < segment.extent →
    AddressSpace.Gives state (segment.address + i) 0
  elsewhere : ∀ a, pageOf a ∈ state.value.pages.mapping →
    (∀ segment ∈ executable.segments, a ∉ segment.range) → AddressSpace.Gives state a 0
  statistics : ∀ depth, state.value.storage.statisticsAt depth = {}

namespace Executable

variable {executable : Executable} {segment : Segment} {segments : List Segment} {a i : Nat}
  {state : Logged AddressSpace}

theorem pageOf_mem_pagesOf (member : segment ∈ segments) (below : i < segment.extent) :
    pageOf (segment.address + i) ∈ pagesOf segments := by
  refine Finset.mem_biUnion.mpr ⟨segment, List.mem_toFinset.mpr member, ?_⟩
  exact Finset.mem_image_of_mem pageOf (Finset.mem_Ico.mpr (by omega))

/-- An address of one segment is in no other one. -/
theorem Apart.not_mem_range {other : Segment} (apart : executable.Apart)
    (member : segment ∈ executable.segments) (member' : other ∈ executable.segments)
    (different : other ≠ segment) (inside : a ∈ segment.range) : a ∉ other.range := by
  have : Std.Symm fun segment other : Segment => Disjoint segment.range other.range :=
    ⟨fun _ _ disjoint => disjoint.symm⟩
  exact Finset.disjoint_right.mp (List.Pairwise.forall apart member' member different) inside

namespace Loaded

theorem gives (loaded : Loaded executable segments state.value)
    (mapped : pageOf a ∈ pagesOf segments) :
    AddressSpace.Gives state a (executable.contentsOf segments a) := by
  apply loaded.unused.gives loaded.seen
  rw [PageTable.isMapped, PageTable.frame?, ← Std.TreeMap.mem_iff_isSome_getElem?]
  exact (loaded.mapped _).mpr mapped

/-- A byte of a mapped page is zero if no segment has a byte of the file for it. -/
theorem gives_zero (loaded : Loaded executable segments state.value)
    (mapped : pageOf a ∈ pagesOf segments)
    (outside : ∀ segment ∈ segments,
      a < segment.address ∨ segment.address + segment.fileSize ≤ a) :
    AddressSpace.Gives state a 0 := by
  have given := loaded.gives mapped
  rwa [contentsOf_of_outside outside] at given

theorem isIn (loaded : Loaded executable executable.segments state.value)
    (apart : executable.Apart)
    (fits : ∀ segment ∈ executable.segments, executable.Fits segment) :
    executable.IsIn state := by
  constructor
  case pages =>
    intro page
    rw [loaded.mapped, pagesOf, Finset.mem_biUnion]
    simp only [List.mem_toFinset]
  case bytes =>
    intro segment member i below
    have within : i < segment.extent := Nat.lt_of_lt_of_le below (Nat.le_max_right _ _)
    have mapped := pageOf_mem_pagesOf member within
    exact ⟨_, contentsOf_of_mem apart fits member below, loaded.gives mapped⟩
  case zeros =>
    intro segment member i behind below
    apply loaded.gives_zero (pageOf_mem_pagesOf member below)
    intro other here
    by_cases same : other = segment
    · subst same
      omega
    · have mine : segment.address + i ∈ segment.range := Finset.mem_Ico.mpr (by omega)
      have elsewhere := apart.not_mem_range member here same mine
      simp only [Segment.range, Segment.extent, Finset.mem_Ico] at elsewhere
      omega
  case elsewhere =>
    intro a mapped outside
    apply loaded.gives_zero ((loaded.mapped _).mp mapped)
    intro segment member
    have away := outside segment member
    simp only [Segment.range, Segment.extent, Finset.mem_Ico] at away
    omega
  case statistics => exact loaded.statistics

end Loaded

end Executable

/-- An executable whose segments are apart is loaded into a fresh address space exactly if all its
segments fit and there are frames for their pages. Then it is in memory as it is in the file. -/
theorem Platform.loadExecutable_ends {settings : Settings} {platform : Platform}
    (fresh : AddressSpace.ofSettings settings = .ok platform.space) (executable : Executable)
    (apart : executable.Apart) :
    Ends (loadExecutable executable) platform
      (fun entry next => executable.Loadable ∧ entry = BitVec.ofNat 64 executable.entry ∧
        executable.IsIn ⟨next.space, next.log⟩)
      fun _ _ => ¬ executable.Loadable := by
  simp only [loadExecutable, ends_bind, ends_report, ends_pure]
  refine (loadSegments_ends executable.segments (Executable.Loaded.of_ofSettings fresh)).mono
    (fun _ next given => ?_) fun _ _ failed => ?_
  · obtain ⟨fits, frames, loaded⟩ := given
    exact ⟨⟨fits, frames⟩, trivial, loaded.isIn apart fits⟩
  · intro loadable
    exact absurd loadable.frames (Nat.not_le.mpr (failed loadable.fits))

/-- Two segments that share a page. The first one lies across the end of a page, and the second one
has fewer bytes in the file than in memory. -/
def Executable.sharedPage : Executable where
  path := "shared"
  entry := 0x1ffe
  segments := [⟨0x1ffe, 1, 4, 4⟩, ⟨0x2004, 0, 2, 16⟩]
  file := [1, 2, 3, 4, 5]

theorem Platform.loadExecutable_ends_sharedPage :
    ∃ space, AddressSpace.ofSettings Settings.default = .ok space ∧
      Executable.sharedPage.Apart ∧ Executable.sharedPage.Loadable ∧
      Ends (loadExecutable Executable.sharedPage) { space }
        (fun entry next => Executable.sharedPage.Loadable ∧ entry = 0x1ffe ∧
          Executable.sharedPage.IsIn ⟨next.space, next.log⟩)
        fun _ _ => ¬ Executable.sharedPage.Loadable := by
  have checked : (AddressSpace.ofSettings Settings.default).toOption.any fun _ => true := by
    decide +kernel
  obtain ⟨space, made, -⟩ := exists_ok_of_any checked
  have apart : Executable.sharedPage.Apart := by decide +kernel
  exact ⟨space, made, apart, by decide +kernel, loadExecutable_ends made _ apart⟩

end FiveStage
