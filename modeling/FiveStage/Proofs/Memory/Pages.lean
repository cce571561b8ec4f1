import FiveStage.Paging
import FiveStage.Proofs.Outcome

/-!
# What is true of a page table

Frames are handed out in ascending order and never given back, so no two pages share a frame: the
map of pages and the list of frames in use stay in step. An address is therefore determined by its
translation, and every translation lies inside the frames. Of a range of pages those that are
missing are added one after the other, as long as there are frames.

## Main definitions

* `PageTable.Sound`: the mapped pages have the first frames, each its own, and these are in use
* `PageTable.Grown`: a sound table that keeps the frames and the mappings of another one
* `PageTable.Adds`: a table to which pages were added in a given order
* `PageTable.missing`, `PageTable.free`: the pages to be added, and the number of frames for them

## Main results

* `PageTable.mapPages_adds`: which pages are added, whether there are frames for all of them or not
* `PageTable.mapPages_ends`, `PageTable.mapRange_ends`: mapping keeps a table sound, even if it
  fails, and where it succeeds all pages are mapped
* `PageTable.Sound.translate_inj`, `PageTable.Sound.translate_lt`: translations are distinct, and
  inside
-/

namespace FiveStage

namespace PageTable

variable {table next last : PageTable} {pages more : List Nat}
    {address other physical page frame count length : Nat} {state : Logged PageTable}

/-- Each mapped page has a frame of its own, and the frames in use are the first ones. -/
structure Sound (table : PageTable) : Prop where
  used : ∀ page frame : Nat, table.mapping[page]? = some frame → frame < table.mapping.size
  onto : ∀ frame < table.mapping.size, ∃ page : Nat, table.mapping[page]? = some frame
  injective : ∀ page page' frame : Nat, table.mapping[page]? = some frame →
    table.mapping[page']? = some frame → page = page'
  enough : table.mapping.size ≤ table.frames
  marked : table.inUse = List.replicate table.mapping.size true ++
    List.replicate (table.frames - table.mapping.size) false

theorem sound_empty (frames : Nat) : Sound { frames } where
  used page frame mapped := by simp at mapped
  onto frame below := by simp at below
  injective page page' frame mapped := by simp at mapped
  enough := by simp
  marked := by simp

/-- The first frame that is not in use is numbered by the frames in use. -/
theorem Sound.freeFrame?_eq (sound : table.Sound) : table.freeFrame? =
    if table.mapping.size < table.frames then some table.mapping.size else none := by
  rw [freeFrame?, sound.marked, List.findIdx?_append]
  split
  · next room => simp [List.findIdx?_replicate, Nat.sub_pos_of_lt room]
  · next full => simp [List.findIdx?_replicate, Nat.not_lt.mp full]

/-- The table in which a page got a frame. -/
def given (table : PageTable) (page frame : Nat) : PageTable :=
  { table with
    inUse := table.inUse.set frame true
    mapping := table.mapping.insert page frame }

theorem getElem?_mapping_given (table : PageTable) (page frame p : Nat) :
    (table.given page frame).mapping[p]? = if page = p then some frame else table.mapping[p]? := by
  simp only [given, Std.TreeMap.getElem?_insert, Nat.compare_eq_eq]

theorem size_mapping_given (absent : table.mapping[page]? = none) (frame : Nat) :
    (table.given page frame).mapping.size = table.mapping.size + 1 := by
  have fresh : table.mapping.contains page = false := by
    rw [Std.TreeMap.contains_eq_isSome_getElem?, absent, Option.isSome_none]
  simp only [given, Std.TreeMap.size_insert, fresh, Bool.false_eq_true, if_false]

/-- Marking the first free frame moves the border between the frames in use and the others. -/
theorem set_replicate_append (used free : Nat) :
    (List.replicate used true ++ List.replicate (free + 1) false).set used true =
      List.replicate (used + 1) true ++ List.replicate free false := by
  rw [List.set_append_right _ _ (by simp), List.replicate_succ' (n := used)]
  simp [List.replicate_succ]

/-- A page that is not mapped may get the lowest free frame. -/
theorem Sound.given (sound : table.Sound) (absent : table.mapping[page]? = none)
    (room : table.mapping.size < table.frames) : (table.given page table.mapping.size).Sound := by
  have size := size_mapping_given absent table.mapping.size
  constructor
  · intro page' frame mapped
    rw [getElem?_mapping_given] at mapped
    rw [size]
    split at mapped
    · have := Option.some.inj mapped
      omega
    · have := sound.used page' frame mapped
      omega
  · intro frame below
    rw [size] at below
    simp only [getElem?_mapping_given]
    by_cases new : frame = table.mapping.size
    · exact ⟨page, by rw [if_pos rfl, new]⟩
    · obtain ⟨page', mapped⟩ := sound.onto frame (by omega)
      refine ⟨page', ?_⟩
      rw [if_neg, mapped]
      rintro rfl
      cases absent.symm.trans mapped
  · intro page₁ page₂ frame mapped₁ mapped₂
    rw [getElem?_mapping_given] at mapped₁ mapped₂
    split at mapped₁ <;> split at mapped₂
    · next here here' => exact here.symm.trans here'
    · have first := Option.some.inj mapped₁
      have later := sound.used page₂ frame mapped₂
      omega
    · have second := Option.some.inj mapped₂
      have earlier := sound.used page₁ frame mapped₁
      omega
    · exact sound.injective page₁ page₂ frame mapped₁ mapped₂
  · rw [size]
    exact room
  · obtain ⟨free, left⟩ : ∃ free, table.frames - table.mapping.size = free + 1 :=
      ⟨table.frames - table.mapping.size - 1, by omega⟩
    have border := set_replicate_append table.mapping.size free
    rw [← left, ← sound.marked] at border
    have left' : table.frames - (table.mapping.size + 1) = free := by omega
    rw [size]
    exact border.trans (by rw [← left']; rfl)

/-! ### Tables that grow -/

/-- The next table has the same frames and all mappings, and is sound. -/
structure Grown (table next : PageTable) : Prop where
  sound : next.Sound
  frames : next.frames = table.frames
  kept : ∀ page frame : Nat, table.mapping[page]? = some frame → next.mapping[page]? = some frame

theorem Sound.grown (sound : table.Sound) : table.Grown table :=
  ⟨sound, rfl, fun _ _ mapped => mapped⟩

theorem Grown.trans (first : table.Grown next) (second : next.Grown last) : table.Grown last :=
  ⟨second.sound, second.frames.trans first.frames,
    fun page frame mapped => second.kept page frame (first.kept page frame mapped)⟩

/-- To the table pages were added in this order, each with the next frame. -/
structure Adds (table : PageTable) (pages : List Nat) (next : PageTable) : Prop
    extends table.Grown next where
  size : next.mappedPages = table.mappedPages + pages.length
  added : ∀ i page : Nat, pages[i]? = some page →
    next.mapping[page]? = some (table.mappedPages + i)
  only : ∀ page frame : Nat, next.mapping[page]? = some frame →
    table.mapping[page]? = some frame ∨ page ∈ pages

theorem Sound.addsNone (sound : table.Sound) : table.Adds [] table where
  toGrown := sound.grown
  size := rfl
  added i page found := by simp at found
  only page frame mapped := .inl mapped

/-- One page is added with the lowest free frame. -/
theorem Sound.addsOne (sound : table.Sound) (absent : table.mapping[page]? = none)
    (room : table.mapping.size < table.frames) :
    table.Adds [page] (table.given page table.mapping.size) where
  sound := sound.given absent room
  frames := rfl
  kept page' frame mapped := by
    rw [getElem?_mapping_given, if_neg]
    · exact mapped
    · rintro rfl
      cases absent.symm.trans mapped
  size := size_mapping_given absent _
  added i page' found := by
    obtain ⟨rfl, rfl⟩ : i = 0 ∧ page = page' := by
      cases i with
      | zero => exact ⟨rfl, Option.some.inj found⟩
      | succ i => simp at found
    rw [getElem?_mapping_given, if_pos rfl]
    rfl
  only page' frame mapped := by
    rw [getElem?_mapping_given] at mapped
    split at mapped
    · next same => exact .inr (by simp [same])
    · exact .inl mapped

theorem Adds.trans (first : table.Adds pages next) (second : next.Adds more last) :
    table.Adds (pages ++ more) last where
  toGrown := first.toGrown.trans second.toGrown
  size := by rw [second.size, first.size, List.length_append, Nat.add_assoc]
  added i page found := by
    -- a page of the second list got its frame after as many others as the first list has
    rw [List.getElem?_append] at found
    split at found
    · exact second.kept page _ (first.added i page found)
    · next beyond =>
      rw [second.added _ page found, first.size]
      exact congrArg some (by omega)
  only page frame mapped := by
    rw [List.mem_append]
    rcases second.only page frame mapped with before | new
    · exact (first.only page frame before).imp_right .inl
    · exact .inr (.inr new)

/-! ### Which pages are added -/

/-- The number of frames that are not in use. -/
def free (table : PageTable) : Nat := table.frames - table.mappedPages

/-- The pages out of a stretch that are not mapped, in ascending order. -/
def missing (table : PageTable) (page count : Nat) : List Nat :=
  (List.range' page count).filter fun p => table.mapping[p]?.isNone

theorem mem_missing_iff : page ∈ table.missing other count ↔
    (other ≤ page ∧ page < other + count) ∧ table.mapping[page]? = none := by
  simp only [missing, List.mem_filter, List.mem_range'_1, Option.isNone_iff_eq_none]

theorem missing_one_of_mapped (mapped : table.mapping[page]? = some frame) :
    table.missing page 1 = [] := by
  simp [missing, mapped]

theorem missing_one_of_absent (absent : table.mapping[page]? = none) :
    table.missing page 1 = [page] := by
  simp [missing, absent]

theorem missing_succ (table : PageTable) (page count : Nat) :
    table.missing page (count + 1) = table.missing page 1 ++ table.missing (page + 1) count := by
  simp only [missing, List.range'_succ (s := page) (n := count), ← List.filter_append]
  rfl

/-- Pages that are added below a stretch do not change what is missing in it. -/
theorem Adds.missing_eq (adds : table.Adds pages next) (below : ∀ p ∈ pages, p < page)
    (count : Nat) : next.missing page count = table.missing page count := by
  refine List.filter_congr fun p member => ?_
  have inside := (List.mem_range'_1.mp member).1
  cases before : table.mapping[p]? with
  | some frame => rw [adds.kept p frame before]
  | none =>
    cases after : next.mapping[p]? with
    | none => rfl
    | some frame =>
      rcases adds.only p frame after with mapped | added
      · cases before.symm.trans mapped
      · have := below p added
        omega

/-- The page of an address is added if it is missing, and then there has to be a frame. -/
theorem mapPage_adds (sound : state.value.Sound) :
    let missing := state.value.missing (pageOf address) 1
    Ends (mapPage address) state
      (fun frame next => state.value.Adds missing next.value ∧
        next.value.frame? address = some frame)
      (fun fault next => missing = [pageOf address] ∧ state.value.free = 0 ∧
        fault = .outOfFrames address ∧ next.value = state.value) := by
  intro missing
  simp only [mapPage, ends_bind, ends_get]
  cases mapped : state.value.frame? address with
  | some frame =>
    have none_missing : missing = [] := missing_one_of_mapped mapped
    rw [none_missing]
    exact ⟨sound.addsNone, mapped⟩
  | none =>
    have one_missing : missing = [pageOf address] := missing_one_of_absent mapped
    rw [sound.freeFrame?_eq, one_missing]
    by_cases room : state.value.mapping.size < state.value.frames
    · rw [if_pos room]
      refine ⟨sound.addsOne mapped room, ?_⟩
      exact (getElem?_mapping_given ..).trans (if_pos rfl)
    · rw [if_neg room]
      exact ⟨rfl, Nat.sub_eq_zero_of_le (Nat.not_lt.mp room), rfl, rfl⟩

/-- Of a stretch of pages the missing ones are added. If there are too few frames for them, the
lowest ones get the frames that are left, and the failure names the next one. -/
theorem mapPages_adds (sound : state.value.Sound) :
    let missing := state.value.missing page count
    let free := state.value.free
    Ends (mapPages page count) state
      (fun _ next => state.value.Adds missing next.value)
      (fun fault next => ∃ first, missing[free]? = some first ∧
        fault = .outOfFrames (first * pageSize) ∧
        state.value.Adds (missing.take free) next.value) := by
  induction count generalizing page state with
  | zero => exact sound.addsNone
  | succ count ih =>
    intro missing free
    have number : pageOf (page * pageSize) = page := Nat.mul_div_cancel _ (by decide)
    simp only [mapPages, ends_bind, ends_discard]
    refine (mapPage_adds sound).mono (fun _ next mapped => ?_) fun fault next refused => ?_
    · rw [number] at mapped
      have adds := mapped.1
      have below : ∀ p ∈ state.value.missing page 1, p < page + 1 := by
        intro p here
        have := (mem_missing_iff.mp here).1
        omega
      have rest := adds.missing_eq below count
      have split := missing_succ state.value page count
      rw [← rest] at split
      have left : free = (state.value.missing page 1).length + next.value.free := by
        have size := adds.size
        have enough := adds.sound.enough
        simp only [free, PageTable.free, adds.frames, mappedPages] at *
        omega
      refine (ih adds.sound).mono (fun _ last later => ?_) fun fault last later => ?_
      · simp only [missing, split]
        exact adds.trans later
      · obtain ⟨first, found, named, rest⟩ := later
        refine ⟨first, ?_, named, ?_⟩
        · simp only [missing, split, left]
          rw [List.getElem?_append_right (Nat.le_add_right ..), Nat.add_sub_cancel_left]
          exact found
        · simp only [missing, split, left]
          rw [List.take_length_add_append]
          exact adds.trans rest
    · obtain ⟨one, none_free, named, same⟩ := refused
      rw [number] at one
      refine ⟨page, ?_, named, ?_⟩
      · simp only [missing, free, none_free]
        rw [missing_succ, one]
        rfl
      · simp only [free, none_free, List.take_zero, same]
        exact sound.addsNone

/-- An added page is mapped. -/
theorem Adds.isSome (adds : table.Adds pages next) (member : page ∈ pages) :
    next.mapping[page]?.isSome = true := by
  obtain ⟨i, found⟩ := List.mem_iff_getElem?.mp member
  rw [adds.added i page found, Option.isSome_some]

theorem mapPage_ends (sound : state.value.Sound) :
    Ends (mapPage address) state
      (fun _ next => state.value.Grown next.value ∧
        next.value.mapping[pageOf address]?.isSome = true)
      fun _ next => state.value.Grown next.value := by
  refine (mapPage_adds sound).mono (fun frame next mapped => ?_) fun fault next refused => ?_
  · exact ⟨mapped.1.toGrown, Option.isSome_of_eq_some mapped.2⟩
  · obtain ⟨-, -, -, same⟩ := refused
    exact same ▸ sound.grown

theorem mapPages_ends (sound : state.value.Sound) :
    Ends (mapPages page count) state
      (fun _ next => state.value.Grown next.value ∧
        ∀ p, page ≤ p → p < page + count → next.value.mapping[p]?.isSome = true)
      fun _ next => state.value.Grown next.value := by
  refine (mapPages_adds sound).mono (fun _ next adds => ?_) fun fault next refused => ?_
  · refine ⟨adds.toGrown, fun p from_page below => ?_⟩
    cases mapped : state.value.mapping[p]? with
    | some frame => exact Option.isSome_of_eq_some (adds.kept p frame mapped)
    | none => exact adds.isSome (mem_missing_iff.mpr ⟨⟨from_page, below⟩, mapped⟩)
  · obtain ⟨first, -, -, adds⟩ := refused
    exact adds.toGrown

theorem mapRange_ends (sound : state.value.Sound) :
    Ends (mapRange address length) state
      (fun _ next => state.value.Grown next.value ∧
        ∀ a, address ≤ a → a < address + length → next.value.isMapped a = true)
      fun _ next => state.value.Grown next.value := by
  unfold mapRange
  split
  · exact ⟨sound.grown, fun a _ _ => by omega⟩
  · refine (mapPages_ends sound).mono (fun _ next mapped => ?_) fun _ _ grown => grown
    refine ⟨mapped.1, fun a from_start below => mapped.2 (pageOf a) ?_ ?_⟩
    · exact Nat.div_le_div_right from_start
    · have last : pageOf a ≤ pageOf (address + length - 1) :=
        Nat.div_le_div_right (by omega)
      omega

/-! ### Translations -/

theorem pageOffset_lt (address : Nat) : pageOffset address < pageSize := Nat.mod_lt _ (by decide)

theorem translate_eq_ok_iff :
    table.translate address = .ok physical ↔
      ∃ frame, table.frame? address = some frame ∧
        frame * pageSize + pageOffset address = physical := by
  unfold translate
  cases table.frame? address with
  | some frame => simp
  | none => simp

/-- A mapping that is kept translates as before. -/
theorem Grown.translate {next : PageTable} (grown : table.Grown next)
    (here : table.translate address = .ok physical) : next.translate address = .ok physical := by
  obtain ⟨frame, mapped, place⟩ := translate_eq_ok_iff.mp here
  exact translate_eq_ok_iff.mpr ⟨frame, grown.kept _ _ mapped, place⟩

/-- The addresses of mapped pages are translated. -/
theorem exists_translate (mapped : table.isMapped address = true) :
    ∃ physical, table.translate address = .ok physical := by
  obtain ⟨frame, mapped⟩ := Option.isSome_iff_exists.mp mapped
  exact ⟨_, translate_eq_ok_iff.mpr ⟨frame, mapped, rfl⟩⟩

theorem isMapped_of_translate (here : table.translate address = .ok physical) :
    table.isMapped address = true := by
  obtain ⟨frame, mapped, -⟩ := translate_eq_ok_iff.mp here
  exact Option.isSome_of_eq_some mapped

/-- A page that is mapped stays mapped. -/
theorem Grown.isMapped {next : PageTable} (grown : table.Grown next)
    (mapped : table.isMapped address = true) : next.isMapped address = true := by
  obtain ⟨physical, here⟩ := exists_translate mapped
  exact isMapped_of_translate (grown.translate here)

namespace Sound

/-- Translations of different addresses differ. -/
theorem translate_inj (sound : table.Sound) (here : table.translate address = .ok physical)
    (there : table.translate other = .ok physical) : address = other := by
  obtain ⟨frame, mapped, place⟩ := translate_eq_ok_iff.mp here
  obtain ⟨frame', mapped', place'⟩ := translate_eq_ok_iff.mp there
  have offset := pageOffset_lt address
  have offset' := pageOffset_lt other
  simp only [pageSize] at place place' offset offset'
  obtain rfl : frame = frame' := by omega
  have page := sound.injective _ _ _ mapped mapped'
  rw [← pageOf_mul_add_pageOffset address, ← pageOf_mul_add_pageOffset other, page]
  omega

/-- Translations stay inside the frames. -/
theorem translate_lt (sound : table.Sound) (here : table.translate address = .ok physical) :
    physical < table.frames * pageSize := by
  obtain ⟨frame, mapped, place⟩ := translate_eq_ok_iff.mp here
  have used := sound.used _ _ mapped
  have enough := sound.enough
  have offset := pageOffset_lt address
  simp only [pageSize] at *
  omega

end Sound

/-- Addresses of one page are translated alike. -/
theorem translate_add (here : table.translate address = .ok physical) {offset : Nat}
    (inside : pageOffset address + offset < pageSize) :
    table.translate (address + offset) = .ok (physical + offset) := by
  obtain ⟨frame, mapped, place⟩ := translate_eq_ok_iff.mp here
  have page : pageOf (address + offset) = pageOf address := by
    simp only [pageOf, pageOffset, pageSize] at *
    omega
  have offset_eq : pageOffset (address + offset) = pageOffset address + offset := by
    simp only [pageOffset, pageSize] at *
    omega
  refine translate_eq_ok_iff.mpr ⟨frame, ?_, ?_⟩
  · rw [frame?, page]
    exact mapped
  · rw [offset_eq, ← place]
    omega

end PageTable

end FiveStage
