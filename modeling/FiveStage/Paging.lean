import FiveStage.Failure
import FiveStage.Log
import Std.Data.TreeMap

/-!
# Paging

Virtual memory is mapped onto physical frames in pages of 4096 bytes. A page is mapped when it is
first asked for, to the lowest frame that is not in use; mappings stay, and no frame is ever given
back.

## Main definitions

* `PageTable`: the mapped pages with their frames, and the frames in use
* `PageTable.translate`: the physical address of a virtual one
* `PageTable.mapPage`, `PageTable.mapRange`: mapping one page, or all pages of a range of addresses
-/

namespace FiveStage

open Text

/-- The number of bytes of a page. -/
def pageSize : Nat := 4096

/-- The page of an address. -/
def pageOf (address : Nat) : Nat := address / pageSize

/-- The place of an address inside its page. -/
def pageOffset (address : Nat) : Nat := address % pageSize

theorem pageOf_mul_add_pageOffset (address : Nat) :
    pageOf address * pageSize + pageOffset address = address := by
  rw [pageOf, pageOffset, Nat.mul_comm, Nat.div_add_mod]

/-- The frames of the mapped pages, out of a number of frames, and for each frame whether it is in
use. -/
structure PageTable where
  frames : Nat := 1024
  inUse : List Bool := List.replicate frames false
  mapping : Std.TreeMap Nat Nat := ∅

namespace PageTable

/-- The frame of the page of an address, if the page is mapped. -/
def frame? (table : PageTable) (address : Nat) : Option Nat := table.mapping[pageOf address]?

/-- Whether the page of an address is mapped. -/
def isMapped (table : PageTable) (address : Nat) : Bool := (table.frame? address).isSome

/-- The number of mapped pages. -/
def mappedPages (table : PageTable) : Nat := table.mapping.size

/-- The lowest free frame. -/
def freeFrame? (table : PageTable) : Option Nat := table.inUse.findIdx? fun taken => !taken

/-- The physical address of a virtual one. -/
def translate (table : PageTable) (address : Nat) : Except MemoryFault Nat :=
  match table.frame? address with
  | some frame => .ok (frame * pageSize + pageOffset address)
  | none => .error (.unmapped address)

/-- A step that maps pages. -/
abbrev Mapping := EStateM MemoryFault (Logged PageTable)

/-- Maps the page of an address, unless it is mapped, and gives its frame. -/
def mapPage (address : Nat) : Mapping Nat := do
  let state ← get
  match state.value.frame? address with
  | some frame => return frame
  | none =>
    match state.value.freeFrame? with
    | none => throw (.outOfFrames address)
    | some frame =>
      let page := pageOf address
      set (Logged.mk
        { state.value with
          inUse := state.value.inUse.set frame true
          mapping := state.value.mapping.insert page frame }
        (state.log.add .debug fun _ => s!"mapped page {hex (page * pageSize)} to frame {frame}"))
      return frame

/-- Maps `count` pages in ascending order, and stops at the first for which no frame is left. -/
def mapPages (page : Nat) : (count : Nat) → Mapping Unit
  | 0 => pure ()
  | count + 1 => do
    discard (mapPage (page * pageSize))
    mapPages (page + 1) count

/-- Maps all pages that share a byte with the `length` bytes from an address on. The sum is not cut
to a word: a range has to end inside the 64-bit address space. -/
def mapRange (address length : Nat) : Mapping Unit :=
  if length = 0 then pure ()
  else
    let first := pageOf address
    mapPages first (pageOf (address + length - 1) + 1 - first)

end PageTable

end FiveStage
