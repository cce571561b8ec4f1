import FiveStage.Cache.Chain
import FiveStage.Paging
import FiveStage.Component
import FiveStage.Settings.Basic
import FiveStage.Storage.Journal

/-!
# Address spaces

What a program sees as memory: virtual addresses are translated by a page table, and requests are
served by three cache levels over physical memory. Only the first address of a request is
translated; a block lies inside a page, so a request that stays inside a block stays inside the
page.

## Main definitions

* `AddressSpace`, `AddressSpace.ofSettings`: the parts, and the fresh address space of a machine
* `AddressSpace.read`, `AddressSpace.write`: numbers of at most eight bytes, with the cycles that
  they take, which are not yet cut to a word
* `AddressSpace.loadImage`, `AddressSpace.mapStack`: preparing memory for a program
* `AddressSpace.peek`: the bytes in physical memory, past the caches
-/

namespace FiveStage

/-- Three cache levels over physical memory, and the page table in front of them. -/
structure AddressSpace where
  storage : Chain Unit 3
  pages : PageTable := {}

/-- The stack pointer at the start of a program. -/
def stackTop : Nat := 0x80000000

namespace AddressSpace

/-- A step that uses an address space and reports to a log. -/
abbrev Use := EStateM MemoryFault (Logged AddressSpace)

/-- The page table of an address space. -/
def pageTable : Component (Logged AddressSpace) (Logged PageTable) where
  get whole := ⟨whole.value.pages, whole.log⟩
  put piece whole := ⟨{ whole.value with pages := piece.value }, piece.log⟩

/-- A fresh cache of one level. -/
def freshCache (settings : Settings) (level : CacheLevel) : Except MemoryFault (Cache Unit) :=
  let chosen := settings.levels level
  Cache.configure { name := level.name, latency := chosen.latency, memo := () } chosen.geometry

/-- A fresh memory, as large as all frames together. -/
def freshMemory (settings : Settings) : Memory :=
  { size := pageSize * 1024, latency := settings.memoryLatency }

/-- The fresh address space with the given settings. -/
def ofSettings (settings : Settings) : Except MemoryFault AddressSpace := do
  let l1 ← freshCache settings .l1
  let l2 ← freshCache settings .l2
  let llc ← freshCache settings .llc
  return { storage := .level l1 (.level l2 (.level llc (.ground (freshMemory settings)))) }

/-- The physical address of a virtual one. -/
def translate (space : AddressSpace) (address : Nat) : Except MemoryFault Nat :=
  space.pages.translate address

/-! ### Requests -/

/-- Serves a request whose address is already translated, and reports what happened. -/
def request (physical : Request) : Use (Access × Bytes) := do
  let state ← get
  let (reply, storage) := state.value.storage.serve physical
  set (Logged.mk { state.value with storage } (state.log.addJournal reply.journal))
  let access ← settle reply.outcome
  return (access, reply.delivered.getD [])

/-- Reads bytes at a virtual address. -/
def readBytes (address length : Nat) : Use (Access × Bytes) := do
  let physical ← settle ((← get).value.translate address)
  request (.read physical length)

/-- Writes bytes at a virtual address. -/
def writeBytes (address : Nat) (bytes : Bytes) : Use Access := do
  let physical ← settle ((← get).value.translate address)
  return (← request (.write physical bytes)).1

/-- Refuses numbers of more than eight bytes. -/
def checkSize (address size : Nat) : Use Unit := do
  if size > 8 then
    throw (.access address (.invalidSize size))

/-- Reads a little-endian number of the given size, and gives it with all the cycles that it took.
-/
def read (address size : Nat) : Use (Word × Nat) := do
  checkSize address size
  let (access, bytes) ← readBytes address size
  return (BitVec.ofNat 64 bytes.toNat, access.total)

/-- Writes the low bytes of a word as a little-endian number of the given size, and gives all the
cycles that it took. -/
def write (address : Nat) (value : Word) (size : Nat) : Use Nat := do
  checkSize address size
  let access ← writeBytes address (Bytes.ofNat size value.toNat)
  return access.total

/-! ### Preparing memory -/

/-- Writes bytes to physical memory one by one, each at its translated address. -/
def placeBytes (address : Nat) : Bytes → Use Unit
  | [] => pure ()
  | b :: rest => do
    let state ← get
    let physical ← settle (state.value.translate address)
    let memory ← settle (state.value.storage.memory.load physical [b])
    set (Logged.mk
      { state.value with storage := state.value.storage.modifyMemory fun _ => memory } state.log)
    placeBytes (address + 1) rest

/-- Maps the `length` bytes from an address on and puts the given bytes at their start. The caches
are not asked and nothing is counted. -/
def loadImage (address : Nat) (bytes : Bytes) (length : Nat) : Use Unit := do
  pageTable.act (PageTable.mapRange address length)
  placeBytes address bytes

/-- Maps the pages around the top of the stack: nine below it and two from it on. -/
def mapStack : Use Unit :=
  pageTable.act (PageTable.mapPages (pageOf stackTop - 9) 11)

/-- The `length` bytes of physical memory from a virtual address on. What only the caches hold is
not seen. -/
def peek (space : AddressSpace) (address : Nat) : (length : Nat) → Except MemoryFault Bytes
  | 0 => .ok []
  | length + 1 => do
    let physical ← space.translate address
    let here ← space.storage.memory.peek physical 1
    let rest ← space.peek (address + 1) length
    return here ++ rest

end AddressSpace

end FiveStage
