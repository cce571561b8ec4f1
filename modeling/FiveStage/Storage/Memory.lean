import FiveStage.Storage.Basic
import Std.Data.TreeMap

/-!
# Physical memory

The bottom of every storage chain: a byte array of fixed size, zero at first, with a fixed latency.
It never misses, and refuses a request that leaves its bounds.
-/

namespace FiveStage

/-- A byte array of the given size; a byte that was never written is zero. -/
structure Memory where
  size : Nat
  bytes : Std.TreeMap Nat UInt8 := ∅
  latency : Latency := {}
  statistics : Statistics := {}

namespace Memory

/-- The byte at an address. -/
def byteAt (memory : Memory) (address : Nat) : UInt8 := memory.bytes.getD address 0

/-- The `length` bytes from an address on. -/
def bytesAt (memory : Memory) (address : Nat) : (length : Nat) → Bytes
  | 0 => []
  | length + 1 => memory.byteAt address :: bytesAt memory (address + 1) length

@[simp] theorem length_bytesAt (memory : Memory) (address length : Nat) :
    (memory.bytesAt address length).length = length := by
  induction length generalizing address with
  | zero => rfl
  | succ length ih => simp [bytesAt, ih]

/-- A map of bytes with a string of bytes written from an address on. -/
def store (bytes : Std.TreeMap Nat UInt8) (address : Nat) : Bytes → Std.TreeMap Nat UInt8
  | [] => bytes
  | b :: rest => store (bytes.insert address b) (address + 1) rest

/-- A written map holds the written bytes in their range, and what it held before outside of it. -/
theorem getD_store (bytes : Std.TreeMap Nat UInt8) (address : Nat) (piece : Bytes) (a : Nat) :
    (store bytes address piece).getD a 0 =
      if address ≤ a ∧ a < address + piece.length then piece.getD (a - address) 0
      else bytes.getD a 0 := by
  induction piece generalizing bytes address with
  | nil => grind [store]
  | cons b rest ih =>
    rw [store, ih, Std.TreeMap.getD_insert]
    grind

/-- Whether the `length` bytes from an address on are all inside the memory. -/
def holds (memory : Memory) (address length : Nat) : Bool := address + length ≤ memory.size

/-- The memory with bytes written from an address on; neither counted nor timed. -/
def load (memory : Memory) (address : Nat) (bytes : Bytes) : Except MemoryFault Memory :=
  if memory.holds address bytes.length then
    .ok { memory with bytes := store memory.bytes address bytes }
  else .error (.access address .outOfBounds)

/-- The bytes from an address on; neither counted nor timed. -/
def peek (memory : Memory) (address length : Nat) : Except MemoryFault Bytes :=
  if memory.holds address length then .ok (memory.bytesAt address length)
  else .error (.access address .outOfBounds)

/-- The memory after one more counted access. -/
def counted (memory : Memory) : Memory :=
  { memory with
    statistics :=
      { memory.statistics with
        accesses := memory.statistics.accesses + 1
        time := memory.statistics.time + memory.latency.hitTime } }

/-- Serves a request. -/
def serve : Storage Memory := fun request memory =>
  if memory.holds request.address request.length then
    let outcome := .ok ⟨true, memory.latency.hitTime⟩
    match request with
    | .read address length =>
      ({ outcome, delivered := some (memory.bytesAt address length) }, memory.counted)
    | .write address bytes =>
      ({ outcome }, { memory.counted with bytes := store memory.bytes address bytes })
  else ({ outcome := .error (.access request.address .outOfBounds) }, memory)

end Memory

end FiveStage
