import FiveStage.Cache.Geometry
import FiveStage.Storage.Memory

/-!
# Storages as flat byte arrays

What a requester can tell of a storage is what a flat byte array would answer: a read gives the
bytes last written, and a request that fails changes nothing. A storage is *transparent* if it
behaves like that for all requests that stay inside a block, whatever it does behind the scenes.

## Main definitions

* `Contents`, `Contents.read`, `Contents.write`: a flat byte array
* `Request.InBlock`, `Request.apply`: requests that a cache accepts, and their effect on a flat
  array
* `Answers`, `Storage.Transparent`: a right answer, and a storage that always gives one

## Main results

* `Memory.transparent`: the memory at the bottom of a chain is transparent
-/

namespace FiveStage

/-- The bytes of a flat array, by address. -/
abbrev Contents := Nat → UInt8

namespace Contents

variable {contents other : Contents} {address length offset a : Nat} {piece bytes : Bytes}

/-- The `length` bytes from an address on. -/
def read (contents : Contents) (address length : Nat) : Bytes :=
  (List.range' address length).map contents

/-- The array with bytes written from an address on. -/
def write (contents : Contents) (address : Nat) (bytes : Bytes) : Contents := fun a =>
  if address ≤ a ∧ a < address + bytes.length then bytes.getD (a - address) 0 else contents a

@[simp] theorem length_read : (contents.read address length).length = length := by
  simp [read]

theorem getElem?_read (inside : offset < length) :
    (contents.read address length)[offset]? = some (contents (address + offset)) := by
  simp [read, inside]

theorem getD_read (inside : offset < length) :
    (contents.read address length).getD offset 0 = contents (address + offset) := by
  rw [List.getD_eq_getElem?_getD, getElem?_read inside, Option.getD_some]

/-- A string of bytes is what is read if it has the length and its bytes are those of the array. -/
theorem eq_read_of_getD (sized : bytes.length = length)
    (same : ∀ offset < length, bytes.getD offset 0 = contents (address + offset)) :
    bytes = contents.read address length := by
  apply List.ext_getElem?
  intro offset
  by_cases inside : offset < length
  · have byte := same offset inside
    rw [List.getD_eq_getElem?_getD] at byte
    rw [getElem?_read inside, ← byte, List.getElem?_eq_getElem (sized ▸ inside), Option.getD_some]
  · rw [List.getElem?_eq_none (by omega), List.getElem?_eq_none (by simp; omega)]

theorem read_congr (same :
    ∀ offset < length, contents (address + offset) = other (address + offset)) :
    contents.read address length = other.read address length := by
  apply eq_read_of_getD length_read
  intro offset inside
  rw [getD_read inside, same offset inside]

theorem slice_read (inside : offset + length ≤ a) :
    (contents.read address a).slice offset length = contents.read (address + offset) length := by
  apply eq_read_of_getD (Bytes.length_slice (by simpa using inside))
  intro k below
  rw [List.getD_eq_getElem?_getD, Bytes.slice, List.getElem?_take_of_lt below, List.getElem?_drop,
    getElem?_read (by omega), Option.getD_some, Nat.add_assoc]

theorem write_of_outside (outside : a < address ∨ address + bytes.length ≤ a) :
    contents.write address bytes a = contents a := by
  rw [write, if_neg (by omega)]

@[simp] theorem write_nil : contents.write address [] = contents := by
  funext a
  exact write_of_outside (by simp; omega)

/-- Bytes are written one after the other. -/
theorem write_cons {b : UInt8} :
    contents.write address (b :: bytes) =
      (contents.write address [b]).write (address + 1) bytes := by
  funext a
  simp only [write, List.length_cons, List.length_nil]
  by_cases first : a = address
  · rw [if_pos (by omega), if_neg (by omega), if_pos (by omega), first, Nat.sub_self]
    rfl
  · by_cases later : address + 1 ≤ a ∧ a < address + 1 + bytes.length
    · rw [if_pos (by omega), if_pos later, show a - address = a - (address + 1) + 1 by omega,
        List.getD_cons_succ]
    · rw [if_neg (by omega), if_neg later, if_neg (by omega)]

/-- Writing over a part of what was read gives what is read after the part was written. -/
theorem overwrite_read (inside : offset + piece.length ≤ length) :
    (contents.read address length).overwrite offset piece =
      (contents.write (address + offset) piece).read address length := by
  have sized : ((contents.read address length).overwrite offset piece).length = length := by
    rw [Bytes.length_overwrite (by simpa using inside), length_read]
  apply eq_read_of_getD sized
  intro k below
  simp only [Bytes.overwrite, write, List.getD_eq_getElem?_getD]
  have start : ((contents.read address length).take offset).length = offset := by simp; omega
  -- a byte lies before the piece, within it, or behind it
  rcases Nat.lt_or_ge k offset with before | from_offset
  · rw [List.append_assoc, List.getElem?_append_left (by omega), List.getElem?_take_of_lt before,
      getElem?_read below, if_neg (by omega), Option.getD_some]
  · rcases Nat.lt_or_ge k (offset + piece.length) with within | behind
    · rw [List.append_assoc, List.getElem?_append_right (by omega),
        List.getElem?_append_left (by omega), if_pos (by omega), start]
      congr 2
      omega
    · rw [List.getElem?_append_right (by simp; omega), List.getElem?_drop, if_neg (by omega)]
      have place : offset + piece.length + (k - ((contents.read address length).take offset ++
          piece).length) = k := by
        rw [List.length_append, start]
        omega
      rw [place, getElem?_read below, Option.getD_some]

end Contents

/-! ### Requests -/

namespace Request

/-- The request stays inside one block. -/
def InBlock (request : Request) : Prop := blockOffset request.address + request.length ≤ blockSize

instance (request : Request) : Decidable request.InBlock :=
  inferInstanceAs (Decidable (_ ≤ _))

/-- The effect of a request on a flat array. -/
def apply : Request → Contents → Contents
  | read .., contents => contents
  | write address bytes, contents => contents.write address bytes

end Request

/-- The right answer to a request from a storage of the given size that shows `before` at first and
`after` in the end: it is served as a flat array would serve it, or it is out of bounds and changes
nothing. -/
def Answers (size : Nat) (before after : Contents) (request : Request) (reply : Reply) : Prop :=
  match reply.outcome with
  | .ok _ =>
    after = request.apply before ∧ request.address + request.length ≤ size ∧
      (request.kind = .read → reply.delivered = some (before.read request.address request.length))
  | .error fault =>
    after = before ∧ size ≤ request.address ∧ reply.delivered = none ∧
      ∃ address, fault = .access address .outOfBounds

/-- In every sound state the storage gives the right answer to every request inside a block, and
stays sound. -/
def Storage.Transparent {S : Type} (storage : Storage S) (size : Nat) (Sound : S → Prop)
    (view : S → Contents) : Prop :=
  ∀ request state, Sound state → request.InBlock →
    Sound (storage request state).2 ∧
      Answers size (view state) (view (storage request state).2) request (storage request state).1

namespace Memory

theorem bytesAt_eq_read (memory : Memory) (address length : Nat) :
    memory.bytesAt address length = Contents.read memory.byteAt address length := by
  induction length generalizing address with
  | zero => rfl
  | succ length ih =>
    rw [bytesAt, ih, Contents.read, Contents.read, List.range'_succ, List.map_cons]

theorem byteAt_store (memory : Memory) (address : Nat) (piece : Bytes) :
    { memory with bytes := store memory.bytes address piece }.byteAt =
      Contents.write memory.byteAt address piece := by
  funext a
  exact getD_store memory.bytes address piece a

theorem transparent {size : Nat} (aligned : size % blockSize = 0) :
    Storage.Transparent serve size (fun memory => memory.size = size) byteAt := by
  intro request memory sized inBlock
  have fits : request.address < size → request.address + request.length ≤ memory.size := by
    simp only [Request.InBlock, blockOffset, blockSize] at inBlock aligned
    omega
  unfold serve
  by_cases holds : memory.holds request.address request.length = true
  · rw [if_pos holds]
    have bound : request.address + request.length ≤ size := by
      simpa [Memory.holds, sized] using holds
    cases request with
    | read address length => exact ⟨sized, rfl, bound, fun _ => congrArg some (bytesAt_eq_read ..)⟩
    | write address bytes =>
      exact ⟨sized, byteAt_store memory.counted address bytes, bound, fun reads => by cases reads⟩
  · rw [if_neg holds]
    have beyond : size ≤ request.address := by
      rcases Nat.lt_or_ge request.address size with inside | beyond
      · exact absurd (by simpa [Memory.holds] using fits inside) holds
      · exact beyond
    exact ⟨sized, rfl, beyond, rfl, _, rfl⟩

end Memory

end FiveStage
