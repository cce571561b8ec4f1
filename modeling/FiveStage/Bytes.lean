/-!
# Byte strings

Payloads of storage requests, memory blocks and file contents are lists of bytes. Numbers are
spelled by bytes in little-endian or big-endian order.
-/

namespace FiveStage

/-- A string of bytes. -/
abbrev Bytes := List UInt8

namespace Bytes

/-- The given number of zero bytes. -/
def zeros (n : Nat) : Bytes := List.replicate n 0

/-- The `length` bytes from `offset` on, fewer where the string ends. -/
def slice (bytes : Bytes) (offset length : Nat) : Bytes :=
  (bytes.drop offset).take length

/-- The string with `piece` written over it from `offset` on. -/
def overwrite (bytes : Bytes) (offset : Nat) (piece : Bytes) : Bytes :=
  bytes.take offset ++ piece ++ bytes.drop (offset + piece.length)

theorem length_slice {bytes : Bytes} {offset length : Nat} (h : offset + length ≤ bytes.length) :
    (bytes.slice offset length).length = length := by
  simp only [slice, List.length_take, List.length_drop]
  omega

theorem length_overwrite {bytes piece : Bytes} {offset : Nat}
    (h : offset + piece.length ≤ bytes.length) :
    (bytes.overwrite offset piece).length = bytes.length := by
  simp only [overwrite, List.length_append, List.length_take, List.length_drop]
  omega

/-! ### Numbers -/

/-- The number whose base-256 digits are the bytes, least significant first. -/
def toNat : Bytes → Nat
  | [] => 0
  | b :: rest => b.toNat + 256 * toNat rest

/-- The low `count` base-256 digits of a number, least significant first. -/
def ofNat : (count : Nat) → Nat → Bytes
  | 0, _ => []
  | count + 1, n => UInt8.ofNat n :: ofNat count (n / 256)

/-- The order in which a file spells its numbers. -/
inductive Order
  | littleEndian
  | bigEndian
deriving DecidableEq, Repr

/-- The number spelled by the bytes in the given order. -/
def number : Order → Bytes → Nat
  | .littleEndian, bytes => toNat bytes
  | .bigEndian, bytes => toNat bytes.reverse

@[simp] theorem length_ofNat (count n : Nat) : (ofNat count n).length = count := by
  induction count generalizing n with
  | zero => rfl
  | succ count ih => simp [ofNat, ih]

theorem one_shiftLeft_succ (count : Nat) : 1 <<< (8 * (count + 1)) = 256 * (1 <<< (8 * count)) := by
  rw [Nat.mul_succ, Nat.shiftLeft_add, Nat.shiftLeft_eq _ 8, Nat.mul_comm]

theorem toNat_lt (bytes : Bytes) : toNat bytes < 1 <<< (8 * bytes.length) := by
  induction bytes with
  | nil => decide
  | cons b rest ih =>
    have digit : b.toNat < 256 := b.toNat_lt
    rw [toNat, List.length_cons, one_shiftLeft_succ]
    omega

end Bytes

end FiveStage
