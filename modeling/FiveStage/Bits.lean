/-!
# Words and bit fields

Machine words, register numbers and instruction encodings are bit vectors of their width. An
immediate is scattered over an encoding in slices; a `Slice` says where one piece sits and where it
belongs.

## Main definitions

* `Word`, `Encoding`, `Reg`: the 64-bit word, the 32-bit encoding and the 5-bit register number
* `wrapped`: sums that are added up in words
* `signExtendFrom`: a word read as a signed number of a smaller width
* `Slice.gather`: the pieces of an immediate, collected
* `log2?`, `isPowerOfTwo`, `lowMask`: arithmetic of powers of two
-/

namespace FiveStage

/-- A 64-bit machine word: a register value, a virtual address or an immediate. -/
abbrev Word := BitVec 64

/-- The 32 bits of one instruction. -/
abbrev Encoding := BitVec 32

/-- What a 64-bit word keeps of a sum that is added up in it. -/
def wrapped (sum : Nat) : Nat := sum % (1 <<< 64)

/-- The number of a general register. -/
abbrev Reg := BitVec 5

/-- The register with a number, if the number is one of a register. -/
def Reg.ofNumber? (n : Nat) : Option Reg := if n < 32 then some (BitVec.ofNat 5 n) else none

@[simp] theorem Reg.ofNumber?_toNat (r : Reg) : Reg.ofNumber? r.toNat = some r := by
  have below := r.isLt
  simp [ofNumber?, below]

/-- The low `width` bits of a word, sign-extended to the whole word. -/
def signExtendFrom (width : Nat) (w : Word) : Word :=
  (w.setWidth width).signExtend 64

/-- One piece of a scattered field: bits `high` down to `low` of the encoding, which are the bits of
the field from `target` on. -/
structure Slice where
  high : Nat
  low : Nat
  target : Nat
deriving DecidableEq, Repr

namespace Slice

/-- The number of bits in the piece. -/
def width (s : Slice) : Nat := s.high + 1 - s.low

/-- The field with this one piece, taken from the encoding. -/
def take (s : Slice) (e : Encoding) : Word :=
  (e.extractLsb' s.low s.width).setWidth 64 <<< s.target

/-- Collects the pieces of a field from an encoding. -/
def gather (slices : List Slice) (e : Encoding) : Word :=
  slices.foldl (fun field s => field ||| s.take e) 0

end Slice

/-! ### Powers of two -/

/-- The position of the highest set bit. -/
def log2? (n : Nat) : Option Nat :=
  if n = 0 then none else some n.log2

/-- Whether exactly one bit of the number is set. -/
def isPowerOfTwo (n : Nat) : Bool := n != 0 && n &&& (n - 1) == 0

/-- The word whose low `bits` bits are set. -/
def lowMask (bits : Nat) : Word := BitVec.ofNat 64 ((1 <<< min bits 64) - 1)

end FiveStage
