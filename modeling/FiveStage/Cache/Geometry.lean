import FiveStage.Bits
import FiveStage.Failure

/-!
# Cache geometry

A cache holds blocks of 64 bytes in lines, and its lines are grouped into sets. An address splits
into an offset in its block, the set of the block and a tag that tells the blocks of a set apart;
the number of sets is a power of two, and neighbouring blocks fall into neighbouring sets.

## Main definitions

* `Geometry`: sizes and write policy of a cache
* `Geometry.fault?`, `Geometry.make`: the geometries a cache can have
* `Geometry.fits`: the geometries for whose lines there is room in an array
* `blockOffset`, `blockOf`: an address inside its block
-/

namespace FiveStage

/-- The number of bytes of a block. -/
def blockSize : Nat := 64

/-- The place of an address inside its block. -/
def blockOffset (address : Nat) : Nat := address % blockSize

/-- The first address of a block. -/
def blockOf (address : Nat) : Nat := address - blockOffset address

theorem blockOf_add_blockOffset (address : Nat) :
    blockOf address + blockOffset address = address := by
  simp only [blockOf, blockOffset]
  have := Nat.mod_le address blockSize
  omega

/-- The shape of a cache and what it does with writes: whether a written line is written below at
once (`writeThrough`), and whether a missing block is brought in for a write (`writeAllocate`). -/
structure Geometry where
  size : Nat
  ways : Nat
  sets : Nat
  writeThrough : Bool
  writeAllocate : Bool
deriving DecidableEq, Repr

/-- Why a cache cannot have a geometry. -/
inductive GeometryFault
  | notMultipleOfWays (size ways : Nat)
  | notMultipleOfBlock (size : Nat)
  | unevenSets (sets entries : Nat)
  | setsNoPowerOfTwo (sets : Nat)
deriving DecidableEq, Repr

/-- The wording of a refused geometry. -/
def GeometryFault.message : GeometryFault → String
  | .notMultipleOfWays size ways =>
    s!"size {size} is not a multiple of {ways} ways x {blockSize} bytes"
  | .notMultipleOfBlock size => s!"size {size} is not a multiple of the block size"
  | .unevenSets sets entries => s!"{sets} sets do not divide {entries} entries"
  | .setsNoPowerOfTwo sets => s!"set count {sets} is not a power of 2"

namespace Geometry

/-- The number of lines. -/
def entries (geometry : Geometry) : Nat := geometry.size / blockSize

/-- What is wrong with a geometry, if anything is. -/
def fault? (geometry : Geometry) : Option GeometryFault :=
  if geometry.size = 0 ∨ geometry.size % blockSize ≠ 0 then some (.notMultipleOfBlock geometry.size)
  else if geometry.sets = 0 ∨ geometry.entries % geometry.sets ≠ 0 then
    some (.unevenSets geometry.sets geometry.entries)
  else if isPowerOfTwo geometry.sets then none
  else some (.setsNoPowerOfTwo geometry.sets)

/-- The bytes of the simulator's own memory that one line takes: those of its block, three words and
two flags, filled up to whole words. -/
def lineFootprint : Nat := 96

/-- The number of bytes of its own memory that the simulator cannot ask for at once. -/
def footprintLimit : Nat := 1 <<< 63

/-- Whether the lines of a geometry can be asked for at once. -/
def fits (geometry : Geometry) : Bool := geometry.entries * lineFootprint < footprintLimit

/-- Refuses a geometry that no cache can have. -/
def validate (geometry : Geometry) : Except MemoryFault Unit :=
  match geometry.fault? with
  | some fault => .error (.misconfigured fault.message)
  | none => .ok ()

/-- The geometry with the given size and number of ways. The bytes of one set have to be countable
in a 64-bit word. -/
def make (size ways : Nat) (writeThrough writeAllocate : Bool) : Except MemoryFault Geometry :=
  let setBytes := ways * blockSize
  if setBytes < 1 <<< 64 ∧ setBytes ≠ 0 ∧ size % setBytes = 0 then do
    let geometry : Geometry := ⟨size, ways, size / setBytes, writeThrough, writeAllocate⟩
    geometry.validate
    return geometry
  else .error (.misconfigured (GeometryFault.notMultipleOfWays size ways).message)

/-- 32 KiB in 8 ways, written back late and not allocated for writes. -/
def default : Geometry := ⟨32 * 1024, 8, 64, false, false⟩

instance : Inhabited Geometry := ⟨default⟩

end Geometry

end FiveStage
