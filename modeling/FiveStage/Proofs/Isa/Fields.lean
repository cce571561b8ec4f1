import FiveStage.Isa.Mnemonic
import Mathlib.Algebra.Order.Ring.Int
import Mathlib.Tactic.Linarith
import Mathlib.Tactic.Positivity
import Mathlib.Tactic.Ring
import Mathlib.Tactic.Zify

/-!
# Bit fields

An operation is found by a mask and a pattern over the encoding, while the manual speaks of fields.
A mask is a union of windows, and the encoding shows one field behind each window. An immediate has
fewer bits than a word, and these bits give the word back if it is in the range of the signed
numbers, or of the unsigned ones, with so many bits.

## Main definitions

* `Fixes`: a mask and the bits within it, as the test for a property of encodings
* `Selector.Shows`: the fields that a selector asks for

## Main results

* `Fixes.operation`: an encoding has the fixed bits of an operation if and only if it shows the
  opcode and the fields of the selector
* `signExtend_extractLsb'`, `setWidth_extractLsb'`: the words that their low bits give back
* `toInt_signExtend_bounds`, `toInt_append_zeros_bounds`: the numbers that so many bits can be
-/

namespace FiveStage

/-! ### Masks and fields -/

/-- A mask and the bits within it are the test for a property of encodings. -/
structure Fixes (mask bits : Encoding) (property : Encoding → Prop) : Prop where
  within : bits &&& mask = bits
  matched_iff : ∀ e, e &&& mask = bits ↔ property e

namespace Fixes

/-- The encoding whose bits from `start` on, `width` of them, are set. -/
def window (start width : Nat) : Encoding := (BitVec.allOnes width).setWidth 32 <<< start

/-- Behind a window stands a field. -/
theorem field {width : Nat} (start : Nat) (fits : start + width ≤ 32) (value : BitVec width) :
    Fixes (window start width) (value.setWidth 32 <<< start)
      (fun e => e.extractLsb' start width = value) where
  within := by
    ext i inside
    simp only [window, BitVec.getElem_and, BitVec.getElem_shiftLeft]
    grind
  matched_iff e := by
    constructor
    · intro matched
      ext i inside
      have bound : start + i < 32 := by omega
      have bit := congrArg (·.getLsbD (start + i)) matched
      simpa [window, bound, inside] using bit
    · rintro rfl
      ext i inside
      simp only [window, BitVec.getElem_and, BitVec.getElem_shiftLeft]
      grind

theorem nothing : Fixes 0 0 (fun _ => True) where
  within := BitVec.and_self
  matched_iff e := by simp

/-- Masks that share no bit are tested together. -/
theorem and {mask mask' both bits bits' : Encoding} {property property' : Encoding → Prop}
    (first : Fixes mask bits property) (second : Fixes mask' bits' property')
    (apart : mask &&& mask' = 0) (joined : mask ||| mask' = both) :
    Fixes both (bits ||| bits') (fun e => property e ∧ property' e) := by
  subst joined
  have bitwise {i : Nat} (inside : i < 32) : (mask[i] && mask'[i]) = false ∧
      (bits[i] && mask[i]) = bits[i] ∧ (bits'[i] && mask'[i]) = bits'[i] := by
    rw [← BitVec.getElem_and, ← BitVec.getElem_and, ← BitVec.getElem_and, apart, first.within,
      second.within]
    exact ⟨BitVec.getElem_zero .., rfl, rfl⟩
  constructor
  · ext i inside
    simp only [BitVec.getElem_and, BitVec.getElem_or]
    grind [bitwise inside]
  · intro e
    rw [← first.matched_iff, ← second.matched_iff]
    constructor
    · intro matched
      have bit {i : Nat} (inside : i < 32) :
          (e[i] && (mask[i] || mask'[i])) = (bits[i] || bits'[i]) := by
        simpa using congrArg (·[i]) matched
      constructor <;> ext i inside <;> rw [BitVec.getElem_and] <;>
        grind [bit inside, bitwise inside]
    · rintro ⟨rfl, rfl⟩
      exact BitVec.and_or_distrib_left

end Fixes

/-- The fields beside the opcode that a selector asks for. -/
def Selector.Shows (selector : Selector) (e : Encoding) : Prop :=
  match selector with
  | .none => True
  | .funct3 f3 => e.extractLsb' 12 3 = f3
  | .funct6 f3 f6 => e.extractLsb' 12 3 = f3 ∧ e.extractLsb' 26 6 = f6
  | .funct7 f3 f7 => e.extractLsb' 12 3 = f3 ∧ e.extractLsb' 25 7 = f7
  | .whole => e.extractLsb' 7 25 = 0

/-- What the mask of an operation tests. -/
theorem Fixes.operation (code : BitVec 7) (selector : Selector) :
    Fixes (0x7f ||| selector.mask) (code.setWidth 32 ||| selector.bits)
      (fun e => e.extractLsb' 0 7 = code ∧ selector.Shows e) := by
  have opcode : Fixes 0x7f (code.setWidth 32) (fun e => e.extractLsb' 0 7 = code) := by
    have lowest := field 0 (by decide) code
    rwa [BitVec.shiftLeft_zero] at lowest
  have middle (f3 : BitVec 3) :
      Fixes 0x7000 (f3.setWidth 32 <<< 12) (fun e => e.extractLsb' 12 3 = f3) :=
    field 12 (by decide) f3
  cases selector with
  | none => exact opcode.and nothing rfl rfl
  | funct3 f3 => exact opcode.and (middle f3) rfl rfl
  | funct6 f3 f6 =>
    have upper := (middle f3).and (field 26 (by decide) f6) rfl rfl
    exact opcode.and upper rfl rfl
  | funct7 f3 f7 =>
    have upper := (middle f3).and (field 25 (by decide) f7) rfl rfl
    exact opcode.and upper rfl rfl
  | whole =>
    -- the mask of the whole encoding meets the one of the opcode; beyond it, it is a window
    exact opcode.and (field 7 (by decide) (0 : BitVec 25)) rfl rfl

/-! ### Immediates in few bits -/

section Immediates

variable {w k : Nat} {imm : Word}

theorem extractLsb'_signExtend {x : BitVec w} {start len : Nat} (fits : start + len ≤ w)
    (narrow : w ≤ 64) : (x.signExtend 64).extractLsb' start len = x.extractLsb' start len := by
  ext i inside
  rw [BitVec.getElem_extractLsb', BitVec.getElem_extractLsb', BitVec.getLsbD_signExtend]
  grind

theorem extractLsb'_setWidth (x : BitVec w) (narrow : w ≤ 64) :
    (x.setWidth 64).extractLsb' 0 w = x := by
  rw [← BitVec.setWidth_eq_extractLsb' narrow, BitVec.setWidth_setWidth_of_le _ narrow,
    BitVec.setWidth_eq]

theorem toInt_signExtend_bounds (x : BitVec w) (narrow : w ≤ 64) :
    -2 ^ (w - 1) ≤ (x.signExtend 64).toInt ∧ (x.signExtend 64).toInt ≤ 2 ^ (w - 1) - 1 := by
  rw [BitVec.toInt_signExtend_of_le narrow]
  exact ⟨BitVec.le_toInt x, Int.le_sub_one_of_lt BitVec.toInt_lt⟩

theorem toInt_setWidth_bounds (x : BitVec w) (narrow : w < 64) :
    0 ≤ (x.setWidth 64).toInt ∧ (x.setWidth 64).toInt ≤ 2 ^ w - 1 := by
  have small : x.toNat < 2 ^ w := x.isLt
  have half : 2 ^ w ≤ 2 ^ 63 := Nat.pow_le_pow_right (by decide) (by omega)
  rw [BitVec.toInt_setWidth, Int.bmod_eq_of_le (by omega) (by omega)]
  zify at small
  omega

/-- Zeros at the end make a multiple of their power of two, so the upper bound is one as well. -/
theorem toInt_append_zeros_bounds (x : BitVec w) (some : 0 < w) (narrow : w + k ≤ 64) :
    -2 ^ (w + k - 1) ≤ ((x ++ 0#k).signExtend 64).toInt ∧
      ((x ++ 0#k).signExtend 64).toInt ≤ 2 ^ (w + k - 1) - 2 ^ k ∧
      (2 ^ k : Int) ∣ ((x ++ 0#k).signExtend 64).toInt := by
  have value : ((x ++ 0#k).signExtend 64).toInt = 2 ^ k * x.toInt := by
    have nonempty : (w == 0) = false := by simpa using some.ne'
    rw [BitVec.toInt_signExtend_of_le narrow, BitVec.toInt_append, nonempty]
    simp
  have power : (2 ^ (w + k - 1) : Int) = 2 ^ k * 2 ^ (w - 1) := by
    rw [← pow_add]
    congr 1
    omega
  have positive : (0 : Int) ≤ 2 ^ k := by positivity
  have low := mul_le_mul_of_nonneg_left (BitVec.le_toInt x) positive
  have high := mul_le_mul_of_nonneg_left (Int.le_sub_one_of_lt (@BitVec.toInt_lt w x)) positive
  rw [value, power]
  refine ⟨by linarith, by linarith, dvd_mul_right _ _⟩

/-- The word that the low bits give back, if it is in the range of their signed numbers. -/
theorem signExtend_extractLsb' (some : 0 < w) (narrow : w ≤ 64)
    (low : -2 ^ (w - 1) ≤ imm.toInt) (high : imm.toInt < 2 ^ (w - 1)) :
    (imm.extractLsb' 0 w).signExtend 64 = imm := by
  apply BitVec.eq_of_toInt_eq
  have double : (2 ^ w : Int) = 2 * 2 ^ (w - 1) := by
    rw [← pow_succ', Nat.sub_add_cancel some]
  calc ((imm.extractLsb' 0 w).signExtend 64).toInt
      = (imm.toNat : Int).bmod (2 ^ w) := by
        rw [BitVec.toInt_signExtend_of_le narrow, ← BitVec.setWidth_eq_extractLsb' narrow,
          BitVec.toInt_setWidth]
    _ = imm.toInt.bmod (2 ^ w) := by
        rw [BitVec.toInt_eq_toNat_bmod, Int.bmod_bmod_of_dvd (Nat.pow_dvd_pow 2 narrow)]
    _ = imm.toInt := by
        apply Int.bmod_eq_of_le <;> push_cast <;> omega

/-- The word that the low bits give back, if it is in the range of their unsigned numbers. -/
theorem setWidth_extractLsb' (low : 0 ≤ imm.toInt) (high : imm.toInt < 2 ^ w) :
    (imm.extractLsb' 0 w).setWidth 64 = imm := by
  apply BitVec.eq_of_toNat_eq
  have same : (imm.toNat : Int) = imm.toInt := by
    rw [BitVec.toInt_eq_toNat_cond] at low ⊢
    split at low <;> omega
  have small : imm.toNat < 2 ^ w := by
    zify
    omega
  simp [Nat.mod_eq_of_lt small, Nat.mod_eq_of_lt imm.isLt]

theorem extractLsb'_eq_zero (narrow : k ≤ 64) (multiple : (2 ^ k : Int) ∣ imm.toInt) :
    imm.extractLsb' 0 k = 0#k := by
  have whole : (2 ^ k : Int) ∣ 2 ^ 64 := pow_dvd_pow 2 narrow
  have divides : (2 ^ k : Int) ∣ (imm.toNat : Int) := by
    rw [BitVec.toInt_eq_toNat_cond] at multiple
    split at multiple
    · exact multiple
    · exact (Int.dvd_iff_dvd_of_dvd_sub multiple).mpr (by exact_mod_cast whole)
  apply BitVec.eq_of_toNat_eq
  simpa using Nat.mod_eq_zero_of_dvd (Int.natCast_dvd_natCast.mp (by exact_mod_cast divides))

end Immediates

end FiveStage
