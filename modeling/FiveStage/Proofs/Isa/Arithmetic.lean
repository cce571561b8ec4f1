import FiveStage.Isa.Effect
import FiveStage.Proofs.Isa.Layout
import Mathlib.Algebra.Order.Ring.Abs
import Mathlib.Data.Int.ModEq

/-!
# Multiplication and division

The operations of the multiplication extension come in groups that belong together. A quotient and
its remainder give the dividend back, also where division has no answer: at a divisor of zero, and
where the quotient of signed numbers is one more than the greatest of them. The lower and the upper
word of a product are the product. Operations on half words have the same laws at half the width,
and the upper halves of their operands do not matter.

## Main definitions

* `Mnemonic.Yields`: the encodings of an operation compute a value from their operands
* `SignedDivision`, `UnsignedDivision`: the laws of a quotient and its remainder
* `Reading`, `Reading.widen`: signed and unsigned operands of a multiplication
* `Mnemonic.DivideWords`, `Mnemonic.DivideHalves`, `Mnemonic.MultipliesHigh`,
  `Mnemonic.MultipliesHalves`: what operations of the extension do

## Main results

* `Mnemonic.divisions_lawful`: all four pairs of divisions obey their law
* `Mnemonic.products_exact`: the two words of a product are the product, however they are read
-/

namespace FiveStage

/-! ### What an encoding computes -/

namespace Mnemonic

/-- Every encoding of the operation with two source registers is decoded, wherever it is found, and
computes the value from the two words. -/
def Yields (m : Mnemonic) (a b value : Word) : Prop :=
  ∀ (rd rs1 rs2 : Reg) (pc : Word), ∃ inst,
    Instruction.decode (m.word (.r rd rs1 rs2)) pc = .ok inst ∧ inst.value? pc a b = some value

/-- An operation on registers computes its function. -/
theorem yields_eval {m : Mnemonic} (opcode : m.opcode = .op ∨ m.opcode = .op32) (a b : Word) :
    m.Yields a b (m.aluOp.eval a b) := by
  intro rd rs1 rs2 pc
  have found : ofEncoding? (m.word (.r rd rs1 rs2)) = some m :=
    ofEncoding?_eq_some_iff.mpr Layout.shows_word
  refine ⟨_, Instruction.decode_eq_ok_iff.mpr ⟨m, found, rfl⟩, ?_⟩
  rcases opcode with opcode | opcode <;>
    simp [Instruction.value?, Instruction.compute, usesRegister, opcode]

end Mnemonic

/-! ### Division -/

section Division

variable {w : Nat} {a b q r : BitVec w}

/-- The law of the quotient and the remainder of unsigned numbers. -/
structure UnsignedDivision (a b q r : BitVec w) : Prop where
  congruent : q.toNat * b.toNat + r.toNat ≡ a.toNat [MOD 2 ^ w]
  exact : b.toNat ≠ 0 → a.toNat = q.toNat * b.toNat + r.toNat ∧ r.toNat < b.toNat
  byZero : b.toNat = 0 → q = BitVec.allOnes w ∧ r = a

/-- The law of the quotient and the remainder of signed numbers. The quotient is rounded towards
zero; it overflows for the least number divided by minus one. -/
structure SignedDivision (a b q r : BitVec w) : Prop where
  congruent : q.toInt * b.toInt + r.toInt ≡ a.toInt [ZMOD 2 ^ w]
  exact : b.toInt ≠ 0 → ¬ (a.toInt = -2 ^ (w - 1) ∧ b.toInt = -1) →
    a.toInt = q.toInt * b.toInt + r.toInt ∧ |r.toInt| < |b.toInt| ∧
      (r.toInt = 0 ∨ r.toInt.sign = a.toInt.sign)
  byZero : b.toInt = 0 → q = BitVec.allOnes w ∧ r = a
  overflow : a.toInt = -2 ^ (w - 1) → b.toInt = -1 → q = a ∧ r.toInt = 0

theorem unsignedDivision (a b : BitVec w) :
    UnsignedDivision a b (AluOp.unsignedQuotient a b) (AluOp.unsignedRemainder a b) := by
  unfold AluOp.unsignedQuotient AluOp.unsignedRemainder
  by_cases zero : b = 0
  · subst zero
    simp only [if_true]
    exact ⟨by simp [Nat.ModEq], by simp, fun _ => ⟨rfl, rfl⟩⟩
  · have divisor : b.toNat ≠ 0 := fun none => zero (BitVec.eq_of_toNat_eq (by simpa using none))
    simp only [if_neg zero]
    have together : a.toNat = (a / b).toNat * b.toNat + (a % b).toNat := by
      rw [BitVec.toNat_udiv, BitVec.toNat_umod, Nat.div_add_mod']
    refine ⟨by rw [← together], fun _ => ⟨together, ?_⟩, fun none => absurd none divisor⟩
    rw [BitVec.toNat_umod]
    exact Nat.mod_lt _ (Nat.pos_of_ne_zero divisor)

/-- The quotient of signed words is the exact one, up to a multiple of the power of two. -/
theorem toInt_sdiv_modEq (a b : BitVec w) :
    (a.sdiv b).toInt ≡ a.toInt.tdiv b.toInt [ZMOD 2 ^ w] := by
  rw [BitVec.toInt_sdiv, Int.ModEq]
  exact_mod_cast Int.bmod_emod

theorem signedDivision (nonempty : 0 < w) (a b : BitVec w) :
    SignedDivision a b (AluOp.signedQuotient a b) (AluOp.signedRemainder a b) := by
  have least : (BitVec.intMin w).toInt = -2 ^ (w - 1) := BitVec.toInt_intMin_of_pos nonempty
  have minusOne : (-1#w).toInt = -1 := by
    rw [BitVec.neg_one_eq_allOnes, BitVec.toInt_allOnes, if_pos nonempty]
  unfold AluOp.signedQuotient AluOp.signedRemainder
  by_cases zero : b = 0
  · subst zero
    simp only [if_true]
    exact ⟨by simp [Int.ModEq], by simp, fun _ => ⟨rfl, rfl⟩, fun _ minus => by simp at minus⟩
  · have divisor : b.toInt ≠ 0 := fun none => zero (BitVec.eq_of_toInt_eq (by simpa using none))
    have together := Int.tdiv_mul_add_tmod a.toInt b.toInt
    simp only [if_neg zero]
    refine ⟨?_, fun _ regular => ⟨?_, ?_, ?_⟩, fun none => absurd none divisor, fun low minus => ?_⟩
    · rw [BitVec.toInt_srem]
      have congruent := ((toInt_sdiv_modEq a b).mul_right b.toInt).add_right (a.toInt.tmod b.toInt)
      rwa [together] at congruent
    · -- only one quotient has no room
      have fits : a ≠ BitVec.intMin w ∨ b ≠ -1#w := by
        by_contra both
        obtain ⟨rfl, rfl⟩ : a = BitVec.intMin w ∧ b = -1#w := by simpa using both
        exact regular ⟨least, minusOne⟩
      rw [BitVec.toInt_sdiv_of_ne_or_ne a b fits, BitVec.toInt_srem, together]
    · rw [BitVec.toInt_srem, Int.abs_eq_natAbs, Int.abs_eq_natAbs, Int.natAbs_tmod]
      exact_mod_cast Nat.mod_lt _ (Int.natAbs_pos.mpr divisor)
    · rw [BitVec.toInt_srem]
      by_cases divides : b.toInt ∣ a.toInt
      · exact .inl (Int.tmod_eq_zero_of_dvd divides)
      · exact .inr (by rw [Int.sign_tmod, if_neg divides])
    · obtain rfl : a = BitVec.intMin w := BitVec.eq_of_toInt_eq (low.trans least.symm)
      obtain rfl : b = -1#w := BitVec.eq_of_toInt_eq (minus.trans minusOne.symm)
      rw [BitVec.toInt_srem, minusOne]
      exact ⟨BitVec.intMin_sdiv_neg_one, by simp⟩

end Division

namespace Mnemonic

/-- Two operations are the quotient and the remainder of words, by a law. -/
def DivideWords (law : ∀ {w : Nat}, BitVec w → BitVec w → BitVec w → BitVec w → Prop)
    (quotient remainder : Mnemonic) : Prop :=
  ∀ a b : Word, ∃ q r : Word, quotient.Yields a b q ∧ remainder.Yields a b r ∧ law a b q r

/-- Two operations are the quotient and the remainder of the lower halves of words, by a law, and
extend the signs of both, whatever the upper halves are. -/
def DivideHalves (law : ∀ {w : Nat}, BitVec w → BitVec w → BitVec w → BitVec w → Prop)
    (quotient remainder : Mnemonic) : Prop :=
  ∀ a b : BitVec 32, ∃ q r : BitVec 32, law a b q r ∧ ∀ upper upper' : BitVec 32,
    quotient.Yields (upper ++ a) (upper' ++ b) (q.signExtend 64) ∧
      remainder.Yields (upper ++ a) (upper' ++ b) (r.signExtend 64)

theorem setWidth_halves (upper a : BitVec 32) : (upper ++ a : Word).setWidth 32 = a :=
  BitVec.setWidth_append_eq_right

/-- Only the lower halves matter to a function of half words. -/
theorem onHalves_append (f : BitVec 32 → BitVec 32 → BitVec 32) (upper upper' a b : BitVec 32) :
    AluOp.onHalves f (upper ++ a) (upper' ++ b) = (f a b).signExtend 64 := by
  rw [AluOp.onHalves, setWidth_halves, setWidth_halves]

/-- The four pairs of divisions obey their law: those of signed and of unsigned words, and those of
the lower halves of words. The signs of the results of halves are extended, those of unsigned
divisions as well. -/
theorem divisions_lawful :
    DivideWords SignedDivision .div .rem ∧ DivideWords UnsignedDivision .divu .remu ∧
      DivideHalves SignedDivision .divw .remw ∧ DivideHalves UnsignedDivision .divuw .remuw := by
  refine ⟨fun a b => ?_, fun a b => ?_, fun a b => ?_, fun a b => ?_⟩
  · exact ⟨_, _, yields_eval (.inl rfl) a b, yields_eval (.inl rfl) a b,
      signedDivision (by decide) a b⟩
  · exact ⟨_, _, yields_eval (.inl rfl) a b, yields_eval (.inl rfl) a b, unsignedDivision a b⟩
  · refine ⟨_, _, signedDivision (by decide) a b, fun upper upper' => ?_⟩
    rw [← onHalves_append _ upper upper', ← onHalves_append _ upper upper']
    exact ⟨yields_eval (.inr rfl) _ _, yields_eval (.inr rfl) _ _⟩
  · refine ⟨_, _, unsignedDivision a b, fun upper upper' => ?_⟩
    rw [← onHalves_append _ upper upper', ← onHalves_append _ upper upper']
    exact ⟨yields_eval (.inr rfl) _ _, yields_eval (.inr rfl) _ _⟩

example : AluOp.divuw.eval 0x80000001 0x500000001 = 0xffffffff80000001 := by decide

end Mnemonic

/-! ### Multiplication -/

/-- How a word is read as a number. -/
inductive Reading
  | signed
  | unsigned
deriving DecidableEq, Repr

namespace Reading

/-- The number that is read. -/
def number {w : Nat} : Reading → BitVec w → Int
  | signed, a => a.toInt
  | unsigned, a => a.toNat

/-- The word of double width that is read as the same number. -/
def widen : Reading → Word → BitVec 128
  | signed, a => a.signExtend 128
  | unsigned, a => a.setWidth 128

/-- How the product of two numbers is read that are read so: it may be negative if one of them
may. -/
def product : Reading → Reading → Reading
  | unsigned, unsigned => unsigned
  | _, _ => signed

/-- Whether a product of double width leaves the range of the numbers that are read so. -/
def overflows : Reading → BitVec 128 → BitVec 128 → Bool
  | signed, x, y => x.smulOverflow y
  | unsigned, x, y => x.umulOverflow y

variable {left right : Reading}

theorem setWidth_widen (reading : Reading) (a : Word) : (reading.widen a).setWidth 64 = a := by
  cases reading with
  | signed =>
    ext i inside
    rw [widen, BitVec.getElem_setWidth, BitVec.getLsbD_signExtend]
    grind
  | unsigned => exact (BitVec.setWidth_setWidth_of_le a (by decide)).trans (BitVec.setWidth_eq a)

/-- At double width a word that is read as unsigned is the same number if it is read as signed. -/
theorem toInt_widen (reading : Reading) (a : Word) :
    (reading.widen a).toInt = reading.number a := by
  cases reading with
  | signed => exact BitVec.toInt_signExtend_of_le (by decide)
  | unsigned =>
    have small := a.isLt
    rw [widen, number, BitVec.toInt_setWidth, Int.bmod_eq_of_le] <;> omega

theorem toNat_widen_unsigned (a : Word) : (unsigned.widen a).toNat = a.toNat :=
  BitVec.toNat_setWidth_of_le (by decide)

theorem abs_number_lt (reading : Reading) (a : Word) : |reading.number a| < 2 ^ 64 := by
  have low := BitVec.le_toInt a
  have high := @BitVec.toInt_lt _ a
  have small := a.isLt
  rw [abs_lt]
  cases reading <;> simp only [number] <;> omega

theorem abs_number_signed_le (a : Word) : |signed.number a| ≤ 2 ^ 63 := by
  have low := BitVec.le_toInt a
  have high := @BitVec.toInt_lt _ a
  rw [abs_le]
  simp only [number]
  omega

/-- A factor that is read as signed has one bit less, which is the one that the sign of the product
takes. -/
theorem abs_mul_lt {x y : Int} (half : |x| ≤ 2 ^ 63) (whole : |y| < 2 ^ 64) :
    |x * y| < 2 ^ 127 := by
  calc |x * y| = |x| * |y| := abs_mul x y
    _ ≤ 2 ^ 63 * |y| := by gcongr
    _ < 2 ^ 63 * 2 ^ 64 := by gcongr
    _ = 2 ^ 127 := by norm_num

theorem smulOverflow_eq_false {x y : BitVec 128} (small : |x.toInt * y.toInt| < 2 ^ 127) :
    x.smulOverflow y = false := by
  rw [abs_lt] at small
  simp [BitVec.smulOverflow]
  omega

/-- No product of two words leaves the double width, however they are read. -/
theorem overflows_widen (left right : Reading) (a b : Word) :
    (left.product right).overflows (left.widen a) (right.widen b) = false := by
  cases left with
  | signed =>
    apply smulOverflow_eq_false
    rw [toInt_widen, toInt_widen]
    exact abs_mul_lt (abs_number_signed_le a) (abs_number_lt right b)
  | unsigned =>
    cases right with
    | signed =>
      apply smulOverflow_eq_false
      rw [toInt_widen, toInt_widen, mul_comm]
      exact abs_mul_lt (abs_number_signed_le b) (abs_number_lt unsigned a)
    | unsigned =>
      have below : a.toNat * b.toNat < 2 ^ 64 * 2 ^ 64 := Nat.mul_lt_mul'' a.isLt b.isLt
      simpa [product, overflows, BitVec.umulOverflow, toNat_widen_unsigned] using below

theorem number_mul {reading : Reading} {x y : BitVec 128}
    (fits : reading.overflows x y = false) :
    reading.number (x * y) = reading.number x * reading.number y := by
  cases reading with
  | signed => exact BitVec.toInt_mul_of_not_smulOverflow (Bool.eq_false_iff.mp fits)
  | unsigned =>
    have exact_product := BitVec.toNat_mul_of_not_umulOverflow (Bool.eq_false_iff.mp fits)
    rw [number, exact_product, Nat.cast_mul, number, number]

/-- The product at double width is the product of the numbers. -/
theorem number_widen_mul (left right : Reading) (a b : Word) :
    (left.product right).number (left.widen a * right.widen b) =
      left.number a * right.number b := by
  rw [number_mul (overflows_widen left right a b)]
  cases left <;> cases right <;>
    simp only [product, number, toInt_widen, toNat_widen_unsigned]

/-- A word of double width is put together from its upper and its lower word. -/
theorem upperHalf_append (x : BitVec 128) : AluOp.upperHalf x ++ x.setWidth 64 = x := by
  ext i inside
  rw [BitVec.getElem_append, AluOp.upperHalf]
  grind

theorem number_eq_upperHalf (reading : Reading) (x : BitVec 128) :
    reading.number x = reading.number (AluOp.upperHalf x) * 2 ^ 64 + (x.setWidth 64).toNat := by
  conv_lhs => rw [← upperHalf_append x]
  cases reading with
  | signed =>
    rw [number, BitVec.toInt_append, if_neg (by decide), number, mul_comm]
  | unsigned =>
    have together : (AluOp.upperHalf x ++ x.setWidth 64).toNat =
        (AluOp.upperHalf x).toNat * 2 ^ 64 + (x.setWidth 64).toNat := by
      rw [BitVec.toNat_append, ← Nat.shiftLeft_add_eq_or_of_lt (x.setWidth 64).isLt,
        Nat.shiftLeft_eq]
    rw [number, together, number]
    push_cast
    rfl

end Reading

namespace Mnemonic

/-- Beside the lower word of a product an operation gives the upper one. It takes it from a product
of double width, which has room for the product of the numbers, so that both words together are that
number. -/
def MultipliesHigh (m : Mnemonic) (left right : Reading) : Prop :=
  ∀ a b : Word, ∃ low high : Word, mul.Yields a b low ∧ m.Yields a b high ∧
    high = AluOp.upperHalf (left.widen a * right.widen b) ∧
    (left.product right).overflows (left.widen a) (right.widen b) = false ∧
    (left.product right).number high * 2 ^ 64 + low.toNat = left.number a * right.number b

/-- An operation gives the lower half of the lower word of a product and extends its sign, whatever
the upper halves of the factors are. -/
def MultipliesHalves (m : Mnemonic) : Prop :=
  ∀ a b : BitVec 32, ∃ product : BitVec 32, ∀ upper upper' : BitVec 32, ∃ low : Word,
    mul.Yields (upper ++ a) (upper' ++ b) low ∧ low.setWidth 32 = product ∧
      m.Yields (upper ++ a) (upper' ++ b) (product.signExtend 64)

theorem multipliesHigh {m : Mnemonic} {left right : Reading} (opcode : m.opcode = .op)
    (function : ∀ a b : Word,
      m.aluOp.eval a b = AluOp.upperHalf (left.widen a * right.widen b)) :
    m.MultipliesHigh left right := by
  intro a b
  have low : (left.widen a * right.widen b).setWidth 64 = a * b := by
    rw [BitVec.setWidth_mul _ _ (by decide), left.setWidth_widen, right.setWidth_widen]
  refine ⟨a * b, _, yields_eval (.inl rfl) a b, yields_eval (.inl opcode) a b, function a b,
    Reading.overflows_widen left right a b, ?_⟩
  rw [function, ← low, ← Reading.number_eq_upperHalf, Reading.number_widen_mul]

theorem multipliesHalves : mulw.MultipliesHalves := by
  intro a b
  refine ⟨a * b, fun upper upper' => ⟨_, yields_eval (.inl rfl) _ _, ?_, ?_⟩⟩
  · calc ((upper ++ a : Word) * (upper' ++ b : Word)).setWidth 32
        = (upper ++ a : Word).setWidth 32 * (upper' ++ b : Word).setWidth 32 :=
          BitVec.setWidth_mul _ _ (by decide)
      _ = a * b := by rw [setWidth_halves, setWidth_halves]
  · rw [← onHalves_append _ upper upper']
    exact yields_eval (.inr rfl) _ _

/-- The upper and the lower word of a product are the product of the numbers as which the operands
are read, both signed, the first signed, or none. The product of halves is the lower half of the
product, with its sign extended. -/
theorem products_exact :
    mulh.MultipliesHigh .signed .signed ∧ mulhsu.MultipliesHigh .signed .unsigned ∧
      mulhu.MultipliesHigh .unsigned .unsigned ∧ mulw.MultipliesHalves :=
  ⟨multipliesHigh rfl fun _ _ => rfl, multipliesHigh rfl fun _ _ => rfl,
    multipliesHigh rfl fun _ _ => rfl, multipliesHalves⟩

end Mnemonic

end FiveStage
