import FiveStage.Cache.Geometry
import FiveStage.Proofs.Outcome
import Mathlib.Algebra.Order.Ring.Nat
import Mathlib.Tactic.SplitIfs

/-!
# The geometries a cache can have

A geometry is accepted if its sets are a power of two and share out the blocks of its size, whatever
its number of ways is said to be. A size and a number of ways make a geometry if and only if they
leave a power of two for the sets.

## Main results

* `Geometry.fault?_eq_none_iff`: the geometries that are accepted
* `Geometry.make_eq_ok_iff`: the sizes and numbers of ways that make a geometry, and which one
-/

namespace FiveStage

theorem isPowerOfTwo_iff {n : Nat} : isPowerOfTwo n = true ↔ ∃ k, n = 2 ^ k := by
  by_cases zero : n = 0
  · subst zero
    have pos (k : Nat) : 0 ≠ 2 ^ k := (Nat.two_pow_pos k).ne
    simpa [isPowerOfTwo] using pos
  · simp only [isPowerOfTwo, Bool.and_eq_true, bne_iff_ne, beq_iff_eq, ne_eq, zero,
      not_false_eq_true, true_and]
    exact Nat.and_sub_one_eq_zero_iff_isPowerOfTwo zero

namespace Geometry

variable {geometry : Geometry} {size ways : Nat} {writeThrough writeAllocate : Bool}

/-- A geometry is accepted if its sets are a power of two and share out its blocks. -/
theorem fault?_eq_none_iff :
    geometry.fault? = none ↔
      0 < geometry.size ∧ blockSize ∣ geometry.size ∧ geometry.sets ∣ geometry.entries ∧
        ∃ k, geometry.sets = 2 ^ k := by
  have sets_pos (power : isPowerOfTwo geometry.sets = true) : geometry.sets ≠ 0 := by
    rintro zero
    rw [zero] at power
    cases power
  simp only [Nat.dvd_iff_mod_eq_zero, ← isPowerOfTwo_iff, Nat.pos_iff_ne_zero]
  unfold fault?
  -- one case for each check that may refuse the geometry, in their order, and one for none
  split_ifs with size sets power
  · exact iff_of_false nofun fun ⟨positive, whole, _⟩ => size.elim positive (· whole)
  · exact iff_of_false nofun fun ⟨_, _, shared, power⟩ => sets.elim (sets_pos power) (· shared)
  · obtain ⟨positive, whole⟩ := not_or.mp size
    obtain ⟨-, shared⟩ := not_or.mp sets
    exact iff_of_true rfl ⟨positive, not_not.mp whole, not_not.mp shared, power⟩
  · exact iff_of_false nofun fun ⟨_, _, _, power'⟩ => power power'

theorem validate_eq_ok_iff : geometry.validate = .ok () ↔ geometry.fault? = none := by
  unfold validate
  split
  · next refused => simp [refused]
  · next accepted => simp [accepted]

/-- A whole number of sets of so many ways has that many lines. -/
theorem entries_mul {k : Nat} :
    entries ⟨ways * blockSize * 2 ^ k, ways, 2 ^ k, writeThrough, writeAllocate⟩ =
      ways * 2 ^ k := by
  rw [entries, Nat.mul_right_comm, Nat.mul_div_cancel _ (by decide)]

theorem fault?_mul_eq_none {k : Nat} (one_le : 1 ≤ ways) :
    fault? ⟨ways * blockSize * 2 ^ k, ways, 2 ^ k, writeThrough, writeAllocate⟩ = none := by
  refine fault?_eq_none_iff.mpr ⟨?_, ?_, ?_, k, rfl⟩
  · exact Nat.mul_pos (Nat.mul_pos one_le (by decide)) (Nat.two_pow_pos k)
  · exact ⟨ways * 2 ^ k, by rw [Nat.mul_comm ways, Nat.mul_assoc]⟩
  · exact ⟨ways, entries_mul.trans (Nat.mul_comm ..)⟩

/-- A size and a number of ways make a geometry if they leave a power of two for the sets. -/
theorem make_eq_ok_iff :
    make size ways writeThrough writeAllocate = .ok geometry ↔
      1 ≤ ways ∧ ways * blockSize < 2 ^ 64 ∧ ∃ k, size = ways * blockSize * 2 ^ k ∧
        geometry = ⟨size, ways, 2 ^ k, writeThrough, writeAllocate⟩ := by
  have positive : ways * blockSize ≠ 0 ↔ 1 ≤ ways := by
    simp only [blockSize]
    omega
  simp only [make, Nat.one_shiftLeft]
  constructor
  · intro made
    split at made
    · next fits =>
      obtain ⟨countable, nonzero, whole⟩ := fits
      obtain ⟨_, valid, same⟩ := bind_eq_ok_iff.mp made
      obtain rfl := Except.ok.inj same
      obtain ⟨-, -, -, k, sets⟩ := fault?_eq_none_iff.mp (validate_eq_ok_iff.mp valid)
      replace sets : size / (ways * blockSize) = 2 ^ k := sets
      refine ⟨positive.mp nonzero, countable, k, ?_, by rw [sets]⟩
      rw [← sets, Nat.mul_div_cancel' (Nat.dvd_of_mod_eq_zero whole)]
    · cases made
  · rintro ⟨one_le, countable, k, rfl, rfl⟩
    have nonzero : ways * blockSize ≠ 0 := positive.mpr one_le
    have sets : ways * blockSize * 2 ^ k / (ways * blockSize) = 2 ^ k :=
      Nat.mul_div_cancel_left _ (Nat.pos_of_ne_zero nonzero)
    rw [if_pos ⟨countable, nonzero, Nat.mul_mod_right ..⟩, sets,
      validate_eq_ok_iff.mpr (fault?_mul_eq_none one_le)]
    rfl

theorem fault?_eq_none_of_make
    (made : make size ways writeThrough writeAllocate = .ok geometry) : geometry.fault? = none := by
  obtain ⟨one_le, -, k, rfl, rfl⟩ := make_eq_ok_iff.mp made
  exact fault?_mul_eq_none one_le

theorem entries_pos (accepted : geometry.fault? = none) : 0 < geometry.entries := by
  obtain ⟨positive, whole, -⟩ := fault?_eq_none_iff.mp accepted
  exact Nat.div_pos (Nat.le_of_dvd positive whole) (by decide)

end Geometry

end FiveStage
