/-
This file proves that rounding keeps order. How a quotient compares with the halves between
whole numbers decides how it is rounded, and a quotient that is not greater is never rounded
to a greater number. The reciprocal of a greater number is never greater either: within one
power of two the significands are rounded in the same way, and a power of two itself, which
lies between any two others, is met exactly.
-/

import Mathlib.Tactic.Ring
import PanelLink.Rounding

namespace PanelLink.Rounding

/-! ### Whole numbers -/

/-- A quotient is rounded to a number or below exactly if it is less than the half above that
number, or equal to it and the number even. -/
theorem nearest_le_iff {numerator denominator : Nat} (positive : 0 < denominator) (bound : Nat) :
    nearest numerator denominator ≤ bound ↔
      2 * numerator < (2 * bound + 1) * denominator ∨
        2 * numerator = (2 * bound + 1) * denominator ∧ bound % 2 = 0 := by
  have parted : denominator * (numerator / denominator) + numerator % denominator = numerator :=
    Nat.div_add_mod numerator denominator
  have small : numerator % denominator < denominator := Nat.mod_lt _ positive
  generalize whole : numerator / denominator = quotient at parted
  generalize numerator % denominator = rest at parted small
  have near : nearest numerator denominator ≤ bound ↔
      quotient < bound ∨ quotient = bound ∧
        (2 * rest < denominator ∨ 2 * rest = denominator ∧ bound % 2 = 0) := by
    have same : numerator % denominator = rest := by
      rw [← parted, Nat.mul_add_mod, Nat.mod_eq_of_lt small]
    rw [nearest, whole, same]
    split
    · omega
    · split <;> omega
  have twice : 2 * numerator = 2 * (denominator * quotient) + 2 * rest := by omega
  have half : (2 * bound + 1) * denominator = 2 * (denominator * bound) + denominator := by ring
  rw [near, twice, half]
  rcases Nat.lt_trichotomy quotient bound with below | rfl | above
  · have step := Nat.mul_le_mul_left denominator (Nat.succ_le_of_lt below)
    rw [Nat.mul_succ] at step
    omega
  · omega
  · have step := Nat.mul_le_mul_left denominator (Nat.succ_le_of_lt above)
    rw [Nat.mul_succ] at step
    omega

/-- A quotient that is not greater is not rounded to a greater number. -/
theorem nearest_le_nearest {first second third fourth : Nat} (positive : 0 < second)
    (also : 0 < fourth) (ordered : first * fourth ≤ third * second) :
    nearest first second ≤ nearest third fourth := by
  rw [nearest_le_iff positive]
  generalize reached : nearest third fourth = bound
  have below := (nearest_le_iff also bound).mp (Nat.le_of_eq reached)
  -- Both quotients are compared with the same half, over the product of the denominators.
  have scaled : 2 * first * fourth ≤ 2 * third * second := by
    rw [Nat.mul_assoc, Nat.mul_assoc]
    exact Nat.mul_le_mul_left 2 ordered
  have swapped : (2 * bound + 1) * fourth * second = (2 * bound + 1) * second * fourth :=
    Nat.mul_right_comm ..
  rcases below with less | ⟨tie, even⟩
  · left
    have strict := (Nat.mul_lt_mul_right positive).mpr less
    rw [swapped] at strict
    exact Nat.lt_of_mul_lt_mul_right (Nat.lt_of_le_of_lt scaled strict)
  · have reach : 2 * first ≤ (2 * bound + 1) * second := by
      rw [tie, swapped] at scaled
      exact Nat.le_of_mul_le_mul_right scaled also
    rcases Nat.lt_or_eq_of_le reach with less | same
    · exact .inl less
    · exact .inr ⟨same, even⟩

/-- A whole number is rounded to itself. -/
theorem nearest_mul (whole : Nat) {denominator : Nat} (positive : 0 < denominator) :
    nearest (whole * denominator) denominator = whole := by
  rw [nearest, Nat.mul_div_cancel _ positive, Nat.mul_mod_left]
  exact if_pos positive

/-! ### Powers of two -/

theorem le_two_pow_ceilingLog (number : Nat) : number ≤ Nat.pow 2 (ceilingLog number) := by
  rw [ceilingLog]
  split
  · assumption
  · exact Nat.le_of_pred_lt Nat.lt_log2_self

theorem two_pow_lt_of_lt_ceilingLog {number exponent : Nat} (below : exponent < ceilingLog number) :
    Nat.pow 2 exponent < number := by
  rw [ceilingLog] at below
  split at below
  · exact absurd below (Nat.not_lt_zero _)
  · rename_i large
    have bound : Nat.pow 2 exponent ≤ number - 1 :=
      Nat.le_trans (Nat.pow_le_pow_right Nat.two_pos (Nat.le_of_lt_succ below))
        (Nat.log2_self_le (by omega))
    omega

/-! ### Reciprocals -/

/-- The reciprocal of a greater number is not greater, as a fraction. -/
theorem reciprocal_antitone {fewer more : Nat} (positive : 0 < fewer) (ordered : fewer ≤ more) :
    (reciprocal more).significand * Nat.pow 2 (reciprocal fewer).places ≤
      (reciprocal fewer).significand * Nat.pow 2 (reciprocal more).places := by
  have also : 0 < more := Nat.lt_of_lt_of_le positive ordered
  rcases Nat.lt_trichotomy (ceilingLog fewer) (ceilingLog more) with below | same | above
  · -- A power of two lies between the two reciprocals.
    have lower : 2 ^ 52 ≤ (reciprocal fewer).significand := by
      rw [← nearest_mul (2 ^ 52) positive]
      refine nearest_le_nearest positive positive (Nat.mul_le_mul_right _ ?_)
      rw [significandBits, Nat.pow_eq, Nat.pow_add]
      exact Nat.mul_le_mul_left _ (le_two_pow_ceilingLog fewer)
    have upper : (reciprocal more).significand ≤ 2 ^ 53 := by
      obtain ⟨exponent, known⟩ := Nat.exists_eq_succ_of_ne_zero (Nat.ne_zero_of_lt below)
      rw [← nearest_mul (2 ^ 53) also]
      refine nearest_le_nearest also also (Nat.mul_le_mul_right _ ?_)
      rw [significandBits, known, Nat.pow_eq, Nat.add_succ, ← Nat.succ_add, Nat.pow_add]
      have passed := two_pow_lt_of_lt_ceilingLog (known ▸ Nat.lt_succ_self exponent)
      exact Nat.mul_le_mul_left _ (Nat.le_of_lt passed)
    calc (reciprocal more).significand * Nat.pow 2 (reciprocal fewer).places
        ≤ 2 ^ 53 * 2 ^ (52 + ceilingLog fewer) := Nat.mul_le_mul_right _ upper
      _ = 2 ^ 52 * 2 ^ (52 + (ceilingLog fewer + 1)) := by ring
      _ ≤ 2 ^ 52 * 2 ^ (52 + ceilingLog more) :=
        Nat.mul_le_mul_left _ (Nat.pow_le_pow_right Nat.two_pos (Nat.add_le_add_left below 52))
      _ ≤ (reciprocal fewer).significand * Nat.pow 2 (reciprocal more).places :=
        Nat.mul_le_mul_right _ lower
  · have places : (reciprocal fewer).places = (reciprocal more).places :=
      congrArg (significandBits - 1 + ·) same
    rw [places]
    refine Nat.mul_le_mul_right _ (nearest_le_nearest also positive ?_)
    rw [← same]
    exact Nat.mul_le_mul_left _ ordered
  · have passed := two_pow_lt_of_lt_ceilingLog above
    exact absurd (ordered.trans (le_two_pow_ceilingLog more)) (Nat.not_le.mpr passed)

/-- So no multiple of it is rounded to a greater number. -/
theorem times_reciprocal_antitone {fewer more : Nat} (positive : 0 < fewer)
    (ordered : fewer ≤ more) (factor : Nat) :
    (reciprocal more).times factor ≤ (reciprocal fewer).times factor := by
  refine nearest_le_nearest (Nat.two_pow_pos _) (Nat.two_pow_pos _) ?_
  rw [Nat.mul_right_comm, Nat.mul_right_comm _ factor]
  exact Nat.mul_le_mul_right factor (reciprocal_antitone positive ordered)

end PanelLink.Rounding
