import Mathlib.Tactic.Ring
import Parabola.Proofs.Binary64.Operations
import Parabola.Roots

/-!
How large the integers grow that a trinomial is solved with.
-/

namespace Parabola

namespace Signed32

theorem natAbs_le (n : Signed32) : n.val.natAbs ≤ 2 ^ 31 := by
  have least := n.least_le
  have greatest := n.le_greatest
  omega

theorem mul_natAbs_le (n m : Signed32) : (n.val * m.val).natAbs ≤ 2 ^ 62 := by
  rw [Int.natAbs_mul]
  exact (Nat.mul_le_mul n.natAbs_le m.natAbs_le).trans (by decide)

end Signed32

namespace Trinomial

/-- The integers that the formula goes through, in the order in which they are worked out. -/
def workings (t : Trinomial) : List Int :=
  [t.b.val * t.b.val, 4 * t.a.val, 4 * t.a.val * t.c.val, t.discriminant, 2 * t.a.val, -t.b.val]

theorem discriminant_natAbs_le (t : Trinomial) : t.discriminant.natAbs ≤ 5 * 2 ^ 62 := by
  have square := t.b.mul_natAbs_le t.b
  have product := t.a.mul_natAbs_le t.c
  have regrouped : 4 * t.a.val * t.c.val = 4 * (t.a.val * t.c.val) := by ring
  unfold discriminant
  rw [regrouped]
  omega

theorem workings_natAbs_le (t : Trinomial) : ∀ n ∈ t.workings, n.natAbs ≤ 5 * 2 ^ 62 := by
  have square := t.b.mul_natAbs_le t.b
  have product := t.a.mul_natAbs_le t.c
  have regrouped : 4 * t.a.val * t.c.val = 4 * (t.a.val * t.c.val) := by ring
  have a := t.a.natAbs_le
  have b := t.b.natAbs_le
  have discriminant := t.discriminant_natAbs_le
  simp only [workings, List.forall_mem_cons, regrouped]
  refine ⟨by omega, by omega, by omega, discriminant, by omega, by omega, by simp⟩

end Trinomial

end Parabola

/-!
The formula stage by stage. The divisor and the shared part of the numerators are exact, and every
other stage is rounded once from what the stage before it came to. Nothing overflows: no magnitude
on the way exceeds 2^66. Nor is anything subnormal: even where a numerator nearly cancels, it is a
whole number of units of 2^-52.
-/

namespace Parabola.Trinomial

open Binary64

variable (t : Trinomial)

theorem divisor_exact : t.divisor.isFinite = true ∧ t.divisor.value = 2 * t.a.val := by
  have magnitude := t.a.natAbs_le
  obtain ⟨finite, value⟩ := ofInt_exact (n := 2 * t.a.val) (by omega)
  exact ⟨finite, value.trans (by push_cast; rfl)⟩

theorem minusB_exact : t.minusB.isFinite = true ∧ t.minusB.value = -t.b.val := by
  have magnitude := t.b.natAbs_le
  obtain ⟨finite, value⟩ := ofInt_exact (n := -t.b.val) (by omega)
  exact ⟨finite, value.trans (by push_cast; rfl)⟩

theorem abs_discriminant_le : |(t.discriminant : ℝ)| ≤ 2 ^ (66 : ℤ) := by
  have magnitude : t.discriminant.natAbs ≤ 2 ^ 66 :=
    t.discriminant_natAbs_le.trans (by decide)
  rw [← cast_natAbs]
  exact_mod_cast magnitude

theorem discriminant_nearest : Nearest t.discriminant (ofInt t.discriminant) :=
  ofInt_nearest (abs_lt_greatest t.abs_discriminant_le (by decide))

theorem rounded_discriminant_bounds (natural : 0 ≤ t.discriminant) :
    0 ≤ (ofInt t.discriminant).value ∧ (ofInt t.discriminant).value ≤ 2 ^ (66 : ℤ) := by
  have nearest := t.discriminant_nearest
  constructor
  · exact nearest.le_value isValue_zero (by exact_mod_cast natural)
  · exact nearest.value_le (isValue_two_zpow (by decide) (by decide))
      ((le_abs_self _).trans t.abs_discriminant_le)

theorem root_nearest (natural : 0 ≤ t.discriminant) :
    Nearest √(ofInt t.discriminant).value t.rootOfDiscriminant :=
  sqrt_nearest t.discriminant_nearest.finite (t.rounded_discriminant_bounds natural).1

theorem abs_exact_sqrt_le (natural : 0 ≤ t.discriminant) :
    |√(ofInt t.discriminant).value| ≤ 2 ^ (33 : ℤ) := by
  rw [abs_of_nonneg (Real.sqrt_nonneg _), Real.sqrt_le_left (two_zpow_pos _).le, ← zpow_natCast,
    ← zpow_mul]
  exact (t.rounded_discriminant_bounds natural).2

theorem abs_sqrt_le (natural : 0 ≤ t.discriminant) : |t.rootOfDiscriminant.value| ≤ 2 ^ (33 : ℤ) :=
  (t.root_nearest natural).abs_le_two_zpow (by decide) (by decide) (t.abs_exact_sqrt_le natural)

variable {t} {r n : Binary64}

theorem abs_sum_le (small : |r.value| ≤ 2 ^ (33 : ℤ)) : |-t.b.val + r.value| ≤ 2 ^ (34 : ℤ) := by
  have magnitude : |(t.b.val : ℝ)| ≤ 2 ^ (33 : ℤ) := by
    rw [← cast_natAbs]
    exact_mod_cast t.b.natAbs_le.trans (by decide)
  calc |-(t.b.val : ℝ) + r.value| ≤ |-(t.b.val : ℝ)| + |r.value| := abs_add_le _ _
    _ ≤ 2 ^ (33 : ℤ) + 2 ^ (33 : ℤ) := add_le_add (by rwa [abs_neg]) small
    _ = 2 ^ (34 : ℤ) := by norm_num

theorem numerator_nearest (finite : r.isFinite = true) (small : |r.value| ≤ 2 ^ (33 : ℤ)) :
    Nearest (-t.b.val + r.value) (t.minusB.add r) := by
  obtain ⟨plain, value⟩ := t.minusB_exact
  rw [← value]
  refine add_nearest plain finite ?_
  rw [value]
  exact abs_lt_greatest (abs_sum_le small) (by decide)

theorem abs_numerator_le (finite : r.isFinite = true) (small : |r.value| ≤ 2 ^ (33 : ℤ)) :
    |(t.minusB.add r).value| ≤ 2 ^ (34 : ℤ) :=
  (numerator_nearest finite small).abs_le_two_zpow (by decide) (by decide) (abs_sum_le small)

theorem one_le_abs_divisor (square : t.a.val ≠ 0) : (1 : ℝ) ≤ |2 * (t.a.val : ℝ)| := by
  have whole : 1 ≤ |2 * t.a.val| := Int.one_le_abs (by omega)
  exact_mod_cast whole

theorem divisor_ne_zero (square : t.a.val ≠ 0) : 2 * (t.a.val : ℝ) ≠ 0 :=
  abs_pos.mp (one_pos.trans_le (one_le_abs_divisor square))

theorem abs_quotient_le {x : ℝ} {k : ℤ} (square : t.a.val ≠ 0) (small : |x| ≤ 2 ^ k) :
    |x / (2 * t.a.val)| ≤ 2 ^ k := by
  rw [abs_div]
  exact (div_le_self (abs_nonneg x) (one_le_abs_divisor square)).trans small

theorem quotient_nearest (square : t.a.val ≠ 0) (finite : n.isFinite = true)
    (small : |n.value| ≤ 2 ^ (34 : ℤ)) : Nearest (n.value / (2 * t.a.val)) (n.div t.divisor) := by
  obtain ⟨plain, value⟩ := t.divisor_exact
  have some := divisor_ne_zero square
  have bounded := abs_quotient_le square small
  rw [← value] at some bounded ⊢
  exact div_nearest finite plain some (abs_lt_greatest bounded (by decide))

theorem minusB_small (t : Trinomial) : |t.minusB.value| ≤ 2 ^ (34 : ℤ) := by
  rw [t.minusB_exact.2, abs_neg, ← cast_natAbs]
  exact_mod_cast t.b.natAbs_le.trans (by decide)

theorem double_nearest (square : t.a.val ≠ 0) :
    Nearest (t.minusB.value / (2 * t.a.val)) (t.minusB.div t.divisor) :=
  quotient_nearest square t.minusB_exact.1 t.minusB_small

/-! Branches -/

/-- One branch of the formula, in which a summand is added to `-b`. -/
def branch (t : Trinomial) (r : Binary64) : Binary64 := (t.minusB.add r).div t.divisor

theorem solve_none (square : t.a.val ≠ 0) (negative : t.discriminant < 0) :
    t.solve = .ok .none := by
  rw [solve, if_neg square, if_pos negative]

theorem solve_one (square : t.a.val ≠ 0) (vanishes : t.discriminant = 0) :
    t.solve = .ok (.one (t.minusB.div t.divisor)) := by
  rw [solve, if_neg square, if_neg (by omega), if_pos vanishes]

theorem solve_two (square : t.a.val ≠ 0) (positive : 0 < t.discriminant) :
    t.solve = .ok (.two (t.branch t.rootOfDiscriminant) (t.branch t.rootOfDiscriminant.neg)) := by
  rw [solve, if_neg square, if_neg (by omega), if_neg (by omega)]
  rfl

/-- What the rounded square root of a positive discriminant is under either sign. -/
structure Summand (r : Binary64) : Prop where
  finite : r.isFinite = true
  large : 1 ≤ |r.value|
  small : |r.value| ≤ 2 ^ (33 : ℤ)

theorem Summand.neg (summand : Summand r) : Summand r.neg where
  finite := summand.finite
  large := by rw [value_neg, abs_neg]; exact summand.large
  small := by rw [value_neg, abs_neg]; exact summand.small

theorem one_le_rounded (positive : 0 < t.discriminant) : 1 ≤ (ofInt t.discriminant).value := by
  have held : IsValue 1 := by exact_mod_cast isValue_int (n := 1) (by decide)
  exact t.discriminant_nearest.le_value held (by exact_mod_cast positive)

theorem one_le_root (positive : 0 < t.discriminant) : 1 ≤ t.rootOfDiscriminant.value := by
  have held : IsValue 1 := by exact_mod_cast isValue_int (n := 1) (by decide)
  exact (t.root_nearest positive.le).le_value held
    (Real.one_le_sqrt.mpr (one_le_rounded positive))

theorem root_pos (positive : 0 < t.discriminant) : 0 < t.rootOfDiscriminant.value :=
  one_pos.trans_le (one_le_root positive)

theorem exact_root_pos (positive : 0 < t.discriminant) : 0 < √(t.discriminant : ℝ) :=
  Real.sqrt_pos.mpr (Int.cast_pos.mpr positive)

theorem discriminant_relative (positive : 0 < t.discriminant) :
    |(ofInt t.discriminant).value - t.discriminant| ≤ 2 ^ (-53 : ℤ) * t.discriminant := by
  have one : (1 : ℝ) ≤ t.discriminant := by exact_mod_cast positive
  have error := t.discriminant_nearest.relative_of_one_le (one.trans (le_abs_self _))
    (abs_lt_greatest t.abs_discriminant_le (by decide))
  rwa [abs_of_pos (one_pos.trans_le one)] at error

theorem root_relative (positive : 0 < t.discriminant) :
    |t.rootOfDiscriminant.value - √(ofInt t.discriminant).value| ≤
      2 ^ (-53 : ℤ) * √(ofInt t.discriminant).value := by
  have error := (t.root_nearest positive.le).relative_of_one_le
    ((Real.one_le_sqrt.mpr (one_le_rounded positive)).trans (le_abs_self _))
    (abs_lt_greatest (t.abs_exact_sqrt_le positive.le) (by decide))
  rwa [abs_of_nonneg (Real.sqrt_nonneg _)] at error

theorem root_summand (positive : 0 < t.discriminant) : Summand t.rootOfDiscriminant where
  finite := (t.root_nearest positive.le).finite
  large := (one_le_root positive).trans (le_abs_self _)
  small := t.abs_sqrt_le positive.le

theorem whole_of_one_le (large : 1 ≤ |r.value|) : ∃ k : ℤ, r.value = k * 2 ^ (-52 : ℤ) := by
  refine whole_of_large ?_
  rwa [neg_add_cancel, zpow_zero]

theorem sum_whole (summand : Summand r) (some : -(t.b.val : ℝ) + r.value ≠ 0) :
    2 ^ (-52 : ℤ) ≤ |-(t.b.val : ℝ) + r.value| := by
  obtain ⟨k, whole⟩ := whole_of_one_le summand.large
  have sum : -(t.b.val : ℝ) + r.value = (k - t.b.val * 2 ^ 52 : ℤ) * 2 ^ (-52 : ℤ) := by
    rw [whole]
    push_cast
    norm_num
    ring
  rw [sum] at some ⊢
  have units : 1 ≤ |k - t.b.val * 2 ^ 52| := by
    refine Int.one_le_abs fun none => some ?_
    rw [none, Int.cast_zero, zero_mul]
  rw [abs_mul, abs_of_pos (two_zpow_pos (-52))]
  exact le_mul_of_one_le_left (two_zpow_pos _).le (by exact_mod_cast units)

theorem summed (summand : Summand r) : Nearest (-t.b.val + r.value) (t.minusB.add r) :=
  numerator_nearest summand.finite summand.small

theorem numerator_low (summand : Summand r) (some : (t.minusB.add r).value ≠ 0) :
    2 ^ (-52 : ℤ) ≤ |(t.minusB.add r).value| := by
  refine (summed summand).two_zpow_le_abs (by decide) (by decide)
    (sum_whole summand fun vanishes => some ?_)
  rw [(summed summand).exact (vanishes ▸ isValue_zero), vanishes]

theorem quotient_normal {n : ℝ} (square : t.a.val ≠ 0) (low : 2 ^ (-52 : ℤ) ≤ |n|) :
    2 ^ (-1022 : ℤ) ≤ |n / (2 * t.a.val)| := by
  have one := one_le_abs_divisor square
  have magnitude : |2 * (t.a.val : ℝ)| ≤ 2 ^ (32 : ℤ) := by
    have bound : (2 * t.a.val).natAbs ≤ 2 ^ 32 := by
      have coefficient := t.a.natAbs_le
      omega
    have cast : ((2 * t.a.val : ℤ) : ℝ) = 2 * t.a.val := by push_cast; rfl
    rw [← cast, ← cast_natAbs]
    exact_mod_cast bound
  rw [abs_div, le_div_iff₀ (one_pos.trans_le one)]
  calc (2 : ℝ) ^ (-1022 : ℤ) * |2 * (t.a.val : ℝ)| ≤ 2 ^ (-1022 : ℤ) * 2 ^ (32 : ℤ) :=
        mul_le_mul_of_nonneg_left magnitude (two_zpow_pos _).le
    _ = 2 ^ (-1022 + 32 : ℤ) := (zpow_add₀ two_ne_zero _ _).symm
    _ ≤ 2 ^ (-52 : ℤ) := zpow_le_zpow_right₀ one_le_two (by decide)
    _ ≤ |n| := low

theorem branch_nearest (square : t.a.val ≠ 0) (summand : Summand r) :
    Nearest ((t.minusB.add r).value / (2 * t.a.val)) (t.branch r) :=
  quotient_nearest square (summed summand).finite (abs_numerator_le summand.finite summand.small)

theorem branch_normal (square : t.a.val ≠ 0) (summand : Summand r)
    (some : (t.minusB.add r).value / (2 * t.a.val) ≠ 0) :
    2 ^ (-1022 : ℤ) ≤ |(t.minusB.add r).value / (2 * t.a.val)| := by
  refine quotient_normal square (numerator_low summand fun vanishes => some ?_)
  rw [vanishes, zero_div]

/-- Multiplied by the divisor, a root is off its numerator by at most one part in 2^53. -/
theorem branch_scaled (square : t.a.val ≠ 0) (summand : Summand r) :
    |2 * t.a.val * (t.branch r).value - (t.minusB.add r).value| ≤
      2 ^ (-53 : ℤ) * |(t.minusB.add r).value| := by
  have bounded := abs_numerator_le (t := t) summand.finite summand.small
  have near := (branch_nearest square summand).relative (branch_normal square summand)
    (abs_lt_greatest (abs_quotient_le square bounded) (by decide))
  have difference : 2 * t.a.val * (t.branch r).value - (t.minusB.add r).value =
      2 * t.a.val * ((t.branch r).value - (t.minusB.add r).value / (2 * t.a.val)) := by
    rw [mul_sub, mul_div_cancel₀ _ (divisor_ne_zero square)]
  rw [abs_div, ← mul_div_assoc, le_div_iff₀ (abs_pos.mpr (divisor_ne_zero square))] at near
  rw [difference, abs_mul, mul_comm]
  exact near

end Parabola.Trinomial
