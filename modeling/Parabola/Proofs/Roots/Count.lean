import Mathlib.Algebra.QuadraticDiscriminant
import Mathlib.Analysis.Real.Sqrt
import Mathlib.Data.BitVec
import Mathlib.Data.Set.Card
import Parabola.Proofs.Equation.Progress
import Parabola.Proofs.Roots.Formula

/-!
The number of roots. The sign of the discriminant tells how many real solutions the exact equation
has, and the registers in which the discriminant is worked out hold it without loss.
-/

namespace Parabola.Trinomial

variable {t : Trinomial}

/-! Solutions -/

def solutions (t : Trinomial) : Set ℝ := {x | t.a.val * x ^ 2 + t.b.val * x + t.c.val = 0}

theorem cast_discriminant (t : Trinomial) :
    discrim (t.a.val : ℝ) t.b.val t.c.val = t.discriminant := by
  unfold discrim discriminant
  push_cast
  ring

theorem mem_solutions_iff {x : ℝ} :
    x ∈ t.solutions ↔ t.a.val * (x * x) + t.b.val * x + t.c.val = 0 := by
  rw [← pow_two]
  exact Iff.rfl

theorem solutions_none (negative : t.discriminant < 0) : t.solutions = ∅ := by
  have below : (t.discriminant : ℝ) < 0 := Int.cast_lt_zero.mpr negative
  refine Set.eq_empty_of_forall_notMem fun x member => ?_
  refine quadratic_ne_zero_of_discrim_ne_sq (fun s => ?_) x (mem_solutions_iff.mp member)
  rw [cast_discriminant]
  exact (below.trans_le (sq_nonneg s)).ne

theorem solutions_one (square : t.a.val ≠ 0) (vanishes : t.discriminant = 0) :
    t.solutions = {-(t.b.val : ℝ) / (2 * t.a.val)} := by
  have same : discrim (t.a.val : ℝ) t.b.val t.c.val = 0 := by
    rw [cast_discriminant, vanishes, Int.cast_zero]
  ext x
  rw [mem_solutions_iff, Set.mem_singleton_iff]
  exact quadratic_eq_zero_iff_of_discrim_eq_zero (Int.cast_ne_zero.mpr square) same x

theorem solutions_two (square : t.a.val ≠ 0) (natural : 0 ≤ t.discriminant) :
    t.solutions = {(-(t.b.val : ℝ) + √t.discriminant) / (2 * t.a.val),
      (-(t.b.val : ℝ) - √t.discriminant) / (2 * t.a.val)} := by
  have same : discrim (t.a.val : ℝ) t.b.val t.c.val = √t.discriminant * √t.discriminant := by
    rw [cast_discriminant, Real.mul_self_sqrt (Int.cast_nonneg natural)]
  ext x
  rw [mem_solutions_iff, Set.mem_insert_iff, Set.mem_singleton_iff]
  exact quadratic_eq_zero_iff (Int.cast_ne_zero.mpr square) same x

theorem solutions_differ (square : t.a.val ≠ 0) (positive : 0 < t.discriminant) :
    (-(t.b.val : ℝ) + √t.discriminant) / (2 * t.a.val) ≠
      (-(t.b.val : ℝ) - √t.discriminant) / (2 * t.a.val) := by
  intro same
  have numerators := (div_left_inj' (divisor_ne_zero square)).mp same
  linarith [exact_root_pos positive]

/-! Registers -/

/-- The integers of `workings` in registers of 128 bits, where every operation wraps around. -/
def registers (t : Trinomial) : List (BitVec 128) :=
  let a := BitVec.ofInt 128 t.a.val
  let b := BitVec.ofInt 128 t.b.val
  let c := BitVec.ofInt 128 t.c.val
  [b * b, 4 * a, 4 * a * c, b * b - 4 * a * c, 2 * a, -b]

theorem registers_eq (t : Trinomial) : t.registers = t.workings.map (BitVec.ofInt 128) := by
  simp [registers, workings, discriminant, sub_eq_add_neg, BitVec.ofInt_add, BitVec.ofInt_mul,
    BitVec.ofInt_neg]

theorem toInt_register {n : ℤ} (fits : InBits 128 n) : (BitVec.ofInt 128 n).toInt = n :=
  BitVec.toInt_ofInt_eq_self (by decide) fits.1 fits.2

theorem registers_exact (t : Trinomial) : t.registers.map BitVec.toInt = t.workings := by
  rw [registers_eq, List.map_map]
  refine (List.map_congr_left fun n member => ?_).trans (List.map_id _)
  exact toInt_register (in_bits_of_natAbs ((t.workings_natAbs_le n member).trans_lt (by decide)))

/-! Both -/

theorem count_exact (square : t.a.val ≠ 0) :
    (∃ roots, t.solve = .ok roots ∧ t.solutions.encard = roots.count) ∧
      t.registers.map BitVec.toInt = t.workings := by
  refine ⟨?_, t.registers_exact⟩
  rcases lt_trichotomy t.discriminant 0 with negative | vanishes | positive
  · exact ⟨_, solve_none square negative, by rw [solutions_none negative, Set.encard_empty]; rfl⟩
  · exact ⟨_, solve_one square vanishes,
      by rw [solutions_one square vanishes, Set.encard_singleton]; rfl⟩
  · exact ⟨_, solve_two square positive,
      by rw [solutions_two square positive.le, Set.encard_pair (solutions_differ square positive)]; rfl⟩

/-- Products that take 65 bits. -/
theorem count_exact_extreme :
    let least : Signed32 := ⟨-2147483648, by decide, by decide⟩
    let t : Trinomial := ⟨least, least, ⟨2147483647, by decide, by decide⟩⟩
    t.a.val ≠ 0 ∧ t.solutions.encard = 2 ∧
      t.registers.map BitVec.toInt = [4611686018427387904, -8589934592, -18446744065119617024,
        23058430083547004928, -4294967296, 2147483648] := by
  intro least t
  have square : t.a.val ≠ 0 := by decide
  obtain ⟨⟨roots, solved, count⟩, exact⟩ := count_exact square
  rw [solve_two square (by decide)] at solved
  obtain rfl := Except.ok.inj solved
  exact ⟨square, count, exact⟩

end Parabola.Trinomial
