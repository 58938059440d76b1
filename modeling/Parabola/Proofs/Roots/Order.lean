import Parabola.Proofs.Roots.Formula

/-!
How well the roots fit their exact formula. Each of the four roundings behind a root changes what it
rounds by at most one part in 2^53, since nothing on the way is subnormal.
-/

namespace Parabola

open Binary64

theorem abs_sqrt_sub_le {x y u : ℝ} (natural : 0 ≤ x) (positive : 0 < y)
    (near : |x - y| ≤ u * y) : |√x - √y| ≤ u * √y := by
  have root := Real.sqrt_pos.mpr positive
  have product : |√x - √y| * (√x + √y) = |x - y| := by
    have squares : (√x - √y) * (√x + √y) = √x ^ 2 - √y ^ 2 := by ring
    rw [← abs_of_nonneg (add_nonneg (Real.sqrt_nonneg x) root.le), ← abs_mul, squares,
      Real.sq_sqrt natural, Real.sq_sqrt positive.le]
  refine le_of_mul_le_mul_right ?_ root
  calc |√x - √y| * √y ≤ |√x - √y| * (√x + √y) :=
        mul_le_mul_of_nonneg_left (le_add_of_nonneg_left (Real.sqrt_nonneg x)) (abs_nonneg _)
    _ ≤ u * y := product.trans_le near
    _ = u * √y * √y := by rw [mul_assoc, Real.mul_self_sqrt positive.le]

/-- Three errors of one part in 2^53, the first of them threefold, come to less than one in 2^50. -/
theorem abs_composed_le {b r q numerator product : ℝ}
    (near : |r - q| ≤ 3 * 2 ^ (-53 : ℤ) * |q|)
    (sum : |numerator - (-b + r)| ≤ 2 ^ (-53 : ℤ) * |-b + r|)
    (scaled : |product - numerator| ≤ 2 ^ (-53 : ℤ) * |numerator|) :
    |product + b - q| ≤ 2 ^ (-50 : ℤ) * (|b| + |q|) := by
  have path : product + b - q = product - numerator + (numerator - (-b + r)) + (r - q) := by ring
  have root := abs_sub_abs_le_abs_sub r q
  have total : |-b + r| ≤ |b| + |r| := (abs_add_le _ _).trans_eq (by rw [abs_neg])
  have top := abs_sub_abs_le_abs_sub numerator (-b + r)
  rw [path]
  refine (abs_add_three _ _ _).trans ?_
  norm_num at near sum scaled ⊢
  linarith [abs_nonneg b, abs_nonneg q]

namespace Trinomial

variable {t : Trinomial}

theorem sqrt_near (positive : 0 < t.discriminant) :
    |t.rootOfDiscriminant.value - √t.discriminant| ≤ 3 * 2 ^ (-53 : ℤ) * √t.discriminant := by
  have one : (1 : ℝ) ≤ t.discriminant := by exact_mod_cast positive
  have moved := abs_sqrt_sub_le (zero_le_one.trans (one_le_rounded positive))
    (one_pos.trans_le one) (discriminant_relative positive)
  have root := root_relative positive
  have path := abs_sub_le t.rootOfDiscriminant.value √(ofInt t.discriminant).value √t.discriminant
  have above := (abs_le.mp moved).2
  have exact := Real.sqrt_nonneg (t.discriminant : ℝ)
  norm_num at root moved above ⊢
  linarith

theorem branch_error {r : Binary64} {q : ℝ} (square : t.a.val ≠ 0) (summand : Summand r)
    (near : |r.value - q| ≤ 3 * 2 ^ (-53 : ℤ) * |q|) :
    |2 * t.a.val * (t.branch r).value + t.b.val - q| ≤
      2 ^ (-50 : ℤ) * (|(t.b.val : ℝ)| + |q|) := by
  have sum := (summed (t := t) summand).relative
    (fun some => (zpow_le_zpow_right₀ one_le_two (by decide)).trans (sum_whole summand some))
    (abs_lt_greatest (abs_sum_le summand.small) (by decide))
  exact abs_composed_le near sum (branch_scaled square summand)

theorem roots_error (square : t.a.val ≠ 0) (positive : 0 < t.discriminant) :
    ∃ x₁ x₂, t.solve = .ok (.two x₁ x₂) ∧ x₁.isFinite = true ∧ x₂.isFinite = true ∧
      |2 * t.a.val * x₁.value + t.b.val - √t.discriminant| ≤
        2 ^ (-50 : ℤ) * (|(t.b.val : ℝ)| + √t.discriminant) ∧
      |2 * t.a.val * x₂.value + t.b.val + √t.discriminant| ≤
        2 ^ (-50 : ℤ) * (|(t.b.val : ℝ)| + √t.discriminant) := by
  have near := sqrt_near positive
  have summand := root_summand positive
  have root : |√(t.discriminant : ℝ)| = √t.discriminant := abs_of_nonneg (Real.sqrt_nonneg _)
  have plus := branch_error (q := √t.discriminant) square summand (by rwa [root])
  have minus := branch_error (q := -√t.discriminant) square summand.neg
    (by rwa [value_neg, ← neg_sub', abs_neg, abs_neg, root])
  rw [root] at plus
  rw [abs_neg, root, sub_neg_eq_add] at minus
  exact ⟨_, _, solve_two square positive, (branch_nearest square summand).finite,
    (branch_nearest square summand.neg).finite, plus, minus⟩

/-- The discriminant is nearly as large as there is. -/
theorem roots_error_extreme :
    let least : Signed32 := ⟨-2147483648, by decide, by decide⟩
    let t : Trinomial := ⟨least, least, ⟨2147483647, by decide, by decide⟩⟩
    t.a.val ≠ 0 ∧ 0 < t.discriminant ∧
      ∃ x₁ x₂, t.solve = .ok (.two x₁ x₂) ∧ x₁.isFinite = true ∧ x₂.isFinite = true ∧
        |2 * t.a.val * x₁.value + t.b.val - √t.discriminant| ≤
          2 ^ (-50 : ℤ) * (|(t.b.val : ℝ)| + √t.discriminant) ∧
        |2 * t.a.val * x₂.value + t.b.val + √t.discriminant| ≤
          2 ^ (-50 : ℤ) * (|(t.b.val : ℝ)| + √t.discriminant) := by
  intro least t
  have square : t.a.val ≠ 0 := by decide
  have positive : 0 < t.discriminant := by decide
  exact ⟨square, positive, roots_error square positive⟩

end Trinomial

end Parabola

/-!
Two roots stay apart. The rounded square root is at least 1, so the numerators keep clear of `-b` by
1 on either side, and they are too small for the rounding of a quotient to make up for that.
-/

namespace Parabola.Trinomial

open Binary64

variable {t : Trinomial} {r : Binary64}

theorem isValue_beside (n : Signed32) {k : ℤ} (near : k.natAbs ≤ 1) :
    IsValue (-(n.val : ℝ) + k) := by
  have magnitude := n.natAbs_le
  have held := isValue_int (n := -n.val + k) (by omega)
  rwa [Int.cast_add, Int.cast_neg] at held

theorem numerator_above (summand : Summand r) (one : 1 ≤ r.value) :
    -(t.b.val : ℝ) + 1 ≤ (t.minusB.add r).value := by
  have held := isValue_beside t.b (k := 1) (by decide)
  rw [Int.cast_one] at held
  exact (summed summand).le_value held (by linarith)

theorem numerator_below (summand : Summand r) (one : r.value ≤ -1) :
    (t.minusB.add r).value ≤ -(t.b.val : ℝ) + -1 := by
  have held := isValue_beside t.b (k := -1) (by decide)
  rw [Int.cast_neg, Int.cast_one] at held
  exact (summed summand).value_le held (by linarith)

theorem branch_near (square : t.a.val ≠ 0) (summand : Summand r) :
    |2 * t.a.val * (t.branch r).value - (t.minusB.add r).value| ≤ 1 / 2 := by
  have magnitude := abs_numerator_le (t := t) summand.finite summand.small
  calc |2 * t.a.val * (t.branch r).value - (t.minusB.add r).value|
      ≤ 2 ^ (-53 : ℤ) * |(t.minusB.add r).value| := branch_scaled square summand
    _ ≤ 2 ^ (-53 : ℤ) * 2 ^ (34 : ℤ) := mul_le_mul_of_nonneg_left magnitude (two_zpow_pos _).le
    _ ≤ 1 / 2 := by norm_num

theorem branches_apart (square : t.a.val ≠ 0) (summand : Summand r) (one : 1 ≤ r.value) :
    1 ≤ 2 * t.a.val * ((t.branch r).value - (t.branch r.neg).value) := by
  have above := numerator_above (t := t) summand one
  have below := numerator_below (t := t) summand.neg (by rw [value_neg]; linarith)
  have first := (abs_le.mp (branch_near square summand)).1
  have second := (abs_le.mp (branch_near square summand.neg)).2
  rw [mul_sub]
  linarith

theorem roots_ordered (square : t.a.val ≠ 0) (positive : 0 < t.discriminant) :
    ∃ x₁ x₂, t.solve = .ok (.two x₁ x₂) ∧ x₁.isFinite = true ∧ x₂.isFinite = true ∧
      (0 < t.a.val → x₂.value < x₁.value) ∧ (t.a.val < 0 → x₁.value < x₂.value) ∧
      x₁.value ≠ x₂.value := by
  have summand := root_summand positive
  have apart := branches_apart square summand (one_le_root positive)
  refine ⟨_, _, solve_two square positive, (branch_nearest square summand).finite,
    (branch_nearest square summand.neg).finite, ?_, ?_, ?_⟩
  · intro up
    have divisor : (0 : ℝ) < 2 * t.a.val := by exact_mod_cast mul_pos two_pos up
    have difference := (mul_pos_iff_of_pos_left divisor).mp (one_pos.trans_le apart)
    linarith
  · intro down
    have divisor : 2 * (t.a.val : ℝ) < 0 := by exact_mod_cast mul_neg_of_pos_of_neg two_pos down
    have difference := neg_of_mul_pos_right (one_pos.trans_le apart) divisor.le
    linarith
  · intro same
    rw [same, sub_self, mul_zero] at apart
    exact absurd apart (not_le.mpr one_pos)

/-- The exact roots are `1 - 2^-30` and 1. -/
theorem roots_ordered_close :
    let a : Signed32 := ⟨-1073741824, by decide, by decide⟩
    let t : Trinomial := ⟨a, ⟨2147483647, by decide, by decide⟩, ⟨-1073741823, by decide, by decide⟩⟩
    t.a.val < 0 ∧ 0 < t.discriminant ∧
      ∃ x₁ x₂, t.solve = .ok (.two x₁ x₂) ∧ x₁.isFinite = true ∧ x₂.isFinite = true ∧
        x₁.value < x₂.value ∧ x₁.value ≠ x₂.value := by
  intro a t
  have down : t.a.val < 0 := by decide
  have positive : 0 < t.discriminant := by decide
  obtain ⟨x₁, x₂, solved, first, second, -, order, apart⟩ := roots_ordered down.ne positive
  exact ⟨down, positive, x₁, x₂, solved, first, second, order down, apart⟩

end Parabola.Trinomial
