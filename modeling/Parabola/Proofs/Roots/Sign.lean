import Parabola.Proofs.Binary64.Mirror
import Parabola.Proofs.Roots.Rational
import Parabola.Roots

/-!
The signs of the roots. Neither a sum nor a quotient is rounded across zero, so the sign of a root is
settled where the rounded square root is compared with `b`. Rounding is monotone and leaves a square
root that is a whole number where it is, so that comparison never turns around. It may come out
equal, though, and then a root that is not zero is lost.
-/

namespace Parabola.Trinomial

open Binary64

variable {t : Trinomial} {r : Binary64}

/-- The rounded root is on the same side of every whole number as the exact one, or is that
number itself. -/
theorem root_side (positive : 0 < t.discriminant) {k : ℤ} (small : k.natAbs < 2 ^ 53)
    (apart : t.rootOfDiscriminant.value ≠ k) :
    SignType.sign (t.rootOfDiscriminant.value - k) = SignType.sign (√t.discriminant - k) := by
  have squared := t.discriminant_nearest
  have rooted := t.root_nearest positive.le
  have least : (0 : ℝ) ≤ t.discriminant := Int.cast_nonneg positive.le
  rcases le_or_gt k 0 with below | above
  · have cast : (k : ℝ) ≤ 0 := Int.cast_nonpos.mpr below
    have rounded := root_pos positive
    have exact := exact_root_pos positive
    rw [sign_pos (by linarith), sign_pos (by linarith)]
  · obtain ⟨s, rfl⟩ := Int.eq_ofNat_of_zero_le above.le
    have natural : (0 : ℝ) < s := by exact_mod_cast above
    rw [Int.cast_natCast] at apart ⊢
    rcases lt_trichotomy (t.discriminant : ℝ) ((s : ℝ) ^ 2) with less | same | more
    · have order := root_le_whole (by omega) (by omega) least squared rooted less
      have exact := (Real.sqrt_lt' natural).mpr less
      rw [sign_neg (sub_neg.mpr (lt_of_le_of_ne order apart)), sign_neg (sub_neg.mpr exact)]
    · exact absurd (root_exact (by exact_mod_cast same)) apart
    · have order := whole_le_root (by omega) (by omega) squared rooted more
      have exact := (Real.lt_sqrt natural.le).mpr more
      rw [sign_pos (sub_pos.mpr (lt_of_le_of_ne order apart.symm)), sign_pos (sub_pos.mpr exact)]

theorem branch_sign (square : t.a.val ≠ 0) (summand : Summand r) :
    SignType.sign (t.branch r).value =
      SignType.sign ((-(t.b.val : ℝ) + r.value) / (2 * t.a.val)) := by
  have sum := (summed (t := t) summand).sign_eq (by decide) (by decide) (sum_whole summand)
  have quotient := (branch_nearest square summand).sign_eq (by decide) (by decide)
    (branch_normal square summand)
  rw [quotient, div_eq_mul_inv, div_eq_mul_inv, sign_mul, sign_mul, sum]

theorem branch_zero_iff (square : t.a.val ≠ 0) (summand : Summand r) :
    (t.branch r).value = 0 ↔ r.value = t.b.val := by
  rw [← sign_eq_zero_iff, branch_sign square summand, sign_eq_zero_iff, div_eq_zero_iff,
    or_iff_left (divisor_ne_zero square), neg_add_eq_zero, eq_comm]

/-- A summand `r` of one branch beside the exact square root under its sign. -/
structure StandsFor (t : Trinomial) (r : Binary64) (q : ℝ) : Prop where
  summand : Summand r
  side : r.value ≠ t.b.val →
    SignType.sign (-(t.b.val : ℝ) + r.value) = SignType.sign (-(t.b.val : ℝ) + q)
  whole : t.c.val = 0 → r.value = q
  magnitude : |r.value| = t.rootOfDiscriminant.value

theorem root_of_missing_constant (missing : t.c.val = 0) :
    t.rootOfDiscriminant.value = √t.discriminant := by
  have perfect : t.discriminant = (t.b.val.natAbs : ℤ) ^ 2 := by
    rw [discriminant, missing, mul_zero, sub_zero, Int.natAbs_sq, pow_two]
  rw [root_exact perfect, perfect, Int.cast_pow, Int.cast_natCast, Real.sqrt_sq (Nat.cast_nonneg _)]

theorem plus_stands (positive : 0 < t.discriminant) :
    StandsFor t t.rootOfDiscriminant √t.discriminant where
  summand := root_summand positive
  side apart := by
    rw [neg_add_eq_sub, neg_add_eq_sub]
    exact root_side positive (t.b.natAbs_le.trans_lt (by decide)) apart
  whole := root_of_missing_constant
  magnitude := abs_of_pos (root_pos positive)

theorem minus_stands (positive : 0 < t.discriminant) :
    StandsFor t t.rootOfDiscriminant.neg (-√t.discriminant) where
  summand := (root_summand positive).neg
  side apart := by
    have small : (-t.b.val).natAbs < 2 ^ 53 := by
      rw [Int.natAbs_neg]
      exact t.b.natAbs_le.trans_lt (by decide)
    have side := root_side positive small fun same => apart (by
      rw [value_neg, same, Int.cast_neg, neg_neg])
    rw [Int.cast_neg, sub_neg_eq_add, sub_neg_eq_add] at side
    rw [value_neg, ← neg_add, ← neg_add, Left.sign_neg, Left.sign_neg, add_comm, side, add_comm]
  whole missing := by rw [value_neg, root_of_missing_constant missing]
  magnitude := by rw [value_neg, abs_neg, abs_of_pos (root_pos positive)]

theorem discriminant_sub (t : Trinomial) :
    t.discriminant - t.b.val ^ 2 = -(4 * (t.a.val * t.c.val)) := by
  unfold discriminant
  ring

/-! Where the rounded square root is the magnitude of `b` -/

theorem lost_constant (positive : 0 < t.discriminant)
    (lost : t.rootOfDiscriminant.value = t.b.val.natAbs) :
    2 ^ 53 * |t.a.val * t.c.val| < t.b.val ^ 2 := by
  have rooted := root_relative positive
  rw [lost] at rooted
  have near := square_near (Int.cast_pos.mpr positive)
    (t.rounded_discriminant_bounds positive.le).1 (discriminant_relative positive) rooted
  have difference := congrArg (fun n : ℤ => (n : ℝ)) t.discriminant_sub
  push_cast at difference
  rw [cast_natAbs, sq_abs, difference, abs_neg, abs_mul] at near
  norm_num at near
  have scaled : (2 : ℝ) ^ 53 * |(t.a.val : ℝ) * t.c.val| < (t.b.val : ℝ) ^ 2 := by
    rw [abs_mul]
    linarith
  exact_mod_cast scaled

theorem lost_wide (square : t.a.val ≠ 0) (some : t.c.val ≠ 0) (positive : 0 < t.discriminant)
    (lost : t.rootOfDiscriminant.value = t.b.val.natAbs) : 2 ^ 27 ≤ |t.b.val| := by
  have one := one_le_root positive
  rw [lost] at one
  by_contra narrow
  rw [not_le, ← Int.natCast_natAbs] at narrow
  have far : 4 ≤ |t.discriminant - (t.b.val.natAbs : ℤ) ^ 2| := by
    have product : 1 ≤ |t.a.val * t.c.val| := Int.one_le_abs (mul_ne_zero square some)
    rw [Int.natAbs_sq, discriminant_sub, abs_neg, abs_mul, abs_of_pos four_pos]
    linarith
  exact root_moves (by exact_mod_cast one) (by exact_mod_cast narrow) far t.discriminant_nearest
    (t.root_nearest positive.le) lost

/-! Branches and roots -/

/-- What becomes of the sign of an exact root, whose numerator adds `q` to `-b`, in the returned root
`x`, whose numerator adds `r`. -/
structure KeepsSign (t : Trinomial) (r : Binary64) (q : ℝ) (x : Binary64) : Prop where
  kept_or_zero : SignType.sign x.value = SignType.sign ((-(t.b.val : ℝ) + q) / (2 * t.a.val)) ∨
    x.value = 0
  zero_iff : x.value = 0 ↔ r.value = t.b.val
  kept : t.c.val = 0 ∨ |t.b.val| < 2 ^ 27 ∨ t.b.val ^ 2 ≤ 2 ^ 53 * |t.a.val * t.c.val| →
    SignType.sign x.value = SignType.sign ((-(t.b.val : ℝ) + q) / (2 * t.a.val))
  zero : x.value = 0 →
    t.c.val = 0 ∨ 2 ^ 27 ≤ |t.b.val| ∧ 2 ^ 53 * |t.a.val * t.c.val| < t.b.val ^ 2

theorem branch_keeps_sign {q : ℝ} (square : t.a.val ≠ 0) (positive : 0 < t.discriminant)
    (stands : StandsFor t r q) : KeepsSign t r q (t.branch r) := by
  have zero_iff := branch_zero_iff square stands.summand
  have apart : r.value ≠ t.b.val → SignType.sign (t.branch r).value =
      SignType.sign ((-(t.b.val : ℝ) + q) / (2 * t.a.val)) := by
    intro apart
    rw [branch_sign square stands.summand, div_eq_mul_inv, div_eq_mul_inv, sign_mul, sign_mul,
      stands.side apart]
  have zero : r.value = t.b.val →
      t.c.val = 0 ∨ 2 ^ 27 ≤ |t.b.val| ∧ 2 ^ 53 * |t.a.val * t.c.val| < t.b.val ^ 2 := by
    intro meets
    have lost : t.rootOfDiscriminant.value = t.b.val.natAbs := by
      rw [← stands.magnitude, meets, cast_natAbs]
    exact or_iff_not_imp_left.mpr fun some =>
      ⟨lost_wide square some positive lost, lost_constant positive lost⟩
  refine ⟨?_, zero_iff, ?_, fun vanishes => zero (zero_iff.mp vanishes)⟩
  · exact (em (r.value = t.b.val)).symm.imp apart zero_iff.mpr
  · intro clear
    by_cases missing : t.c.val = 0
    · rw [branch_sign square stands.summand, stands.whole missing]
    · refine apart fun meets => ?_
      obtain ⟨wide, small⟩ := (zero meets).resolve_left missing
      rcases clear.resolve_left missing with narrow | large
      · exact absurd wide (not_le.mpr narrow)
      · exact absurd small (not_lt.mpr large)

theorem double_root_sign (square : t.a.val ≠ 0) :
    SignType.sign (t.minusB.div t.divisor).value =
      SignType.sign (-(t.b.val : ℝ) / (2 * t.a.val)) := by
  have nearest := double_nearest square
  rw [t.minusB_exact.2] at nearest
  refine nearest.sign_eq (k := -1022) (by decide) (by decide) fun some => ?_
  refine quotient_normal square ?_
  have numerator : t.b.val ≠ 0 := by
    intro vanishes
    rw [vanishes, Int.cast_zero, neg_zero, zero_div] at some
    exact some rfl
  rw [abs_neg]
  exact (zpow_le_one_of_nonpos₀ one_le_two (by decide)).trans
    (by exact_mod_cast Int.one_le_abs numerator)

theorem double_root_zero_iff (square : t.a.val ≠ 0) :
    (t.minusB.div t.divisor).value = 0 ↔ t.b.val = 0 := by
  rw [← sign_eq_zero_iff, double_root_sign square, sign_eq_zero_iff, div_eq_zero_iff,
    or_iff_left (divisor_ne_zero square), neg_eq_zero, Int.cast_eq_zero]

theorem double_root_zero (square : t.a.val ≠ 0) (double : t.discriminant = 0)
    (vanishes : (t.minusB.div t.divisor).value = 0) : t.c.val = 0 := by
  rw [discriminant, (double_root_zero_iff square).mp vanishes, zero_mul, zero_sub,
    neg_eq_zero] at double
  exact (mul_eq_zero.mp double).resolve_left (mul_ne_zero four_ne_zero square)

theorem roots_sign (square : t.a.val ≠ 0) :
    (t.discriminant < 0 → t.solve = .ok .none) ∧
      (t.discriminant = 0 → ∃ x, t.solve = .ok (.one x) ∧
        SignType.sign x.value = SignType.sign (-(t.b.val : ℝ) / (2 * t.a.val)) ∧
        (x.value = 0 → t.c.val = 0)) ∧
      (0 < t.discriminant → ∃ x₁ x₂, t.solve = .ok (.two x₁ x₂) ∧
        KeepsSign t t.rootOfDiscriminant √t.discriminant x₁ ∧
        KeepsSign t t.rootOfDiscriminant.neg (-√t.discriminant) x₂) := by
  refine ⟨solve_none square, ?_, ?_⟩
  · intro double
    exact ⟨_, solve_one square double, double_root_sign square, double_root_zero square double⟩
  · intro positive
    exact ⟨_, _, solve_two square positive,
      branch_keeps_sign square positive (plus_stands positive),
      branch_keeps_sign square positive (minus_stands positive)⟩

/-- The greatest `b` of 27 bits. -/
theorem roots_sign_narrow :
    let t : Trinomial := ⟨.one, ⟨134217727, by decide, by decide⟩, .minusOne⟩
    t.a.val ≠ 0 ∧ 0 < t.discriminant ∧ |t.b.val| < 2 ^ 27 ∧
      ∃ x₁ x₂, t.solve = .ok (.two x₁ x₂) ∧ 0 < x₁.value ∧ x₂.value < 0 := by
  intro t
  have square : t.a.val ≠ 0 := by decide
  have positive : 0 < t.discriminant := by decide
  have narrow : |t.b.val| < 2 ^ 27 := by decide
  have divisor : 0 < 2 * (t.a.val : ℝ) := by exact_mod_cast (by decide : 0 < 2 * t.a.val)
  have least : (t.b.val : ℝ) < √t.discriminant := by
    refine Real.lt_sqrt_of_sq_lt ?_
    exact_mod_cast (by decide : t.b.val ^ 2 < t.discriminant)
  have natural : (0 : ℝ) ≤ t.b.val := by exact_mod_cast (by decide : 0 ≤ t.b.val)
  obtain ⟨x₁, x₂, solved, first, second⟩ := (roots_sign square).2.2 positive
  refine ⟨square, positive, narrow, x₁, x₂, solved, ?_, ?_⟩
  · rw [← sign_eq_one_iff, first.kept (.inr (.inl narrow)), sign_eq_one_iff]
    exact div_pos (by linarith) divisor
  · rw [← sign_eq_neg_one_iff, second.kept (.inr (.inl narrow)), sign_eq_neg_one_iff]
    exact div_neg_of_neg_of_pos (by linarith) divisor

/-- The least `b` of 28 bits. -/
theorem small_root_lost :
    let t : Trinomial := ⟨.one, ⟨134217728, by decide, by decide⟩, .minusOne⟩
    t.a.val ≠ 0 ∧ t.c.val ≠ 0 ∧ 0 < t.discriminant ∧
      ∃ x₁ x₂, t.solve = .ok (.two x₁ x₂) ∧ x₁.value = 0 ∧
        0 < (-(t.b.val : ℝ) + √t.discriminant) / (2 * t.a.val) := by
  intro t
  have solved : t.solve = .ok (.two (zero false) (.ofBits 0xC1A0000000000000)) := by decide +kernel
  have divisor : 0 < 2 * (t.a.val : ℝ) := by exact_mod_cast (by decide : 0 < 2 * t.a.val)
  have least : (t.b.val : ℝ) < √t.discriminant := by
    refine Real.lt_sqrt_of_sq_lt ?_
    exact_mod_cast (by decide : t.b.val ^ 2 < t.discriminant)
  exact ⟨by decide, by decide, by decide, _, _, solved, value_zero false,
    div_pos (by linarith) divisor⟩

end Parabola.Trinomial

/-!
Roots that are zero. The numerator of such a root is the zero with the plus sign in every branch, so
the sign of the leading coefficient is left to decide, and a falling parabola has its zero root with
the minus sign.
-/

namespace Parabola

open Binary64

namespace Trinomial

variable {t : Trinomial} {r : Binary64}

theorem divisor_negative (t : Trinomial) : t.divisor.negative = decide (t.a.val < 0) := by
  rw [divisor, ofInt_negative]
  exact decide_eq_decide.mpr (by omega)

theorem zero_quotient (square : t.a.val ≠ 0) :
    (zero false).div t.divisor = zero (decide (t.a.val < 0)) := by
  obtain ⟨finite, value⟩ := t.divisor_exact
  rw [zero_div_nonzero false finite (value ▸ divisor_ne_zero square), divisor_negative,
    Bool.false_bne]

theorem branch_zero (square : t.a.val ≠ 0) (summand : Summand r)
    (vanishes : (t.branch r).value = 0) : t.branch r = zero (decide (t.a.val < 0)) := by
  obtain ⟨finite, value⟩ := t.minusB_exact
  have meets := (branch_zero_iff square summand).mp vanishes
  have some : r.value ≠ 0 := abs_pos.mp (one_pos.trans_le summand.large)
  have opposite : t.minusB.value + r.value = 0 := by rw [value, meets, neg_add_cancel]
  rw [branch, add_cancelled finite summand.finite opposite some, zero_quotient square]

theorem double_zero (square : t.a.val ≠ 0) (vanishes : (t.minusB.div t.divisor).value = 0) :
    t.minusB.div t.divisor = zero (decide (t.a.val < 0)) := by
  have none : t.b.val = 0 := (double_root_zero_iff square).mp vanishes
  rw [minusB, none, neg_zero, ofInt_zero, zero_quotient square]

theorem zero_text (negative : Bool) :
    Roots.rootChars (zero negative) = (if negative then "-0.0" else "0.0").toList := by
  cases negative <;> decide +kernel

theorem zero_shown {x : Binary64} (same : x = zero (decide (t.a.val < 0))) :
    x.negative = decide (t.a.val < 0) ∧
      Roots.rootChars x = (if t.a.val < 0 then "-0.0" else "0.0").toList := by
  subst same
  exact ⟨rfl, by simpa using zero_text (decide (t.a.val < 0))⟩

/-- The sign of a zero root goes with the leading coefficient alone, and it is written out. -/
theorem zero_roots (square : t.a.val ≠ 0) :
    ∃ roots, t.solve = .ok roots ∧ ∀ x ∈ roots.toList, x.isZero = true →
      x.negative = decide (t.a.val < 0) ∧
      Roots.rootChars x = (if t.a.val < 0 then "-0.0" else "0.0").toList := by
  rcases lt_trichotomy t.discriminant 0 with negative | double | positive
  · exact ⟨_, solve_none square negative, by simp [Roots.toList]⟩
  · refine ⟨_, solve_one square double, fun x member vanishes => zero_shown ?_⟩
    obtain rfl := List.mem_singleton.mp member
    exact double_zero square (value_of_isZero vanishes)
  · have summand := root_summand positive
    refine ⟨_, solve_two square positive, fun x member vanishes => zero_shown ?_⟩
    rcases List.mem_pair.mp member with rfl | rfl
    · exact branch_zero square summand (value_of_isZero vanishes)
    · exact branch_zero square summand.neg (value_of_isZero vanishes)

/-- The zero root of `-x^2-x` is the second one. -/
theorem zero_roots_falling :
    let t : Trinomial := ⟨.minusOne, .minusOne, .zero⟩
    t.a.val ≠ 0 ∧ ∃ roots, t.solve = .ok roots ∧ ∃ x ∈ roots.toList, x.isZero = true ∧
      x.negative = true ∧ Roots.rootChars x = "-0.0".toList := by
  intro t
  have square : t.a.val ≠ 0 := by decide
  have solved : t.solve = .ok (.two (.ofInt (-1)) (zero true)) := by decide +kernel
  obtain ⟨roots, same, signs⟩ := zero_roots square
  obtain rfl : roots = .two (.ofInt (-1)) (zero true) := Except.ok.inj (same.symm.trans solved)
  have member : zero true ∈ Roots.toList (.two (.ofInt (-1)) (zero true)) := by simp [Roots.toList]
  obtain ⟨negative, written⟩ := signs _ member rfl
  exact ⟨square, _, solved, _, member, rfl, negative, written⟩

/-- The double root of `-x^2`. -/
theorem double_zero_negative :
    let t : Trinomial := ⟨.minusOne, .zero, .zero⟩
    t.a.val ≠ 0 ∧ t.solve = .ok (.one (zero true)) ∧ (zero true).isZero = true ∧
      (zero true).negative = true ∧ Roots.report (.one (zero true)) = "x = -0.0" := by
  intro t
  exact ⟨by decide, by decide +kernel, rfl, rfl, by decide +kernel⟩

end Trinomial

end Parabola
