import Parabola.Proofs.Binary64.WholeRoot
import Parabola.Proofs.Roots.Formula

/-!
Rational roots. Where the discriminant is a square, its rounding is too small a change to move the
rounded root off the whole number, the numerators are exact, and so nothing but the quotient is
rounded.
-/

namespace Parabola

open Binary64

/-- A quotient of integers is rounded once, and not at all if it is an integer. -/
structure RoundedRatio (num den : ℤ) (x : Binary64) : Prop where
  nearest : Nearest (num / den) x
  whole : ∀ n : ℤ, num = n * den → x.value = n

namespace Trinomial

variable {t : Trinomial} {s : ℕ}

theorem root_small (perfect : t.discriminant = (s : ℤ) ^ 2) : s < 2 ^ 33 := by
  have bound := t.discriminant_natAbs_le
  rw [perfect, Int.natAbs_pow, Int.natAbs_natCast] at bound
  by_contra large
  have square : (2 ^ 33) ^ 2 ≤ s ^ 2 := Nat.pow_le_pow_left (not_lt.mp large) 2
  omega

theorem root_exact (perfect : t.discriminant = (s : ℤ) ^ 2) : t.rootOfDiscriminant.value = s := by
  have natural : 0 ≤ t.discriminant := perfect ▸ sq_nonneg _
  have squared := t.discriminant_nearest
  have rooted := t.root_nearest natural
  rcases Nat.eq_zero_or_pos s with rfl | positive
  · have vanishes : t.discriminant = 0 := by simpa using perfect
    rw [vanishes, Int.cast_zero] at squared
    rw [vanishes, squared.exact isValue_zero, Real.sqrt_zero] at rooted
    exact (rooted.exact isValue_zero).trans Nat.cast_zero.symm
  · have small := root_small perfect
    have cast : (t.discriminant : ℝ) = (s : ℝ) ^ 2 := by
      rw [perfect, Int.cast_pow, Int.cast_natCast]
    rw [cast] at squared
    exact root_of_square positive (by omega) squared rooted

theorem numerator_exact {r : Binary64} {n : ℤ} (finite : r.isFinite = true) (value : r.value = n)
    (small : n.natAbs ≤ 2 ^ 33) :
    (t.minusB.add r).isFinite = true ∧ (t.minusB.add r).value = (-t.b.val + n : ℤ) := by
  have magnitude : |r.value| ≤ 2 ^ (33 : ℤ) := by
    rw [value, ← cast_natAbs]
    exact_mod_cast small
  have nearest := numerator_nearest (t := t) finite magnitude
  have bound := t.b.natAbs_le
  have sum : -(t.b.val : ℝ) + r.value = (-t.b.val + n : ℤ) := by rw [value]; push_cast; rfl
  rw [sum] at nearest
  exact ⟨nearest.finite, nearest.exact (isValue_int (by omega))⟩

theorem quotient_rounded {n : Binary64} {num : ℤ} (square : t.a.val ≠ 0)
    (finite : n.isFinite = true) (value : n.value = num) (small : num.natAbs ≤ 2 ^ 34) :
    RoundedRatio num (2 * t.a.val) (n.div t.divisor) := by
  have magnitude : |n.value| ≤ 2 ^ (34 : ℤ) := by
    rw [value, ← cast_natAbs]
    exact_mod_cast small
  have nearest := quotient_nearest square finite magnitude
  have cast : n.value / (2 * t.a.val) = (num : ℝ) / (2 * t.a.val : ℤ) := by
    rw [value]
    push_cast
    rfl
  rw [cast] at nearest
  refine ⟨nearest, ?_⟩
  rintro k rfl
  have some : (2 * t.a.val : ℤ) ≠ 0 := by omega
  have whole : ((k * (2 * t.a.val) : ℤ) : ℝ) / (2 * t.a.val : ℤ) = k := by
    rw [Int.cast_mul, mul_div_cancel_right₀ _ (Int.cast_ne_zero.mpr some)]
  rw [whole] at nearest
  refine nearest.exact (isValue_int ?_)
  have product := Nat.le_mul_of_pos_right k.natAbs (Int.natAbs_pos.mpr some)
  rw [← Int.natAbs_mul] at product
  omega

theorem rational_roots (square : t.a.val ≠ 0) (perfect : t.discriminant = (s : ℤ) ^ 2) :
    t.rootOfDiscriminant.value = s ∧
      (t.minusB.add t.rootOfDiscriminant).value = (-t.b.val + s : ℤ) ∧
      (t.minusB.sub t.rootOfDiscriminant).value = (-t.b.val - s : ℤ) ∧
      (s = 0 → ∃ x, t.solve = .ok (.one x) ∧ RoundedRatio (-t.b.val) (2 * t.a.val) x) ∧
      (s ≠ 0 → ∃ x₁ x₂, t.solve = .ok (.two x₁ x₂) ∧
        RoundedRatio (-t.b.val + s) (2 * t.a.val) x₁ ∧
        RoundedRatio (-t.b.val - s) (2 * t.a.val) x₂) := by
  have bound := t.b.natAbs_le
  have small := root_small perfect
  have natural : 0 ≤ t.discriminant := perfect ▸ sq_nonneg _
  have finite := (t.root_nearest natural).finite
  have root := root_exact perfect
  obtain ⟨plusFinite, plus⟩ := numerator_exact (t := t) (n := s) finite
    (root.trans (Int.cast_natCast s).symm) (by omega)
  obtain ⟨minusFinite, minus⟩ := numerator_exact (t := t) (r := t.rootOfDiscriminant.neg)
    (n := -s) finite (by rw [value_neg, root, Int.cast_neg, Int.cast_natCast]) (by omega)
  refine ⟨root, plus, minus, ?_, ?_⟩
  · rintro rfl
    have vanishes : t.discriminant = 0 := by simpa using perfect
    obtain ⟨plain, value⟩ := t.minusB_exact
    refine ⟨t.minusB.div t.divisor, by simp [solve, square, vanishes], ?_⟩
    exact quotient_rounded square plain (value.trans (Int.cast_neg _).symm) (by omega)
  · intro some
    have positive : 0 < t.discriminant := perfect ▸ pow_pos (by omega) 2
    refine ⟨_, _, by rw [solve, if_neg square, if_neg (by omega), if_neg (by omega)], ?_, ?_⟩
    · exact quotient_rounded square plusFinite plus (by omega)
    · exact quotient_rounded square minusFinite minus (by omega)

/-- The discriminant has 62 bits and an odd one at their end, so it is rounded. -/
theorem rational_roots_of_rounded :
    let b : Signed32 := ⟨-2147483645, by decide, by decide⟩
    let t : Trinomial := ⟨.one, b, ⟨-2147483646, by decide, by decide⟩⟩
    t.a.val ≠ 0 ∧ t.discriminant = (2147483647 : ℕ) ^ 2 ∧
      ∃ x₁ x₂, t.solve = .ok (.two x₁ x₂) ∧ x₁.value = 2147483646 ∧ x₂.value = -1 := by
  intro b t
  have square : t.a.val ≠ 0 := by decide
  have perfect : t.discriminant = (2147483647 : ℕ) ^ 2 := by decide
  obtain ⟨-, -, -, -, two⟩ := rational_roots square perfect
  obtain ⟨x₁, x₂, solved, first, second⟩ := two (by decide)
  refine ⟨square, perfect, x₁, x₂, solved, ?_, ?_⟩
  · exact_mod_cast first.whole 2147483646 (by decide)
  · exact_mod_cast second.whole (-1) (by decide)

end Trinomial

end Parabola
