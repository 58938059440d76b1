import Mathlib.Analysis.Real.Sqrt
import Parabola.Binary64
import Parabola.Proofs.Binary64.Nearest
import Parabola.Proofs.Binary64.Rounding

/-!
Integers, sums, differences and quotients: each is the number nearest to the exact result, as long
as that result stays clear of the greatest finite numbers.
-/

namespace Parabola.Binary64

theorem cast_natAbs (n : ℤ) : (n.natAbs : ℝ) = |(n : ℝ)| := by
  rw [Nat.cast_natAbs, Int.cast_abs]

theorem sign_natAbs (n : ℤ) : sign (decide (n < 0)) * n.natAbs = n := by
  rw [cast_natAbs]
  by_cases below : n < 0
  · have cast : (n : ℝ) < 0 := Int.cast_lt_zero.mpr below
    simp [below, abs_of_neg cast]
  · have cast : (0 : ℝ) ≤ n := Int.cast_nonneg (not_lt.mp below)
    simp [below, abs_of_nonneg cast]

theorem ofInt_nearest {n : ℤ} (small : |(n : ℝ)| < 2 ^ (1023 : ℤ)) : Nearest n (ofInt n) := by
  have bound : (n.natAbs : ℝ) / (1 : ℕ) < 2 ^ (1023 : ℤ) := by
    rwa [Nat.cast_one, div_one, cast_natAbs]
  have nearest := ofRatio_nearest (decide (n < 0)) Nat.one_pos bound
  rwa [Nat.cast_one, div_one, sign_natAbs] at nearest

theorem ofInt_exact {n : ℤ} (small : n.natAbs < 2 ^ 53) :
    (ofInt n).isFinite = true ∧ (ofInt n).value = n := by
  have magnitude : |(n : ℝ)| ≤ 2 ^ (53 : ℤ) := by
    rw [← cast_natAbs]
    exact_mod_cast small.le
  have nearest := ofInt_nearest (abs_lt_greatest magnitude (by decide))
  exact ⟨nearest.finite, nearest.exact (isValue_int small)⟩

theorem finite_plain {x : Binary64} (finite : x.isFinite = true) :
    x.isNaN = false ∧ x.isInfinite = false := by
  have code : x.code.val < infinityCode := of_decide_eq_true finite
  exact ⟨decide_eq_false (by omega), decide_eq_false (by omega)⟩

variable {x y : Binary64}

/-! Sums -/

theorem cast_signedAt {scale : ℤ} (le : scale ≤ x.scale) :
    (x.signedAt scale : ℝ) * 2 ^ scale = x.value := by
  obtain ⟨shift, above⟩ := Int.le.dest le
  have widening : (x.scale - scale).toNat = shift := by omega
  have units : (2 : ℝ) ^ x.scale = 2 ^ shift * 2 ^ scale := by
    rw [← above, zpow_add₀ (by norm_num), zpow_natCast, mul_comm]
  rw [value, units, signedAt, widening]
  cases x.negative <;> simp <;> ring

theorem cast_sum : ((x.signedAt (min x.scale y.scale) + y.signedAt (min x.scale y.scale) : ℤ) : ℝ) *
    2 ^ min x.scale y.scale = x.value + y.value := by
  rw [Int.cast_add, add_mul, cast_signedAt (min_le_left _ _), cast_signedAt (min_le_right _ _)]

theorem addFinite_nearest (small : |x.value + y.value| < 2 ^ (1023 : ℤ)) :
    Nearest (x.value + y.value) (x.addFinite y) := by
  unfold addFinite
  rw [← cast_sum] at small ⊢
  set scale := min x.scale y.scale
  set sum := x.signedAt scale + y.signedAt scale
  by_cases vanishes : sum = 0
  · rw [if_pos vanishes, vanishes, Int.cast_zero, zero_mul]
    exact nearest_zero _
  · rw [if_neg vanishes]
    rw [abs_mul, abs_of_pos (two_zpow_pos _), ← cast_natAbs] at small
    have nearest := ofScaled_nearest (decide (sum < 0)) small
    rwa [← mul_assoc, sign_natAbs] at nearest

theorem add_finite (left : x.isFinite = true) (right : y.isFinite = true) :
    x.add y = x.addFinite y := by
  unfold add
  simp [finite_plain left, finite_plain right]

theorem add_nearest (left : x.isFinite = true) (right : y.isFinite = true)
    (small : |x.value + y.value| < 2 ^ (1023 : ℤ)) : Nearest (x.value + y.value) (x.add y) := by
  rw [add_finite left right]
  exact addFinite_nearest small

theorem sub_nearest (left : x.isFinite = true) (right : y.isFinite = true)
    (small : |x.value - y.value| < 2 ^ (1023 : ℤ)) : Nearest (x.value - y.value) (x.sub y) := by
  rw [sub_eq_add_neg, ← value_neg] at small ⊢
  exact add_nearest left (by rwa [neg_finite]) small

/-! Quotients -/

theorem significand_pos (some : y.value ≠ 0) : 0 < y.significand := by
  rw [Nat.pos_iff_ne_zero]
  intro none
  simp [value, none] at some

theorem isZero_false (some : y.value ≠ 0) : y.isZero = false := by
  refine decide_eq_false fun none => ?_
  have positive := significand_pos some
  simp [significand, none, fractionCount] at positive

theorem sign_bne (a b : Bool) : sign (a != b) = sign a / sign b := by
  cases a <;> cases b <;> simp

theorem divFinite_nearest (some : y.value ≠ 0) (small : |x.value / y.value| < 2 ^ (1023 : ℤ)) :
    Nearest (x.value / y.value) (x.divFinite y) := by
  unfold divFinite
  set scale := x.scale - y.scale with difference
  have units : (2 : ℝ) ^ x.scale / 2 ^ y.scale = twoTo scale.toNat / twoTo (-scale).toNat := by
    rw [← zpow_sub₀ (by norm_num), ← difference, two_zpow_eq]
  have ratio : (x.significand * 2 ^ x.scale : ℝ) / (y.significand * 2 ^ y.scale) =
      (x.significand * twoTo scale.toNat : ℕ) / (y.significand * twoTo (-scale).toNat : ℕ) := by
    rw [mul_div_mul_comm, units, div_mul_div_comm, Nat.cast_mul, Nat.cast_mul]
  have exact : x.value / y.value = sign (x.negative != y.negative) *
      ((x.significand * twoTo scale.toNat : ℕ) / (y.significand * twoTo (-scale).toNat : ℕ)) := by
    rw [value, value, mul_div_mul_comm, ratio, sign_bne]
  rw [abs_div, abs_value, abs_value, ratio] at small
  rw [exact]
  exact ofRatio_nearest _ (Nat.mul_pos (significand_pos some) (twoTo_pos _)) small

theorem div_finite (left : x.isFinite = true) (right : y.isFinite = true) (some : y.value ≠ 0) :
    x.div y = x.divFinite y := by
  unfold div
  simp [finite_plain left, finite_plain right, isZero_false some]

theorem div_nearest (left : x.isFinite = true) (right : y.isFinite = true) (some : y.value ≠ 0)
    (small : |x.value / y.value| < 2 ^ (1023 : ℤ)) : Nearest (x.value / y.value) (x.div y) := by
  rw [div_finite left right some]
  exact divFinite_nearest some small

end Parabola.Binary64

/-!
Square roots are rounded to the nearest number. The root of a widened significand is cut off, and an
odd last bit is put in for whatever was lost. No border between two significands is odd, so the cut
root and the exact one lie on the same side of each.
-/

namespace Parabola.Binary64

theorem floorSqrt_eq (n : ℕ) : floorSqrt n = Nat.sqrt n := by
  induction n using Nat.strongRecOn with
  | ind n ih =>
    rw [floorSqrt]
    by_cases none : n = 0
    · rw [if_pos none, none, Nat.sqrt_zero]
    · rw [if_neg none, ih (n / 4) (Nat.div_lt_self (Nat.pos_of_ne_zero none) (by decide))]
      have least := Nat.sqrt_le (n / 4)
      have greatest := Nat.lt_succ_sqrt (n / 4)
      generalize (n / 4).sqrt = half at least greatest ⊢
      have above : 4 * (half * half) ≤ n := by omega
      have below : n < 4 * (half.succ * half.succ) := by omega
      show (if (2 * half + 1) * (2 * half + 1) ≤ n then 2 * half + 1 else 2 * half) = n.sqrt
      by_cases reached : (2 * half + 1) * (2 * half + 1) ≤ n
      · rw [if_pos reached]
        refine Nat.eq_sqrt.mpr ⟨reached, below.trans_eq ?_⟩
        rw [Nat.succ_eq_add_one]
        ring
      · rw [if_neg reached]
        refine Nat.eq_sqrt.mpr ⟨?_, not_le.mp reached⟩
        rwa [mul_mul_mul_comm]

/-- One number of units is on the same side of each half of a unit as another one. -/
structure Beside (q p : ℝ) : Prop where
  below : ∀ j : ℤ, p ≤ j / 2 → q < j / 2
  above : ∀ j : ℤ, (j : ℝ) / 2 ≤ p → (j : ℝ) / 2 < q

theorem RoundsTo.beside {p q : ℝ} {m : ℕ} {e : ℤ} (rounds : RoundsTo p m e) (beside : Beside q p) :
    RoundsTo q m e := by
  obtain ⟨least, greatest, below, full, near, -⟩ := rounds
  obtain ⟨low, high⟩ := abs_le.mp near
  have higher := beside.above (2 * m - 1) (by push_cast; linarith)
  have lower := beside.below (2 * m + 1) (by push_cast; linarith)
  push_cast at higher lower
  have nearer : |q - m| < 1 / 2 := abs_lt.mpr ⟨by linarith, by linarith⟩
  refine ⟨least, greatest, ?_, full.imp_right fun full => ?_, nearer.le,
    fun tie => absurd tie nearer.ne⟩
  · have most := beside.below (2 ^ 54) (by push_cast; linarith)
    push_cast at most
    linarith
  · have most := beside.above (2 ^ 53) (by push_cast; linarith)
    push_cast at most
    linarith

section odd

variable {t m : ℕ} {f e : ℤ} {r : ℝ}

theorem border_eq (j : ℤ) (d : ℕ) : (j / 2 * (4 * 2 ^ d) : ℝ) = (2 * (j * 2 ^ d) : ℤ) := by
  push_cast
  ring

-- In the units of the odd number each half of a unit is even, so there is a whole one between.
theorem beside_of_odd (odd : Odd t) (close : |r - t| < 1) (d : ℕ) :
    Beside (r / (4 * 2 ^ d)) (t / (4 * 2 ^ d)) := by
  have unit : (0 : ℝ) < 4 * 2 ^ d := by positivity
  obtain ⟨k, rfl⟩ := odd
  obtain ⟨low, high⟩ := abs_lt.mp close
  constructor
  · intro j le
    rw [div_le_iff₀ unit, border_eq] at le
    rw [div_lt_iff₀ unit, border_eq]
    have whole : ((2 * k + 1 : ℕ) : ℤ) ≤ 2 * (j * 2 ^ d) := by exact_mod_cast le
    have next : ((((2 * k + 1 : ℕ) : ℤ) + 1 : ℤ) : ℝ) ≤ (2 * (j * 2 ^ d) : ℤ) :=
      Int.cast_le.mpr (by omega)
    rw [Int.cast_add, Int.cast_natCast, Int.cast_one] at next
    linarith
  · intro j le
    rw [le_div_iff₀ unit, border_eq] at le
    rw [lt_div_iff₀ unit, border_eq]
    have whole : 2 * (j * 2 ^ d) ≤ ((2 * k + 1 : ℕ) : ℤ) := by exact_mod_cast le
    have next : ((2 * (j * 2 ^ d) : ℤ) : ℝ) ≤ (((2 * k + 1 : ℕ) : ℤ) - 1 : ℤ) :=
      Int.cast_le.mpr (by omega)
    rw [Int.cast_sub, Int.cast_natCast, Int.cast_one] at next
    linarith

/-- Where a long number is rounded, at least three of its bits are lost. -/
theorem RoundsTo.coarse (rounds : RoundsTo (t * 2 ^ f / 2 ^ e) m e) (long : 2 ^ 55 ≤ t) :
    f + 2 < e := by
  have below := rounds.below
  rw [div_lt_iff₀ (two_zpow_pos e)] at below
  have wide : (2 : ℝ) ^ (55 : ℤ) ≤ t := by exact_mod_cast long
  have bits : (2 : ℝ) ^ (55 + f) < 2 ^ (53 + e) := by
    rw [zpow_add₀ two_ne_zero, zpow_add₀ two_ne_zero]
    calc (2 : ℝ) ^ (55 : ℤ) * 2 ^ f ≤ t * 2 ^ f :=
          mul_le_mul_of_nonneg_right wide (two_zpow_pos f).le
      _ < 2 ^ (53 : ℤ) * 2 ^ e := by exact_mod_cast below
  have exponents := (zpow_lt_zpow_iff_right₀ one_lt_two).mp bits
  omega

theorem RoundsTo.of_odd (rounds : RoundsTo (t * 2 ^ f / 2 ^ e) m e) (odd : Odd t)
    (long : 2 ^ 55 ≤ t) (close : |r - t| < 1) : RoundsTo (r * 2 ^ f / 2 ^ e) m e := by
  obtain ⟨d, above⟩ := Int.le.dest (rounds.coarse long).le
  have units : ∀ x : ℝ, x * 2 ^ f / 2 ^ e = x / (4 * 2 ^ d) := by
    intro x
    have exponent : e = f + (d + 2 : ℕ) := by omega
    rw [exponent, zpow_add₀ two_ne_zero, zpow_natCast, mul_comm (2 ^ f : ℝ),
      mul_div_mul_right _ _ (two_zpow_pos f).ne', pow_add]
    ring
  rw [units] at rounds ⊢
  exact rounds.beside (beside_of_odd odd close d)

/-- The number of a long odd significand is that of everything less than one unit away. -/
theorem nearest_of_odd (small : (t : ℝ) * 2 ^ f < 2 ^ (1023 : ℤ))
    (odd : Odd t) (long : 2 ^ 55 ≤ t) (close : |r - t| < 1) :
    Nearest (r * 2 ^ f) (ofScaled false t f) := by
  obtain ⟨m, e, rounded, rounds⟩ := ofScaled_rounds odd.pos small
  have nearest := (rounds.of_odd odd long close).nearest
  rwa [div_mul_cancel₀ _ (two_zpow_pos e).ne', ← rounded] at nearest

end odd

/-- The cut root of a long natural, with an odd last bit for the part that is lost. -/
def stickyRoot (n : ℕ) : ℕ :=
  if Nat.sqrt n * Nat.sqrt n = n then 2 * Nat.sqrt n else 2 * Nat.sqrt n + 1

theorem stickyRoot_nearest {n : ℕ} {f : ℤ} (long : 2 ^ 108 ≤ n)
    (small : 2 * √n * 2 ^ f < 2 ^ (1022 : ℤ)) :
    Nearest (2 * √n * 2 ^ f) (ofScaled false (stickyRoot n) f) := by
  have least : (Nat.sqrt n : ℝ) ≤ √n := Real.nat_sqrt_le_real_sqrt
  have greatest : √n < Nat.sqrt n + 1 := Real.real_sqrt_lt_nat_sqrt_succ
  have wide : 2 ^ 54 ≤ Nat.sqrt n := Nat.le_sqrt.mpr (long.trans' (by norm_num))
  have room : ∀ t : ℕ, (t : ℝ) ≤ 2 * (2 * √n) → (t : ℝ) * 2 ^ f < 2 ^ (1023 : ℤ) := by
    intro t le
    calc (t : ℝ) * 2 ^ f ≤ 2 * (2 * √n) * 2 ^ f := mul_le_mul_of_nonneg_right le (two_zpow_pos f).le
      _ = 2 * (2 * √n * 2 ^ f) := mul_assoc _ _ _
      _ < 2 * 2 ^ (1022 : ℤ) := by linarith
      _ = 2 ^ (1 + 1022 : ℤ) := (zpow_one_add₀ two_ne_zero _).symm
  unfold stickyRoot
  generalize Nat.sqrt n = root at least greatest wide ⊢
  have one : (1 : ℝ) ≤ root := by exact_mod_cast Nat.one_le_two_pow.trans wide
  by_cases whole : root * root = n
  · have same : √n = root := by
      rw [← whole, Nat.cast_mul, Real.sqrt_mul_self (Nat.cast_nonneg _)]
    have nearest := ofScaled_nearest false (room (2 * root) (by push_cast; linarith))
    rw [if_pos whole, same]
    simpa using nearest
  · have other : √n ≠ root := by
      intro same
      have product := Real.mul_self_sqrt (Nat.cast_nonneg n : (0 : ℝ) ≤ n)
      rw [same] at product
      exact whole (by exact_mod_cast product)
    have strict := lt_of_le_of_ne least other.symm
    rw [if_neg whole]
    refine nearest_of_odd (room _ ?_) (odd_two_mul_add_one root) (by omega) ?_
    · push_cast
      linarith
    · push_cast
      exact abs_lt.mpr ⟨by linarith, by linarith⟩

theorem sqrtFinite_eq (x : Binary64) :
    x.sqrtFinite = ofScaled false (stickyRoot (x.significand * twoTo (108 + (x.scale % 2).toNat)))
      ((x.scale - (108 + (x.scale % 2).toNat : ℕ)) / 2 - 1) := by
  simp only [sqrtFinite, stickyRoot, floorSqrt_eq]

/-- The scale that is left after the widening is even, so the root is taken of each part. -/
theorem sqrt_value {x : Binary64} (positive : x.negative = false) :
    √x.value = 2 * √(x.significand * twoTo (108 + (x.scale % 2).toNat) : ℕ) *
      2 ^ ((x.scale - (108 + (x.scale % 2).toNat : ℕ)) / 2 - 1) := by
  generalize widened : 108 + (x.scale % 2).toNat = widening
  generalize halved : (x.scale - (widening : ℕ)) / 2 - 1 = f
  have exponent : x.scale = widening + (f + 1) * 2 := by omega
  have shape : x.value = (x.significand * twoTo widening : ℕ) * (2 ^ (f + 1)) ^ 2 := by
    rw [value, positive, sign_false, one_mul, exponent, zpow_add₀ two_ne_zero, zpow_natCast,
      zpow_mul, ← mul_assoc, Nat.cast_mul, cast_twoTo]
    norm_cast
  rw [shape, Real.sqrt_mul (Nat.cast_nonneg _), Real.sqrt_sq (two_zpow_pos _).le,
    zpow_add_one₀ two_ne_zero]
  ring

theorem sqrtFinite_nearest {x : Binary64} (finite : x.isFinite = true)
    (positive : x.negative = false) (some : 0 < x.significand) :
    Nearest (√x.value) x.sqrtFinite := by
  have bounded : √x.value < 2 ^ (1022 : ℤ) := by
    rw [Real.sqrt_lt' (two_zpow_pos _), ← zpow_natCast, ← zpow_mul]
    exact (lt_of_abs_lt (abs_value_lt finite)).trans_le
      (zpow_le_zpow_right₀ one_le_two (by decide))
  have long : 2 ^ 108 ≤ x.significand * twoTo (108 + (x.scale % 2).toNat) :=
    calc 2 ^ 108 = 1 * 2 ^ 108 := (one_mul _).symm
      _ ≤ x.significand * 2 ^ (108 + (x.scale % 2).toNat) :=
          Nat.mul_le_mul some (Nat.pow_le_pow_right two_pos (Nat.le_add_right _ _))
  rw [sqrt_value positive] at bounded ⊢
  rw [sqrtFinite_eq]
  exact stickyRoot_nearest long bounded

theorem negative_false {x : Binary64} (positive : 0 < x.value) : x.negative = false := by
  have natural : (0 : ℝ) ≤ x.significand * 2 ^ x.scale :=
    mul_nonneg (Nat.cast_nonneg _) (two_zpow_pos _).le
  cases negative : x.negative with
  | false => rfl
  | true =>
    rw [value, negative, sign_true] at positive
    linarith

theorem isZero_of_value {x : Binary64} (vanishes : x.value = 0) : x.isZero = true := by
  have none : x.significand = 0 := by
    have product := x.abs_value.symm.trans (abs_eq_zero.mpr vanishes)
    exact_mod_cast (mul_eq_zero_iff_right (two_zpow_pos _).ne').mp product
  unfold significand fractionCount at none
  refine decide_eq_true ?_
  split at none <;> omega

theorem sqrt_nearest {x : Binary64} (finite : x.isFinite = true) (natural : 0 ≤ x.value) :
    Nearest (√x.value) x.sqrt := by
  unfold sqrt
  rcases natural.eq_or_lt with vanishes | positive
  · rw [isZero_of_value vanishes.symm, Bool.or_true, if_pos rfl, ← vanishes, Real.sqrt_zero]
    have nearest := nearest_value finite
    rwa [← vanishes] at nearest
  · have some := positive.ne'
    simp only [finite_plain finite, isZero_false some, negative_false positive]
    exact sqrtFinite_nearest finite (negative_false positive) (significand_pos some)

end Parabola.Binary64
