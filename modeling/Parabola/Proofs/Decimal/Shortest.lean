import Parabola.Decimal
import Parabola.Proofs.Binary64.Rounding

/-!
The interval of the reals that round to a number. Its ends lie half a unit away, but only a quarter
below a power of two, where the units become smaller; whatever lies between them is rounded to the
number, and the ends themselves are if the significand is even.
-/

namespace Parabola.Decimal

open Binary64

/-- In units of the significand, a real lies between the ends of the interval around a magnitude. -/
structure Encloses (x : Binary64) (v : ℝ) : Prop where
  low : (quadrupleLow x : ℝ) / 4 < v / 2 ^ x.scale ∨
    Even x.significand ∧ v / 2 ^ x.scale = quadrupleLow x / 4
  high : v / 2 ^ x.scale < quadrupleHigh x / 4 ∨
    Even x.significand ∧ v / 2 ^ x.scale = quadrupleHigh x / 4

section ends

variable {x : Binary64} {v : ℝ}

/-- Just below a power of two the units are halved, unless the scale is the least. -/
theorem quadrupleLow_eq (x : Binary64) : quadrupleLow x =
    if x.significand = 2 ^ 52 ∧ x.scale ≠ -1074 then 4 * x.significand - 1
    else 4 * x.significand - 2 := by
  have code := x.code_eq
  have full := x.least_or_full
  have narrow := x.significand_lt
  have least := x.scale_ge
  unfold quadrupleLow fractionCount
  refine if_congr ?_ rfl rfl
  omega

theorem highEnd_eq (x : Binary64) : (quadrupleHigh x : ℝ) / 4 = x.significand + 1 / 2 := by
  rw [quadrupleHigh]
  push_cast
  ring

theorem le_lowEnd (some : x.isZero = false) : (x.significand : ℝ) - 1 / 2 ≤ quadrupleLow x / 4 := by
  have least := one_le_significand some
  have natural : 4 * x.significand ≤ quadrupleLow x + 2 := by
    rw [quadrupleLow_eq]
    split <;> omega
  have cast : (4 * x.significand : ℝ) ≤ quadrupleLow x + 2 := by exact_mod_cast natural
  linarith

theorem lowEnd_power (power : x.significand = 2 ^ 52) (large : x.scale ≠ -1074) :
    (quadrupleLow x : ℝ) / 4 = 2 ^ 52 - 1 / 4 := by
  have natural : quadrupleLow x = 4 * 2 ^ 52 - 1 := by
    rw [quadrupleLow_eq, if_pos ⟨power, large⟩, power]
  rw [natural]
  norm_num

variable (encloses : Encloses x v)
include encloses

theorem Encloses.lowEnd_le : (quadrupleLow x : ℝ) / 4 ≤ v / 2 ^ x.scale := by
  rcases encloses.low with above | ⟨-, at_end⟩
  · exact above.le
  · exact at_end.ge

theorem Encloses.le_highEnd : v / 2 ^ x.scale ≤ x.significand + 1 / 2 := by
  rw [← highEnd_eq]
  rcases encloses.high with below | ⟨-, at_end⟩
  · exact below.le
  · exact at_end.le

variable (some : x.isZero = false)
include some

theorem Encloses.near : |v / 2 ^ x.scale - x.significand| ≤ 1 / 2 := by
  have low := (le_lowEnd some).trans encloses.lowEnd_le
  have high := encloses.le_highEnd
  exact abs_le.mpr ⟨by linarith, by linarith⟩

theorem Encloses.tie (half : |v / 2 ^ x.scale - x.significand| = 1 / 2) : Even x.significand := by
  rcases encloses.low with above | ⟨even, -⟩
  · rcases encloses.high with below | ⟨even, -⟩
    · -- Strictly between the ends nothing is half a unit away.
      rw [highEnd_eq] at below
      have low := (le_lowEnd some).trans_lt above
      have inside : |v / 2 ^ x.scale - x.significand| < 1 / 2 :=
        abs_lt.mpr ⟨by linarith, by linarith⟩
      exact absurd half inside.ne
    · exact even
  · exact even

theorem Encloses.pos : 0 < v := by
  have least : (1 : ℝ) ≤ x.significand := by exact_mod_cast one_le_significand some
  have low := (le_lowEnd some).trans encloses.lowEnd_le
  have units : 0 < v / 2 ^ x.scale := by linarith
  exact (div_pos_iff_of_pos_right (two_zpow_pos _)).mp units

end ends

/-! Rounding -/

theorem ofSignificand_self {x : Binary64} (finite : x.isFinite = true) (negative : Bool) :
    ofSignificand negative x.significand x.scale = ⟨negative, x.code⟩ := by
  have code := x.code_eq
  have small : x.code.val < infinityCode := of_decide_eq_true finite
  rw [ofSignificand, ofCode, Binary64.mk.injEq]
  refine ⟨rfl, Fin.ext ?_⟩
  unfold fractionCount
  simp only
  omega

theorem ofSignificand_carry {e : ℤ} (negative : Bool) (least : -1074 ≤ e) :
    ofSignificand negative (2 ^ 53) e = ofSignificand negative (2 ^ 52) (e + 1) := by
  have code : (e + 1074).toNat * fractionCount + 2 ^ 53 =
      (e + 1 + 1074).toNat * fractionCount + 2 ^ 52 := by
    unfold fractionCount
    omega
  rw [ofSignificand, ofSignificand, code]

section rounding

variable {x : Binary64} {num den : ℕ} (positive : 0 < den) (some : x.isZero = false)
  (encloses : Encloses x (num / den))
include positive some encloses

omit positive in
theorem num_pos_of_encloses : 0 < num := by
  have pos := encloses.pos some
  refine Nat.pos_of_ne_zero ?_
  rintro rfl
  simp at pos

-- The scale at which the ratio is rounded is that of the number, or the one below a power of two.
theorem scale_of_encloses :
    roundingScale num den = x.scale ∨
      roundingScale num den + 1 = x.scale ∧ x.significand = 2 ^ 52 ∧ x.scale ≠ -1074 ∧
        (num : ℝ) / den / 2 ^ x.scale < 2 ^ 52 := by
  obtain ⟨least, below, full⟩ := roundingScale_bounds (num_pos_of_encloses some encloses) positive
  have low := (le_lowEnd some).trans encloses.lowEnd_le
  have wide : (num : ℝ) / den / 2 ^ x.scale < 2 ^ 53 := by
    have narrow : ((x.significand + 1 : ℕ) : ℝ) ≤ ((2 ^ 53 : ℕ) : ℝ) :=
      Nat.cast_le.mpr x.significand_lt
    push_cast at narrow
    linarith [encloses.le_highEnd]
  have notAbove : roundingScale num den ≤ x.scale := by
    rcases full with subnormal | full
    · rw [subnormal]
      exact x.scale_ge
    · have less := (zpow_lt_zpow_iff_right₀ (by norm_num)).mp
        (full.trans_lt ((units_lt_iff 53).mp wide))
      omega
  by_cases same : roundingScale num den = x.scale
  · exact .inl same
  · have large : x.scale ≠ -1074 := by omega
    have all : ((2 ^ 52 : ℕ) : ℝ) ≤ x.significand :=
      Nat.cast_le.mpr (x.least_or_full.resolve_left large)
    push_cast at all
    have half : 2 ^ 51 ≤ (num : ℝ) / den / 2 ^ x.scale := by linarith
    have above := (zpow_lt_zpow_iff_right₀ (by norm_num)).mp
      (((le_units_iff 51).mp half).trans_lt below)
    have next : roundingScale num den + 1 = x.scale := by omega
    have short : (num : ℝ) / den / 2 ^ x.scale < 2 ^ 52 := by
      refine (units_lt_iff 52).mpr (below.trans_eq (congrArg _ ?_))
      push_cast
      omega
    have bound : (x.significand : ℝ) < ((2 ^ 52 + 1 : ℕ) : ℝ) := by
      push_cast
      linarith
    have atMost := Nat.lt_succ_iff.mp (Nat.cast_lt.mp bound)
    exact .inr ⟨next, le_antisymm atMost (x.least_or_full.resolve_left large), large, short⟩

theorem ofRatio_of_encloses (finite : x.isFinite = true) (negative : Bool) :
    ofRatio negative num den = ⟨negative, x.code⟩ := by
  obtain ⟨near, tie⟩ := roundedSignificand_near num positive
  rw [ofRatio_eq negative (num_pos_of_encloses some encloses)]
  rcases scale_of_encloses positive some encloses with same | ⟨next, power, large, short⟩
  · rw [same] at near tie ⊢
    rw [whole_unique near tie (encloses.near some) (encloses.tie some)]
    exact ofSignificand_self finite negative
  · -- The units are half as large, and their number is rounded up to 2^53.
    have double : (num : ℝ) / den / 2 ^ roundingScale num den =
        2 * (num / den / 2 ^ x.scale) := by
      rw [← next, zpow_add_one₀ two_ne_zero]
      field_simp
    have low := encloses.lowEnd_le
    rw [lowEnd_power power large] at low
    have up : |(num : ℝ) / den / 2 ^ roundingScale num den - (2 ^ 53 : ℕ)| ≤ 1 / 2 := by
      rw [double]
      push_cast
      exact abs_le.mpr ⟨by linarith, by linarith⟩
    have carried : roundedSignificand num den = 2 ^ 53 :=
      whole_unique near tie up fun _ => by decide
    have least := (roundingScale_bounds (num_pos_of_encloses some encloses) positive).1
    rw [carried, ofSignificand_carry negative least, next, ← power]
    exact ofSignificand_self finite negative

end rounding

end Parabola.Decimal

/-!
Decimals as real numbers. The comparisons that find the shortest decimal are exact, so whatever it
is, it lies in the interval of the reals that round to the number it was found for.
-/

namespace Parabola.Decimal

open Binary64

noncomputable def value (d : Decimal) : ℝ := d.digits * 10 ^ d.exponent

@[simp] theorem cast_tenTo (n : ℕ) : (tenTo n : ℝ) = 10 ^ n := by
  unfold tenTo
  norm_cast

theorem tenTo_pos (n : ℕ) : 0 < tenTo n := Nat.pow_pos (by decide)

theorem ten_zpow_eq (e : ℤ) : (10 : ℝ) ^ e = tenTo e.toNat / tenTo (-e).toNat := by
  have split : e = (e.toNat : ℤ) - ((-e).toNat : ℤ) := by omega
  rw [cast_tenTo, cast_tenTo, ← zpow_natCast, ← zpow_natCast, ← zpow_sub₀ (by norm_num), ← split]

theorem value_eq (d : Decimal) :
    d.value = (d.digits * tenTo d.exponent.toNat : ℕ) / (tenTo (-d.exponent).toNat : ℕ) := by
  rw [value, ten_zpow_eq, Nat.cast_mul, mul_div_assoc]

/-! Comparisons -/

theorem compareBinary_eq (d : Decimal) (m : ℕ) (q : ℤ) :
    (d.compareBinary m q = .lt ↔ d.value < m * 2 ^ q) ∧
      (d.compareBinary m q = .eq ↔ d.value = m * 2 ^ q) ∧
      (d.compareBinary m q = .gt ↔ m * 2 ^ q < d.value) := by
  have tens : (0 : ℝ) < (tenTo (-d.exponent).toNat : ℕ) := Nat.cast_pos.mpr (tenTo_pos _)
  have twos : (0 : ℝ) < (twoTo (-q).toNat : ℕ) := Nat.cast_pos.mpr (twoTo_pos _)
  rw [compareBinary, value_eq, scaled_ratio, div_lt_div_iff₀ tens twos,
    div_lt_div_iff₀ twos tens, div_eq_div_iff tens.ne' twos.ne', Nat.compare_eq_lt,
    Nat.compare_eq_eq, Nat.compare_eq_gt]
  refine ⟨?_, ?_, ?_⟩ <;> norm_cast

variable {x : Binary64}

theorem quarters (n : ℕ) (e : ℤ) : (n : ℝ) * 2 ^ (e - 2) = n / 4 * 2 ^ e := by
  rw [zpow_sub₀ two_ne_zero]
  norm_num
  ring

/-- A decimal identifies a number exactly if it lies in its interval. -/
theorem identifies_iff (d : Decimal) (x : Binary64) :
    d.identifies x = true ↔ Encloses x d.value := by
  have unit := two_zpow_pos x.scale
  obtain ⟨-, lowEnd, above⟩ := d.compareBinary_eq (quadrupleLow x) (x.scale - 2)
  obtain ⟨below, highEnd, -⟩ := d.compareBinary_eq (quadrupleHigh x) (x.scale - 2)
  rw [quarters, ← lt_div_iff₀ unit] at above
  rw [quarters, ← div_lt_iff₀ unit] at below
  rw [quarters, ← div_eq_iff unit.ne'] at lowEnd highEnd
  simp only [identifies, Bool.and_eq_true, Bool.or_eq_true, beq_iff_eq, above, below, lowEnd,
    highEnd, ← Nat.even_iff]
  exact ⟨fun ⟨low, high⟩ => ⟨low, high⟩, fun encloses => ⟨encloses.low, encloses.high⟩⟩

/-! Candidates -/

theorem stripZeros_value (d : Decimal) : d.stripZeros.value = d.value := by
  fun_induction stripZeros d with
  | case1 d zero ih =>
    have tenth : (d.digits : ℝ) = ((d.digits / 10 : ℕ) : ℝ) * 10 := by
      exact_mod_cast (Nat.div_mul_cancel (Nat.dvd_of_mod_eq_zero zero.2)).symm
    rw [ih, value, value, zpow_add_one₀ (by norm_num), tenth]
    ring
  | case2 d other => rfl

theorem neighbour_identifies {exponent : ℤ} {d : Decimal}
    (found : neighbour? x exponent = some d) : d.identifies x = true := by
  unfold neighbour? at found
  simp only at found
  split at found
  · next below above =>
    split at found
    · cases found
      exact below
    · cases found
      exact above
  · next below above =>
    cases found
    exact below
  · next below above =>
    cases found
    exact above
  · cases found

theorem exact_value (x : Binary64) : (exact x).value = x.significand * 2 ^ x.scale := by
  have fives : ((Nat.pow 5 (-x.scale).toNat : ℕ) : ℝ) = 5 ^ (-x.scale).toNat :=
    Nat.cast_pow 5 _
  rw [value, exact, Nat.cast_mul, Nat.cast_mul, cast_twoTo, fives]
  rcases le_total 0 x.scale with large | small
  · have whole : (2 : ℝ) ^ x.scale = 2 ^ x.scale.toNat := by
      rw [← zpow_natCast, Int.toNat_of_nonneg large]
    have nothing : (-x.scale).toNat = 0 := by omega
    rw [min_eq_right large, nothing, whole]
    simp
  · have half : (5 : ℝ) ^ (-x.scale).toNat * 10 ^ x.scale = 2 ^ x.scale := by
      rw [← zpow_natCast, Int.toNat_of_nonneg (by omega), show (10 : ℝ) = 5 * 2 by norm_num,
        mul_zpow, ← mul_assoc, ← zpow_add₀ (by norm_num), neg_add_cancel, zpow_zero, one_mul]
    have nothing : x.scale.toNat = 0 := by omega
    rw [min_eq_left small, nothing, pow_zero, mul_one, mul_assoc, half]

theorem exact_encloses (some : x.isZero = false) : Encloses x (exact x).value := by
  have units : (exact x).value / 2 ^ x.scale = x.significand := by
    rw [exact_value, mul_div_cancel_right₀ _ (two_zpow_pos x.scale).ne']
  have least := one_le_significand some
  have natural : quadrupleLow x < 4 * x.significand := by
    rw [quadrupleLow_eq]
    split <;> omega
  have cast : (quadrupleLow x : ℝ) < 4 * x.significand := by exact_mod_cast natural
  refine ⟨.inl ?_, .inl ?_⟩
  · rw [units]
    linarith
  · rw [units, highEnd_eq]
    linarith

/-- The shortest decimal of a number lies in its interval. -/
theorem shortest_encloses (some : x.isZero = false) : Encloses x (shortest x).value := by
  rw [shortest, stripZeros_value]
  cases found : (List.range 17).findSome? fun n : Nat => neighbour? x (magnitudeLog10 x - 1 - (n : ℤ)) with
  | none => exact exact_encloses some
  | some d =>
    obtain ⟨n, -, hit⟩ := List.exists_of_findSome?_eq_some found
    exact (d.identifies_iff x).mp (neighbour_identifies hit)

/-! Rounding -/

def rounded (negative : Bool) (d : Decimal) : Binary64 :=
  ofRatio negative (d.digits * tenTo d.exponent.toNat) (tenTo (-d.exponent).toNat)

theorem rounded_eq (negative : Bool) (d : Decimal) :
    Rounded negative d.value (d.rounded negative) := by
  rw [value_eq]
  exact ofRatio_rounded _ (tenTo_pos _) negative

theorem rounded_of_encloses {d : Decimal} (finite : x.isFinite = true) (some : x.isZero = false)
    (encloses : Encloses x d.value) (negative : Bool) : d.rounded negative = ⟨negative, x.code⟩ := by
  rw [value_eq] at encloses
  exact ofRatio_of_encloses (tenTo_pos _) some encloses finite negative

end Parabola.Decimal
