import Mathlib.Algebra.Ring.Parity
import Mathlib.Tactic.FieldSimp
import Parabola.Proofs.Binary64.Nearest

/-!
The rounding of a ratio of naturals is to the nearest number, as long as the ratio stays clear of
the greatest finite numbers.
-/

namespace Parabola.Binary64

theorem twoTo_pos (n : ℕ) : 0 < twoTo n := Nat.two_pow_pos n

@[simp] theorem cast_twoTo (n : ℕ) : (twoTo n : ℝ) = 2 ^ n := by
  unfold twoTo
  norm_cast

theorem two_zpow_eq (e : ℤ) : (2 : ℝ) ^ e = twoTo e.toNat / twoTo (-e).toNat := by
  have split : e = (e.toNat : ℤ) - ((-e).toNat : ℤ) := by omega
  rw [cast_twoTo, cast_twoTo, ← zpow_natCast, ← zpow_natCast, ← zpow_sub₀ (by norm_num), ← split]

/-! Nearest naturals -/

section parts

variable (num : ℕ) {den : ℕ}

theorem ratio_parts (positive : 0 < den) :
    (num : ℝ) / den = (num / den : ℕ) + (num % den : ℕ) / den := by
  have unit : (0 : ℝ) < den := Nat.cast_pos.mpr positive
  have whole : (num : ℝ) = (num / den : ℕ) * den + (num % den : ℕ) := by
    exact_mod_cast (Nat.div_add_mod' num den).symm
  field_simp
  linarith

theorem part_lt_half_iff (positive : 0 < den) :
    ((num % den : ℕ) : ℝ) / den < 1 / 2 ↔ 2 * (num % den) < den := by
  rw [div_lt_div_iff₀ (Nat.cast_pos.mpr positive) two_pos, one_mul, mul_comm]
  exact_mod_cast Iff.rfl

theorem half_lt_part_iff (positive : 0 < den) :
    1 / 2 < ((num % den : ℕ) : ℝ) / den ↔ den < 2 * (num % den) := by
  rw [div_lt_div_iff₀ two_pos (Nat.cast_pos.mpr positive), one_mul, mul_comm]
  exact_mod_cast Iff.rfl

theorem nearestEven_near (positive : 0 < den) :
    |(num : ℝ) / den - nearestEven num den| ≤ 1 / 2 ∧
      (|(num : ℝ) / den - nearestEven num den| = 1 / 2 → Even (nearestEven num den)) := by
  have unit : (0 : ℝ) < den := Nat.cast_pos.mpr positive
  have part : (0 : ℝ) ≤ (num % den : ℕ) / den := div_nonneg (Nat.cast_nonneg _) unit.le
  have below : ((num % den : ℕ) : ℝ) / den < 1 :=
    (div_lt_one unit).mpr (Nat.cast_lt.mpr (Nat.mod_lt _ positive))
  rw [ratio_parts num positive, nearestEven]
  by_cases low : 2 * (num % den) < den
  · have small := (part_lt_half_iff num positive).mpr low
    rw [if_pos low, add_sub_cancel_left, abs_of_nonneg part]
    exact ⟨small.le, fun tie => absurd tie small.ne⟩
  · by_cases high : den < 2 * (num % den)
    · have large := (half_lt_part_iff num positive).mpr high
      rw [if_neg low, if_pos high, Nat.cast_add, Nat.cast_one, add_sub_add_left_eq_sub,
        abs_of_neg (by linarith)]
      exact ⟨by linarith, fun tie => by linarith⟩
    · have half : ((num % den : ℕ) : ℝ) / den = 1 / 2 :=
        le_antisymm (not_lt.mp (mt (half_lt_part_iff num positive).mp high))
          (not_lt.mp (mt (part_lt_half_iff num positive).mp low))
      rw [if_neg low, if_neg high, half]
      rcases Nat.mod_two_eq_zero_or_one (num / den) with even | odd
      · rw [even, Nat.add_zero, add_sub_cancel_left]
        exact ⟨by norm_num, fun _ => Nat.even_iff.mpr even⟩
      · rw [odd, Nat.cast_add, Nat.cast_one, add_sub_add_left_eq_sub]
        exact ⟨by norm_num [abs_le], fun _ => Nat.even_iff.mpr (by omega)⟩

end parts

/-! Exponents -/

theorem two_zpow_le_iff {num den : ℕ} (positive : 0 < den) (e : ℤ) :
    den * twoTo e.toNat ≤ num * twoTo (-e).toNat ↔ (2 : ℝ) ^ e ≤ num / den := by
  have unit : (0 : ℝ) < den := Nat.cast_pos.mpr positive
  have power : (0 : ℝ) < (twoTo (-e).toNat : ℕ) := Nat.cast_pos.mpr (twoTo_pos _)
  rw [two_zpow_eq, div_le_div_iff₀ power unit]
  constructor
  · intro le
    have cast : ((den * twoTo e.toNat : ℕ) : ℝ) ≤ (num * twoTo (-e).toNat : ℕ) := Nat.cast_le.mpr le
    push_cast at cast ⊢
    linarith
  · intro le
    exact_mod_cast (mul_comm (den : ℝ) _).trans_le le

theorem log2_bounds {n : ℕ} (positive : 0 < n) :
    (2 : ℝ) ^ (n.log2 : ℤ) ≤ n ∧ (n : ℝ) < 2 ^ ((n.log2 : ℤ) + 1) := by
  have least : 2 ^ n.log2 ≤ n := Nat.log2_self_le positive.ne'
  have greatest : n < 2 ^ (n.log2 + 1) := Nat.lt_log2_self
  constructor
  · exact_mod_cast least
  · exact_mod_cast greatest

theorem ratioLog2_bounds {num den : ℕ} (some : 0 < num) (positive : 0 < den) :
    (2 : ℝ) ^ ratioLog2 num den ≤ num / den ∧ (num : ℝ) / den < 2 ^ (ratioLog2 num den + 1) := by
  have unit : (0 : ℝ) < den := Nat.cast_pos.mpr positive
  obtain ⟨numLeast, numGreatest⟩ := log2_bounds some
  obtain ⟨denLeast, denGreatest⟩ := log2_bounds positive
  unfold ratioLog2
  by_cases reached :
      den * twoTo ((num.log2 : ℤ) - den.log2).toNat ≤ num * twoTo (-((num.log2 : ℤ) - den.log2)).toNat
  · rw [if_pos reached]
    refine ⟨(two_zpow_le_iff positive _).mp reached, ?_⟩
    rw [div_lt_iff₀ unit]
    calc (num : ℝ) < 2 ^ ((num.log2 : ℤ) + 1) := numGreatest
      _ = 2 ^ ((num.log2 : ℤ) - den.log2 + 1) * 2 ^ (den.log2 : ℤ) := by
          rw [← zpow_add₀ (by norm_num)]
          congr 1
          omega
      _ ≤ _ := mul_le_mul_of_nonneg_left denLeast (two_zpow_pos _).le
  · rw [if_neg reached, sub_add_cancel]
    refine ⟨?_, not_le.mp fun le => reached ((two_zpow_le_iff positive _).mpr le)⟩
    rw [le_div_iff₀ unit]
    calc (2 : ℝ) ^ ((num.log2 : ℤ) - den.log2 - 1) * den
        ≤ 2 ^ ((num.log2 : ℤ) - den.log2 - 1) * 2 ^ ((den.log2 : ℤ) + 1) :=
          mul_le_mul_of_nonneg_left denGreatest.le (two_zpow_pos _).le
      _ = 2 ^ (num.log2 : ℤ) := by
          rw [← zpow_add₀ (by norm_num)]
          congr 1
          omega
      _ ≤ num := numLeast

/-! Ratios -/

def roundedSignificand (num den : ℕ) : ℕ :=
  nearestEven (num * twoTo (-roundingScale num den).toNat)
    (den * twoTo (roundingScale num den).toNat)

theorem ofRatio_eq {num den : ℕ} (negative : Bool) (some : 0 < num) :
    ofRatio negative num den =
      ofSignificand negative (roundedSignificand num den) (roundingScale num den) := by
  rw [ofRatio, if_neg some.ne']
  rfl

/-- The units of a positive ratio fill a significand, unless the scale is the least. -/
theorem roundingScale_bounds {num den : ℕ} (some : 0 < num) (positive : 0 < den) :
    -1074 ≤ roundingScale num den ∧ (num : ℝ) / den < 2 ^ (roundingScale num den + 53) ∧
      (roundingScale num den = -1074 ∨ 2 ^ (roundingScale num den + 52) ≤ (num : ℝ) / den) := by
  obtain ⟨least, greatest⟩ := ratioLog2_bounds some positive
  have scale : roundingScale num den = max (ratioLog2 num den - 52) (-1074) := rfl
  refine ⟨by omega, greatest.trans_le (zpow_le_zpow_right₀ (by norm_num) (by omega)), ?_⟩
  by_cases subnormal : roundingScale num den = -1074
  · exact .inl subnormal
  · exact .inr ((zpow_le_zpow_right₀ (by norm_num) (by omega)).trans least)

theorem roundedSignificand_near (num : ℕ) {den : ℕ} (positive : 0 < den) :
    |(num : ℝ) / den / 2 ^ roundingScale num den - roundedSignificand num den| ≤ 1 / 2 ∧
      (|(num : ℝ) / den / 2 ^ roundingScale num den - roundedSignificand num den| = 1 / 2 →
        Even (roundedSignificand num den)) := by
  have units : (num : ℝ) / den / 2 ^ roundingScale num den =
      (num * twoTo (-roundingScale num den).toNat : ℕ) /
        (den * twoTo (roundingScale num den).toNat : ℕ) := by
    rw [two_zpow_eq (roundingScale num den), div_div_div_eq, Nat.cast_mul, Nat.cast_mul]
  rw [units]
  exact nearestEven_near _ (Nat.mul_pos positive (twoTo_pos _))

theorem units_lt_iff {v : ℝ} {e : ℤ} (n : ℕ) : v / 2 ^ e < 2 ^ n ↔ v < 2 ^ (e + n) := by
  rw [div_lt_iff₀ (two_zpow_pos e), zpow_add₀ (by norm_num), mul_comm, zpow_natCast]

theorem le_units_iff {v : ℝ} {e : ℤ} (n : ℕ) : 2 ^ n ≤ v / 2 ^ e ↔ 2 ^ (e + n) ≤ v := by
  rw [← not_lt, units_lt_iff, not_lt]

theorem ofRatio_rounds {num den : ℕ} (some : 0 < num) (positive : 0 < den)
    (small : (num : ℝ) / den < 2 ^ (1023 : ℤ)) :
    RoundsTo (num / den / 2 ^ roundingScale num den) (roundedSignificand num den)
      (roundingScale num den) := by
  obtain ⟨least, below, full⟩ := roundingScale_bounds some positive
  obtain ⟨near, tie⟩ := roundedSignificand_near num positive
  refine ⟨least, ?_, (units_lt_iff 53).mpr below, full.imp_right (le_units_iff 52).mpr, near, tie⟩
  rcases full with subnormal | full
  · omega
  · have exponent := (zpow_lt_zpow_iff_right₀ (by norm_num)).mp (full.trans_lt small)
    omega

theorem ofRatio_negative (negative : Bool) (num den : ℕ) :
    (ofRatio negative num den).negative = negative := by
  unfold ofRatio
  split <;> rfl

theorem ofRatio_not (negative : Bool) (num den : ℕ) :
    ofRatio (!negative) num den = (ofRatio negative num den).neg := by
  unfold ofRatio
  split <;> rfl

theorem Nearest.signed {v : ℝ} {num den : ℕ} (nearest : Nearest v (ofRatio false num den))
    (negative : Bool) : Nearest (sign negative * v) (ofRatio negative num den) := by
  cases negative with
  | false => simpa using nearest
  | true =>
    have mirrored : ofRatio true num den = (ofRatio false num den).neg := ofRatio_not false num den
    simpa [mirrored] using nearest.neg

theorem ofRatio_nearest {num den : ℕ} (negative : Bool) (positive : 0 < den)
    (small : (num : ℝ) / den < 2 ^ (1023 : ℤ)) :
    Nearest (sign negative * (num / den)) (ofRatio negative num den) := by
  refine Nearest.signed ?_ negative
  rcases Nat.eq_zero_or_pos num with rfl | some
  · rw [Nat.cast_zero, zero_div]
    exact nearest_zero false
  · have nearest := (ofRatio_rounds some positive small).nearest
    rwa [div_mul_cancel₀ _ (two_zpow_pos _).ne', ← ofRatio_eq false some] at nearest

theorem scaled_ratio (m : ℕ) (e : ℤ) :
    (m : ℝ) * 2 ^ e = (m * twoTo e.toNat : ℕ) / (twoTo (-e).toNat : ℕ) := by
  rw [two_zpow_eq, Nat.cast_mul, mul_div_assoc]

theorem ofScaled_nearest {m : ℕ} {e : ℤ} (negative : Bool)
    (small : (m : ℝ) * 2 ^ e < 2 ^ (1023 : ℤ)) :
    Nearest (sign negative * (m * 2 ^ e)) (ofScaled negative m e) := by
  rw [scaled_ratio] at small ⊢
  exact ofRatio_nearest negative (twoTo_pos _) small

theorem ofScaled_rounds {t : ℕ} {f : ℤ} (some : 0 < t)
    (small : (t : ℝ) * 2 ^ f < 2 ^ (1023 : ℤ)) :
    ∃ m e, ofScaled false t f = ofSignificand false m e ∧ RoundsTo (t * 2 ^ f / 2 ^ e) m e := by
  have numerator : 0 < t * twoTo f.toNat := Nat.mul_pos some (twoTo_pos _)
  rw [scaled_ratio] at small ⊢
  exact ⟨_, _, ofRatio_eq false numerator, ofRatio_rounds numerator (twoTo_pos _) small⟩

end Parabola.Binary64

/-!
Rounding as far as binary64 numbers reach: below the middle between the greatest finite number and
2^1024 a ratio is rounded to the nearest number, and from there on it becomes infinite.
-/

namespace Parabola.Binary64

/-- A magnitude is rounded under a sign: to the nearest number, ties to even, or to infinity if it is
too large for any. -/
structure Rounded (negative : Bool) (v : ℝ) (y : Binary64) : Prop where
  signed : y.negative = negative
  nearest : v < overflow → Nearest (sign negative * v) y
  infinite : overflow ≤ v → y.isInfinite = true

theorem overflow_eq : overflow = (2 ^ 53 - 1 / 2) * 2 ^ (971 : ℤ) := by
  have one : (2 : ℝ) ^ (971 : ℤ) = 2 ^ (970 : ℤ) * 2 := zpow_add_one₀ two_ne_zero 970
  have many : (2 : ℝ) ^ (1024 : ℤ) = 2 ^ (970 : ℤ) * 2 ^ (54 : ℤ) := zpow_add₀ two_ne_zero 970 54
  rw [overflow, many, one]
  generalize (2 : ℝ) ^ (970 : ℤ) = unit
  norm_num
  ring

theorem lt_overflow : (2 : ℝ) ^ (1023 : ℤ) < overflow := by
  have many : (2 : ℝ) ^ (1023 : ℤ) = 2 ^ (971 : ℤ) * 2 ^ (52 : ℤ) := zpow_add₀ two_ne_zero 971 52
  rw [overflow_eq, many, mul_comm]
  refine mul_lt_mul_of_pos_right ?_ (two_zpow_pos 971)
  norm_num

theorem overflow_lt : overflow < 2 ^ (1024 : ℤ) := sub_lt_self _ (two_zpow_pos 970)

/-! The greatest scale -/

theorem finite_ofSignificand {m : ℕ} (negative : Bool) (narrow : m < 2 ^ 53) :
    (ofSignificand negative m 971).isFinite = true := by
  refine decide_eq_true ?_
  simp only [ofSignificand, ofCode, fractionCount, infinityCode]
  omega

theorem greatest_parts {m : ℕ} (negative : Bool) (full : 2 ^ 52 ≤ m) (narrow : m < 2 ^ 53) :
    (ofSignificand negative m 971).significand = m ∧ (ofSignificand negative m 971).scale = 971 := by
  have code : (ofSignificand negative m 971).code.val = 2045 * 2 ^ 52 + m := by
    simp only [ofSignificand, ofCode, fractionCount, infinityCode]
    omega
  have normal : ¬ 2045 * 2 ^ 52 + m < 4503599627370496 := by omega
  unfold significand scale fractionCount
  rw [code, if_neg normal, if_neg normal]
  omega

theorem infinite_ofSignificand {m : ℕ} {e : ℤ} (negative : Bool)
    (large : 2047 * 2 ^ 52 ≤ (e + 1074).toNat * 2 ^ 52 + m) :
    (ofSignificand negative m e).isInfinite = true := by
  refine decide_eq_true ?_
  simp only [ofSignificand, ofCode, fractionCount, infinityCode]
  omega

section ratio

variable {num den : ℕ}

theorem le_of_near {q : ℝ} {k n : ℕ} (near : |q - n| ≤ 1 / 2) (le : k ≤ q) : k ≤ n := by
  have bound : (k : ℝ) < ((n + 1 : ℕ) : ℝ) := by
    push_cast
    linarith [(abs_le.mp near).2]
  exact Nat.lt_succ_iff.mp (Nat.cast_lt.mp bound)

theorem scale_of_large (positive : 0 < den) (large : (2 : ℝ) ^ (1023 : ℤ) ≤ num / den) :
    0 < num ∧ 971 ≤ roundingScale num den ∧
      2 ^ 52 ≤ (num : ℝ) / den / 2 ^ roundingScale num den := by
  have some : 0 < num := by
    refine Nat.pos_of_ne_zero ?_
    rintro rfl
    rw [Nat.cast_zero, zero_div] at large
    exact absurd large (not_le.mpr (two_zpow_pos 1023))
  obtain ⟨-, below, full⟩ := roundingScale_bounds some positive
  have exponent := (zpow_lt_zpow_iff_right₀ (by norm_num)).mp (large.trans_lt below)
  exact ⟨some, by omega, (le_units_iff 52).mpr (full.resolve_left (by omega))⟩

theorem ofRatio_nearest_large (positive : 0 < den)
    (large : (2 : ℝ) ^ (1023 : ℤ) ≤ num / den) (small : (num : ℝ) / den < overflow) :
    Nearest (num / den) (ofRatio false num den) := by
  obtain ⟨near, tie⟩ := roundedSignificand_near num positive
  obtain ⟨some, least, full⟩ := scale_of_large positive large
  have scale : roundingScale num den = 971 := by
    have reached := ((le_units_iff 52).mp full).trans_lt (small.trans overflow_lt)
    have exponent := (zpow_lt_zpow_iff_right₀ (by norm_num)).mp reached
    omega
  rw [ofRatio_eq false some]
  rw [scale] at near tie full ⊢
  have unit := two_zpow_pos 971
  have units : (num : ℝ) / den / 2 ^ (971 : ℤ) < 2 ^ 53 - 1 / 2 := by
    rw [div_lt_iff₀ unit, ← overflow_eq]
    exact small
  have wide : 2 ^ 52 ≤ roundedSignificand num den := le_of_near near (by exact_mod_cast full)
  have narrow : roundedSignificand num den < 2 ^ 53 := by
    have bound : (roundedSignificand num den : ℝ) < ((2 ^ 53 : ℕ) : ℝ) := by
      push_cast
      linarith [(abs_le.mp near).1]
    exact Nat.cast_lt.mp bound
  obtain ⟨significand, greatest⟩ := greatest_parts false wide narrow
  rw [← div_mul_cancel₀ ((num : ℝ) / den) unit.ne']
  refine nearest_of_units (finite_ofSignificand false narrow) ?_ ?_ near tie (.inr full)
  · rw [value, significand, greatest]
    exact one_mul _
  · rw [significand]
    exact id

theorem ofRatio_infinite (positive : 0 < den) (negative : Bool)
    (large : overflow ≤ (num : ℝ) / den) : (ofRatio negative num den).isInfinite = true := by
  obtain ⟨near, tie⟩ := roundedSignificand_near num positive
  obtain ⟨some, least, full⟩ := scale_of_large positive (lt_overflow.le.trans large)
  have wide : 2 ^ 52 ≤ roundedSignificand num den := le_of_near near (by exact_mod_cast full)
  rw [ofRatio_eq negative some]
  apply infinite_ofSignificand
  by_cases scale : roundingScale num den = 971
  · rw [scale] at near tie ⊢
    have units : 2 ^ 53 - 1 / 2 ≤ (num : ℝ) / den / 2 ^ (971 : ℤ) := by
      rw [le_div_iff₀ (two_zpow_pos 971), ← overflow_eq]
      exact large
    -- One less than 2^53 would be odd and, at best, half a unit away.
    have carried : roundedSignificand num den ≠ 2 ^ 53 - 1 := by
      intro odd
      rw [odd] at near tie
      push_cast at near tie
      have half := tie (le_antisymm near (le_abs.mpr (.inl (by linarith))))
      exact absurd half (by decide)
    have almost : 2 ^ 53 - 1 ≤ roundedSignificand num den :=
      le_of_near near (by push_cast; linarith)
    omega
  · omega

theorem ofRatio_rounded (num : ℕ) (positive : 0 < den) (negative : Bool) :
    Rounded negative (num / den) (ofRatio negative num den) where
  signed := ofRatio_negative negative num den
  nearest small := by
    by_cases moderate : (num : ℝ) / den < 2 ^ (1023 : ℤ)
    · exact ofRatio_nearest negative positive moderate
    · exact (ofRatio_nearest_large positive (not_lt.mp moderate) small).signed negative
  infinite := ofRatio_infinite positive negative

end ratio

end Parabola.Binary64
