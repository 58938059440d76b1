import Mathlib.Algebra.Order.Archimedean.Real.Basic
import Mathlib.Data.Int.Log
import Mathlib.Data.Real.Basic
import Mathlib.Data.Sign.Basic
import Mathlib.Tactic.Linarith
import Mathlib.Tactic.NormNum
import Mathlib.Tactic.Ring
import Parabola.Binary64

/-!
The real number that a binary64 number stands for. Every finite one is a significand of at most 53
bits times a power of two; a significand that is put together with a fitting scale is read back,
also where it has grown to 2^53 and the scale goes up by one.
-/

namespace Parabola.Binary64

def sign (negative : Bool) : ℝ := if negative then -1 else 1

@[simp] theorem sign_true : sign true = -1 := rfl

@[simp] theorem sign_false : sign false = 1 := rfl

theorem sign_not (negative : Bool) : sign (!negative) = -sign negative := by
  cases negative <;> simp

theorem abs_sign (negative : Bool) : |sign negative| = 1 := by
  cases negative <;> simp

noncomputable def value (x : Binary64) : ℝ := sign x.negative * (x.significand * 2 ^ x.scale)

/-- The middle between the greatest finite number, whose significand is odd, and 2^1024. -/
noncomputable def overflow : ℝ := 2 ^ (1024 : ℤ) - 2 ^ (970 : ℤ)

theorem two_zpow_pos (e : ℤ) : (0 : ℝ) < 2 ^ e := zpow_pos (by norm_num) e

theorem significand_lt (x : Binary64) : x.significand < 2 ^ 53 := by
  unfold significand fractionCount
  split <;> omega

theorem scale_le {x : Binary64} (finite : x.isFinite = true) : x.scale ≤ 971 := by
  have code : x.code.val < infinityCode := of_decide_eq_true finite
  unfold infinityCode at code
  unfold scale fractionCount
  split <;> omega

theorem scale_ge (x : Binary64) : -1074 ≤ x.scale := by
  unfold scale fractionCount
  split <;> omega

theorem code_eq (x : Binary64) : x.code.val = (x.scale + 1074).toNat * 2 ^ 52 + x.significand := by
  unfold scale significand fractionCount
  split <;> omega

theorem least_or_full (x : Binary64) : x.scale = -1074 ∨ 2 ^ 52 ≤ x.significand := by
  unfold scale significand fractionCount
  split <;> omega

theorem one_le_significand {x : Binary64} (some : x.isZero = false) : 1 ≤ x.significand := by
  have code := x.code_eq
  have full := x.least_or_full
  have other : x.code.val ≠ 0 := of_decide_eq_false some
  omega

@[simp] theorem neg_finite (x : Binary64) : x.neg.isFinite = x.isFinite := rfl

@[simp] theorem value_neg (x : Binary64) : x.neg.value = -x.value := by
  have sign : sign x.neg.negative = -sign x.negative := sign_not x.negative
  rw [value, sign, neg_mul]
  rfl

theorem abs_value (x : Binary64) : |x.value| = x.significand * 2 ^ x.scale := by
  have natural : (0 : ℝ) ≤ x.significand * 2 ^ x.scale :=
    mul_nonneg (Nat.cast_nonneg _) (two_zpow_pos _).le
  rw [value, abs_mul, abs_sign, one_mul, abs_of_nonneg natural]

theorem abs_value_lt_scale (x : Binary64) : |x.value| < 2 ^ (x.scale + 53) := by
  have wide : (x.significand : ℝ) < 2 ^ (53 : ℤ) := by exact_mod_cast x.significand_lt
  rw [abs_value, zpow_add₀ (by norm_num), mul_comm]
  exact mul_lt_mul_of_pos_left wide (two_zpow_pos _)

theorem abs_value_lt {x : Binary64} (finite : x.isFinite = true) : |x.value| < 2 ^ (1024 : ℤ) := by
  have scale := scale_le finite
  exact x.abs_value_lt_scale.trans_le (zpow_le_zpow_right₀ (by norm_num) (by omega))

@[simp] theorem zero_finite (negative : Bool) : (zero negative).isFinite = true := rfl

@[simp] theorem value_zero (negative : Bool) : (zero negative).value = 0 := by
  have none : (zero negative).significand = 0 := rfl
  simp [value, none]

def IsValue (v : ℝ) : Prop := ∃ z : Binary64, z.isFinite = true ∧ z.value = v

theorem isValue_neg {v : ℝ} (held : IsValue v) : IsValue (-v) := by
  obtain ⟨z, finite, rfl⟩ := held
  exact ⟨z.neg, finite, z.value_neg⟩

theorem isValue_zero : IsValue 0 := ⟨zero false, zero_finite false, value_zero false⟩

/-- A significand fits a scale: it takes all bits, unless the scale is the least. -/
structure Fits (significand : ℕ) (scale : ℤ) : Prop where
  least : -1074 ≤ scale
  greatest : scale ≤ 970
  narrow : significand ≤ 2 ^ 53
  full : scale = -1074 ∨ 2 ^ 52 ≤ significand

section ofSignificand

variable (negative : Bool) {m : ℕ} {e : ℤ}

theorem code_ofSignificand (fits : Fits m e) :
    (ofSignificand negative m e).code.val = (e + 1074).toNat * 2 ^ 52 + m := by
  obtain ⟨least, greatest, narrow, -⟩ := fits
  simp only [ofSignificand, ofCode, fractionCount, infinityCode]
  omega

theorem ofSignificand_finite (fits : Fits m e) :
    (ofSignificand negative m e).isFinite = true := by
  have code := code_ofSignificand negative fits
  obtain ⟨least, greatest, narrow, -⟩ := fits
  refine decide_eq_true (code ▸ ?_)
  unfold infinityCode
  omega

/-- Up to 2^53 the significand comes back; 2^53 is the half of it at the next scale. -/
theorem ofSignificand_parts (fits : Fits m e) :
    let x := ofSignificand negative m e
    (m < 2 ^ 53 ∧ x.significand = m ∧ x.scale = e) ∨
      (m = 2 ^ 53 ∧ x.significand = 2 ^ 52 ∧ x.scale = e + 1) := by
  intro x
  have code : x.code.val = _ := code_ofSignificand negative fits
  obtain ⟨least, greatest, narrow, full⟩ := fits
  unfold significand scale fractionCount
  rw [code]
  by_cases subnormal : (e + 1074).toNat * 2 ^ 52 + m < 4503599627370496
  · rw [if_pos subnormal, if_pos subnormal]
    omega
  · rw [if_neg subnormal, if_neg subnormal]
    omega

theorem abs_ofSignificand (fits : Fits m e) : |(ofSignificand negative m e).value| = m * 2 ^ e := by
  rw [abs_value]
  rcases ofSignificand_parts negative fits with
    ⟨-, significand, scale⟩ | ⟨rfl, significand, scale⟩
  · rw [significand, scale]
  · rw [significand, scale, zpow_add_one₀ (by norm_num)]
    push_cast
    ring

theorem value_ofSignificand (fits : Fits m e) : (ofSignificand false m e).value = m * 2 ^ e := by
  rw [← abs_ofSignificand false fits, abs_value]
  exact one_mul _

theorem even_ofSignificand (fits : Fits m e) (even : Even m) :
    Even (ofSignificand negative m e).significand := by
  rcases ofSignificand_parts negative fits with
    ⟨-, significand, -⟩ | ⟨-, significand, -⟩
  · rw [significand]
    exact even
  · rw [significand]
    decide

end ofSignificand

/-- At any scale a finite value either is a whole number of units or is too small for all bits. -/
theorem whole_or_small (x : Binary64) (e : ℤ) :
    (∃ k : ℤ, x.value = k * 2 ^ e) ∨ (-1074 < e ∧ |x.value| < 2 ^ (e + 52)) := by
  by_cases coarse : e ≤ x.scale
  · left
    obtain ⟨shift, above⟩ := Int.le.dest coarse
    have units : (2 : ℝ) ^ x.scale = 2 ^ shift * 2 ^ e := by
      rw [← above, zpow_add₀ (by norm_num), zpow_natCast, mul_comm]
    refine ⟨(if x.negative then -1 else 1) * (x.significand * 2 ^ shift), ?_⟩
    rw [value, units, sign]
    push_cast
    ring
  · refine .inr ⟨lt_of_le_of_lt x.scale_ge (not_le.mp coarse), ?_⟩
    exact x.abs_value_lt_scale.trans_le (zpow_le_zpow_right₀ (by norm_num) (by omega))

theorem whole_of_large {x : Binary64} {e : ℤ} (large : 2 ^ (e + 52) ≤ |x.value|) :
    ∃ k : ℤ, x.value = k * 2 ^ e := by
  rcases x.whole_or_small e with whole | ⟨-, small⟩
  · exact whole
  · exact absurd small (not_lt.mpr large)

end Parabola.Binary64

/-!
What it means to round a real number to binary64, and how a rounded result is recognised: it is a
nearest whole number of units of a fitting scale.
-/

namespace Parabola.Binary64

/-- No finite number is nearer, and of two that are equally near it is the even one. -/
structure Nearest (x : ℝ) (y : Binary64) : Prop where
  finite : y.isFinite = true
  least : ∀ z : Binary64, z.isFinite = true → |x - y.value| ≤ |x - z.value|
  even : ∀ z : Binary64, z.isFinite = true → z.value ≠ y.value →
    |x - z.value| = |x - y.value| → Even y.significand

namespace Nearest

variable {x : ℝ} {y : Binary64}

theorem neg (nearest : Nearest x y) : Nearest (-x) y.neg := by
  have mirrored : ∀ z : Binary64, |-x - z.value| = |x - z.neg.value| := by
    intro z
    rw [value_neg, ← abs_neg]
    ring_nf
  have mirror : |-x - y.neg.value| = |x - y.value| := by
    rw [mirrored, value_neg, value_neg, neg_neg]
  refine ⟨nearest.finite, ?_, ?_⟩
  · intro z finite
    rw [mirror, mirrored]
    exact nearest.least z.neg finite
  · intro z finite other tie
    rw [mirror, mirrored] at tie
    refine nearest.even z.neg finite ?_ tie
    intro same
    rw [value_neg] at other same
    exact other (by linarith)

theorem least_value {v : ℝ} (nearest : Nearest x y) (held : IsValue v) :
    |x - y.value| ≤ |x - v| := by
  obtain ⟨z, finite, rfl⟩ := held
  exact nearest.least z finite

theorem exact (nearest : Nearest x y) (held : IsValue x) : y.value = x := by
  have distance := nearest.least_value held
  rw [sub_self, abs_zero, abs_nonpos_iff] at distance
  linarith

theorem value_le {v : ℝ} (nearest : Nearest x y) (held : IsValue v) (le : x ≤ v) : y.value ≤ v := by
  by_contra above
  have distance := nearest.least_value held
  rw [abs_of_nonpos (by linarith), abs_of_nonpos (by linarith)] at distance
  linarith

theorem le_value {v : ℝ} (nearest : Nearest x y) (held : IsValue v) (le : v ≤ x) : v ≤ y.value := by
  by_contra below
  have distance := nearest.least_value held
  rw [abs_of_nonneg (by linarith), abs_of_nonneg (by linarith)] at distance
  linarith

theorem le_mid {v : ℝ} (nearest : Nearest x y) (held : IsValue v) (above : y.value < v) :
    2 * x ≤ y.value + v := by
  by_contra far
  have distance := sq_le_sq.mpr (nearest.least_value held)
  have product := mul_pos (sub_pos.mpr above) (sub_pos.mpr (not_le.mp far))
  linarith

theorem mid_le {v : ℝ} (nearest : Nearest x y) (held : IsValue v) (below : v < y.value) :
    v + y.value ≤ 2 * x := by
  by_contra far
  have distance := sq_le_sq.mpr (nearest.least_value held)
  have product := mul_pos (sub_pos.mpr below) (sub_pos.mpr (not_le.mp far))
  linarith

theorem monotone {x' : ℝ} {y' : Binary64} (nearest : Nearest x y) (other : Nearest x' y')
    (less : x < x') : y.value ≤ y'.value := by
  by_contra turned
  have right := nearest.mid_le ⟨y', other.finite, rfl⟩ (not_le.mp turned)
  have left := other.le_mid ⟨y, nearest.finite, rfl⟩ (not_le.mp turned)
  linarith

end Nearest

theorem nearest_value {x : Binary64} (finite : x.isFinite = true) : Nearest x.value x where
  finite := finite
  least z _ := by simp
  even z _ other tie := by
    rw [sub_self, abs_zero, abs_eq_zero, sub_eq_zero] at tie
    exact absurd tie.symm other

theorem nearest_zero (negative : Bool) : Nearest 0 (zero negative) := by
  have nearest := nearest_value (zero_finite negative)
  rwa [value_zero] at nearest

theorem fits_of_near {q : ℝ} {m : ℕ} {e : ℤ} (least : -1074 ≤ e) (greatest : e ≤ 970)
    (below : q < 2 ^ 53) (full : e = -1074 ∨ 2 ^ 52 ≤ q) (near : |q - m| ≤ 1 / 2) : Fits m e := by
  obtain ⟨low, high⟩ := abs_le.mp near
  refine ⟨least, greatest, ?_, full.imp_right fun full => ?_⟩
  · have bound : (m : ℝ) < ((2 ^ 53 + 1 : ℕ) : ℝ) := by
      push_cast
      linarith
    exact Nat.lt_succ_iff.mp (Nat.cast_lt.mp bound)
  · have bound : ((2 ^ 52 : ℕ) : ℝ) < ((m + 1 : ℕ) : ℝ) := by
      push_cast
      linarith
    exact Nat.lt_succ_iff.mp (Nat.cast_lt.mp bound)

/-! Nearest whole numbers of units -/

section units

variable {q : ℝ} {m : ℕ}

theorem half_le_of_near (near : |q - m| ≤ 1 / 2) {k : ℤ} (other : k ≠ m) : 1 / 2 ≤ |q - k| := by
  have apart : (1 : ℝ) ≤ |(m : ℝ) - k| := by
    have whole : 1 ≤ |(m : ℤ) - k| := Int.one_le_abs (sub_ne_zero.mpr other.symm)
    exact_mod_cast whole
  have path := abs_sub_le (m : ℝ) q k
  rw [abs_sub_comm (m : ℝ) q] at path
  linarith

theorem least_of_near (near : |q - m| ≤ 1 / 2) (k : ℤ) : |q - m| ≤ |q - k| := by
  by_cases same : k = m
  · rw [same, Int.cast_natCast]
  · exact near.trans (half_le_of_near near same)

/-- Two naturals that a real is rounded to, ties to even, are the same. -/
theorem whole_unique {n : ℕ} (near : |q - m| ≤ 1 / 2) (tie : |q - m| = 1 / 2 → Even m)
    (otherNear : |q - n| ≤ 1 / 2) (otherTie : |q - n| = 1 / 2 → Even n) : m = n := by
  by_contra other
  have apart : (m : ℤ) ≠ n := by exact_mod_cast other
  -- Each is half a unit away because of the other, so they are neighbours and both even.
  have even := Nat.even_iff.mp (tie (le_antisymm near (half_le_of_near otherNear apart)))
  have otherEven :=
    Nat.even_iff.mp (otherTie (le_antisymm otherNear (half_le_of_near near apart.symm)))
  have path := abs_sub_le (m : ℝ) q n
  rw [abs_sub_comm (m : ℝ) q] at path
  have neighbours : |(m : ℤ) - n| ≤ 1 := by
    have close : |(m : ℝ) - n| ≤ 1 := by linarith
    exact_mod_cast close
  obtain ⟨low, high⟩ := abs_le.mp neighbours
  omega

variable {e : ℤ}

theorem lt_small (near : |q - m| ≤ 1 / 2) (full : 2 ^ 52 ≤ q) {v : ℝ}
    (small : |v| < 2 ^ (e + 52)) : |q * 2 ^ e - m * 2 ^ e| < |q * 2 ^ e - v| := by
  have unit := two_zpow_pos e
  have border : |q - m| ≤ q - 2 ^ 52 := by
    have whole := least_of_near near (2 ^ 52)
    rwa [Int.cast_pow, Int.cast_ofNat, abs_of_nonneg (show 0 ≤ q - 2 ^ 52 by linarith)] at whole
  have least : (2 : ℝ) ^ (e + 52) = 2 ^ 52 * 2 ^ e := by
    rw [zpow_add₀ (by norm_num), mul_comm]
    norm_cast
  calc |q * 2 ^ e - m * 2 ^ e| = |q - m| * 2 ^ e := by rw [← sub_mul, abs_mul, abs_of_pos unit]
    _ ≤ (q - 2 ^ 52) * 2 ^ e := mul_le_mul_of_nonneg_right border unit.le
    _ = q * 2 ^ e - 2 ^ (e + 52) := by rw [sub_mul, least]
    _ < q * 2 ^ e - v := sub_lt_sub_left (lt_of_abs_lt small) _
    _ ≤ |q * 2 ^ e - v| := le_abs_self _

theorem nearest_of_units {y : Binary64} (finite : y.isFinite = true) (value : y.value = m * 2 ^ e)
    (even : Even m → Even y.significand) (near : |q - m| ≤ 1 / 2) (tie : |q - m| = 1 / 2 → Even m)
    (full : e = -1074 ∨ 2 ^ 52 ≤ q) : Nearest (q * 2 ^ e) y := by
  have unit := two_zpow_pos e
  have scaled : ∀ k : ℝ, |q * 2 ^ e - k * 2 ^ e| = |q - k| * 2 ^ e := by
    intro k
    rw [← sub_mul, abs_mul, abs_of_pos unit]
  refine ⟨finite, ?_, ?_⟩
  · intro z _
    rw [value]
    rcases z.whole_or_small e with ⟨k, whole⟩ | ⟨wide, small⟩
    · rw [whole, scaled, scaled]
      exact mul_le_mul_of_nonneg_right (least_of_near near k) unit.le
    · exact (lt_small near (full.resolve_left wide.ne') small).le
  · intro z _ other equal
    rw [value] at other equal
    apply even
    rcases z.whole_or_small e with ⟨k, whole⟩ | ⟨wide, small⟩
    · rw [whole, scaled, scaled] at equal
      have apart : k ≠ m := by
        rintro rfl
        exact other (by rw [whole, Int.cast_natCast])
      have half := half_le_of_near near apart
      rw [mul_right_cancel₀ unit.ne' equal] at half
      exact tie (le_antisymm near half)
    · exact absurd equal (lt_small near (full.resolve_left wide.ne') small).ne'

end units

structure RoundsTo (units : ℝ) (significand : ℕ) (scale : ℤ) : Prop where
  least : -1074 ≤ scale
  greatest : scale ≤ 970
  below : units < 2 ^ 53
  full : scale = -1074 ∨ 2 ^ 52 ≤ units
  near : |units - significand| ≤ 1 / 2
  tie : |units - significand| = 1 / 2 → Even significand

namespace RoundsTo

variable {q : ℝ} {m : ℕ} {e : ℤ}

theorem fits (rounds : RoundsTo q m e) : Fits m e :=
  fits_of_near rounds.least rounds.greatest rounds.below rounds.full rounds.near

theorem nearest (rounds : RoundsTo q m e) : Nearest (q * 2 ^ e) (ofSignificand false m e) :=
  nearest_of_units (ofSignificand_finite false rounds.fits) (value_ofSignificand rounds.fits)
    (even_ofSignificand false rounds.fits) rounds.near rounds.tie rounds.full

end RoundsTo

end Parabola.Binary64

/-!
How far a rounded result can be off. Small whole numbers of units are values themselves, so they are
not rounded at all; a normal magnitude is changed by at most one part in 2^53; and different values
are at least a unit apart.
-/

namespace Parabola.Binary64

/-! Values -/

theorem isValue_of_fits {m : ℕ} {e : ℤ} (fits : Fits m e) : IsValue (m * 2 ^ e) :=
  ⟨_, ofSignificand_finite false fits, value_ofSignificand fits⟩

theorem isValue_natCast {n : ℕ} {k : ℤ} (small : n < 2 ^ 53) (least : -1074 ≤ k)
    (greatest : k ≤ 970) : IsValue (n * 2 ^ k) := by
  -- Doubling the number and going down a scale ends with all bits taken or at the least scale.
  obtain ⟨steps, rfl⟩ := Int.le.dest least
  induction steps generalizing n with
  | zero => exact isValue_of_fits ⟨by omega, by omega, by omega, .inl (by omega)⟩
  | succ steps ih =>
    by_cases full : 2 ^ 52 ≤ n
    · exact isValue_of_fits ⟨by omega, by omega, by omega, .inr full⟩
    · have doubled := ih (n := 2 * n) (by omega) (by omega) (by omega)
      have same : ((2 * n : ℕ) : ℝ) * 2 ^ (-1074 + steps : ℤ) =
          n * 2 ^ (-1074 + (steps + 1 : ℕ) : ℤ) := by
        rw [Nat.cast_succ, ← add_assoc, zpow_add_one₀ two_ne_zero]
        push_cast
        ring
      rwa [same] at doubled

theorem isValue_intCast {n k : ℤ} (small : n.natAbs < 2 ^ 53) (least : -1074 ≤ k)
    (greatest : k ≤ 970) : IsValue (n * 2 ^ k) := by
  have magnitude := isValue_natCast small least greatest
  obtain ⟨m, rfl | rfl⟩ := Int.eq_nat_or_neg n
  · simpa using magnitude
  · simpa using isValue_neg magnitude

theorem isValue_int {n : ℤ} (small : n.natAbs < 2 ^ 53) : IsValue n := by
  have held := isValue_intCast (k := 0) small (by decide) (by decide)
  rwa [zpow_zero, mul_one] at held

theorem isValue_two_zpow {k : ℤ} (least : -1074 ≤ k) (greatest : k ≤ 970) : IsValue (2 ^ k) := by
  have held := isValue_natCast (n := 1) (by decide) least greatest
  rwa [Nat.cast_one, one_mul] at held

/-- Rounding does not carry a magnitude across a power of two. -/
theorem Nearest.two_zpow_le_abs {x : ℝ} {y : Binary64} {k : ℤ} (nearest : Nearest x y)
    (least : -1074 ≤ k) (greatest : k ≤ 970) (low : 2 ^ k ≤ |x|) : 2 ^ k ≤ |y.value| := by
  have power := isValue_two_zpow least greatest
  rcases le_abs.mp low with above | below
  · exact le_abs.mpr (.inl (nearest.le_value power above))
  · exact le_abs.mpr (.inr (le_neg.mpr (nearest.value_le (isValue_neg power) (le_neg.mp below))))

theorem Nearest.abs_le_two_zpow {x : ℝ} {y : Binary64} {k : ℤ} (nearest : Nearest x y)
    (least : -1074 ≤ k) (greatest : k ≤ 970) (high : |x| ≤ 2 ^ k) : |y.value| ≤ 2 ^ k := by
  have power := isValue_two_zpow least greatest
  obtain ⟨above, below⟩ := abs_le.mp high
  exact abs_le.mpr ⟨nearest.le_value (isValue_neg power) above, nearest.value_le power below⟩

theorem Nearest.sign_eq {x : ℝ} {y : Binary64} {k : ℤ} (nearest : Nearest x y)
    (least : -1074 ≤ k) (greatest : k ≤ 970) (low : x ≠ 0 → 2 ^ k ≤ |x|) :
    SignType.sign y.value = SignType.sign x := by
  have power := isValue_two_zpow least greatest
  have unit := two_zpow_pos k
  rcases lt_trichotomy x 0 with negative | rfl | positive
  · have far := low negative.ne
    rw [abs_of_neg negative] at far
    have below := nearest.value_le (isValue_neg power) (le_neg.mp far)
    rw [sign_neg negative, sign_neg (below.trans_lt (neg_neg_of_pos unit))]
  · rw [nearest.exact isValue_zero]
  · have far := low positive.ne'
    rw [abs_of_pos positive] at far
    rw [sign_pos positive, sign_pos (unit.trans_le (nearest.le_value power far))]

theorem eq_of_close {x y : Binary64} {e : ℤ} (left : 2 ^ (e + 52) ≤ |x.value|)
    (right : 2 ^ (e + 52) ≤ |y.value|) (close : |x.value - y.value| < 2 ^ e) :
    x.value = y.value := by
  obtain ⟨j, one⟩ := whole_of_large left
  obtain ⟨k, other⟩ := whole_of_large right
  have unit := two_zpow_pos e
  rw [one, other, ← sub_mul, abs_mul, abs_of_pos unit, mul_lt_iff_lt_one_left unit] at close
  have same : |j - k| < 1 := by exact_mod_cast close
  rw [one, other, sub_eq_zero.mp (Int.abs_lt_one_iff.mp same)]

/-! Errors -/

theorem abs_lt_greatest {x : ℝ} {n : ℤ} (small : |x| ≤ 2 ^ n) (below : n < 1023) :
    |x| < 2 ^ (1023 : ℤ) :=
  small.trans_lt (zpow_lt_zpow_right₀ one_lt_two below)

theorem near_value {x : ℝ} (low : 2 ^ (-1022 : ℤ) ≤ x) (high : x < 2 ^ (1023 : ℤ)) :
    ∃ v, IsValue v ∧ |x - v| ≤ 2 ^ (-53 : ℤ) * x := by
  have positive : 0 < x := (two_zpow_pos _).trans_le low
  obtain ⟨least, greatest⟩ : (2 : ℝ) ^ Int.log 2 x ≤ x ∧ x < 2 ^ (Int.log 2 x + 1) :=
    ⟨Int.zpow_log_le_self one_lt_two positive, Int.lt_zpow_succ_log_self one_lt_two x⟩
  generalize Int.log 2 x = exponent at least greatest
  have normal : -1022 < exponent + 1 :=
    (zpow_lt_zpow_iff_right₀ one_lt_two).mp (low.trans_lt greatest)
  have bounded : exponent < 1023 :=
    (zpow_lt_zpow_iff_right₀ one_lt_two).mp (least.trans_lt high)
  obtain ⟨e, rfl⟩ : ∃ e, exponent = 52 + e := ⟨exponent - 52, by omega⟩
  have unit := two_zpow_pos e
  have full : 2 ^ 52 ≤ x / 2 ^ e := by
    rw [le_div_iff₀ unit]
    rw [zpow_add₀ two_ne_zero] at least
    exact_mod_cast least
  have below : x / 2 ^ e < 2 ^ 53 := by
    rw [div_lt_iff₀ unit]
    rw [add_right_comm, zpow_add₀ two_ne_zero] at greatest
    exact_mod_cast greatest
  have whole := Nat.floor_le (show 0 ≤ x / 2 ^ e + 1 / 2 by linarith)
  have part := Nat.lt_floor_add_one (x / 2 ^ e + 1 / 2)
  generalize ⌊x / 2 ^ e + 1 / 2⌋₊ = m at whole part
  have near : |x / 2 ^ e - m| ≤ 1 / 2 := abs_le.mpr ⟨by linarith, by linarith⟩
  have fits : Fits m e := fits_of_near (by omega) (by omega) below (.inr full) near
  refine ⟨m * 2 ^ e, isValue_of_fits fits, ?_⟩
  calc |x - m * 2 ^ e| = |x / 2 ^ e - m| * 2 ^ e := by
        rw [← abs_of_pos unit, ← abs_mul, sub_mul, abs_of_pos unit, div_mul_cancel₀ _ unit.ne']
    _ ≤ 1 / 2 * 2 ^ e := mul_le_mul_of_nonneg_right near unit.le
    _ = 2 ^ (-53 : ℤ) * 2 ^ (52 + e) := by
        rw [zpow_add₀ two_ne_zero, ← mul_assoc]
        norm_num
    _ ≤ 2 ^ (-53 : ℤ) * x := mul_le_mul_of_nonneg_left least (two_zpow_pos _).le

theorem near_value_abs {x : ℝ} (low : 2 ^ (-1022 : ℤ) ≤ |x|) (high : |x| < 2 ^ (1023 : ℤ)) :
    ∃ v, IsValue v ∧ |x - v| ≤ 2 ^ (-53 : ℤ) * |x| := by
  obtain ⟨v, held, near⟩ := near_value low high
  rcases abs_choice x with natural | negative
  · rw [natural] at near ⊢
    exact ⟨v, held, near⟩
  · rw [negative] at near ⊢
    refine ⟨-v, isValue_neg held, ?_⟩
    rwa [sub_neg_eq_add, ← abs_neg, neg_add']

/-- A magnitude that is not subnormal is changed by at most one part in 2^53. -/
theorem Nearest.relative {x : ℝ} {y : Binary64} (nearest : Nearest x y)
    (low : x ≠ 0 → 2 ^ (-1022 : ℤ) ≤ |x|) (high : |x| < 2 ^ (1023 : ℤ)) :
    |y.value - x| ≤ 2 ^ (-53 : ℤ) * |x| := by
  by_cases vanishes : x = 0
  · have same := nearest.exact (vanishes ▸ isValue_zero)
    rw [same, sub_self, abs_zero]
    exact mul_nonneg (two_zpow_pos _).le (abs_nonneg x)
  · obtain ⟨v, held, near⟩ := near_value_abs (low vanishes) high
    rw [abs_sub_comm]
    exact (nearest.least_value held).trans near

theorem Nearest.relative_of_one_le {x : ℝ} {y : Binary64} (nearest : Nearest x y)
    (large : 1 ≤ |x|) (high : |x| < 2 ^ (1023 : ℤ)) : |y.value - x| ≤ 2 ^ (-53 : ℤ) * |x| :=
  nearest.relative (fun _ => (zpow_le_one_of_nonpos₀ one_le_two (by decide)).trans large) high

end Parabola.Binary64
