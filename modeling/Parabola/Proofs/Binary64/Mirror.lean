import Parabola.Proofs.Binary64.Operations

/-!
The sign of a zero result, of which its value tells nothing. A sum that cancels has the plus sign,
and a quotient takes its sign from both operands, also where it is a zero.
-/

namespace Parabola.Binary64

theorem ofInt_negative (n : ℤ) : (ofInt n).negative = decide (n < 0) := ofRatio_negative _ _ _

theorem ofInt_zero : ofInt 0 = zero false := rfl

variable {x y : Binary64}

theorem value_nonpos (negative : x.negative = true) : x.value ≤ 0 := by
  rw [value, negative, sign_true, neg_one_mul, neg_nonpos]
  exact mul_nonneg (Nat.cast_nonneg _) (two_zpow_pos _).le

theorem value_of_isZero (vanishes : x.isZero = true) : x.value = 0 := by
  have code : x.code.val = 0 := of_decide_eq_true vanishes
  have none : x.significand = 0 := by rw [significand, code]; rfl
  rw [value, none, Nat.cast_zero, zero_mul, mul_zero]

theorem add_opposite (left : x.isFinite = true) (right : y.isFinite = true)
    (opposite : x.value + y.value = 0) : x.add y = zero (x.negative && y.negative) := by
  have vanishes : x.signedAt (min x.scale y.scale) + y.signedAt (min x.scale y.scale) = 0 := by
    rw [← cast_sum, mul_eq_zero_iff_right (two_zpow_pos _).ne'] at opposite
    exact Int.cast_eq_zero.mp opposite
  rw [add_finite left right]
  exact if_pos vanishes

theorem add_cancelled (left : x.isFinite = true) (right : y.isFinite = true)
    (opposite : x.value + y.value = 0) (some : y.value ≠ 0) : x.add y = zero false := by
  rw [add_opposite left right opposite]
  cases lower : x.negative with
  | false => rfl
  | true =>
    cases upper : y.negative with
    | false => rfl
    | true => exact absurd (by linarith [value_nonpos lower, value_nonpos upper]) some

theorem zero_div_nonzero (negative : Bool) (finite : y.isFinite = true) (some : y.value ≠ 0) :
    (zero negative).div y = zero (negative != y.negative) := by
  have none : (zero negative).significand = 0 := rfl
  rw [div_finite (zero_finite negative) finite some]
  simp only [divFinite, none, Nat.zero_mul]
  rfl

end Parabola.Binary64

/-!
Operations under a change of signs. A magnitude is rounded without its sign, so opposite operands
have opposite results, however much is rounded away. Only a zero may come with either sign.
-/

namespace Parabola.Binary64

/-- The same number: alike in every bit, or both zero. -/
def Same (x y : Binary64) : Prop := x = y ∨ x.isZero = true ∧ y.isZero = true

variable {x y x' y' : Binary64}

@[simp] theorem neg_negative (x : Binary64) : x.neg.negative = !x.negative := rfl

@[simp] theorem neg_significand (x : Binary64) : x.neg.significand = x.significand := rfl

@[simp] theorem neg_scale (x : Binary64) : x.neg.scale = x.scale := rfl

theorem neg_twice (x : Binary64) : x.neg.neg = x := by
  cases x
  simp [neg]

theorem isZero_parts (vanishes : x.isZero = true) : x.significand = 0 ∧ x.scale = -1074 := by
  have code : x.code.val = 0 := of_decide_eq_true vanishes
  simp [significand, scale, code, fractionCount]

namespace Same

theorem neg (same : Same x y) : Same x.neg y.neg := by
  rcases same with rfl | zeros
  · exact .inl rfl
  · exact .inr zeros

theorem parts (same : Same x y) : x.significand = y.significand ∧ x.scale = y.scale := by
  rcases same with rfl | ⟨left, right⟩
  · exact ⟨rfl, rfl⟩
  · simp [isZero_parts left, isZero_parts right]

theorem negative (same : Same x y) (some : y.significand ≠ 0) : x.negative = y.negative := by
  rcases same with rfl | ⟨-, right⟩
  · rfl
  · exact absurd (isZero_parts right).1 some

theorem signedAt (same : Same x y) (scale : ℤ) : x.signedAt scale = y.signedAt scale := by
  by_cases none : y.significand = 0
  · simp [Binary64.signedAt, same.parts, none]
  · simp [Binary64.signedAt, same.parts, same.negative none]

theorem finite (same : Same x y) : x.isFinite = y.isFinite := by
  rcases same with rfl | ⟨left, right⟩
  · rfl
  · have first : x.code.val = 0 := of_decide_eq_true left
    have second : y.code.val = 0 := of_decide_eq_true right
    simp [isFinite, first, second]

end Same

/-! Rounding -/

theorem decide_neg {n : ℤ} (some : n ≠ 0) : decide (-n < 0) = !decide (n < 0) := by
  rw [← decide_not]
  exact decide_eq_decide.mpr (by omega)

theorem ofInt_neg {n : ℤ} (some : n ≠ 0) : ofInt (-n) = (ofInt n).neg := by
  rw [ofInt, ofInt, decide_neg some, Int.natAbs_neg, ofRatio_not]

theorem ofInt_mirrored (n : ℤ) : Same (ofInt (-n)) (ofInt n).neg := by
  by_cases none : n = 0
  · subst none
    exact .inr ⟨rfl, rfl⟩
  · exact .inl (ofInt_neg none)

/-! Sums -/

theorem signedAt_neg (x : Binary64) (scale : ℤ) : x.neg.signedAt scale = -x.signedAt scale := by
  cases negative : x.negative <;> simp [signedAt, negative]

theorem addFinite_mirrored (left : Same x' x.neg) (right : Same y' y.neg) :
    Same (x'.addFinite y') (x.addFinite y).neg := by
  have scale : min x'.scale y'.scale = min x.scale y.scale := by
    simp [left.parts, right.parts]
  have sum : ∀ s, x'.signedAt s + y'.signedAt s = -(x.signedAt s + y.signedAt s) := by
    intro s
    rw [left.signedAt, right.signedAt, signedAt_neg, signedAt_neg, Int.neg_add]
  simp only [addFinite, scale, sum]
  generalize x.signedAt (min x.scale y.scale) + y.signedAt (min x.scale y.scale) = exact
  by_cases none : exact = 0
  · -- An exact zero has no opposite of its own: both sums can have the plus sign.
    subst none
    exact .inr ⟨rfl, rfl⟩
  · have some : -exact ≠ 0 := by omega
    rw [if_neg none, if_neg some, decide_neg none, Int.natAbs_neg]
    exact .inl (ofRatio_not _ _ _)

theorem add_mirrored (xFinite : x.isFinite = true) (yFinite : y.isFinite = true)
    (left : Same x' x.neg) (right : Same y' y.neg) : Same (x'.add y') (x.add y).neg := by
  rw [add_finite xFinite yFinite, add_finite (left.finite.trans xFinite) (right.finite.trans yFinite)]
  exact addFinite_mirrored left right

/-! Quotients -/

theorem divFinite_mirrored (left : Same x' x.neg) : Same (x'.divFinite y) (x.divFinite y).neg := by
  obtain ⟨significand, scale⟩ := left.parts
  simp only [divFinite, significand, scale, neg_significand, neg_scale]
  by_cases none : x.significand = 0
  · rw [none, Nat.zero_mul]
    exact .inr ⟨rfl, rfl⟩
  · have sign : (x'.negative != y.negative) = !(x.negative != y.negative) := by
      rw [left.negative none, neg_negative]
      cases x.negative <;> simp
    rw [sign, ofRatio_not]
    exact .inl rfl

theorem divFinite_neg (x y : Binary64) : x.divFinite y.neg = (x.divFinite y).neg := by
  have sign : (x.negative != !y.negative) = !(x.negative != y.negative) := by
    cases x.negative <;> simp
  simp only [divFinite, neg_negative, neg_significand, neg_scale, sign, ofRatio_not]

section Quotient

variable (xFinite : x.isFinite = true) (yFinite : y.isFinite = true) (some : y.value ≠ 0)
include xFinite yFinite some

theorem div_mirrored (left : Same x' x.neg) : Same (x'.div y) (x.div y).neg := by
  rw [div_finite (left.finite.trans xFinite) yFinite some, div_finite xFinite yFinite some]
  exact divFinite_mirrored left

theorem div_neg_mirrored (left : Same x' x.neg) : Same (x'.div y.neg) (x.div y) := by
  have turned : y.neg.value ≠ 0 := by
    rwa [value_neg, neg_ne_zero]
  have mirrored := (divFinite_mirrored (y := y) left).neg
  rw [div_finite (y := y.neg) (left.finite.trans xFinite) yFinite turned,
    div_finite xFinite yFinite some, divFinite_neg]
  rwa [neg_twice] at mirrored

end Quotient

end Parabola.Binary64
