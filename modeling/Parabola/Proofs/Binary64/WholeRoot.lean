import Parabola.Proofs.Binary64.Operations

/-!
Rounded square roots of rounded numbers beside whole numbers. The root of a rounded square is the
whole number itself, so by monotone rounding no other root comes out on the wrong side of a whole
number. It may come out as the whole number, though, where its square is close enough.
-/

namespace Parabola.Binary64

/-- Where squares are close, so are the numbers; `p` is the power of two that `s` reaches. -/
theorem close_of_squares {y s p u : ℝ} (natural : 0 ≤ y) (power : 0 < p) (low : p ≤ s)
    (high : s + 1 ≤ 2 * p) (unit : 0 < u) (fine : u * p ≤ 1 / 2)
    (near : |y ^ 2 - s ^ 2| ≤ u * s ^ 2) : |y - s| < u * p := by
  obtain ⟨below, above⟩ := abs_le.mp near
  have positive : 0 < s := power.trans_le low
  have border : s * s < 2 * p * s := mul_lt_mul_of_pos_right (by linarith) positive
  rw [abs_lt]
  constructor
  · by_contra far
    have shorter : y ^ 2 ≤ (s - u * p) ^ 2 := pow_le_pow_left₀ natural (by linarith) 2
    have room : s * 1 ≤ s * (2 * p - s) := mul_le_mul_of_nonneg_left (by linarith) positive.le
    have part : u * p * p ≤ 1 / 2 * p := mul_le_mul_of_nonneg_right fine power.le
    have gap : s ^ 2 + u * p ^ 2 < 2 * s * p := by linarith
    have scaled := mul_lt_mul_of_pos_left gap unit
    linarith
  · by_contra far
    have longer : (s + u * p) ^ 2 ≤ y ^ 2 :=
      pow_le_pow_left₀ (add_nonneg positive.le (mul_pos unit power).le) (by linarith) 2
    have scaled := mul_lt_mul_of_pos_left border unit
    have square := sq_nonneg (u * p)
    linarith

/-- A whole number of at most 53 bits reaches a power of two, and not the next one. -/
structure Reaches (s : ℕ) (e : ℤ) : Prop where
  natural : 0 ≤ e
  most : e ≤ 52
  low : (2 : ℝ) ^ e ≤ s
  high : (s : ℝ) + 1 ≤ 2 * 2 ^ e

section square

variable {s : ℕ} {e : ℤ} {d : ℝ} {square root : Binary64}

theorem reaches_log2 (positive : 0 < s) (small : s < 2 ^ 53) : Reaches s s.log2 where
  natural := Int.natCast_nonneg _
  most := by
    have bits : s.log2 < 53 := (Nat.log2_lt positive.ne').mpr small
    omega
  low := (log2_bounds positive).1
  high := by
    have next : s + 1 ≤ 2 ^ s.log2 * 2 := Nat.lt_log2_self
    have cast : ((s + 1 : ℕ) : ℝ) ≤ (2 ^ s.log2 * 2 : ℕ) := Nat.cast_le.mpr next
    push_cast at cast
    rw [zpow_natCast]
    linarith

theorem one_le_square (reaches : Reaches s e) : (1 : ℝ) ≤ (s : ℝ) ^ 2 :=
  one_le_pow₀ ((one_le_zpow₀ one_le_two reaches.natural).trans reaches.low)

theorem square_small (reaches : Reaches s e) : |(s : ℝ) ^ 2| ≤ 2 ^ (106 : ℤ) := by
  have border : (2 : ℝ) * 2 ^ e ≤ 2 ^ (53 : ℤ) := by
    rw [← zpow_one_add₀ two_ne_zero]
    exact zpow_le_zpow_right₀ one_le_two (by linarith [reaches.most])
  have root : (s : ℝ) ≤ 2 ^ (53 : ℤ) := by linarith [reaches.high]
  rw [abs_of_nonneg (sq_nonneg _)]
  calc (s : ℝ) ^ 2 ≤ (2 ^ (53 : ℤ)) ^ 2 := pow_le_pow_left₀ (Nat.cast_nonneg _) root 2
    _ = 2 ^ (106 : ℤ) := by norm_num

theorem rounded_square_near (reaches : Reaches s e) (squared : Nearest ((s : ℝ) ^ 2) square) :
    |square.value - (s : ℝ) ^ 2| ≤ 2 ^ (-53 : ℤ) * (s : ℝ) ^ 2 := by
  have large := (one_le_square reaches).trans (le_abs_self _)
  have error := squared.relative_of_one_le large
    (abs_lt_greatest (square_small reaches) (by decide))
  rwa [abs_of_nonneg (sq_nonneg (s : ℝ))] at error

theorem reached_by_root (reaches : Reaches s e) (squared : Nearest ((s : ℝ) ^ 2) square) :
    2 ^ e ≤ √square.value := by
  have bounds := reaches.most
  have natural := reaches.natural
  refine Real.le_sqrt_of_sq_le ?_
  rw [← zpow_natCast, ← zpow_mul]
  refine squared.le_value (isValue_two_zpow (by omega) (by omega)) ?_
  rw [zpow_mul, zpow_natCast _ 2]
  exact pow_le_pow_left₀ (two_zpow_pos e).le reaches.low 2

theorem root_close (reaches : Reaches s e) (squared : Nearest ((s : ℝ) ^ 2) square) :
    |√square.value - s| < 2 ^ (-53 : ℤ) * 2 ^ e := by
  have power := two_zpow_pos e
  have most := reaches.most
  have positive := Real.sqrt_pos.mp (power.trans_le (reached_by_root reaches squared))
  refine close_of_squares (Real.sqrt_nonneg _) power reaches.low reaches.high (two_zpow_pos _) ?_ ?_
  · rw [← zpow_add₀ two_ne_zero]
    calc (2 : ℝ) ^ (-53 + e) ≤ 2 ^ (-1 : ℤ) := zpow_le_zpow_right₀ one_le_two (by omega)
      _ = 1 / 2 := by norm_num
  · rw [Real.sq_sqrt positive.le]
    exact rounded_square_near reaches squared

/-- The rounded root of a rounded square is the whole number itself. -/
theorem root_of_square (positive : 0 < s) (small : s < 2 ^ 53)
    (squared : Nearest ((s : ℝ) ^ 2) square) (rooted : Nearest √square.value root) :
    root.value = s := by
  have reaches := reaches_log2 positive small
  generalize (s.log2 : ℤ) = e at reaches
  have natural := reaches.natural
  have most := reaches.most
  have close := root_close reaches squared
  obtain ⟨z, finite, whole⟩ : IsValue s := isValue_int (n := s) (by omega)
  have rounding := rooted.least_value ⟨z, finite, whole⟩
  rw [abs_sub_comm] at rounding
  -- Both are values from the power of two up, and closer than the values there are to each other.
  have same : root.value = z.value := by
    refine eq_of_close (e := e - 52) ?_ ?_ ?_
    · rw [sub_add_cancel]
      have held : IsValue (2 ^ e) := isValue_two_zpow (by omega) (by omega)
      exact (rooted.le_value held (reached_by_root reaches squared)).trans (le_abs_self _)
    · rw [sub_add_cancel, whole]
      exact reaches.low.trans (le_abs_self _)
    · calc |root.value - z.value| ≤ |root.value - √square.value| + |√square.value - z.value| :=
            abs_sub_le _ _ _
        _ < 2 ^ (-53 : ℤ) * 2 ^ e + 2 ^ (-53 : ℤ) * 2 ^ e := by
            rw [whole]
            exact add_lt_add (rounding.trans_lt close) close
        _ = 2 ^ (e - 52) := by
            rw [← two_mul, ← zpow_add₀ two_ne_zero, ← zpow_one_add₀ two_ne_zero]
            congr 1
            omega
  exact same.trans whole

theorem nearest_square (positive : 0 < s) (small : s < 2 ^ 53) :
    Nearest ((s : ℝ) ^ 2) (ofInt ((s : ℤ) ^ 2)) := by
  have bound := square_small (reaches_log2 positive small)
  have nearest := ofInt_nearest (n := (s : ℤ) ^ 2)
    (by push_cast; exact abs_lt_greatest bound (by decide))
  rwa [Int.cast_pow, Int.cast_natCast] at nearest

theorem root_le_whole (positive : 0 < s) (small : s < 2 ^ 53) (natural : 0 ≤ d)
    (squared : Nearest d square) (rooted : Nearest √square.value root) (less : d < (s : ℝ) ^ 2) :
    root.value ≤ s := by
  have whole := nearest_square positive small
  have order := squared.monotone whole less
  have least := squared.le_value isValue_zero natural
  -- A number that is rounded up to the square has the whole number for its root.
  rcases order.eq_or_lt with same | below
  · exact (root_of_square positive small whole (same ▸ rooted)).le
  · have exact := sqrt_nearest whole.finite (least.trans order)
    rw [← root_of_square positive small whole exact]
    exact rooted.monotone exact (Real.sqrt_lt_sqrt least below)

theorem whole_le_root (positive : 0 < s) (small : s < 2 ^ 53) (squared : Nearest d square)
    (rooted : Nearest √square.value root) (less : (s : ℝ) ^ 2 < d) : s ≤ root.value := by
  have whole := nearest_square positive small
  have order := whole.monotone squared less
  have least := whole.le_value isValue_zero (sq_nonneg _)
  rcases order.eq_or_lt with same | below
  · exact (root_of_square positive small whole (same ▸ rooted)).ge
  · have exact := sqrt_nearest whole.finite least
    rw [← root_of_square positive small whole exact]
    exact exact.monotone rooted (Real.sqrt_lt_sqrt least below)

theorem square_near {y : ℝ} (positive : 0 < d) (natural : 0 ≤ y)
    (rounded : |y - d| ≤ 2 ^ (-53 : ℤ) * d) (rooted : |(s : ℝ) - √y| ≤ 2 ^ (-53 : ℤ) * √y) :
    |d - (s : ℝ) ^ 2| < 2 ^ (-51 : ℤ) * (s : ℝ) ^ 2 := by
  obtain ⟨low, high⟩ := abs_le.mp rounded
  obtain ⟨short, long⟩ := abs_le.mp rooted
  have root := Real.sqrt_nonneg y
  have above : (s : ℝ) ^ 2 ≤ ((1 + 2 ^ (-53 : ℤ)) * √y) ^ 2 :=
    pow_le_pow_left₀ (Nat.cast_nonneg s) (by linarith) 2
  have below : ((1 - 2 ^ (-53 : ℤ)) * √y) ^ 2 ≤ (s : ℝ) ^ 2 :=
    pow_le_pow_left₀ (mul_nonneg (by norm_num) root) (by linarith) 2
  rw [mul_pow, Real.sq_sqrt natural] at above below
  norm_num at low high above below ⊢
  exact abs_lt.mpr ⟨by linarith, by linarith⟩

theorem isValue_even {m : ℤ} (small : m.natAbs < 2 ^ 53) : IsValue (2 * m : ℤ) := by
  have held := isValue_intCast (k := 1) small (by decide) (by decide)
  rwa [zpow_one, mul_comm, ← Int.cast_ofNat, ← Int.cast_mul] at held

theorem square_far {n : ℤ} (small : s < 2 ^ 27) (squared : Nearest n square) :
    ((s : ℤ) ^ 2 + 4 ≤ n → (s : ℝ) ^ 2 + 2 ≤ square.value) ∧
      (n ≤ (s : ℤ) ^ 2 - 4 → square.value ≤ (s : ℝ) ^ 2 - 2) := by
  have bound : (s : ℤ) ^ 2 ≤ (2 ^ 27 - 1) ^ 2 :=
    pow_le_pow_left₀ (Int.natCast_nonneg s) (by omega) 2
  have natural := sq_nonneg (s : ℤ)
  constructor
  · intro above
    have held := isValue_even (m := ((s : ℤ) ^ 2 + 3) / 2) (by omega)
    have reached := squared.le_value held (Int.cast_le.mpr (by omega))
    refine le_trans ?_ reached
    exact_mod_cast (by omega : (s : ℤ) ^ 2 + 2 ≤ 2 * (((s : ℤ) ^ 2 + 3) / 2))
  · intro below
    have held := isValue_even (m := ((s : ℤ) ^ 2 - 2) / 2) (by omega)
    have reached := squared.value_le held (Int.cast_le.mpr (by omega))
    refine le_trans reached ?_
    exact_mod_cast (by omega : 2 * (((s : ℤ) ^ 2 - 2) / 2) ≤ (s : ℤ) ^ 2 - 2)

theorem isValue_beside_whole (small : s < 2 ^ 27) {k : ℤ} (near : k.natAbs ≤ 1) :
    IsValue (s + k * 2 ^ (-26 : ℤ)) := by
  have held := isValue_intCast (n := s * 2 ^ 26 + k) (k := -26) (by omega) (by decide) (by decide)
  have shape : ((s * 2 ^ 26 + k : ℤ) : ℝ) * 2 ^ (-26 : ℤ) = s + k * 2 ^ (-26 : ℤ) := by
    push_cast
    norm_num
    ring
  rwa [shape] at held

/-- Below 2^27 the numbers beside a whole one are so close to it that no root comes out whole
unless the square does. -/
theorem root_moves {n : ℤ} (positive : 0 < s) (small : s < 2 ^ 27) (far : 4 ≤ |n - (s : ℤ) ^ 2|)
    (squared : Nearest n square) (rooted : Nearest √square.value root) : root.value ≠ s := by
  intro same
  have one : (1 : ℝ) ≤ s := by exact_mod_cast positive
  have room : (s : ℝ) ≤ 134217727 := by exact_mod_cast Nat.le_of_lt_succ small
  -- The root is within half a step of 2^-26, which its square cannot be as far off as it is.
  rcases le_abs.mp far with above | below
  · have reached := (square_far small squared).1 (by linarith)
    have mid := rooted.le_mid (isValue_beside_whole small (k := 1) (by decide)) (by rw [same]; norm_num)
    have border : square.value ≤ (s + 2 ^ (-27 : ℤ)) ^ 2 := by
      refine (Real.sqrt_le_left (by positivity)).mp ?_
      rw [same] at mid
      norm_num at mid ⊢
      linarith
    norm_num at border
    linarith
  · have reached := (square_far small squared).2 (by linarith)
    have mid := rooted.mid_le (isValue_beside_whole small (k := -1) (by decide)) (by rw [same]; norm_num)
    have border : (s - 2 ^ (-27 : ℤ)) ^ 2 ≤ square.value := by
      refine (Real.le_sqrt' (by norm_num; linarith)).mp ?_
      rw [same] at mid
      norm_num at mid ⊢
      linarith
    norm_num at border
    linarith

end square

end Parabola.Binary64
