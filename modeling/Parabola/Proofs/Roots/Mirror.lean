import Parabola.Proofs.Binary64.Mirror
import Parabola.Proofs.Roots.Sign

/-!
Mirror images of a trinomial: with all signs changed it has the same roots, and with the sign of `b`
changed the opposite ones. Each change leaves the discriminant and its rounded square root alone and
exchanges the two branches of the formula.
-/

namespace Parabola

open Binary64

namespace Signed32

/-- The least number has no opposite. -/
def Negatable (n : Signed32) : Prop := n.val ≠ -2147483648

instance (n : Signed32) : Decidable n.Negatable := inferInstanceAs (Decidable (_ ≠ _))

def opposite (n : Signed32) (negatable : n.Negatable) : Signed32 where
  val := -n.val
  least_le := by
    have greatest := n.le_greatest
    omega
  le_greatest := by
    have least := n.least_le
    unfold Negatable at negatable
    omega

end Signed32

namespace Roots

def swap : Roots → Roots
  | none => none
  | one x => one x
  | two first second => two second first

def map (change : Binary64 → Binary64) : Roots → Roots
  | none => none
  | one x => one (change x)
  | two first second => two (change first) (change second)

/-- As many roots, and the same numbers in the same order. -/
inductive Same : Roots → Roots → Prop where
  | none : Same none none
  | one {x y : Binary64} (root : x.Same y) : Same (one x) (one y)
  | two {x₁ x₂ y₁ y₂ : Binary64} (first : x₁.Same y₁) (second : x₂.Same y₂) :
    Same (two x₁ x₂) (two y₁ y₂)

theorem Same.count {roots other : Roots} (same : Same roots other) : roots.count = other.count := by
  cases same <;> rfl

theorem count_swap (roots : Roots) : roots.swap.count = roots.count := by
  cases roots <;> rfl

theorem count_map (change : Binary64 → Binary64) (roots : Roots) :
    (roots.map change).count = roots.count := by
  cases roots <;> rfl

theorem map_id (roots : Roots) : roots.map id = roots := by
  cases roots <;> rfl

end Roots

namespace Trinomial

structure Negatable (t : Trinomial) : Prop where
  a : t.a.Negatable
  b : t.b.Negatable
  c : t.c.Negatable

def opposite (t : Trinomial) (negatable : t.Negatable) : Trinomial :=
  ⟨t.a.opposite negatable.a, t.b.opposite negatable.b, t.c.opposite negatable.c⟩

/-- The graph turned over at the vertical axis. -/
def reflected (t : Trinomial) (negatable : t.b.Negatable) : Trinomial :=
  { t with b := t.b.opposite negatable }

/-- Another trinomial of the same discriminant, with the opposite linear coefficient. -/
structure Mirrors (u t : Trinomial) : Prop where
  b : u.b.val = -t.b.val
  discriminant : u.discriminant = t.discriminant

variable {t u : Trinomial} {r : Binary64}

theorem opposite_mirrors (negatable : t.Negatable) : Mirrors (t.opposite negatable) t where
  b := rfl
  discriminant := by simp [Trinomial.discriminant, opposite, Signed32.opposite]

theorem reflected_mirrors (negatable : t.b.Negatable) : Mirrors (t.reflected negatable) t where
  b := rfl
  discriminant := by simp [Trinomial.discriminant, reflected, Signed32.opposite]

theorem opposite_divisor (square : t.a.val ≠ 0) (negatable : t.Negatable) :
    (t.opposite negatable).divisor = t.divisor.neg := by
  have opposite : 2 * (t.opposite negatable).a.val = -(2 * t.a.val) := Int.mul_neg _ _
  rw [divisor, divisor, opposite]
  exact ofInt_neg (by omega)

/-! Numerators and branches -/

namespace Mirrors

theorem root (mirrors : Mirrors u t) : u.rootOfDiscriminant = t.rootOfDiscriminant := by
  simp only [rootOfDiscriminant, mirrors.discriminant]

theorem minusB (mirrors : Mirrors u t) : u.minusB.Same t.minusB.neg := by
  simp only [Trinomial.minusB, mirrors.b]
  exact ofInt_mirrored _

theorem numerator (mirrors : Mirrors u t) (finite : r.isFinite = true) :
    (u.minusB.add r).Same (t.minusB.add r.neg).neg := by
  have turned : r.neg.isFinite = true := finite
  exact add_mirrored t.minusB_exact.1 turned mirrors.minusB (.inl r.neg_twice.symm)

theorem solve (mirrors : Mirrors u t) {change : Binary64 → Binary64} {roots : Roots}
    (square : t.a.val ≠ 0) (turned : u.a.val ≠ 0)
    (quotient : ∀ n m : Binary64, n.isFinite = true → m.Same n.neg →
      (m.div u.divisor).Same (change (n.div t.divisor)))
    (solved : t.solve = .ok roots) :
    ∃ other, u.solve = .ok other ∧ other.Same (roots.swap.map change) := by
  have branches : ∀ r, Summand r → (u.branch r).Same (change (t.branch r.neg)) :=
    fun r summand => quotient _ _ (summed summand.neg).finite (mirrors.numerator summand.finite)
  rcases lt_trichotomy t.discriminant 0 with negative | double | positive
  · rw [solve_none square negative] at solved
    cases solved
    exact ⟨_, solve_none turned (mirrors.discriminant ▸ negative), .none⟩
  · rw [solve_one square double] at solved
    cases solved
    exact ⟨_, solve_one turned (mirrors.discriminant.trans double),
      .one (quotient _ _ t.minusB_exact.1 mirrors.minusB)⟩
  · rw [solve_two square positive] at solved
    cases solved
    have summand := root_summand positive
    have second := branches _ summand.neg
    rw [neg_twice] at second
    refine ⟨_, solve_two turned (mirrors.discriminant ▸ positive), ?_⟩
    rw [mirrors.root]
    exact .two (branches _ summand) second

end Mirrors

theorem solve_opposite (square : t.a.val ≠ 0) (negatable : t.Negatable) {roots : Roots}
    (solved : t.solve = .ok roots) :
    ∃ opposite, (t.opposite negatable).solve = .ok opposite ∧ opposite.Same roots.swap := by
  have turned : (t.opposite negatable).a.val ≠ 0 := Int.neg_ne_zero.mpr square
  obtain ⟨plain, value⟩ := t.divisor_exact
  have quotient : ∀ n m : Binary64, n.isFinite = true → m.Same n.neg →
      (m.div (t.opposite negatable).divisor).Same (id (n.div t.divisor)) := by
    intro n m finite left
    rw [opposite_divisor square negatable]
    exact div_neg_mirrored finite plain (value ▸ divisor_ne_zero square) left
  have mirrored := (opposite_mirrors negatable).solve square turned quotient solved
  rwa [Roots.map_id] at mirrored

theorem solve_reflected (square : t.a.val ≠ 0) (negatable : t.b.Negatable) {roots : Roots}
    (solved : t.solve = .ok roots) :
    ∃ reflected, (t.reflected negatable).solve = .ok reflected ∧
      reflected.Same (roots.swap.map Binary64.neg) := by
  obtain ⟨plain, value⟩ := t.divisor_exact
  apply (reflected_mirrors negatable).solve square square _ solved
  intro n m finite left
  exact div_mirrored finite plain (value ▸ divisor_ne_zero square) left

theorem solve_finite (square : t.a.val ≠ 0) :
    ∃ roots, t.solve = .ok roots ∧ ∀ x ∈ roots.toList, x.isFinite = true := by
  rcases lt_trichotomy t.discriminant 0 with negative | double | positive
  · exact ⟨_, solve_none square negative, by simp [Roots.toList]⟩
  · have finite := (double_nearest square).finite
    exact ⟨_, solve_one square double, by simpa [Roots.toList] using finite⟩
  · have summand := root_summand positive
    have first := (branch_nearest square summand).finite
    have second := (branch_nearest square summand.neg).finite
    exact ⟨_, solve_two square positive, by simp [Roots.toList, first, second]⟩

theorem roots_mirrored (square : t.a.val ≠ 0) (negatable : t.Negatable) :
    ∃ roots opposite reflected, t.solve = .ok roots ∧
      (t.opposite negatable).solve = .ok opposite ∧
      (t.reflected negatable.b).solve = .ok reflected ∧
      (∀ x ∈ roots.toList, x.isFinite = true) ∧
      opposite.count = roots.count ∧ opposite.Same roots.swap ∧
      reflected.count = roots.count ∧ reflected.Same (roots.swap.map Binary64.neg) := by
  obtain ⟨roots, solved, finite⟩ := solve_finite square
  obtain ⟨opposite, turned, swapped⟩ := solve_opposite square negatable solved
  obtain ⟨reflected, mirrored, negated⟩ := solve_reflected square negatable.b solved
  have count := negated.count
  rw [Roots.count_map, Roots.count_swap] at count
  exact ⟨roots, opposite, reflected, solved, turned, mirrored, finite,
    swapped.count.trans roots.count_swap, swapped, count, negated⟩

/-- The zero root of `x^2+x` has the plus sign, and that of `-x^2-x` the minus sign. -/
theorem roots_mirrored_zero :
    let t : Trinomial := ⟨.one, .one, .zero⟩
    t.a.val ≠ 0 ∧ ∃ negatable : t.Negatable, ∃ reflected,
      t.solve = .ok (.two (zero false) (.ofInt (-1))) ∧
      (t.opposite negatable).solve = .ok (.two (.ofInt (-1)) (zero true)) ∧
      (t.reflected negatable.b).solve = .ok reflected ∧
      Roots.Same (.two (.ofInt (-1)) (zero true)) (.two (.ofInt (-1)) (zero false)) ∧
      reflected.Same (.two (.ofInt 1) (zero true)) := by
  intro t
  have square : t.a.val ≠ 0 := by decide
  have negatable : t.Negatable := ⟨by decide, by decide, by decide⟩
  have solved : t.solve = .ok (.two (zero false) (.ofInt (-1))) := by decide +kernel
  have signs : t.opposite negatable = ⟨.minusOne, .minusOne, .zero⟩ := rfl
  have turned : (t.opposite negatable).solve = .ok (.two (.ofInt (-1)) (zero true)) := by
    rw [signs]
    decide +kernel
  obtain ⟨roots, opposite, reflected, held, other, mirrored, -, -, swapped, -, negated⟩ :=
    roots_mirrored square negatable
  obtain rfl := Except.ok.inj (held.symm.trans solved)
  obtain rfl := Except.ok.inj (other.symm.trans turned)
  exact ⟨square, negatable, reflected, solved, turned, mirrored, swapped, negated⟩

end Trinomial

end Parabola
