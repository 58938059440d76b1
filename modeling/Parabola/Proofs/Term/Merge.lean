import Parabola.Proofs.Equation.Scan

/-!
Merging terms. A merge ends with the exact sum or with one of two failures, and where both would be
due it is the different exponents that are reported (`merge_ends`). A term into which others are
merged one after another, whatever becomes of each, keeps its exponent and stands at the exact sum of
what was merged in; a failed merge leaves no trace (`merging_exact`).
-/

namespace Parabola.Term

open Equation (InRange)

/-! One merge -/

inductive Ends (term other : Term) : Except MergeError Term → Prop where
  | summed {sum : Term} (alike : term.exponent = other.exponent)
      (exponent : sum.exponent = term.exponent)
      (exact : sum.coefficient.val = term.coefficient.val + other.coefficient.val) :
      Ends term other (.ok sum)
  | apart (differ : term.exponent ≠ other.exponent) :
      Ends term other (.error (.exponentMismatch term.exponent other.exponent))
  | leaves (alike : term.exponent = other.exponent)
      (outside : ¬ InRange (term.coefficient.val + other.coefficient.val)) :
      Ends term other (.error .overflow)

theorem merge_ends (term other : Term) : Ends term other (term.merge other) := by
  rw [merge]
  split
  · next alike =>
    cases added : term.coefficient.add? other.coefficient with
    | some sum => exact .summed alike rfl (Signed32.add?_eq_some_iff.mp added)
    | none => exact .leaves alike (Equation.ofInt?_none_iff.mp added)
  · next differ => exact .apart differ

/-- What one merge does to a held term: it adds the other coefficient, or it fails and does nothing.
It fails for the cause that is named and for no other. -/
structure Settles (held other : Term) (step : MergeStep) : Prop where
  exponent : step.term.exponent = held.exponent
  coefficient : step.term.coefficient.val =
    held.coefficient.val + if step.failure = none then other.coefficient.val else 0
  fails : step.failure ≠ none ↔
    held.exponent ≠ other.exponent ∨ ¬ InRange (held.coefficient.val + other.coefficient.val)
  mismatch : ∀ left right, step.failure = some (.exponentMismatch left right) ↔
    held.exponent ≠ other.exponent ∧ left = held.exponent ∧ right = other.exponent
  overflow : step.failure = some .overflow ↔
    held.exponent = other.exponent ∧ ¬ InRange (held.coefficient.val + other.coefficient.val)
  unchanged : step.failure ≠ none → step.term = held

theorem absorb_settles (held other : Term) : Settles held other (held.absorb other) := by
  have ending := merge_ends held other
  rw [absorb]
  generalize held.merge other = outcome at ending
  cases ending with
  | @summed sum alike exponent exact =>
    have fits : InRange (held.coefficient.val + other.coefficient.val) :=
      Equation.in_range_iff.mpr ⟨sum.coefficient, exact⟩
    exact {
      exponent := exponent
      coefficient := by simpa using exact
      fails := by simp [alike, fits]
      mismatch := by simp [alike]
      overflow := by simp [fits]
      unchanged := fun failed => absurd rfl failed }
  | apart differ =>
    exact {
      exponent := rfl
      coefficient := by simp
      fails := by simp [differ]
      mismatch := by simp [differ, eq_comm]
      overflow := by simp [differ]
      unchanged := fun _ => rfl }
  | leaves alike outside =>
    exact {
      exponent := rfl
      coefficient := by simp
      fails := by simp [outside]
      mismatch := by simp [alike]
      overflow := by simp [alike, outside]
      unchanged := fun _ => rfl }

/-! Merges one after another -/

def standing (start : Term) : List MergeStep → Term
  | [] => start
  | step :: steps => standing step.term steps

/-- The exact sum of the coefficients of the terms whose merge did not fail. -/
def gained : List Term → List MergeStep → Int
  | other :: others, step :: steps =>
    (if step.failure = none then other.coefficient.val else 0) + gained others steps
  | _, _ => 0

theorem standing_snoc (start : Term) (steps : List MergeStep) (step : MergeStep) :
    standing start (steps ++ [step]) = step.term := by
  induction steps generalizing start with
  | nil => rfl
  | cons first steps ih => exact ih first.term

theorem absorbAll_length (start : Term) (others : List Term) :
    (start.absorbAll others).length = others.length := by
  induction others generalizing start with
  | nil => rfl
  | cons other others ih => rw [absorbAll, List.length_cons, ih, List.length_cons]

theorem absorbAll_append (start : Term) (before later : List Term) :
    start.absorbAll (before ++ later) =
      start.absorbAll before ++ (standing start (start.absorbAll before)).absorbAll later := by
  induction before generalizing start with
  | nil => rfl
  | cons other before ih =>
    rw [List.cons_append, absorbAll, absorbAll, standing, ih, List.cons_append]

-- The induction is on the terms from the left; each leaves another term for the rest to begin with.
theorem absorbAll_exact (start : Term) (others : List Term) :
    (standing start (start.absorbAll others)).exponent = start.exponent ∧
      (standing start (start.absorbAll others)).coefficient.val =
        start.coefficient.val + gained others (start.absorbAll others) := by
  induction others generalizing start with
  | nil => exact ⟨rfl, (Int.add_zero _).symm⟩
  | cons other others ih =>
    have first := absorb_settles start other
    obtain ⟨exponent, coefficient⟩ := ih (start.absorb other).term
    rw [absorbAll, standing, gained]
    constructor
    · rw [exponent, first.exponent]
    · rw [coefficient, first.coefficient, Int.add_assoc]

/-- Terms are merged one after another into a term, and failures do not end the run. After each merge
the exponent is that of the start, and the coefficient is the exact sum of the start's and of those
whose merge succeeded. A merge fails exactly if the exponents differ, which is then reported whatever
the sum, or if the exact sum leaves its range; and a failed merge leaves the term as it was. -/
theorem merging_exact (start : Term) (before : List Term) (other : Term) (later : List Term) :
    ∃ earlier step rest, start.absorbAll (before ++ other :: later) = earlier ++ step :: rest ∧
      earlier.length = before.length ∧ rest.length = later.length ∧
      step.term.exponent = start.exponent ∧
      step.term.coefficient.val =
        start.coefficient.val + gained (before ++ [other]) (earlier ++ [step]) ∧
      Settles (standing start earlier) other step := by
  have split := absorbAll_append start before [other]
  have whole := absorbAll_exact start (before ++ [other])
  rw [split, absorbAll, absorbAll, standing_snoc] at whole
  exact ⟨_, _, _, absorbAll_append start before (other :: later), absorbAll_length _ _,
    absorbAll_length _ _, whole.1, whole.2, absorb_settles _ _⟩

-- Different exponents are reported even where the sum would leave its range, and a merge that
-- overflows takes nothing away from the next one.
example : (absorbAll ⟨⟨2147483647, by decide, by decide⟩, .one⟩
      [⟨.one, .zero⟩, ⟨.one, .one⟩, ⟨.minusOne, .one⟩]).map MergeStep.failure =
    [some (.exponentMismatch .one .zero), some .overflow, none] := by decide

end Parabola.Term
