import Parabola.Proofs.Equation.Run

/-!
Errors of value and where they occur. Each of them is equivalent to a condition on the text alone,
and every condition asks for terms without fault before the place, so the leftmost error wins.
-/

namespace Parabola.Equation

def Sign.limit : Sign → Nat
  | .minus => 2147483648
  | _ => 2147483647

theorem beyond_limit_iff {sign : Sign} {magnitude : Nat} :
    ¬ InRange (sign.apply magnitude) ↔ sign.limit < magnitude := by
  unfold InRange
  cases sign <;> simp only [Sign.apply, Sign.limit] <;> omega

theorem beyond_exponent_iff {magnitude : Nat} :
    ¬ InRange magnitude ↔ 2147483647 < magnitude := by
  unfold InRange
  omega

/-- At the place begins a run of digits, taken to its end, whose value is too large for where it
stands: as a coefficient under its sign, or as an exponent. All that comes before is in order. -/
inductive LargeNumberAt (chars : List Char) (place : Nat) : Prop where
  | coefficient (ws : List Written) (sign : Sign) (run : Digits) (rest : List Char)
      (good : Faultless ws) (leads : sign = .omitted → ws = [])
      (split : chars = written ws ++ sign.chars ++ run.chars ++ rest)
      (maximal : NotAhead Char.isDigit rest) (large : sign.limit < run.value)
      (starts : place = (written ws ++ sign.chars).length)
  | exponent (ws : List Written) (sign : Sign) (factor : Option Digits) (run : Digits)
      (rest : List Char) (good : Faultless ws) (leads : sign = .omitted → ws = [])
      (fits : InRange (sign.apply (factorValue factor)))
      (split : chars = written ws ++ caretChars sign factor ++ run.chars ++ rest)
      (maximal : NotAhead Char.isDigit rest) (large : 2147483647 < run.value)
      (starts : place = (written ws ++ caretChars sign factor).length)

/-- Behind terms without fault a term is written out whose numbers both fit. -/
structure CompletedAfter (chars : List Char) (ws : List Written) (w : Written) (term : Term) :
    Prop where
  good : Faultless ws
  leads : w.sign = .omitted → ws = []
  split : ∃ rest, chars = written ws ++ w.chars ++ rest ∧ w.Ends rest
  denotes : w.Denotes term

/-- The first fault is a completed term of an exponent above two, with this written form. -/
def HighPower (chars : List Char) (text : String) : Prop :=
  ∃ ws w term, CompletedAfter chars ws w term ∧ 3 ≤ w.exponent ∧ text = term.text

/-- The first fault is a completed term whose exact sum so far leaves the range. -/
def SumLeaves (chars : List Char) (exponent : Signed32) : Prop :=
  ∃ ws w term, CompletedAfter chars ws w term ∧ w.exponent ≤ 2 ∧
    ¬ InRange (total w.exponent (ws ++ [w])) ∧ exponent = term.exponent

/-- Terms without fault, of which the squares are absent or cancel, and nothing else. -/
def NoSquare (chars : List Char) : Prop :=
  ∃ ws, Faultless ws ∧ chars = written ws ∧ total 2 ws = 0

/-! Faults as conditions -/

theorem ended_before_sign {ws : List Written} {sign : Sign} (rest : List Char)
    (leads : sign = .omitted → ws = []) : Ended ws (sign.chars ++ rest) := by
  by_cases omitted : sign = .omitted
  · rw [leads omitted]
    exact ended_nil _
  · obtain ⟨c, shape, isSign⟩ := Sign.head omitted
    intro w last
    simp [shape, Written.Ends, w.body.takes_sign isSign]

theorem fault_of_large {chars : List Char} {place : Nat} (large : LargeNumberAt chars place) :
    ∃ ws rest, Faultless ws ∧ Ended ws rest ∧ chars = written ws ++ rest ∧
      Fault ws rest (.numberTooLarge place) := by
  cases large with
  | coefficient ws sign run rest good leads split maximal large starts =>
    have fault : TermFault ws.isEmpty (written ws).length _ _ :=
      .largeCoefficient (leads_iff.mpr leads) maximal (beyond_limit_iff.mpr large)
    rw [starts, List.length_append]
    exact ⟨ws, sign.chars ++ (run.chars ++ rest), good, ended_before_sign _ leads, by simp [split],
      .term (by simp [run.nonempty]) fault⟩
  | exponent ws sign factor run rest good leads fits split maximal large starts =>
    have fault : TermFault ws.isEmpty (written ws).length _ _ :=
      .largeExponent (leads_iff.mpr leads) fits maximal (beyond_exponent_iff.mpr large)
    have ended : Ended ws (caretChars sign factor ++ (run.chars ++ rest)) := by
      rw [caretChars, List.append_assoc]
      exact ended_before_sign _ leads
    rw [starts, List.length_append]
    exact ⟨ws, caretChars sign factor ++ (run.chars ++ rest), good, ended, by simp [split],
      .term (by simp [run.nonempty]) fault⟩

theorem large_of_fault {ws : List Written} {rest : List Char} {place : Nat} (good : Faultless ws)
    (fault : Fault ws rest (.numberTooLarge place)) : LargeNumberAt (written ws ++ rest) place := by
  cases fault with
  | term more fault =>
    cases fault with
    | @largeCoefficient sign run tail first maximal outside =>
      exact .coefficient ws sign run tail good (leads_iff.mp first)
        (by simp) maximal (beyond_limit_iff.mp outside) (by simp)
    | @largeExponent sign factor run tail first fits maximal outside =>
      exact .exponent ws sign factor run tail good (leads_iff.mp first)
        fits (by simp) maximal (beyond_exponent_iff.mp outside) (by simp)

section Completed

variable {chars : List Char} {ws : List Written} {w : Written} {term : Term}

theorem completed_of_ends {rest : List Char} (good : Faultless ws)
    (leads : w.sign = .omitted → ws = []) (ends : w.Ends rest) (denotes : w.Denotes term) :
    CompletedAfter (written ws ++ (w.chars ++ rest)) ws w term :=
  ⟨good, leads, ⟨rest, by simp, ends⟩, denotes⟩

-- A fault of a completed term is the first fault of the text.
theorem refused_completed {e : ParseError} (completed : CompletedAfter chars ws w term)
    (fault : ∀ rest, w.Ends rest → Fault ws (w.chars ++ rest) e) :
    (readNormal chars).outcome = .error e := by
  obtain ⟨rest, split, ends⟩ := completed.split
  have ended : Ended ws (w.chars ++ rest) := by
    rw [Written.chars, List.append_assoc]
    exact ended_before_sign _ completed.leads
  rw [split, List.append_assoc]
  exact readNormal_fault completed.good ended (fault rest ends)

end Completed

/-! The conditions are exact -/

theorem number_too_large_iff {chars : List Char} {place : Nat} :
    (readNormal chars).outcome = .error (.numberTooLarge place) ↔ LargeNumberAt chars place := by
  rw [readNormal_error_iff]
  constructor
  · rintro (⟨ws, rest, good, -, rfl, fault⟩ | ⟨noSquare, -⟩)
    · exact large_of_fault good fault
    · cases noSquare
  · intro large
    exact .inl (fault_of_large large)

theorem invalid_exponent_iff {chars : List Char} {text : String} :
    (readNormal chars).outcome = .error (.invalidExponent text) ↔ HighPower chars text := by
  constructor
  · intro refused
    rcases readNormal_error_iff.mp refused with ⟨ws, rest, good, -, rfl, fault⟩ | ⟨noSquare, -⟩
    · cases fault with
      | term more fault => cases fault
      | power leads ends denotes high =>
        exact ⟨ws, _, _, completed_of_ends good leads ends denotes, high, rfl⟩
    · cases noSquare
  · rintro ⟨ws, w, term, completed, high, rfl⟩
    exact refused_completed completed fun rest ends =>
      .power completed.leads ends completed.denotes high

theorem coefficient_overflow_iff {chars : List Char} {exponent : Signed32} :
    (readNormal chars).outcome = .error (.coefficientOverflow exponent) ↔
      SumLeaves chars exponent := by
  constructor
  · intro refused
    rcases readNormal_error_iff.mp refused with ⟨ws, rest, good, -, rfl, fault⟩ | ⟨noSquare, -⟩
    · cases fault with
      | term more fault => cases fault
      | sum leads ends denotes low leaves =>
        exact ⟨ws, _, _, completed_of_ends good leads ends denotes, low, leaves, rfl⟩
    · cases noSquare
  · rintro ⟨ws, w, term, completed, low, leaves, rfl⟩
    exact refused_completed completed fun rest ends =>
      .sum completed.leads ends completed.denotes low leaves

theorem not_quadratic_iff {chars : List Char} :
    (readNormal chars).outcome = .error .notQuadratic ↔ NoSquare chars := by
  rw [readNormal_error_iff]
  constructor
  · rintro (⟨ws, rest, -, -, -, fault⟩ | ⟨-, noSquare⟩)
    · cases fault with
      | term more fault => cases fault
    · exact noSquare
  · intro noSquare
    exact .inr ⟨rfl, noSquare⟩

-- Powers never mismatch, since a sum only takes terms of its own power.
theorem never_merge_error (chars : List Char) (error : MergeError) :
    (readNormal chars).outcome ≠ .error (.merge error) := by
  intro refused
  rcases readNormal_error_iff.mp refused with ⟨ws, rest, -, -, -, fault⟩ | ⟨noSquare, -⟩
  · cases fault with
    | term more fault => cases fault
  · cases noSquare

/-- Each error of value occurs exactly under its condition on the normal form, which is about the
exact values of all digits, however many, and the exact sums. No other failure of a merge occurs. -/
theorem value_error_iff (raw : String) :
    (∀ place, parse raw = .error (.numberTooLarge place) ↔
      LargeNumberAt (Text.normalChars raw.toList) place) ∧
    (∀ text, parse raw = .error (.invalidExponent text) ↔
      HighPower (Text.normalChars raw.toList) text) ∧
    (∀ exponent, parse raw = .error (.coefficientOverflow exponent) ↔
      SumLeaves (Text.normalChars raw.toList) exponent) ∧
    (parse raw = .error .notQuadratic ↔
      Text.normalChars raw.toList = [] ∨ NoSquare (Text.normalChars raw.toList)) ∧
    ∀ error, parse raw ≠ .error (.merge error) := by
  refine ⟨fun _ => number_too_large_iff, fun _ => invalid_exponent_iff,
    fun _ => coefficient_overflow_iff, ?_, never_merge_error _⟩
  refine not_quadratic_iff.trans ⟨.inr, ?_⟩
  rintro (empty | noSquare)
  · exact ⟨[], faultless_nil, empty, rfl⟩
  · exact noSquare

end Parabola.Equation
