import Mathlib.Data.List.Forall2
import Parabola.Proofs.Term.Merge

/-!
A whole equation read: terms without fault are read over one by one, with the sums at their exact
totals, and the first fault or the end of the text decides the outcome. Each text is of one of these
two kinds, so the outcome of every reading is known (`readNormal_written`, `readNormal_fault`,
`written_or_fault`).
-/

namespace Parabola.Equation

/-! Sums of terms -/

theorem degree_eq_some_iff {term : Term} {degree : Degree} :
    term.degree? = some degree ↔ term.exponent = degree.exponent := by
  constructor
  · intro permitted
    unfold Term.degree? Degree.ofInt? at permitted
    split at permitted
    · next zero => cases permitted; exact Signed32.ext zero
    · split at permitted
      · next one => cases permitted; exact Signed32.ext one
      · split at permitted
        · next two => cases permitted; exact Signed32.ext two
        · cases permitted
  · intro same
    cases degree <;> simp [Term.degree?, Degree.ofInt?, same] <;> decide

theorem degree_exponent_val (degree : Degree) : degree.exponent.val = degree.toNat := by
  cases degree <;> rfl

theorem degree_of_exponent {w : Written} {term : Term} (denotes : w.Denotes term)
    (low : w.exponent ≤ 2) : ∃ degree, term.degree? = some degree ∧ degree.toNat = w.exponent := by
  have value := denotes.2
  have cases_exponent : w.exponent = 0 ∨ w.exponent = 1 ∨ w.exponent = 2 := by omega
  rcases cases_exponent with zero | one | two
  · rw [zero] at value ⊢
    exact ⟨.constant, degree_eq_some_iff.mpr (Signed32.ext value), rfl⟩
  · rw [one] at value ⊢
    exact ⟨.linear, degree_eq_some_iff.mpr (Signed32.ext value), rfl⟩
  · rw [two] at value ⊢
    exact ⟨.square, degree_eq_some_iff.mpr (Signed32.ext value), rfl⟩

theorem degree_none_of_high {w : Written} {term : Term} (denotes : w.Denotes term)
    (high : 3 ≤ w.exponent) : term.degree? = none := by
  cases found : term.degree? with
  | none => rfl
  | some degree =>
    have value := denotes.2
    rw [degree_eq_some_iff.mp found, degree_exponent_val] at value
    cases degree <;> simp only [Degree.toNat] at value <;> omega

theorem get_put (sums : Sums) (degree other : Degree) (term : Term) :
    (sums.put degree term).get other = if degree = other then some term else sums.get other := by
  cases degree <;> cases other <;> rfl

/-- The sums are the exact totals of the terms before, and each is held under its own power. -/
structure Holds (before : List Written) (sums : Sums) : Prop where
  value : ∀ degree, (sums.coefficient degree).val = total degree.toNat before
  exponent : ∀ degree held, sums.get degree = some held → held.exponent = degree.exponent

theorem holds_empty : Holds [] .empty where
  value degree := by cases degree <;> rfl
  exponent degree held found := by cases degree <;> cases found

theorem holds_put {before : List Written} {sums : Sums} {w : Written} {degree : Degree}
    {sum : Term} (holds : Holds before sums) (power : degree.toNat = w.exponent)
    (value : sum.coefficient.val = total degree.toNat (before ++ [w]))
    (exponent : sum.exponent = degree.exponent) :
    Holds (before ++ [w]) (sums.put degree sum) where
  value other := by
    by_cases same : degree = other
    · subst same
      simpa [Sums.coefficient, get_put] using value
    · have apart : w.exponent ≠ other.toNat := by
        rw [← power]
        cases degree <;> cases other <;> simp [Degree.toNat] at same ⊢
      have kept := holds.value other
      simpa [Sums.coefficient, get_put, same, total_append, total_single, apart] using kept
  exponent other held found := by
    rw [get_put] at found
    by_cases same : degree = other
    · subst same
      simp only [↓reduceIte, Option.some.injEq] at found
      rw [← found, exponent]
    · rw [if_neg same] at found
      exact holds.exponent other held found

section Addition

variable {before : List Written} {sums : Sums} {w : Written} {term : Term} {degree : Degree}

-- Powers never mismatch in a merge, so a term is added or its sum is out of range.
theorem add_eq (holds : Holds before sums) (denotes : w.Denotes term)
    (permitted : term.degree? = some degree) (power : degree.toNat = w.exponent) :
    (∃ grown, sums.add degree term = .ok grown ∧ Holds (before ++ [w]) grown) ∨
      sums.add degree term = .error (.coefficientOverflow term.exponent) ∧
        ¬ InRange (total w.exponent (before ++ [w])) := by
  have exponent := degree_eq_some_iff.mp permitted
  have sum : total degree.toNat (before ++ [w]) = total degree.toNat before + w.coefficient := by
    rw [total_append, total_single, if_pos power.symm]
  have earlier := holds.value degree
  cases found : sums.get degree with
  | none =>
    have value : term.coefficient.val = total degree.toNat (before ++ [w]) := by
      rw [sum, ← earlier, denotes.1]
      simp [Sums.coefficient, found, Signed32.zero]
    exact .inl ⟨sums.put degree term, by simp [Sums.add, found],
      holds_put holds power value exponent⟩
  | some held =>
    have heldExponent := holds.exponent degree held found
    have heldValue : held.coefficient.val = total degree.toNat before := by
      simpa [Sums.coefficient, found] using earlier
    have ending := held.merge_ends term
    generalize merging : held.merge term = outcome at ending
    cases ending with
    | @summed result _ unmoved exact =>
      have value : result.coefficient.val = total degree.toNat (before ++ [w]) := by
        rw [sum, exact, heldValue, denotes.1]
      exact .inl ⟨sums.put degree result, by simp [Sums.add, found, merging],
        holds_put holds power value (unmoved.trans heldExponent)⟩
    | apart differ => exact absurd (heldExponent.trans exponent.symm) differ
    | leaves _ outside =>
      refine .inr ⟨by simp [Sums.add, found, merging], ?_⟩
      rwa [← power, sum, ← heldValue, ← denotes.1]

end Addition

/-! Terms without fault -/

theorem faultless_nil : Faultless [] where
  signs := by simp [SignedLater]
  coefficients := by simp
  exponents := by simp
  sums exponent before start := by
    rw [List.prefix_nil.mp start]
    simp [InRange]

theorem faultless_snoc {before : List Written} {w : Written} (good : Faultless before)
    (leads : w.sign = .omitted → before = []) (coefficient : InRange w.coefficient)
    (low : w.exponent ≤ 2) (fits : InRange (total w.exponent (before ++ [w]))) :
    Faultless (before ++ [w]) where
  signs := signed_later_snoc good.signs leads
  coefficients v member := by
    rcases List.mem_append.mp member with old | new
    · exact good.coefficients v old
    · rw [List.mem_singleton.mp new]
      exact coefficient
  exponents v member := by
    rcases List.mem_append.mp member with old | new
    · exact good.exponents v old
    · rw [List.mem_singleton.mp new]
      exact low
  sums exponent start isStart := by
    -- The only new front part is the whole, and there only the sum of the new exponent has moved.
    rcases List.prefix_concat_iff.mp isStart with rfl | shorter
    · by_cases same : w.exponent = exponent
      · exact same ▸ fits
      · rw [total_append, total_single, if_neg same, Int.add_zero]
        exact good.sums exponent before (List.prefix_refl _)
    · exact good.sums exponent start shorter

theorem faultless_leads {before later : List Written} {w : Written}
    (good : Faultless (before ++ w :: later)) : w.sign = .omitted → before = [] := by
  intro omitted
  cases before with
  | nil => rfl
  | cons v before =>
    have signed := (signed_later_append.mp good.signs).2 w (by simp)
    exact absurd omitted signed

theorem denotes_of_range {w : Written} (coefficient : InRange w.coefficient)
    (low : w.exponent ≤ 2) : ∃ term, w.Denotes term := by
  obtain ⟨number, same⟩ := in_range_iff.mp coefficient
  obtain ⟨exponent, exponentSame⟩ :=
    in_range_iff.mp (show InRange w.exponent from by unfold InRange; omega)
  exact ⟨⟨number, exponent⟩, same, exponentSame⟩

theorem faultless_denotes {before later : List Written} {w : Written}
    (good : Faultless (before ++ w :: later)) : ∃ term, w.Denotes term :=
  denotes_of_range (good.coefficients w (by simp)) (good.exponents w (by simp))

def Ended (ws : List Written) (rest : List Char) : Prop := ∀ w ∈ ws.getLast?, w.Ends rest

@[simp] theorem ended_nil (rest : List Char) : Ended [] rest := by simp [Ended]

@[simp] theorem ended_snoc (ws : List Written) (w : Written) (rest : List Char) :
    Ended (ws ++ [w]) rest ↔ w.Ends rest := by simp [Ended]

-- The reader has a flag for the first term, where the statements say that none is before it.
theorem leads_iff {sign : Sign} {before : List Written} :
    (sign = .omitted → before.isEmpty = true) ↔ (sign = .omitted → before = []) := by
  simp only [List.isEmpty_iff]

/-- The first thing wrong after terms without fault. -/
inductive Fault (before : List Written) : List Char → ParseError → Prop where
  | term {rest : List Char} {e : ParseError} (more : rest ≠ [])
      (fault : TermFault before.isEmpty (written before).length rest e) :
    Fault before rest e
  | power {w : Written} {term : Term} {rest : List Char} (leads : w.sign = .omitted → before = [])
      (ends : w.Ends rest) (denotes : w.Denotes term) (high : 3 ≤ w.exponent) :
    Fault before (w.chars ++ rest) (.invalidExponent term.text)
  | sum {w : Written} {term : Term} {rest : List Char} (leads : w.sign = .omitted → before = [])
      (ends : w.Ends rest) (denotes : w.Denotes term) (low : w.exponent ≤ 2)
      (leaves : ¬ InRange (total w.exponent (before ++ [w]))) :
    Fault before (w.chars ++ rest) (.coefficientOverflow term.exponent)

/-- A fault together with the terms noted at it: none, or the one term whose sum leaves the range. -/
inductive Halts (before : List Written) : List Char → ParseError → List Written → Prop where
  | term {rest : List Char} {e : ParseError} (more : rest ≠ [])
      (fault : TermFault before.isEmpty (written before).length rest e) :
    Halts before rest e []
  | power {w : Written} {term : Term} {rest : List Char} (leads : w.sign = .omitted → before = [])
      (ends : w.Ends rest) (denotes : w.Denotes term) (high : 3 ≤ w.exponent) :
    Halts before (w.chars ++ rest) (.invalidExponent term.text) []
  | sum {w : Written} {term : Term} {rest : List Char} (leads : w.sign = .omitted → before = [])
      (ends : w.Ends rest) (denotes : w.Denotes term) (low : w.exponent ≤ 2)
      (leaves : ¬ InRange (total w.exponent (before ++ [w]))) :
    Halts before (w.chars ++ rest) (.coefficientOverflow term.exponent) [w]

theorem halts_of_fault {before : List Written} {rest : List Char} {e : ParseError}
    (fault : Fault before rest e) : ∃ last, Halts before rest e last := by
  cases fault with
  | term more fault => exact ⟨_, .term more fault⟩
  | power leads ends denotes high => exact ⟨_, .power leads ends denotes high⟩
  | sum leads ends denotes low leaves => exact ⟨_, .sum leads ends denotes low leaves⟩

/-- The noted terms are the written ones in order, each under the power of its exponent. -/
def Marks (ws : List Written) (marks : List (Term × Degree)) : Prop :=
  List.Forall₂ (fun w mark => w.Denotes mark.1 ∧ mark.2.toNat = w.exponent) ws marks

def TermsRead.behind (marks : List (Term × Degree)) (later : TermsRead) : TermsRead :=
  ⟨marks ++ later.terms, later.outcome⟩

/-! Steps of the loop -/

theorem readTerms_end (first : Bool) (sums : Sums) (position : Nat) :
    readTerms first sums ⟨[], position⟩ = ⟨[], .ok sums⟩ := by
  rw [readTerms, if_pos rfl]

-- One turn of the loop, without the proof that the turn makes progress.
theorem readTerms_turn {first : Bool} {sums : Sums} {cursor : Cursor} (more : cursor.rest ≠ []) :
    readTerms first sums cursor =
      match readTerm first cursor with
      | .error e => ⟨[], .error e⟩
      | .ok (term, next) =>
        match term.degree? with
        | none => ⟨[], .error (.invalidExponent term.text)⟩
        | some degree =>
          match sums.add degree term with
          | .error e => ⟨[(term, degree)], .error e⟩
          | .ok grown =>
            ⟨(term, degree) :: (readTerms false grown next).terms,
              (readTerms false grown next).outcome⟩ := by
  fun_cases readTerms first sums cursor with
  | case1 atEnd => exact absurd atEnd more
  | case2 _ e refused => simp only [refused]
  | case3 _ term next taken high => simp only [taken, high]
  | case4 _ term next taken degree permitted e refused => simp only [taken, permitted, refused]
  | case5 _ term next taken degree permitted grown added shorter later =>
    simp only [taken, permitted, added, later]

theorem readTerms_refused {first : Bool} {sums : Sums} {cursor : Cursor} {e : ParseError}
    (more : cursor.rest ≠ []) (refused : readTerm first cursor = .error e) :
    (readTerms first sums cursor).outcome = .error e := by
  rw [readTerms_turn more, refused]

theorem readTerms_taken {first : Bool} {sums : Sums} {cursor next : Cursor} {term : Term}
    (more : cursor.rest ≠ []) (taken : readTerm first cursor = .ok (term, next)) :
    (readTerms first sums cursor).outcome =
      match term.degree? with
      | none => .error (.invalidExponent term.text)
      | some degree =>
        match sums.add degree term with
        | .error e => .error e
        | .ok grown => (readTerms false grown next).outcome := by
  simp only [readTerms_turn more, taken]
  cases term.degree? with
  | none => rfl
  | some degree =>
    simp only
    cases sums.add degree term <;> rfl

section Reading

variable {before : List Written} {sums : Sums} {w : Written} {term : Term} {rest : List Char}

-- Every written term is taken up as one step of the loop.
theorem readTerms_written (leads : w.sign = .omitted → before = []) (ends : w.Ends rest)
    (denotes : w.Denotes term) :
    readTerms before.isEmpty sums ⟨w.chars ++ rest, (written before).length⟩ =
      match term.degree? with
      | none => ⟨[], .error (.invalidExponent term.text)⟩
      | some degree =>
        match sums.add degree term with
        | .error e => ⟨[(term, degree)], .error e⟩
        | .ok grown =>
          (readTerms (before ++ [w]).isEmpty grown
            ⟨rest, (written (before ++ [w])).length⟩).behind [(term, degree)] := by
  have taken := readTerm_written (written before).length (leads_iff.mpr leads) ends denotes
  have started : (before ++ [w]).isEmpty = false := by cases before <;> rfl
  rw [readTerms_turn (by simp [w.chars_ne_nil]), taken]
  simp [started, TermsRead.behind]

theorem readTerms_halts {e : ParseError} {last : List Written} (holds : Holds before sums)
    (halts : Halts before rest e last) :
    ∃ marks, Marks last marks ∧
      readTerms before.isEmpty sums ⟨rest, (written before).length⟩ = ⟨marks, .error e⟩ := by
  cases halts with
  | term more fault =>
    refine ⟨[], .nil, ?_⟩
    rw [readTerms_turn more, readTerm_fault fault]
  | power leads ends denotes high =>
    refine ⟨[], .nil, ?_⟩
    rw [readTerms_written leads ends denotes, degree_none_of_high denotes high]
  | @sum w term rest leads ends denotes low leaves =>
    obtain ⟨degree, permitted, power⟩ := degree_of_exponent denotes low
    refine ⟨[(term, degree)], .cons ⟨denotes, power⟩ .nil, ?_⟩
    rw [readTerms_written leads ends denotes, permitted]
    rcases add_eq holds denotes permitted power with ⟨grown, -, grownHolds⟩ | ⟨refused, -⟩
    · have fits := in_range_iff.mpr ⟨_, grownHolds.value degree⟩
      rw [power] at fits
      exact absurd fits leaves
    · simp only [refused]

/-- Terms without fault are read over and noted, and the sums stay exact. -/
theorem readTerms_over {ws : List Written} (holds : Holds before sums)
    (good : Faultless (before ++ ws)) (ended : Ended ws rest) :
    ∃ grown marks, Holds (before ++ ws) grown ∧ Marks ws marks ∧
      readTerms before.isEmpty sums ⟨written ws ++ rest, (written before).length⟩ =
        (readTerms (before ++ ws).isEmpty grown
          ⟨rest, (written (before ++ ws)).length⟩).behind marks := by
  -- The induction is on the terms still to come. Each one moves to those before, whose exact totals
  -- the sums go on holding.
  induction ws generalizing before sums with
  | nil => exact ⟨sums, [], by simpa using holds, .nil, by simp [TermsRead.behind]⟩
  | cons w ws ih =>
    have leads := faultless_leads good
    have laterGood : Faultless ((before ++ [w]) ++ ws) := by simpa using good
    have laterSigned : ∀ v ∈ ws, v.sign ≠ .omitted := by
      simpa using (signed_later_append.mp laterGood.signs).2
    have ends : w.Ends (written ws ++ rest) := by
      refine ends_before laterSigned ?_
      rintro rfl
      exact ended w rfl
    have laterEnded : Ended ws rest := by
      intro v last
      cases ws with
      | nil => cases last
      | cons u us => exact ended v (by simpa using last)
    obtain ⟨term, denotes⟩ := faultless_denotes good
    have low := good.exponents w (by simp)
    obtain ⟨degree, permitted, power⟩ := degree_of_exponent denotes low
    have fits := good.sums w.exponent (before ++ [w]) ⟨ws, by simp⟩
    rcases add_eq holds denotes permitted power with ⟨next, added, nextHolds⟩ | ⟨-, leaves⟩
    · obtain ⟨grown, marks, grownHolds, noted, later⟩ := ih nextHolds laterGood laterEnded
      refine ⟨grown, (term, degree) :: marks, by simpa using grownHolds,
        .cons ⟨denotes, power⟩ noted, ?_⟩
      rw [written_cons, List.append_assoc, readTerms_written leads ends denotes, permitted]
      simp only [added]
      rw [later]
      simp [TermsRead.behind]
    · exact absurd fits leaves

end Reading

-- After terms without fault comes the end of the text, a fault, or one more of them.
theorem one_more_or_stop {before : List Written} (rest : List Char) (good : Faultless before) :
    rest = [] ∨ (∃ e, Fault before rest e) ∨
      ∃ w tail, rest = w.chars ++ tail ∧ Faultless (before ++ [w]) ∧ Ended (before ++ [w]) tail := by
  by_cases atEnd : rest = []
  · exact .inl atEnd
  · rcases term_or_fault before.isEmpty (written before).length rest with
      ⟨w, term, tail, rfl, first, ends, denotes⟩ | ⟨e, fault⟩
    · have leads := leads_iff.mp first
      by_cases low : w.exponent ≤ 2
      · by_cases fits : InRange (total w.exponent (before ++ [w]))
        · have coefficient := in_range_iff.mpr ⟨term.coefficient, denotes.1⟩
          exact .inr (.inr ⟨w, tail, rfl, faultless_snoc good leads coefficient low fits,
            (ended_snoc _ _ _).mpr ends⟩)
        · exact .inr (.inl ⟨_, .sum leads ends denotes low fits⟩)
      · exact .inr (.inl ⟨_, .power leads ends denotes (by omega)⟩)
    · exact .inr (.inl ⟨e, .term atEnd fault⟩)

theorem more_or_fault {before : List Written} {rest : List Char} (good : Faultless before)
    (ended : Ended before rest) :
    ∃ ws tail, rest = written ws ++ tail ∧ Faultless (before ++ ws) ∧ Ended (before ++ ws) tail ∧
      (tail = [] ∨ ∃ e, Fault (before ++ ws) tail e) := by
  -- Each term takes a character, so the induction is on the length of what is left.
  induction left : rest.length using Nat.strongRecOn generalizing before rest with
  | ind size ih =>
    rcases one_more_or_stop rest good with atEnd | ⟨e, fault⟩ | ⟨w, tail, rfl, more, moreEnded⟩
    · exact ⟨[], rest, rfl, by simpa using good, by simpa using ended, .inl atEnd⟩
    · exact ⟨[], rest, rfl, by simpa using good, by simpa using ended,
        .inr ⟨e, by simpa using fault⟩⟩
    · have taken := List.length_pos_iff.mpr w.chars_ne_nil
      have shorter : tail.length < size := by
        rw [← left, List.length_append]
        omega
      obtain ⟨ws, last, rfl, laterGood, laterEnded, stop⟩ := ih _ shorter more moreEnded rfl
      exact ⟨w :: ws, last, by simp, by simpa using laterGood, by simpa using laterEnded,
        by simpa using stop⟩

/-! Whole texts -/

/-- Every text is written without fault, or has a first fault. -/
theorem written_or_fault (chars : List Char) :
    (∃ ws, Faultless ws ∧ chars = written ws) ∨
      ∃ ws rest e, Faultless ws ∧ Ended ws rest ∧ chars = written ws ++ rest ∧ Fault ws rest e := by
  obtain ⟨ws, rest, shape, good, ended, stop⟩ :=
    more_or_fault faultless_nil (ended_nil chars)
  simp only [List.nil_append] at good ended stop
  rcases stop with rfl | ⟨e, fault⟩
  · exact .inl ⟨ws, good, by simpa using shape⟩
  · exact .inr ⟨ws, rest, e, good, ended, shape, fault⟩

theorem readNormal_of_error {chars : List Char} {e : ParseError}
    (refused : (readTerms true .empty ⟨chars, 0⟩).outcome = .error e) :
    (readNormal chars).outcome = .error e := by
  simp only [readNormal, Cursor.start, refused]

theorem readNormal_of_sums {chars : List Char} {sums : Sums}
    (read : (readTerms true .empty ⟨chars, 0⟩).outcome = .ok sums) :
    (readNormal chars).outcome = sums.trinomial := by
  simp only [readNormal, Cursor.start, read]
  cases sums.trinomial <;> rfl

theorem readNormal_outcome (chars : List Char) :
    (readNormal chars).outcome =
      (readTerms true .empty (.start chars)).outcome.bind Sums.trinomial := by
  cases read : (readTerms true .empty (.start chars)).outcome with
  | error e => exact readNormal_of_error read
  | ok sums => exact readNormal_of_sums read

theorem readTerms_halted {ws last : List Written} {rest : List Char} {e : ParseError}
    (good : Faultless ws) (ended : Ended ws rest) (halts : Halts ws rest e last) :
    ∃ marks, Marks (ws ++ last) marks ∧
      readTerms true .empty ⟨written ws ++ rest, 0⟩ = ⟨marks, .error e⟩ := by
  obtain ⟨sums, marks, holds, noted, passed⟩ := readTerms_over holds_empty good ended
  obtain ⟨more, notedLast, stopped⟩ := readTerms_halts holds halts
  refine ⟨marks ++ more, List.rel_append noted notedLast, ?_⟩
  exact passed.trans (congrArg (TermsRead.behind marks) stopped)

theorem readTerms_whole {ws : List Written} (good : Faultless ws) :
    ∃ sums marks, Holds ws sums ∧ Marks ws marks ∧
      readTerms true .empty ⟨written ws, 0⟩ = ⟨marks, .ok sums⟩ := by
  have ended : Ended ws [] := by simp [Ended, Written.Ends]
  obtain ⟨sums, marks, holds, noted, passed⟩ := readTerms_over holds_empty good ended
  refine ⟨sums, marks, holds, noted, ?_⟩
  rw [readTerms_end] at passed
  simpa [TermsRead.behind] using passed

theorem readNormal_fault {ws : List Written} {rest : List Char} {e : ParseError}
    (good : Faultless ws) (ended : Ended ws rest) (fault : Fault ws rest e) :
    (readNormal (written ws ++ rest)).outcome = .error e := by
  obtain ⟨last, halts⟩ := halts_of_fault fault
  obtain ⟨marks, -, halted⟩ := readTerms_halted good ended halts
  exact readNormal_of_error (by rw [halted])

/-- Without fault the exact totals decide: they are the trinomial unless the square vanishes. -/
theorem readNormal_written {ws : List Written} (good : Faultless ws) :
    (total 2 ws = 0 ∧ (readNormal (written ws)).outcome = .error .notQuadratic) ∨
      (total 2 ws ≠ 0 ∧ ∃ t : Trinomial, (readNormal (written ws)).outcome = .ok t ∧
        t.a.val = total 2 ws ∧ t.b.val = total 1 ws ∧ t.c.val = total 0 ws) := by
  obtain ⟨sums, marks, holds, -, whole⟩ := readTerms_whole good
  have read : (readNormal (written ws)).outcome = sums.trinomial :=
    readNormal_of_sums (by rw [whole])
  let result : Trinomial :=
    ⟨sums.coefficient .square, sums.coefficient .linear, sums.coefficient .constant⟩
  have square : result.a.val = total 2 ws := holds.value .square
  by_cases vanishes : total 2 ws = 0
  · refine .inl ⟨vanishes, ?_⟩
    rw [read, Sums.trinomial, if_pos (square.trans vanishes)]
  · refine .inr ⟨vanishes, result, ?_, square, holds.value .linear, holds.value .constant⟩
    rw [read, Sums.trinomial, if_neg (fun zero => vanishes (square.symm.trans zero))]

theorem readNormal_error_iff {chars : List Char} {e : ParseError} :
    (readNormal chars).outcome = .error e ↔
      (∃ ws rest, Faultless ws ∧ Ended ws rest ∧ chars = written ws ++ rest ∧ Fault ws rest e) ∨
        e = .notQuadratic ∧ ∃ ws, Faultless ws ∧ chars = written ws ∧ total 2 ws = 0 := by
  constructor
  · intro refused
    rcases written_or_fault chars with ⟨ws, good, rfl⟩ | ⟨ws, rest, first, good, ended, rfl, fault⟩
    · rcases readNormal_written good with ⟨vanishes, noSquare⟩ | ⟨-, t, read, -⟩
      · rw [noSquare] at refused
        cases refused
        exact .inr ⟨rfl, ws, good, rfl, vanishes⟩
      · rw [read] at refused
        cases refused
    · rw [readNormal_fault good ended fault] at refused
      cases refused
      exact .inl ⟨ws, rest, good, ended, rfl, fault⟩
  · rintro (⟨ws, rest, good, ended, rfl, fault⟩ | ⟨rfl, ws, good, rfl, vanishes⟩)
    · exact readNormal_fault good ended fault
    · rcases readNormal_written good with ⟨-, noSquare⟩ | ⟨square, -⟩
      · exact noSquare
      · exact absurd vanishes square

end Parabola.Equation
