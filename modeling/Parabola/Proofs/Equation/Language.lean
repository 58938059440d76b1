import Mathlib.Data.Set.Subsingleton
import Parabola.Proofs.Equation.Run

/-!
The accepted texts and their values: reading succeeds on exactly the texts of the grammar that stay
within the limits from left to right and keep a square, and the result holds the exact totals.
-/

namespace Parabola.Equation

def Totals (t : Trinomial) (ws : List Written) : Prop :=
  t.a.val = total 2 ws ∧ t.b.val = total 1 ws ∧ t.c.val = total 0 ws

theorem totals_unique {t u : Trinomial} {ws : List Written} (left : Totals t ws)
    (right : Totals u ws) : t = u := by
  obtain ⟨a, b, c⟩ := left
  obtain ⟨a', b', c'⟩ := right
  cases t
  cases u
  rw [Trinomial.mk.injEq]
  exact ⟨Signed32.ext (a.trans a'.symm), Signed32.ext (b.trans b'.symm),
    Signed32.ext (c.trans c'.symm)⟩

theorem readNormal_ok {ws : List Written} {t : Trinomial} (good : Faultless ws)
    (square : total 2 ws ≠ 0) (totals : Totals t ws) :
    (readNormal (written ws)).outcome = .ok t := by
  rcases readNormal_written good with ⟨vanishes, -⟩ | ⟨-, result, read, resultTotals⟩
  · exact absurd vanishes square
  · rw [read, totals_unique resultTotals totals]

theorem readNormal_ok_iff {chars : List Char} {t : Trinomial} :
    (readNormal chars).outcome = .ok t ↔
      ∃ ws, written ws = chars ∧ Faultless ws ∧ total 2 ws ≠ 0 ∧ Totals t ws := by
  constructor
  · intro accepted
    rcases written_or_fault chars with ⟨ws, good, rfl⟩ | ⟨ws, rest, e, good, ended, rfl, fault⟩
    · rcases readNormal_written good with ⟨-, refused⟩ | ⟨square, result, read, totals⟩
      · rw [refused] at accepted
        cases accepted
      · rw [read] at accepted
        cases accepted
        exact ⟨ws, rfl, good, square, totals⟩
    · rw [readNormal_fault good ended fault] at accepted
      cases accepted
  · rintro ⟨ws, rfl, good, square, totals⟩
    exact readNormal_ok good square totals

/-- A text is accepted exactly if its normal form splits into terms, which it does in one way at
most, and these are one or more, without fault, and with squares that do not cancel. The trinomial
holds the totals of the coefficients, which are zero for a power that does not occur. -/
theorem parse_accepts_iff (raw : String) (t : Trinomial) :
    {ws | SignedLater ws ∧ written ws = Text.normalChars raw.toList}.Subsingleton ∧
      (parse raw = .ok t ↔
        ∃ ws, ws ≠ [] ∧ written ws = Text.normalChars raw.toList ∧ Faultless ws ∧
          total 2 ws ≠ 0 ∧ t.a.val = total 2 ws ∧ t.b.val = total 1 ws ∧
          t.c.val = total 0 ws) := by
  constructor
  · rintro ws ⟨signed, split⟩ vs ⟨otherSigned, otherSplit⟩
    exact split_unique (split.trans otherSplit.symm) signed otherSigned
  · refine readNormal_ok_iff.trans (exists_congr fun ws => ?_)
    constructor
    · rintro ⟨split, good, square, totals⟩
      have some : ws ≠ [] := by
        rintro rfl
        exact square rfl
      exact ⟨some, split, good, square, totals⟩
    · rintro ⟨-, split, good, square, totals⟩
      exact ⟨split, good, square, totals⟩

/-!
What a reading notes: the terms that are completed before the first error, each under its power, and
the result if there is one.
-/

/-- How a text is read: the terms noted on the way, as they are written, and what comes of it. Terms
above the square are never noted; one whose sum leaves the range is the last. -/
inductive Course : List Char → List Written → Except ParseError Trinomial → Prop where
  | accepted {ws : List Written} {t : Trinomial} (good : Faultless ws) (square : total 2 ws ≠ 0)
      (totals : Totals t ws) : Course (written ws) ws (.ok t)
  | noSquare {ws : List Written} (good : Faultless ws) (vanishes : total 2 ws = 0) :
      Course (written ws) ws (.error .notQuadratic)
  | halted {ws last : List Written} {rest : List Char} {e : ParseError} (good : Faultless ws)
      (ended : Ended ws rest) (halts : Halts ws rest e last) :
      Course (written ws ++ rest) (ws ++ last) (.error e)

def notes (marks : List (Term × Degree)) : List Log.Record :=
  marks.map fun mark => .termRead mark.1 mark.2

def closing (normalized : String) : Except ParseError Trinomial → List Log.Record
  | .ok t => [.parsed normalized t]
  | .error _ => []

/-- How a log shows a term that was read, with the slot of its sum, which is its exponent. -/
def shownTerm (term : Term) : String × String :=
  ("TRACE", "term " ++ term.text ++ " -> slot " ++ Text.intText term.exponent.val)

def shownResult (normalized : String) : Except ParseError Trinomial → List (String × String)
  | .ok t => [("DEBUG", "parsed " ++ Text.quoted normalized ++ " as " ++ t.text)]
  | .error _ => []

/-- The exact sum of the coefficients that are noted under one power. -/
def slotTotal (degree : Degree) : List (Term × Degree) → Int
  | [] => 0
  | mark :: marks =>
    (if mark.2 = degree then mark.1.coefficient.val else 0) + slotTotal degree marks

theorem course_exists (chars : List Char) : ∃ traced outcome, Course chars traced outcome := by
  rcases written_or_fault chars with ⟨ws, good, rfl⟩ | ⟨ws, rest, e, good, ended, rfl, fault⟩
  · rcases readNormal_written good with ⟨vanishes, -⟩ | ⟨square, t, -, totals⟩
    · exact ⟨_, _, .noSquare good vanishes⟩
    · exact ⟨_, _, .accepted good square totals⟩
  · obtain ⟨last, halts⟩ := halts_of_fault fault
    exact ⟨_, _, .halted good ended halts⟩

theorem readNormal_log (chars : List Char) :
    (readNormal chars).log =
      notes (readTerms true .empty (.start chars)).terms ++
        closing (String.ofList chars) (readNormal chars).outcome := by
  simp only [readNormal, notes]
  cases (readTerms true .empty (.start chars)).outcome with
  | error e => simp [closing]
  | ok sums => cases found : sums.trinomial <;> simp [closing, found]

theorem course_marks {chars : List Char} {traced : List Written}
    {outcome : Except ParseError Trinomial} (course : Course chars traced outcome) :
    (readNormal chars).outcome = outcome ∧
      Marks traced (readTerms true .empty (.start chars)).terms := by
  cases course with
  | accepted good square totals =>
    obtain ⟨sums, marks, -, marked, whole⟩ := readTerms_whole good
    exact ⟨readNormal_ok good square totals, by rwa [Cursor.start, whole]⟩
  | noSquare good vanishes =>
    obtain ⟨sums, marks, -, marked, whole⟩ := readTerms_whole good
    exact ⟨readNormal_error_iff.mpr (.inr ⟨rfl, _, good, rfl, vanishes⟩), by rwa [Cursor.start, whole]⟩
  | halted good ended halts =>
    obtain ⟨marks, marked, stopped⟩ := readTerms_halted good ended halts
    exact ⟨readNormal_of_error (by rw [stopped]), by rwa [Cursor.start, stopped]⟩

theorem course_totals {chars : List Char} {traced : List Written} {t : Trinomial}
    (course : Course chars traced (.ok t)) : Totals t traced := by
  cases course with
  | accepted _ _ totals => exact totals

theorem slotTotal_eq {ws : List Written} {marks : List (Term × Degree)} (marked : Marks ws marks)
    (degree : Degree) : slotTotal degree marks = total degree.toNat ws := by
  have apart : ∀ other : Degree, other = degree ↔ other.toNat = degree.toNat := by
    intro other
    cases other <;> cases degree <;> decide
  induction marked with
  | nil => rfl
  | @cons w mark ws marks first others ih =>
    obtain ⟨denotes, power⟩ := first
    simp only [total, slotTotal, ih, apart, power, denotes.1]

theorem shown_notes {ws : List Written} {marks : List (Term × Degree)} (marked : Marks ws marks) :
    (notes marks).map Log.Record.shown = marks.map fun mark => shownTerm mark.1 := by
  rw [notes, List.map_map]
  induction marked with
  | nil => rfl
  | @cons w mark ws marks first others ih =>
    obtain ⟨⟨-, exponent⟩, power⟩ := first
    have slot : Text.natText mark.2.toNat = Text.intText mark.1.exponent.val := by
      rw [exponent, ← power]
      rfl
    rw [List.map_cons, List.map_cons, ih, shownTerm, ← slot]
    rfl

theorem shown_closing (normalized : String) (outcome : Except ParseError Trinomial) :
    (closing normalized outcome).map Log.Record.shown = shownResult normalized outcome := by
  cases outcome <;> rfl

/-- A reading notes the terms of its course and, if it succeeds, its result; and then the noted terms
of each power sum to the coefficient. -/
theorem read_course {raw : String} {traced : List Written} {outcome : Except ParseError Trinomial}
    (course : Course (Text.normalChars raw.toList) traced outcome) :
    (read raw).outcome = outcome ∧ ∃ marks, Marks traced marks ∧
      (read raw).log = notes marks ++ closing (Text.normalize raw) outcome ∧
      (read raw).log.map Log.Record.shown =
        (marks.map fun mark => shownTerm mark.1) ++ shownResult (Text.normalize raw) outcome ∧
      ∀ t, outcome = .ok t → t.a.val = slotTotal .square marks ∧
        t.b.val = slotTotal .linear marks ∧ t.c.val = slotTotal .constant marks := by
  obtain ⟨same, marked⟩ := course_marks course
  have log : (read raw).log = _ := same ▸ readNormal_log _
  refine ⟨same, _, marked, log, ?_, ?_⟩
  · rw [log, List.map_append, shown_notes marked, shown_closing]
    rfl
  rintro t rfl
  simp only [slotTotal_eq marked]
  exact course_totals course

end Parabola.Equation
