import Parabola.Proofs.Equation.Written

/-!
One term read: what the readers of signs, numbers, coefficients and exponents return on the parts of
a written term, and the five ways in which no term can be read. Every text is of one of these kinds
(`term_or_fault`), so the reader of terms is described completely.
-/

namespace Parabola.Equation

/-! Signs -/

def Sign.negative : Sign → Bool
  | .minus => true
  | _ => false

@[simp] theorem signed_negative (sign : Sign) (magnitude : Nat) :
    signed sign.negative magnitude = sign.apply magnitude := by cases sign <;> rfl

theorem unit_negative (sign : Sign) : (unit sign.negative).val = sign.apply 1 := by
  cases sign <;> rfl

/-- A sign is left out only before the first term, and only where no sign stands. -/
def Sign.CanStand (first : Bool) (sign : Sign) (rest : List Char) : Prop :=
  sign = .omitted → first = true ∧ NotAhead isSign rest

theorem readSign_written {first : Bool} {sign : Sign} {rest : List Char} (position : Nat)
    (stands : sign.CanStand first rest) :
    readSign first ⟨sign.chars ++ rest, position⟩ =
      .ok (sign.negative, ⟨rest, position + sign.chars.length⟩) := by
  cases sign with
  | plus => rfl
  | minus => rfl
  | omitted =>
    obtain ⟨allowed, clear⟩ := stands rfl
    cases rest with
    | nil => simp [readSign, Cursor.skip?, Sign.chars, Sign.negative, allowed]
    | cons c rest =>
      simp only [not_ahead_cons, isSign, Bool.or_eq_false_iff, beq_eq_false_iff_ne] at clear
      simp [readSign, Cursor.skip?, Sign.chars, Sign.negative, allowed, clear]

theorem readSign_missing {rest : List Char} (position : Nat) (clear : NotAhead isSign rest) :
    readSign false ⟨rest, position⟩ =
      .error (.expectedSign position (Cursor.mk rest position).found) := by
  cases rest with
  | nil => rfl
  | cons c rest =>
    simp only [not_ahead_cons, isSign, Bool.or_eq_false_iff, beq_eq_false_iff_ne] at clear
    simp [readSign, Cursor.skip?, clear]

/-! Numbers -/

@[simp] theorem runValue_nil (value : Nat) : runValue value [] = value := rfl

@[simp] theorem runValue_cons (value : Nat) (c : Char) (run : List Char) :
    runValue value (c :: run) = runValue (value * 10 + Text.digitValue c) run := by
  simp only [runValue, List.foldl_cons]

-- More digits never make a number smaller, so a number that is too large stays so.
theorem le_runValue (value : Nat) (run : List Char) : value ≤ runValue value run := by
  induction run generalizing value with
  | nil => exact Nat.le_refl _
  | cons c run ih =>
    have grown := ih (value * 10 + Text.digitValue c)
    rw [runValue_cons]
    omega

-- Stopping early is only another way to see that the exact value is too large.
theorem readDigits_run {start value : Nat} {run rest : List Char} (position : Nat)
    (digits : ∀ c ∈ run, c.isDigit = true) (after : NotAhead Char.isDigit rest)
    (small : value ≤ magnitudeLimit) :
    readDigits start value (run ++ rest) position =
      if runValue value run ≤ magnitudeLimit then
        .ok (runValue value run, ⟨rest, position + run.length⟩)
      else .error (.numberTooLarge start) := by
  -- The value so far is small in every step that is reached; a large one has ended the reading.
  induction run generalizing value position with
  | nil =>
    cases rest with
    | nil => simp [readDigits, small]
    | cons c rest => simp [readDigits, small, (not_ahead_cons _ _ _).mp after]
  | cons c run ih =>
    have digit := digits c (by simp)
    rw [List.cons_append, readDigits, if_pos digit, runValue_cons]
    by_cases large : magnitudeLimit < value * 10 + Text.digitValue c
    · have grown := le_runValue (value * 10 + Text.digitValue c) run
      rw [if_pos large, if_neg (by omega)]
    · rw [if_neg large, ih (position + 1) (fun d member => digits d (by simp [member])) (by omega),
        List.length_cons, Nat.add_assoc, Nat.add_comm 1]

theorem at_digit_run (run : Digits) (rest : List Char) (position : Nat) :
    (Cursor.mk (run.chars ++ rest) position).atDigit = true := by
  obtain ⟨c, tail, shape, digit⟩ := run.head
  simp [Cursor.atDigit, shape, digit]

theorem not_at_digit {rest : List Char} (position : Nat) (after : NotAhead Char.isDigit rest) :
    (Cursor.mk rest position).atDigit = false := by
  cases rest with
  | nil => rfl
  | cons c rest => exact (not_ahead_cons _ _ _).mp after

theorem readNumber_run (run : Digits) {rest : List Char} (position : Nat)
    (after : NotAhead Char.isDigit rest) :
    readNumber ⟨run.chars ++ rest, position⟩ =
      if run.value ≤ magnitudeLimit then
        .ok (run.value, ⟨rest, position + run.chars.length⟩)
      else .error (.numberTooLarge position) := by
  rw [readNumber, if_pos (at_digit_run run rest position)]
  exact readDigits_run position run.digits after (Nat.zero_le _)

theorem readNumber_missing {rest : List Char} (position : Nat)
    (after : NotAhead Char.isDigit rest) :
    readNumber ⟨rest, position⟩ = .error (.expectedNumber position) := by
  simp [readNumber, not_at_digit position after]

theorem in_range_iff {n : Int} : InRange n ↔ ∃ number : Signed32, number.val = n := by
  constructor
  · intro bounds
    exact ⟨⟨n, bounds.1, bounds.2⟩, rfl⟩
  · rintro ⟨number, rfl⟩
    exact ⟨number.least_le, number.le_greatest⟩

theorem ofInt?_none_iff {n : Int} : Signed32.ofInt? n = none ↔ ¬ InRange n := by
  rw [in_range_iff, Option.eq_none_iff_forall_ne_some, not_exists]
  exact forall_congr' fun number => not_congr Signed32.ofInt?_eq_some_iff

theorem narrow_ok {number : Signed32} {n : Int} (start : Nat) (same : number.val = n) :
    narrow start n = .ok number := by
  rw [narrow, Signed32.ofInt?_eq_some_iff.mpr same]

theorem narrow_error {n : Int} (start : Nat) (outside : ¬ InRange n) :
    narrow start n = .error (.numberTooLarge start) := by
  rw [narrow, ofInt?_none_iff.mpr outside]

theorem magnitude_le {sign : Sign} {magnitude : Nat} (fits : InRange (sign.apply magnitude)) :
    magnitude ≤ magnitudeLimit := by
  unfold InRange at fits
  unfold magnitudeLimit
  cases sign <;> simp only [Sign.apply] at fits <;> omega

/-! Coefficients and exponents -/

theorem readCoefficient_factor {sign : Sign} {factor : Option Digits} {coefficient : Signed32}
    {rest : List Char} (position : Nat) (after : NotAhead Char.isDigit rest)
    (same : coefficient.val = sign.apply (factorValue factor)) :
    readCoefficient sign.negative ⟨factorChars factor ++ rest, position⟩ =
      .ok (coefficient, ⟨rest, position + (factorChars factor).length⟩) := by
  cases factor with
  | none =>
    have one : unit sign.negative = coefficient :=
      Signed32.ext ((unit_negative sign).trans same.symm)
    simp [readCoefficient, not_at_digit position after, one]
  | some run =>
    have small := magnitude_le (in_range_iff.mpr ⟨coefficient, same⟩)
    simp only [factorValue] at same small
    simp [readCoefficient, at_digit_run, readNumber_run run position after, small,
      narrow_ok position same]

theorem readCoefficient_large {sign : Sign} {run : Digits} {rest : List Char} (position : Nat)
    (after : NotAhead Char.isDigit rest) (outside : ¬ InRange (sign.apply run.value)) :
    readCoefficient sign.negative ⟨run.chars ++ rest, position⟩ =
      .error (.numberTooLarge position) := by
  rw [readCoefficient, if_pos (at_digit_run run rest position), readNumber_run run position after]
  by_cases small : run.value ≤ magnitudeLimit
  · simp [small, narrow_error position outside]
  · simp [small]

theorem readExponent_power {body : Body} {exponent : Signed32} {rest : List Char} (position : Nat)
    (ends : NotAhead body.takes rest) (same : exponent.val = body.exponent) :
    readExponent ⟨body.powerChars ++ rest, position⟩ =
      .ok (exponent, ⟨rest, position + body.powerChars.length⟩) := by
  cases body with
  | constant run =>
    have zero : Degree.constant.exponent = exponent := Signed32.ext same.symm
    cases rest with
    | nil => simp [readExponent, Body.powerChars, Cursor.skip?, zero]
    | cons c rest =>
      have notLetter : c ≠ Term.letter := by
        rintro rfl
        simp [Body.takes] at ends
      simp [readExponent, Body.powerChars, Cursor.skip?, zero, notLetter]
  | linear factor =>
    have one : Degree.linear.exponent = exponent := Signed32.ext same.symm
    cases rest with
    | nil => simp [readExponent, Body.powerChars, Cursor.skip?, one]
    | cons c rest =>
      have notCaret : c ≠ Term.caret := by
        rintro rfl
        simp [Body.takes] at ends
      simp [readExponent, Body.powerChars, Cursor.skip?, one, notCaret]
  | power factor run =>
    have fits : InRange (Sign.apply .omitted run.value) := in_range_iff.mpr ⟨exponent, same⟩
    have small := magnitude_le fits
    have number := readNumber_run run (position + 1 + 1) (ends : NotAhead Char.isDigit rest)
    rw [if_pos small] at number
    have narrowed := narrow_ok (position + 1 + 1) (show exponent.val = (run.value : Int) from same)
    simp [readExponent, Body.powerChars, Cursor.skip?, number, narrowed]
    omega

theorem readExponent_missing {rest : List Char} (position : Nat)
    (after : NotAhead Char.isDigit rest) :
    readExponent ⟨Term.letter :: Term.caret :: rest, position⟩ =
      .error (.expectedNumber (position + 2)) := by
  simp [readExponent, Cursor.skip?, readNumber_missing (position + 1 + 1) after]

theorem readExponent_large {run : Digits} {rest : List Char} (position : Nat)
    (after : NotAhead Char.isDigit rest) (outside : ¬ InRange run.value) :
    readExponent ⟨Term.letter :: Term.caret :: (run.chars ++ rest), position⟩ =
      .error (.numberTooLarge (position + 2)) := by
  simp only [readExponent, Cursor.skip?, ↓reduceIte, readNumber_run run (position + 1 + 1) after]
  by_cases small : run.value ≤ magnitudeLimit
  · simp [small, narrow_error (position + 1 + 1) outside]
  · simp [small]

/-! Terms -/

theorem unit_in_range (sign : Sign) : InRange (sign.apply 1) :=
  in_range_iff.mpr ⟨_, unit_negative sign⟩

theorem at_body (body : Body) (rest : List Char) (position : Nat) :
    ((Cursor.mk (body.chars ++ rest) position).atLetter ||
      (Cursor.mk (body.chars ++ rest) position).atDigit) = true := by
  obtain ⟨c, tail, shape, begins⟩ := body.head
  simp only [beginsBody, Bool.or_eq_true, beq_iff_eq] at begins
  rcases begins with digit | rfl
  · simp [shape, Cursor.atDigit, digit]
  · simp [shape, Cursor.atLetter, Cursor.skip?]

theorem not_at_body {rest : List Char} (position : Nat) (clear : NotAhead beginsBody rest) :
    ((Cursor.mk rest position).atLetter || (Cursor.mk rest position).atDigit) = false := by
  cases rest with
  | nil => rfl
  | cons c rest =>
    simp only [not_ahead_cons, beginsBody, Bool.or_eq_false_iff, beq_eq_false_iff_ne] at clear
    simp [Cursor.atLetter, Cursor.atDigit, Cursor.skip?, clear]

theorem stands_before_body {first : Bool} {sign : Sign} (body : Body) (rest : List Char)
    (leads : sign = .omitted → first = true) : sign.CanStand first (body.chars ++ rest) :=
  fun omitted => ⟨leads omitted, body.sign_not_ahead rest⟩

theorem readTerm_written {first : Bool} {w : Written} {term : Term} {rest : List Char}
    (position : Nat) (leads : w.sign = .omitted → first = true) (ends : w.Ends rest)
    (denotes : w.Denotes term) :
    readTerm first ⟨w.chars ++ rest, position⟩ =
      .ok (term, ⟨rest, position + w.chars.length⟩) := by
  have sign := readSign_written position (stands_before_body w.body rest leads)
  have begins := at_body w.body rest (position + w.sign.chars.length)
  rw [Body.chars, List.append_assoc] at sign begins
  have coefficient := readCoefficient_factor (position + w.sign.chars.length)
    (Body.factor_maximal ends) denotes.1
  have exponent := readExponent_power
    (position + w.sign.chars.length + (factorChars w.body.factor).length) ends denotes.2
  simp only [Written.chars, Body.chars, List.append_assoc, readTerm, sign, readBody, begins,
    ↓reduceIte, coefficient, exponent]
  simp only [List.length_append, Nat.add_assoc]

def caretChars (sign : Sign) (factor : Option Digits) : List Char :=
  sign.chars ++ (factorChars factor ++ [Term.letter, Term.caret])

/-- Why no term can be read at the front of a text that stands at a position. -/
inductive TermFault (first : Bool) (position : Nat) : List Char → ParseError → Prop where
  | noSign {rest : List Char} (later : first = false) (clear : NotAhead isSign rest) :
    TermFault first position rest (.expectedSign position (Cursor.mk rest position).found)
  | noStart {sign : Sign} {rest : List Char} (stands : sign.CanStand first rest)
      (clear : NotAhead beginsBody rest) :
    TermFault first position (sign.chars ++ rest)
      (.expectedTermStart (position + sign.chars.length) (Cursor.mk rest position).found)
  | largeCoefficient {sign : Sign} {run : Digits} {rest : List Char}
      (leads : sign = .omitted → first = true) (after : NotAhead Char.isDigit rest)
      (outside : ¬ InRange (sign.apply run.value)) :
    TermFault first position (sign.chars ++ (run.chars ++ rest))
      (.numberTooLarge (position + sign.chars.length))
  | noExponent {sign : Sign} {factor : Option Digits} {rest : List Char}
      (leads : sign = .omitted → first = true)
      (fits : InRange (sign.apply (factorValue factor))) (after : NotAhead Char.isDigit rest) :
    TermFault first position (caretChars sign factor ++ rest)
      (.expectedNumber (position + (caretChars sign factor).length))
  | largeExponent {sign : Sign} {factor : Option Digits} {run : Digits} {rest : List Char}
      (leads : sign = .omitted → first = true)
      (fits : InRange (sign.apply (factorValue factor))) (after : NotAhead Char.isDigit rest)
      (outside : ¬ InRange run.value) :
    TermFault first position (caretChars sign factor ++ (run.chars ++ rest))
      (.numberTooLarge (position + (caretChars sign factor).length))

-- What comes before an exponent is read without fault, so its number alone decides.
theorem readTerm_exponent {first : Bool} {sign : Sign} {factor : Option Digits}
    {rest : List Char} {e : ParseError} (position : Nat) (leads : sign = .omitted → first = true)
    (fits : InRange (sign.apply (factorValue factor)))
    (refused : readExponent ⟨Term.letter :: Term.caret :: rest,
      position + sign.chars.length + (factorChars factor).length⟩ = .error e) :
    readTerm first ⟨caretChars sign factor ++ rest, position⟩ = .error e := by
  obtain ⟨coefficient, same⟩ := in_range_iff.mp fits
  have shape : caretChars sign factor ++ rest =
      sign.chars ++ ((Body.linear factor).chars ++ Term.caret :: rest) := by
    simp [caretChars]
  have split : (Body.linear factor).chars ++ Term.caret :: rest =
      factorChars factor ++ Term.letter :: Term.caret :: rest := by
    simp
  have read := readSign_written position
    (stands_before_body (.linear factor) (Term.caret :: rest) leads)
  have begins := at_body (.linear factor) (Term.caret :: rest) (position + sign.chars.length)
  rw [split] at read begins
  have letterNext : NotAhead Char.isDigit (Term.letter :: Term.caret :: rest) := by simp
  have coefficientRead :=
    readCoefficient_factor (position + sign.chars.length) letterNext same
  simp only [shape, split, readTerm, read, readBody, begins, ↓reduceIte, coefficientRead, refused]

theorem readTerm_fault {first : Bool} {position : Nat} {chars : List Char} {e : ParseError}
    (fault : TermFault first position chars e) :
    readTerm first ⟨chars, position⟩ = .error e := by
  cases fault with
  | noSign later clear =>
    subst later
    simp only [readTerm, readSign_missing position clear]
  | @noStart sign rest stands clear =>
    have read := readSign_written position stands
    have begins := not_at_body (position + sign.chars.length) clear
    simp only [readTerm, read, readBody, begins]
    cases rest <;> rfl
  | @largeCoefficient sign run rest leads after outside =>
    have shape : run.chars ++ rest = (Body.constant run).chars ++ rest := by
      simp
    have read := readSign_written position (stands_before_body (.constant run) rest leads)
    have begins := at_body (.constant run) rest (position + sign.chars.length)
    have refused := readCoefficient_large (position + sign.chars.length) after outside
    rw [shape] at refused ⊢
    simp only [readTerm, read, readBody, begins, ↓reduceIte, refused]
  | @noExponent sign factor rest leads fits after =>
    rw [readTerm_exponent position leads fits (readExponent_missing _ after)]
    simp [caretChars, Nat.add_assoc]
  | @largeExponent sign factor run rest leads fits after outside =>
    rw [readTerm_exponent position leads fits (readExponent_large _ after outside)]
    simp [caretChars, Nat.add_assoc]

/-- At the front of every text stands a whole term within the limits, or one of the faults. -/
theorem term_or_fault (first : Bool) (position : Nat) (chars : List Char) :
    (∃ w term rest, chars = Written.chars w ++ rest ∧ (w.sign = .omitted → first = true) ∧
      w.Ends rest ∧ w.Denotes term) ∨ ∃ e, TermFault first position chars e := by
  -- Sign, factor and power are split off in turn, in the order in which the reader checks them.
  obtain ⟨sign, afterSign, rfl, clear⟩ := sign_split chars
  by_cases leads : sign = .omitted → first = true
  · obtain ⟨factor, afterFactor, rfl, afterDigits⟩ := factor_split afterSign
    by_cases fits : InRange (sign.apply (factorValue factor))
    · obtain ⟨coefficient, same⟩ := in_range_iff.mp fits
      rcases power_split afterDigits with begins | ⟨rest, rfl, ends⟩ | ⟨rest, rfl, none⟩ |
        ⟨run, rest, rfl, ends⟩
      · cases factor with
        | none => exact .inr ⟨_, .noStart (fun omitted => ⟨leads omitted, clear omitted⟩) begins⟩
        | some run =>
          refine .inl ⟨⟨sign, .constant run⟩, ⟨coefficient, .zero⟩, afterFactor, ?_, leads, begins,
            same, rfl⟩
          simp [Written.chars]
      · refine .inl ⟨⟨sign, .linear factor⟩, ⟨coefficient, .one⟩, rest, ?_, leads, ends, same, rfl⟩
        simp [Written.chars]
      · have fault : TermFault first position _ _ := .noExponent leads fits none
        exact .inr ⟨_, by simpa [caretChars] using fault⟩
      · by_cases small : InRange run.value
        · obtain ⟨exponent, exponentSame⟩ := in_range_iff.mp small
          refine .inl ⟨⟨sign, .power factor run⟩, ⟨coefficient, exponent⟩, rest, ?_, leads, ends,
            same, exponentSame⟩
          simp [Written.chars]
        · have fault : TermFault first position _ _ := .largeExponent leads fits ends small
          exact .inr ⟨_, by simpa [caretChars] using fault⟩
    · cases factor with
      | none => exact absurd (unit_in_range sign) fits
      | some run => exact .inr ⟨_, .largeCoefficient leads afterDigits fits⟩
  · -- The sign is missing before a term that is not the first.
    obtain ⟨omitted, later⟩ := Classical.not_imp.mp leads
    subst omitted
    exact .inr ⟨_, .noSign (by simpa using later) (clear rfl)⟩

end Parabola.Equation
