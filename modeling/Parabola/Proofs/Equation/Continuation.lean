import Parabola.Proofs.Equation.Display
import Parabola.Proofs.Equation.Refusal

/-!
Reading from a later position. The position of a place has no part in what is read there; it only
enters the positions in errors. So a plus sign put before a text that begins without a sign, which
the first term may do without, changes nothing but those positions.
-/

namespace Parabola.Equation

def Cursor.moved (places : Nat) (cursor : Cursor) : Cursor :=
  ⟨cursor.rest, cursor.position + places⟩

/-- The same error so many places further on. Only an error that has a position is changed. -/
def ParseError.moved (places : Nat) : ParseError → ParseError
  | expectedNumber position => expectedNumber (position + places)
  | expectedSign position found => expectedSign (position + places) found
  | expectedTermStart position found => expectedTermStart (position + places) found
  | numberTooLarge position => numberTooLarge (position + places)
  | other => other

def TermsRead.moved (places : Nat) (read : TermsRead) : TermsRead :=
  ⟨read.terms, read.outcome.mapError (ParseError.moved places)⟩

/-! Terms -/

theorem fault_moved (places : Nat) {first : Bool} {position : Nat} {chars : List Char}
    {e : ParseError} (fault : TermFault first position chars e) :
    TermFault first (position + places) chars (e.moved places) := by
  cases fault with
  | noSign later clear => exact .noSign later clear
  | noStart stands clear =>
    rw [ParseError.moved, Nat.add_right_comm]
    exact .noStart stands clear
  | largeCoefficient leads after outside =>
    rw [ParseError.moved, Nat.add_right_comm]
    exact .largeCoefficient leads after outside
  | noExponent leads fits after =>
    rw [ParseError.moved, Nat.add_right_comm]
    exact .noExponent leads fits after
  | largeExponent leads fits after outside =>
    rw [ParseError.moved, Nat.add_right_comm]
    exact .largeExponent leads fits after outside

theorem readTerm_moved (places : Nat) (first : Bool) (cursor : Cursor) :
    readTerm first (cursor.moved places) =
      match readTerm first cursor with
      | .error e => .error (e.moved places)
      | .ok (term, next) => .ok (term, next.moved places) := by
  rcases cursor with ⟨chars, position⟩
  rcases term_or_fault first position chars with
    ⟨w, term, rest, rfl, leads, ends, denotes⟩ | ⟨e, fault⟩
  · rw [Cursor.moved, readTerm_written position leads ends denotes,
      readTerm_written (position + places) leads ends denotes, Nat.add_right_comm]
    rfl
  · rw [Cursor.moved, readTerm_fault fault, readTerm_fault (fault_moved places fault)]

theorem add_error_moved (places : Nat) {sums : Sums} {degree : Degree} {term : Term}
    {e : ParseError} (refused : sums.add degree term = .error e) : e.moved places = e := by
  unfold Sums.add at refused
  split at refused
  · cases refused
  · split at refused <;> cases refused <;> rfl

theorem trinomial_error_moved (places : Nat) (sums : Sums) :
    sums.trinomial.mapError (ParseError.moved places) = sums.trinomial := by
  unfold Sums.trinomial
  split <;> rfl

-- With the plus sign the first term begins where it begins without it, one place further on.
theorem readTerm_plus {chars : List Char} (position : Nat) (unsigned : NotAhead isSign chars) :
    readTerm true ⟨'+' :: chars, position⟩ = readTerm true ⟨chars, position + 1⟩ := by
  have plus : readSign true ⟨'+' :: chars, position⟩ = .ok (false, ⟨chars, position + 1⟩) :=
    readSign_written position
      (show Sign.plus.CanStand true chars from fun omitted => by cases omitted)
  have omitted : readSign true ⟨chars, position + 1⟩ = .ok (false, ⟨chars, position + 1⟩) :=
    readSign_written (position + 1)
      (show Sign.omitted.CanStand true chars from fun _ => ⟨rfl, unsigned⟩)
  simp only [readTerm, plus, omitted]

/-! The loop -/

theorem moved_more (places : Nat) {cursor : Cursor} (more : cursor.rest ≠ []) :
    (cursor.moved places).rest ≠ [] := more

theorem readTerms_moved (places : Nat) (first : Bool) (sums : Sums) (cursor : Cursor) :
    readTerms first sums (cursor.moved places) = (readTerms first sums cursor).moved places := by
  -- Both runs take the same terms, so the induction is on the turns of the run that is not moved.
  fun_induction readTerms first sums cursor with
  | case1 first sums cursor atEnd =>
    rw [readTerms, if_pos (show (cursor.moved places).rest = [] from atEnd)]
    rfl
  | case2 first sums cursor more e refused =>
    simp only [readTerms_turn (moved_more places more), readTerm_moved, refused]
    rfl
  | case3 first sums cursor more term next taken high =>
    simp only [readTerms_turn (moved_more places more), readTerm_moved, taken, high]
    rfl
  | case4 first sums cursor more term next taken degree permitted e refused =>
    simp only [readTerms_turn (moved_more places more), readTerm_moved, taken, permitted, refused,
      TermsRead.moved, Except.mapError, add_error_moved places refused]
  | case5 first sums cursor more term next taken degree permitted grown added shorter later ih =>
    simp only [readTerms_turn (moved_more places more), readTerm_moved, taken, permitted, added,
      ih]
    rfl

theorem readTerms_plus (sums : Sums) {chars : List Char} (some : chars ≠ []) (position : Nat)
    (unsigned : NotAhead isSign chars) :
    readTerms true sums ⟨'+' :: chars, position⟩ = readTerms true sums ⟨chars, position + 1⟩ := by
  rw [readTerms_turn (List.cons_ne_nil '+' chars), readTerm_plus position unsigned,
    ← readTerms_turn some]

/-! Whole texts -/

theorem readNormal_plus {chars : List Char} (some : chars ≠ [])
    (unsigned : NotAhead isSign chars) :
    (readNormal ('+' :: chars)).outcome =
      (readNormal chars).outcome.mapError (ParseError.moved 1) := by
  have moved : readTerms true .empty (.start ('+' :: chars)) =
      (readTerms true .empty (.start chars)).moved 1 :=
    (readTerms_plus .empty some 0 unsigned).trans (readTerms_moved 1 true .empty (.start chars))
  rw [readNormal_outcome, readNormal_outcome, moved, TermsRead.moved]
  cases (readTerms true .empty (.start chars)).outcome with
  | error e => rfl
  | ok sums => exact (trinomial_error_moved 1 sums).symm

theorem normalChars_plus (raw : String) :
    Text.normalChars ("+" ++ raw).toList = '+' :: Text.normalChars raw.toList := by
  have plain : Text.Plain '+' := symbols_plain '+' (by decide)
  rw [String.toList_append]
  change Text.normalChars ('+' :: raw.toList) = _
  rw [Text.normalChars_cons, plain.1, plain.2]
  rfl

/-- A plus sign before a text that has something to read and begins without a sign leaves a
trinomial as it is. An error stays the same one, with what it found or names, and its position, if
it has one, is one greater. -/
theorem plus_shifts {raw : String} (some : Text.normalChars raw.toList ≠ [])
    (unsigned : NotAhead isSign (Text.normalChars raw.toList)) :
    parse ("+" ++ raw) = (parse raw).mapError (ParseError.moved 1) := by
  rw [parse, read, normalChars_plus]
  exact readNormal_plus some unsigned

/-- The missing sign is found one place further on, and the blanks before it do not count. -/
theorem plus_shifts_spaced :
    Text.normalChars " X ^2 = 0".toList ≠ [] ∧
      NotAhead isSign (Text.normalChars " X ^2 = 0".toList) ∧
      parse " X ^2 = 0" = .error (.expectedSign 3 (.char '=')) ∧
      parse "+ X ^2 = 0" = .error (.expectedSign 4 (.char '=')) := by
  have normal : Text.normalChars " X ^2 = 0".toList = "x^2=0".toList := by decide +kernel
  have some : Text.normalChars " X ^2 = 0".toList ≠ [] := by
    rw [normal]
    decide
  have unsigned : NotAhead isSign (Text.normalChars " X ^2 = 0".toList) := by
    rw [normal]
    exact (not_ahead_cons _ _ _).mpr (by decide)
  have refused : parse " X ^2 = 0" = .error (.expectedSign 3 (.char '=')) := by decide +kernel
  have shifted := plus_shifts some unsigned
  rw [refused] at shifted
  exact ⟨some, unsigned, refused, shifted⟩

-- Without anything to read it is not the square but the first term that is missing.
example : parse "" = .error .notQuadratic ∧
    parse "+" = .error (.expectedTermStart 1 .endOfInput) := by decide +kernel

/-!
Texts that go on. An error is fixed once the character that shows it has been read: what comes after
that character is never looked at, and a number that is too large stays so however it goes on. A term
that is refused as a whole must first be known to be whole, so there the text has to go on with a
sign.
-/

/-- The error is fixed whatever follows the text, which has so many characters. What is missing is
seen from a character that stands in its place, not from the end of the text. -/
inductive Fixed (length : Nat) : ParseError → Prop where
  | numberTooLarge (place : Nat) : Fixed length (.numberTooLarge place)
  | expectedSign (place : Nat) (found : Found) : Fixed length (.expectedSign place found)
  | expectedTermStart (place : Nat) (c : Char) : Fixed length (.expectedTermStart place (.char c))
  | expectedNumber {place : Nat} (inside : place < length) : Fixed length (.expectedNumber place)

/-- The error is about a term that was read to its end. -/
inductive OfWholeTerm : ParseError → Prop where
  | invalidExponent (term : String) : OfWholeTerm (.invalidExponent term)
  | coefficientOverflow (exponent : Signed32) : OfWholeTerm (.coefficientOverflow exponent)

/-- Nothing comes, or a sign comes first. -/
def BeginsWithSign (chars : List Char) : Prop := ∀ c ∈ chars.head?, isSign c = true

/-! What comes next -/

section Ahead

variable {kind : Char → Bool} {rest more : List Char}

theorem not_ahead_append (clear : NotAhead kind rest) (follows : rest = [] → NotAhead kind more) :
    NotAhead kind (rest ++ more) := by
  cases rest with
  | nil => exact follows rfl
  | cons c rest => simpa using clear

theorem not_ahead_more (some : rest ≠ []) (clear : NotAhead kind rest) :
    NotAhead kind (rest ++ more) :=
  not_ahead_append clear fun empty => absurd empty some

theorem found_more (some : rest ≠ []) (position other : Nat) :
    (Cursor.mk (rest ++ more) position).found = (Cursor.mk rest other).found := by
  cases rest with
  | nil => exact absurd rfl some
  | cons c rest => rfl

theorem ended_more {ws : List Written} (some : rest ≠ []) (ended : Ended ws rest) :
    Ended ws (rest ++ more) := fun w last => not_ahead_more some (ended w last)

theorem ends_before_sign {w : Written} (ends : w.Ends rest) (signed : BeginsWithSign more) :
    w.Ends (rest ++ more) :=
  not_ahead_append ends fun _ c next => w.body.takes_sign (signed c next)

end Ahead

/-! Numbers that are too large -/

-- The run may go on in what follows, and is then only larger.
theorem run_goes_on (run : Digits) (rest : List Char) :
    ∃ longer tail, run.chars ++ rest = Digits.chars longer ++ tail ∧
      NotAhead Char.isDigit tail ∧ run.value ≤ longer.value := by
  obtain ⟨digits, tail, rfl, inRun, after⟩ := digits_split rest
  let longer : Digits :=
    ⟨run.chars ++ digits, by simp [run.nonempty], by
      rw [List.forall_mem_append]
      exact ⟨run.digits, inRun⟩⟩
  refine ⟨longer, tail, by simp [longer], after, ?_⟩
  have grown := le_runValue (runValue 0 run.chars) digits
  rwa [← runValue_append] at grown

theorem larger_outside (sign : Sign) {magnitude larger : Nat} (grown : magnitude ≤ larger)
    (outside : ¬ InRange (sign.apply magnitude)) : ¬ InRange (sign.apply larger) := by
  rw [beyond_limit_iff] at outside ⊢
  omega

/-! Faults -/

theorem term_fault_goes_on {first : Bool} {position : Nat} {chars : List Char} {e : ParseError}
    (some : chars ≠ []) (fault : TermFault first position chars e)
    (fixed : Fixed (position + chars.length) e) (more : List Char) :
    TermFault first position (chars ++ more) e := by
  cases fault with
  | noSign later clear =>
    rw [← found_more some position position]
    exact .noSign later (not_ahead_more some clear)
  | @noStart sign rest stands clear =>
    have shown : rest ≠ [] := by
      rintro rfl
      cases fixed
    rw [List.append_assoc, ← found_more shown position position]
    exact .noStart (fun omitted => ⟨(stands omitted).1, not_ahead_more shown (stands omitted).2⟩)
      (not_ahead_more shown clear)
  | @largeCoefficient sign run rest leads after outside =>
    obtain ⟨longer, tail, split, maximal, grown⟩ := run_goes_on run (rest ++ more)
    simp only [List.append_assoc, split]
    exact .largeCoefficient leads maximal (larger_outside sign grown outside)
  | @noExponent sign factor rest leads fits after =>
    have shown : rest ≠ [] := by
      rintro rfl
      cases fixed with
      | expectedNumber inside => simp at inside
    rw [List.append_assoc]
    exact .noExponent leads fits (not_ahead_more shown after)
  | @largeExponent sign factor run rest leads fits after outside =>
    obtain ⟨longer, tail, split, maximal, grown⟩ := run_goes_on run (rest ++ more)
    simp only [List.append_assoc, split]
    exact .largeExponent leads fits maximal (larger_outside .omitted grown outside)

/-- A fault that is fixed, or that is one of a whole term with a sign behind it, stays. -/
theorem fault_goes_on {before : List Written} {rest : List Char} {e : ParseError}
    (fault : Fault before rest e) (more : List Char)
    (stays : Fixed ((written before).length + rest.length) e ∨
      OfWholeTerm e ∧ BeginsWithSign more) :
    Fault before (rest ++ more) e := by
  cases fault with
  | term some fault =>
    rcases stays with fixed | ⟨whole, -⟩
    · exact .term (List.append_ne_nil_of_left_ne_nil some more)
        (term_fault_goes_on some fault fixed more)
    · cases whole <;> cases fault
  | @power w term rest leads ends denotes high =>
    rcases stays with fixed | ⟨-, signed⟩
    · cases fixed
    · rw [List.append_assoc]
      exact .power leads (ends_before_sign ends signed) denotes high
  | @sum w term rest leads ends denotes low leaves =>
    rcases stays with fixed | ⟨-, signed⟩
    · cases fixed
    · rw [List.append_assoc]
      exact .sum leads (ends_before_sign ends signed) denotes low leaves

theorem fault_some {before : List Written} {rest : List Char} {e : ParseError}
    (fault : Fault before rest e) : rest ≠ [] := by
  cases fault with
  | term some fault => exact some
  | @power w term rest leads ends denotes high => simp [w.chars_ne_nil]
  | @sum w term rest leads ends denotes low leaves => simp [w.chars_ne_nil]

/-! Whole texts -/

theorem refused_goes_on {chars : List Char} {e : ParseError}
    (refused : (readNormal chars).outcome = .error e) (more : List Char)
    (stays : Fixed chars.length e ∨ OfWholeTerm e ∧ BeginsWithSign more) :
    (readNormal (chars ++ more)).outcome = .error e := by
  rcases readNormal_error_iff.mp refused with
    ⟨ws, rest, good, ended, rfl, fault⟩ | ⟨rfl, -⟩
  · rw [List.length_append] at stays
    rw [List.append_assoc]
    exact readNormal_fault good (ended_more (fault_some fault) ended)
      (fault_goes_on fault more stays)
  · rcases stays with fixed | ⟨whole, -⟩
    · cases fixed
    · cases whole

/-- An error is the same whatever the text goes on with, if it is a number that is too large or if a
character stands where something is missing. An error of a whole term is the same if nothing but
blanks, or a sign, comes next. -/
theorem errors_final {raw : String} {e : ParseError} (refused : parse raw = .error e)
    (more : String) :
    (Fixed (Text.normalChars raw.toList).length e → parse (raw ++ more) = .error e) ∧
    (OfWholeTerm e → BeginsWithSign (Text.normalChars more.toList) →
      parse (raw ++ more) = .error e) := by
  have joined : parse (raw ++ more) = (readNormal
      (Text.normalChars raw.toList ++ Text.normalChars more.toList)).outcome := by
    rw [parse, read, String.toList_append, Text.normalChars_append]
  rw [joined]
  exact ⟨fun fixed => refused_goes_on refused _ (.inl fixed),
    fun whole signed => refused_goes_on refused _ (.inr ⟨whole, signed⟩)⟩

/-- A number that is too large goes on in the second text, and a term ends before its sign. -/
theorem errors_final_across :
    parse "x^2+2147483648" = .error (.numberTooLarge 4) ∧
      parse "x^2+2147483648 5x" = .error (.numberTooLarge 4) ∧
      parse "x^2-5x^4" = .error (.invalidExponent "-5x^4") ∧
      parse "x^2-5x^4 - 1 = 0" = .error (.invalidExponent "-5x^4") := by
  have large : parse "x^2+2147483648" = .error (.numberTooLarge 4) := by decide +kernel
  have high : parse "x^2-5x^4" = .error (.invalidExponent "-5x^4") := by decide +kernel
  have signed : BeginsWithSign (Text.normalChars " - 1 = 0".toList) := by
    have normal : Text.normalChars " - 1 = 0".toList = "-1=0".toList := by decide +kernel
    rw [normal]
    rintro c ⟨⟩
    rfl
  exact ⟨large, (errors_final large " 5x").1 (.numberTooLarge 4), high,
    (errors_final high " - 1 = 0").2 (.invalidExponent _) signed⟩

-- Without a sign the term is another one.
example : parse ("x^2-5x^4" ++ "2") = .error (.invalidExponent "-5x^42") := by decide +kernel

end Parabola.Equation
