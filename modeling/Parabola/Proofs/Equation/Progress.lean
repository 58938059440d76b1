import Mathlib.Tactic.Ring
import Parabola.Proofs.Equation.Run

/-!
The registers that reading needs. However many digits a number has, its value is looked at after
each of them, so it never grows by more than one digit beyond the greatest magnitude. The sign and the
place of a sum then find room as well.
-/

namespace Parabola

def InBits (bits : Nat) (n : Int) : Prop := -2 ^ (bits - 1) ≤ n ∧ n < 2 ^ (bits - 1)

instance (bits : Nat) (n : Int) : Decidable (InBits bits n) := inferInstanceAs (Decidable (_ ∧ _))

theorem in_bits_of_natAbs {bits : Nat} {n : Int} (small : n.natAbs < 2 ^ (bits - 1)) :
    InBits bits n := by
  have power : ((2 ^ (bits - 1) : Nat) : Int) = 2 ^ (bits - 1) := Int.natCast_pow 2 _
  unfold InBits
  omega

namespace Equation

/-- Reads digits as `readDigits` does, in a register that holds no value above its capacity. There
is no result if a step needs a greater one. -/
def readDigitsIn (capacity start value : Nat) :
    List Char → Nat → Option (Except ParseError (Nat × Cursor))
  | [], position => some (.ok (value, ⟨[], position⟩))
  | c :: rest, position =>
    if c.isDigit then
      if capacity < value * 10 + Text.digitValue c then none
      else if magnitudeLimit < value * 10 + Text.digitValue c then
        some (.error (.numberTooLarge start))
      else readDigitsIn capacity start (value * 10 + Text.digitValue c) rest (position + 1)
    else some (.ok (value, ⟨c :: rest, position⟩))

def readNumberIn (capacity : Nat) (cursor : Cursor) : Option (Except ParseError (Nat × Cursor)) :=
  if cursor.atDigit then readDigitsIn capacity cursor.position 0 cursor.rest cursor.position
  else some (.error (.expectedNumber cursor.position))

theorem digitValue_le {c : Char} (digit : c.isDigit = true) : Text.digitValue c ≤ 9 := by
  have bounds : 48 ≤ c.val ∧ c.val ≤ 57 := by simpa [Char.isDigit] using digit
  have last : c.toNat ≤ 57 := UInt32.le_iff_toNat_le.mp bounds.2
  unfold Text.digitValue
  omega

theorem readDigitsIn_eq {start value : Nat} {chars : List Char} {position : Nat}
    (small : value ≤ magnitudeLimit) :
    readDigitsIn (10 * magnitudeLimit + 9) start value chars position =
      some (readDigits start value chars position) := by
  -- A step begins with a value that has been compared with the limit, and adds one digit to it.
  induction chars generalizing value position with
  | nil => rfl
  | cons c rest ih =>
    unfold readDigitsIn readDigits
    by_cases digit : c.isDigit = true
    · have last := digitValue_le digit
      have room : ¬ 10 * magnitudeLimit + 9 < value * 10 + Text.digitValue c := by omega
      rw [if_pos digit, if_pos digit, if_neg room]
      by_cases large : magnitudeLimit < value * 10 + Text.digitValue c
      · rw [if_pos large, if_pos large]
      · rw [if_neg large, if_neg large]
        exact ih (by omega)
    · rw [if_neg digit, if_neg digit]

theorem readNumberIn_eq (cursor : Cursor) :
    readNumberIn (10 * magnitudeLimit + 9) cursor = some (readNumber cursor) := by
  unfold readNumberIn readNumber
  split
  · exact readDigitsIn_eq (Nat.zero_le _)
  · rfl

-- The capacity is used up: a digit behind the greatest magnitude is still taken in.
example : readNumberIn (10 * magnitudeLimit + 8) (.start "21474836489".toList) = none := by decide

theorem readDigits_le {start value read : Nat} {chars : List Char} {position : Nat} {next : Cursor}
    (small : value ≤ magnitudeLimit)
    (done : readDigits start value chars position = .ok (read, next)) : read ≤ magnitudeLimit := by
  induction chars generalizing value position with
  | nil => cases done; exact small
  | cons c rest ih =>
    unfold readDigits at done
    split at done
    · split at done
      · cases done
      · next fits => exact ih (by omega) done
    · cases done; exact small

theorem readNumber_le {cursor next : Cursor} {magnitude : Nat}
    (done : readNumber cursor = .ok (magnitude, next)) : magnitude ≤ magnitudeLimit := by
  unfold readNumber at done
  split at done
  · exact readDigits_le (Nat.zero_le _) done
  · cases done

theorem signed_in_bits {magnitude : Nat} (negative : Bool) (small : magnitude ≤ magnitudeLimit) :
    InBits 64 (signed negative magnitude) := by
  unfold magnitudeLimit at small
  unfold InBits signed
  split <;> omega

theorem degree_slot {term : Term} {degree : Degree} (permitted : term.degree? = some degree) :
    degree.toNat < 3 ∧ term.exponent.val = degree.toNat := by
  refine ⟨by cases degree <;> decide, ?_⟩
  rw [degree_eq_some_iff.mp permitted, degree_exponent_val]

end Equation

end Parabola

/-!
The loop over the terms, turn by turn. Every turn takes a term off the front of what is left, so
the place moves forward inside the text, and after at most as many turns as there are characters
there is no further turn.
-/

namespace Parabola.Equation

/-- The cursor stands at its position in the characters, at most behind the last of them. -/
structure Cursor.StandsIn (chars : List Char) (cursor : Cursor) : Prop where
  inside : cursor.position ≤ chars.length
  rest : cursor.rest = chars.drop cursor.position

theorem start_stands (chars : List Char) : (Cursor.start chars).StandsIn chars where
  inside := Nat.zero_le _
  rest := rfl

structure Cursor.Took (taken : List Char) (cursor next : Cursor) : Prop where
  rest : cursor.rest = taken ++ next.rest
  position : next.position = cursor.position + taken.length

theorem stands_took {chars taken : List Char} {cursor next : Cursor}
    (stands : cursor.StandsIn chars) (took : cursor.Took taken next) : next.StandsIn chars := by
  have split := stands.rest.symm.trans took.rest
  constructor
  · have length := congrArg List.length split
    simp only [List.length_drop, List.length_append] at length
    have inside := stands.inside
    rw [took.position]
    omega
  · rw [took.position, ← List.drop_drop, split, List.drop_left]

theorem readTerm_took {first : Bool} {cursor next : Cursor} {term : Term}
    (taken : readTerm first cursor = .ok (term, next)) :
    ∃ w : Written, cursor.Took w.chars next ∧ w.Denotes term := by
  rcases cursor with ⟨chars, position⟩
  rcases term_or_fault first position chars with
    ⟨w, other, rest, rfl, leads, ends, denotes⟩ | ⟨e, fault⟩
  · rw [readTerm_written position leads ends denotes] at taken
    cases taken
    exact ⟨w, ⟨rfl, rfl⟩, denotes⟩
  · rw [readTerm_fault fault] at taken
    cases taken

theorem readTerm_stands {chars : List Char} {first : Bool} {cursor next : Cursor} {term : Term}
    (stands : cursor.StandsIn chars) (taken : readTerm first cursor = .ok (term, next)) :
    next.StandsIn chars ∧ cursor.position < next.position := by
  obtain ⟨w, took, -⟩ := readTerm_took taken
  refine ⟨stands_took stands took, ?_⟩
  have some := List.length_pos_iff.mpr w.chars_ne_nil
  rw [took.position]
  omega

/-! The loop -/

/-- What the loop has in hand before a term: whether it is the first, the sums and the place. -/
structure Stand where
  first : Bool
  sums : Sums
  cursor : Cursor

namespace Stand

def start (chars : List Char) : Stand := ⟨true, .empty, .start chars⟩

def outcome (stand : Stand) : Except ParseError Sums :=
  (readTerms stand.first stand.sums stand.cursor).outcome

end Stand

/-- One turn of the loop: a term is read and added to the sum of its power. -/
inductive Turn : Stand → Stand → Prop where
  | add {first : Bool} {sums grown : Sums} {cursor next : Cursor} {term : Term} {degree : Degree}
      (more : cursor.rest ≠ []) (taken : readTerm first cursor = .ok (term, next))
      (permitted : term.degree? = some degree) (added : sums.add degree term = .ok grown) :
    Turn ⟨first, sums, cursor⟩ ⟨false, grown, next⟩

inductive Turns : Nat → Stand → Stand → Prop where
  | none (stand : Stand) : Turns 0 stand stand
  | next {turns : Nat} {stand later last : Stand} (turn : Turn stand later)
      (others : Turns turns later last) : Turns (turns + 1) stand last

theorem turn_outcome {stand later : Stand} (turn : Turn stand later) :
    stand.outcome = later.outcome := by
  cases turn with
  | add more taken permitted added =>
    rw [Stand.outcome, readTerms_taken more taken, permitted]
    simp only [added]
    rfl

theorem turn_stands {chars : List Char} {stand later : Stand} (turn : Turn stand later)
    (stands : stand.cursor.StandsIn chars) :
    later.cursor.StandsIn chars ∧ stand.cursor.position < later.cursor.position := by
  cases turn with
  | add more taken permitted added => exact readTerm_stands stands taken

theorem turns_stand {chars : List Char} {turns : Nat} {stand last : Stand}
    (run : Turns turns stand last) (stands : stand.cursor.StandsIn chars) :
    last.cursor.StandsIn chars ∧ stand.cursor.position + turns ≤ last.cursor.position ∧
      stand.outcome = last.outcome := by
  induction run with
  | none stand => exact ⟨stands, Nat.le_refl _, rfl⟩
  | next turn others ih =>
    obtain ⟨after, forward⟩ := turn_stands turn stands
    obtain ⟨inside, far, same⟩ := ih after
    exact ⟨inside, by omega, (turn_outcome turn).trans same⟩

/-- There is no further turn: the text is at its end, or the next term is at fault. -/
inductive Stops : Stand → Prop where
  | atEnd {stand : Stand} (done : stand.cursor.rest = []) (sums : stand.outcome = .ok stand.sums) :
    Stops stand
  | atFault {stand : Stand} {e : ParseError} (refused : stand.outcome = .error e) : Stops stand

theorem turn_or_stop (stand : Stand) : (∃ later, Turn stand later) ∨ Stops stand := by
  rcases stand with ⟨first, sums, cursor⟩
  by_cases more : cursor.rest = []
  · refine .inr (.atEnd more ?_)
    rcases cursor with ⟨chars, position⟩
    subst more
    simp only [Stand.outcome, readTerms_end]
  · cases taken : readTerm first cursor with
    | error e => exact .inr (.atFault (readTerms_refused more taken))
    | ok result =>
      obtain ⟨term, next⟩ := result
      have outcome : (readTerms first sums cursor).outcome = _ := readTerms_taken more taken
      cases permitted : term.degree? with
      | none =>
        rw [permitted] at outcome
        exact .inr (.atFault outcome)
      | some degree =>
        cases added : sums.add degree term with
        | error e =>
          simp only [permitted, added] at outcome
          exact .inr (.atFault outcome)
        | ok grown => exact .inl ⟨_, .add more taken permitted added⟩

theorem turns_stop {chars : List Char} {stand : Stand} (stands : stand.cursor.StandsIn chars) :
    ∃ turns last, Turns turns stand last ∧ Stops last := by
  -- Each turn moves the place, so the induction is on how far it is from the end.
  induction left : chars.length - stand.cursor.position using Nat.strongRecOn
    generalizing stand with
  | ind size ih =>
    rcases turn_or_stop stand with ⟨later, turn⟩ | stops
    · obtain ⟨after, forward⟩ := turn_stands turn stands
      have inside := after.inside
      obtain ⟨turns, last, run, stops⟩ := ih _ (by omega) after rfl
      exact ⟨turns + 1, last, .next turn run, stops⟩
    · exact ⟨0, stand, .none stand, stops⟩

end Parabola.Equation
