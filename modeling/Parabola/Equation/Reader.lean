import Parabola.Term

/-!
Reading the terms of an equation from its characters, and why a text is not an equation. Positions
count the characters of the normal form from zero.
-/

namespace Parabola.Equation

inductive Found where
  | char (c : Char)
  | endOfInput
deriving DecidableEq

namespace Found

def message : Found → String
  | char c => String.ofList ['\'', c, '\'']
  | endOfInput => "end of input"

end Found

inductive ParseError where
  /-- A caret without digits after it. -/
  | expectedNumber (position : Nat)
  /-- A term after the first that does not begin with a sign. -/
  | expectedSign (position : Nat) (found : Found)
  /-- Neither a digit nor the unknown where a term has to go on. -/
  | expectedTermStart (position : Nat) (found : Found)
  /-- A complete term of a power that an equation may not hold, in its written form. -/
  | invalidExponent (term : String)
  | notQuadratic
  /-- A number, given by its first digit, that 32 signed bits do not hold. -/
  | numberTooLarge (position : Nat)
  | coefficientOverflow (exponent : Signed32)
  | merge (error : MergeError)
deriving DecidableEq

namespace ParseError

def message : ParseError → String
  | expectedNumber position => "expected a number at position " ++ Text.natText position
  | expectedSign position found =>
    "expected +/- at position " ++ Text.natText position ++ " of the equation but found "
      ++ found.message
  | expectedTermStart position found =>
    "expected x/digit at position " ++ Text.natText position ++ " of the equation but found "
      ++ found.message
  | invalidExponent term => "invalid term: " ++ term
  | notQuadratic => "this equation is not a quadratic equation"
  | numberTooLarge position => "number at position " ++ Text.natText position ++ " is too large"
  | coefficientOverflow exponent =>
    "coefficient of x^" ++ Text.intText exponent.val ++ " overflows"
  | merge error => error.message

end ParseError

/-- The characters left to read and how many were read before them. -/
structure Cursor where
  rest : List Char
  position : Nat
deriving DecidableEq

namespace Cursor

def start (chars : List Char) : Cursor := ⟨chars, 0⟩

def found (cursor : Cursor) : Found :=
  match cursor.rest with
  | [] => .endOfInput
  | c :: _ => .char c

def skip? (expected : Char) (cursor : Cursor) : Option Cursor :=
  match cursor.rest with
  | [] => none
  | c :: rest => if c = expected then some ⟨rest, cursor.position + 1⟩ else none

def atDigit (cursor : Cursor) : Bool :=
  match cursor.rest with
  | [] => false
  | c :: _ => c.isDigit

def atLetter (cursor : Cursor) : Bool := (cursor.skip? Term.letter).isSome

end Cursor

/-!
Unsigned numbers in an equation: the longest run of digits at a place. A run is given up as soon as
its value is too large for any sign, however many digits follow.
-/

/-- The greatest magnitude that a number may have: 2^31, which only a minus sign makes fit. -/
def magnitudeLimit : Nat := 2147483648

/-- Reads on in a run of digits that began at position `start` and has the value `value` so far. -/
def readDigits (start value : Nat) : List Char → Nat → Except ParseError (Nat × Cursor)
  | [], position => .ok (value, ⟨[], position⟩)
  | c :: rest, position =>
    if c.isDigit then
      if magnitudeLimit < value * 10 + Text.digitValue c then .error (.numberTooLarge start)
      else readDigits start (value * 10 + Text.digitValue c) rest (position + 1)
    else .ok (value, ⟨c :: rest, position⟩)

/-- The value of the run of digits at a place and the place after it. An empty run is no number. -/
def readNumber (cursor : Cursor) : Except ParseError (Nat × Cursor) :=
  if cursor.atDigit then readDigits cursor.position 0 cursor.rest cursor.position
  else .error (.expectedNumber cursor.position)

/-- A number with its sign, if 32 signed bits hold it; `start` is the position of its first digit. -/
def narrow (start : Nat) (value : Int) : Except ParseError Signed32 :=
  match Signed32.ofInt? value with
  | some number => .ok number
  | none => .error (.numberTooLarge start)

/-!
Reading one term: a sign, digits, the unknown, a caret and an exponent, where the sign may be left
out before the first term and either the digits or the unknown may be left out. A reader returns
what it read and the place after it; `readTerm_advances` says that a term is never empty.
-/

/-- Whether the term is negative. Only the first term may do without a sign. -/
def readSign (first : Bool) (cursor : Cursor) : Except ParseError (Bool × Cursor) :=
  match cursor.skip? '+' with
  | some next => .ok (false, next)
  | none =>
    match cursor.skip? '-' with
    | some next => .ok (true, next)
    | none =>
      if first then .ok (false, cursor)
      else .error (.expectedSign cursor.position cursor.found)

def signed (negative : Bool) (magnitude : Nat) : Int :=
  if negative then -(magnitude : Int) else magnitude

def unit (negative : Bool) : Signed32 := if negative then .minusOne else .one

/-- The coefficient under a sign; without digits it is one. -/
def readCoefficient (negative : Bool) (cursor : Cursor) : Except ParseError (Signed32 × Cursor) :=
  if cursor.atDigit then
    match readNumber cursor with
    | .error e => .error e
    | .ok (magnitude, next) =>
      match narrow cursor.position (signed negative magnitude) with
      | .error e => .error e
      | .ok coefficient => .ok (coefficient, next)
  else .ok (unit negative, cursor)

/-- The exponent: none is written for a constant, and none after a bare unknown. -/
def readExponent (cursor : Cursor) : Except ParseError (Signed32 × Cursor) :=
  match cursor.skip? Term.letter with
  | none => .ok (Degree.constant.exponent, cursor)
  | some afterLetter =>
    match afterLetter.skip? Term.caret with
    | none => .ok (Degree.linear.exponent, afterLetter)
    | some afterCaret =>
      match readNumber afterCaret with
      | .error e => .error e
      | .ok (magnitude, next) =>
        match narrow afterCaret.position magnitude with
        | .error e => .error e
        | .ok exponent => .ok (exponent, next)

def readBody (negative : Bool) (cursor : Cursor) : Except ParseError (Term × Cursor) :=
  if cursor.atLetter || cursor.atDigit then
    match readCoefficient negative cursor with
    | .error e => .error e
    | .ok (coefficient, afterCoefficient) =>
      match readExponent afterCoefficient with
      | .error e => .error e
      | .ok (exponent, next) => .ok (⟨coefficient, exponent⟩, next)
  else .error (.expectedTermStart cursor.position cursor.found)

def readTerm (first : Bool) (cursor : Cursor) : Except ParseError (Term × Cursor) :=
  match readSign first cursor with
  | .error e => .error e
  | .ok (negative, next) => readBody negative next

/-! Every reader leaves a tail of what it was given, and a term takes at least one character. -/

theorem skip?_length {expected : Char} {cursor next : Cursor}
    (skipped : cursor.skip? expected = some next) :
    next.rest.length + 1 = cursor.rest.length := by
  unfold Cursor.skip? at skipped
  split at skipped
  · cases skipped
  · next c rest shape =>
    split at skipped
    · cases skipped; simp [shape]
    · cases skipped

theorem readDigits_length {start value : Nat} {chars : List Char} {position read : Nat}
    {next : Cursor} (done : readDigits start value chars position = .ok (read, next)) :
    next.rest.length ≤ chars.length := by
  induction chars generalizing value position with
  | nil => cases done; exact Nat.le_refl _
  | cons c rest ih =>
    unfold readDigits at done
    split at done
    · split at done
      · cases done
      · have shorter := ih done
        simp only [List.length_cons]
        omega
    · cases done; exact Nat.le_refl _

theorem readNumber_length {cursor next : Cursor} {read : Nat}
    (done : readNumber cursor = .ok (read, next)) :
    next.rest.length < cursor.rest.length := by
  unfold readNumber at done
  split at done
  · next digit =>
    unfold Cursor.atDigit at digit
    split at digit
    · cases digit
    · next c rest shape =>
      rw [shape] at done
      unfold readDigits at done
      rw [if_pos digit] at done
      split at done
      · cases done
      · have shorter := readDigits_length done
        simp only [shape, List.length_cons]
        omega
  · cases done

theorem readSign_length {first negative : Bool} {cursor next : Cursor}
    (done : readSign first cursor = .ok (negative, next)) :
    next.rest.length ≤ cursor.rest.length := by
  unfold readSign at done
  split at done
  · next skipped => cases done; have := skip?_length skipped; omega
  · split at done
    · next skipped => cases done; have := skip?_length skipped; omega
    · split at done
      · cases done; exact Nat.le_refl _
      · cases done

theorem readCoefficient_length {negative : Bool} {cursor next : Cursor} {coefficient : Signed32}
    (done : readCoefficient negative cursor = .ok (coefficient, next)) :
    next.rest.length ≤ cursor.rest.length ∧
      (cursor.atDigit = true → next.rest.length < cursor.rest.length) ∧
      (cursor.atDigit = false → next = cursor) := by
  unfold readCoefficient at done
  split at done
  · next digit =>
    split at done
    · cases done
    · next number =>
      split at done
      · cases done
      · cases done
        have shorter := readNumber_length number
        exact ⟨Nat.le_of_lt shorter, fun _ => shorter, fun none => by simp [digit] at none⟩
  · next noDigit =>
    cases done
    exact ⟨Nat.le_refl _, fun digit => absurd digit noDigit, fun _ => rfl⟩

theorem readExponent_length {cursor next : Cursor} {exponent : Signed32}
    (done : readExponent cursor = .ok (exponent, next)) :
    next.rest.length ≤ cursor.rest.length ∧
      (cursor.atLetter = true → next.rest.length < cursor.rest.length) := by
  unfold readExponent at done
  split at done
  · next none =>
    cases done
    exact ⟨Nat.le_refl _, fun letter => by simp [Cursor.atLetter, none] at letter⟩
  · next letter =>
    have one := skip?_length letter
    split at done
    · cases done; exact ⟨by omega, fun _ => by omega⟩
    · next caret =>
      have two := skip?_length caret
      split at done
      · cases done
      · next number =>
        have three := readNumber_length number
        split at done
        · cases done
        · cases done; exact ⟨by omega, fun _ => by omega⟩

/-- A term that was read took at least one character. -/
theorem readTerm_advances {first : Bool} {cursor next : Cursor} {term : Term}
    (done : readTerm first cursor = .ok (term, next)) :
    next.rest.length < cursor.rest.length := by
  unfold readTerm at done
  split at done
  · cases done
  · next signRead =>
    have sign := readSign_length signRead
    unfold readBody at done
    split at done
    · next begins =>
      split at done
      · cases done
      · next coefficientRead =>
        have coefficient := readCoefficient_length coefficientRead
        split at done
        · cases done
        · next exponentRead =>
          have exponent := readExponent_length exponentRead
          cases done
          cases digit : Cursor.atDigit _ with
          | true =>
            have := coefficient.2.1 digit
            omega
          | false =>
            have same := coefficient.2.2 digit
            simp only [digit, Bool.or_false] at begins
            rw [same] at exponent
            have := exponent.2 begins
            omega
    · cases done

end Parabola.Equation
