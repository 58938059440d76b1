import Mathlib.Data.List.Induction
import Parabola.Proofs.Equation.Run

/-!
The place of a syntax error. A machine with six stages follows the grammar character by character.
It never stops inside a text of the grammar, and it stops at the place of every syntax error: what
comes before that place can still become an equation, and with one character more nothing can.
-/

namespace Parabola.Equation

/-- How far the characters so far have come in a term. -/
inductive Stage where
  | start
  | signed
  | factor
  | letter
  | caret
  | exponent
deriving DecidableEq

namespace Stage

def complete : Stage → Bool
  | factor | letter | exponent => true
  | start | signed | caret => false

def nextTerm (c : Char) : Option Stage := if isSign c then some signed else none

def nextBody (c : Char) : Option Stage :=
  if c.isDigit then some factor else if c = Term.letter then some letter else none

/-- The stage after one more character, if a text of the grammar can go on with it. -/
def next (c : Char) : Stage → Option Stage
  | start => if isSign c then some signed else nextBody c
  | signed => nextBody c
  | factor =>
    if c.isDigit then some factor else if c = Term.letter then some letter else nextTerm c
  | letter => if c = Term.caret then some caret else nextTerm c
  | caret => if c.isDigit then some exponent else none
  | exponent => if c.isDigit then some exponent else nextTerm c

end Stage

def walk : Stage → List Char → Option Stage
  | stage, [] => some stage
  | stage, c :: rest => (stage.next c).bind (walk · rest)

theorem walk_append (stage : Stage) (chars more : List Char) :
    walk stage (chars ++ more) = (walk stage chars).bind (walk · more) := by
  induction chars generalizing stage with
  | nil => rfl
  | cons c chars ih =>
    simp only [List.cons_append, walk]
    cases stage.next c with
    | none => rfl
    | some after => exact ih after

theorem walk_through {stage middle : Stage} {chars more : List Char}
    (front : walk stage chars = some middle) :
    walk stage (chars ++ more) = walk middle more := by
  rw [walk_append, front]
  rfl

/-! Texts of the grammar -/

theorem walk_run {stage landing : Stage} (run : Digits)
    (enter : ∀ c, c.isDigit = true → stage.next c = some landing)
    (stay : ∀ c, c.isDigit = true → landing.next c = some landing) :
    walk stage run.chars = some landing := by
  have loop : ∀ chars, (∀ c ∈ chars, c.isDigit = true) → walk landing chars = some landing := by
    intro chars digits
    induction chars with
    | nil => rfl
    | cons c chars ih =>
      rw [walk, stay c (digits c (by simp))]
      exact ih fun d member => digits d (by simp [member])
  obtain ⟨c, rest, shape, digit⟩ := run.head
  rw [shape, walk, enter c digit]
  exact loop rest fun d member => run.digits d (by simp [shape, member])

def Sign.stage : Sign → Stage
  | .omitted => .start
  | _ => .signed

def Body.stage : Body → Stage
  | .constant _ => .factor
  | .linear _ => .letter
  | .power _ _ => .exponent

theorem body_complete (body : Body) : body.stage.complete = true := by cases body <;> rfl

theorem sign_follows {stage : Stage} {c : Char} (ready : stage = .start ∨ stage.complete = true)
    (sign : isSign c = true) : stage.next c = some .signed := by
  have notDigit : c.isDigit = false := by
    cases digit : c.isDigit with
    | false => rfl
    | true => simp [digit_not_sign digit] at sign
  have notLetter : c ≠ Term.letter := by
    rintro rfl
    simp at sign
  have notCaret : c ≠ Term.caret := by
    rintro rfl
    revert sign
    decide
  rcases ready with rfl | complete
  · simp [Stage.next, sign]
  · cases stage <;>
      simp [Stage.complete, Stage.next, Stage.nextTerm, sign, notDigit, notLetter, notCaret]
        at complete ⊢

-- A sign can follow whole terms, and can be left out only where nothing precedes.
theorem walk_sign {stage : Stage} {sign : Sign} (ready : stage = .start ∨ stage.complete = true)
    (leads : sign = .omitted → stage = .start) : walk stage sign.chars = some sign.stage := by
  by_cases omitted : sign = .omitted
  · rw [leads omitted, omitted]
    rfl
  · obtain ⟨c, shape, isSign⟩ := Sign.head omitted
    rw [shape, walk, sign_follows ready isSign]
    cases sign with
    | omitted => exact absurd rfl omitted
    | plus => rfl
    | minus => rfl

theorem sign_next (sign : Sign) {c : Char} (begins : beginsBody c = true) :
    sign.stage.next c = Stage.nextBody c := by
  have notSign := body_not_sign begins
  cases sign <;> simp [Sign.stage, Stage.next, notSign]

theorem sign_next_digit (sign : Sign) {c : Char} (digit : c.isDigit = true) :
    sign.stage.next c = some .factor := by
  rw [sign_next sign (by simp [beginsBody, digit])]
  simp [Stage.nextBody, digit]

theorem factor_next_digit {c : Char} (digit : c.isDigit = true) :
    Stage.next c .factor = some .factor := by simp [Stage.next, digit]

theorem exponent_next_digit {stage : Stage} {c : Char} (behind : stage = .caret ∨ stage = .exponent)
    (digit : c.isDigit = true) : stage.next c = some .exponent := by
  rcases behind with rfl | rfl <;> simp [Stage.next, digit]

theorem walk_factor (sign : Sign) (factor : Option Digits) :
    walk sign.stage (factorChars factor ++ [Term.letter]) = some .letter := by
  cases factor with
  | none =>
    rw [factorChars_none, List.nil_append, walk, sign_next sign letter_begins_body]
    rfl
  | some run =>
    have digits : walk sign.stage run.chars = some .factor :=
      walk_run run (fun _ => sign_next_digit sign) (fun _ => factor_next_digit)
    rw [factorChars_some, walk_through digits]
    rfl

theorem walk_caret (sign : Sign) (factor : Option Digits) :
    walk sign.stage (factorChars factor ++ [Term.letter, Term.caret]) = some .caret := by
  have split : factorChars factor ++ [Term.letter, Term.caret] =
      (factorChars factor ++ [Term.letter]) ++ [Term.caret] := by simp
  rw [split, walk_through (walk_factor sign factor)]
  rfl

theorem walk_body (sign : Sign) (body : Body) :
    walk sign.stage body.chars = some body.stage := by
  cases body with
  | constant run =>
    rw [Body.chars_constant]
    exact walk_run run (fun _ => sign_next_digit sign) (fun _ => factor_next_digit)
  | linear factor => exact walk_factor sign factor
  | power factor run =>
    have split : (Body.power factor run).chars =
        (factorChars factor ++ [Term.letter]) ++ ([Term.caret] ++ run.chars) := by
      simp
    have caret : walk .letter [Term.caret] = some .caret := rfl
    rw [split, walk_through (walk_factor sign factor), walk_through caret]
    exact walk_run run (fun _ => exponent_next_digit (.inl rfl))
      (fun _ => exponent_next_digit (.inr rfl))

theorem walk_term {stage : Stage} {w : Written} (ready : stage = .start ∨ stage.complete = true)
    (leads : w.sign = .omitted → stage = .start) : walk stage w.chars = some w.body.stage := by
  rw [Written.chars, walk_through (walk_sign ready leads)]
  exact walk_body w.sign w.body

/-- The stage behind terms, which depends on the last of them only. -/
def stageAfter (ws : List Written) : Stage :=
  match ws.getLast? with
  | none => .start
  | some w => w.body.stage

theorem stageAfter_snoc (ws : List Written) (w : Written) :
    stageAfter (ws ++ [w]) = w.body.stage := by simp [stageAfter]

theorem stageAfter_ready (ws : List Written) :
    stageAfter ws = .start ∨ (stageAfter ws).complete = true := by
  unfold stageAfter
  split
  · exact .inl rfl
  · exact .inr (body_complete _)

theorem walk_written {ws : List Written} (signed : SignedLater ws) :
    walk .start (written ws) = some (stageAfter ws) := by
  -- From the right, since it is the last term whose stage remains.
  induction ws using List.reverseRecOn with
  | nil => rfl
  | append_singleton ws w ih =>
    obtain ⟨earlier, last⟩ := signed_later_append.mp signed
    have leads : w.sign = .omitted → stageAfter ws = .start := by
      intro omitted
      by_cases empty : ws = []
      · rw [empty]
        rfl
      · exact absurd omitted (last w (by simp [empty]))
    rw [written_append, walk_through (ih earlier), stageAfter_snoc, written_cons, written_nil,
      List.append_nil]
    exact walk_term (stageAfter_ready ws) leads

theorem walk_written_sign {ws : List Written} {sign : Sign} (signed : SignedLater ws)
    (leads : sign = .omitted → ws = []) :
    walk .start (written ws ++ sign.chars) = some sign.stage := by
  have start : sign = .omitted → stageAfter ws = .start := by
    intro omitted
    rw [leads omitted]
    rfl
  rw [walk_through (walk_written signed)]
  exact walk_sign (stageAfter_ready ws) start

theorem sentence_walk {chars : List Char} (sentence : Sentence chars) :
    ∃ stage, walk .start chars = some stage ∧ stage.complete = true := by
  obtain ⟨ws, some, signed, rfl⟩ := sentence
  refine ⟨stageAfter ws, walk_written signed, ?_⟩
  obtain ⟨w, last⟩ := Option.isSome_iff_exists.mp (List.getLast?_isSome.mpr some)
  rw [stageAfter, last]
  exact body_complete w.body

/-! Places of errors -/

def ParseError.syntaxPlace? : ParseError → Option (Nat × Option Found)
  | expectedSign position found => some (position, some found)
  | expectedTermStart position found => some (position, some found)
  | expectedNumber position => some (position, none)
  | _ => none

/-- The characters before the place begin a text of the grammar. Those up to it and with it begin
none, and if there is none at it, for the characters end there, then they are no such text. -/
structure FirstImpossible (chars : List Char) (place : Nat) : Prop where
  inside : place ≤ chars.length
  before : ∃ more, Sentence (chars.take place ++ more)
  through : place < chars.length → ∀ more, ¬ Sentence (chars.take (place + 1) ++ more)
  whole : place = chars.length → ¬ Sentence chars

/-- What stands at a place: the character there, or the end exactly behind the last one. -/
structure StandsAt (chars : List Char) (place : Nat) (found : Found) : Prop where
  char : ∀ c, found = .char c ↔ chars[place]? = some c
  endOfInput : found = .endOfInput ↔ place = chars.length

theorem stands_at (front rest : List Char) (position : Nat) :
    StandsAt (front ++ rest) front.length (Cursor.mk rest position).found := by
  cases rest with
  | nil => constructor <;> simp [Cursor.found]
  | cons c rest => constructor <;> simp [Cursor.found]

theorem first_impossible {front rest : List Char} {stage : Stage}
    (reach : walk .start front = some stage) (before : ∃ more, Sentence (front ++ more))
    (blocked : ∀ c ∈ rest.head?, stage.next c = none)
    (unfinished : rest = [] → stage.complete = false) :
    FirstImpossible (front ++ rest) front.length where
  inside := by simp
  before := by simpa using before
  through more := by
    intro later sentence
    cases rest with
    | nil => simp at more
    | cons c rest =>
      have split : (front ++ c :: rest).take (front.length + 1) ++ later =
          front ++ c :: later := by simp [List.take_length_add_append]
      rw [split] at sentence
      obtain ⟨last, walked, -⟩ := sentence_walk sentence
      rw [walk_through reach, walk, blocked c rfl] at walked
      cases walked
  whole atEnd := by
    intro sentence
    have empty : rest = [] := by simpa using atEnd
    obtain ⟨last, walked, complete⟩ := sentence_walk sentence
    rw [walk_through reach, empty, walk, Option.some.injEq] at walked
    rw [← walked, unfinished empty] at complete
    cases complete

theorem sentence_snoc {ws : List Written} {w : Written} (signed : SignedLater ws)
    (leads : w.sign = .omitted → ws = []) : Sentence (written ws ++ w.chars) :=
  ⟨ws ++ [w], by simp, signed_later_snoc signed leads, by simp⟩

theorem body_blocked {body : Body} {c : Char} (notTaken : body.takes c = false)
    (notSign : isSign c = false) : body.stage.next c = none := by
  cases body <;> simp only [Body.takes, beginsBody, Bool.or_eq_false_iff, beq_eq_false_iff_ne]
    at notTaken <;> simp [Body.stage, Stage.next, Stage.nextTerm, notTaken, notSign]

theorem sign_blocked {sign : Sign} {c : Char} (clear : beginsBody c = false)
    (notSign : sign = .omitted → isSign c = false) : sign.stage.next c = none := by
  simp only [beginsBody, Bool.or_eq_false_iff, beq_eq_false_iff_ne] at clear
  cases sign with
  | omitted => simp [Sign.stage, Stage.next, Stage.nextBody, clear, notSign rfl]
  | plus => simp [Sign.stage, Stage.next, Stage.nextBody, clear]
  | minus => simp [Sign.stage, Stage.next, Stage.nextBody, clear]

section Sites

variable {ws : List Written} {rest : List Char}

theorem missing_sign_impossible (signed : SignedLater ws) (ended : Ended ws rest) (some : ws ≠ [])
    (more : rest ≠ []) (clear : NotAhead isSign rest) :
    FirstImpossible (written ws ++ rest) (written ws).length := by
  obtain ⟨w, last⟩ := Option.isSome_iff_exists.mp (List.getLast?_isSome.mpr some)
  refine first_impossible (walk_written signed) ?_ ?_ (fun empty => absurd empty more)
  · exact ⟨[], ws, some, signed, by simp⟩
  · intro c next
    rw [stageAfter, last]
    exact body_blocked (ended w last c next) (clear c next)

theorem missing_start_impossible {sign : Sign} (signed : SignedLater ws)
    (stands : sign.CanStand ws.isEmpty rest) (clear : NotAhead beginsBody rest) :
    FirstImpossible (written ws ++ sign.chars ++ rest) (written ws ++ sign.chars).length := by
  have leads : sign = .omitted → ws = [] := fun omitted => by simpa using (stands omitted).1
  refine first_impossible (walk_written_sign signed leads) ?_ ?_ (fun _ => by cases sign <;> rfl)
  · have sentence := sentence_snoc (w := ⟨sign, .linear none⟩) signed leads
    exact ⟨[Term.letter], by
      simpa [Written.chars] using sentence⟩
  · intro c next
    exact sign_blocked (clear c next) fun omitted => (stands omitted).2 c next

theorem missing_exponent_impossible (sign : Sign) (factor : Option Digits)
    (signed : SignedLater ws) (leads : sign = .omitted → ws = [])
    (after : NotAhead Char.isDigit rest) :
    FirstImpossible (written ws ++ caretChars sign factor ++ rest)
      (written ws ++ caretChars sign factor).length := by
  have reach : walk .start (written ws ++ caretChars sign factor) = some .caret := by
    rw [caretChars, ← List.append_assoc, walk_through (walk_written_sign signed leads)]
    exact walk_caret sign factor
  refine first_impossible reach ?_ ?_ (fun _ => rfl)
  · let zero : Digits := ⟨['0'], by simp, by simp⟩
    have sentence := sentence_snoc (w := ⟨sign, .power factor zero⟩) signed leads
    exact ⟨['0'], by
      simpa [Written.chars, caretChars, zero] using sentence⟩
  · intro c next
    simp [Stage.next, after c next]

end Sites

/-- An error of syntax points at the first character that no equation has there, numbers of any
size allowed, and says truly what stands there. A missing sign is never at the start or the end. -/
theorem syntax_error_first_impossible {raw : String} {e : ParseError} {place : Nat}
    {found : Option Found} (refused : parse raw = .error e)
    (points : e.syntaxPlace? = some (place, found)) :
    FirstImpossible (Text.normalChars raw.toList) place ∧
      (∀ shown ∈ found, StandsAt (Text.normalChars raw.toList) place shown) ∧
      ∀ shown, e = .expectedSign place shown → 0 < place ∧ shown ≠ .endOfInput := by
  rcases readNormal_error_iff.mp refused with
    ⟨ws, rest, good, ended, shape, fault⟩ | ⟨noSquare, -⟩
  · rw [shape]
    cases fault with
    | power leads ends denotes high => cases points
    | sum leads ends denotes low leaves => cases points
    | term more fault =>
      cases fault with
      | noSign later clear =>
        cases points
        have some : ws ≠ [] := by simpa using later
        refine ⟨missing_sign_impossible good.signs ended some more clear, ?_, ?_⟩
        · rintro shown ⟨⟩
          exact stands_at (written ws) rest _
        · rintro shown ⟨⟩
          refine ⟨List.length_pos_iff.mpr (mt written_eq_nil.mp some), ?_⟩
          obtain ⟨c, tail, rfl⟩ := List.exists_cons_of_ne_nil more
          simp [Cursor.found]
      | @noStart sign rest stands clear =>
        cases points
        have place := missing_start_impossible good.signs stands clear
        have found := stands_at (written ws ++ sign.chars) rest
          ((written ws).length + sign.chars.length)
        simp only [List.append_assoc, List.length_append] at place found
        refine ⟨place, ?_, by simp⟩
        rintro shown ⟨⟩
        exact found
      | largeCoefficient leads after outside => cases points
      | @noExponent sign factor rest leads fits after =>
        cases points
        have place := missing_exponent_impossible sign factor good.signs
          (leads_iff.mp leads) after
        simp only [List.append_assoc, List.length_append] at place
        exact ⟨place, by simp, by simp⟩
      | largeExponent leads fits after outside => cases points
  · subst noSquare
    cases points

/-- A digit after the unknown is one character too many, wherever the equation has it. -/
theorem syntax_error_after_letter :
    parse "X^2 - 3x 2" = .error (.expectedSign 6 (.char '2')) ∧
      FirstImpossible (Text.normalChars "X^2 - 3x 2".toList) 6 ∧
      StandsAt (Text.normalChars "X^2 - 3x 2".toList) 6 (.char '2') := by
  have refused : parse "X^2 - 3x 2" = .error (.expectedSign 6 (.char '2')) := by decide +kernel
  obtain ⟨place, shown, -⟩ := syntax_error_first_impossible refused rfl
  exact ⟨refused, place, shown _ rfl⟩

end Parabola.Equation
