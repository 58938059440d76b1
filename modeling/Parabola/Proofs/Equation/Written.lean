import Parabola.Equation.Parse

/-!
Equations as they are written: the grammar of terms, with the number that every part stands for.
Nothing here reads or stops early. Runs of digits have any length and any value, and the limits of
32 signed bits are conditions of their own, so that a reader can be compared with them.
-/

namespace Parabola.Equation

def NotAhead (kind : Char → Bool) (rest : List Char) : Prop := ∀ c ∈ rest.head?, kind c = false

@[simp] theorem not_ahead_nil (kind : Char → Bool) : NotAhead kind [] := by simp [NotAhead]

@[simp] theorem not_ahead_cons (kind : Char → Bool) (c : Char) (rest : List Char) :
    NotAhead kind (c :: rest) ↔ kind c = false := by simp [NotAhead]

def isSign (c : Char) : Bool := c == '+' || c == '-'

def beginsBody (c : Char) : Bool := c.isDigit || c == Term.letter

/-- One digit or more. Leading zeros are allowed. -/
structure Digits where
  chars : List Char
  nonempty : chars ≠ []
  digits : ∀ c ∈ chars, c.isDigit = true

/-- The number that digits stand for when a number of the given value is continued by them. -/
def runValue (value : Nat) (chars : List Char) : Nat :=
  chars.foldl (fun value c => value * 10 + Text.digitValue c) value

def Digits.value (run : Digits) : Nat := runValue 0 run.chars

inductive Sign where
  | omitted
  | plus
  | minus
deriving DecidableEq

namespace Sign

def chars : Sign → List Char
  | omitted => []
  | plus => ['+']
  | minus => ['-']

def apply (sign : Sign) (magnitude : Nat) : Int :=
  match sign with
  | minus => -(magnitude : Int)
  | _ => magnitude

end Sign

def factorChars : Option Digits → List Char
  | none => []
  | some run => run.chars

/-- The magnitude of a factor. One that is left out is one. -/
def factorValue : Option Digits → Nat
  | none => 1
  | some run => run.value

/-- A term without its sign: `digits`, `[digits] x` or `[digits] x ^ digits`. -/
inductive Body where
  | constant (run : Digits)
  | linear (factor : Option Digits)
  | power (factor : Option Digits) (exponent : Digits)

namespace Body

def factor : Body → Option Digits
  | constant run => some run
  | linear factor => factor
  | power factor _ => factor

def powerChars : Body → List Char
  | constant _ => []
  | linear _ => [Term.letter]
  | power _ exponent => Term.letter :: Term.caret :: exponent.chars

def chars (body : Body) : List Char := factorChars body.factor ++ body.powerChars

def magnitude (body : Body) : Nat := factorValue body.factor

def exponent : Body → Nat
  | constant _ => 0
  | linear _ => 1
  | power _ exponent => exponent.value

/-- Whether a character after the term would still belong to it. -/
def takes : Body → Char → Bool
  | constant _, c => beginsBody c
  | linear _, c => c == Term.caret
  | power _ _, c => c.isDigit

end Body

structure Written where
  sign : Sign
  body : Body

namespace Written

def chars (w : Written) : List Char := w.sign.chars ++ w.body.chars

/-- The coefficient with its sign, however large. -/
def coefficient (w : Written) : Int := w.sign.apply w.body.magnitude

def exponent (w : Written) : Nat := w.body.exponent

/-- Nothing that follows continues the term, so it is written out to its end. -/
def Ends (w : Written) (rest : List Char) : Prop := NotAhead w.body.takes rest

/-- The term is this one, which is possible only if 32 signed bits hold both its numbers. -/
def Denotes (w : Written) (term : Term) : Prop :=
  term.coefficient.val = w.coefficient ∧ term.exponent.val = w.exponent

end Written

def written (ws : List Written) : List Char := ws.flatMap Written.chars

def SignedLater (ws : List Written) : Prop := ∀ w ∈ ws.tail, w.sign ≠ .omitted

/-- The texts of the grammar: one term or more, without any limit on numbers. -/
def Sentence (chars : List Char) : Prop :=
  ∃ ws, ws ≠ [] ∧ SignedLater ws ∧ written ws = chars

def symbols : List Char :=
  ['+', '-', '^', 'x', '0', '1', '2', '3', '4', '5', '6', '7', '8', '9']

def InRange (n : Int) : Prop := -2147483648 ≤ n ∧ n ≤ 2147483647

instance (n : Int) : Decidable (InRange n) := inferInstanceAs (Decidable (_ ∧ _))

def total (exponent : Nat) : List Written → Int
  | [] => 0
  | w :: ws => (if w.exponent = exponent then w.coefficient else 0) + total exponent ws

/-- Terms with nothing wrong about them, whatever follows: each coefficient is in range, each
exponent is one that an equation may hold, and no sum leaves the range on the way. -/
structure Faultless (ws : List Written) : Prop where
  signs : SignedLater ws
  coefficients : ∀ w ∈ ws, InRange w.coefficient
  exponents : ∀ w ∈ ws, w.exponent ≤ 2
  sums : ∀ exponent before, before <+: ws → InRange (total exponent before)

/-! Characters -/

@[simp] theorem letter_not_digit : Term.letter.isDigit = false := by decide

@[simp] theorem caret_not_digit : Term.caret.isDigit = false := by decide

@[simp] theorem caret_ne_letter : Term.caret ≠ Term.letter := by decide

@[simp] theorem letter_begins_body : beginsBody Term.letter = true := by decide

@[simp] theorem letter_not_sign : isSign Term.letter = false := by decide

@[simp] theorem digit_not_sign {c : Char} (digit : c.isDigit = true) : isSign c = false := by
  rw [Char.isDigit_iff_toNat] at digit
  have notPlus : c ≠ '+' := by rintro rfl; revert digit; decide
  have notMinus : c ≠ '-' := by rintro rfl; revert digit; decide
  simp [isSign, notPlus, notMinus]

theorem body_not_sign {c : Char} (begins : beginsBody c = true) : isSign c = false := by
  simp only [beginsBody, Bool.or_eq_true, beq_iff_eq] at begins
  rcases begins with digit | rfl
  · exact digit_not_sign digit
  · exact letter_not_sign

-- A sign continues no term.
theorem Body.takes_sign (body : Body) {c : Char} (sign : isSign c = true) :
    body.takes c = false := by
  simp only [isSign, Bool.or_eq_true, beq_iff_eq] at sign
  rcases sign with rfl | rfl <;> cases body <;> rfl

theorem Digits.head (run : Digits) :
    ∃ c rest, run.chars = c :: rest ∧ c.isDigit = true := by
  cases shape : run.chars with
  | nil => exact absurd shape run.nonempty
  | cons c rest => exact ⟨c, rest, rfl, run.digits c (by simp [shape])⟩

@[simp] theorem factorChars_none : factorChars none = [] := rfl

@[simp] theorem factorChars_some (run : Digits) : factorChars (some run) = run.chars := rfl

@[simp] theorem Body.chars_constant (run : Digits) : (Body.constant run).chars = run.chars := by
  simp [Body.chars, Body.factor, Body.powerChars]

@[simp] theorem Body.chars_linear (factor : Option Digits) :
    (Body.linear factor).chars = factorChars factor ++ [Term.letter] := rfl

@[simp] theorem Body.chars_power (factor : Option Digits) (exponent : Digits) :
    (Body.power factor exponent).chars =
      factorChars factor ++ Term.letter :: Term.caret :: exponent.chars := rfl

theorem factor_digits (factor : Option Digits) : ∀ c ∈ factorChars factor, c.isDigit = true := by
  cases factor with
  | none => simp
  | some run => exact run.digits

theorem Body.head (body : Body) :
    ∃ c rest, body.chars = c :: rest ∧ beginsBody c = true := by
  cases shape : body.factor with
  | some run =>
    obtain ⟨c, rest, first, digit⟩ := run.head
    exact ⟨c, rest ++ body.powerChars, by simp [Body.chars, shape, first],
      by simp [beginsBody, digit]⟩
  | none =>
    cases body with
    | constant run => cases shape
    | linear factor =>
      exact ⟨Term.letter, [], by simp [Body.chars, shape, Body.powerChars], by simp⟩
    | power factor exponent =>
      exact ⟨Term.letter, Term.caret :: exponent.chars,
        by simp [Body.chars, shape, Body.powerChars], by simp⟩

theorem Body.sign_not_ahead (body : Body) (rest : List Char) :
    NotAhead isSign (body.chars ++ rest) := by
  obtain ⟨c, tail, shape, begins⟩ := body.head
  simp [shape, body_not_sign begins]

-- The digits of a factor end where the factor ends.
theorem Body.factor_maximal {body : Body} {rest : List Char} (ends : NotAhead body.takes rest) :
    NotAhead Char.isDigit (body.powerChars ++ rest) := by
  cases body with
  | constant run =>
    intro c next
    have stops := ends c next
    simp only [Body.takes, beginsBody, Bool.or_eq_false_iff] at stops
    exact stops.1
  | linear factor => simp [Body.powerChars]
  | power factor exponent => simp [Body.powerChars]

theorem Sign.head {sign : Sign} (present : sign ≠ .omitted) :
    ∃ c, sign.chars = [c] ∧ isSign c = true := by
  cases sign with
  | omitted => exact absurd rfl present
  | plus => exact ⟨'+', rfl, by decide⟩
  | minus => exact ⟨'-', rfl, by decide⟩

theorem Written.chars_ne_nil (w : Written) : w.chars ≠ [] := by
  obtain ⟨c, rest, shape, -⟩ := w.body.head
  simp [Written.chars, shape]

/-! Sequences of terms -/

@[simp] theorem written_nil : written [] = [] := rfl

@[simp] theorem written_cons (w : Written) (ws : List Written) :
    written (w :: ws) = w.chars ++ written ws := rfl

@[simp] theorem written_append (ws vs : List Written) :
    written (ws ++ vs) = written ws ++ written vs := by simp [written]

theorem written_eq_nil {ws : List Written} : written ws = [] ↔ ws = [] := by
  cases ws with
  | nil => simp
  | cons w ws => simp [w.chars_ne_nil]

theorem digit_symbol {c : Char} (digit : c.isDigit = true) : c ∈ symbols := by
  obtain ⟨least, greatest⟩ := Char.isDigit_iff_toNat.mp digit
  have digits : ∀ code ≤ 57, 48 ≤ code → Char.ofNat code ∈ symbols := by decide
  have listed := digits c.toNat greatest least
  rwa [Char.ofNat_toNat] at listed

theorem body_symbols (body : Body) : ∀ c ∈ body.chars, c ∈ symbols := by
  have letter : Term.letter ∈ symbols := by decide
  have caret : Term.caret ∈ symbols := by decide
  intro c member
  rcases List.mem_append.mp member with front | back
  · exact digit_symbol (factor_digits body.factor c front)
  · cases body with
    | constant run => cases back
    | linear factor =>
      rw [List.mem_singleton.mp back]
      exact letter
    | power factor exponent =>
      rcases List.mem_cons.mp back with rfl | back
      · exact letter
      · rcases List.mem_cons.mp back with rfl | back
        · exact caret
        · exact digit_symbol (exponent.digits c back)

theorem sign_symbols (sign : Sign) : ∀ c ∈ sign.chars, c ∈ symbols := by
  cases sign <;> simp [Sign.chars, symbols]

theorem written_symbols (ws : List Written) : ∀ c ∈ written ws, c ∈ symbols := by
  intro c member
  obtain ⟨w, -, inside⟩ := List.mem_flatMap.mp member
  rcases List.mem_append.mp inside with sign | body
  · exact sign_symbols w.sign c sign
  · exact body_symbols w.body c body

@[simp] theorem total_nil (exponent : Nat) : total exponent [] = 0 := rfl

theorem total_append (exponent : Nat) (ws vs : List Written) :
    total exponent (ws ++ vs) = total exponent ws + total exponent vs := by
  induction ws with
  | nil => simp
  | cons w ws ih =>
    simp only [List.cons_append, total, ih]
    omega

theorem total_single (exponent : Nat) (w : Written) :
    total exponent [w] = if w.exponent = exponent then w.coefficient else 0 := by
  simp [total]

theorem signed_later_append {ws vs : List Written} :
    SignedLater (ws ++ vs) ↔
      SignedLater ws ∧ ∀ w ∈ (if ws = [] then vs.tail else vs), w.sign ≠ .omitted := by
  cases ws with
  | nil => simp [SignedLater]
  | cons w ws => simp [SignedLater, or_imp, forall_and]

theorem signed_later_snoc {ws : List Written} {w : Written} (signed : SignedLater ws)
    (leads : w.sign = .omitted → ws = []) : SignedLater (ws ++ [w]) := by
  refine signed_later_append.mpr ⟨signed, ?_⟩
  split
  · simp
  · next started => simpa using mt leads started

/-!
How characters split into terms. Every front part of a text is a sign, a run of digits or a factor
in one way only once it is known what must not follow, so an equation splits into terms in at most
one way.
-/

/-! The longest run of one kind of character -/

-- Two runs of one kind at the front of a text are the same if neither can be continued.
theorem run_unique {kind : Char → Bool} {a b r s : List Char}
    (same : a ++ r = b ++ s) (inA : ∀ c ∈ a, kind c = true) (inB : ∀ c ∈ b, kind c = true)
    (afterA : NotAhead kind r) (afterB : NotAhead kind s) : a = b ∧ r = s := by
  -- If one run ended first, the next character of the other would continue it.
  induction a generalizing b with
  | nil =>
    cases b with
    | nil => exact ⟨rfl, same⟩
    | cons c b =>
      have stops : kind c = false := by simpa [show r = c :: (b ++ s) from same] using afterA
      simp [inB c (by simp)] at stops
  | cons c a ih =>
    cases b with
    | nil =>
      have stops : kind c = false := by
        simpa [show s = c :: (a ++ r) from same.symm] using afterB
      simp [inA c (by simp)] at stops
    | cons d b =>
      obtain ⟨rfl, tails⟩ := List.cons.inj same
      have rest := ih tails (fun x hx => inA x (by simp [hx])) (fun x hx => inB x (by simp [hx]))
      exact ⟨by rw [rest.1], rest.2⟩

-- The digits at the front of a text, as many as there are.
theorem digits_split (chars : List Char) :
    ∃ run rest, chars = run ++ rest ∧ (∀ c ∈ run, c.isDigit = true) ∧
      NotAhead Char.isDigit rest := by
  induction chars with
  | nil => exact ⟨[], [], rfl, by simp, by simp⟩
  | cons c chars ih =>
    cases digit : c.isDigit with
    | false => exact ⟨[], c :: chars, rfl, by simp, by simp [digit]⟩
    | true =>
      obtain ⟨run, rest, rfl, inRun, after⟩ := ih
      exact ⟨c :: run, rest, rfl, by simpa [digit] using inRun, after⟩

/-! Parts of a term -/

theorem factor_split (chars : List Char) :
    ∃ factor rest, chars = factorChars factor ++ rest ∧ NotAhead Char.isDigit rest := by
  obtain ⟨run, rest, rfl, inRun, after⟩ := digits_split chars
  by_cases empty : run = []
  · exact ⟨none, rest, by simp [empty], after⟩
  · exact ⟨some ⟨run, empty, inRun⟩, rest, rfl, after⟩

-- What can follow a factor: nothing of the term, the unknown, or the unknown with a caret.
theorem power_split {chars : List Char} (after : NotAhead Char.isDigit chars) :
    NotAhead beginsBody chars ∨
      (∃ rest, chars = Term.letter :: rest ∧ NotAhead (· == Term.caret) rest) ∨
      (∃ rest, chars = Term.letter :: Term.caret :: rest ∧ NotAhead Char.isDigit rest) ∨
      ∃ run rest, chars = Term.letter :: Term.caret :: (Digits.chars run ++ rest) ∧
        NotAhead Char.isDigit rest := by
  cases chars with
  | nil => exact .inl (by simp)
  | cons c rest =>
    by_cases letter : c = Term.letter
    · subst letter
      cases rest with
      | nil => exact .inr (.inl ⟨[], rfl, by simp⟩)
      | cons d rest =>
        by_cases caret : d = Term.caret
        · subst caret
          obtain ⟨exponent, rest, rfl, ends⟩ := factor_split rest
          cases exponent with
          | none => exact .inr (.inr (.inl ⟨rest, rfl, ends⟩))
          | some run => exact .inr (.inr (.inr ⟨run, rest, rfl, ends⟩))
        · exact .inr (.inl ⟨d :: rest, rfl, by simp [caret]⟩)
    · rw [not_ahead_cons] at after
      exact .inl (by simp [beginsBody, after, letter])

theorem sign_split (chars : List Char) :
    ∃ sign rest, chars = Sign.chars sign ++ rest ∧ (sign = .omitted → NotAhead isSign rest) := by
  cases chars with
  | nil => exact ⟨.omitted, [], rfl, by simp⟩
  | cons c rest =>
    by_cases plus : c = '+'
    · exact ⟨.plus, rest, by simp [Sign.chars, plus], by simp⟩
    · by_cases minus : c = '-'
      · exact ⟨.minus, rest, by simp [Sign.chars, minus], by simp⟩
      · exact ⟨.omitted, c :: rest, rfl, by simp [isSign, plus, minus]⟩

theorem factor_injective {f g : Option Digits} (same : factorChars f = factorChars g) : f = g := by
  cases f with
  | none =>
    cases g with
    | none => rfl
    | some run => exact absurd same.symm run.nonempty
  | some run =>
    cases g with
    | none => exact absurd same run.nonempty
    | some other =>
      cases run
      cases other
      cases (show _ = _ from same)
      rfl

theorem factor_unique {f g : Option Digits} {r s : List Char}
    (same : factorChars f ++ r = factorChars g ++ s)
    (afterF : NotAhead Char.isDigit r) (afterG : NotAhead Char.isDigit s) : f = g ∧ r = s := by
  obtain ⟨chars, rest⟩ := run_unique same (factor_digits f) (factor_digits g) afterF afterG
  exact ⟨factor_injective chars, rest⟩

theorem digits_unique {a b : Digits} {r s : List Char} (same : a.chars ++ r = b.chars ++ s)
    (afterA : NotAhead Char.isDigit r) (afterB : NotAhead Char.isDigit s) : a = b ∧ r = s := by
  obtain ⟨factors, rest⟩ := factor_unique (f := some a) (g := some b) same afterA afterB
  exact ⟨Option.some.inj factors, rest⟩

theorem Sign.unique {sign other : Sign} {r s : List Char}
    (same : sign.chars ++ r = other.chars ++ s)
    (afterSign : NotAhead isSign r) (afterOther : NotAhead isSign s) : sign = other ∧ r = s := by
  have signs : ∀ sign : Sign, ∀ c ∈ sign.chars, isSign c = true := by
    intro sign
    cases sign <;> simp [Sign.chars, isSign]
  obtain ⟨chars, rest⟩ := run_unique same (signs sign) (signs other) afterSign afterOther
  refine ⟨?_, rest⟩
  cases sign <;> cases other <;> simp [Sign.chars] at chars <;> rfl

theorem Body.unique {body other : Body} {r s : List Char}
    (same : body.chars ++ r = other.chars ++ s)
    (ends : NotAhead body.takes r) (otherEnds : NotAhead other.takes s) :
    body = other ∧ r = s := by
  simp only [Body.chars, List.append_assoc] at same
  obtain ⟨factors, powers⟩ :=
    factor_unique same (Body.factor_maximal ends) (Body.factor_maximal otherEnds)
  -- Two different shapes would leave a letter or a caret that the shorter one should have taken.
  cases body <;> cases other <;> simp only [Body.factor] at factors <;>
    simp only [Body.powerChars, List.nil_append, List.cons_append, List.cons.injEq,
      true_and] at powers
  case constant.constant =>
    exact ⟨by rw [Option.some.inj factors], powers⟩
  case constant.linear => simp [powers, Body.takes] at ends
  case constant.power => simp [powers, Body.takes] at ends
  case linear.constant => simp [← powers, Body.takes] at otherEnds
  case linear.linear => exact ⟨by rw [factors], powers⟩
  case linear.power => simp [powers, Body.takes] at ends
  case power.constant => simp [← powers, Body.takes] at otherEnds
  case power.linear => simp [← powers, Body.takes] at otherEnds
  case power.power =>
    obtain ⟨exponents, rest⟩ := digits_unique powers ends otherEnds
    exact ⟨by rw [factors, exponents], rest⟩

theorem Written.unique {w v : Written} {r s : List Char} (same : w.chars ++ r = v.chars ++ s)
    (ends : w.Ends r) (otherEnds : v.Ends s) : w = v ∧ r = s := by
  simp only [Written.chars, List.append_assoc] at same
  obtain ⟨signs, bodies⟩ :=
    Sign.unique same (w.body.sign_not_ahead r) (v.body.sign_not_ahead s)
  obtain ⟨bodies, rest⟩ := Body.unique bodies ends otherEnds
  cases w
  cases v
  exact ⟨by simp_all, rest⟩

/-! Whole equations -/

-- Signed terms can follow any term: nothing of them is taken for a part of it.
theorem ends_before {w : Written} {later : List Written} {rest : List Char}
    (signed : ∀ v ∈ later, v.sign ≠ .omitted) (ends : later = [] → w.Ends rest) :
    w.Ends (written later ++ rest) := by
  cases later with
  | nil => exact ends rfl
  | cons v later =>
    obtain ⟨c, sign, isSign⟩ := Sign.head (signed v (by simp))
    simp [Written.Ends, Written.chars, sign, w.body.takes_sign isSign]

theorem ends_before_last {w : Written} {later : List Written}
    (signed : ∀ v ∈ later, v.sign ≠ .omitted) : w.Ends (written later) := by
  rw [← List.append_nil (written later)]
  exact ends_before signed fun _ => not_ahead_nil _

/-- An equation splits into terms in one way at most. -/
theorem split_unique {ws vs : List Written} (same : written ws = written vs)
    (signed : SignedLater ws) (otherSigned : SignedLater vs) : ws = vs := by
  induction ws generalizing vs with
  | nil => exact (written_eq_nil.mp same.symm).symm
  | cons w ws ih =>
    cases vs with
    | nil => exact written_eq_nil.mp same
    | cons v vs =>
      obtain ⟨rfl, rest⟩ :=
        Written.unique same (ends_before_last signed) (ends_before_last otherSigned)
      rw [ih rest (fun u member => signed u (List.mem_of_mem_tail member))
        (fun u member => otherSigned u (List.mem_of_mem_tail member))]

end Parabola.Equation
