import Parabola.Text.Basic

/-!
Terms and trinomials over integers of 32 signed bits, the range of every coefficient and exponent.
Arithmetic is exact or refused: nothing wraps around.
-/

namespace Parabola

/-- An integer from -2^31 to 2^31 - 1. -/
structure Signed32 where
  val : Int
  least_le : -2147483648 ≤ val
  le_greatest : val ≤ 2147483647
deriving DecidableEq

namespace Signed32

theorem ext {a b : Signed32} (same : a.val = b.val) : a = b := by
  cases a; cases b; cases same; rfl

def zero : Signed32 := ⟨0, by decide, by decide⟩

def one : Signed32 := ⟨1, by decide, by decide⟩

def two : Signed32 := ⟨2, by decide, by decide⟩

def minusOne : Signed32 := ⟨-1, by decide, by decide⟩

def ofInt? (n : Int) : Option Signed32 :=
  if bounds : -2147483648 ≤ n ∧ n ≤ 2147483647 then some ⟨n, bounds.1, bounds.2⟩ else none

def add? (a b : Signed32) : Option Signed32 := ofInt? (a.val + b.val)

theorem ofInt?_eq_some_iff {n : Int} {a : Signed32} : ofInt? n = some a ↔ a.val = n := by
  unfold ofInt?
  split
  · next bounds =>
    constructor
    · intro same; cases same; rfl
    · intro same; exact congrArg some (ext same.symm)
  · next bounds =>
    constructor
    · intro same; cases same
    · intro same; subst same; exact absurd ⟨a.least_le, a.le_greatest⟩ bounds

theorem add?_eq_some_iff {a b c : Signed32} : a.add? b = some c ↔ c.val = a.val + b.val :=
  ofInt?_eq_some_iff

end Signed32

/-!
Terms of an equation: a coefficient and a power of the unknown. Terms of the same power can be
merged, also one after another into a term that is held; the written form is the one that equations
use.
-/

inductive Degree where
  | constant
  | linear
  | square
deriving DecidableEq

namespace Degree

def toNat : Degree → Nat
  | constant => 0
  | linear => 1
  | square => 2

def exponent : Degree → Signed32
  | constant => .zero
  | linear => .one
  | square => .two

def highest : Nat := toNat square

def ofInt? (exponent : Int) : Option Degree :=
  if exponent = 0 then some constant
  else if exponent = 1 then some linear
  else if exponent = 2 then some square
  else none

end Degree

/-- A coefficient times a power of the unknown. The exponent is not limited to the powers that an
equation may hold, so that a term that is out of place can still be named. -/
structure Term where
  coefficient : Signed32
  exponent : Signed32
deriving DecidableEq

inductive MergeError where
  | exponentMismatch (left right : Signed32)
  | overflow
deriving DecidableEq

namespace MergeError

def message : MergeError → String
  | exponentMismatch left right =>
    "can't add terms with different exponents (" ++ Text.intText left.val ++ " and "
      ++ Text.intText right.val ++ ")"
  | overflow => "coefficient overflow"

end MergeError

/-- One of several merges into a held term: how that term stands after it, and why the merge failed,
if it did. -/
structure MergeStep where
  term : Term
  failure : Option MergeError
deriving DecidableEq

namespace Term

def ofDegree (coefficient : Signed32) (degree : Degree) : Term := ⟨coefficient, degree.exponent⟩

def letter : Char := 'x'

def caret : Char := '^'

def degree? (term : Term) : Option Degree := Degree.ofInt? term.exponent.val

/-- The sum of two terms of one power. Different powers are reported before an overflow. -/
def merge (term other : Term) : Except MergeError Term :=
  if term.exponent = other.exponent then
    match term.coefficient.add? other.coefficient with
    | some sum => .ok { term with coefficient := sum }
    | none => .error .overflow
  else .error (.exponentMismatch term.exponent other.exponent)

/-- Merges a term into a held one. Where there is no sum the held term stays. -/
def absorb (held other : Term) : MergeStep :=
  match held.merge other with
  | .ok sum => ⟨sum, none⟩
  | .error failure => ⟨held, some failure⟩

/-- Merges terms one after another into a held one. A failure does not end the run. -/
def absorbAll (held : Term) : List Term → List MergeStep
  | [] => []
  | other :: others => held.absorb other :: (held.absorb other).term.absorbAll others

/-- How a coefficient is written before the unknown: 1 is left out, -1 is a bare minus sign. -/
def factorChars (coefficient : Signed32) : List Char :=
  if coefficient.val = 1 then []
  else if coefficient.val = -1 then ['-']
  else Text.intDigits coefficient.val

def powerChars (exponent : Signed32) : List Char :=
  if exponent.val = 1 then [letter] else letter :: caret :: Text.intDigits exponent.val

/-- The written form, such as `5`, `-3`, `x`, `-x^2` or `4x^23`. -/
def chars (term : Term) : List Char :=
  if term.exponent.val = 0 then Text.intDigits term.coefficient.val
  else factorChars term.coefficient ++ powerChars term.exponent

def text (term : Term) : String := String.ofList term.chars

end Term

/-!
Quadratic trinomials: the three coefficients that an equation comes down to.
-/

/-- The trinomial `a x^2 + b x + c`. A trinomial made by hand may have `a = 0`; one that was read
from an equation never has. -/
structure Trinomial where
  a : Signed32
  b : Signed32
  c : Signed32
deriving DecidableEq

namespace Trinomial

/-- A term that follows another one: nothing for zero, a plus sign before a positive one. -/
def laterChars (term : Term) : List Char :=
  if term.coefficient.val = 0 then []
  else if 0 < term.coefficient.val then '+' :: term.chars
  else term.chars

/-- The written form, with falling powers. The square is written even if its coefficient is zero. -/
def chars (t : Trinomial) : List Char :=
  (Term.ofDegree t.a .square).chars ++ laterChars (.ofDegree t.b .linear)
    ++ laterChars (.ofDegree t.c .constant)

def text (t : Trinomial) : String := String.ofList t.chars

end Trinomial

end Parabola
