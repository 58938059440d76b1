import Parabola.Binary64
import Parabola.Decimal
import Parabola.Term

/-!
The real roots of a trinomial. The discriminant is an exact integer and decides alone how many roots
there are; only then does binary64 arithmetic begin.
-/

namespace Parabola

/-- The distinct real roots. Of two, the one with the added square root comes first. -/
inductive Roots where
  | none
  | one (x : Binary64)
  | two (first second : Binary64)
deriving DecidableEq

namespace Roots

def count : Roots → Nat
  | none => 0
  | one _ => 1
  | two _ _ => 2

/-- The roots in the order in which they are reported. -/
def toList : Roots → List Binary64
  | none => []
  | one x => [x]
  | two first second => [first, second]

end Roots

inductive SolveError where
  | zeroLeading
deriving DecidableEq

namespace SolveError

def message : SolveError → String
  | zeroLeading => "leading coefficient must be non-zero"

end SolveError

namespace Trinomial

def discriminant (t : Trinomial) : Int := t.b.val * t.b.val - 4 * t.a.val * t.c.val

def divisor (t : Trinomial) : Binary64 := .ofInt (2 * t.a.val)

def minusB (t : Trinomial) : Binary64 := .ofInt (-t.b.val)

/-- The rounded square root of the rounded discriminant. -/
def rootOfDiscriminant (t : Trinomial) : Binary64 := (Binary64.ofInt t.discriminant).sqrt

/-- The roots by the discriminant formula. A trinomial without a square is refused. -/
def solve (t : Trinomial) : Except SolveError Roots :=
  if t.a.val = 0 then .error .zeroLeading
  else if t.discriminant < 0 then .ok .none
  else if t.discriminant = 0 then .ok (.one (t.minusB.div t.divisor))
  else
    .ok (.two ((t.minusB.add t.rootOfDiscriminant).div t.divisor)
      ((t.minusB.sub t.rootOfDiscriminant).div t.divisor))

end Trinomial

end Parabola

/-! Reports: one line for each root, or one that says there are none -/

namespace Parabola.Roots

/-- Roots from 0.0001 up to below 10^16 are written in full, others with an exponent. -/
def layout : Decimal.Layout := ⟨-4, 16⟩

def rootChars (x : Binary64) : List Char := x.chars layout

-- The fewest digits that read back, and where the written form changes.
example : rootChars (.ofBits 0x3FF6A09E667F3BCD) = "1.4142135623730951".toList := by decide +kernel
example : rootChars (.ofBits 0x4341C37937E08000) = "1e16".toList := by decide +kernel
example : rootChars (.ofBits 0x4341C37937E07FFF) = "9999999999999998.0".toList := by decide +kernel
example : rootChars (.ofBits 0x3F1A36E2EB1C432D) = "0.0001".toList := by decide +kernel
example : rootChars (.ofBits 0x3F1A36E2EB1C432C) = "9.999999999999999e-5".toList := by
  decide +kernel

-- Of two shortest decimals that are equally near the upper one is taken.
example : rootChars (.ofBits 0x3E60000000000000) = "2.9802322387695313e-8".toList := by
  decide +kernel

def reportChars : Roots → List Char
  | none => "No roots".toList
  | one x => "x = ".toList ++ rootChars x
  | two first second =>
    "x1 = ".toList ++ rootChars first ++ '\n' :: "x2 = ".toList ++ rootChars second

def report (roots : Roots) : String := String.ofList roots.reportChars

end Parabola.Roots
