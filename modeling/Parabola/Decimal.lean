import Parabola.Binary64
import Parabola.Text.Basic

/-!
The fewest decimal digits that identify a binary64 number. The reals that round to the number form
an interval; on ever finer decimal grids the two neighbours of the number are tried, and the first
grid with a neighbour inside the interval gives the digits.
-/

namespace Parabola

/-- The decimal number `digits * 10 ^ exponent`. -/
structure Decimal where
  digits : Nat
  exponent : Int
deriving DecidableEq

namespace Decimal

open Binary64 (twoTo)

def tenTo (n : Nat) : Nat := Nat.pow 10 n

def compareBinary (d : Decimal) (m : Nat) (q : Int) : Ordering :=
  compare (d.digits * tenTo d.exponent.toNat * twoTo (-q).toNat)
    (m * twoTo q.toNat * tenTo (-d.exponent).toNat)

/-- Four times the significand less half the distance to the magnitude below, which is halved at a
power of two. -/
def quadrupleLow (x : Binary64) : Nat :=
  if x.code.val % Binary64.fractionCount = 0 ∧ 2 * Binary64.fractionCount ≤ x.code.val then
    4 * x.significand - 1
  else 4 * x.significand - 2

def quadrupleHigh (x : Binary64) : Nat := 4 * x.significand + 2

/-- Whether a decimal rounds to the magnitude of `x`; the ends of the interval do so exactly if
the significand is even. -/
def identifies (d : Decimal) (x : Binary64) : Bool :=
  let low := d.compareBinary (quadrupleLow x) (x.scale - 2)
  let high := d.compareBinary (quadrupleHigh x) (x.scale - 2)
  let even := x.significand % 2 == 0
  (low == .gt || (even && low == .eq)) && (high == .lt || (even && high == .eq))

def isBelowPower (x : Binary64) (k : Int) : Bool :=
  (Decimal.mk 1 k).compareBinary x.significand x.scale == .gt

/-- The least `k` with `x < 10 ^ k`, for a positive finite magnitude. The binary exponent gives a
first guess that is never too large and at most two short. -/
def magnitudeLog10 (x : Binary64) : Int :=
  let binary : Int := x.scale + x.significand.log2
  let estimate : Int := binary * 30103 / 100000
  if isBelowPower x estimate then estimate
  else if isBelowPower x (estimate + 1) then estimate + 1
  else estimate + 2

def floorAt (x : Binary64) (exponent : Int) : Decimal :=
  ⟨(x.significand * twoTo x.scale.toNat * tenTo (-exponent).toNat)
    / (twoTo (-x.scale).toNat * tenTo exponent.toNat), exponent⟩

def next (d : Decimal) : Decimal := ⟨d.digits + 1, d.exponent⟩

def isNearer (d : Decimal) (x : Binary64) : Bool :=
  (Decimal.mk (2 * d.digits + 1) d.exponent).compareBinary (2 * x.significand) x.scale == .gt

/-- The neighbour of a magnitude on one decimal grid that identifies it; of two the nearer one, of
two equally near the upper one. -/
def neighbour? (x : Binary64) (exponent : Int) : Option Decimal :=
  let below := floorAt x exponent
  match below.identifies x, below.next.identifies x with
  | true, true => if below.isNearer x then some below else some below.next
  | true, false => some below
  | false, true => some below.next
  | false, false => none

def stripZeros (d : Decimal) : Decimal :=
  if d.digits ≠ 0 ∧ d.digits % 10 = 0 then stripZeros ⟨d.digits / 10, d.exponent + 1⟩ else d
termination_by d.digits

/-- The exact decimal of a magnitude, where `2 ^ -k` is `5 ^ k * 10 ^ -k`. -/
def exact (x : Binary64) : Decimal :=
  ⟨x.significand * twoTo x.scale.toNat * Nat.pow 5 (-x.scale).toNat, min x.scale 0⟩

/-- The shortest decimal that identifies a finite magnitude other than zero. Seventeen digits
suffice. -/
def shortest (x : Binary64) : Decimal :=
  let top := magnitudeLog10 x
  let found := (List.range 17).findSome? fun n : Nat => neighbour? x (top - 1 - (n : Int))
  (found.getD (exact x)).stripZeros

end Decimal

end Parabola

/-!
The written form of a binary64 number: which decimal exponents are written out in full, and how
digits, point, exponent and sign are set.
-/

namespace Parabola.Decimal

/-- The exponents of the leading digit for which a number is written without an exponent: from
`plainFrom` up, and below `plainBelow`. -/
structure Layout where
  plainFrom : Int
  plainBelow : Int

def digitChars (d : Decimal) : List Char := Text.natDigits d.digits

def leadingExponent (d : Decimal) : Int := d.exponent + d.digitChars.length - 1

def plainChars (d : Decimal) : List Char :=
  let digits := d.digitChars
  if 0 ≤ d.exponent then digits ++ List.replicate d.exponent.toNat '0' ++ ['.', '0']
  else
    let places := (-d.exponent).toNat
    if places < digits.length then
      digits.take (digits.length - places) ++ '.' :: digits.drop (digits.length - places)
    else ['0', '.'] ++ List.replicate (places - digits.length) '0' ++ digits

/-- One digit, the others after a point if there are any, and the exponent of the first. -/
def scientificChars (d : Decimal) : List Char :=
  let mantissa := match d.digitChars with
    | first :: second :: others => first :: '.' :: second :: others
    | digits => digits
  mantissa ++ 'e' :: Text.intDigits d.leadingExponent

def chars (layout : Layout) (d : Decimal) : List Char :=
  if layout.plainFrom ≤ d.leadingExponent ∧ d.leadingExponent < layout.plainBelow then d.plainChars
  else d.scientificChars

end Parabola.Decimal

namespace Parabola.Binary64

def magnitudeChars (layout : Decimal.Layout) (x : Binary64) : List Char :=
  if x.isInfinite then ['i', 'n', 'f']
  else if x.isZero then Decimal.plainChars ⟨0, 0⟩
  else (Decimal.shortest x).chars layout

/-- The written form. Every sign is shown, also that of zero; what is no number has none. -/
def chars (layout : Decimal.Layout) (x : Binary64) : List Char :=
  if x.isNaN then ['N', 'a', 'N']
  else if x.negative then '-' :: x.magnitudeChars layout
  else x.magnitudeChars layout

end Parabola.Binary64
