/-!
Binary64 numbers: a sign and a magnitude code of 63 bits. The code is the exponent field followed by
the fraction field, so a greater code is a greater magnitude and neighbouring magnitudes have
neighbouring codes. Every arithmetic operation is an exact ratio of naturals followed by one rounding.
-/

namespace Parabola

/-- A binary64 number. Every bit pattern is one value of this type: the codes are the naturals below
2^63. -/
structure Binary64 where
  negative : Bool
  code : Fin 9223372036854775808
deriving DecidableEq

namespace Binary64

/-- How many codes there are, and the weight of the sign in a bit pattern: 2^63. -/
def codeCount : Nat := 9223372036854775808

/-- How many fractions there are, and the weight of the leading bit of a significand: 2^52. -/
def fractionCount : Nat := 4503599627370496

/-- The code of the infinite magnitude, 2047 * 2^52; greater codes are no numbers. -/
def infinityCode : Nat := 9218868437227405312

def twoTo (n : Nat) : Nat := Nat.pow 2 n

def ofBits (bits : UInt64) : Binary64 :=
  ⟨decide (codeCount ≤ bits.toNat), ⟨bits.toNat % codeCount, Nat.mod_lt _ (by decide)⟩⟩

def toBits (x : Binary64) : UInt64 :=
  UInt64.ofNat ((if x.negative then codeCount else 0) + x.code.val)

/-- The number of a magnitude code. Whatever lies beyond the finite codes becomes infinite. -/
def ofCode (negative : Bool) (code : Nat) : Binary64 :=
  ⟨negative, ⟨min code infinityCode, Nat.lt_of_le_of_lt (Nat.min_le_right _ _) (by decide)⟩⟩

def zero (negative : Bool) : Binary64 := ofCode negative 0

def infinity (negative : Bool) : Binary64 := ofCode negative infinityCode

def nan : Binary64 := ⟨false, ⟨infinityCode + fractionCount / 2, by decide⟩⟩

def isNaN (x : Binary64) : Bool := decide (infinityCode < x.code.val)

def isInfinite (x : Binary64) : Bool := decide (x.code.val = infinityCode)

def isFinite (x : Binary64) : Bool := decide (x.code.val < infinityCode)

def isZero (x : Binary64) : Bool := decide (x.code.val = 0)

def neg (x : Binary64) : Binary64 := ⟨!x.negative, x.code⟩

/-- The significand of a finite magnitude, which is `significand * 2 ^ scale`. Below the least
normal magnitude the leading bit is absent. -/
def significand (x : Binary64) : Nat :=
  if x.code.val < fractionCount then x.code.val
  else fractionCount + x.code.val % fractionCount

def scale (x : Binary64) : Int :=
  if x.code.val < fractionCount then -1074 else (x.code.val / fractionCount : Nat) - 1075

end Binary64

end Parabola

/-! Rounding an exact ratio to the nearest number, ties to the even significand -/

namespace Parabola.Binary64

/-- The natural number nearest to a ratio, the even one of two that are equally near. -/
def nearestEven (num den : Nat) : Nat :=
  let floor := num / den
  if 2 * (num % den) < den then floor
  else if den < 2 * (num % den) then floor + 1
  else floor + floor % 2

def ratioLog2 (num den : Nat) : Int :=
  let estimate : Int := (num.log2 : Int) - den.log2
  if den * twoTo estimate.toNat ≤ num * twoTo (-estimate).toNat then estimate else estimate - 1

/-- The power of two to whose multiples a positive ratio is rounded: 53 bits are kept, fewer where
the magnitude is subnormal. -/
def roundingScale (num den : Nat) : Int := max (ratioLog2 num den - 52) (-1074)

/-- The number of a significand of at most 53 bits, or of 2^53, at a scale from -1074 up. -/
def ofSignificand (negative : Bool) (significand : Nat) (scale : Int) : Binary64 :=
  ofCode negative ((scale + 1074).toNat * fractionCount + significand)

def ofRatio (negative : Bool) (num den : Nat) : Binary64 :=
  if num = 0 then zero negative
  else
    let scale := roundingScale num den
    ofSignificand negative
      (nearestEven (num * twoTo (-scale).toNat) (den * twoTo scale.toNat)) scale

def ofScaled (negative : Bool) (significand : Nat) (scale : Int) : Binary64 :=
  ofRatio negative (significand * twoTo scale.toNat) (twoTo (-scale).toNat)

/-! Operations -/

/-- The number nearest to an integer; the integer zero has the plus sign. -/
def ofInt (n : Int) : Binary64 := ofRatio (decide (n < 0)) n.natAbs 1

def signedAt (x : Binary64) (scale : Int) : Int :=
  let magnitude : Nat := x.significand * twoTo (x.scale - scale).toNat
  if x.negative then -(magnitude : Int) else magnitude

/-- The sum of finite numbers. An exact zero is negative only if both summands are. -/
def addFinite (x y : Binary64) : Binary64 :=
  let scale := min x.scale y.scale
  let sum := x.signedAt scale + y.signedAt scale
  if sum = 0 then zero (x.negative && y.negative)
  else ofScaled (decide (sum < 0)) sum.natAbs scale

def add (x y : Binary64) : Binary64 :=
  if x.isNaN || y.isNaN then nan
  else if x.isInfinite then
    if y.isInfinite && x.negative != y.negative then nan else x
  else if y.isInfinite then y
  else addFinite x y

def sub (x y : Binary64) : Binary64 := add x y.neg

def divFinite (x y : Binary64) : Binary64 :=
  let scale := x.scale - y.scale
  ofRatio (x.negative != y.negative) (x.significand * twoTo scale.toNat)
    (y.significand * twoTo (-scale).toNat)

def div (x y : Binary64) : Binary64 :=
  if x.isNaN || y.isNaN then nan
  else if x.isInfinite then
    if y.isInfinite then nan else infinity (x.negative != y.negative)
  else if y.isInfinite then zero (x.negative != y.negative)
  else if y.isZero then
    if x.isZero then nan else infinity (x.negative != y.negative)
  else divFinite x y

def floorSqrt (n : Nat) : Nat :=
  if n = 0 then 0
  else
    let half := 2 * floorSqrt (n / 4)
    if (half + 1) * (half + 1) ≤ n then half + 1 else half
termination_by n

/-- The square root of a positive finite number. The significand is widened until its root has
more bits than a significand; an odd last bit then stands for whatever part of the root is left,
so that no tie is seen where there is none. -/
def sqrtFinite (x : Binary64) : Binary64 :=
  let widening : Nat := 108 + (x.scale % 2).toNat
  let square := x.significand * twoTo widening
  let root := floorSqrt square
  let sticky := if root * root = square then 2 * root else 2 * root + 1
  ofScaled false sticky ((x.scale - widening) / 2 - 1)

def sqrt (x : Binary64) : Binary64 :=
  if x.isNaN || x.isZero then x
  else if x.negative then nan
  else if x.isInfinite then x
  else sqrtFinite x

end Parabola.Binary64
