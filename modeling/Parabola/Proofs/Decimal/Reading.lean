import Parabola.Decimal
import Parabola.Proofs.Decimal.Shortest
import Parabola.Proofs.Equation.Display
import Parabola.Text.Basic

/-!
Numerals read back. A reader of decimals that knows nothing of how they are laid out gives back the
number of every decimal that was written, and the binary64 number nearest to what it reads is the
one whose written form it was given.
-/

namespace Parabola.Decimal

open Equation (runValue)

/-! Reading decimals -/

def IsRun (s : List Char) : Prop := s ≠ [] ∧ ∀ c ∈ s, c.isDigit = true

instance (s : List Char) : Decidable (IsRun s) :=
  decidable_of_iff (s ≠ [] ∧ s.all Char.isDigit = true) (by rw [IsRun, List.all_eq_true])

def naturalOf? (s : List Char) : Option Nat := if IsRun s then some (runValue 0 s) else none

def integerOf? (s : List Char) : Option Int :=
  if s.head? = some '-' then (naturalOf? s.tail).map fun n : Nat => -(n : Int)
  else (naturalOf? s).map fun n : Nat => (n : Int)

/-- A run of digits, perhaps with a point between two of them, at a power of ten. -/
def mantissaOf? (s : List Char) (power : Int) : Option Decimal :=
  match Text.pieces '.' s with
  | [whole] => if IsRun whole then some ⟨runValue 0 whole, power⟩ else none
  | [whole, places] =>
    if IsRun whole ∧ IsRun places then some ⟨runValue 0 (whole ++ places), power - places.length⟩
    else none
  | _ => none

/-- The decimal of a numeral without a sign, perhaps with an exponent behind the letter `e`. -/
def ofChars? (s : List Char) : Option Decimal :=
  match Text.pieces 'e' s with
  | [mantissa] => mantissaOf? mantissa 0
  | [mantissa, power] =>
    match integerOf? power with
    | some power => mantissaOf? mantissa power
    | none => none
  | _ => none

end Parabola.Decimal

namespace Parabola.Binary64

def ofMagnitude? (negative : Bool) (s : List Char) : Option Binary64 :=
  if s = ['i', 'n', 'f'] then some (infinity negative)
  else (Decimal.ofChars? s).map (Decimal.rounded negative)

/-- The number nearest to a numeral. -/
def ofNumeral? (s : List Char) : Option Binary64 :=
  if s.head? = some '-' then ofMagnitude? true s.tail else ofMagnitude? false s

end Parabola.Binary64

namespace Parabola.Decimal

open Equation (runValue)

/-! Runs of digits -/

section runs

variable {s t : List Char}

theorem IsRun.append (front : IsRun s) (back : IsRun t) : IsRun (s ++ t) :=
  ⟨by simp [front.1], fun c member => (List.mem_append.mp member).elim (front.2 c) (back.2 c)⟩

theorem IsRun.not_mem (run : IsRun s) {mark : Char} (other : mark.isDigit = false) : mark ∉ s := by
  intro member
  rw [run.2 mark member] at other
  cases other

theorem isRun_zeros (n : Nat) : IsRun (List.replicate (n + 1) '0') :=
  ⟨by simp, fun c member => by rw [List.eq_of_mem_replicate member]; rfl⟩

theorem IsRun.padded (run : IsRun s) (n : Nat) :
    IsRun (List.replicate n '0' ++ s) ∧ IsRun (s ++ List.replicate n '0') := by
  cases n with
  | zero => simpa using run
  | succ n => exact ⟨(isRun_zeros n).append run, run.append (isRun_zeros n)⟩

theorem isRun_digitChars (d : Decimal) : IsRun d.digitChars :=
  ⟨Equation.natDigits_ne_nil _, Equation.natDigits_digits _⟩

theorem value_digitChars (d : Decimal) : runValue 0 d.digitChars = d.digits :=
  Equation.natDigits_value _

theorem runValue_zeros (value n : Nat) :
    runValue value (List.replicate n '0') = value * 10 ^ n := by
  induction n generalizing value with
  | zero => simp
  | succ n ih =>
    rw [List.replicate_succ, Equation.runValue_cons, ih, pow_succ']
    simp [Text.digitValue, mul_assoc]

theorem integerOf_intDigits (n : Int) : integerOf? (Text.intDigits n) = some n := by
  have run : ∀ m, naturalOf? (Text.natDigits m) = some m := fun m => by
    rw [naturalOf?, if_pos ⟨Equation.natDigits_ne_nil m, Equation.natDigits_digits m⟩,
      Equation.natDigits_value]
  unfold integerOf? Text.intDigits
  by_cases negative : n < 0
  · rw [if_pos negative, List.head?_cons, if_pos rfl, List.tail_cons, run, Option.map_some]
    exact congrArg some (by omega)
  · have plain : (Text.natDigits n.natAbs).head? ≠ some '-' := by
      intro first
      have digit := Equation.natDigits_digits n.natAbs '-' (List.mem_of_head? first)
      cases digit
    rw [if_neg negative, if_neg plain, run, Option.map_some]
    exact congrArg some (by omega)

theorem mantissaOf_whole (run : IsRun s) (power : Int) :
    mantissaOf? s power = some ⟨runValue 0 s, power⟩ := by
  rw [mantissaOf?, Text.pieces_plain (run.not_mem rfl)]
  exact if_pos run

theorem mantissaOf_point (whole : IsRun s) (places : IsRun t) (power : Int) :
    mantissaOf? (s ++ '.' :: t) power = some ⟨runValue 0 (s ++ t), power - t.length⟩ := by
  rw [mantissaOf?, Text.pieces_append (whole.not_mem rfl), Text.pieces_plain (places.not_mem rfl)]
  exact if_pos ⟨whole, places⟩

end runs

/-! Layouts -/

theorem intDigits_plain (n : Int) {mark : Char} (other : mark.isDigit = false) (unsigned : mark ≠ '-') :
    mark ∉ Text.intDigits n := by
  have run : mark ∉ Text.natDigits n.natAbs := fun member => by
    rw [Equation.natDigits_digits _ mark member] at other
    cases other
  rw [Equation.intDigits_eq]
  split <;> simp [run, unsigned]

-- Behind the digits come zeros up to the unit and one more behind the point.
theorem mantissaOf_whole_number {d : Decimal} (whole : 0 ≤ d.exponent) :
    ∃ read, mantissaOf? (d.digitChars ++ List.replicate d.exponent.toNat '0' ++ ['.', '0']) 0 =
      some read ∧ read.value = d.value := by
  refine ⟨_, mantissaOf_point ((isRun_digitChars d).padded _).2 (isRun_zeros 0) 0, ?_⟩
  have power : (10 : ℝ) ^ d.exponent = 10 ^ d.exponent.toNat := by
    rw [← zpow_natCast, Int.toNat_of_nonneg whole]
  rw [value, value, Equation.runValue_append, Equation.runValue_append, value_digitChars,
    runValue_zeros, runValue_zeros, power]
  push_cast
  simp [mul_assoc]

theorem mantissaOf_inside {d : Decimal} (broken : d.exponent < 0)
    (inside : (-d.exponent).toNat < d.digitChars.length) :
    mantissaOf? (d.digitChars.take (d.digitChars.length - (-d.exponent).toNat) ++
      '.' :: d.digitChars.drop (d.digitChars.length - (-d.exponent).toNat)) 0 = some d := by
  have front : IsRun (d.digitChars.take (d.digitChars.length - (-d.exponent).toNat)) :=
    ⟨List.ne_nil_of_length_pos (by rw [List.length_take]; omega),
      fun c member => (isRun_digitChars d).2 c (List.mem_of_mem_take member)⟩
  have back : IsRun (d.digitChars.drop (d.digitChars.length - (-d.exponent).toNat)) :=
    ⟨List.ne_nil_of_length_pos (by rw [List.length_drop]; omega),
      fun c member => (isRun_digitChars d).2 c (List.mem_of_mem_drop member)⟩
  have power : (0 : Int) - (d.digitChars.drop (d.digitChars.length - (-d.exponent).toNat)).length =
      d.exponent := by
    rw [List.length_drop]
    omega
  rw [mantissaOf_point front back, List.take_append_drop, value_digitChars, power]

theorem mantissaOf_below_one {d : Decimal} (broken : d.exponent < 0)
    (below : d.digitChars.length ≤ (-d.exponent).toNat) :
    mantissaOf? ('0' :: '.' :: (List.replicate ((-d.exponent).toNat - d.digitChars.length) '0' ++
      d.digitChars)) 0 = some d := by
  have places := ((isRun_digitChars d).padded ((-d.exponent).toNat - d.digitChars.length)).1
  have read := mantissaOf_point (isRun_zeros 0) places 0
  have power : (0 : Int) - (List.replicate ((-d.exponent).toNat - d.digitChars.length) '0' ++
      d.digitChars).length = d.exponent := by
    rw [List.length_append, List.length_replicate]
    omega
  rw [Equation.runValue_append, Equation.runValue_append, runValue_zeros, runValue_zeros,
    Nat.zero_mul, Nat.zero_mul, value_digitChars, power] at read
  exact read

theorem mantissaOf_plain (d : Decimal) :
    ∃ read, mantissaOf? d.plainChars 0 = some read ∧ read.value = d.value := by
  unfold plainChars
  by_cases whole : 0 ≤ d.exponent
  · simp only [if_pos whole]
    exact mantissaOf_whole_number whole
  · have broken := not_le.mp whole
    by_cases inside : (-d.exponent).toNat < d.digitChars.length
    · simp only [if_neg whole, if_pos inside]
      exact ⟨d, mantissaOf_inside broken inside, rfl⟩
    · simp only [if_neg whole, if_neg inside]
      exact ⟨d, mantissaOf_below_one broken (not_lt.mp inside), rfl⟩

theorem plainChars_plain (d : Decimal) {mark : Char} (other : mark.isDigit = false)
    (point : mark ≠ '.') : mark ∉ d.plainChars := by
  have digits := (isRun_digitChars d).not_mem other
  have zero : mark ≠ '0' := by
    rintro rfl
    cases other
  unfold plainChars
  simp only
  split
  · simp [digits, zero, point]
  · split
    · simp [mt List.mem_of_mem_take digits, mt List.mem_of_mem_drop digits, point]
    · simp [digits, zero, point]

theorem IsRun.head {s : List Char} (run : IsRun s) :
    ∃ c rest, s = c :: rest ∧ c.isDigit = true := by
  cases s with
  | nil => exact absurd rfl run.1
  | cons c rest => exact ⟨c, rest, rfl, run.2 c List.mem_cons_self⟩

theorem ofChars_scientific (d : Decimal) : ofChars? d.scientificChars = some d := by
  have power : 'e' ∉ Text.intDigits d.leadingExponent := intDigits_plain _ rfl (by decide)
  have run := isRun_digitChars d
  have digits := value_digitChars d
  have leading : d.leadingExponent = d.exponent + d.digitChars.length - 1 := rfl
  unfold scientificChars
  obtain ⟨c, rest, shape, digit⟩ := run.head
  rw [shape] at run digits leading ⊢
  have first : IsRun [c] := ⟨by simp, by simpa using digit⟩
  have same : ∀ exponent, exponent = d.exponent → some (Decimal.mk d.digits exponent) = some d := by
    rintro exponent rfl
    rfl
  cases rest with
  | nil =>
    simp only
    rw [ofChars?, Text.pieces_append (first.not_mem rfl), Text.pieces_plain power]
    simp only [integerOf_intDigits]
    rw [mantissaOf_whole first, digits]
    exact same _ (by rw [leading]; simp)
  | cons next others =>
    have later : IsRun (next :: others) := ⟨by simp, fun c member => run.2 c (by simp [member])⟩
    have plain : 'e' ∉ c :: '.' :: next :: others := by
      have none : 'e' ∉ c :: next :: others := run.not_mem rfl
      simp only [List.mem_cons, not_or] at none ⊢
      exact ⟨none.1, by decide, none.2⟩
    simp only
    rw [ofChars?, Text.pieces_append plain, Text.pieces_plain power]
    simp only [integerOf_intDigits]
    have read := mantissaOf_point first later d.leadingExponent
    rw [List.singleton_append, List.singleton_append, digits] at read
    rw [read]
    refine same _ ?_
    rw [leading]
    simp only [List.length_cons]
    omega

/-- A decimal is read back from either form of it, as the same number. -/
theorem ofChars_chars (layout : Layout) (d : Decimal) :
    ∃ read, ofChars? (d.chars layout) = some read ∧ read.value = d.value := by
  unfold chars
  split
  · rw [ofChars?, Text.pieces_plain (d.plainChars_plain rfl (by decide))]
    exact mantissaOf_plain d
  · exact ⟨d, ofChars_scientific d, rfl⟩

theorem chars_plain (layout : Layout) (d : Decimal) {mark : Char} (other : mark.isDigit = false)
    (unused : mark ∉ ['.', 'e', '-']) : mark ∉ d.chars layout := by
  simp only [List.mem_cons, List.not_mem_nil, or_false, not_or] at unused
  obtain ⟨point, letter, sign⟩ := unused
  have digits := (isRun_digitChars d).not_mem other
  have power := intDigits_plain d.leadingExponent other sign
  unfold chars scientificChars
  split
  · exact d.plainChars_plain other point
  · split
    · next first second others shape =>
      rw [shape] at digits
      simp only [List.mem_cons, not_or] at digits
      simp [digits, power, letter, point]
    · simp [digits, power, letter]

theorem chars_head (layout : Layout) (d : Decimal) :
    ∃ c rest, d.chars layout = c :: rest ∧ c.isDigit = true := by
  obtain ⟨c, rest, shape, digit⟩ := (isRun_digitChars d).head
  have zero : '0'.isDigit = true := rfl
  unfold chars plainChars scientificChars
  split
  · simp only
    split
    · exact ⟨c, _, by rw [shape]; rfl, digit⟩
    · split
      · next inside =>
        obtain ⟨n, front⟩ : ∃ n, d.digitChars.length - (-d.exponent).toNat = n + 1 :=
          ⟨d.digitChars.length - (-d.exponent).toNat - 1, by omega⟩
        rw [front]
        exact ⟨c, _, by rw [shape, List.take_succ_cons, List.cons_append], digit⟩
      · exact ⟨'0', _, rfl, zero⟩
  · rw [shape]
    cases rest with
    | nil => exact ⟨c, _, rfl, digit⟩
    | cons next others => exact ⟨c, _, rfl, digit⟩

end Parabola.Decimal

namespace Parabola.Binary64

theorem ofMagnitude_digits {s : List Char} (begins : ∃ c rest, s = c :: rest ∧ c.isDigit = true)
    (negative : Bool) :
    ofMagnitude? negative s = (Decimal.ofChars? s).map (Decimal.rounded negative) := by
  refine if_neg ?_
  rintro rfl
  obtain ⟨c, rest, shape, digit⟩ := begins
  cases shape
  cases digit

theorem ofMagnitude_rounded {s : List Char} {d : Decimal} (read : Decimal.ofChars? s = some d)
    (negative : Bool) :
    ∃ x, ofMagnitude? negative s = some x ∧ Rounded negative d.value x := by
  have decimal : s ≠ ['i', 'n', 'f'] := by
    rintro rfl
    cases read
  refine ⟨d.rounded negative, ?_, Decimal.rounded_eq negative d⟩
  rw [ofMagnitude?, if_neg decimal, read, Option.map_some]

theorem infinity_self {x : Binary64} (infinite : x.isInfinite = true) :
    infinity x.negative = x := by
  have code : x.code.val = infinityCode := of_decide_eq_true infinite
  rw [infinity, ofCode, Binary64.mk.injEq]
  exact ⟨rfl, Fin.ext (by simp [code])⟩

theorem zero_self {x : Binary64} (vanishes : x.isZero = true) : zero x.negative = x := by
  have code : x.code.val = 0 := of_decide_eq_true vanishes
  rw [zero, ofCode, Binary64.mk.injEq]
  exact ⟨rfl, Fin.ext (by simp [code])⟩

theorem finite_of_number {x : Binary64} (number : x.isNaN = false) (bounded : ¬ x.isInfinite = true) :
    x.isFinite = true := by
  have atMost := of_decide_eq_false number
  have other : x.code.val ≠ infinityCode := fun same => bounded (decide_eq_true same)
  exact decide_eq_true (by omega)

theorem zero_chars : Decimal.plainChars ⟨0, 0⟩ = ['0', '.', '0'] := by decide +kernel

theorem ofMagnitude_chars (layout : Decimal.Layout) {x : Binary64} (number : x.isNaN = false) :
    ofMagnitude? x.negative (x.magnitudeChars layout) = some x := by
  unfold magnitudeChars
  by_cases infinite : x.isInfinite = true
  · rw [if_pos infinite]
    exact congrArg some (infinity_self infinite)
  · rw [if_neg infinite]
    by_cases none : x.isZero = true
    · have zero : Decimal.ofChars? ['0', '.', '0'] = some ⟨0, -1⟩ := by decide +kernel
      rw [if_pos none, zero_chars, ofMagnitude_digits ⟨'0', _, rfl, rfl⟩, zero, Option.map_some]
      exact congrArg some (zero_self none)
    · have some : x.isZero = false := by simpa using none
      obtain ⟨read, found, same⟩ := Decimal.ofChars_chars layout (Decimal.shortest x)
      have encloses := Decimal.shortest_encloses some
      rw [← same] at encloses
      rw [if_neg none, ofMagnitude_digits (Decimal.chars_head layout _), found, Option.map_some,
        Decimal.rounded_of_encloses (finite_of_number number infinite) some encloses]

theorem magnitude_unsigned (layout : Decimal.Layout) (x : Binary64) :
    (x.magnitudeChars layout).head? ≠ some '-' := by
  unfold magnitudeChars
  split
  · simp
  · split
    · simp [zero_chars]
    · obtain ⟨c, rest, shape, digit⟩ := Decimal.chars_head layout (Decimal.shortest x)
      rw [shape, List.head?_cons, ne_eq, Option.some.injEq]
      rintro rfl
      cases digit

theorem chars_unbroken (layout : Decimal.Layout) (x : Binary64) : '\n' ∉ x.chars layout := by
  have magnitude : '\n' ∉ x.magnitudeChars layout := by
    unfold magnitudeChars
    split
    · decide
    · split
      · rw [zero_chars]
        decide
      · exact Decimal.chars_plain layout _ rfl (by decide)
  unfold chars
  split
  · decide
  · split
    · simpa using magnitude
    · exact magnitude

/-- Every number is read back from its written form. -/
theorem ofNumeral_chars (layout : Decimal.Layout) {x : Binary64} (number : x.isNaN = false) :
    ofNumeral? (x.chars layout) = some x := by
  have read := ofMagnitude_chars layout number
  unfold chars
  rw [if_neg (by simp [number])]
  cases negative : x.negative with
  | true =>
    rw [negative] at read
    simpa [ofNumeral?] using read
  | false =>
    rw [negative] at read
    simpa [ofNumeral?, magnitude_unsigned layout x] using read

end Parabola.Binary64
