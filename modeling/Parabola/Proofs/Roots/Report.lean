import Parabola.Proofs.Decimal.Reading
import Parabola.Roots

/-!
Reports on roots read back: the lines tell how many roots there are, and each number on them is read
as the root that was written, to the last bit and with its sign.
-/

namespace Parabola

theorem Binary64.toNat_toBits (x : Binary64) :
    x.toBits.toNat = (if x.negative then codeCount else 0) + x.code.val := by
  have code := x.code.isLt
  rw [toBits, UInt64.toNat_ofNat', Nat.mod_eq_of_lt]
  unfold codeCount
  split <;> omega

theorem Binary64.ofBits_toBits (x : Binary64) : ofBits x.toBits = x := by
  have code := x.code.isLt
  rw [ofBits, Binary64.mk.injEq]
  refine ⟨?_, Fin.ext ?_⟩
  · rw [toNat_toBits]
    unfold codeCount
    cases x.negative <;> simp
  · change x.toBits.toNat % codeCount = x.code.val
    rw [toNat_toBits]
    unfold codeCount
    cases x.negative <;> simp

namespace Roots

def bits (roots : Roots) : List UInt64 := roots.toList.map Binary64.toBits

def Numeric (roots : Roots) : Prop := ∀ x ∈ roots.toList, x.isNaN = false

instance (roots : Roots) : Decidable roots.Numeric := inferInstanceAs (Decidable (∀ x ∈ _, _))

def numeralOf? (line : List Char) : Option (List Char) :=
  match line.dropWhile (· ≠ '=') with
  | '=' :: ' ' :: numeral => some numeral
  | _ => Option.none

def numerals (report : String) : List (List Char) :=
  (Text.pieces '\n' report.toList).filterMap numeralOf?

/-- The bit patterns of the numbers that are nearest to the numerals of a report. -/
def readBits (report : String) : List (Option UInt64) :=
  (numerals report).map fun numeral => (Binary64.ofNumeral? numeral).map Binary64.toBits

theorem count_bits (roots : Roots) : roots.bits.length = roots.count := by
  cases roots <;> rfl

theorem bits_injective {roots others : Roots} (same : roots.bits = others.bits) :
    roots = others := by
  have injective := Function.LeftInverse.injective Binary64.ofBits_toBits
  have listed := List.map_injective_iff.mpr injective same
  cases roots <;> cases others <;> simp [toList] at listed ⊢ <;> exact listed

theorem numeralOf_label {label : List Char} (plain : '=' ∉ label) (numeral : List Char) :
    numeralOf? (label ++ '=' :: ' ' :: numeral) = some numeral := by
  have skipped : (label ++ '=' :: ' ' :: numeral).dropWhile (· ≠ '=') = '=' :: ' ' :: numeral := by
    rw [List.dropWhile_append_of_pos fun c member => ?_]
    · rfl
    · exact decide_eq_true fun same => plain (same ▸ member)
  rw [numeralOf?, skipped]
  rfl

theorem reportChars_one (x : Binary64) :
    (one x).reportChars = "x = ".toList ++ rootChars x := rfl

theorem reportChars_two (first second : Binary64) :
    (two first second).reportChars =
      "x1 = ".toList ++ rootChars first ++ '\n' :: ("x2 = ".toList ++ rootChars second) :=
  List.append_assoc ("x1 = ".toList ++ rootChars first) ('\n' :: "x2 = ".toList) _

theorem numerals_report (roots : Roots) :
    numerals roots.report = roots.toList.map rootChars := by
  have unbroken : ∀ x, '\n' ∉ rootChars x := fun x => x.chars_unbroken layout
  have label : "x = ".toList = ['x', ' '] ++ ['=', ' '] := by decide
  have firstLabel : "x1 = ".toList = ['x', '1', ' '] ++ ['=', ' '] := by decide
  have secondLabel : "x2 = ".toList = ['x', '2', ' '] ++ ['=', ' '] := by decide
  rw [numerals, report, String.toList_ofList]
  cases roots with
  | none => decide
  | one x =>
    have line : '\n' ∉ "x = ".toList ++ rootChars x := by simp [label, unbroken x]
    have plain : '=' ∉ ['x', ' '] := by decide
    have numeral := numeralOf_label plain (rootChars x)
    rw [reportChars_one, Text.pieces_plain line, label, List.append_assoc]
    exact List.filterMap_cons_some numeral
  | two first second =>
    have line : '\n' ∉ "x1 = ".toList ++ rootChars first := by simp [firstLabel, unbroken first]
    have next : '\n' ∉ "x2 = ".toList ++ rootChars second := by simp [secondLabel, unbroken second]
    have plain : '=' ∉ ['x', '1', ' '] := by decide
    have nextPlain : '=' ∉ ['x', '2', ' '] := by decide
    have numeral := numeralOf_label plain (rootChars first)
    have last := numeralOf_label nextPlain (rootChars second)
    rw [reportChars_two, Text.pieces_append line, Text.pieces_plain next, firstLabel, secondLabel,
      List.append_assoc, List.append_assoc]
    exact (List.filterMap_cons_some numeral).trans
      (congrArg (rootChars first :: ·) (List.filterMap_cons_some last))

theorem readBits_report {roots : Roots} (numeric : roots.Numeric) :
    readBits roots.report = roots.bits.map some := by
  rw [readBits, numerals_report, bits, List.map_map, List.map_map]
  refine List.map_congr_left fun x member => ?_
  simp [rootChars, Binary64.ofNumeral_chars layout (numeric x member)]

/-- Reports tell root sets apart by the number of roots and by every bit of each. What is read from a
report, with every numeral rounded to the nearest number, is what was reported. -/
theorem report_reads_back :
    (∀ roots others : Roots, roots.Numeric → others.Numeric →
      (roots.report = others.report ↔ roots.count = others.count ∧ roots.bits = others.bits)) ∧
    (∀ roots : Roots, roots.Numeric → readBits roots.report = roots.bits.map some) ∧
    ∀ numeral d negative, Decimal.ofChars? numeral = some d →
      ∃ x, Binary64.ofMagnitude? negative numeral = some x ∧ x.Rounded negative d.value := by
  refine ⟨fun roots others numeric othersNumeric => ?_, fun roots => readBits_report,
    fun numeral d negative read => Binary64.ofMagnitude_rounded read negative⟩
  constructor
  · intro same
    have read := readBits_report numeric
    rw [same, readBits_report othersNumeric] at read
    have bits := (List.map_injective_iff.mpr (Option.some_injective UInt64) read).symm
    exact ⟨by rw [← count_bits, ← count_bits, bits], bits⟩
  · rintro ⟨-, bits⟩
    rw [bits_injective bits]

/-- The least magnitude, and both zeros. -/
theorem report_reads_back_least :
    let roots := two (.ofBits 0x8000000000000001) (.ofBits 0x8000000000000000)
    let others := two (.ofBits 0x8000000000000001) (.ofBits 0)
    roots.Numeric ∧ others.Numeric ∧ roots.report = "x1 = -5e-324\nx2 = -0.0" ∧
      readBits roots.report = [some 0x8000000000000001, some 0x8000000000000000] ∧
      roots.report ≠ others.report ∧ Decimal.ofChars? "5e-324".toList = some ⟨5, -324⟩ ∧
      ∃ x, Binary64.ofMagnitude? true "5e-324".toList = some x ∧
        x.Rounded true (Decimal.mk 5 (-324)).value := by
  intro roots others
  obtain ⟨apart, read, nearest⟩ := report_reads_back
  have numeric : roots.Numeric := by decide
  have othersNumeric : others.Numeric := by decide
  have numeral : Decimal.ofChars? "5e-324".toList = some ⟨5, -324⟩ := by decide +kernel
  refine ⟨numeric, othersNumeric, by decide +kernel, (read roots numeric).trans (by decide), ?_,
    numeral, nearest _ _ true numeral⟩
  intro same
  exact absurd ((apart roots others numeric othersNumeric).mp same).2 (by decide)

end Roots

end Parabola
