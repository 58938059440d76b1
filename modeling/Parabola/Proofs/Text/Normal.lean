import Parabola.Proofs.Text.Basic
import Parabola.Text.Basic
import Parabola.Text.Normal

/-!
What becomes of a character in lower case stays as it is from then on, and blanks are neither changed
nor brought in. For the table of spans this is a matter of ranges that keep apart.
-/

namespace Parabola.Text

namespace CaseSpan

variable {span other : CaseSpan}

def least (span : CaseSpan) : Nat := (span.first + span.shift).toNat

def greatest (span : CaseSpan) : Nat := (span.last + span.shift).toNat

/-- Whether the code points that it yields are clear of those that another one moves. In many
alphabets the cases alternate, so their ranges overlap and only every second code point counts. -/
def spares (span other : CaseSpan) : Bool :=
  Nat.blt span.greatest other.first || Nat.blt other.last span.least ||
    (other.step == 2 && (span.step == 2 || span.first == span.last) &&
      (span.least + other.first) % 2 == 1)

theorem moves_iff {code : Nat} : span.moves code = true ↔
    span.first ≤ code ∧ code ≤ span.last ∧ (code - span.first) % span.step = 0 := by
  simp [moves, and_assoc]

theorem spared {code yielded : Nat} (natural : 0 ≤ span.first + span.shift)
    (spares : span.spares other = true) (moved : span.moves code = true)
    (same : (yielded : Int) = code + span.shift) :
    other.moves yielded = false := by
  rw [← Bool.not_eq_true, moves_iff]
  rintro ⟨first, last, steps⟩
  obtain ⟨low, high, whole⟩ := moves_iff.mp moved
  simp only [CaseSpan.spares, least, greatest, Bool.or_eq_true, Bool.and_eq_true, Nat.blt_eq,
    beq_iff_eq] at spares
  rcases spares with (before | behind) | ⟨⟨two, alternate | single⟩, odd⟩
  · omega
  · omega
  · rw [alternate] at whole
    rw [two] at steps
    omega
  · rw [two] at steps
    omega

end CaseSpan

/-! The table -/

theorem caseSpans_valid : ∀ span ∈ caseSpans, 0 ≤ span.first + span.shift ∧
    (span.greatest < 0xD800 ∨ 0xDFFF < span.least ∧ span.greatest < 0x110000) := by
  decide +kernel

theorem caseSpans_spare :
    (caseSpans.all fun span => caseSpans.all fun other => span.spares other) = true := by
  decide +kernel

theorem caseSpans_dotless : ∀ span ∈ caseSpans, span.greatest < 0x130 ∨ 0x130 < span.least := by
  decide +kernel

theorem caseSpans_visible : ∀ span ∈ caseSpans, ∀ range ∈ blankRanges,
    span.greatest < range.1 ∨ range.2 < span.least := by
  decide +kernel

theorem caseSpans_blanks : ∀ span ∈ caseSpans, ∀ range ∈ blankRanges,
    span.last < range.1 ∨ range.2 < span.first := by
  decide +kernel

theorem caseSpans_letters : ∀ span ∈ caseSpans, 0x61 ≤ span.least ∧
    (span.greatest < 0x78 ∨ 0x78 < span.least ∨ span.shift = 32) := by
  decide +kernel

/-! Characters -/

section Moved

variable {span : CaseSpan} {c : Char} (member : span ∈ caseSpans)
  (moved : span.moves c.toNat = true)
include member moved

theorem apply_code : ((span.apply c).toNat : Int) = c.toNat + span.shift := by
  obtain ⟨low, high, -⟩ := CaseSpan.moves_iff.mp moved
  obtain ⟨natural, scalar⟩ := caseSpans_valid span member
  simp only [CaseSpan.least, CaseSpan.greatest] at scalar
  have valid : (c.toNat + span.shift).toNat.isValidChar := by
    unfold Nat.isValidChar
    omega
  have code : (span.apply c).toNat = (c.toNat + span.shift).toNat := by
    rw [CaseSpan.apply, Char.ofNat, dif_pos valid]
    rfl
  omega

theorem apply_between : span.least ≤ (span.apply c).toNat ∧ (span.apply c).toNat ≤ span.greatest := by
  obtain ⟨low, high, -⟩ := CaseSpan.moves_iff.mp moved
  have code := apply_code member moved
  unfold CaseSpan.least CaseSpan.greatest
  omega

theorem lowercase_apply : lowercase (span.apply c) = [span.apply c] := by
  have between := apply_between member moved
  have apart : span.apply c ≠ dottedCapitalI := by
    intro same
    have dotless := caseSpans_dotless span member
    have code : (span.apply c).toNat = 0x130 := by
      rw [same]
      rfl
    omega
  have unmoved : caseSpans.find? (·.moves (span.apply c).toNat) = none := by
    rw [List.find?_eq_none]
    intro other listed again
    have natural := (caseSpans_valid span member).1
    have spares := List.all_eq_true.mp (List.all_eq_true.mp caseSpans_spare span member) other listed
    rw [CaseSpan.spared natural spares moved (apply_code member moved)] at again
    cases again
  simp [lowercase, apart, unmoved]

theorem apply_visible : isBlank (span.apply c) = false := by
  have between := apply_between member moved
  rw [isBlank, CodeRanges.covers, List.any_eq_false]
  intro range listed held
  have visible := caseSpans_visible span member range listed
  simp only [Bool.and_eq_true, decide_eq_true_eq] at held
  omega

end Moved

theorem lowercase_cases (c : Char) :
    lowercase c = [c] ∨ (c = dottedCapitalI ∧ lowercase c = ['i', '\u0307']) ∨
      ∃ span ∈ caseSpans, span.moves c.toNat = true ∧ lowercase c = [span.apply c] := by
  by_cases dotted : c = dottedCapitalI
  · exact .inr (.inl ⟨dotted, if_pos dotted⟩)
  · cases found : caseSpans.find? (·.moves c.toNat) with
    | none => exact .inl (by simp [lowercase, dotted, found])
    | some span =>
      have moved := List.find?_some found
      have member := List.mem_of_find?_eq_some found
      exact .inr (.inr ⟨span, member, moved, by simp [lowercase, dotted, found]⟩)

theorem dotted_parts {d : Char} (member : d ∈ ['i', '\u0307']) :
    lowercase d = [d] ∧ isBlank d = false ∧ 0x61 ≤ d.toNat := by
  have parts : d = 'i' ∨ d = '\u0307' := by simpa using member
  rcases parts with rfl | rfl <;> decide +kernel

theorem lowercase_ne_nil (c : Char) : lowercase c ≠ [] := by
  rcases lowercase_cases c with same | ⟨-, dotted⟩ | ⟨span, -, -, moved⟩ <;> simp [*]

/-- What lower case yields is left as it is, and is blank only if it was there before. -/
theorem lowercase_member {c d : Char} (member : d ∈ lowercase c) :
    lowercase d = [d] ∧ (isBlank d = true → d = c) := by
  rcases lowercase_cases c with same | ⟨-, dotted⟩ | ⟨span, listed, moved, changed⟩
  · rw [same, List.mem_singleton] at member
    subst member
    exact ⟨same, fun _ => rfl⟩
  · obtain ⟨same, visible, -⟩ := dotted_parts (dotted ▸ member)
    exact ⟨same, by simp [visible]⟩
  · rw [changed, List.mem_singleton] at member
    subst member
    exact ⟨lowercase_apply listed moved, by simp [apply_visible listed moved]⟩

theorem lowercase_blank {c : Char} (blank : isBlank c = true) : lowercase c = [c] := by
  rcases lowercase_cases c with same | ⟨rfl, -⟩ | ⟨span, listed, moved, -⟩
  · exact same
  · exact absurd blank (by decide)
  · obtain ⟨range, held, inside⟩ := List.any_eq_true.mp blank
    obtain ⟨low, high, -⟩ := CaseSpan.moves_iff.mp moved
    have apart := caseSpans_blanks span listed range held
    simp only [Bool.and_eq_true, decide_eq_true_eq] at inside
    omega

theorem blank_of_lowercase {c d : Char} (same : lowercase c = lowercase d)
    (blank : isBlank c = true) : isBlank d = true := by
  have member : c ∈ lowercase d := by simp [← same, lowercase_blank blank]
  rwa [← (lowercase_member member).2 blank]

/-! Where a character may come from -/

theorem eq_of_lowercase_low {c d : Char} (member : d ∈ lowercase c) (low : d.toNat < 0x61) :
    c = d := by
  rcases lowercase_cases c with same | ⟨-, dotted⟩ | ⟨span, listed, moved, changed⟩
  · rw [same, List.mem_singleton] at member
    exact member.symm
  · have high := (dotted_parts (dotted ▸ member)).2.2
    omega
  · rw [changed, List.mem_singleton] at member
    have between := apply_between listed moved
    have letters := (caseSpans_letters span listed).1
    rw [← member] at between
    omega

-- Of all characters that are moved only the capital letter becomes an `x`.
theorem lowercase_x {c : Char} (member : 'x' ∈ lowercase c) : c = 'x' ∨ c = 'X' := by
  rcases lowercase_cases c with same | ⟨-, dotted⟩ | ⟨span, listed, moved, changed⟩
  · rw [same, List.mem_singleton] at member
    exact .inl member.symm
  · rw [dotted] at member
    exact absurd member (by decide)
  · rw [changed, List.mem_singleton] at member
    have between := apply_between listed moved
    have code := apply_code listed moved
    have letter : 'x'.toNat = 0x78 := rfl
    rw [← member, letter] at between code
    have letters := (caseSpans_letters span listed).2
    have capital : c.toNat = 'X'.toNat := by
      have value : 'X'.toNat = 0x58 := rfl
      omega
    exact .inr (Char.toNat_inj.mp capital)

end Parabola.Text

/-!
The normal form of a text, character by character: blanks are gone, and what is left is neither blank
nor changed by lower case, so a normal form is its own normal form.
-/

namespace Parabola.Text

def Plain (c : Char) : Prop := isBlank c = false ∧ lowercase c = [c]

instance (c : Char) : Decidable (Plain c) := inferInstanceAs (Decidable (_ ∧ _))

@[simp] theorem normalChars_nil : normalChars [] = [] := rfl

@[simp] theorem normalChars_append (s t : List Char) :
    normalChars (s ++ t) = normalChars s ++ normalChars t := by
  simp [normalChars]

@[simp] theorem normalChars_cons (c : Char) (s : List Char) :
    normalChars (c :: s) = (if isBlank c then [] else lowercase c) ++ normalChars s := by
  by_cases blank : isBlank c = true <;> simp [normalChars, blank]

theorem mem_normalChars {d : Char} {s : List Char} :
    d ∈ normalChars s ↔ ∃ c ∈ s, isBlank c = false ∧ d ∈ lowercase c := by
  simp [normalChars, and_assoc]

theorem normalChars_plain {chars : List Char} (plain : ∀ c ∈ chars, Plain c) :
    normalChars chars = chars := by
  induction chars with
  | nil => rfl
  | cons c chars ih =>
    obtain ⟨visible, same⟩ := plain c (by simp)
    have rest := ih fun d member => plain d (by simp [member])
    simp [visible, same, rest]

theorem plain_of_mem_normalChars {d : Char} {s : List Char} (member : d ∈ normalChars s) :
    Plain d := by
  obtain ⟨c, -, visible, low⟩ := mem_normalChars.mp member
  obtain ⟨same, source⟩ := lowercase_member low
  constructor
  · by_contra blank
    rw [Bool.not_eq_false] at blank
    rw [source blank, visible] at blank
    cases blank
  · exact same

theorem normalChars_idempotent (s : List Char) : normalChars (normalChars s) = normalChars s :=
  normalChars_plain fun _ => plain_of_mem_normalChars

/-! Blanks -/

theorem normalChars_eq_nil_iff {s : List Char} :
    normalChars s = [] ↔ ∀ c ∈ s, isBlank c = true := by
  induction s with
  | nil => simp
  | cons c s ih =>
    by_cases blank : isBlank c = true
    · simpa [blank] using ih
    · simp [blank, lowercase_ne_nil c]

theorem normalChars_trimmed (s : List Char) : normalChars (trimmed s) = normalChars s := by
  obtain ⟨-, front, back, split, frontBlank, backBlank⟩ := trimmed_eq_iff.mp (rfl : trimmed s = _)
  have around : normalChars s = normalChars (front ++ trimmed s ++ back) := congrArg _ split
  rw [around, normalChars_append, normalChars_append, normalChars_eq_nil_iff.mpr frontBlank,
    normalChars_eq_nil_iff.mpr backBlank, List.nil_append, List.append_nil]

theorem normalize_eq_empty_iff {s : String} :
    normalize s = "" ↔ ∀ c ∈ s.toList, isBlank c = true := by
  rw [← normalChars_eq_nil_iff, normalize]
  exact String.ofList_eq_empty_iff

end Parabola.Text
