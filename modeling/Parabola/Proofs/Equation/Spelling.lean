import Mathlib.Logic.Relation
import Parabola.Proofs.Equation.Display

/-!
Texts that are spelled in different ways and read alike. Blanks and the case of characters have no
part in what an equation comes down to or in why it is refused, and where it is accepted no other
character than the symbols, a capital letter for the unknown and blanks occurs in it.
-/

namespace Parabola.Equation

/-- One change of spelling: a blank is put in or taken out anywhere, or a character gives way to one
that has the same lower case. -/
inductive Respelling : List Char → List Char → Prop where
  | insert (front back : List Char) {c : Char} (blank : Text.isBlank c = true) :
    Respelling (front ++ back) (front ++ c :: back)
  | delete (front back : List Char) {c : Char} (blank : Text.isBlank c = true) :
    Respelling (front ++ c :: back) (front ++ back)
  | replace (front back : List Char) {c d : Char} (same : Text.lowercase c = Text.lowercase d) :
    Respelling (front ++ c :: back) (front ++ d :: back)

/-- The second text is the first one with blanks put in and capital letters for the unknown. -/
inductive Dressed : List Char → List Char → Prop where
  | done : Dressed [] []
  | blank {plain raw : List Char} {c : Char} (blank : Text.isBlank c = true)
    (rest : Dressed plain raw) : Dressed plain (c :: raw)
  | kept {plain raw : List Char} (c : Char) (rest : Dressed plain raw) :
    Dressed (c :: plain) (c :: raw)
  | capital {plain raw : List Char} (rest : Dressed plain raw) :
    Dressed ('x' :: plain) ('X' :: raw)

/-! Changes of spelling -/

theorem respelling_normal {s t : List Char} (change : Respelling s t) :
    Text.normalChars t = Text.normalChars s := by
  cases change with
  | insert front back blank => simp [blank]
  | delete front back blank => simp [blank]
  | @replace front back c d same =>
    have blanks : Text.isBlank d = Text.isBlank c := by
      rw [Bool.eq_iff_iff]
      exact ⟨Text.blank_of_lowercase same.symm, Text.blank_of_lowercase same⟩
    simp [blanks, same]

theorem respelled_normal {s t : List Char} (changes : Relation.ReflTransGen Respelling s t) :
    Text.normalChars t = Text.normalChars s := by
  induction changes with
  | refl => rfl
  | tail earlier change ih => exact (respelling_normal change).trans ih

theorem parse_congr {raw other : String}
    (same : Text.normalChars other.toList = Text.normalChars raw.toList) :
    parse other = parse raw := by
  simp only [parse, read, same]

theorem toList_normalize (raw : String) :
    (Text.normalize raw).toList = Text.normalChars raw.toList := String.toList_ofList

theorem normalize_idempotent (raw : String) :
    Text.normalize (Text.normalize raw) = Text.normalize raw := by
  rw [Text.normalize, toList_normalize, Text.normalChars_idempotent, Text.normalize]

theorem parse_normalize (raw : String) : parse (Text.normalize raw) = parse raw := by
  apply parse_congr
  rw [toList_normalize, Text.normalChars_idempotent]

theorem parse_trim (raw : String) : parse (Text.trim raw) = parse raw := by
  apply parse_congr
  rw [Text.trim, String.toList_ofList, Text.normalChars_trimmed]

/-- Texts that differ in blanks and in the case of characters have the same result, also where it is
an error with a position and a character. Neither taking the normal form nor trimming changes it, the
normal form is its own normal form, and it is empty where nothing is left after trimming. -/
theorem spelling_ignored (raw : String) :
    (∀ other : String, Relation.ReflTransGen Respelling raw.toList other.toList →
      parse other = parse raw) ∧
    Text.normalize (Text.normalize raw) = Text.normalize raw ∧
    parse (Text.normalize raw) = parse raw ∧ parse (Text.trim raw) = parse raw ∧
    (Text.trim raw = "" ↔ Text.normalize raw = "") := by
  refine ⟨?_, normalize_idempotent raw, parse_normalize raw, parse_trim raw, ?_⟩
  · intro other changes
    exact parse_congr (respelled_normal changes)
  · exact Text.trim_eq_empty_iff.trans Text.normalize_eq_empty_iff.symm

/-- The sign for kelvin is a `k`, and the error names that letter at its place among the characters
that are not blank. -/
theorem spelling_ignored_kelvin :
    parse "x +\u212a" = parse "x+k" ∧
      parse "x+k" = .error (.expectedTermStart 2 (.char 'k')) := by
  have spaced : Respelling ['x', '+', 'k'] ['x', ' ', '+', 'k'] :=
    .insert ['x'] ['+', 'k'] (by decide)
  have capital : Respelling ['x', ' ', '+', 'k'] ['x', ' ', '+', '\u212a'] :=
    .replace ['x', ' ', '+'] [] (by decide +kernel)
  have changes : Relation.ReflTransGen Respelling "x+k".toList "x +\u212a".toList :=
    .tail (.single spaced) capital
  exact ⟨(spelling_ignored "x+k").1 "x +\u212a" changes, by decide +kernel⟩

/-! The characters of accepted texts -/

theorem symbols_low_or_letter : ∀ c ∈ symbols, c.toNat < 0x61 ∨ c = 'x' := by
  have checked : (symbols.all fun c => decide (c.toNat < 0x61 ∨ c = 'x')) = true := by decide
  simpa using checked

-- Whatever else looks like a symbol, or is a digit of another script, has another lower case.
theorem symbol_of_lowercase {c d : Char} (member : d ∈ Text.lowercase c) (symbol : d ∈ symbols) :
    c ∈ symbols ∨ c = 'X' := by
  rcases symbols_low_or_letter d symbol with low | rfl
  · rw [Text.eq_of_lowercase_low member low]
    exact .inl symbol
  · rcases Text.lowercase_x member with rfl | capital
    · exact .inl symbol
    · exact .inr capital

theorem dressed_normal {plain raw : List Char} (dressed : Dressed plain raw) :
    Text.normalChars raw = Text.normalChars plain := by
  have lowered : Text.normalChars ['X'] = Text.normalChars ['x'] := by decide +kernel
  induction dressed with
  | done => rfl
  | blank blank rest ih => simpa [blank] using ih
  | kept c rest ih => rw [Text.normalChars_cons, ih, Text.normalChars_cons]
  | @capital plain raw rest ih =>
    change Text.normalChars (['X'] ++ raw) = Text.normalChars (['x'] ++ plain)
    rw [Text.normalChars_append, Text.normalChars_append, lowered, ih]

theorem dressed_characters {plain raw : List Char} (dressed : Dressed plain raw)
    (symbolic : ∀ c ∈ plain, c ∈ symbols) :
    ∀ c ∈ raw, Text.isBlank c = true ∨ c ∈ symbols ∨ c = 'X' := by
  induction dressed with
  | done => simp
  | blank blank rest ih =>
    rw [List.forall_mem_cons]
    exact ⟨.inl blank, ih symbolic⟩
  | kept c rest ih =>
    rw [List.forall_mem_cons] at symbolic ⊢
    exact ⟨.inr (.inl symbolic.1), ih symbolic.2⟩
  | capital rest ih =>
    rw [List.forall_mem_cons] at symbolic ⊢
    exact ⟨.inr (.inr rfl), ih symbolic.2⟩

theorem normal_dressed {raw : List Char} (symbolic : ∀ c ∈ Text.normalChars raw, c ∈ symbols) :
    Dressed (Text.normalChars raw) raw := by
  induction raw with
  | nil => exact .done
  | cons c raw ih =>
    have later := ih fun d member => symbolic d (by simp [member])
    by_cases blank : Text.isBlank c = true
    · simpa [blank] using Dressed.blank blank later
    · rw [Text.normalChars_cons, if_neg blank] at symbolic ⊢
      obtain ⟨d, shown⟩ := List.exists_mem_of_ne_nil _ (Text.lowercase_ne_nil c)
      rcases symbol_of_lowercase shown (symbolic d (List.mem_append_left _ shown)) with symbol | rfl
      · rw [(symbols_plain c symbol).2]
        exact .kept c later
      · have lowered : Text.lowercase 'X' = ['x'] := by decide +kernel
        rw [lowered]
        exact .capital later

theorem accepted_symbols {raw : String} {t : Trinomial} (accepted : parse raw = .ok t) :
    ∀ c ∈ Text.normalChars raw.toList, c ∈ symbols := by
  obtain ⟨ws, split, -⟩ := readNormal_ok_iff.mp accepted
  rw [← split]
  exact written_symbols ws

/-- An accepted text consists of symbols, capital letters for the unknown and blanks. The accepted
texts are those that come from an accepted one of symbols alone, of the same trinomial, by putting in
blanks and capital letters. -/
theorem accepted_alphabet (raw : String) (t : Trinomial) :
    (parse raw = .ok t →
      ∀ c ∈ raw.toList, Text.isBlank c = true ∨ c ∈ symbols ∨ c = 'X') ∧
    (parse raw = .ok t ↔
      ∃ plain : String, (∀ c ∈ plain.toList, c ∈ symbols) ∧ parse plain = .ok t ∧
        Dressed plain.toList raw.toList) := by
  constructor
  · intro accepted
    have symbolic := accepted_symbols accepted
    exact dressed_characters (normal_dressed symbolic) symbolic
  · constructor
    · intro accepted
      have symbolic := accepted_symbols accepted
      refine ⟨Text.normalize raw, ?_, (parse_normalize raw).trans accepted, ?_⟩
      · rwa [toList_normalize]
      · rw [toList_normalize]
        exact normal_dressed symbolic
    · rintro ⟨plain, -, accepted, dressed⟩
      rw [← accepted]
      exact parse_congr (dressed_normal dressed)

/-- Blanks stand around and inside a number, and a capital letter is taken for the unknown. -/
theorem accepted_alphabet_spaced :
    parse "X^2 - 1 0x" = .ok ⟨.one, ⟨-10, by decide, by decide⟩, .zero⟩ ∧
      ∀ c ∈ "X^2 - 1 0x".toList, Text.isBlank c = true ∨ c ∈ symbols ∨ c = 'X' := by
  have accepted : parse "X^2 - 1 0x" = .ok ⟨.one, ⟨-10, by decide, by decide⟩, .zero⟩ := by
    decide +kernel
  exact ⟨accepted, (accepted_alphabet _ _).1 accepted⟩

end Parabola.Equation
