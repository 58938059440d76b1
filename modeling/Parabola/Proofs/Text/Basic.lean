import Mathlib.Data.List.TakeWhile
import Parabola.Feed
import Parabola.Text.Basic

/-!
Texts and the bytes that spell them. Only the newline character brings in a newline byte, so texts
joined by newlines are cut at the bytes as at the characters.
-/

namespace Parabola.Text

theorem toBytes_eq (s : String) : toBytes s = s.toList.flatMap String.utf8EncodeChar := by
  rw [toBytes, String.toUTF8_eq_toByteArray, ← String.utf8Encode_toList, List.utf8Encode,
    List.toList_data_toByteArray]

@[simp] theorem toBytes_append (s t : String) : toBytes (s ++ t) = toBytes s ++ toBytes t := by
  simp [toBytes_eq]

@[simp] theorem ofBytes?_toBytes (s : String) : ofBytes? (toBytes s) = some s := by
  simp [ofBytes?, toBytes, String.fromUTF8?, s.isValidUTF8, String.fromUTF8]

theorem ofBytes?_eq_some_iff {bytes : List UInt8} {text : String} :
    ofBytes? bytes = some text ↔ toBytes text = bytes := by
  constructor
  · intro spelled
    unfold ofBytes? String.fromUTF8? at spelled
    split at spelled
    · cases spelled
      rfl
    · cases spelled
  · rintro rfl
    exact ofBytes?_toBytes text

theorem toBytes_injective {s t : String} (same : toBytes s = toBytes t) : s = t := by
  simpa using congrArg ofBytes? same

theorem toBytes_join (texts : List String) :
    toBytes (String.join texts) = texts.flatMap toBytes := by
  induction texts with
  | nil => rfl
  | cons text texts ih => rw [String.join_cons, toBytes_append, ih, List.flatMap_cons]

/-! Newlines -/

theorem newline_eq_ofNat {n : Nat} (small : n < 256) :
    Lines.newline = UInt8.ofNat n ↔ n = 10 := by
  rw [← UInt8.toNat_inj, UInt8.toNat_ofNat', Nat.mod_eq_of_lt small]
  exact eq_comm

theorem newline_ne_high {n : Nat} (high : 128 ≤ n) (small : n < 256) :
    Lines.newline ≠ UInt8.ofNat n := by
  rw [ne_eq, newline_eq_ofNat small]
  omega

theorem newline_of_mem_encode {c : Char} (member : Lines.newline ∈ String.utf8EncodeChar c) :
    c = '\n' := by
  unfold String.utf8EncodeChar at member
  dsimp only at member
  split at member
  · next ascii =>
    rw [List.mem_singleton, newline_eq_ofNat (by omega)] at member
    exact Char.ext (UInt32.toNat_inj.mp member)
  -- All bytes of a longer encoding have their highest bit set.
  · split at member
    · simp (disch := omega) only [List.mem_cons, List.not_mem_nil, newline_ne_high, or_false]
        at member
    · split at member <;>
        simp (disch := omega) only [List.mem_cons, List.not_mem_nil, newline_ne_high, or_false]
          at member

theorem newline_mem_toBytes_iff {s : String} : Lines.newline ∈ toBytes s ↔ '\n' ∈ s.toList := by
  rw [toBytes_eq, List.mem_flatMap]
  constructor
  · rintro ⟨c, member, byte⟩
    rwa [newline_of_mem_encode byte] at member
  · intro member
    exact ⟨'\n', member, by decide⟩

theorem newline_not_mem_toBytes {s : String} (single : '\n' ∉ s.toList) :
    Lines.newline ∉ toBytes s :=
  mt newline_mem_toBytes_iff.mp single

theorem toBytes_intercalate (lines : List String) :
    toBytes ("\n".intercalate lines) = [Lines.newline].intercalate (lines.map toBytes) := by
  have newline : toBytes "\n" = [Lines.newline] := by decide
  cases lines with
  | nil => rfl
  | cons line lines =>
    induction lines generalizing line with
    | nil => simp
    | cons next lines ih =>
      rw [String.intercalate_cons_cons, toBytes_append, toBytes_append, ih, newline]
      simp

/-!
What is left of a text without the blanks at its ends: nothing exactly if all of it is blank, and
else the part between the first and the last character that is not.
-/

theorem blank_dropLeading_iff {s : List Char} :
    (∀ c ∈ dropLeadingBlanks s, isBlank c = true) ↔ ∀ c ∈ s, isBlank c = true := by
  constructor
  · intro blank c member
    rw [← List.takeWhile_append_dropWhile (p := isBlank) (l := s), List.mem_append] at member
    rcases member with front | back
    · exact List.mem_takeWhile_imp front
    · exact blank c back
  · intro blank c member
    exact blank c ((List.dropWhile_sublist isBlank).mem member)

theorem trimmed_eq_nil_iff {s : List Char} : trimmed s = [] ↔ ∀ c ∈ s, isBlank c = true := by
  rw [← blank_dropLeading_iff, trimmed, dropTrailingBlanks, List.reverse_eq_nil_iff]
  conv => lhs; rw [dropLeadingBlanks, List.dropWhile_eq_nil_iff]
  simp only [List.mem_reverse]

theorem trim_eq_empty_iff {s : String} : trim s = "" ↔ ∀ c ∈ s.toList, isBlank c = true := by
  rw [← trimmed_eq_nil_iff, trim]
  exact String.ofList_eq_empty_iff

/-! Blanks at the ends -/

theorem dropLeading_front {front s : List Char} (blank : ∀ c ∈ front, isBlank c = true) :
    dropLeadingBlanks (front ++ s) = dropLeadingBlanks s :=
  List.dropWhile_append_of_pos blank

theorem dropTrailing_back {back s : List Char} (blank : ∀ c ∈ back, isBlank c = true) :
    dropTrailingBlanks (s ++ back) = dropTrailingBlanks s := by
  rw [dropTrailingBlanks, List.reverse_append, dropLeading_front, dropTrailingBlanks]
  simpa using blank

theorem trimmed_surrounded {front s back : List Char} (frontBlank : ∀ c ∈ front, isBlank c = true)
    (backBlank : ∀ c ∈ back, isBlank c = true) : trimmed (front ++ s ++ back) = trimmed s := by
  rw [trimmed, List.append_assoc, dropLeading_front frontBlank]
  by_cases nothing : dropLeadingBlanks s = []
  · -- All of the text is blank, so the removal goes through it into the blanks behind.
    have blank := List.dropWhile_eq_nil_iff.mp nothing
    rw [dropLeading_front blank, trimmed, nothing]
    change trimmed back = []
    exact trimmed_eq_nil_iff.mpr backBlank
  · have stays : dropLeadingBlanks (s ++ back) = dropLeadingBlanks s ++ back := by
      rw [dropLeadingBlanks, List.dropWhile_append, if_neg]
      · rfl
      · rwa [List.isEmpty_iff]
    rw [stays, dropTrailing_back backBlank, trimmed]

theorem trim_surrounded {front s back : String} (frontBlank : ∀ c ∈ front.toList, isBlank c = true)
    (backBlank : ∀ c ∈ back.toList, isBlank c = true) : trim (front ++ s ++ back) = trim s := by
  rw [trim, trim, String.toList_append, String.toList_append, trimmed_surrounded frontBlank backBlank]

/-! The ends of a trimmed text -/

structure Bare (s : List Char) : Prop where
  first : ∀ c ∈ s.head?, isBlank c = false
  last : ∀ c ∈ s.getLast?, isBlank c = false

theorem dropLeading_bare {s : List Char} (first : ∀ c ∈ s.head?, isBlank c = false) :
    dropLeadingBlanks s = s := by
  cases s with
  | nil => rfl
  | cons c s => simp [dropLeadingBlanks, first c rfl]

theorem trimmed_bare {s : List Char} (bare : Bare s) : trimmed s = s := by
  have last : dropLeadingBlanks s.reverse = s.reverse :=
    dropLeading_bare (by simpa [List.head?_reverse] using bare.last)
  rw [trimmed, dropLeading_bare bare.first, dropTrailingBlanks, last, List.reverse_reverse]

theorem dropLeading_first (s : List Char) : ∀ c ∈ (dropLeadingBlanks s).head?, isBlank c = false := by
  intro c first
  have stops := List.head?_dropWhile_not isBlank s
  rw [← dropLeadingBlanks, Option.mem_def.mp first] at stops
  exact stops

theorem dropLeading_split (s : List Char) :
    ∃ front, s = front ++ dropLeadingBlanks s ∧ ∀ c ∈ front, isBlank c = true :=
  ⟨s.takeWhile isBlank, List.takeWhile_append_dropWhile.symm, fun _ => List.mem_takeWhile_imp⟩

theorem dropTrailing_split (s : List Char) :
    ∃ back, s = dropTrailingBlanks s ++ back ∧ ∀ c ∈ back, isBlank c = true := by
  obtain ⟨front, split, blank⟩ := dropLeading_split s.reverse
  refine ⟨front.reverse, ?_, by simpa using blank⟩
  rw [dropTrailingBlanks, ← List.reverse_append, ← split, List.reverse_reverse]

theorem bare_trimmed (s : List Char) : Bare (trimmed s) where
  first := by
    -- What the removal at the back leaves begins as what it was given.
    intro c first
    obtain ⟨back, split, -⟩ := dropTrailing_split (dropLeadingBlanks s)
    refine dropLeading_first s c ?_
    rw [split, List.head?_append, ← trimmed, Option.mem_def.mp first]
    rfl
  last := by
    rw [trimmed, dropTrailingBlanks, List.getLast?_reverse]
    exact dropLeading_first _

theorem trimmed_eq_iff {s t : List Char} : trimmed s = t ↔
    Bare t ∧ ∃ front back, s = front ++ t ++ back ∧ (∀ c ∈ front, isBlank c = true) ∧
      ∀ c ∈ back, isBlank c = true := by
  constructor
  · rintro rfl
    obtain ⟨front, atFront, frontBlank⟩ := dropLeading_split s
    obtain ⟨back, atBack, backBlank⟩ := dropTrailing_split (dropLeadingBlanks s)
    refine ⟨bare_trimmed s, front, back, ?_, frontBlank, backBlank⟩
    rw [trimmed, List.append_assoc, ← atBack, ← atFront]
  · rintro ⟨bare, front, back, rfl, frontBlank, backBlank⟩
    rw [trimmed_surrounded frontBlank backBlank, trimmed_bare bare]

end Parabola.Text
