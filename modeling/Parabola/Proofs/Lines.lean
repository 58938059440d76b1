import Parabola.Feed
import Parabola.Proofs.Text.Basic

/-!
The lines of a feed as a split of its bytes at the newlines: the chunks have no part in it. After a
failed read only the lines that are complete are left, and these stay when more bytes follow.
-/

namespace Parabola.Lines

def complete (bytes : List UInt8) : List (List UInt8) := (bytes.splitOn newline).dropLast

def leftover (bytes : List UInt8) : List UInt8 := (bytes.splitOn newline).getLastD []

/-- All lines. What stands behind the last newline is a line unless it is empty. -/
def all (bytes : List UInt8) : List (List UInt8) :=
  complete bytes ++ if leftover bytes = [] then [] else [leftover bytes]

def ofList (lines : List (List UInt8)) (last : Lines) : Lines := lines.foldr line last

@[simp] theorem ofList_nil (last : Lines) : ofList [] last = last := rfl

@[simp] theorem ofList_cons (first : List UInt8) (lines : List (List UInt8)) (last : Lines) :
    ofList (first :: lines) last = line first (ofList lines last) := rfl

theorem ofList_append (lines more : List (List UInt8)) (last : Lines) :
    ofList (lines ++ more) last = ofList lines (ofList more last) := by
  simp [ofList, List.foldr_append]

/-! Splits -/

-- A split has at least one piece, and no newline follows the last one.
theorem split_shape (held bytes : List UInt8) :
    ∃ lines last, bytes.splitOnPPrepend (· == newline) held = lines ++ [last] := by
  rcases List.eq_nil_or_concat (bytes.splitOnPPrepend (· == newline) held) with empty | shape
  · exact absurd empty (List.splitOnPPrepend_ne_nil _ _ _)
  · simpa using shape

theorem split_eq (bytes : List UInt8) :
    bytes.splitOn newline = complete bytes ++ [leftover bytes] := by
  obtain ⟨lines, last, shape⟩ := split_shape [] bytes
  rw [List.splitOnPPrepend_nil_right, ← List.splitOn_eq_splitOnP] at shape
  simp [complete, leftover, shape]

theorem complete_eq {bytes last : List UInt8} {lines : List (List UInt8)}
    (split : bytes.splitOn newline = lines ++ [last]) : complete bytes = lines := by
  simp [complete, split]

-- How the piece that is begun grows, or is closed by a newline.
theorem split_cons (held bytes : List UInt8) (byte : UInt8) :
    (byte :: bytes).splitOnPPrepend (· == newline) held =
      if byte = newline then held.reverse :: bytes.splitOnPPrepend (· == newline) []
      else bytes.splitOnPPrepend (· == newline) (byte :: held) := by
  simp [List.splitOnPPrepend_cons_eq_if]

-- Newlines stand between the pieces only.
theorem newline_not_mem_piece {held bytes piece : List UInt8} (begun : newline ∉ held)
    (member : piece ∈ bytes.splitOnPPrepend (· == newline) held) : newline ∉ piece := by
  induction bytes generalizing held with
  | nil =>
    rw [List.splitOnPPrepend_nil, List.mem_singleton] at member
    simpa [member] using begun
  | cons byte bytes ih =>
    rw [split_cons] at member
    split at member
    · rcases List.mem_cons.mp member with rfl | later
      · simpa using begun
      · exact ih List.not_mem_nil later
    · next other =>
      exact ih (List.not_mem_cons_of_ne_of_not_mem (Ne.symm other) begun) member

theorem newline_not_mem_split {bytes piece : List UInt8} (member : piece ∈ bytes.splitOn newline) :
    newline ∉ piece := by
  rw [List.splitOn_eq_splitOnP, ← List.splitOnPPrepend_nil_right] at member
  exact newline_not_mem_piece List.not_mem_nil member

theorem split_newline {held bytes last : List UInt8} {lines : List (List UInt8)}
    (split : (newline :: bytes).splitOnPPrepend (· == newline) held = lines ++ [last]) :
    ∃ later, lines = held.reverse :: later ∧
      bytes.splitOnPPrepend (· == newline) [] = later ++ [last] := by
  rw [split_cons, if_pos rfl] at split
  obtain ⟨later, final, shape⟩ := split_shape [] bytes
  rw [shape, ← List.cons_append] at split
  obtain ⟨same, rfl⟩ : held.reverse :: later = lines ∧ final = last := by
    simpa using List.append_inj' split rfl
  exact ⟨later, same.symm, shape⟩

theorem split_append {held front last : List UInt8} {lines : List (List UInt8)}
    (more : List UInt8)
    (split : front.splitOnPPrepend (· == newline) held = lines ++ [last]) :
    (front ++ more).splitOnPPrepend (· == newline) held =
      lines ++ more.splitOnPPrepend (· == newline) last.reverse := by
  induction front generalizing held lines with
  | nil =>
    obtain ⟨rfl, rfl⟩ : lines = [] ∧ last = held.reverse := by
      simpa [List.append_eq_singleton_iff] using split.symm
    simp
  | cons byte front ih =>
    by_cases ends : byte = newline
    · subst ends
      obtain ⟨later, rfl, shape⟩ := split_newline split
      rw [List.cons_append, split_cons, if_pos rfl, ih shape, List.cons_append]
    · rw [split_cons, if_neg ends] at split
      rw [List.cons_append, split_cons, if_neg ends, ih split]

theorem complete_begins {front bytes : List UInt8} (starts : front <+: bytes) :
    complete front <+: complete bytes := by
  obtain ⟨more, rfl⟩ := starts
  obtain ⟨later, last, shape⟩ := split_shape (leftover front).reverse more
  have split := split_append more (split_eq front)
  rw [shape, ← List.append_assoc] at split
  exact ⟨later, (complete_eq split).symm⟩

theorem split_ended (bytes : List UInt8) :
    (bytes ++ [newline]).splitOn newline = bytes.splitOn newline ++ [[]] := by
  have split := split_append [newline] (split_eq bytes)
  rw [split_cons, if_pos rfl, List.reverse_reverse] at split
  exact split.trans (by rw [split_eq]; simp)

theorem split_unbroken {line : List UInt8} (unbroken : newline ∉ line) :
    line.splitOn newline = [line] := by
  have whole : ([newline].intercalate [line]).splitOn newline = [line] :=
    List.splitOn_intercalate newline (by simpa using unbroken) (by simp)
  simpa using whole

theorem split_behind {start line : List UInt8} (whole : leftover start = [])
    (unbroken : newline ∉ line) : (start ++ line).splitOn newline = complete start ++ [line] := by
  have split := split_append line (split_eq start)
  simp only [whole, List.reverse_nil, List.splitOnPPrepend_nil_right, ← List.splitOn_eq_splitOnP,
    split_unbroken unbroken] at split
  exact split

/-! Feeds -/

theorem gather_split (failure : Option ReadError) {held last : List UInt8}
    {chunks lines : List (List UInt8)}
    (split : chunks.flatten.splitOnPPrepend (· == newline) held = lines ++ [last]) :
    gather failure held chunks = ofList lines (ofEnd last.reverse failure) := by
  -- The line begun so far is also what the split has in hand, so both run in step.
  fun_induction gather failure held chunks generalizing lines with
  | case1 held =>
    obtain ⟨rfl, rfl⟩ : lines = [] ∧ last = held.reverse := by
      simpa [List.append_eq_singleton_iff] using split.symm
    simp
  | case2 held more ih => exact ih (by simpa using split)
  | case3 held chunk more ih =>
    obtain ⟨later, rfl, shape⟩ := split_newline (by simpa using split)
    rw [ofList_cons, ih (by simpa using shape)]
  | case4 held byte chunk more other ih =>
    rw [List.flatten_cons, List.cons_append, split_cons, if_neg other] at split
    exact ih (by simpa using split)

end Parabola.Lines

namespace Parabola.Feed

variable {feed : Feed}

theorem lines_regular (regular : feed.failure = none) :
    feed.lines = Lines.ofList (Lines.all feed.bytes) .finished := by
  rw [lines, Lines.gather_split feed.failure (Lines.split_eq feed.bytes), regular, Lines.ofEnd,
    Lines.all, Lines.ofList_append]
  by_cases nothing : Lines.leftover feed.bytes = []
  · simp [nothing]
  · simp [nothing]

theorem lines_failing {error : ReadError} (fails : feed.failure = some error) :
    feed.lines = Lines.ofList (Lines.complete feed.bytes) (.failed error) := by
  rw [lines, Lines.gather_split feed.failure (Lines.split_eq feed.bytes), fails, Lines.ofEnd]

/-- A piece of a feed stands behind whole lines, and before a newline or at the regular end. -/
structure Delimits (feed : Feed) (start piece after : List UInt8) : Prop where
  bytes : feed.bytes = start ++ piece ++ after
  whole : Lines.leftover start = []
  ends : after.head? = some Lines.newline ∨ after = [] ∧ feed.failure = none

/-- A feed that begins with some bytes begins with their complete lines, whatever comes then. -/
theorem lines_begin {start : List UInt8} (starts : start <+: feed.bytes) :
    ∃ rest, feed.lines = Lines.ofList (Lines.complete start) rest := by
  obtain ⟨more, whole⟩ := Lines.complete_begins starts
  cases ends : feed.failure with
  | none =>
    rw [lines_regular ends, Lines.all, ← whole, List.append_assoc, Lines.ofList_append]
    exact ⟨_, rfl⟩
  | some error =>
    rw [lines_failing ends, ← whole, Lines.ofList_append]
    exact ⟨_, rfl⟩

theorem Delimits.lines {start line after : List UInt8} (delimits : feed.Delimits start line after)
    (unbroken : Lines.newline ∉ line) (filled : line ≠ []) :
    ∃ rest, feed.lines = Lines.ofList (Lines.complete start) (.line line rest) := by
  have split := Lines.split_behind delimits.whole unbroken
  rcases delimits.ends with ended | ⟨rfl, regular⟩
  · obtain ⟨later, rfl⟩ := List.head?_eq_some_iff.mp ended
    have closed : Lines.complete (start ++ line ++ [Lines.newline]) =
        Lines.complete start ++ [line] := by
      rw [Lines.complete_eq (Lines.split_ended _), split]
    have begins : start ++ line ++ [Lines.newline] <+: feed.bytes :=
      ⟨later, by rw [delimits.bytes]; simp⟩
    obtain ⟨rest, reached⟩ := feed.lines_begin begins
    rw [closed, Lines.ofList_append] at reached
    exact ⟨rest, reached⟩
  · have bytes : feed.bytes = start ++ line := by simpa using delimits.bytes
    have left : Lines.leftover feed.bytes = line := by simp [Lines.leftover, bytes, split]
    have before : Lines.complete feed.bytes = Lines.complete start := by
      rw [bytes, Lines.complete_eq split]
    rw [lines_regular regular, Lines.all, left, if_neg filled, before, Lines.ofList_append]
    exact ⟨.finished, rfl⟩

end Parabola.Feed

/-!
What lines hold as texts. A line that holds nothing counts for nothing, so it makes no difference
whether the empty end of an input is taken for one more line.
-/

namespace Parabola.Lines

def isText (line : List UInt8) : Bool := (Text.ofBytes? line).isSome

def texts (tidy : String → String) (lines : List (List UInt8)) : List String :=
  ((lines.filterMap Text.ofBytes?).map tidy).filter (· ≠ "")

variable {tidy : String → String}

@[simp] theorem texts_nil : texts tidy [] = [] := rfl

@[simp] theorem texts_append (lines more : List (List UInt8)) :
    texts tidy (lines ++ more) = texts tidy lines ++ texts tidy more := by
  simp [texts, List.filterMap_append]

theorem texts_cons (line : List UInt8) (lines : List (List UInt8)) :
    texts tidy (line :: lines) = texts tidy [line] ++ texts tidy lines :=
  texts_append [line] lines

theorem texts_line {line : List UInt8} {text : String} (spelled : Text.ofBytes? line = some text) :
    texts tidy [line] = if tidy text = "" then [] else [tidy text] := by
  by_cases nothing : tidy text = "" <;> simp [texts, spelled, nothing]

theorem mem_texts {lines : List (List UInt8)} {text : String} (member : text ∈ texts tidy lines) :
    (∃ line ∈ lines, (Text.ofBytes? line).map tidy = some text) ∧ text ≠ "" := by
  obtain ⟨among, filled⟩ := List.mem_filter.mp member
  obtain ⟨spelled, kept, rfl⟩ := List.mem_map.mp among
  obtain ⟨line, listed, same⟩ := List.mem_filterMap.mp kept
  exact ⟨⟨line, listed, by rw [same, Option.map_some]⟩, by simpa using filled⟩

theorem texts_map_toBytes (lines : List String) :
    texts tidy (lines.map Text.toBytes) = (lines.map tidy).filter (· ≠ "") := by
  have spelled : Text.ofBytes? ∘ Text.toBytes = some := funext Text.ofBytes?_toBytes
  rw [texts, List.filterMap_map, spelled, List.filterMap_some]

theorem texts_all (tidyEmpty : tidy "" = "") (bytes : List UInt8) :
    texts tidy (all bytes) = texts tidy (bytes.splitOn newline) := by
  have nothing : texts tidy [[]] = [] := by
    have spelled : Text.ofBytes? [] = some "" := by decide
    rw [texts_line spelled, if_pos tidyEmpty]
  rw [split_eq, all, texts_append, texts_append]
  split
  · next empty => rw [empty, nothing, texts_nil]
  · rfl

theorem empty_isText : isText [] = true := by decide

-- What is left behind the last newline is no line if it is empty, but it is always a text then.
theorem isText_all_iff {bytes : List UInt8} :
    (∀ line ∈ all bytes, isText line = true) ↔
      ∀ line ∈ bytes.splitOn newline, isText line = true := by
  rw [split_eq, all]
  by_cases nothing : leftover bytes = []
  · simp [nothing, or_imp, forall_and, empty_isText]
  · simp [nothing]

theorem mem_split_of_mem_all {bytes line : List UInt8} (member : line ∈ all bytes) :
    line ∈ bytes.splitOn newline := by
  rw [split_eq]
  rw [all] at member
  split at member
  · exact List.mem_append_left _ (by simpa using member)
  · exact member

/-! Lines that are written out -/

/-- A feed gives the lines joined by newlines, with or without a newline at the end. -/
structure Spells (lines : List String) (feed : Feed) : Prop where
  regular : feed.failure = none
  bytes : feed.bytes = Text.toBytes ("\n".intercalate lines) ∨
    feed.bytes = Text.toBytes ("\n".intercalate lines ++ "\n")

variable {lines : List String} {feed : Feed}

theorem spells_split (spells : Spells lines feed) (nonempty : lines ≠ [])
    (single : ∀ line ∈ lines, '\n' ∉ line.toList) :
    ∃ pieces : List String, feed.bytes.splitOn newline = pieces.map Text.toBytes ∧
      (pieces = lines ∨ pieces = lines ++ [""]) := by
  have split : (Text.toBytes ("\n".intercalate lines)).splitOn newline =
      lines.map Text.toBytes := by
    rw [Text.toBytes_intercalate]
    refine List.splitOn_intercalate _ (fun line member => ?_) (by simpa using nonempty)
    obtain ⟨text, among, rfl⟩ := List.mem_map.mp member
    exact Text.newline_not_mem_toBytes (single text among)
  rcases spells.bytes with plain | ended
  · exact ⟨lines, plain ▸ split, .inl rfl⟩
  · refine ⟨lines ++ [""], ?_, .inr rfl⟩
    have ends : Text.toBytes "\n" = [newline] ∧ Text.toBytes "" = [] := by decide
    rw [ended, Text.toBytes_append, ends.1, split_ended, split, List.map_append, List.map_singleton,
      ends.2]

theorem spells_texts (spells : Spells lines feed) (nonempty : lines ≠ [])
    (single : ∀ line ∈ lines, '\n' ∉ line.toList) (tidyEmpty : tidy "" = "") :
    texts tidy (all feed.bytes) = (lines.map tidy).filter (· ≠ "") := by
  obtain ⟨pieces, split, plain | ended⟩ := spells_split spells nonempty single
  · rw [texts_all tidyEmpty, split, texts_map_toBytes, plain]
  · rw [texts_all tidyEmpty, split, texts_map_toBytes, ended]
    simp [tidyEmpty]

theorem spells_isText (spells : Spells lines feed) (nonempty : lines ≠ [])
    (single : ∀ line ∈ lines, '\n' ∉ line.toList) :
    ∀ line ∈ all feed.bytes, isText line = true := by
  intro line member
  obtain ⟨pieces, split, -⟩ := spells_split spells nonempty single
  have among := mem_split_of_mem_all member
  rw [split] at among
  obtain ⟨text, -, rfl⟩ := List.mem_map.mp among
  simp [isText]

end Parabola.Lines
