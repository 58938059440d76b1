import Mathlib.Data.List.Forall2
import Parabola.EquationList
import Parabola.Proofs.Lines
import Parabola.Proofs.Text.Basic

/-!
Lists of equations line by line: what is left of a line, and what is read from many.
-/

namespace Parabola.EquationList

theorem takeWhile_plain {s : List Char} (plain : commentSign ∉ s) (rest : List Char) :
    (s ++ rest).takeWhile (· ≠ commentSign) = s ++ rest.takeWhile (· ≠ commentSign) := by
  refine List.takeWhile_append_of_pos fun c member => ?_
  exact decide_eq_true fun same => plain (same ▸ member)

theorem stripLine_plain {line : String} (plain : commentSign ∉ line.toList) :
    stripLine line = Text.trim line := by
  have whole := takeWhile_plain plain []
  rw [List.append_nil, List.takeWhile_nil, List.append_nil] at whole
  rw [stripLine, whole, Text.trim]

theorem stripLine_comment {front : String} (plain : commentSign ∉ front.toList) (text : String) :
    stripLine (front ++ "#" ++ text) = Text.trim front := by
  have cut : (front ++ "#" ++ text).toList = front.toList ++ commentSign :: text.toList := by
    rw [String.toList_append, String.toList_append, List.append_assoc]
    rfl
  rw [stripLine, cut, takeWhile_plain plain, Text.trim]
  simp

theorem blank_plain {line : String} (blank : ∀ c ∈ line.toList, Text.isBlank c = true) :
    commentSign ∉ line.toList := by
  intro member
  cases blank commentSign member

/-! Many lines -/

/-- The line is a text, and this is what is left of it. -/
def Leaves (line : List UInt8) (entry : String) : Prop :=
  (Text.ofBytes? line).map stripLine = some entry

def kept (entries : List String) : List String := entries.filter (· ≠ "")

/-- The numbers of the lines of which nothing is left, where the first line has the given number. -/
def skipped (number : Nat) (entries : List String) : List Nat :=
  ((entries.zipIdx number).filter fun entry => entry.1 = "").map Prod.snd

theorem kept_cons (entry : String) (entries : List String) :
    kept (entry :: entries) = if entry = "" then kept entries else entry :: kept entries := by
  by_cases nothing : entry = "" <;> simp [kept, nothing]

theorem skipped_cons (number : Nat) (entry : String) (entries : List String) :
    skipped number (entry :: entries) =
      if entry = "" then number :: skipped (number + 1) entries
      else skipped (number + 1) entries := by
  by_cases nothing : entry = "" <;> simp [skipped, nothing]

theorem kept_skipped_length (number : Nat) (entries : List String) :
    (kept entries).length + (skipped number entries).length = entries.length := by
  induction entries generalizing number with
  | nil => rfl
  | cons entry entries ih =>
    have others := ih (number + 1)
    rw [kept_cons, skipped_cons]
    split <;> simp only [List.length_cons] <;> omega

def Reading.behind (number : Nat) (entries : List String) (later : Reading) : Reading :=
  ⟨later.outcome.map (kept entries ++ ·),
    (skipped number entries).map .lineSkipped ++ later.log⟩

theorem Reading.behind_nil (number : Nat) (later : Reading) : later.behind number [] = later := by
  cases later with
  | mk outcome log => cases outcome <;> rfl

theorem Reading.behind_cons (number : Nat) (entry : String) (entries : List String)
    (later : Reading) :
    later.behind number (entry :: entries) =
      if entry = "" then (later.behind (number + 1) entries).skip number
      else (later.behind (number + 1) entries).cons entry := by
  rw [behind, kept_cons, skipped_cons]
  split
  · rfl
  · cases later with
    | mk outcome log => cases outcome <;> rfl

theorem ofLines_entries {lines : List (List UInt8)} {entries : List String}
    (left : List.Forall₂ Leaves lines entries) (number : Nat) (last : Lines) :
    ofLines number (Lines.ofList lines last) =
      (ofLines (number + lines.length) last).behind number entries := by
  induction left generalizing number with
  | nil => rw [Reading.behind_nil, Lines.ofList_nil, List.length_nil, Nat.add_zero]
  | @cons line entry lines entries first _ ih =>
    obtain ⟨text, spelled, same⟩ := Option.map_eq_some_iff.mp first
    have count : number + (line :: lines).length = number + 1 + lines.length := by
      simp only [List.length_cons]
      omega
    rw [Lines.ofList_cons, count, Reading.behind_cons, ← ih (number + 1), ← same]
    simp only [ofLines, spelled]

theorem leaves_texts {lines : List (List UInt8)}
    (spelled : ∀ line ∈ lines, Lines.isText line = true) :
    List.Forall₂ Leaves lines ((lines.filterMap Text.ofBytes?).map stripLine) := by
  induction lines with
  | nil => exact .nil
  | cons line lines ih =>
    obtain ⟨text, first⟩ := Option.isSome_iff_exists.mp (spelled line List.mem_cons_self)
    have others := ih fun other member => spelled other (List.mem_cons_of_mem line member)
    simpa [first] using List.Forall₂.cons (show Leaves line (stripLine text) by simp [Leaves, first])
      others

theorem read_texts {feed : Feed} (regular : feed.failure = none)
    (spelled : ∀ line ∈ Lines.all feed.bytes, Lines.isText line = true) :
    (read feed).outcome = .ok (Lines.texts stripLine (Lines.all feed.bytes)) := by
  rw [read, feed.lines_regular regular, ofLines_entries (leaves_texts spelled)]
  simp [ofLines, Reading.behind, Except.map, kept, Lines.texts]

end Parabola.EquationList

/-!
A list of equations accounts for every line that its feed finishes: what is left of the line is an
equation of the list, or its number is noted as skipped. A list is read as a whole or not at all,
and how the feed is cut into chunks has no part in it.
-/

namespace Parabola

namespace Feed

/-- The lines that a reader comes to the end of: all lines, or those that a newline ends if a read
fails. -/
def finished (feed : Feed) : List (List UInt8) :=
  match feed.failure with
  | none => Lines.all feed.bytes
  | some _ => Lines.complete feed.bytes

def afterLines (feed : Feed) : Lines :=
  match feed.failure with
  | none => .finished
  | some error => .failed error

theorem lines_finished (feed : Feed) : feed.lines = Lines.ofList feed.finished feed.afterLines := by
  cases ends : feed.failure with
  | none => simp only [finished, afterLines, ends, feed.lines_regular ends]
  | some error => simp only [finished, afterLines, ends, feed.lines_failing ends]

end Feed

namespace EquationList

/-- A line is cut before its first comment sign, and of the front the blanks at both ends are taken
away. -/
structure Stripped (line entry front comment lead trail : List Char) : Prop where
  cut : line = front ++ comment
  plain : commentSign ∉ front
  sign : ∀ c ∈ comment.head?, c = commentSign
  ends : front = lead ++ entry ++ trail
  leadBlank : ∀ c ∈ lead, Text.isBlank c = true
  trailBlank : ∀ c ∈ trail, Text.isBlank c = true
  bare : Text.Bare entry

/-- The line spells a text, and the entry is what the text holds beside comment and blanks. -/
def Entry (line : List UInt8) (entry : String) : Prop :=
  ∃ text, Text.toBytes text = line ∧
    ∃ front comment lead trail, Stripped text.toList entry.toList front comment lead trail

theorem takeWhile_comment {comment : List Char} (sign : ∀ c ∈ comment.head?, c = commentSign) :
    comment.takeWhile (· ≠ commentSign) = [] := by
  cases comment with
  | nil => rfl
  | cons c comment => simp [sign c rfl]

theorem comment_cut (line : List Char) :
    line = line.takeWhile (· ≠ commentSign) ++ line.dropWhile (· ≠ commentSign) ∧
      commentSign ∉ line.takeWhile (· ≠ commentSign) ∧
      ∀ c ∈ (line.dropWhile (· ≠ commentSign)).head?, c = commentSign := by
  refine ⟨List.takeWhile_append_dropWhile.symm, ?_, ?_⟩
  · intro member
    simpa using List.mem_takeWhile_imp member
  · intro c first
    have stops := List.head?_dropWhile_not (fun c => decide (c ≠ commentSign)) line
    rw [Option.mem_def.mp first] at stops
    simpa using stops

theorem stripLine_eq_iff {line entry : String} : stripLine line = entry ↔
    ∃ front comment lead trail, Stripped line.toList entry.toList front comment lead trail := by
  constructor
  · rintro rfl
    obtain ⟨cut, plain, sign⟩ := comment_cut line.toList
    obtain ⟨bare, lead, trail, ends, leadBlank, trailBlank⟩ := Text.trimmed_eq_iff.mp
      (rfl : Text.trimmed (line.toList.takeWhile (· ≠ commentSign)) = _)
    rw [stripLine, String.toList_ofList]
    exact ⟨_, _, lead, trail, cut, plain, sign, ends, leadBlank, trailBlank, bare⟩
  · rintro ⟨front, comment, lead, trail, stripped⟩
    have front_kept : line.toList.takeWhile (· ≠ commentSign) = front := by
      rw [stripped.cut, takeWhile_plain stripped.plain, takeWhile_comment stripped.sign,
        List.append_nil]
    have trimmed : Text.trimmed front = entry.toList := Text.trimmed_eq_iff.mpr
      ⟨stripped.bare, lead, trail, stripped.ends, stripped.leadBlank, stripped.trailBlank⟩
    rw [stripLine, front_kept, trimmed, String.ofList_toList]

theorem leaves_iff {line : List UInt8} {entry : String} : Leaves line entry ↔ Entry line entry := by
  rw [Leaves, Option.map_eq_some_iff]
  exact exists_congr fun text => and_congr Text.ofBytes?_eq_some_iff stripLine_eq_iff

theorem isText_iff {line : List UInt8} :
    Lines.isText line = true ↔ ∃ text, Text.toBytes text = line := by
  rw [Lines.isText, Option.isSome_iff_exists]
  exact exists_congr fun text => Text.ofBytes?_eq_some_iff

/-! Outcomes -/

theorem ofLines_after (number : Nat) (feed : Feed) :
    ofLines number feed.afterLines =
      ⟨match feed.failure with
        | none => .ok []
        | some error => .error error, []⟩ := by
  cases ends : feed.failure <;> simp [Feed.afterLines, ends, ofLines]

-- Lines that are no text end the reading, and nothing behind them counts.
theorem ofLines_not_text {lines : List (List UInt8)}
    (bad : ∃ line ∈ lines, Lines.isText line = false) (number : Nat) (last : Lines) :
    (ofLines number (Lines.ofList lines last)).outcome = .error .notUtf8 := by
  induction lines generalizing number with
  | nil => simp at bad
  | cons line lines ih =>
    cases first : Text.ofBytes? line with
    | none => simp [ofLines, first]
    | some text =>
      have later : ∃ line ∈ lines, Lines.isText line = false := by
        simpa [Lines.isText, first] using bad
      rw [Lines.ofList_cons, ofLines, first]
      by_cases nothing : stripLine text = ""
      · simp [nothing, Reading.skip, ih later (number + 1)]
      · simp [nothing, Reading.cons, ih later (number + 1), Except.map]

theorem read_entries {feed : Feed} {entries : List String}
    (left : List.Forall₂ Leaves feed.finished entries) :
    read feed =
      ⟨match feed.failure with
        | none => .ok (kept entries)
        | some error => .error error, (skipped 1 entries).map .lineSkipped⟩ := by
  rw [read, feed.lines_finished, ofLines_entries left, ofLines_after]
  cases feed.failure <;> simp [Reading.behind, Except.map]

theorem read_ok_iff {feed : Feed} {equations : List String} :
    (read feed).outcome = .ok equations ↔ feed.failure = none ∧
      ∃ entries, List.Forall₂ Leaves feed.finished entries ∧ equations = kept entries := by
  constructor
  · intro whole
    by_cases spelled : ∀ line ∈ feed.finished, Lines.isText line = true
    · have left := leaves_texts spelled
      rw [read_entries left] at whole
      cases ends : feed.failure with
      | none =>
        simp only [ends, Except.ok.injEq] at whole
        exact ⟨rfl, _, left, whole.symm⟩
      | some error => simp [ends] at whole
    · rw [read, feed.lines_finished, ofLines_not_text (by simpa using spelled)] at whole
      cases whole
  · rintro ⟨regular, entries, left, rfl⟩
    simp only [read_entries left, regular]

theorem read_error_iff {feed : Feed} {error : ReadError} :
    (read feed).outcome = .error error ↔
      ((∃ line ∈ feed.finished, Lines.isText line = false) ∧ error = .notUtf8) ∨
        (∀ line ∈ feed.finished, Lines.isText line = true) ∧ feed.failure = some error := by
  by_cases spelled : ∀ line ∈ feed.finished, Lines.isText line = true
  · have noBad : ¬ ∃ line ∈ feed.finished, Lines.isText line = false := by simpa using spelled
    rw [or_iff_right fun bad => noBad bad.1, and_iff_right spelled,
      read_entries (leaves_texts spelled)]
    cases feed.failure <;> simp
  · have bad : ∃ line ∈ feed.finished, Lines.isText line = false := by simpa using spelled
    rw [or_iff_left fun all => spelled all.1, and_iff_right bad, read, feed.lines_finished,
      ofLines_not_text bad, Except.error.injEq]
    exact eq_comm

theorem read_chunks {feed other : Feed} (bytes : other.bytes = feed.bytes)
    (failure : other.failure = feed.failure) : read other = read feed := by
  have lines : other.finished = feed.finished := by simp only [Feed.finished, bytes, failure]
  have ends : other.afterLines = feed.afterLines := by simp only [Feed.afterLines, failure]
  rw [read, read, other.lines_finished, feed.lines_finished, lines, ends]

/-- There is a list exactly if no read fails and all lines are texts; it holds what is left of each
line, without the lines of which nothing is left. These are the skipped ones, by number. Otherwise
the reason is a finished line that is no text, or else the failed read. -/
theorem read_accounts (feed : Feed) :
    (∀ equations, (read feed).outcome = .ok equations ↔ feed.failure = none ∧
      ∃ entries, List.Forall₂ Entry feed.finished entries ∧ equations = kept entries) ∧
    (∀ error, (read feed).outcome = .error error ↔
      ((∃ line ∈ feed.finished, ∀ text, Text.toBytes text ≠ line) ∧ error = .notUtf8) ∨
        (∀ line ∈ feed.finished, ∃ text, Text.toBytes text = line) ∧
          feed.failure = some error) ∧
    (∀ entries, List.Forall₂ Entry feed.finished entries →
      (read feed).log = (skipped 1 entries).map .lineSkipped ∧
        (read feed).log.map Log.Record.shown =
          (skipped 1 entries).map (fun number => ("DEBUG", "skipping line " ++ Text.natText number)) ∧
        (kept entries).length + (skipped 1 entries).length = feed.finished.length) ∧
    ∀ other : Feed, other.bytes = feed.bytes → other.failure = feed.failure →
      read other = read feed := by
  have same : Entry = Leaves := by
    funext line entry
    exact propext leaves_iff.symm
  have noText : ∀ line, (∀ text, Text.toBytes text ≠ line) ↔ Lines.isText line = false := by
    intro line
    rw [Bool.eq_false_iff, ne_eq, isText_iff, not_exists]
  refine ⟨?_, ?_, ?_, fun other => read_chunks⟩
  · intro equations
    rw [same]
    exact read_ok_iff
  · intro error
    simp only [noText, ← isText_iff]
    exact read_error_iff
  · intro entries left
    rw [same] at left
    rw [kept_skipped_length, left.length_eq, read_entries left, List.map_map]
    exact ⟨rfl, rfl, rfl⟩

/-- A comment and a blank line, with a carriage return before each newline. Byte by byte the list
is the same, and if the read fails inside the last line there is none. -/
theorem read_accounts_comment :
    let feed := Feed.ofBytes (Text.toBytes "x^2-1 # two\r\n\r\n x^2")
    let single := feed.rechunk 1
    let failure := ReadError.other "read failed"
    let cut := feed.failAfter 17 failure
    (read feed).outcome = .ok ["x^2-1", "x^2"] ∧ (read feed).log = [.lineSkipped 2] ∧
      (read feed).log.map Log.Record.shown = [("DEBUG", "skipping line 2")] ∧
      single.chunks.length = 19 ∧ read single = read feed ∧
      (read cut).outcome = .error failure := by
  intro feed single failure cut
  have lines : feed.finished = ["x^2-1 # two\r", "\r", " x^2"].map Text.toBytes := by decide +kernel
  have left : List.Forall₂ Entry feed.finished ["x^2-1", "", "x^2"] := by
    rw [lines]
    refine .cons (leaves_iff.mp ?_) (.cons (leaves_iff.mp ?_) (.cons (leaves_iff.mp ?_) .nil)) <;>
      (unfold Leaves; decide +kernel)
  obtain ⟨whole, -, noted, chunks⟩ := read_accounts feed
  obtain ⟨-, refused, -⟩ := read_accounts cut
  have texts : ∀ line ∈ cut.finished, ∃ text, Text.toBytes text = line := by
    have spelled : ∀ line ∈ cut.finished, Lines.isText line = true := by decide +kernel
    exact fun line member => isText_iff.mp (spelled line member)
  obtain ⟨logged, shown, -⟩ := noted _ left
  refine ⟨(whole _).mpr ⟨rfl, _, left, by decide +kernel⟩, logged.trans (by decide +kernel),
    shown.trans (by decide +kernel), by decide +kernel, chunks single (by decide +kernel) rfl, (refused _).mpr (.inr ⟨texts, ?_⟩)⟩
  decide +kernel

end EquationList

/-!
Lists of equations read again and read in parts. What was read is settled: on lines of their own the
equations are read as they are. A newline parts a feed into two that can be read each on its own,
for nothing that a line holds has an effect beyond it.
-/

/-- The whole feed gives what the first one gives, a newline and what the second one gives. It ends
as the second one does, and the first one ends without failure. -/
structure Feed.Joins (first second whole : Feed) : Prop where
  bytes : whole.bytes = first.bytes ++ Lines.newline :: second.bytes
  regular : first.failure = none
  ends : whole.failure = second.failure

namespace EquationList

structure Settled (equation : String) : Prop where
  filled : equation ≠ ""
  trimmed : Text.trim equation = equation
  plain : commentSign ∉ equation.toList
  single : '\n' ∉ equation.toList

/-! One line -/

theorem leaves_settled {line : List UInt8} {entry : String} (left : Leaves line entry)
    (unbroken : Lines.newline ∉ line) (filled : entry ≠ "") : Settled entry := by
  obtain ⟨text, rfl, front, comment, lead, trail, stripped⟩ := leaves_iff.mp left
  have inFront : ∀ c ∈ entry.toList, c ∈ front := by
    intro c member
    rw [stripped.ends]
    exact List.mem_append_left _ (List.mem_append_right _ member)
  refine ⟨filled, ?_, fun sign => stripped.plain (inFront _ sign), ?_⟩
  · rw [Text.trim, Text.trimmed_bare stripped.bare, String.ofList_toList]
  · intro newline
    apply unbroken
    rw [Text.newline_mem_toBytes_iff, stripped.cut]
    exact List.mem_append_left _ (inFront _ newline)

theorem stripLine_settled {equation : String} (settled : Settled equation) :
    stripLine equation = equation :=
  (stripLine_plain settled.plain).trans settled.trimmed

/-! All lines -/

/-- There is a list exactly if the feed ends without failure and every piece between newlines is a
text, and the list is what is left of the pieces. -/
theorem read_pieces_iff {feed : Feed} {equations : List String} :
    (read feed).outcome = .ok equations ↔ feed.failure = none ∧
      (∀ piece ∈ feed.bytes.splitOn Lines.newline, Lines.isText piece = true) ∧
      equations = Lines.texts stripLine (feed.bytes.splitOn Lines.newline) := by
  rw [← Lines.isText_all_iff, ← Lines.texts_all (by decide)]
  constructor
  · intro whole
    obtain ⟨regular, -⟩ := read_ok_iff.mp whole
    have spelled : ∀ line ∈ Lines.all feed.bytes, Lines.isText line = true := by
      by_contra bad
      have refused : (read feed).outcome = .error .notUtf8 :=
        read_error_iff.mpr (.inl ⟨by simpa [Feed.finished, regular] using bad, rfl⟩)
      rw [whole] at refused
      cases refused
    rw [read_texts regular spelled] at whole
    cases whole
    exact ⟨regular, spelled, rfl⟩
  · rintro ⟨regular, spelled, rfl⟩
    exact read_texts regular spelled

theorem read_settled {feed : Feed} {equations : List String}
    (whole : (read feed).outcome = .ok equations) : ∀ equation ∈ equations, Settled equation := by
  obtain ⟨-, -, rfl⟩ := read_pieces_iff.mp whole
  intro equation member
  obtain ⟨⟨piece, among, left⟩, filled⟩ := Lines.mem_texts member
  exact leaves_settled left (Lines.newline_not_mem_split among) filled

theorem settled_read {feed : Feed} {equations : List String}
    (settled : ∀ equation ∈ equations, Settled equation) (spells : Lines.Spells equations feed) :
    (read feed).outcome = .ok equations := by
  by_cases nothing : equations = []
  · subst nothing
    rcases spells.bytes with plain | ended
    · exact read_pieces_iff.mpr ⟨spells.regular, by rw [plain]; decide, by rw [plain]; decide⟩
    · exact read_pieces_iff.mpr ⟨spells.regular, by rw [ended]; decide, by rw [ended]; decide⟩
  · have single : ∀ equation ∈ equations, '\n' ∉ equation.toList :=
      fun equation member => (settled equation member).single
    have same : equations.map stripLine = equations := by
      simpa using List.map_congr_left fun equation member =>
        stripLine_settled (settled equation member)
    rw [read_texts spells.regular (Lines.spells_isText spells nothing single),
      Lines.spells_texts spells nothing single (by decide), same, List.filter_eq_self.mpr]
    intro equation member
    simpa using (settled equation member).filled

theorem read_joins {first second whole : Feed} (joins : Feed.Joins first second whole)
    (equations : List String) :
    (read whole).outcome = .ok equations ↔
      ∃ front back, (read first).outcome = .ok front ∧ (read second).outcome = .ok back ∧
        equations = front ++ back := by
  simp only [read_pieces_iff, joins.bytes, joins.regular, joins.ends,
    List.splitOn_append_cons_self, List.forall_mem_append, Lines.texts_append, true_and]
  constructor
  · rintro ⟨ends, ⟨frontTexts, backTexts⟩, rfl⟩
    exact ⟨_, _, ⟨frontTexts, rfl⟩, ⟨ends, backTexts, rfl⟩, rfl⟩
  · rintro ⟨front, back, ⟨frontTexts, rfl⟩, ⟨ends, backTexts, rfl⟩, rfl⟩
    exact ⟨ends, ⟨frontTexts, backTexts⟩, rfl⟩

/-- All equations of a list are settled, so where they are written on lines of their own the same
list is read again. Two feeds with a newline between them give a list exactly if both do, and it is
the list of the first followed by that of the second. -/
theorem reading_composes :
    (∀ feed equations, (read feed).outcome = .ok equations →
      (∀ equation ∈ equations, Settled equation) ∧
        ∀ again, Lines.Spells equations again → (read again).outcome = .ok equations) ∧
    ∀ first second whole, Feed.Joins first second whole → ∀ equations,
      (read whole).outcome = .ok equations ↔
        ∃ front back, (read first).outcome = .ok front ∧ (read second).outcome = .ok back ∧
          equations = front ++ back := by
  refine ⟨fun feed equations whole => ?_, fun first second whole => read_joins⟩
  have settled := read_settled whole
  exact ⟨settled, fun again => settled_read settled⟩

/-- A carriage return inside an equation stays. One before a comment or a newline goes. -/
theorem reading_composes_returns :
    let first := Feed.ofBytes (Text.toBytes "x^2\r-1 \r# two\r")
    let second := Feed.ofBytes (Text.toBytes "# none\r\n\u00a0y")
    let whole := (Feed.ofBytes (Text.toBytes "x^2\r-1 \r# two\r\n# none\r\n\u00a0y")).rechunk 1
    let again := Feed.ofBytes (Text.toBytes "x^2\r-1\ny")
    Feed.Joins first second whole ∧ (read whole).outcome = .ok ["x^2\r-1", "y"] ∧
      (∀ equation ∈ ["x^2\r-1", "y"], Settled equation) ∧
      (read again).outcome = .ok ["x^2\r-1", "y"] := by
  intro first second whole again
  obtain ⟨stable, composed⟩ := reading_composes
  have joins : Feed.Joins first second whole := ⟨by decide +kernel, rfl, rfl⟩
  have frontRead : (read first).outcome = .ok ["x^2\r-1"] :=
    read_pieces_iff.mpr ⟨rfl, by decide +kernel, by decide +kernel⟩
  have backRead : (read second).outcome = .ok ["y"] :=
    read_pieces_iff.mpr ⟨rfl, by decide +kernel, by decide +kernel⟩
  have wholeRead := (composed first second whole joins ["x^2\r-1", "y"]).mpr
    ⟨_, _, frontRead, backRead, rfl⟩
  obtain ⟨settled, read_again⟩ := stable whole _ wholeRead
  exact ⟨joins, wholeRead, settled, read_again again ⟨rfl, .inl (by decide +kernel)⟩⟩

end EquationList

end Parabola
