import Parabola.CommandLine.Source
import Parabola.Proofs.EquationList
import Parabola.Proofs.Session.Conversation

/-!
The same equations as a list in a file, as lines of a conversation and as a batch. Blank lines, and
comments in the file, may stand between them, and blanks around them.
-/

namespace Parabola.Session

def BlankLine (line : String) : Prop :=
  '\n' ∉ line.toList ∧ ∀ c ∈ line.toList, Text.isBlank c = true

def CommentLine (line : String) : Prop :=
  ∃ front text, line = front ++ "#" ++ text ∧ BlankLine front ∧ '\n' ∉ text.toList

/-- Equations on lines of their own, and idle lines anywhere. -/
inductive Padded (idle : String → Prop) : List String → List String → Prop where
  | done : Padded idle [] []
  | idle {equations lines : List String} {line : String} (skipped : idle line)
      (more : Padded idle equations lines) : Padded idle equations (line :: lines)
  | keep {equations lines : List String} (equation : String) {before after : String}
      (front : BlankLine before) (back : BlankLine after) (more : Padded idle equations lines) :
    Padded idle (equation :: equations) ((before ++ equation ++ after) :: lines)

structure OnLine (token equation : String) : Prop where
  filled : equation ≠ ""
  trimmed : Text.trim equation = equation
  single : '\n' ∉ equation.toList
  plain : EquationList.commentSign ∉ equation.toList
  other : equation ≠ token

variable {idle : String → Prop} {equations lines : List String}

theorem padded_texts {tidy : String → String} (padded : Padded idle equations lines)
    (filled : ∀ equation ∈ equations, equation ≠ "")
    (skips : ∀ line, idle line → tidy line = "")
    (keeps : ∀ equation ∈ equations, ∀ before after, BlankLine before → BlankLine after →
      tidy (before ++ equation ++ after) = equation) :
    (lines.map tidy).filter (· ≠ "") = equations := by
  induction padded with
  | done => rfl
  | idle skipped more ih => simpa [skips _ skipped] using ih filled keeps
  | keep equation front back more ih =>
    have others := ih (fun e member => filled e (List.mem_cons_of_mem _ member))
      (fun e member => keeps e (List.mem_cons_of_mem _ member))
    have kept := keeps equation List.mem_cons_self _ _ front back
    have stays := filled equation List.mem_cons_self
    rw [List.map_cons, kept, List.filter_cons_of_pos (by simpa using stays), others]

theorem padded_single (padded : Padded idle equations lines)
    (single : ∀ equation ∈ equations, '\n' ∉ equation.toList)
    (idleSingle : ∀ line, idle line → '\n' ∉ line.toList) :
    ∀ line ∈ lines, '\n' ∉ line.toList := by
  induction padded with
  | done => simp
  | idle skipped more ih =>
    rw [List.forall_mem_cons]
    exact ⟨idleSingle _ skipped, ih single⟩
  | keep equation front back more ih =>
    rw [List.forall_mem_cons] at single ⊢
    refine ⟨?_, ih single.2⟩
    simp [front.1, back.1, single.1]

theorem padded_ne_nil (padded : Padded idle equations lines) (nonempty : equations ≠ []) :
    lines ≠ [] := by
  cases padded with
  | done => exact nonempty
  | idle _ _ => exact List.cons_ne_nil _ _
  | keep _ _ _ _ => exact List.cons_ne_nil _ _

/-! In a file -/

def IdleLine (line : String) : Prop := BlankLine line ∨ CommentLine line

theorem blank_trim {line : String} (blank : BlankLine line) : Text.trim line = "" :=
  Text.trim_eq_empty_iff.mpr blank.2

theorem idle_stripLine {line : String} (idle : IdleLine line) :
    EquationList.stripLine line = "" := by
  rcases idle with blank | ⟨front, text, rfl, blank, -⟩
  · rw [EquationList.stripLine_plain (EquationList.blank_plain blank.2), blank_trim blank]
  · rw [EquationList.stripLine_comment (EquationList.blank_plain blank.2), blank_trim blank]

theorem idle_single {line : String} (idle : IdleLine line) : '\n' ∉ line.toList := by
  rcases idle with blank | ⟨front, text, rfl, blank, single⟩
  · exact blank.1
  · simp [blank.1, single]

variable {token : String}

theorem kept_stripLine {equation before after : String} (onLine : OnLine token equation)
    (front : BlankLine before) (back : BlankLine after) :
    EquationList.stripLine (before ++ equation ++ after) = equation := by
  have plain : EquationList.commentSign ∉ (before ++ equation ++ after).toList := by
    simp [EquationList.blank_plain front.2, EquationList.blank_plain back.2, onLine.plain]
  rw [EquationList.stripLine_plain plain, Text.trim_surrounded front.2 back.2, onLine.trimmed]

theorem listed_read {feed : Feed} (nonempty : equations ≠ [])
    (onLines : ∀ equation ∈ equations, OnLine token equation)
    (padded : Padded IdleLine equations lines) (spells : Lines.Spells lines feed) :
    (EquationList.read feed).outcome = .ok equations := by
  have filledLines := padded_ne_nil padded nonempty
  have single := padded_single padded (fun e member => (onLines e member).single)
    (fun line => idle_single)
  rw [EquationList.read_texts spells.regular (Lines.spells_isText spells filledLines single),
    Lines.spells_texts spells filledLines single (by decide),
    padded_texts padded (fun e member => (onLines e member).filled) (fun line => idle_stripLine)
      (fun e member before after => kept_stripLine (onLines e member))]

/-! In a conversation -/

theorem spoken_asked {feed : Feed} (nonempty : equations ≠ [])
    (onLines : ∀ equation ∈ equations, OnLine token equation)
    (padded : Padded BlankLine equations lines) (spells : Lines.Spells lines feed) :
    (∀ line ∈ Lines.all feed.bytes, Lines.isText line = true) ∧
      asked (Lines.all feed.bytes) = equations := by
  have filledLines := padded_ne_nil padded nonempty
  have single := padded_single padded (fun e member => (onLines e member).single)
    (fun line blank => blank.1)
  refine ⟨Lines.spells_isText spells filledLines single, ?_⟩
  rw [asked, Lines.spells_texts spells filledLines single (by decide)]
  refine padded_texts padded (fun e member => (onLines e member).filled)
    (fun line => blank_trim) fun e member before after front back => ?_
  rw [Text.trim_surrounded front.2 back.2, (onLines e member).trimmed]

theorem spoken_converse {feed : Feed} (nonempty : equations ≠ []) (filled : token ≠ "")
    (onLines : ∀ equation ∈ equations, OnLine token equation)
    (padded : Padded BlankLine equations lines) (spells : Lines.Spells lines feed) :
    sentBy (converse ⟨none, token⟩ feed).actions = sentBy (equations.map block) ∧
      (converse ⟨none, token⟩ feed).ending = .ok (tally equations) := by
  obtain ⟨text, found⟩ := spoken_asked nonempty onLines padded spells
  have passing : ∀ line ∈ Lines.all feed.bytes,
      Settings.passes ⟨none, token⟩ line = true := by
    intro line member
    cases ends : Settings.isToken ⟨none, token⟩ line with
    | false => simp [Settings.passes, text line member, ends]
    | true =>
      have among := asked_token member ends filled
      rw [found] at among
      exact absurd rfl (onLines token among).other
  rw [converse, feed.lines_regular spells.regular, converse_passing passing, found,
    zero_add_tally]
  constructor
  · simp [Transcript.after, converseFrom, Settings.invite, sentBy_quiet, found]
  · rfl

/-! The three ways -/

theorem load_file {arguments : CommandLine.Arguments} {disk : Disk} {path : String}
    (nonempty : equations ≠ []) (noArguments : arguments.equations = [])
    (named : arguments.inputFile = some path)
    (found : (EquationList.read (disk.feed path)).outcome = .ok equations) :
    (arguments.load disk).outcome = .ok (.batch equations) := by
  obtain ⟨first, more, rfl⟩ := List.exists_cons_of_ne_nil nonempty
  simp [CommandLine.Arguments.load, noArguments, named, found]

theorem ways_agree {equations listed spoken : List String} {token : String} {file input : Feed}
    (nonempty : equations ≠ []) (filled : token ≠ "")
    (onLines : ∀ equation ∈ equations, OnLine token equation)
    (fileLines : Padded IdleLine equations listed) (fileSpells : Lines.Spells listed file)
    (inputLines : Padded BlankLine equations spoken) (inputSpells : Lines.Spells spoken input) :
    let conversation := runConversation ⟨none, token⟩ input .unlimited
    let batched := runBatch equations .unlimited
    (EquationList.read file).outcome = .ok equations ∧
      (∀ (arguments : CommandLine.Arguments) (disk : Disk) (path : String),
        arguments.equations = [] → arguments.inputFile = some path → disk.feed path = file →
          (arguments.load disk).outcome = .ok (.batch equations)) ∧
      conversation.ending = .ok (tally equations) ∧ batched.ending = conversation.ending ∧
      on .err batched.steps = on .err conversation.steps ∧
      on .out conversation.steps = equations.flatMap (fun e => on .out (block e).steps) ∧
      on .out batched.steps =
        equations.flatMap fun e => Text.toBytes (e ++ "\n") ++ on .out (block e).steps := by
  intro conversation batched
  have conversed : conversation = (converse ⟨none, token⟩ input).deliver .unlimited :=
    runConversation_eq _ _ _
  have ran : batched = (batch equations).deliver .unlimited := runBatch_eq _ _
  have read := listed_read nonempty onLines fileLines fileSpells
  obtain ⟨spoke, ending⟩ := spoken_converse nonempty filled onLines inputLines inputSpells
  have heading : ∀ channel e, on channel (writeLine .out e).steps =
      if Channel.out = channel then Text.toBytes (e ++ "\n") else [] :=
    fun channel e => on_bytesTo channel .out _
  have onConversation := fun channel => on_unlimited channel spoke
  have onBatch := fun channel => on_unlimited channel (sentBy_batch equations)
  refine ⟨read, ?_, ?_, ?_, ?_, ?_, ?_⟩
  · intro arguments disk path noArguments named same
    exact load_file nonempty noArguments named (same ▸ read)
  · rw [conversed, ending_unlimited, ending]
  · rw [conversed, ran, ending_unlimited, ending_unlimited, ending, batch_eq]
  · rw [conversed, ran, onConversation, onBatch]
    simp [List.flatMap_assoc, List.flatMap_map, heading]
  · rw [conversed, onConversation, List.flatMap_map]
  · rw [ran, onBatch]
    simp [List.flatMap_assoc, heading]

/-- A file with a comment and carriage returns, a conversation without a newline at its end. -/
theorem ways_agree_returns :
    let equations := ["x^2-1", "y"]
    let listed := ["" ++ "#" ++ " list\r", "" ++ "x^2-1" ++ "\r", " ", "" ++ "y" ++ "\r"]
    let spoken := ["\r", " " ++ "x^2-1" ++ "\r", "" ++ "y" ++ ""]
    let file := Feed.ofBytes (Text.toBytes "# list\r\nx^2-1\r\n \ny\r\n")
    let input := Feed.ofBytes (Text.toBytes "\r\n x^2-1\r\ny")
    equations ≠ [] ∧ "0" ≠ "" ∧ (∀ equation ∈ equations, OnLine "0" equation) ∧
      Padded IdleLine equations listed ∧ Lines.Spells listed file ∧
      Padded BlankLine equations spoken ∧ Lines.Spells spoken input ∧
      (EquationList.read file).outcome = .ok equations ∧
      (runConversation ⟨none, "0"⟩ input .unlimited).ending = .ok ⟨1, 1⟩ := by
  intro equations listed spoken file input
  have onLines : ∀ equation ∈ equations, OnLine "0" equation := by
    rw [List.forall_mem_cons, List.forall_mem_singleton]
    constructor <;> constructor <;> decide +kernel
  have empty : BlankLine "" := ⟨by decide, List.all_eq_true.mp (by decide)⟩
  have space : BlankLine " " := ⟨by decide, List.all_eq_true.mp (by decide)⟩
  have carriage : BlankLine "\r" := ⟨by decide, List.all_eq_true.mp (by decide)⟩
  have comment : IdleLine ("" ++ "#" ++ " list\r") := .inr ⟨"", " list\r", rfl, empty, by decide⟩
  have fileLines : Padded IdleLine equations listed :=
    .idle comment (.keep _ empty carriage (.idle (.inl space) (.keep _ empty carriage .done)))
  have inputLines : Padded BlankLine equations spoken :=
    .idle carriage (.keep _ space carriage (.keep _ empty empty .done))
  have fileSpells : Lines.Spells listed file := ⟨rfl, .inr (by decide +kernel)⟩
  have inputSpells : Lines.Spells spoken input := ⟨rfl, .inl (by decide +kernel)⟩
  have nonempty : equations ≠ [] := List.cons_ne_nil _ _
  have filled : "0" ≠ "" := by decide
  obtain ⟨read, -, ending, -⟩ :=
    ways_agree nonempty filled onLines fileLines fileSpells inputLines inputSpells
  exact ⟨nonempty, filled, onLines, fileLines, fileSpells, inputLines, inputSpells, read,
    ending.trans (by decide +kernel)⟩

end Parabola.Session
