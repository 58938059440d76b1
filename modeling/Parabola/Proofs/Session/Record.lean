import Mathlib.Data.List.Forall2
import Parabola.Proofs.Equation.Display
import Parabola.Proofs.Equation.Language
import Parabola.Proofs.EquationList
import Parabola.Proofs.Session.Conversation
import Parabola.Proofs.Session.Enactment

/-!
What a run notes about its equations: one verdict on each, in the order in which they are answered,
so the verdicts agree with the counts.
-/

namespace Parabola.Session

/-- What is noted about an equation once it is answered, and how a log shows it: the number of its
roots, or a warning with its error. -/
inductive Verdict (equation : String) : Log.Record → Prop where
  | solved {t : Trinomial} {roots : Roots} (read : Equation.parse equation = .ok t)
      (solves : t.solve = .ok roots)
      (shown : (Log.Record.solved t roots.count).shown =
        ("DEBUG", t.text ++ ": " ++ Text.natText roots.count ++ " root(s)")) :
      Verdict equation (.solved t roots.count)
  | rejected {e : Equation.ParseError} (refused : Equation.parse equation = .error e)
      (shown : (Log.Record.rejected equation e).shown =
        ("WARN", "rejected equation " ++ Text.quoted equation ++ ": " ++ e.message)) :
      Verdict equation (.rejected equation e)

def isSolved : Log.Record → Bool
  | .solved _ _ => true
  | _ => false

def isRejected : Log.Record → Bool
  | .rejected _ _ => true
  | _ => false

def isVerdict (record : Log.Record) : Bool := isSolved record || isRejected record

def isWarning (record : Log.Record) : Bool := record.shown.1 = "WARN"

def Event.record? : Event → Option Log.Record
  | .wrote _ _ => none
  | .noted record => some record

def Delivered.records (delivered : Delivered) : List Log.Record :=
  delivered.events.filterMap Event.record?

/-- The records give one verdict on each equation, in order and as often as was counted. They hold no
other warnings. -/
structure Accounts (equations : List String) (summary : Summary) (records : List Log.Record) :
    Prop where
  verdicts : List.Forall₂ Verdict equations (records.filter isVerdict)
  solved : records.countP isSolved = summary.solved
  failed : records.countP isRejected = summary.failed
  warnings : records.countP isWarning = summary.failed

/-! Actions and what is noted by them -/

def Action.record? : Action → Option Log.Record
  | .write _ _ => none
  | .note record => some record

def verdicts (actions : List Action) : List Log.Record :=
  (actions.filterMap Action.record?).filter isVerdict

@[simp] theorem verdicts_nil : verdicts [] = [] := rfl

@[simp] theorem verdicts_append (front back : List Action) :
    verdicts (front ++ back) = verdicts front ++ verdicts back := by
  simp [verdicts, List.filterMap_append]

@[simp] theorem verdicts_write (channel : Channel) (text : String) (more : List Action) :
    verdicts (.write channel text :: more) = verdicts more := rfl

@[simp] theorem verdicts_note (record : Log.Record) (more : List Action) :
    verdicts (.note record :: more) =
      if isVerdict record then record :: verdicts more else verdicts more := by
  simp [verdicts, Action.record?, List.filter_cons]

theorem verdicts_quiet {records : List Log.Record}
    (quiet : ∀ record ∈ records, isVerdict record = false) : verdicts (records.map .note) = [] := by
  simp only [verdicts, List.filterMap_map, Function.comp_def, Action.record?, List.filterMap_some]
  exact List.filter_eq_nil_iff.mpr fun record member => by simp [quiet record member]

theorem record_done (action : Action) : action.done.record? = action.record? := by
  cases action <;> rfl

theorem records_done (actions : List Action) :
    (actions.map Action.done).filterMap Event.record? = actions.filterMap Action.record? := by
  rw [List.filterMap_map]
  congr 1
  funext action
  exact record_done action

/-! Answers -/

-- Reading an equation notes terms and results, no verdict.
theorem read_quiet (equation : String) :
    ∀ record ∈ (Equation.read equation).log, isVerdict record = false := by
  intro record member
  rw [Equation.read, Equation.readNormal_log] at member
  rcases List.mem_append.mp member with among | last
  · obtain ⟨mark, -, rfl⟩ := List.mem_map.mp among
    rfl
  · cases result : (Equation.readNormal (Text.normalChars equation.toList)).outcome with
    | error e => simp [result, Equation.closing] at last
    | ok t =>
      rw [result, Equation.closing, List.mem_singleton] at last
      rw [last]
      rfl

theorem reply_verdict (equation : String) :
    ∃ record, Verdict equation record ∧ verdicts (reply equation) = [record] ∧
      isSolved record = accepted equation ∧ isRejected record = !accepted equation := by
  have outcome : (Equation.read equation).outcome = Equation.parse equation := rfl
  have quiet := verdicts_quiet (read_quiet equation)
  cases result : Equation.parse equation with
  | error e =>
    have refused : accepted equation = false := by simp [accepted, result, Except.isOk, Except.toBool]
    refine ⟨.rejected equation e, .rejected result rfl, ?_, by rw [refused]; rfl,
      by rw [refused]; rfl⟩
    simp [reply, answer, outcome, result, quiet, isVerdict, isRejected, writeLine]
  | ok t =>
    obtain ⟨roots, solves⟩ := Equation.parse_solvable result
    have read : accepted equation = true := by simp [accepted, result, Except.isOk, Except.toBool]
    refine ⟨.solved t roots.count, .solved result solves rfl, ?_, by rw [read]; rfl,
      by rw [read]; rfl⟩
    simp [reply, answer, outcome, result, solves, quiet, isVerdict, isSolved, writeLine]

theorem warns_rejected (record : Log.Record) : isWarning record = isRejected record := by
  cases record <;> simp [isWarning, isRejected, Log.Record.shown, Log.Record.level, Log.Level.name]

theorem replies_account (equations : List String) :
    Accounts equations (tally equations) (verdicts (equations.flatMap reply)) := by
  induction equations with
  | nil => exact ⟨.nil, rfl, rfl, rfl⟩
  | cons equation more ih =>
    obtain ⟨record, verdict, single, solved, rejected⟩ := reply_verdict equation
    have kept : isVerdict record = true := by cases verdict <;> rfl
    have whole : verdicts ((equation :: more).flatMap reply) =
        record :: verdicts (more.flatMap reply) := by
      rw [List.flatMap_cons, verdicts_append, single, List.singleton_append]
    have refused : (record :: verdicts (more.flatMap reply)).countP isRejected =
        (tally (equation :: more)).failed := by
      rw [List.countP_cons, ih.failed, rejected]
      simp [tally, List.countP_cons]
    rw [whole]
    refine ⟨?_, ?_, refused, funext warns_rejected ▸ refused⟩
    · rw [List.filter_cons_of_pos kept]
      exact .cons verdict ih.verdicts
    · rw [List.countP_cons, ih.solved, solved]
      simp [tally, List.countP_cons]

-- Other records have no part in the account.
theorem accounts_filter {equations : List String} {summary : Summary} {records : List Log.Record}
    (account : Accounts equations summary (records.filter isVerdict)) :
    Accounts equations summary records := by
  have refused : records.countP isRejected = summary.failed := by
    rw [← account.failed, List.countP_filter]
    congr 1
    funext record
    cases record <;> rfl
  refine ⟨?_, ?_, refused, funext warns_rejected ▸ refused⟩
  · simpa [List.filter_filter] using account.verdicts
  · rw [← account.solved, List.countP_filter]
    congr 1
    funext record
    cases record <;> rfl

/-! Runs -/

theorem verdicts_batch (equations : List String) :
    verdicts (batch equations).actions = verdicts (equations.flatMap reply) := by
  rw [batch_eq]
  induction equations with
  | nil => rfl
  | cons equation more ih =>
    simp only [List.flatMap_cons, verdicts_append, writeLine, verdicts_write] at ih ⊢
    rw [ih]

theorem verdicts_invite (settings : Settings) : verdicts settings.invite = [] := by
  rw [invite_eq]
  cases settings.prompt <;> rfl

theorem verdicts_exchange (settings : Settings) (lines : List (List UInt8)) :
    verdicts (exchange settings lines) = verdicts ((asked lines).flatMap reply) := by
  induction lines with
  | nil => rfl
  | cons line lines ih =>
    rw [exchange_cons line lines, asked_cons line lines, verdicts_append, ih, List.flatMap_append,
      verdicts_append]
    simp [exchange, verdicts_invite]

theorem deliver_ok {transcript : Transcript} {room : Room} {summary : Summary}
    (ended : (transcript.deliver room).ending = .ok summary) :
    transcript.ending = .ok summary ∧
      (transcript.deliver room).records.filter isVerdict = verdicts transcript.actions := by
  by_cases fits : Fits room (transcript.actions.flatMap Action.steps)
  · rw [deliver_fits fits] at ended ⊢
    exact ⟨ended, by rw [Delivered.records, records_done, verdicts]⟩
  · obtain ⟨events, channel, performed, -⟩ := perform_full fits
    simp [Transcript.deliver, performed] at ended

-- At the token, or where no lines are left, nothing more is counted.
theorem converse_rest {settings : Settings} {left : List (List UInt8)} {feed : Feed}
    {counted summary : Summary} (token : ∀ line ∈ left.head?, settings.isToken line = true)
    (ended : (converseFrom settings counted (Lines.ofList left feed.afterLines)).ending = .ok summary) :
    summary = counted ∧
      verdicts (converseFrom settings counted (Lines.ofList left feed.afterLines)).actions = [] := by
  cases left with
  | nil =>
    cases ends : feed.failure with
    | none =>
      simp only [Lines.ofList_nil, Feed.afterLines, ends, converseFrom, Except.ok.injEq] at ended ⊢
      exact ⟨ended.symm, by simp [verdicts_invite, isVerdict, isSolved, isRejected]⟩
    | some error => simp [Feed.afterLines, ends, converseFrom] at ended
  | cons line more =>
    simp only [Lines.ofList_cons, converseFrom, react_token (token line rfl), Except.ok.injEq]
      at ended ⊢
    exact ⟨ended.symm, by simp [verdicts_invite]⟩

/-- A conversation that ends well has passed all lines before the token, and noted no other verdict. -/
theorem converse_ok {settings : Settings} {feed : Feed} {summary : Summary}
    (ended : (converse settings feed).ending = .ok summary) :
    summary = tally (asked (settings.consumed feed.finished)) ∧
      verdicts (converse settings feed).actions =
        verdicts ((asked (settings.consumed feed.finished)).flatMap reply) := by
  let passed := settings.consumed feed.finished
  let left := feed.finished.dropWhile fun line => !settings.isToken line
  have split : feed.finished = passed ++ left := List.takeWhile_append_dropWhile.symm
  have lines : feed.lines = Lines.ofList passed (Lines.ofList left feed.afterLines) := by
    rw [feed.lines_finished, ← Lines.ofList_append, ← split]
  have untold : ∀ line ∈ passed, settings.isToken line = false := fun line member => by
    simpa using List.mem_takeWhile_imp member
  have passing : ∀ line ∈ passed, settings.passes line = true := by
    intro line member
    by_contra stops
    have unspelled : Lines.isText line = false := by
      simpa [Settings.passes, untold line member] using stops
    rw [converse, lines, converse_not_text untold ⟨line, member, unspelled⟩] at ended
    cases ended
  have course : converse settings feed =
      (converseFrom settings (tally (asked passed)) (Lines.ofList left feed.afterLines)).after
        (exchange settings passed) := by
    rw [converse, lines, converse_passing passing, zero_add_tally]
  have token : ∀ line ∈ left.head?, settings.isToken line = true := by
    intro line first
    have stops := List.head?_dropWhile_not (fun line => !settings.isToken line) feed.finished
    rw [show feed.finished.dropWhile _ = left from rfl, Option.mem_def.mp first] at stops
    simpa using stops
  rw [course] at ended ⊢
  obtain ⟨same, nothing⟩ := converse_rest token ended
  refine ⟨same, ?_⟩
  rw [Transcript.after, verdicts_append, nothing, List.append_nil, verdicts_exchange]

theorem batch_accounts {equations : List String} {room : Room} {summary : Summary}
    (ended : (runBatch equations room).ending = .ok summary) :
    Accounts equations summary (runBatch equations room).records := by
  rw [runBatch_eq] at ended ⊢
  obtain ⟨counted, noted⟩ := deliver_ok ended
  rw [batch_eq] at counted
  cases counted
  refine accounts_filter ?_
  rw [noted, verdicts_batch]
  exact replies_account equations

theorem conversation_accounts {settings : Settings} {feed : Feed} {room : Room} {summary : Summary}
    (ended : (runConversation settings feed room).ending = .ok summary) :
    Accounts (asked (settings.consumed feed.finished)) summary
      (runConversation settings feed room).records := by
  rw [runConversation_eq] at ended ⊢
  obtain ⟨counted, noted⟩ := deliver_ok ended
  obtain ⟨rfl, verdicts⟩ := converse_ok counted
  refine accounts_filter ?_
  rw [noted, verdicts]
  exact replies_account _

/-- Every text has a course, and reading it notes just the terms of the course, each with its exponent
for a slot, and then the result that they sum to, if there is one. A run without failure notes one
verdict on each equation that it answers, in order, and as many of each kind as it counts. Levels and
wordings are those that a log shows. -/
theorem records_truthful :
    (∀ raw : String,
      (∃ traced outcome, Equation.Course (Text.normalChars raw.toList) traced outcome) ∧
      ∀ traced outcome, Equation.Course (Text.normalChars raw.toList) traced outcome →
        (Equation.read raw).outcome = outcome ∧ ∃ marks, Equation.Marks traced marks ∧
          (Equation.read raw).log =
            Equation.notes marks ++ Equation.closing (Text.normalize raw) outcome ∧
          (Equation.read raw).log.map Log.Record.shown =
            (marks.map fun mark => Equation.shownTerm mark.1) ++
              Equation.shownResult (Text.normalize raw) outcome ∧
          ∀ t, outcome = .ok t → t.a.val = Equation.slotTotal .square marks ∧
            t.b.val = Equation.slotTotal .linear marks ∧
            t.c.val = Equation.slotTotal .constant marks) ∧
    (∀ equations room summary, (runBatch equations room).ending = .ok summary →
      Accounts equations summary (runBatch equations room).records) ∧
    ∀ settings feed room summary, (runConversation settings feed room).ending = .ok summary →
      Accounts (asked (settings.consumed feed.finished)) summary
        (runConversation settings feed room).records :=
  ⟨fun _ => ⟨Equation.course_exists _, fun _ _ => Equation.read_course⟩,
    fun _ _ _ => batch_accounts, fun _ _ _ _ => conversation_accounts⟩

/-- The second of two terms is noted although their sum leaves the range. A batch solves its first
equation and refuses the second; a conversation asks about one before its token. -/
theorem records_truthful_sum :
    let first : Equation.Written := ⟨.omitted, .linear (some (.ofNat 2147483647))⟩
    let second : Equation.Written := ⟨.plus, .linear none⟩
    let raw := "2147483647X + X"
    let delivered := runBatch ["x^2", raw] .unlimited
    let settings : Settings := ⟨none, "0"⟩
    let feed := Feed.ofBytes (Text.toBytes "\n x^2 \n0\ny")
    let conversed := runConversation settings feed .unlimited
    Equation.Course (Text.normalChars raw.toList) [first, second]
        (.error (.coefficientOverflow .one)) ∧
      (∃ marks, Equation.Marks [first, second] marks ∧
        (Equation.read raw).log = Equation.notes marks ∧
        (Equation.read raw).log.map Log.Record.shown =
          marks.map fun mark => Equation.shownTerm mark.1) ∧
      delivered.ending = .ok ⟨1, 1⟩ ∧ Accounts ["x^2", raw] ⟨1, 1⟩ delivered.records ∧
      conversed.ending = .ok ⟨1, 0⟩ ∧ Accounts ["x^2"] ⟨1, 0⟩ conversed.records := by
  intro first second raw delivered settings feed conversed
  obtain ⟨readings, batches, conversations⟩ := records_truthful
  have good : Equation.Faultless [first] :=
    Equation.faultless_snoc Equation.faultless_nil (fun _ => rfl) (by decide +kernel) (by decide)
      (by decide +kernel)
  have denotes : second.Denotes ⟨.one, .one⟩ := ⟨by decide +kernel, by decide +kernel⟩
  have halts : Equation.Halts [first] (second.chars ++ []) (.coefficientOverflow .one) [second] :=
    .sum (by decide) (by simp [Equation.Written.Ends]) denotes (by decide) (by decide +kernel)
  have ends : Equation.Ended [first] (second.chars ++ []) := by
    rintro w ⟨⟩ c ⟨⟩
    decide
  have chars : Text.normalChars raw.toList =
      Equation.written [first] ++ (second.chars ++ []) := by decide +kernel
  have course : Equation.Course (Text.normalChars raw.toList) [first, second]
      (.error (.coefficientOverflow .one)) := by
    rw [chars]
    exact .halted good ends halts
  obtain ⟨-, marks, marked, logged, shown, -⟩ := (readings raw).2 _ _ course
  have ended : delivered.ending = .ok ⟨1, 1⟩ := by
    rw [show delivered = _ from runBatch_eq _ _, ending_unlimited, batch_eq]
    decide +kernel
  have left : conversed.ending = .ok ⟨1, 0⟩ := by
    rw [show conversed = _ from runConversation_eq _ _ _, ending_unlimited, converse,
      feed.lines_regular rfl]
    decide +kernel
  have asks : asked (settings.consumed feed.finished) = ["x^2"] := by decide +kernel
  exact ⟨course, ⟨marks, marked, by simpa [Equation.closing] using logged,
    by simpa [Equation.shownResult] using shown⟩, ended, batches _ _ _ ended, left,
    asks ▸ conversations _ _ _ _ left⟩

end Parabola.Session
