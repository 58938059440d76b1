import Parabola.Proofs.Equation.Language
import Parabola.Proofs.Session.Delivery
import Parabola.Proofs.Text.Basic
import Parabola.Session.Transcript

/-!
What one equation leads to: a block of text on one channel and one more in the counts. The summary
has no part in the block, so the runs of several equations are joined from those of each.
-/

namespace Parabola

def Trinomial.report (t : Trinomial) : String :=
  match t.solve with
  | .ok roots => roots.report
  | .error error => error.message

theorem Trinomial.solve_ok {t : Trinomial} (square : t.a.val ≠ 0) :
    ∃ roots, t.solve = .ok roots := by
  unfold Trinomial.solve
  rw [if_neg square]
  split
  · exact ⟨_, rfl⟩
  · split <;> exact ⟨_, rfl⟩

theorem Equation.parse_solvable {raw : String} {t : Trinomial} (read : parse raw = .ok t) :
    ∃ roots, t.solve = .ok roots := by
  obtain ⟨ws, -, -, square, totals⟩ := readNormal_ok_iff.mp read
  exact Trinomial.solve_ok fun vanishes => square (totals.1.symm.trans vanishes)

namespace Session

/-! Counts -/

instance : Add Summary := ⟨fun earlier later =>
  ⟨earlier.solved + later.solved, earlier.failed + later.failed⟩⟩

theorem summary_add (earlier later : Summary) :
    earlier + later = ⟨earlier.solved + later.solved, earlier.failed + later.failed⟩ := rfl

def accepted (equation : String) : Bool := (Equation.parse equation).isOk

def tally (equations : List String) : Summary :=
  ⟨equations.countP accepted, equations.countP fun equation => !accepted equation⟩

@[simp] theorem add_tally_nil (summary : Summary) : summary + tally [] = summary := rfl

theorem zero_add_tally (equations : List String) : Summary.zero + tally equations =
    tally equations := by
  simp [summary_add, Summary.zero, tally]

theorem tally_append (front back : List String) :
    tally (front ++ back) = tally front + tally back := by
  simp [summary_add, tally]

theorem add_tally_append (summary : Summary) (front back : List String) :
    summary + tally (front ++ back) = summary + tally front + tally back := by
  simp [summary_add, tally, Nat.add_assoc]

/-! Blocks -/

/-- The text that answers an equation, with the empty line at its end. -/
def block (equation : String) : Action :=
  match Equation.parse equation with
  | .ok trinomial => .write .out (trinomial.report ++ "\n\n")
  | .error error => .write .err ("Error: " ++ error.message ++ "\n\n")

/-- The block for an equation holds its roots if it is read, and else why it is refused. -/
inductive Answers (equation : String) : Action → Prop where
  | roots {trinomial : Trinomial} {roots : Roots} (read : Equation.parse equation = .ok trinomial)
      (solved : trinomial.solve = .ok roots) :
    Answers equation (.write .out (roots.report ++ "\n\n"))
  | refusal {error : Equation.ParseError} (refused : Equation.parse equation = .error error) :
    Answers equation (.write .err ("Error: " ++ error.message ++ "\n\n"))

theorem block_answers (equation : String) : Answers equation (block equation) := by
  unfold block
  split
  · next trinomial read =>
    obtain ⟨roots, solved⟩ := Equation.parse_solvable read
    simpa [Trinomial.report, solved] using Answers.roots read solved
  · next error refused => exact .refusal refused

def reply (equation : String) : List Action := (answer equation .zero).actions

theorem answer_eq (equation : String) (summary : Summary) :
    answer equation summary = ⟨reply equation, .ok (summary + tally [equation])⟩ := by
  have outcome : (Equation.read equation).outcome = Equation.parse equation := rfl
  cases result : Equation.parse equation with
  | error error =>
    have refused : accepted equation = false := by simp [accepted, result, Except.isOk, Except.toBool]
    simp [reply, answer, outcome, result, summary_add, tally, refused]
  | ok trinomial =>
    obtain ⟨roots, solved⟩ := Equation.parse_solvable result
    have read : accepted equation = true := by simp [accepted, result, Except.isOk, Except.toBool]
    simp [reply, answer, outcome, result, solved, summary_add, tally, read]

theorem sentBy_notes (records : List Log.Record) : sentBy (records.map .note) = [] := by
  induction records with
  | nil => rfl
  | cons record records ih => simp [ih]

theorem sentBy_reply (equation : String) : sentBy (reply equation) = sentBy [block equation] := by
  have outcome : (Equation.read equation).outcome = Equation.parse equation := rfl
  have twice : Text.toBytes "\n\n" = Text.toBytes "\n" ++ Text.toBytes "\n" := by decide
  cases result : Equation.parse equation with
  | error error =>
    simp [reply, answer, outcome, result, block, sentBy_notes, writeLine, twice]
  | ok trinomial =>
    obtain ⟨roots, solved⟩ := Equation.parse_solvable result
    simp [reply, answer, outcome, result, solved, block, Trinomial.report, sentBy_notes, writeLine,
      twice]

theorem sentBy_replies (equations : List String) :
    sentBy (equations.flatMap reply) = sentBy (equations.map block) := by
  rw [List.map_eq_flatMap, sentBy_flatMap, sentBy_flatMap]
  simp only [sentBy_reply]

/-! Batches -/

theorem batchFrom_eq (summary : Summary) (equations : List String) :
    batchFrom summary equations =
      ⟨equations.flatMap fun equation => writeLine .out equation :: reply equation,
        .ok (summary + tally equations)⟩ := by
  induction equations generalizing summary with
  | nil => rfl
  | cons equation more ih =>
    have total : summary + tally (equation :: more) = summary + tally [equation] + tally more :=
      add_tally_append summary [equation] more
    simp [batchFrom, headed, answer_eq, Transcript.andThen, Transcript.after, ih, total]

theorem batch_eq (equations : List String) :
    batch equations =
      ⟨equations.flatMap fun equation => writeLine .out equation :: reply equation,
        .ok (tally equations)⟩ := by
  rw [batch, batchFrom_eq, zero_add_tally]

theorem sentBy_batch (equations : List String) :
    sentBy (batch equations).actions =
      sentBy (equations.flatMap fun e => [writeLine .out e, block e]) := by
  rw [batch_eq, sentBy_flatMap, sentBy_flatMap]
  simp [writeLine, sentBy_reply]

end Session

end Parabola
