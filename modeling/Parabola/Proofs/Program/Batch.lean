import Parabola.Program
import Parabola.Proofs.Session.Answer

/-!
The program on equations behind the separator. With no event shown, both channels carry what the
equations contribute one by one, and the error channel may end with the count of refusals.
-/

namespace Parabola

namespace Session

variable {channel : Channel}

def Action.text (channel : Channel) : Action → String
  | .write target text => if target = channel then text else ""
  | .note _ => ""

def textBy (channel : Channel) (actions : List Action) : String :=
  String.join (actions.map (Action.text channel))

@[simp] theorem textBy_nil : textBy channel [] = "" := rfl

@[simp] theorem textBy_cons (action : Action) (more : List Action) :
    textBy channel (action :: more) = action.text channel ++ textBy channel more := by
  simp [textBy]

@[simp] theorem textBy_append (front back : List Action) :
    textBy channel (front ++ back) = textBy channel front ++ textBy channel back := by
  simp [textBy, String.join_append]

theorem toBytes_textBy (actions : List Action) :
    Text.toBytes (textBy channel actions) = on channel (actions.flatMap Action.steps) := by
  have single : ∀ action : Action,
      Text.toBytes (action.text channel) = on channel action.steps := by
    intro action
    cases action with
    | write target text =>
      by_cases same : target = channel
      · simp [Action.text, Action.steps, same]
      · have empty : Text.toBytes "" = [] := by decide
        simp [Action.text, Action.steps, same, empty]
    | note record => exact (by decide : Text.toBytes "" = [])
  rw [on_flatMap, textBy, Text.toBytes_join, List.flatMap_map]
  simp only [single]

-- The bytes that are sent determine the text on each channel.
theorem textBy_eq {actions others : List Action} (same : sentBy actions = sentBy others) :
    textBy channel actions = textBy channel others := by
  refine Text.toBytes_injective ?_
  rw [toBytes_textBy, toBytes_textBy, on, on]
  exact congrArg _ (congrArg _ same)

theorem textBy_batch (equations : List String) :
    textBy channel (batch equations).actions =
      String.join (equations.map fun e =>
        (writeLine .out e).text channel ++ (block e).text channel) := by
  rw [textBy_eq (sentBy_batch equations)]
  induction equations with
  | nil => rfl
  | cons equation more ih => simp [ih, String.append_assoc]

end Session

namespace Program

open Session CommandLine

theorem parse_separator (equations : List String) :
    CommandLine.parse ("--" :: equations) =
      .ok ⟨equations, none, CommandLine.defaultExitToken, false⟩ := by
  have separator : Word.ofText "--" = .separator := by decide
  simp [CommandLine.parse, scan, separator, Draft.settle, Draft.addEquations, Draft.finish,
    Draft.empty]

theorem plan_separator {equations : List String} (disk : Disk) (nonempty : equations ≠ []) :
    plan ("--" :: equations) disk = ⟨.batch equations, []⟩ := by
  have token : Text.trim defaultExitToken ≠ "" := by decide +kernel
  simp [plan, parse_separator, Arguments.check, token, Arguments.load, nonempty]

theorem run_separator {equations : List String} (disk : Disk) (input : Feed)
    (nonempty : equations ≠ []) :
    run ("--" :: equations) disk input =
      (endBatch equations.length (.ok (tally equations))).after
        (.note (.batchStarted equations.length) :: (batch equations).actions) := by
  rw [run, plan_separator disk nonempty]
  simp [perform, batch_eq, Run.after]

def countText (refused equations : Nat) : String :=
  if 0 < refused then
    "Error: " ++ Text.natText refused ++ " of " ++ Text.natText equations ++
      " equation(s) could not be parsed\n"
  else ""

theorem endBatch_complains (equations : Nat) (summary : Summary) :
    textBy .out (endBatch equations (.ok summary)).actions = "" ∧
      textBy .err (endBatch equations (.ok summary)).actions = countText summary.failed equations ∧
      (endBatch equations (.ok summary)).exit.code = if 0 < summary.failed then 1 else 0 := by
  by_cases clean : summary.failed = 0
  · simp [endBatch, clean, countText, Exit.code]
  · have refused : 0 < summary.failed := Nat.pos_of_ne_zero clean
    simp [endBatch, clean, refused, fail, countText, complaintText, Action.text, Exit.code,
      String.append_assoc]

variable {filter : Log.Filter}

theorem text_silent (silent : ∀ record, filter.shows record = false) (channel : Channel)
    (run : Run) : run.text filter channel = textBy channel run.actions := by
  have same : shownText filter channel = Action.text channel := by
    funext action
    cases action with
    | write target text => rfl
    | note record => simp [shownText, Action.text, silent]
  rw [Run.text, same, textBy]

theorem batch_program {equations : List String} (disk : Disk) (input : Feed)
    (nonempty : equations ≠ []) (silent : ∀ record, filter.shows record = false) :
    let run := run ("--" :: equations) disk input
    let refused := equations.countP fun equation => !accepted equation
    run.text filter .out =
        String.join (equations.map fun e => e ++ "\n" ++ (block e).text .out) ∧
      run.text filter .err =
        String.join (equations.map fun e => (block e).text .err) ++
          countText refused equations.length ∧
      run.exit.code = (if 0 < refused then 1 else 0) ∧
      (∀ equation, Answers equation (block equation)) ∧
      ∀ front back : List String,
        (batch front).ending = .ok (tally front) ∧ (batch back).ending = .ok (tally back) ∧
          batch (front ++ back) =
            ⟨(batch front).actions ++ (batch back).actions, .ok (tally front + tally back)⟩ := by
  intro run refused
  have whole : run = (endBatch equations.length (.ok (tally equations))).after _ :=
    run_separator disk input nonempty
  obtain ⟨endOut, endErr, code⟩ := endBatch_complains equations.length (tally equations)
  refine ⟨?_, ?_, ?_, block_answers, fun front back => ⟨?_, ?_, ?_⟩⟩
  · rw [text_silent silent, whole, Run.after, textBy_append, endOut]
    simp [textBy_batch, Action.text, writeLine]
  · rw [text_silent silent, whole, Run.after, textBy_append, endErr]
    simp [textBy_batch, Action.text, writeLine, tally, refused]
  · rw [whole]
    exact code
  · rw [batch_eq]
  · rw [batch_eq]
  · simp only [batch_eq, List.flatMap_append, tally_append]

theorem off_silent (record : Log.Record) : Log.Filter.off.shows record = false := rfl

/-- Behind the separator a minus sign begins an equation, and a second separator is one. -/
theorem batch_program_minus :
    let run := run ["--", "-x^2+1", "--"] ⟨fun _ => .error .notFound⟩ (.ofBytes [])
    ["-x^2+1", "--"] ≠ [] ∧ (∀ record, Log.Filter.off.shows record = false) ∧
      run.text .off .out = "-x^2+1\n" ++ (block "-x^2+1").text .out ++ "--\n" ∧
      run.text .off .err =
        (block "--").text .err ++ "Error: 1 of 2 equation(s) could not be parsed\n" ∧
      run.exit.code = 1 := by
  intro run
  have nonempty : ["-x^2+1", "--"] ≠ [] := List.cons_ne_nil _ _
  obtain ⟨out, err, code, -⟩ := batch_program ⟨fun _ => .error .notFound⟩ (.ofBytes []) nonempty
    off_silent
  exact ⟨nonempty, off_silent, out.trans (by decide +kernel), err.trans (by decide +kernel),
    code.trans (by decide +kernel)⟩

end Program

end Parabola
