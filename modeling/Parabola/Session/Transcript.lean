import Parabola.Equation.Parse
import Parabola.Feed
import Parabola.Roots
import Parabola.Text.Basic

/-!
Solving one equation after another. A run is a list of actions, which are texts written to one of
two channels and noted events, and an ending. An equation that is refused is reported and does not
end the run.
-/

namespace Parabola.Session

/-- Where text goes: answers to one channel, refusals to the other. -/
inductive Channel where
  | out
  | err
deriving DecidableEq

inductive Action where
  | write (channel : Channel) (text : String)
  | note (record : Log.Record)
deriving DecidableEq

structure Summary where
  solved : Nat
  failed : Nat
deriving DecidableEq, Inhabited

def Summary.zero : Summary := ⟨0, 0⟩

inductive Failure where
  | read (error : ReadError)
  | full (channel : Channel)
  | solve (error : SolveError)
deriving DecidableEq

namespace Failure

def message : Failure → String
  | read error => error.message
  | full .out => "out is full"
  | full .err => "err is full"
  | solve error => error.message

end Failure

/-- All actions of a run, in order, and its ending. -/
structure Transcript where
  actions : List Action
  ending : Except Failure Summary

namespace Transcript

def done (summary : Summary) : Transcript := ⟨[], .ok summary⟩

def after (actions : List Action) (transcript : Transcript) : Transcript :=
  ⟨actions ++ transcript.actions, transcript.ending⟩

/-- The run followed by another one, which goes on counting, unless it ended early. -/
def andThen (transcript : Transcript) (next : Summary → Transcript) : Transcript :=
  match transcript.ending with
  | .error failure => ⟨transcript.actions, .error failure⟩
  | .ok summary => (next summary).after transcript.actions

end Transcript

def writeLine (channel : Channel) (text : String) : Action := .write channel (text ++ "\n")

/-- Answers one equation: its roots on one channel or the refusal on the other, and an empty line. -/
def answer (equation : String) (summary : Summary) : Transcript :=
  let reading := Equation.read equation
  let noted := reading.log.map Action.note
  match reading.outcome with
  | .error error =>
    ⟨noted ++ [.note (.rejected equation error), writeLine .err ("Error: " ++ error.message),
        writeLine .err ""],
      .ok { summary with failed := summary.failed + 1 }⟩
  | .ok trinomial =>
    match trinomial.solve with
    | .error error => ⟨noted, .error (.solve error)⟩
    | .ok roots =>
      ⟨noted ++ [.note (.solved trinomial roots.count), writeLine .out roots.report,
          writeLine .out ""],
        .ok { summary with solved := summary.solved + 1 }⟩

/-! Batches: equations that are all known beforehand, each written out above its answer -/

def headed (equation : String) (summary : Summary) : Transcript :=
  (answer equation summary).after [writeLine .out equation]

def batchFrom (summary : Summary) : List String → Transcript
  | [] => .done summary
  | equation :: more => (headed equation summary).andThen fun counted => batchFrom counted more

def batch (equations : List String) : Transcript := batchFrom .zero equations

/-!
A conversation: one equation on a line, answered before the next line is read. It ends at a line
that is the exit token, at the end of the input or at a line that is not text. Blank lines are
passed over.
-/

/-- How a conversation is held. Without a prompt nothing is written before a line is read. -/
structure Settings where
  prompt : Option String
  exitToken : String
deriving DecidableEq

/-- What is done before each line is read, the last one included. -/
def Settings.invite (settings : Settings) : List Action :=
  match settings.prompt with
  | none => []
  | some prompt => [.write .out prompt]

inductive Next where
  | more (summary : Summary)
  | stop (ending : Except Failure Summary)

structure Reaction where
  actions : List Action
  next : Next

/-- The reaction to a line. The exit token is looked for first, so even an empty token works. -/
def react (settings : Settings) (bytes : List UInt8) (summary : Summary) : Reaction :=
  match Text.ofBytes? bytes with
  | none => ⟨[], .stop (.error (.read .notUtf8))⟩
  | some line =>
    let equation := Text.trim line
    if equation = settings.exitToken then ⟨[], .stop (.ok summary)⟩
    else if equation = "" then ⟨[], .more summary⟩
    else
      let answered := answer equation summary
      match answered.ending with
      | .ok counted => ⟨answered.actions, .more counted⟩
      | .error failure => ⟨answered.actions, .stop (.error failure)⟩

def converseFrom (settings : Settings) (summary : Summary) : Lines → Transcript
  | .finished => ⟨settings.invite ++ [.note .inputEnded], .ok summary⟩
  | .failed error => ⟨settings.invite, .error (.read error)⟩
  | .line bytes rest =>
    let reaction := react settings bytes summary
    match reaction.next with
    | .stop ending => ⟨settings.invite ++ reaction.actions, ending⟩
    | .more counted =>
      (converseFrom settings counted rest).after (settings.invite ++ reaction.actions)

def converse (settings : Settings) (input : Feed) : Transcript :=
  converseFrom settings .zero input.lines

end Parabola.Session
