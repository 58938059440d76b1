import Parabola.CommandLine.Scan
import Parabola.CommandLine.Source
import Parabola.Log
import Parabola.Session.Delivery

/-!
The whole program: words of the command line, files and standard input in, an exit code and the text
on both output channels out. Shown events go to the error channel among the other text.
-/

namespace Parabola.Program

open CommandLine

def versionText : String := "quadratic-cli 0.1.0\n"

def aboutText : String := "Quadratic CLI - решает квадратные уравнения вида `x^2-3x+2`"

def usageText : String := "Usage: quadratic-cli [OPTIONS] [EQUATION]...\n"

def shortHelpText : String :=
  aboutText ++ "\n\n" ++ usageText ++ "\n" ++
  "Arguments:\n" ++
  "  [EQUATION]...  Уравнения для решения, например \"x^2-3x+2\" или \"X^2 + 2X - 3\"\n\n" ++
  "Options:\n" ++
  "      --input-file <INPUT_FILE>  Файл уравнений (по одному на строку, поддержка # комментариев)\n" ++
  "      --exit-token <EXIT_TOKEN>  Строка, по которой интерактивный режим завершается [default: " ++
  defaultExitToken ++ "]\n" ++
  "      --no-prompt                Не печатать приглашение в интерактивном режиме\n" ++
  "  -h, --help                     Print help (see more with '--help')\n" ++
  "  -V, --version                  Print version\n"

def longHelpText : String :=
  aboutText ++ ".\n\n" ++
  "Без аргументов запускается интерактивный режим: уравнения читаются со stdin по одному на " ++
  "строку. Уравнения, начинающиеся с `-`, передавайте после `--`.\n\n" ++ usageText ++ "\n" ++
  "Arguments:\n" ++
  "  [EQUATION]...\n" ++
  "          Уравнения для решения, например \"x^2-3x+2\" или \"X^2 + 2X - 3\"\n\n" ++
  "Options:\n" ++
  "      --input-file <INPUT_FILE>\n" ++
  "          Файл уравнений (по одному на строку, поддержка # комментариев)\n\n" ++
  "      --exit-token <EXIT_TOKEN>\n" ++
  "          Строка, по которой интерактивный режим завершается\n\n" ++
  "          [default: " ++ defaultExitToken ++ "]\n\n" ++
  "      --no-prompt\n" ++
  "          Не печатать приглашение в интерактивном режиме\n\n" ++
  "  -h, --help\n" ++
  "          Print help (see a summary with '-h')\n\n" ++
  "  -V, --version\n" ++
  "          Print version\n"

def misuseText (error : Misuse) : String :=
  "error: " ++ error.message ++ "\n\nFor more information, try '--help'.\n"

inductive Plan where
  | stop (stop : Stop)
  | complain (complaint : Complaint)
  | converse (settings : Session.Settings)
  | batch (equations : List String)
deriving DecidableEq

structure Planning where
  plan : Plan
  log : List Log.Record

/-- Makes the plan: words, checks, then the source of equations. The first failure is the plan. -/
def plan (words : List String) (disk : Disk) : Planning :=
  match CommandLine.parse words with
  | .error stop => ⟨.stop stop, []⟩
  | .ok arguments =>
    match arguments.check disk with
    | .error error => ⟨.complain error.complaint, []⟩
    | .ok () =>
      let loading := arguments.load disk
      match loading.outcome with
      | .error error => ⟨.complain error.complaint, loading.log⟩
      | .ok .conversation => ⟨.converse arguments.settings, loading.log⟩
      | .ok (.batch equations) => ⟨.batch equations, loading.log⟩

inductive Exit where
  | success
  | failure
  | misuse
deriving DecidableEq

def Exit.code : Exit → Nat
  | success => 0
  | failure => 1
  | misuse => 2

/-- All that a run writes and notes, and its exit code. -/
structure Run where
  actions : List Session.Action
  exit : Exit

def complaintText (complaint : Complaint) : String :=
  "Error: " ++ complaint.message ++ "\n" ++
    match complaint.cause with
    | none => ""
    | some cause => "\nCaused by:\n    " ++ cause.message ++ "\n"

def fail (complaint : Complaint) : Run := ⟨[.write .err (complaintText complaint)], .failure⟩

def endConversation : Except Session.Failure Session.Summary → Run
  | .ok summary => ⟨[.note (.sessionEnded summary.solved summary.failed)], .success⟩
  | .error failure => fail ⟨failure.message, none⟩

/-- The end of a batch of so many equations: a failure if any of them was refused. -/
def endBatch (equations : Nat) : Except Session.Failure Session.Summary → Run
  | .ok summary =>
    if summary.failed = 0 then ⟨[], .success⟩
    else
      fail ⟨Text.natText summary.failed ++ " of " ++ Text.natText equations ++
        " equation(s) could not be parsed", none⟩
  | .error failure => fail ⟨failure.message, none⟩

def Run.after (actions : List Session.Action) (run : Run) : Run :=
  ⟨actions ++ run.actions, run.exit⟩

def perform (plan : Plan) (input : Feed) : Run :=
  match plan with
  | .stop (.help full) => ⟨[.write .out (if full then longHelpText else shortHelpText)], .success⟩
  | .stop .version => ⟨[.write .out versionText], .success⟩
  | .stop (.misuse error) => ⟨[.write .err (misuseText error)], .misuse⟩
  | .complain complaint => fail complaint
  | .converse settings =>
    let transcript := Session.converse settings input
    (endConversation transcript.ending).after
      (.note (.sessionStarted settings.exitToken) :: transcript.actions)
  | .batch equations =>
    let transcript := Session.batch equations
    (endBatch equations.length transcript.ending).after
      (.note (.batchStarted equations.length) :: transcript.actions)

def run (words : List String) (disk : Disk) (input : Feed) : Run :=
  let planning := plan words disk
  (perform planning.plan input).after (planning.log.map .note)

/-! Running as it goes -/

section Conduct

variable {m : Type → Type} [Monad m] [MonadExceptOf Session.Failure m] [Session.Output m]

def settle (run : Run) : m Exit := do
  run.actions.forM Session.act
  return run.exit

/-- Holds a session and does what its ending asks for; a failure is no failure beyond it. -/
def concluding (close : Except Session.Failure Session.Summary → Run) (session : m Session.Summary) :
    m Exit := do
  let ending ← tryCatch (.ok <$> session) fun failure => pure (.error failure)
  settle (close ending)

/-- Carries out a plan, each action before anything after it is known. -/
def conduct [Session.Input m] : Plan → m Exit
  | .converse settings => do
    Session.Output.note (.sessionStarted settings.exitToken)
    concluding endConversation (Session.interact settings)
  | .batch equations => do
    Session.Output.note (.batchStarted equations.length)
    concluding (endBatch equations.length) (Session.processAll equations)
  | plan => settle (perform plan (.ofBytes []))

end Conduct

/-! Texts of a run -/

/-- The actions that tell what was refused in the text of a filter. They come before the run. -/
def warnings (reading : Log.Reading) : List Session.Action :=
  reading.refused.map fun refusal => .write .err refusal.warning

def shownText (filter : Log.Filter) (channel : Session.Channel) : Session.Action → String
  | .write target text => if target = channel then text else ""
  | .note record => if channel = .err ∧ filter.shows record then record.line else ""

def Run.text (filter : Log.Filter) (channel : Session.Channel) (run : Run) : String :=
  String.join (run.actions.map (shownText filter channel))

end Parabola.Program
