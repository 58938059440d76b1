import Parabola.CommandLine.Scan
import Parabola.Disk
import Parabola.EquationList
import Parabola.Session.Transcript
import Parabola.Text.Quoted

/-!
From arguments to work: the checks before anything is read, the settings of a conversation, and the
choice of one source of equations.
-/

namespace Parabola.CommandLine

/-- A failure of the program: its text, and what lies behind it. -/
structure Complaint where
  message : String
  cause : Option ReadError
deriving DecidableEq

inductive CheckError where
  | emptyExitToken
  | fileNotFound (path : String) (cause : ReadError)
  | notAFile (path : String)
  | twoSources
deriving DecidableEq

namespace CheckError

def complaint : CheckError → Complaint
  | emptyExitToken => ⟨"--exit-token is empty", none⟩
  | fileNotFound path cause => ⟨"input file not found: " ++ Text.quoted path, some cause⟩
  | notAFile path => ⟨"--input-file must point to a file: " ++ Text.quoted path, none⟩
  | twoSources => ⟨"--input-file and EQUATION arguments are mutually exclusive", none⟩

end CheckError

inductive LoadError where
  | emptyList (path : String)
  | unreadable (path : String) (cause : ReadError)
deriving DecidableEq

namespace LoadError

def complaint : LoadError → Complaint
  | emptyList path => ⟨"equations list is empty (file: " ++ Text.quoted path ++ ")", none⟩
  | unreadable path cause =>
    ⟨"failed to read equations file: " ++ Text.quoted path, some cause⟩

end LoadError

inductive Source where
  | conversation
  | batch (equations : List String)
deriving DecidableEq

structure Loading where
  outcome : Except LoadError Source
  log : List Log.Record

def promptText (exitToken : String) : String := "Enter equation(" ++ exitToken ++ " for exit): "

namespace Arguments

/-- Checks the exit token, then the file, then that there is one source at most. -/
def check (arguments : Arguments) (disk : Disk) : Except CheckError Unit :=
  if Text.trim arguments.exitToken = "" then .error .emptyExitToken
  else
    let twoSources : Except CheckError Unit :=
      if arguments.inputFile.isSome ∧ arguments.equations ≠ [] then .error .twoSources else .ok ()
    match arguments.inputFile with
    | none => twoSources
    | some path =>
      match disk.find path with
      | .error cause => .error (.fileNotFound path cause)
      | .ok node => if node.isFile then twoSources else .error (.notAFile path)

/-- How a conversation is held: the exit token without blanks around it, also in the prompt. -/
def settings (arguments : Arguments) : Session.Settings :=
  let exitToken := Text.trim arguments.exitToken
  ⟨if arguments.noPrompt then none else some (promptText exitToken), exitToken⟩

/-- The equations given as arguments, or else those of the file, or else a conversation. -/
def load (arguments : Arguments) (disk : Disk) : Loading :=
  if arguments.equations ≠ [] then ⟨.ok (.batch arguments.equations), []⟩
  else
    match arguments.inputFile with
    | none => ⟨.ok .conversation, []⟩
    | some path =>
      let reading := EquationList.read (disk.feed path)
      match reading.outcome with
      | .error cause => ⟨.error (.unreadable path cause), reading.log⟩
      | .ok [] => ⟨.error (.emptyList path), reading.log⟩
      | .ok equations => ⟨.ok (.batch equations), reading.log⟩

end Arguments

end Parabola.CommandLine
