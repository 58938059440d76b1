import Parabola.Program

/-!
The command line program. It looks up the file that the arguments name, makes the plan and carries it
out on the standard channels; a conversation is answered line by line.
-/

namespace Parabola.Main

open Session

/-- The cause of a failed access to a path from the command line, which holds no NUL. -/
def readError : IO.Error → ReadError
  | .noFileOrDirectory _ _ _ => .notFound
  | .inappropriateType _ _ _ => .notADirectory
  | .invalidArgument _ _ _ => .nameTooLong
  | .permissionDenied _ _ _ => .other "Permission denied (os error 13)"
  | error => .other error.toString

def lookUp (path : String) : IO (Except ReadError Node) := do
  if path = "" then return .error .notFound
  let file := (← IO.currentDir) / path
  match ← file.metadata.toBaseIO with
  | .error error => return .error (readError error)
  | .ok information =>
    if information.type == .dir then return .ok .directory
    match ← (IO.FS.readBinFile file).toBaseIO with
    | .error error => return .ok (.file (.failing (readError error)))
    | .ok bytes => return .ok (.file (.ofBytes bytes.data.toList))

/-- The disk as far as the arguments need it: the one path that they may name. -/
def diskFor (words : List String) : IO Disk := do
  match CommandLine.parse words with
  | .ok ⟨_, some path, _, _⟩ =>
    let found ← lookUp path
    return ⟨fun asked => if asked = path then found else .error .notFound⟩
  | _ => return ⟨fun _ => .error .notFound⟩

/-- The standard channels, where events that the filter shows are lines among the errors, and standard
input. A failed write ends the program. -/
abbrev Console := ExceptT Failure (ReaderT Log.Filter IO)

def stream : Channel → IO IO.FS.Stream
  | .out => IO.getStdout
  | .err => IO.getStderr

-- Whole lines are passed on at once, anything else with the next flush.
instance : Output Console where
  write channel text := do
    let stream ← stream channel
    stream.putStr text
    if text.endsWith "\n" then stream.flush
  flush channel := do (← stream channel).flush
  note record := do
    if (← read).shows record then (← stream .err).putStr record.line

def readLine : IO (Option (List UInt8)) := do
  let input ← IO.getStdin
  let next := fun (held : List UInt8) => do
    match (← input.read 1).data.toList with
    | [] => return .inr (if held.isEmpty then none else some held.reverse)
    | byte :: _ =>
      if byte = Lines.newline then return .inr (some held.reverse) else return .inl (byte :: held)
  repeatM next []

instance : Input Console where
  readLine := do
    match ← readLine.toBaseIO with
    | .ok line => return line
    | .error error => throw (.read (readError error))

def environmentFilter : IO Log.Reading := do
  match ← IO.getEnv "RUST_LOG" with
  | some text => return Log.Filter.read text
  | none => return ⟨.off, []⟩

def execute (words : List String) (warnings : List Action) : Console Program.Exit := do
  warnings.forM act
  let planning := Program.plan words (← diskFor words)
  planning.log.forM Output.note
  Program.conduct planning.plan

/-- The exit code of a program, which says on the error channel what it failed with, if anything. -/
def finish (ending : Except IO.Error (Except Failure Program.Exit)) : IO Program.Exit := do
  let complain := fun (message : String) => do
    (← IO.getStderr).putStr (Program.complaintText ⟨message, none⟩)
    return Program.Exit.failure
  match ending with
  | .ok (.ok exit) => return exit
  | .ok (.error failure) => complain failure.message
  | .error error => complain (readError error).message

end Parabola.Main

def main (words : List String) : IO UInt32 := do
  let reading ← Parabola.Main.environmentFilter
  let program := Parabola.Main.execute words (Parabola.Program.warnings reading)
  let exit ← Parabola.Main.finish (← (program.run reading.filter).toBaseIO)
  return UInt32.ofNat exit.code
