/-!
The words of a command line: what they ask for, and why they are refused.
-/

namespace Parabola.CommandLine

def defaultExitToken : String := "0"

/-- The arguments of a run. Made by hand, they may name two sources of equations at once. -/
structure Arguments where
  equations : List String
  inputFile : Option String
  exitToken : String
  noPrompt : Bool
deriving DecidableEq

inductive Misuse where
  | unknownArgument
  | argumentConflict
  | invalidValue
  | tooManyValues
deriving DecidableEq

namespace Misuse

def message : Misuse → String
  | unknownArgument => "unexpected argument found"
  | argumentConflict => "arguments cannot be used together"
  | invalidValue => "a value is missing or empty"
  | tooManyValues => "unexpected value for a flag"

end Misuse

/-- Why a command line gives no arguments to run with: it asks for a text about the program, or it
is misused. -/
inductive Stop where
  | help (full : Bool)
  | version
  | misuse (error : Misuse)
deriving DecidableEq

/-! The kinds of words before the separator; names of options are exact -/

inductive Setting where
  | inputFile
  | exitToken
deriving DecidableEq

/-- What a word is when no option waits for its value. -/
inductive Word where
  /-- Anything that does not begin with a minus sign, and the minus sign alone. -/
  | operand (text : String)
  /-- Two minus signs: all words after it are operands. -/
  | separator
  /-- An option that takes a value, which may be attached by an equals sign. -/
  | setting (setting : Setting) (attached : Option String)
  | noPrompt
  | help (full : Bool)
  | version
  /-- A flag with an attached value, which it does not take. -/
  | surplusValue
  | unknown
deriving DecidableEq

namespace Word

def ofLong (name : List Char) (attached : Option String) : Word :=
  let flag := fun word => if attached.isSome then surplusValue else word
  if name = "input-file".toList then setting .inputFile attached
  else if name = "exit-token".toList then setting .exitToken attached
  else if name = "no-prompt".toList then flag noPrompt
  else if name = "help".toList then flag (help true)
  else if name = "version".toList then flag version
  else unknown

def ofShort : List Char → Word
  | 'h' :: _ => help false
  | 'V' :: _ => version
  | _ => unknown

def attachedValue : List Char → Option String
  | [] => none
  | _ :: value => some (String.ofList value)

def ofChars : List Char → Word
  | ['-'] => operand "-"
  | ['-', '-'] => separator
  | '-' :: '-' :: long =>
    ofLong (long.takeWhile (· ≠ '=')) (attachedValue (long.dropWhile (· ≠ '=')))
  | '-' :: short => ofShort short
  | chars => operand (String.ofList chars)

def ofText (text : String) : Word := ofChars text.toList

end Word

/-!
Reading the words of a command line from left to right. The first fault is the one reported, with
one refinement: a value that stands as a word of its own is looked at only when the next word turns
out to be understood, or at the end, so a word that is not understood is reported before it.
-/

structure Draft where
  equations : List String
  inputFile : Option String
  exitToken : Option String
  noPrompt : Bool
  /-- An option and its separate value, which has not been looked at yet. -/
  pending : Option (Setting × String)
deriving DecidableEq

namespace Draft

def empty : Draft := ⟨[], none, none, false, none⟩

/-- Gives an option its value. No option can be given twice, and the path of a file not be empty. -/
def assign (draft : Draft) (setting : Setting) (value : String) : Except Stop Draft :=
  match setting with
  | .inputFile =>
    if draft.inputFile.isSome then .error (.misuse .argumentConflict)
    else if value = "" then .error (.misuse .invalidValue)
    else .ok { draft with inputFile := some value }
  | .exitToken =>
    if draft.exitToken.isSome then .error (.misuse .argumentConflict)
    else .ok { draft with exitToken := some value }

def settle (draft : Draft) : Except Stop Draft :=
  match draft.pending with
  | none => .ok draft
  | some (setting, value) => { draft with pending := none }.assign setting value

def turnPromptOff (draft : Draft) : Except Stop Draft :=
  if draft.noPrompt then .error (.misuse .argumentConflict) else .ok { draft with noPrompt := true }

def addEquations (draft : Draft) (equations : List String) : Draft :=
  { draft with equations := draft.equations ++ equations }

def finish (draft : Draft) : Except Stop Arguments :=
  if draft.inputFile.isSome ∧ draft.equations ≠ [] then .error (.misuse .argumentConflict)
  else
    .ok ⟨draft.equations, draft.inputFile, draft.exitToken.getD defaultExitToken, draft.noPrompt⟩

end Draft

/-- The value of an option that stands as the next word. A word that is understood as something else
is no value. -/
def separateValue (text : String) : Except Stop String :=
  match Word.ofText text with
  | .operand value => .ok value
  | .unknown => .error (.misuse .unknownArgument)
  | .surplusValue => .error (.misuse .tooManyValues)
  | _ => .error (.misuse .invalidValue)

def scan (draft : Draft) : List String → Except Stop Draft
  | [] => draft.settle
  | text :: more =>
    match Word.ofText text with
    | .unknown => .error (.misuse .unknownArgument)
    | .surplusValue => .error (.misuse .tooManyValues)
    | word =>
      match draft.settle with
      | .error stop => .error stop
      | .ok settled =>
        match word with
        | .operand equation => scan (settled.addEquations [equation]) more
        | .separator => .ok (settled.addEquations more)
        | .noPrompt =>
          match settled.turnPromptOff with
          | .error stop => .error stop
          | .ok quiet => scan quiet more
        | .help full => .error (.help full)
        | .version => .error .version
        | .setting setting (some value) =>
          match settled.assign setting value with
          | .error stop => .error stop
          | .ok assigned => scan assigned more
        | .setting setting none =>
          match more with
          | [] => .error (.misuse .invalidValue)
          | next :: others =>
            match separateValue next with
            | .error stop => .error stop
            | .ok value => scan { settled with pending := some (setting, value) } others
        | .unknown => .error (.misuse .unknownArgument)
        | .surplusValue => .error (.misuse .tooManyValues)

def parse (words : List String) : Except Stop Arguments :=
  match scan .empty words with
  | .error stop => .error stop
  | .ok draft => draft.finish

end Parabola.CommandLine
