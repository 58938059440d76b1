import Parabola.Feed
import Parabola.Log
import Parabola.Text.Basic

/-!
Lists of equations: one on a line, with comments from a number sign to the end of the line. A list
is read as a whole or not at all.
-/

namespace Parabola.EquationList

def commentSign : Char := '#'

def stripLine (line : String) : String :=
  String.ofList (Text.trimmed (line.toList.takeWhile (· ≠ commentSign)))

/-- The outcome of reading a list and the events noted on the way. -/
structure Reading where
  outcome : Except ReadError (List String)
  log : List Log.Record

namespace Reading

def cons (equation : String) (later : Reading) : Reading :=
  ⟨later.outcome.map (equation :: ·), later.log⟩

def skip (number : Nat) (later : Reading) : Reading :=
  ⟨later.outcome, .lineSkipped number :: later.log⟩

end Reading

/-- Reads lines of which the first has the given number. -/
def ofLines (number : Nat) : Lines → Reading
  | .finished => ⟨.ok [], []⟩
  | .failed error => ⟨.error error, []⟩
  | .line bytes rest =>
    match Text.ofBytes? bytes with
    | none => ⟨.error .notUtf8, []⟩
    | some line =>
      if stripLine line = "" then (ofLines (number + 1) rest).skip number
      else (ofLines (number + 1) rest).cons (stripLine line)

def read (feed : Feed) : Reading := ofLines 1 feed.lines

end Parabola.EquationList
