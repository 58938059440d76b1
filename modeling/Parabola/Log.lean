import Parabola.Equation.Reader
import Parabola.Term
import Parabola.Text.Basic
import Parabola.Text.Quoted

/-!
The events that a run notes, each with its severity, the part of the program that notes it, and
its wording; how they are written as lines, and which of them are shown.
-/

namespace Parabola.Log

inductive Level where
  | error
  | warn
  | info
  | debug
  | trace
deriving DecidableEq

namespace Level

/-- The most severe level has the least rank. -/
def rank : Level → Nat
  | error => 1
  | warn => 2
  | info => 3
  | debug => 4
  | trace => 5

def name : Level → String
  | error => "ERROR"
  | warn => "WARN"
  | info => "INFO"
  | debug => "DEBUG"
  | trace => "TRACE"

end Level

inductive Record where
  /-- A term was read whose power an equation may hold. -/
  | termRead (term : Term) (degree : Degree)
  | parsed (normalized : String) (result : Trinomial)
  /-- A line of an equation list holds no equation; lines count from one. -/
  | lineSkipped (number : Nat)
  | inputEnded
  | solved (equation : Trinomial) (roots : Nat)
  | rejected (equation : String) (error : Equation.ParseError)
  | sessionStarted (exitToken : String)
  | batchStarted (equations : Nat)
  | sessionEnded (solved failed : Nat)
deriving DecidableEq

namespace Record

def level : Record → Level
  | termRead _ _ => .trace
  | parsed _ _ => .debug
  | lineSkipped _ => .debug
  | inputEnded => .debug
  | solved _ _ => .debug
  | rejected _ _ => .warn
  | sessionStarted _ => .info
  | batchStarted _ => .info
  | sessionEnded _ _ => .info

def target : Record → String
  | termRead _ _ => "quadratic_core::parser"
  | parsed _ _ => "quadratic_core::parser"
  | lineSkipped _ => "quadratic_core::source"
  | inputEnded => "quadratic_cli::repl"
  | solved _ _ => "quadratic_cli::repl"
  | rejected _ _ => "quadratic_cli::repl"
  | sessionStarted _ => "quadratic_cli"
  | batchStarted _ => "quadratic_cli"
  | sessionEnded _ _ => "quadratic_cli"

def message : Record → String
  | termRead term degree => "term " ++ term.text ++ " -> slot " ++ Text.natText degree.toNat
  | parsed normalized result =>
    "parsed " ++ Text.quoted normalized ++ " as " ++ result.text
  | lineSkipped number => "skipping line " ++ Text.natText number
  | inputEnded => "end of input"
  | solved equation roots => equation.text ++ ": " ++ Text.natText roots ++ " root(s)"
  | rejected equation error =>
    "rejected equation " ++ Text.quoted equation ++ ": " ++ error.message
  | sessionStarted exitToken =>
    "Starting quadratic-cli in interactive mode: exit_token=" ++ Text.quoted exitToken
  | batchStarted equations =>
    "Starting quadratic-cli in batch mode: " ++ Text.natText equations ++ " equation(s)"
  | sessionEnded good bad => "solved=" ++ Text.natText good ++ ", failed=" ++ Text.natText bad

/-- What a log shows of an event: the name of its level and the wording. -/
def shown (record : Record) : String × String := (record.level.name, record.message)

end Record

/-! Lines -/

/-- Drops what a log line does not carry: control characters, and the character that an escape
takes along. -/
def withoutControls : List Char → List Char
  | [] => []
  | c :: rest =>
    if c = '\x1b' then withoutControls (rest.drop 1)
    else if (decide (c.toNat < 32) && !Text.isBlank c) || c == '\x7f' then withoutControls rest
    else c :: withoutControls rest
termination_by chars => chars.length
decreasing_by all_goals simp only [List.length_drop, List.length_cons]; omega

def Record.line (record : Record) : String :=
  let level := record.level.name.toList
  let head := '[' :: level ++ List.replicate (5 - level.length) ' ' ++ ' ' :: record.target.toList
  String.ofList (withoutControls (head ++ ']' :: ' ' :: record.message.toList)) ++ "\n"

/-!
Which events are shown. A filter is written as rules with commas between them, and after a slash
possibly a text that messages have to hold. A rule is a level, a target, or a target with an equals
sign and a level. Blanks around a rule and before a level do not count.
-/

/-- Shows the events of one part of the program, or of all, from some severity up. -/
structure Rule where
  /-- The beginning of the names of the parts concerned; without one it is all parts. -/
  target : Option (List Char)
  /-- The rank of the least severe events shown; zero shows none. -/
  rank : Nat
deriving DecidableEq

inductive Refusal where
  | rule (text : List Char)
  | slashes (text : List Char)
deriving DecidableEq

def Refusal.warning : Refusal → String
  | rule text => "warning: invalid logging spec '" ++ String.ofList text ++ "', ignoring it\n"
  | slashes text =>
    "warning: invalid logging spec '" ++ String.ofList text ++ "' (too many '/'s), ignoring it\n"

namespace Rule

def rankOf? (name : List Char) : Option Nat :=
  match name.map Char.toLower with
  | ['o', 'f', 'f'] => some 0
  | ['e', 'r', 'r', 'o', 'r'] => some Level.error.rank
  | ['w', 'a', 'r', 'n'] => some Level.warn.rank
  | ['i', 'n', 'f', 'o'] => some Level.info.rank
  | ['d', 'e', 'b', 'u', 'g'] => some Level.debug.rank
  | ['t', 'r', 'a', 'c', 'e'] => some Level.trace.rank
  | _ => none

def whole (target : List Char) : Rule := ⟨some target, Level.trace.rank⟩

def errors : Rule := ⟨none, Level.error.rank⟩

/-- A rule as it is written. A single word is a level if it can be one, else a target. -/
def read (text : List Char) : Except Refusal Rule :=
  match Text.pieces '=' text with
  | [word] =>
    match rankOf? word with
    | some rank => .ok ⟨none, rank⟩
    | none => .ok (whole word)
  | [target, level] =>
    let level := Text.trimmed level
    if level = [] then .ok (whole target)
    else
      match rankOf? level with
      | some rank => .ok ⟨some target, rank⟩
      | none => .error (.rule level)
  | _ => .error (.rule text)

def concerns (rule : Rule) (record : Record) : Bool :=
  match rule.target with
  | none => true
  | some target => target.isPrefixOf record.target.toList

def reach (rule : Rule) : Nat :=
  match rule.target with
  | none => 0
  | some target => target.length

def addTo (rule : Rule) : List Rule → List Rule
  | [] => [rule]
  | first :: rest =>
    if first.target = rule.target then rule :: rest else first :: addTo rule rest

/-- Which of two rules about an event decides: the one with the longer target, of two equally long
the later. -/
def prevailing (earlier : Option Rule) (later : Rule) : Rule :=
  match earlier with
  | none => later
  | some rule => if rule.reach ≤ later.reach then later else rule

end Rule

/-- Rules, and a text that the messages shown have to hold. -/
structure Filter where
  rules : List Rule
  held : List Char
deriving DecidableEq

structure Reading where
  filter : Filter
  refused : List Refusal
deriving DecidableEq

namespace Filter

def off : Filter := ⟨[], []⟩

def ruleFor? (filter : Filter) (record : Record) : Option Rule :=
  (filter.rules.filter (·.concerns record)).foldl
    (fun earlier later => some (Rule.prevailing earlier later)) none

def holds (part : List Char) : List Char → Bool
  | [] => part.isEmpty
  | c :: rest => part.isPrefixOf (c :: rest) || holds part rest

def shows (filter : Filter) (record : Record) : Bool :=
  match filter.ruleFor? record with
  | none => false
  | some rule =>
    decide (record.level.rank ≤ rule.rank) && holds filter.held record.message.toList

def readRules (rules : List Rule) (held : List Char) : List (List Char) → Reading
  | [] => ⟨⟨if rules = [] then [.errors] else rules, held⟩, []⟩
  | text :: more =>
    let text := Text.trimmed text
    if text = [] then readRules rules held more
    else
      match Rule.read text with
      | .ok rule => readRules (rule.addTo rules) held more
      | .error refusal =>
        let reading := readRules rules held more
        ⟨reading.filter, refusal :: reading.refused⟩

/-- Reads a filter as it is written. With several slashes it counts as empty. -/
def read (text : String) : Reading :=
  match Text.pieces '/' text.toList with
  | [rules] => readRules [] [] (Text.pieces ',' rules)
  | [rules, held] => readRules [] held (Text.pieces ',' rules)
  | _ => ⟨⟨[.errors], []⟩, [.slashes text.toList]⟩

end Filter

-- Blanks around a rule and before a level do not count, blanks after a target do.
example : Filter.read " Info\t" = ⟨⟨[⟨none, 3⟩], []⟩, []⟩ := by decide +kernel
example : Filter.read "a = warn,=off" =
    ⟨⟨[⟨some ['a', ' '], 2⟩, ⟨some [], 0⟩], []⟩, []⟩ := by decide +kernel

-- What cannot be read is refused, and the rest of the rules stays.
example : Filter.read "a=b=c,a=b,a" =
    ⟨⟨[⟨some ['a'], 5⟩], []⟩, [.rule ['a', '=', 'b', '=', 'c'], .rule ['b']]⟩ := by decide +kernel

end Parabola.Log
