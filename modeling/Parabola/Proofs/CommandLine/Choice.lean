import Parabola.CommandLine.Source
import Parabola.Disk
import Parabola.Proofs.CommandLine.Sources
import Parabola.Proofs.EquationList

/-!
The choice of one source of equations, for arguments from a command line and for arguments made by
hand: what is checked before, what is loaded, and how loading can fail.
-/

namespace Parabola.CommandLine

namespace Arguments

variable {arguments : Arguments} {disk : Disk}

/-- Every input file that is named is found, and it is a file. -/
def Found (arguments : Arguments) (disk : Disk) : Prop :=
  ∀ path, arguments.inputFile = some path → ∃ contents, disk.find path = .ok (.file contents)

def Readable (arguments : Arguments) (disk : Disk) : Prop :=
  ∀ path contents, arguments.inputFile = some path → disk.find path = .ok (.file contents) →
    contents.failure = none

theorem check_ok_iff : arguments.check disk = .ok () ↔
    Text.trim arguments.exitToken ≠ "" ∧ arguments.Found disk ∧
      ¬ (arguments.inputFile.isSome ∧ arguments.equations ≠ []) := by
  by_cases blank : Text.trim arguments.exitToken = ""
  · simp [check, blank]
  cases file : arguments.inputFile with
  | none => simp [check, blank, file, Found]
  | some path =>
    cases found : disk.find path with
    | error cause => simp [check, blank, file, found, Found]
    | ok node => cases node <;> simp [check, blank, file, found, Found, Node.isFile]

-- The last check has nothing to find where one source is missing.
theorem check_single (single : arguments.equations = [] ∨ arguments.inputFile = none) :
    arguments.check disk ≠ .error .twoSources := by
  have apart : ¬ (arguments.inputFile.isSome ∧ arguments.equations ≠ []) := by
    rintro ⟨named, listed⟩
    rcases single with unlisted | no_file
    · exact listed unlisted
    · simp [no_file] at named
  by_cases blank : Text.trim arguments.exitToken = ""
  · simp [check, blank]
  simp only [check, blank, apart, if_false]
  cases arguments.inputFile with
  | none => simp
  | some path =>
    cases found : disk.find path with
    | error cause => simp [found]
    | ok node => cases node <;> simp [found, Node.isFile]

inductive Loads (arguments : Arguments) (disk : Disk) : Except LoadError Source → Prop where
  | listed (some_listed : arguments.equations ≠ []) :
      Loads arguments disk (.ok (.batch arguments.equations))
  | conversation (unlisted : arguments.equations = []) (no_file : arguments.inputFile = none) :
      Loads arguments disk (.ok .conversation)
  | file {path equations} (unlisted : arguments.equations = [])
      (file : arguments.inputFile = some path)
      (whole : (EquationList.read (disk.feed path)).outcome = .ok equations)
      (filled : equations ≠ []) : Loads arguments disk (.ok (.batch equations))
  | emptyList {path} (unlisted : arguments.equations = []) (file : arguments.inputFile = some path)
      (whole : (EquationList.read (disk.feed path)).outcome = .ok []) :
      Loads arguments disk (.error (.emptyList path))
  | unreadable {path cause} (unlisted : arguments.equations = [])
      (file : arguments.inputFile = some path)
      (refused : (EquationList.read (disk.feed path)).outcome = .error cause) :
      Loads arguments disk (.error (.unreadable path cause))

theorem load_loads (arguments : Arguments) (disk : Disk) :
    arguments.Loads disk (arguments.load disk).outcome := by
  by_cases unlisted : arguments.equations = []
  · cases file : arguments.inputFile with
    | none => simpa [load, unlisted, file] using Loads.conversation unlisted file
    | some path =>
      cases read : (EquationList.read (disk.feed path)).outcome with
      | error cause => simpa [load, unlisted, file, read] using Loads.unreadable unlisted file read
      | ok equations =>
        cases equations with
        | nil => simpa [load, unlisted, file, read] using Loads.emptyList unlisted file read
        | cons equation more =>
          simpa [load, unlisted, file, read] using
            Loads.file unlisted file read (List.cons_ne_nil equation more)
  · simpa [load, unlisted] using Loads.listed unlisted

theorem load_conversation_iff : (arguments.load disk).outcome = .ok .conversation ↔
    arguments.equations = [] ∧ arguments.inputFile = none := by
  constructor
  · intro chosen
    have loads := chosen ▸ arguments.load_loads disk
    cases loads with
    | conversation unlisted no_file => exact ⟨unlisted, no_file⟩
  · rintro ⟨unlisted, no_file⟩
    simp [load, unlisted, no_file]

theorem load_filled {equations : List String}
    (chosen : (arguments.load disk).outcome = .ok (.batch equations)) : equations ≠ [] := by
  have loads := chosen ▸ arguments.load_loads disk
  cases loads with
  | listed some_listed => exact some_listed
  | file _ _ _ filled => exact filled

theorem load_file {equations : List String} (unlisted : arguments.equations = [])
    (chosen : (arguments.load disk).outcome = .ok (.batch equations)) :
    ∃ path, arguments.inputFile = some path ∧
      (EquationList.read (disk.feed path)).outcome = .ok equations := by
  have loads := chosen ▸ arguments.load_loads disk
  cases loads with
  | listed some_listed => exact absurd unlisted some_listed
  | file _ file whole => exact ⟨_, file, whole⟩

theorem load_keeps {equations : List String}
    (single : arguments.equations = [] ∨ arguments.inputFile = none)
    (chosen : (arguments.load disk).outcome = .ok (.batch equations)) :
    (arguments.equations ≠ [] → equations = arguments.equations) ∧
      ∀ path, arguments.inputFile = some path →
        (EquationList.read (disk.feed path)).outcome = .ok equations := by
  have loads := chosen ▸ arguments.load_loads disk
  cases loads with
  | listed some_listed =>
    refine ⟨fun _ => rfl, fun path file => ?_⟩
    rcases single with unlisted | no_file
    · exact absurd unlisted some_listed
    · simp [file] at no_file
  | file unlisted file whole =>
    refine ⟨fun some_listed => absurd unlisted some_listed, fun path other => ?_⟩
    rw [Option.some.inj (other.symm.trans file)]
    exact whole

theorem load_fails {error : LoadError} (found : arguments.Found disk)
    (readable : arguments.Readable disk) (failed : (arguments.load disk).outcome = .error error) :
    ∃ path, arguments.inputFile = some path ∧
      (error = .emptyList path ∨ error = .unreadable path .notUtf8) := by
  have loads := failed ▸ arguments.load_loads disk
  cases loads with
  | emptyList _ file => exact ⟨_, file, .inl rfl⟩
  | @unreadable path cause _ file refused =>
    obtain ⟨contents, there⟩ := found path file
    have feed : disk.feed path = contents := by simp only [Disk.feed, there, Node.feed]
    rw [feed] at refused
    rcases EquationList.read_error_iff.mp refused with ⟨-, rfl⟩ | ⟨-, fails⟩
    · exact ⟨path, file, .inr rfl⟩
    · simp [readable path contents file there] at fails

end Arguments

/-- Accepted words name one source of equations at most, and all of it is what runs. Whatever the
arguments, there is a conversation exactly if they name no source, and a batch that is not empty
otherwise; equations from a file are settled. After a check, loading fails only for a file without
equations or one that spells no text. -/
theorem sources_exclusive :
    (∀ words arguments, parse words = .ok arguments →
      ∃ items, Gives words items ∧ (∀ others, Gives words others → others = items) ∧
        arguments.equations = operands items ∧
        arguments.inputFile.toList = values .inputFile items ∧
        (operands items = [] ∨ values .inputFile items = []) ∧
        ∀ disk, arguments.check disk ≠ .error .twoSources ∧
          ∀ equations, (arguments.load disk).outcome = .ok (.batch equations) →
            (operands items ≠ [] → equations = operands items) ∧
              ∀ path ∈ values .inputFile items,
                (EquationList.read (disk.feed path)).outcome = .ok equations) ∧
    (∀ (arguments : Arguments) disk,
      ((arguments.load disk).outcome = .ok .conversation ↔
        arguments.equations = [] ∧ arguments.inputFile = none) ∧
      (arguments.load disk).outcome ≠ .ok (.batch []) ∧
      ∀ equations, arguments.equations = [] →
        (arguments.load disk).outcome = .ok (.batch equations) →
          ∀ equation ∈ equations, EquationList.Settled equation) ∧
    ∀ (arguments : Arguments) disk, arguments.check disk = .ok () → arguments.Readable disk →
      ∀ error, (arguments.load disk).outcome = .error error →
        ∃ path, arguments.inputFile = some path ∧
          (error = .emptyList path ∨ error = .unreadable path .notUtf8) := by
  refine ⟨fun words arguments accepted => ?_, fun arguments disk => ⟨?_, ?_, ?_⟩, ?_⟩
  · obtain ⟨items, gives, equations, file, -, -, single⟩ := parse_gives accepted
    refine ⟨items, gives, fun others given => gives_unique given gives, equations, file, ?_,
      fun disk => ⟨?_, ?_⟩⟩
    · rw [← equations, ← file, Option.toList_eq_nil_iff]
      exact single
    · exact Arguments.check_single single
    · intro loaded chosen
      rw [← equations, ← file]
      simpa using Arguments.load_keeps single chosen
  · exact Arguments.load_conversation_iff
  · exact fun chosen => Arguments.load_filled chosen rfl
  · intro equations unlisted chosen
    obtain ⟨path, -, whole⟩ := Arguments.load_file unlisted chosen
    exact EquationList.read_settled whole
  · intro arguments disk checked readable error
    obtain ⟨-, found, -⟩ := Arguments.check_ok_iff.mp checked
    exact Arguments.load_fails found readable

/-- A path and a lone minus sign as separate values. In one directory the file holds an equation, in
the other one only a comment. -/
theorem sources_exclusive_file :
    let words := ["--exit-token", "-", "--input-file", "list"]
    let arguments : Arguments := ⟨[], some "list", "-", false⟩
    let disk := (Directory.ofFiles [("list", Text.toBytes " x^2-1 # two\n")]).disk
    let comments := (Directory.ofFiles [("list", Text.toBytes "# none\n")]).disk
    parse words = .ok arguments ∧ (arguments.load disk).outcome = .ok (.batch ["x^2-1"]) ∧
      arguments.check disk ≠ .error .twoSources ∧
      (∀ equation ∈ ["x^2-1"], EquationList.Settled equation) ∧
      arguments.check comments = .ok () ∧ arguments.Readable comments ∧
      (arguments.load comments).outcome = .error (.emptyList "list") ∧
      ∃ path, arguments.inputFile = some path ∧
        (LoadError.emptyList "list" = .emptyList path ∨
          LoadError.emptyList "list" = .unreadable path .notUtf8) := by
  intro words arguments disk comments
  obtain ⟨given, chosen, fails⟩ := sources_exclusive
  have accepted : parse words = .ok arguments := by decide +kernel
  have there : disk.find "list" = .ok (.file (.ofBytes (Text.toBytes " x^2-1 # two\n"))) := by
    decide +kernel
  have whole : (EquationList.read (disk.feed "list")).outcome = .ok ["x^2-1"] := by
    rw [Disk.feed, there]
    exact EquationList.read_pieces_iff.mpr ⟨rfl, by decide +kernel, by decide +kernel⟩
  have loaded : (arguments.load disk).outcome = .ok (.batch ["x^2-1"]) := by
    simp [arguments, Arguments.load, whole]
  have commented : comments.find "list" = .ok (.file (.ofBytes (Text.toBytes "# none\n"))) := by
    decide +kernel
  have nothing : (EquationList.read (comments.feed "list")).outcome = .ok [] := by
    rw [Disk.feed, commented]
    exact EquationList.read_pieces_iff.mpr ⟨rfl, by decide +kernel, by decide +kernel⟩
  have empty : (arguments.load comments).outcome = .error (.emptyList "list") := by
    simp [arguments, Arguments.load, nothing]
  have checked : arguments.check comments = .ok () := by decide +kernel
  have readable : arguments.Readable comments := by
    rintro path contents ⟨⟩ found
    rw [commented] at found
    cases found
    rfl
  obtain ⟨items, -, -, -, -, -, kept⟩ := given words arguments accepted
  exact ⟨accepted, loaded, (kept disk).1, (chosen arguments disk).2.2 _ rfl loaded, checked, readable,
    empty, fails arguments comments checked readable _ empty⟩

end Parabola.CommandLine
