import Parabola.Feed
import Parabola.Text.Basic

/-!
The files that a run may read. A path names a file, whose contents are a feed, or a directory, which
is found like a file but cannot be read.
-/

namespace Parabola

inductive Node where
  | file (contents : Feed)
  | directory
deriving DecidableEq

namespace Node

def feed : Node → Feed
  | file contents => contents
  | directory => .failing .isADirectory

def isFile : Node → Bool
  | file _ => true
  | directory => false

end Node

/-- What every path leads to. -/
structure Disk where
  find : String → Except ReadError Node

namespace Disk

/-- Opening a path and reading what it names. A path that leads nowhere fails at once. -/
def feed (disk : Disk) (path : String) : Feed :=
  match disk.find path with
  | .ok node => node.feed
  | .error error => .failing error

end Disk

/-!
A working directory with some files and directories below it, and how paths are resolved in it: name
by name from the left, where every name but the last, and also the last if a slash follows it, has
to name a directory. Outside the working directory nothing is found but the directories around it.
-/

/-- A place on the way along a path: some steps up from the working directory, then down by name. -/
structure Place where
  up : Nat
  down : List String
deriving DecidableEq

namespace Place

def here : Place := ⟨0, []⟩

def around : Place := ⟨1, []⟩

def enter (place : Place) (name : String) : Place := ⟨place.up, place.down ++ [name]⟩

def leave (place : Place) : Place :=
  if place.down.isEmpty then ⟨place.up + 1, []⟩ else ⟨place.up, place.down.dropLast⟩

/-- Where a name leads. An empty name and a single dot stay, two dots go one step up. -/
def step (place : Place) (name : String) : Place :=
  if name = "" ∨ name = "." then place
  else if name = ".." then place.leave
  else place.enter name

end Place

/-- Files and directories by their places. The directories on the way to an entry are entries as
well, and of two entries for one place the first counts. -/
structure Directory where
  entries : List (Place × Node)

namespace Directory

/-- What is at a place. The working directory and those around it are always there. -/
def node? (directory : Directory) (place : Place) : Option Node :=
  if place.down.isEmpty then some .directory
  else (directory.entries.find? fun entry => entry.1 = place).map fun entry => entry.2

def nameLimit : Nat := 255

def pathLimit : Nat := 4095

def follow (directory : Directory) (place : Place) : List String → Except ReadError Node
  | [] =>
    match directory.node? place with
    | some node => .ok node
    | none => .error .notFound
  | name :: more =>
    match directory.node? place with
    | none => .error .notFound
    | some (.file _) => .error .notADirectory
    | some .directory =>
      if nameLimit < name.utf8ByteSize then .error .nameTooLong
      else follow directory (place.step name) more

def names (path : String) : List String := (Text.pieces '/' path.toList).map String.ofList

/-- What a path leads to. A path that starts with a slash starts around the working directory. -/
def resolve (directory : Directory) (path : String) : Except ReadError Node :=
  if path.toList.contains '\x00' then .error .nulInName
  else if path = "" then .error .notFound
  else if pathLimit < path.utf8ByteSize then .error .nameTooLong
  else follow directory (if path.toList.head? = some '/' then .around else .here) (names path)

def disk (directory : Directory) : Disk := ⟨directory.resolve⟩

def entriesTo (node : Node) (place : Place) : List String → List (Place × Node)
  | [] => [(place, node)]
  | name :: more => (place, .directory) :: entriesTo node (place.step name) more

def entriesOf (name : String) (bytes : List UInt8) : List (Place × Node) :=
  let node := if name.toList.getLast? = some '/' then .directory else .file (.ofBytes bytes)
  entriesTo node .here (names name)

/-- The directory that holds the named files and directories. Of two files at one place the later
one stays. -/
def ofFiles (files : List (String × List UInt8)) : Directory :=
  ⟨files.reverse.flatMap fun file => entriesOf file.1 file.2⟩

end Directory

end Parabola
