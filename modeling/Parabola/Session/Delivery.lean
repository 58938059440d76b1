import Parabola.Session.Transcript

/-!
Runs that act as they go. Each is written once, for whatever channels and source of lines it is given,
so the run on the standard channels and the run that is reasoned about are one text. Here the channels
take a limited number of bytes: the first byte that finds no room ends the run, and the bytes before
it have been written.
-/

namespace Parabola.Session

/-- Two channels and a log. Where a channel does not take all of a text, writing it fails. -/
class Output (m : Type → Type) where
  write : Channel → String → m Unit
  flush : Channel → m Unit
  note : Log.Record → m Unit

/-- A source of lines without their newlines. At its end it gives nothing; reading from it may fail. -/
class Input (m : Type → Type) where
  readLine : m (Option (List UInt8))

open Output Input

/-! Programs -/

section Programs

variable {m : Type → Type} [Monad m] [MonadExceptOf Failure m] [Output m]

def act : Action → m Unit
  | .write channel text => write channel text
  | .note record => note record

def writeLn (channel : Channel) (text : String) : m Unit := write channel (text ++ "\n")

def process (equation : String) (summary : Summary) : m Summary := do
  let reading := Equation.read equation
  reading.log.forM note
  match reading.outcome with
  | .error error =>
    note (.rejected equation error)
    writeLn .err ("Error: " ++ error.message)
    writeLn .err ""
    return { summary with failed := summary.failed + 1 }
  | .ok trinomial =>
    match trinomial.solve with
    | .error error => throw (.solve error)
    | .ok roots =>
      note (.solved trinomial roots.count)
      writeLn .out roots.report
      writeLn .out ""
      return { summary with solved := summary.solved + 1 }

def processHeaded (summary : Summary) (equation : String) : m Summary := do
  writeLn .out equation
  flush .out
  process equation summary

def processAll (equations : List String) : m Summary := equations.foldlM processHeaded .zero

def writePrompt (settings : Settings) : m Unit := do
  if let some prompt := settings.prompt then
    write .out prompt
    flush .out

/-- Reacts to one line. A summary on the right is the last. -/
def respond (settings : Settings) (bytes : List UInt8) (summary : Summary) :
    m (Summary ⊕ Summary) := do
  match Text.ofBytes? bytes with
  | none => throw (.read .notUtf8)
  | some line =>
    let equation := Text.trim line
    if equation = settings.exitToken then return .inr summary
    else if equation = "" then return .inl summary
    else return .inl (← process equation summary)

def turn [Input m] (settings : Settings) (summary : Summary) : m (Summary ⊕ Summary) := do
  writePrompt settings
  match ← readLine with
  | none =>
    note .inputEnded
    return .inr summary
  | some bytes => respond settings bytes summary

def interact [Input m] (settings : Settings) : m Summary := repeatM (turn settings) .zero

end Programs

/-! Room -/

/-- How many bytes each channel still takes; without a number it takes all. -/
structure Room where
  out : Option Nat
  err : Option Nat

namespace Room

def unlimited : Room := ⟨none, none⟩

def get (room : Room) : Channel → Option Nat
  | .out => room.out
  | .err => room.err

def use (room : Room) (channel : Channel) (bytes : Nat) : Room :=
  match channel with
  | .out => { room with out := room.out.map (· - bytes) }
  | .err => { room with err := room.err.map (· - bytes) }

def takes (room : Room) (channel : Channel) (bytes : Nat) : Bool :=
  match room.get channel with
  | none => true
  | some left => decide (bytes ≤ left)

def part (room : Room) (channel : Channel) (bytes : List UInt8) : List UInt8 :=
  match room.get channel with
  | none => bytes
  | some left => bytes.take left

end Room

inductive Event where
  | wrote (channel : Channel) (bytes : List UInt8)
  | noted (record : Log.Record)
deriving DecidableEq

/-- What a run did on limited channels and how it ended there. -/
structure Delivered where
  events : List Event
  ending : Except Failure Summary

/-- Channels with the room left on them, and all that was done so far. -/
structure Bench where
  room : Room
  events : List Event

instance : Inhabited Bench := ⟨⟨.unlimited, []⟩⟩

abbrev Limited := ExceptT Failure (StateM Bench)

namespace Limited

/-- Writes what there is room for. The program ends there if that is not all. -/
def write (channel : Channel) (text : String) : Limited Unit :=
  ExceptT.mk <| modifyGet fun bench =>
    let bytes := Text.toBytes text
    let room := bench.room.use channel bytes.length
    if bench.room.takes channel bytes.length then
      (.ok (), ⟨room, bench.events ++ [.wrote channel bytes]⟩)
    else
      (.error (.full channel),
        ⟨room, bench.events ++ [.wrote channel (bench.room.part channel bytes)]⟩)

instance : Output Limited where
  write := write
  flush _ := pure ()
  note record := modify fun bench => { bench with events := bench.events ++ [.noted record] }

end Limited

abbrev Fed := StateT Lines Limited

instance : Output Fed where
  write channel text := liftM (write channel text : Limited Unit)
  flush channel := liftM (flush channel : Limited Unit)
  note record := liftM (note record : Limited Unit)

instance : Input Fed where
  readLine := do
    match ← get with
    | .finished => return none
    | .failed error => throw (.read error)
    | .line bytes rest =>
      set rest
      return some bytes

/-- What a program does where there is so much room. -/
def confined (work : Limited Summary) (room : Room) : Delivered :=
  let done := Id.run (work.run.run ⟨room, []⟩)
  ⟨done.2.events, done.1⟩

def runBatch (equations : List String) (room : Room) : Delivered :=
  confined (processAll equations) room

def runConversation (settings : Settings) (input : Feed) (room : Room) : Delivered :=
  confined ((interact settings : Fed Summary).run' input.lines) room

/-! Transcripts -/

/-- Carries out actions while there is room, and gives the channel that was too small, if any. -/
def perform (room : Room) : List Action → List Event × Option Channel
  | [] => ([], none)
  | .note record :: more =>
    let later := perform room more
    (.noted record :: later.1, later.2)
  | .write channel text :: more =>
    let bytes := Text.toBytes text
    if room.takes channel bytes.length then
      let later := perform (room.use channel bytes.length) more
      (.wrote channel bytes :: later.1, later.2)
    else ([.wrote channel (room.part channel bytes)], some channel)

def Transcript.deliver (transcript : Transcript) (room : Room) : Delivered :=
  match perform room transcript.actions with
  | (events, none) => ⟨events, transcript.ending⟩
  | (events, some channel) => ⟨events, .error (.full channel)⟩

end Parabola.Session
