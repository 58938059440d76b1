import Parabola.Session.Delivery

/-!
The programs act out their transcripts. A program learns that a write has failed when it fails, and
writes nothing else then; so on channels of any size it does what is left of its transcript once this
is cut at the first byte without room.
-/

namespace Parabola.Session

open Output Input

/-- The program that takes a transcript action by action and then ends like it. -/
def play (transcript : Transcript) : Limited Summary := do
  transcript.actions.forM act
  match transcript.ending with
  | .ok summary => return summary
  | .error failure => throw failure

theorem play_cons (action : Action) (more : List Action) (ending : Except Failure Summary) :
    play ⟨action :: more, ending⟩ = (do act action; play ⟨more, ending⟩) := by
  simp [play]

theorem play_after (actions : List Action) (transcript : Transcript) :
    play (transcript.after actions) = (do actions.forM act; play transcript) := by
  simp [play, Transcript.after, List.forM_append]

theorem play_andThen (transcript : Transcript) (next : Summary → Transcript) :
    play (transcript.andThen next) = play transcript >>= fun counted => play (next counted) := by
  unfold Transcript.andThen
  cases ended : transcript.ending with
  | ok counted =>
    rw [play_after]
    simp [play, ended]
  | error failure => simp [play, ended]

/-! Limited room -/

section Runs

variable {α β : Type} {work : Limited α} {next : α → Limited β} {bench later : Bench}

theorem run_bind_ok {value : α} (ran : work.run.run bench = (.ok value, later)) :
    (work >>= next).run.run bench = (next value).run.run later := by
  rw [ExceptT.run_bind, StateT.run_bind, ran]
  rfl

theorem run_bind_error {failure : Failure} (ran : work.run.run bench = (.error failure, later)) :
    (work >>= next).run.run bench = (.error failure, later) := by
  rw [ExceptT.run_bind, StateT.run_bind, ran]
  rfl

end Runs

theorem run_note (record : Log.Record) (room : Room) (events : List Event) :
    (act (.note record) : Limited Unit).run.run ⟨room, events⟩ =
      (.ok (), ⟨room, events ++ [.noted record]⟩) := rfl

theorem deliver_note (record : Log.Record) (more : List Action) (ending : Except Failure Summary)
    (room : Room) :
    (Transcript.mk (.note record :: more) ending).deliver room =
      let later := (Transcript.mk more ending).deliver room
      ⟨.noted record :: later.events, later.ending⟩ := by
  simp only [Transcript.deliver, perform]
  cases perform room more with
  | mk made full => cases full <;> rfl

section Writes

variable {room : Room} {channel : Channel} {text : String}

theorem run_write_whole (takes : room.takes channel (Text.toBytes text).length = true)
    (events : List Event) :
    (act (.write channel text) : Limited Unit).run.run ⟨room, events⟩ =
      (.ok (), ⟨room.use channel (Text.toBytes text).length,
        events ++ [.wrote channel (Text.toBytes text)]⟩) :=
  if_pos takes

theorem run_write_part (short : room.takes channel (Text.toBytes text).length = false)
    (events : List Event) :
    (act (.write channel text) : Limited Unit).run.run ⟨room, events⟩ =
      (.error (.full channel), ⟨room.use channel (Text.toBytes text).length,
        events ++ [.wrote channel (room.part channel (Text.toBytes text))]⟩) :=
  if_neg (by simp [short])

variable (more : List Action) (ending : Except Failure Summary)

theorem deliver_write_whole (takes : room.takes channel (Text.toBytes text).length = true) :
    (Transcript.mk (.write channel text :: more) ending).deliver room =
      let later := (Transcript.mk more ending).deliver (room.use channel (Text.toBytes text).length)
      ⟨.wrote channel (Text.toBytes text) :: later.events, later.ending⟩ := by
  simp only [Transcript.deliver, perform, takes, if_true]
  cases perform (room.use channel (Text.toBytes text).length) more with
  | mk made full => cases full <;> rfl

theorem deliver_write_part (short : room.takes channel (Text.toBytes text).length = false) :
    (Transcript.mk (.write channel text :: more) ending).deliver room =
      ⟨[.wrote channel (room.part channel (Text.toBytes text))], .error (.full channel)⟩ := by
  simp [Transcript.deliver, perform, short]

end Writes

theorem run_play (transcript : Transcript) (room : Room) (events : List Event) :
    ∃ left, (play transcript).run.run ⟨room, events⟩ =
      ((transcript.deliver room).ending, ⟨left, events ++ (transcript.deliver room).events⟩) := by
  obtain ⟨actions, ending⟩ := transcript
  induction actions generalizing room events with
  | nil =>
    refine ⟨room, ?_⟩
    cases ending <;> simp [play, Transcript.deliver, perform] <;> rfl
  | cons action more ih =>
    rw [play_cons]
    cases action with
    | note record =>
      obtain ⟨left, ran⟩ := ih room (events ++ [.noted record])
      refine ⟨left, ?_⟩
      rw [run_bind_ok (run_note record room events), ran, deliver_note]
      simp
    | write channel text =>
      cases takes : room.takes channel (Text.toBytes text).length with
      | true =>
        obtain ⟨left, ran⟩ := ih (room.use channel (Text.toBytes text).length)
          (events ++ [.wrote channel (Text.toBytes text)])
        refine ⟨left, ?_⟩
        rw [run_bind_ok (run_write_whole takes events), ran, deliver_write_whole more ending takes]
        simp
      | false =>
        refine ⟨room.use channel (Text.toBytes text).length, ?_⟩
        rw [run_bind_error (run_write_part takes events), deliver_write_part more ending takes]

theorem confined_play (transcript : Transcript) (room : Room) :
    confined (play transcript) room = transcript.deliver room := by
  obtain ⟨left, ran⟩ := run_play transcript room []
  simp [confined, Id.run, ran]

/-! Batches -/

theorem process_eq (equation : String) (summary : Summary) :
    process equation summary = play (answer equation summary) := by
  unfold process answer
  cases read : (Equation.read equation).outcome with
  | error error => simp [play, read, List.forM_append, writeLn, writeLine, act]
  | ok trinomial =>
    cases solved : trinomial.solve with
    | error error => simp [play, read, solved, act]
    | ok roots => simp [play, read, solved, List.forM_append, writeLn, writeLine, act]

theorem processHeaded_eq (equation : String) (summary : Summary) :
    processHeaded summary equation = play (headed equation summary) := by
  rw [processHeaded, process_eq, headed, play_after]
  simp [writeLn, writeLine, act, flush]

theorem processAll_from (equations : List String) (summary : Summary) :
    equations.foldlM processHeaded summary = play (batchFrom summary equations) := by
  induction equations generalizing summary with
  | nil => simp [batchFrom, Transcript.done, play]
  | cons equation more ih =>
    simp only [List.foldlM_cons, batchFrom, play_andThen, processHeaded_eq, ih]

theorem runBatch_eq (equations : List String) (room : Room) :
    runBatch equations room = (batch equations).deliver room := by
  rw [runBatch, processAll, processAll_from, batch, confined_play]

/-! Conversations -/

section Lines

variable (lines : Lines)

@[simp] theorem fed_write (channel : Channel) (text : String) :
    (write channel text : Fed Unit).run lines =
      (do write channel text; pure ((), lines) : Limited (Unit × Lines)) := rfl

@[simp] theorem fed_flush (channel : Channel) :
    (flush channel : Fed Unit).run lines = pure ((), lines) := rfl

@[simp] theorem fed_note (record : Log.Record) :
    (note record : Fed Unit).run lines =
      (do note record; pure ((), lines) : Limited (Unit × Lines)) := rfl

theorem fed_act (action : Action) :
    (act action : Fed Unit).run lines =
      (do act action; pure ((), lines) : Limited (Unit × Lines)) := by
  cases action <;> rfl

@[simp] theorem fed_throw {α : Type} (failure : Failure) :
    (throw failure : Fed α).run lines = throw failure := rfl

theorem fed_notes (records : List Log.Record) :
    (forM records note : Fed Unit).run lines =
      (do records.forM note; pure ((), lines) : Limited (Unit × Lines)) := by
  induction records with
  | nil => simp
  | cons record records ih => simp [ih]

theorem fed_process (equation : String) (summary : Summary) :
    (process equation summary : Fed Summary).run lines =
      (do let counted ← process equation summary; pure (counted, lines) :
        Limited (Summary × Lines)) := by
  unfold process
  cases read : (Equation.read equation).outcome with
  | error error => simp [read, fed_notes, writeLn]
  | ok trinomial =>
    cases solved : trinomial.solve with
    | error error => simp [read, solved, fed_notes]
    | ok roots => simp [read, solved, fed_notes, writeLn]

theorem fed_processHeaded (summary : Summary) (equation : String) :
    (processHeaded summary equation : Fed Summary).run lines =
      (do let counted ← processHeaded summary equation; pure (counted, lines) :
        Limited (Summary × Lines)) := by
  simp [processHeaded, writeLn, fed_process, flush]

theorem fed_batch (equations : List String) :
    (processAll equations : Fed Summary).run lines =
      (do let counted ← play (batch equations); pure (counted, lines) :
        Limited (Summary × Lines)) := by
  rw [batch, ← processAll_from, processAll]
  generalize Summary.zero = summary
  induction equations generalizing summary with
  | nil => simp
  | cons equation more ih => simp [fed_processHeaded, ih]

theorem fed_prompt (settings : Settings) :
    (writePrompt settings : Fed Unit).run lines =
      (do settings.invite.forM act; pure ((), lines) : Limited (Unit × Lines)) := by
  unfold writePrompt Settings.invite
  cases settings.prompt <;> simp [act]

def Next.result (lines : Lines) : Next → Limited ((Summary ⊕ Summary) × Lines)
  | .more counted => return (.inl counted, lines)
  | .stop (.ok counted) => return (.inr counted, lines)
  | .stop (.error failure) => throw failure

theorem fed_respond (settings : Settings) (bytes : List UInt8) (summary : Summary) :
    (respond settings bytes summary : Fed (Summary ⊕ Summary)).run lines =
      (do
        (react settings bytes summary).actions.forM act
        (react settings bytes summary).next.result lines) := by
  unfold respond react
  cases Text.ofBytes? bytes with
  | none => simp [Next.result]
  | some line =>
    dsimp only
    split
    · simp [Next.result]
    · split
      · simp [Next.result]
      · cases ended : (answer (Text.trim line) summary).ending <;>
          simp [Next.result, fed_process, process_eq, play, ended]

end Lines

@[simp] theorem readLine_finished :
    (readLine : Fed (Option (List UInt8))).run .finished = pure (none, .finished) := by
  simp [readLine]

@[simp] theorem readLine_failed (error : ReadError) :
    (readLine : Fed (Option (List UInt8))).run (.failed error) = throw (.read error) := by
  simp [readLine]

@[simp] theorem readLine_line (bytes : List UInt8) (rest : Lines) :
    (readLine : Fed (Option (List UInt8))).run (.line bytes rest) = pure (some bytes, rest) := by
  simp [readLine]

-- Each turn takes a line off the front, so the induction is on the lines that are left.
theorem interact_from (settings : Settings) (summary : Summary) (lines : Lines) :
    (repeatM (turn settings) summary : Fed Summary).run' lines =
      play (converseFrom settings summary lines) := by
  induction lines generalizing summary with
  | finished =>
    rw [repeatM_eq_of_monadTail]
    simp [repeatM.body, turn, fed_prompt, converseFrom, play, act]
  | failed error =>
    rw [repeatM_eq_of_monadTail]
    simp [repeatM.body, turn, fed_prompt, converseFrom, play]
  | line bytes rest ih =>
    rw [repeatM_eq_of_monadTail, converseFrom]
    cases next : (react settings bytes summary).next with
    | stop ending =>
      cases ending <;> simp [repeatM.body, turn, fed_prompt, fed_respond, Next.result, next, play]
    | more counted =>
      simp [repeatM.body, turn, fed_prompt, fed_respond, Next.result, next, play_after, ← ih]

theorem runConversation_eq (settings : Settings) (feed : Feed) (room : Room) :
    runConversation settings feed room = (converse settings feed).deliver room := by
  rw [runConversation, interact, interact_from, converse, confined_play]

end Parabola.Session
