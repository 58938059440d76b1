import Parabola.Session.Delivery

/-!
What limits on the channels do to a run: nothing as long as all bytes find room, and otherwise they
cut it off before the first byte that finds none. The bytes of a run stand in one sequence with the
notes, so a cut also tells what is no longer done.
-/

namespace Parabola.Session

/-- The smallest parts of a run: a byte that goes to a channel, or a note. -/
inductive Step where
  | byte (channel : Channel) (byte : UInt8)
  | note (record : Log.Record)

def bytesTo (channel : Channel) (bytes : List UInt8) : List Step := bytes.map (.byte channel)

def Action.steps : Action → List Step
  | .write channel text => bytesTo channel (Text.toBytes text)
  | .note record => [.note record]

def Event.steps : Event → List Step
  | .wrote channel bytes => bytesTo channel bytes
  | .noted record => [.note record]

def Delivered.steps (delivered : Delivered) : List Step := delivered.events.flatMap Event.steps

def sent (steps : List Step) : List (Channel × UInt8) :=
  steps.filterMap fun
    | .byte channel byte => some (channel, byte)
    | .note _ => none

def on (channel : Channel) (steps : List Step) : List UInt8 :=
  ((sent steps).filter fun pair => pair.1 = channel).map Prod.snd

@[simp] theorem sent_append (steps more : List Step) :
    sent (steps ++ more) = sent steps ++ sent more := List.filterMap_append

theorem sent_begins {steps whole : List Step} (starts : steps <+: whole) :
    sent steps <+: sent whole := by
  obtain ⟨more, rfl⟩ := starts
  exact ⟨sent more, (sent_append steps more).symm⟩

@[simp] theorem sent_note (record : Log.Record) (steps : List Step) :
    sent (.note record :: steps) = sent steps := rfl

@[simp] theorem sent_bytesTo (channel : Channel) (bytes : List UInt8) :
    sent (bytesTo channel bytes) = bytes.map (channel, ·) := by
  induction bytes with
  | nil => rfl
  | cons byte bytes ih => exact congrArg ((channel, byte) :: ·) ih

@[simp] theorem on_nil (channel : Channel) : on channel [] = [] := rfl

@[simp] theorem on_append (channel : Channel) (steps more : List Step) :
    on channel (steps ++ more) = on channel steps ++ on channel more := by simp [on]

@[simp] theorem on_bytesTo (channel target : Channel) (bytes : List UInt8) :
    on channel (bytesTo target bytes) = if target = channel then bytes else [] := by
  by_cases same : target = channel <;> simp [on, same, List.filter_map, Function.comp_def]

theorem on_flatMap {α : Type} (channel : Channel) (items : List α) (steps : α → List Step) :
    on channel (items.flatMap steps) = items.flatMap fun item => on channel (steps item) := by
  induction items with
  | nil => rfl
  | cons item items ih => rw [List.flatMap_cons, List.flatMap_cons, on_append, ih]

/-! Room -/

def Fits (room : Room) (steps : List Step) : Prop :=
  ∀ channel limit, room.get channel = some limit → (on channel steps).length ≤ limit

theorem fits_unlimited (steps : List Step) : Fits .unlimited steps := by
  intro channel limit limited
  cases channel <;> cases limited

theorem get_use (room : Room) (channel other : Channel) (bytes : Nat) :
    (room.use channel bytes).get other =
      if channel = other then (room.get other).map (· - bytes) else room.get other := by
  cases channel <;> cases other <;> rfl

theorem takes_iff {room : Room} {channel : Channel} {bytes : Nat} :
    room.takes channel bytes = true ↔ ∀ limit, room.get channel = some limit → bytes ≤ limit := by
  unfold Room.takes
  cases room.get channel <;> simp

-- Bytes fit with those after them if there is room for them and then room for the others.
theorem fits_bytesTo {room : Room} {channel : Channel} {bytes : List UInt8} {later : List Step} :
    Fits room (bytesTo channel bytes ++ later) ↔
      room.takes channel bytes.length = true ∧ Fits (room.use channel bytes.length) later := by
  constructor
  · intro fits
    refine ⟨takes_iff.mpr fun limit limited => ?_, fun other limit limited => ?_⟩
    · have total := fits channel limit limited
      simp only [on_append, on_bytesTo, if_pos, List.length_append] at total
      omega
    · rw [get_use] at limited
      by_cases same : channel = other
      · subst same
        rw [if_pos rfl, Option.map_eq_some_iff] at limited
        obtain ⟨before, found, rfl⟩ := limited
        have total := fits channel before found
        simp only [on_append, on_bytesTo, if_pos, List.length_append] at total
        omega
      · rw [if_neg same] at limited
        simpa [same] using fits other limit limited
  · rintro ⟨takes, fits⟩ other limit limited
    by_cases same : channel = other
    · subst same
      have now := takes_iff.mp takes limit limited
      have others := fits channel (limit - bytes.length) (by simp [get_use, limited])
      simp only [on_append, on_bytesTo, if_pos, List.length_append]
      omega
    · simpa [same] using fits other limit (by simpa [get_use, same] using limited)

/-! Actions carried out -/

def Action.done : Action → Event
  | .write channel text => .wrote channel (Text.toBytes text)
  | .note record => .noted record

theorem steps_done (action : Action) : action.done.steps = action.steps := by
  cases action <;> rfl

theorem perform_fits {room : Room} {actions : List Action}
    (fits : Fits room (actions.flatMap Action.steps)) :
    perform room actions = (actions.map Action.done, none) := by
  induction actions generalizing room with
  | nil => rfl
  | cons action more ih =>
    cases action with
    | note record => simp only [perform, ih fits, List.map_cons, Action.done]
    | write channel text =>
      obtain ⟨takes, later⟩ := fits_bytesTo.mp fits
      simp only [perform, takes, if_true, ih later, List.map_cons, Action.done]

/-- A run broken off: what was done left no room on a channel, and a byte for that channel is the
first thing that was planned and not done. -/
structure BrokenOff (room : Room) (planned made : List Step) (channel : Channel) : Prop where
  next : ∃ byte later, planned = made ++ .byte channel byte :: later
  fits : Fits room made
  filled : room.get channel = some (on channel made).length

theorem broken_off_note {room : Room} {planned made : List Step} {channel : Channel}
    (record : Log.Record) (broken : BrokenOff room planned made channel) :
    BrokenOff room (.note record :: planned) (.note record :: made) channel where
  next := by
    obtain ⟨byte, later, split⟩ := broken.next
    exact ⟨byte, later, by rw [split, List.cons_append]⟩
  fits := broken.fits
  filled := broken.filled

theorem broken_off_later {room : Room} {planned made : List Step} {channel target : Channel}
    {bytes : List UInt8} (takes : room.takes target bytes.length = true)
    (broken : BrokenOff (room.use target bytes.length) planned made channel) :
    BrokenOff room (bytesTo target bytes ++ planned) (bytesTo target bytes ++ made) channel where
  next := by
    obtain ⟨byte, later, split⟩ := broken.next
    exact ⟨byte, later, by rw [split, List.append_assoc]⟩
  fits := fits_bytesTo.mpr ⟨takes, broken.fits⟩
  filled := by
    have filled := broken.filled
    rw [get_use] at filled
    by_cases same : target = channel
    · subst same
      rw [if_pos rfl, Option.map_eq_some_iff] at filled
      obtain ⟨limit, found, left⟩ := filled
      have enough := takes_iff.mp takes limit found
      rw [found, on_append, on_bytesTo, if_pos rfl, List.length_append]
      exact congrArg some (by omega)
    · rw [if_neg same] at filled
      simpa [same] using filled

theorem broken_off_now {room : Room} {channel : Channel} {bytes : List UInt8} {limit : Nat}
    (more : List Step) (found : room.get channel = some limit) (short : limit < bytes.length) :
    BrokenOff room (bytesTo channel bytes ++ more) (bytesTo channel (bytes.take limit)) channel where
  next := by
    have cut : bytes = bytes.take limit ++ bytes[limit] :: bytes.drop (limit + 1) := by
      rw [← List.drop_eq_getElem_cons short, List.take_append_drop]
    refine ⟨bytes[limit], bytesTo channel (bytes.drop (limit + 1)) ++ more, ?_⟩
    calc bytesTo channel bytes ++ more
      _ = bytesTo channel (bytes.take limit ++ bytes[limit] :: bytes.drop (limit + 1)) ++ more :=
        congrArg (bytesTo channel · ++ more) cut
      _ = _ := by simp only [bytesTo, List.map_append, List.map_cons, List.append_assoc,
        List.cons_append]
  fits other bound limited := by
    by_cases same : channel = other
    · subst same
      rw [found, Option.some.injEq] at limited
      simp only [on_bytesTo, if_pos, List.length_take]
      omega
    · simp [same]
  filled := by
    rw [found, on_bytesTo, if_pos rfl, List.length_take, Nat.min_eq_left (Nat.le_of_lt short)]

theorem perform_full {room : Room} {actions : List Action}
    (full : ¬ Fits room (actions.flatMap Action.steps)) :
    ∃ events channel, perform room actions = (events, some channel) ∧
      BrokenOff room (actions.flatMap Action.steps) (events.flatMap Event.steps) channel := by
  induction actions generalizing room with
  | nil =>
    refine absurd (fun channel limit _ => ?_) full
    simp
  | cons action more ih =>
    cases action with
    | note record =>
      obtain ⟨events, channel, performed, broken⟩ := ih full
      exact ⟨.noted record :: events, channel, by simp only [perform, performed],
        broken_off_note record broken⟩
    | write channel text =>
      by_cases takes : room.takes channel (Text.toBytes text).length = true
      · have later : ¬ Fits (room.use channel (Text.toBytes text).length)
            (more.flatMap Action.steps) := fun fits => full (fits_bytesTo.mpr ⟨takes, fits⟩)
        obtain ⟨events, last, performed, broken⟩ := ih later
        exact ⟨.wrote channel (Text.toBytes text) :: events, last,
          by simp only [perform, takes, if_true, performed], broken_off_later takes broken⟩
      · obtain ⟨limit, found, short⟩ : ∃ limit, room.get channel = some limit ∧
            limit < (Text.toBytes text).length := by
          simpa [takes_iff] using takes
        refine ⟨[.wrote channel ((Text.toBytes text).take limit)], channel, ?_, ?_⟩
        · simp [perform, takes, Room.part, found]
        · simpa [Event.steps, Action.steps] using
            broken_off_now (more.flatMap Action.steps) found short

/-! Runs delivered -/

/-- What limits make of a free run. -/
structure Curtails (room : Room) (free held : Delivered) : Prop where
  whole : Fits room free.steps → held = free
  broken : ¬ Fits room free.steps → ∃ channel, held.ending = .error (.full channel) ∧
    BrokenOff room free.steps held.steps channel

theorem deliver_fits {transcript : Transcript} {room : Room}
    (fits : Fits room (transcript.actions.flatMap Action.steps)) :
    transcript.deliver room = ⟨transcript.actions.map Action.done, transcript.ending⟩ := by
  simp only [Transcript.deliver, perform_fits fits]

theorem steps_unlimited (transcript : Transcript) :
    (transcript.deliver .unlimited).steps = transcript.actions.flatMap Action.steps := by
  rw [deliver_fits (fits_unlimited _)]
  simp [Delivered.steps, List.flatMap_map, steps_done]

theorem ending_unlimited (transcript : Transcript) :
    (transcript.deliver .unlimited).ending = transcript.ending := by
  rw [deliver_fits (fits_unlimited _)]

def sentBy (actions : List Action) : List (Channel × UInt8) := sent (actions.flatMap Action.steps)

theorem sent_unlimited (transcript : Transcript) :
    sent (transcript.deliver .unlimited).steps = sentBy transcript.actions :=
  congrArg sent (steps_unlimited transcript)

@[simp] theorem sentBy_nil : sentBy [] = [] := rfl

@[simp] theorem sentBy_append (front back : List Action) :
    sentBy (front ++ back) = sentBy front ++ sentBy back := by simp [sentBy]

@[simp] theorem sentBy_note (record : Log.Record) (more : List Action) :
    sentBy (.note record :: more) = sentBy more := by simp [sentBy, Action.steps]

@[simp] theorem sentBy_write (channel : Channel) (text : String) (more : List Action) :
    sentBy (.write channel text :: more) =
      (Text.toBytes text).map (channel, ·) ++ sentBy more := by simp [sentBy, Action.steps]

theorem sentBy_flatMap {α : Type} (items : List α) (actions : α → List Action) :
    sentBy (items.flatMap actions) = items.flatMap fun item => sentBy (actions item) := by
  induction items with
  | nil => rfl
  | cons item items ih => rw [List.flatMap_cons, List.flatMap_cons, sentBy_append, ih]

theorem deliver_curtails (transcript : Transcript) (room : Room) :
    Curtails room (transcript.deliver .unlimited) (transcript.deliver room) where
  whole fits := by
    rw [steps_unlimited] at fits
    rw [deliver_fits fits, deliver_fits (fits_unlimited _)]
  broken full := by
    rw [steps_unlimited] at full ⊢
    obtain ⟨events, channel, performed, broken⟩ := perform_full full
    have delivered : transcript.deliver room = ⟨events, .error (.full channel)⟩ := by
      simp only [Transcript.deliver, performed]
    exact ⟨channel, by rw [delivered], by simpa [delivered, Delivered.steps] using broken⟩

theorem on_unlimited {transcript : Transcript} {actions : List Action} (channel : Channel)
    (same : sentBy transcript.actions = sentBy actions) :
    on channel (transcript.deliver .unlimited).steps =
      actions.flatMap fun action => on channel action.steps := by
  have bytes : sent (transcript.deliver .unlimited).steps = sent (actions.flatMap Action.steps) :=
    (sent_unlimited transcript).trans same
  rw [on, bytes, ← on, on_flatMap]

/-- What a failing run does: the first things that the free run does, within the limits. -/
structure Truncates (room : Room) (free held : Delivered) : Prop where
  steps : held.steps <+: free.steps
  bytes : sent held.steps <+: sent free.steps
  fits : Fits room held.steps

theorem curtails_truncates {room : Room} {free held : Delivered}
    (curtails : Curtails room free held) : Truncates room free held := by
  by_cases fits : Fits room free.steps
  · rw [curtails.whole fits]
    exact ⟨List.prefix_refl _, List.prefix_refl _, fits⟩
  · obtain ⟨channel, -, broken⟩ := curtails.broken fits
    obtain ⟨byte, later, split⟩ := broken.next
    have starts : held.steps <+: free.steps := ⟨_, split.symm⟩
    exact ⟨starts, sent_begins starts, broken.fits⟩

theorem truncates_longer {room : Room} {reached free held : Delivered}
    (truncates : Truncates room reached held) (starts : reached.steps <+: free.steps) :
    Truncates room free held where
  steps := truncates.steps.trans starts
  bytes := truncates.bytes.trans (sent_begins starts)
  fits := truncates.fits

end Parabola.Session
