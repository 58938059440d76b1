import Parabola.Proofs.Session.Conversation

/-!
Failing reads and full channels. A run that meets one of them does the first things that it would
do without them and then ends with that failure.
-/

namespace Parabola

/-- A feed gives all bytes of another one, or begins like it and then fails. -/
inductive Feed.CutOf (cut whole : Feed) : Prop where
  | complete (ends : cut.failure = none) (same : cut.bytes = whole.bytes)
  | broken {error : ReadError} (fails : cut.failure = some error)
      (starts : cut.bytes <+: whole.bytes)

theorem Feed.failAfter_cut {whole : Feed} (regular : whole.failure = none) (limit : Nat)
    (error : ReadError) : (whole.failAfter limit error).CutOf whole := by
  unfold failAfter
  split
  · refine .broken rfl ?_
    simpa [bytes] using List.take_prefix limit whole.bytes
  · exact .complete regular rfl

namespace Session

variable {settings : Settings} {whole cut : Feed} {error : ReadError}

/-- A conversation passes all complete lines of a feed and then meets its failure. -/
structure Meets (settings : Settings) (cut : Feed) (error : ReadError) : Prop where
  fails : cut.failure = some error
  passing : ∀ line ∈ Lines.complete cut.bytes, settings.passes line = true

theorem converse_meets (meets : Meets settings cut error) :
    converse settings cut =
      ⟨exchange settings (Lines.complete cut.bytes) ++ settings.invite, .error (.read error)⟩ := by
  rw [converse, cut.lines_failing meets.fails, converse_passing meets.passing]
  rfl

-- A run that does not meet the failure is over inside the lines that both feeds begin with.
theorem converse_escapes (regular : whole.failure = none) (cuts : cut.CutOf whole)
    (escapes : ¬ ∃ error, Meets settings cut error) :
    converse settings cut = converse settings whole := by
  cases cuts with
  | complete ends same => rw [converse, converse, cut.lines_regular ends, same,
      whole.lines_regular regular]
  | broken fails starts =>
    have stops : ∃ line ∈ Lines.complete cut.bytes, settings.passes line = false := by
      by_contra noStop
      refine escapes ⟨_, fails, fun line member => ?_⟩
      by_contra stops
      exact noStop ⟨line, member, by simpa using stops⟩
    exact converse_agrees stops (List.prefix_refl cut.bytes) starts

theorem invite_begins (settings : Settings) (summary : Summary) (lines : Lines) :
    settings.invite <+: (converseFrom settings summary lines).actions := by
  cases lines with
  | finished => exact List.prefix_append _ _
  | failed error => exact List.prefix_refl _
  | line bytes rest =>
    unfold converseFrom
    dsimp only
    split
    · exact List.prefix_append _ _
    · simp [Transcript.after, List.append_assoc]

theorem converse_begins (regular : whole.failure = none) (cuts : cut.CutOf whole) :
    (converse settings cut).actions <+: (converse settings whole).actions := by
  by_cases met : ∃ error, Meets settings cut error
  · obtain ⟨error, meets⟩ := met
    cases cuts with
    | complete ends same => cases ends.symm.trans meets.fails
    | broken fails starts =>
      obtain ⟨rest, first⟩ := whole.lines_begin starts
      rw [converse_meets meets, converse, first, converse_passing meets.passing]
      exact List.prefix_append_right_inj _ |>.mpr (invite_begins _ _ _)
  · simp [converse_escapes regular cuts met]

theorem deliver_begins {reached free : Transcript} (starts : reached.actions <+: free.actions) :
    (reached.deliver .unlimited).steps <+: (free.deliver .unlimited).steps := by
  rw [steps_unlimited, steps_unlimited]
  obtain ⟨more, whole⟩ := starts
  exact ⟨more.flatMap Action.steps, by rw [← whole, List.flatMap_append]⟩

theorem failures_truncate (settings : Settings) (whole cut : Feed) (equations : List String)
    (room : Room) (regular : whole.failure = none) (cuts : cut.CutOf whole) :
    let free := runConversation settings whole .unlimited
    let reached := runConversation settings cut .unlimited
    let held := runConversation settings cut room
    let freeBatch := runBatch equations .unlimited
    let heldBatch := runBatch equations room
    let prompt := settings.prompt.toList.map (Action.write .out)
    Truncates room free held ∧ Curtails room reached held ∧
      (∀ error, Meets settings cut error →
        reached.ending = .error (.read error) ∧
          sent reached.steps =
            sentBy (((Lines.complete cut.bytes).flatMap fun line =>
              prompt ++ (asked [line]).map block) ++ prompt)) ∧
      ((¬ ∃ error, Meets settings cut error) → reached = free) ∧
      (∀ other : Feed, cut.failure ≠ none → other.failure = cut.failure →
        Lines.complete other.bytes = Lines.complete cut.bytes →
          runConversation settings other room = held) ∧
      Truncates room freeBatch heldBatch ∧ Curtails room freeBatch heldBatch := by
  simp only [runConversation_eq, runBatch_eq]
  have curtailed := deliver_curtails (converse settings cut) room
  have curtailedBatch := deliver_curtails (batch equations) room
  refine ⟨?_, curtailed, ?_, ?_, ?_, curtails_truncates curtailedBatch, curtailedBatch⟩
  · exact truncates_longer (curtails_truncates curtailed)
      (deliver_begins (converse_begins regular cuts))
  · intro error meets
    constructor
    · rw [ending_unlimited, converse_meets meets]
    · rw [sent_unlimited, converse_meets meets]
      simp [sentBy_exchange, invite_eq]
  · intro escapes
    rw [converse_escapes regular cuts escapes]
  · intro other fails same lines
    obtain ⟨error, broken⟩ := Option.ne_none_iff_exists'.mp fails
    rw [converse, converse, other.lines_failing (same.trans broken), cut.lines_failing broken,
      lines]

/-- The read fails inside the second line, the channel is full inside the first answer. -/
theorem failures_truncate_both :
    let settings : Settings := ⟨none, "0"⟩
    let whole := Feed.ofBytes (Text.toBytes "x^2-1\nx^2+1\n")
    let failure := ReadError.other "read failed"
    let cut := whole.failAfter 8 failure
    let room : Room := ⟨some 4, none⟩
    let free := runConversation settings whole .unlimited
    let reached := runConversation settings cut .unlimited
    let held := runConversation settings cut room
    whole.failure = none ∧ cut.CutOf whole ∧ Truncates room free held ∧
      reached.ending = .error (.read failure) ∧ sent reached.steps = sentBy [block "x^2-1"] ∧
      held.ending = .error (.full .out) := by
  intro settings whole failure cut room free reached held
  have regular : whole.failure = none := rfl
  have cuts : cut.CutOf whole := Feed.failAfter_cut regular 8 failure
  have meets : Meets settings cut failure := ⟨by decide +kernel, by decide +kernel⟩
  obtain ⟨truncates, curtails, met, -⟩ := failures_truncate settings whole cut [] room regular cuts
  obtain ⟨ending, answered⟩ := met failure meets
  have shown : sent reached.steps = sentBy [block "x^2-1"] :=
    answered.trans (congrArg sentBy (by decide +kernel))
  have full : ¬ Fits room reached.steps := by
    intro fits
    have few := fits .out 4 rfl
    rw [on, shown] at few
    revert few
    decide +kernel
  obtain ⟨channel, ended, broken⟩ := curtails.broken full
  have onOut : channel = .out := by
    cases channel with
    | out => rfl
    | err => cases broken.filled
  exact ⟨regular, cuts, truncates, ending, shown, onOut ▸ ended⟩

end Session

end Parabola
