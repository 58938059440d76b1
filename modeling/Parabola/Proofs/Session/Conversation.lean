import Mathlib.Data.List.TakeWhile
import Parabola.Proofs.Lines
import Parabola.Proofs.Session.Answer
import Parabola.Proofs.Session.Enactment
import Parabola.Session.Transcript

/-!
A conversation line by line. Lines that it passes add their answers and their counts to it; the
first line that it does not pass ends it, and nothing behind that line has a part in it.
-/

namespace Parabola.Session

def Settings.isToken (settings : Settings) (line : List UInt8) : Bool :=
  decide ((Text.ofBytes? line).map Text.trim = some settings.exitToken)

def Settings.passes (settings : Settings) (line : List UInt8) : Bool :=
  Lines.isText line && !settings.isToken line

/-- The equations on some lines, without the blank lines. -/
def asked (lines : List (List UInt8)) : List String := Lines.texts Text.trim lines

def exchange (settings : Settings) (lines : List (List UInt8)) : List Action :=
  lines.flatMap fun line => settings.invite ++ (asked [line]).flatMap reply

variable {settings : Settings}

theorem asked_cons (line : List UInt8) (lines : List (List UInt8)) :
    asked (line :: lines) = asked [line] ++ asked lines := Lines.texts_cons line lines

theorem exchange_cons (line : List UInt8) (lines : List (List UInt8)) :
    exchange settings (line :: lines) =
      exchange settings [line] ++ exchange settings lines := by
  simp [exchange]

/-! One line -/

theorem react_passes {line : List UInt8} (passes : settings.passes line = true)
    (summary : Summary) :
    react settings line summary =
      ⟨(asked [line]).flatMap reply, .more (summary + tally (asked [line]))⟩ := by
  obtain ⟨text, other⟩ : Lines.isText line = true ∧ settings.isToken line = false := by
    simpa [Settings.passes] using passes
  obtain ⟨text, spelled⟩ := Option.isSome_iff_exists.mp text
  have other : Text.trim text ≠ settings.exitToken := by
    simpa [Settings.isToken, spelled] using other
  unfold react
  rw [asked, Lines.texts_line spelled, spelled]
  by_cases blank : Text.trim text = ""
  · rw [blank] at other
    simp [blank, other]
  · simp [other, blank, answer_eq]

theorem spelled_of_token {line : List UInt8} (token : settings.isToken line = true) :
    ∃ text, Text.ofBytes? line = some text ∧ Text.trim text = settings.exitToken := by
  simpa [Settings.isToken] using token

theorem react_token {line : List UInt8} (token : settings.isToken line = true)
    (summary : Summary) : react settings line summary = ⟨[], .stop (.ok summary)⟩ := by
  obtain ⟨text, spelled, same⟩ := spelled_of_token token
  simp [react, spelled, same]

theorem react_not_text {line : List UInt8} (bad : Lines.isText line = false) (summary : Summary) :
    react settings line summary = ⟨[], .stop (.error (.read .notUtf8))⟩ := by
  have unspelled : Text.ofBytes? line = none := by simpa [Lines.isText] using bad
  simp [react, unspelled]

theorem react_stops {line : List UInt8} (stops : settings.passes line = false)
    (summary : Summary) : ∃ ending, react settings line summary = ⟨[], .stop ending⟩ := by
  cases text : Lines.isText line with
  | false => exact ⟨_, react_not_text text summary⟩
  | true => exact ⟨_, react_token (by simpa [Settings.passes, text] using stops) summary⟩

/-! Many lines -/

theorem converse_cons {line : List UInt8} (passes : settings.passes line = true)
    (summary : Summary) (rest : Lines) :
    converseFrom settings summary (.line line rest) =
      (converseFrom settings (summary + tally (asked [line])) rest).after
        (exchange settings [line]) := by
  simp [converseFrom, react_passes passes, exchange]

theorem converse_passing {lines : List (List UInt8)}
    (passing : ∀ line ∈ lines, settings.passes line = true) (summary : Summary) (last : Lines) :
    converseFrom settings summary (Lines.ofList lines last) =
      (converseFrom settings (summary + tally (asked lines)) last).after
        (exchange settings lines) := by
  induction lines generalizing summary with
  | nil => rfl
  | cons line lines ih =>
    have others := fun other member => passing other (List.mem_cons_of_mem line member)
    rw [Lines.ofList_cons, converse_cons (passing line List.mem_cons_self), ih others,
      asked_cons line lines, add_tally_append, exchange_cons line lines]
    simp [Transcript.after]

theorem converse_stopped {lines : List (List UInt8)}
    (stops : ∃ line ∈ lines, settings.passes line = false) (summary : Summary)
    (last other : Lines) :
    converseFrom settings summary (Lines.ofList lines last) =
      converseFrom settings summary (Lines.ofList lines other) := by
  induction lines generalizing summary with
  | nil => simp at stops
  | cons line lines ih =>
    cases passes : settings.passes line with
    | true =>
      have later : ∃ line ∈ lines, settings.passes line = false := by simpa [passes] using stops
      rw [Lines.ofList_cons, Lines.ofList_cons, converse_cons passes, converse_cons passes,
        ih later]
    | false =>
      obtain ⟨ending, ended⟩ := react_stops passes summary
      simp [converseFrom, ended]

theorem converse_agrees {start : List UInt8} {one other : Feed}
    (stops : ∃ line ∈ Lines.complete start, settings.passes line = false)
    (begins : start <+: one.bytes) (otherBegins : start <+: other.bytes) :
    converse settings one = converse settings other := by
  obtain ⟨rest, first⟩ := one.lines_begin begins
  obtain ⟨otherRest, second⟩ := other.lines_begin otherBegins
  rw [converse, converse, first, second, converse_stopped stops]

/-- The lines before the exit token, or all if there is none. -/
def Settings.consumed (settings : Settings) (lines : List (List UInt8)) : List (List UInt8) :=
  lines.takeWhile fun line => !settings.isToken line

theorem converse_finished (settings : Settings) (lines : List (List UInt8)) (summary : Summary) :
    ∃ notes : List Log.Record,
      converseFrom settings summary (Lines.ofList lines .finished) =
        ⟨exchange settings ((settings.consumed lines).takeWhile Lines.isText) ++ settings.invite ++
            notes.map .note,
          if (settings.consumed lines).all Lines.isText then
            .ok (summary + tally (asked (settings.consumed lines)))
          else .error (.read .notUtf8)⟩ := by
  -- A first line is the token, or no text, or passed; only then the others have a part.
  induction lines generalizing summary with
  | nil => exact ⟨[.inputEnded], rfl⟩
  | cons line lines ih =>
    cases token : settings.isToken line with
    | true =>
      refine ⟨[], ?_⟩
      simp [Settings.consumed, token, converseFrom, react_token token, exchange, asked]
    | false =>
      have consumed : settings.consumed (line :: lines) = line :: settings.consumed lines := by
        simp [Settings.consumed, token]
      cases text : Lines.isText line with
      | false =>
        refine ⟨[], ?_⟩
        simp [consumed, text, converseFrom, react_not_text text, exchange]
      | true =>
        have passes : settings.passes line = true := by simp [Settings.passes, text, token]
        obtain ⟨notes, others⟩ := ih (summary + tally (asked [line]))
        refine ⟨notes, ?_⟩
        rw [Lines.ofList_cons, converse_cons passes, others, consumed,
          asked_cons line (settings.consumed lines), add_tally_append]
        simp [text, Transcript.after, exchange]

-- Without a token before it, a line that is no text ends the conversation.
theorem converse_not_text {lines : List (List UInt8)}
    (untold : ∀ line ∈ lines, settings.isToken line = false)
    (bad : ∃ line ∈ lines, Lines.isText line = false) (summary : Summary) (last : Lines) :
    (converseFrom settings summary (Lines.ofList lines last)).ending = .error (.read .notUtf8) := by
  obtain ⟨line, member, unspelled⟩ := bad
  have stops : ∃ line ∈ lines, settings.passes line = false :=
    ⟨line, member, by simp [Settings.passes, unspelled]⟩
  have consumed : settings.consumed lines = lines :=
    List.takeWhile_eq_self_iff.mpr (by simpa using untold)
  have mixed : lines.all Lines.isText = false :=
    List.all_eq_false.mpr ⟨line, member, by simp [unspelled]⟩
  obtain ⟨notes, course⟩ := converse_finished settings lines summary
  rw [converse_stopped stops summary last .finished, course, consumed]
  simp [mixed]

/-! The whole conversation -/

theorem invite_eq (settings : Settings) :
    settings.invite = settings.prompt.toList.map (.write .out) := by
  unfold Settings.invite
  cases settings.prompt <;> rfl

theorem sentBy_exchange (lines : List (List UInt8)) :
    sentBy (exchange settings lines) =
      sentBy (lines.flatMap fun line => settings.invite ++ (asked [line]).map block) := by
  rw [exchange, sentBy_flatMap, sentBy_flatMap]
  simp only [sentBy_append, sentBy_replies]

theorem sentBy_quiet (quiet : settings.prompt = none) (lines : List (List UInt8)) :
    sentBy (exchange settings lines) = sentBy ((asked lines).map block) := by
  induction lines with
  | nil => rfl
  | cons line lines ih =>
    rw [exchange_cons line lines, asked_cons line lines, sentBy_append, ih, List.map_append,
      sentBy_append, sentBy_exchange]
    simp [invite_eq, quiet]

theorem asked_token {lines : List (List UInt8)} {line : List UInt8} (member : line ∈ lines)
    (token : settings.isToken line = true) (filled : settings.exitToken ≠ "") :
    settings.exitToken ∈ asked lines := by
  obtain ⟨text, spelled, same⟩ := spelled_of_token token
  obtain ⟨front, back, rfl⟩ := List.append_of_mem member
  have here : asked [line] = [settings.exitToken] := by
    rw [asked, Lines.texts_line spelled, same, if_neg filled]
  rw [← List.singleton_append, asked, Lines.texts_append, Lines.texts_append, ← asked, ← asked,
    ← asked, here]
  simp

theorem conversation_course (settings : Settings) (feed : Feed) (regular : feed.failure = none) :
    let run := runConversation settings feed .unlimited
    let prompt := settings.prompt.toList.map (Action.write .out)
    let consumed := settings.consumed (Lines.all feed.bytes)
    sent run.steps =
        sentBy (((consumed.takeWhile Lines.isText).flatMap fun line => prompt ++ (asked [line]).map block)
          ++ prompt) ∧
      run.ending =
        (if consumed.all Lines.isText then .ok (tally (asked consumed)) else .error (.read .notUtf8)) ∧
      (∀ equation, Answers equation (block equation)) ∧
      ∀ (start : List UInt8) (other : Feed),
        (∃ line ∈ Lines.complete start, settings.isToken line = true) →
          start <+: feed.bytes → start <+: other.bytes →
            converse settings other = converse settings feed := by
  intro run prompt consumed
  have delivered : run = (converse settings feed).deliver .unlimited := runConversation_eq _ _ _
  obtain ⟨notes, course⟩ := converse_finished settings (Lines.all feed.bytes) .zero
  have whole : converse settings feed = _ := (congrArg _ (feed.lines_regular regular)).trans course
  refine ⟨?_, ?_, block_answers, ?_⟩
  · rw [delivered, sent_unlimited, whole]
    simp [sentBy_exchange, sentBy_notes, invite_eq, prompt, consumed]
  · rw [delivered, ending_unlimited, whole, zero_add_tally]
  · rintro start other ⟨line, member, token⟩ begins otherBegins
    have stops : ∃ line ∈ Lines.complete start, settings.passes line = false :=
      ⟨line, member, by simp [Settings.passes, token]⟩
    exact converse_agrees stops otherBegins begins

/-- What stands behind the token is no text in one feed and breaks off in the other. -/
theorem conversation_course_token :
    let settings : Settings := ⟨some "? ", "0"⟩
    let feed : Feed := ⟨[[120, 94], Text.toBytes "2-1\n \ny\n 0\r\n", [255]], none⟩
    let other : Feed := ⟨[Text.toBytes "x^2-1\n \ny\n 0\r\nx^2\n"], some .isADirectory⟩
    let run := runConversation settings feed .unlimited
    let prompt := Action.write .out "? "
    feed.failure = none ∧ run.ending = .ok ⟨1, 1⟩ ∧
      sent run.steps =
        sentBy [prompt, block "x^2-1", prompt, prompt, block "y", prompt] ∧
      converse settings other = converse settings feed := by
  intro settings feed other run prompt
  have regular : feed.failure = none := rfl
  obtain ⟨shown, ends, -, independent⟩ := conversation_course settings feed regular
  refine ⟨regular, ends.trans (by decide +kernel), shown.trans (congrArg sentBy ?_), ?_⟩
  · decide +kernel
  · exact independent (Text.toBytes "x^2-1\n \ny\n 0\r\n") other (by decide +kernel)
      (by decide +kernel) (by decide +kernel)

end Parabola.Session
