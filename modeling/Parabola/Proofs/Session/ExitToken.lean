import Parabola.Proofs.CommandLine.Choice
import Parabola.Proofs.Session.Conversation

/-!
The exit token of checked arguments: it is not blank and has no blanks around it, so a blank line
never ends a conversation, and a line that is the token between any blanks always does.
-/

namespace Parabola

theorem Text.trim_trim (s : String) : trim (trim s) = trim s := by
  rw [trim, trim, String.toList_ofList, trimmed_bare (bare_trimmed s.toList)]

theorem CommandLine.Arguments.settings_token {arguments : CommandLine.Arguments} {disk : Disk}
    (checked : arguments.check disk = .ok ()) :
    arguments.settings.exitToken ≠ "" ∧
      Text.trim arguments.settings.exitToken = arguments.settings.exitToken :=
  ⟨(check_ok_iff.mp checked).1, Text.trim_trim arguments.exitToken⟩

namespace Session

variable {settings : Settings} {feed : Feed} {lines : List (List UInt8)} {text : String}
  {rest : Lines}

theorem isToken_iff {line : List UInt8} : settings.isToken line = true ↔
    ∃ text, Text.toBytes text = line ∧ Text.trim text = settings.exitToken := by
  simp [Settings.isToken, Option.map_eq_some_iff, Text.ofBytes?_eq_some_iff]

theorem passes_of_text (other : Text.trim text ≠ settings.exitToken) :
    settings.passes (Text.toBytes text) = true := by
  simp [Settings.passes, Settings.isToken, Lines.isText, other]

theorem asked_blank (blank : Text.trim text = "") : asked [Text.toBytes text] = [] := by
  rw [asked, Lines.texts_line (Text.ofBytes?_toBytes text), if_pos blank]

-- A blank line leaves the counts and adds the prompt before it, nothing else.
theorem converse_blank (filled : settings.exitToken ≠ "")
    (reached : feed.lines = Lines.ofList lines (.line (Text.toBytes text) rest))
    (passing : ∀ line ∈ lines, settings.passes line = true) (blank : Text.trim text = "") :
    converse settings feed =
      (converseFrom settings (tally (asked lines)) rest).after
        (exchange settings lines ++ settings.invite) := by
  have passes : settings.passes (Text.toBytes text) = true :=
    passes_of_text fun same => filled (same.symm.trans blank)
  rw [converse, reached, converse_passing passing, converse_cons passes, zero_add_tally,
    asked_blank blank, add_tally_nil]
  simp [Transcript.after, exchange, asked_blank blank]

theorem converse_token (reached : feed.lines = Lines.ofList lines (.line (Text.toBytes text) rest))
    (passing : ∀ line ∈ lines, settings.passes line = true)
    (token : Text.trim text = settings.exitToken) :
    converse settings feed =
      ⟨exchange settings lines ++ settings.invite, .ok (tally (asked lines))⟩ := by
  have stops := react_token (isToken_iff.mpr ⟨text, rfl, token⟩) (tally (asked lines))
  rw [converse, reached, converse_passing passing, zero_add_tally, converseFrom]
  simp [stops, Transcript.after]

theorem deliver_ending (transcript : Transcript) (room : Room) :
    (transcript.deliver room).ending = transcript.ending ∨
      ∃ channel, (transcript.deliver room).ending = .error (.full channel) := by
  unfold Transcript.deliver
  split
  · exact .inl rfl
  · exact .inr ⟨_, rfl⟩

theorem typed_token {start after : List UInt8} {left token right : String} (filled : token ≠ "")
    (bare : Text.trim token = token) (single : '\n' ∉ (left ++ token ++ right).toList)
    (leftBlank : ∀ c ∈ left.toList, Text.isBlank c = true)
    (rightBlank : ∀ c ∈ right.toList, Text.isBlank c = true)
    (delimits : feed.Delimits start (Text.toBytes (left ++ token ++ right)) after) :
    Text.trim (left ++ token ++ right) = token ∧
      ∃ rest, feed.lines = Lines.ofList (Lines.complete start)
        (.line (Text.toBytes (left ++ token ++ right)) rest) := by
  have trimmed : Text.trim (left ++ token ++ right) = token :=
    (Text.trim_surrounded leftBlank rightBlank).trans bare
  have nonempty : Text.toBytes (left ++ token ++ right) ≠ [] := by
    intro empty
    have nothing : left ++ token ++ right = "" :=
      Text.toBytes_injective (empty.trans (by decide : [] = Text.toBytes ""))
    rw [nothing] at trimmed
    exact filled (trimmed.symm.trans (by decide))
  exact ⟨trimmed, delimits.lines (Text.newline_not_mem_toBytes single) nonempty⟩

/-- The token of checked arguments is not blank, has no blanks around it and is what the prompt
shows. A conversation goes on after a blank line. The first line that is the token between any
blanks ends it there with what was counted before, unless a line before it is no text or a channel
is full; and such a line can be typed, unless there is a newline in the token. -/
theorem exit_token_ends {arguments : CommandLine.Arguments} {disk : Disk}
    (checked : arguments.check disk = .ok ()) :
    let settings := arguments.settings
    settings.exitToken = Text.trim arguments.exitToken ∧ settings.exitToken ≠ "" ∧
      Text.trim settings.exitToken = settings.exitToken ∧
      settings.invite = (if arguments.noPrompt then []
        else [.write .out ("Enter equation(" ++ settings.exitToken ++ " for exit): ")]) ∧
      (∀ (feed : Feed) lines text rest,
        feed.lines = Lines.ofList lines (.line (Text.toBytes text) rest) →
        (∀ other, Text.toBytes other ∈ lines → Text.trim other ≠ settings.exitToken) →
          ((∀ line ∈ lines, Lines.isText line = true) →
            (Text.trim text = "" →
              converse settings feed = (converseFrom settings (tally (asked lines)) rest).after
                (exchange settings lines ++ settings.invite)) ∧
            (Text.trim text = Text.trim arguments.exitToken →
              converse settings feed =
                  ⟨exchange settings lines ++ settings.invite, .ok (tally (asked lines))⟩ ∧
                ∀ room, (runConversation settings feed room).ending = .ok (tally (asked lines)) ∨
                  ∃ channel, (runConversation settings feed room).ending =
                    .error (.full channel))) ∧
          ((∃ line ∈ lines, Lines.isText line = false) →
            (converse settings feed).ending = .error (.read .notUtf8))) ∧
      ('\n' ∉ settings.exitToken.toList → ∀ (feed : Feed) start left right after,
        (∀ c ∈ left.toList, Text.isBlank c = true ∧ c ≠ '\n') →
        (∀ c ∈ right.toList, Text.isBlank c = true ∧ c ≠ '\n') →
        feed.Delimits start (Text.toBytes (left ++ settings.exitToken ++ right)) after →
        (∀ line ∈ Lines.complete start, settings.passes line = true) →
          converse settings feed =
            ⟨exchange settings (Lines.complete start) ++ settings.invite,
              .ok (tally (asked (Lines.complete start)))⟩) := by
  intro settings
  obtain ⟨filled, bare⟩ := CommandLine.Arguments.settings_token checked
  refine ⟨rfl, filled, bare, ?_, ?_, ?_⟩
  · cases quiet : arguments.noPrompt with
    | true => simp [settings, Settings.invite, CommandLine.Arguments.settings, quiet]
    | false =>
      simp only [settings, Settings.invite, CommandLine.Arguments.settings, quiet]
      rfl
  · intro feed lines text rest reached first
    have untold : ∀ line ∈ lines, settings.isToken line = false := by
      intro line member
      rw [Bool.eq_false_iff, ne_eq, isToken_iff]
      rintro ⟨other, rfl, token⟩
      exact first other member token
    refine ⟨fun spelled => ?_, fun bad => ?_⟩
    · have passing : ∀ line ∈ lines, settings.passes line = true := by
        intro line member
        simp [Settings.passes, spelled line member, untold line member]
      refine ⟨converse_blank filled reached passing, fun token => ?_⟩
      have course := converse_token reached passing token
      refine ⟨course, fun room => ?_⟩
      have delivered := deliver_ending (converse settings feed) room
      rw [runConversation_eq]
      rwa [course] at delivered ⊢
    · rw [converse, reached]
      exact converse_not_text untold bad .zero _
  · intro single feed start left right after leftBlank rightBlank delimits passing
    have unbroken : '\n' ∉ (left ++ settings.exitToken ++ right).toList := by
      rw [String.toList_append, String.toList_append, List.mem_append, List.mem_append]
      rintro ((inLeft | inToken) | inRight)
      · exact (leftBlank _ inLeft).2 rfl
      · exact single inToken
      · exact (rightBlank _ inRight).2 rfl
    obtain ⟨token, rest, reached⟩ := typed_token filled bare unbroken
      (fun c member => (leftBlank c member).1) (fun c member => (rightBlank c member).1) delimits
    exact converse_token reached passing token

/-- A no-break space and a tab around the token in the arguments, an em space and a carriage return
around it on its line. The reads behind it fail. -/
theorem exit_token_ends_blanks :
    let arguments : CommandLine.Arguments := ⟨[], none, "\u00a0q\t", false⟩
    let disk : Disk := ⟨fun _ => .error .notFound⟩
    let settings := arguments.settings
    let feed : Feed := ⟨[Text.toBytes "x^2-1\n \n\u2003q\r\ny\n"], some .isADirectory⟩
    let start := Text.toBytes "x^2-1\n \n"
    arguments.check disk = .ok () ∧ settings = ⟨some "Enter equation(q for exit): ", "q"⟩ ∧
      feed.Delimits start (Text.toBytes ("\u2003" ++ settings.exitToken ++ "\r"))
        (Text.toBytes "\ny\n") ∧
      converse settings feed =
        ⟨settings.invite ++ reply "x^2-1" ++ settings.invite ++ settings.invite, .ok ⟨1, 0⟩⟩ := by
  intro arguments disk settings feed start
  have checked : arguments.check disk = .ok () := by decide +kernel
  obtain ⟨-, -, -, -, -, typed⟩ := exit_token_ends checked
  have delimits : feed.Delimits start (Text.toBytes ("\u2003" ++ settings.exitToken ++ "\r"))
      (Text.toBytes "\ny\n") :=
    ⟨by decide +kernel, by decide +kernel, .inl (by decide +kernel)⟩
  have left : ∀ c ∈ "\u2003".toList, Text.isBlank c = true ∧ c ≠ '\n' :=
    List.forall_mem_singleton.mpr (by decide)
  have right : ∀ c ∈ "\r".toList, Text.isBlank c = true ∧ c ≠ '\n' :=
    List.forall_mem_singleton.mpr (by decide)
  have course := typed (by decide +kernel) feed start "\u2003" "\r" (Text.toBytes "\ny\n") left right
    delimits (by decide +kernel)
  have lines : Lines.complete start = ["x^2-1", " "].map Text.toBytes := by decide +kernel
  have asks : asked [Text.toBytes "x^2-1"] = ["x^2-1"] := by decide +kernel
  have passed : asked [Text.toBytes " "] = [] := by decide +kernel
  have counted : tally (asked (Lines.complete start)) = ⟨1, 0⟩ := by decide +kernel
  refine ⟨checked, by decide +kernel, delimits, course.trans ?_⟩
  rw [counted, lines]
  simp [settings, exchange, asks, passed]

end Session

end Parabola
