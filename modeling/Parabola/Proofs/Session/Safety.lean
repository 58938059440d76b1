import Parabola.Proofs.Equation.Progress
import Parabola.Proofs.Roots.Formula
import Parabola.Proofs.Session.Conversation

/-!
Nothing that is read can stop the work where it must not stop: reading goes forward to an end, its
registers and those of the formula hold what is put into them, and no session comes upon a trinomial
without a square.
-/

namespace Parabola

namespace Equation

theorem parse_square {raw : String} {t : Trinomial} (read : parse raw = .ok t) : t.a.val ≠ 0 := by
  obtain ⟨ws, -, -, square, totals⟩ := readNormal_ok_iff.mp read
  intro vanishes
  exact square (totals.1.symm.trans vanishes)

theorem loop_stops (chars : List Char) :
    ∃ turns last, turns ≤ chars.length ∧ Turns turns (.start chars) last ∧ Stops last ∧
      last.outcome = (readTerms true .empty (.start chars)).outcome := by
  have stands : (Stand.start chars).cursor.StandsIn chars := start_stands chars
  obtain ⟨turns, last, run, stops⟩ := turns_stop stands
  obtain ⟨after, far, same⟩ := turns_stand run stands
  have inside := after.inside
  exact ⟨turns, last, by omega, run, stops, same.symm⟩

end Equation

namespace Session

open Equation

def Unsolvable (ending : Except Failure Summary) : Prop := ∃ error, ending = .error (.solve error)

theorem stopped_solvable {settings : Settings} {line : List UInt8}
    (stops : settings.passes line = false) (summary : Summary) (rest : Lines) :
    ¬ Unsolvable (converseFrom settings summary (.line line rest)).ending := by
  rintro ⟨error, ended⟩
  cases text : Lines.isText line with
  | false => simp [converseFrom, react_not_text text] at ended
  | true =>
    have token : settings.isToken line = true := by simpa [Settings.passes, text] using stops
    simp [converseFrom, react_token token] at ended

theorem converse_solvable (settings : Settings) (summary : Summary) (lines : Lines) :
    ¬ Unsolvable (converseFrom settings summary lines).ending := by
  induction lines generalizing summary with
  | finished => rintro ⟨error, ended⟩; cases ended
  | failed failure => rintro ⟨error, ended⟩; cases ended
  | line bytes rest ih =>
    cases passes : settings.passes bytes with
    | true =>
      rw [converse_cons passes]
      exact ih _
    | false => exact stopped_solvable passes summary rest

theorem batch_solvable (equations : List String) : ¬ Unsolvable (batch equations).ending := by
  rintro ⟨error, ended⟩
  rw [batch_eq] at ended
  cases ended

theorem deliver_solvable {transcript : Transcript} (room : Room)
    (solvable : ¬ Unsolvable transcript.ending) :
    ¬ Unsolvable (transcript.deliver room).ending := by
  unfold Transcript.deliver
  split
  · exact solvable
  · rintro ⟨error, ended⟩; cases ended

theorem nothing_faults (raw : String) (settings : Settings) (feed : Feed) (equations : List String)
    (room : Room) :
    let chars := Text.normalChars raw.toList
    (∀ (first : Bool) (cursor next : Cursor) (term : Term), cursor.StandsIn chars →
        readTerm first cursor = .ok (term, next) →
          next.StandsIn chars ∧ cursor.position < next.position) ∧
      (∃ turns last, turns ≤ chars.length ∧ Turns turns (.start chars) last ∧ Stops last ∧
        last.outcome = (readTerms true .empty (.start chars)).outcome) ∧
      (∀ cursor, readNumberIn (10 * magnitudeLimit + 9) cursor = some (readNumber cursor)) ∧
      (∀ (cursor next : Cursor) (magnitude : Nat) (negative : Bool),
        readNumber cursor = .ok (magnitude, next) → InBits 64 (signed negative magnitude)) ∧
      (∀ (term : Term) (degree : Degree), term.degree? = some degree →
        degree.toNat < 3 ∧ term.exponent.val = degree.toNat) ∧
      (∀ t, parse raw = .ok t → t.a.val ≠ 0) ∧
      (∀ t : Trinomial, ∀ n ∈ t.workings, InBits 128 n) ∧
      ¬ Unsolvable (runConversation settings feed room).ending ∧
      ¬ Unsolvable (runBatch equations room).ending := by
  intro chars
  rw [runConversation_eq, runBatch_eq]
  refine ⟨?_, loop_stops chars, readNumberIn_eq, ?_, fun _ _ => degree_slot, fun _ => parse_square,
    ?_, ?_, ?_⟩
  · intro first cursor next term stands taken
    exact readTerm_stands stands taken
  · intro cursor next magnitude negative done
    exact signed_in_bits negative (readNumber_le done)
  · intro t n member
    exact in_bits_of_natAbs ((t.workings_natAbs_le n member).trans_lt (by decide))
  · exact deliver_solvable room (converse_solvable settings .zero feed.lines)
  · exact deliver_solvable room (batch_solvable equations)

theorem nothing_faults_least :
    let raw := "X^2 - 2147483648"
    let chars := "x^2-2147483648".toList
    let first : Term := ⟨.one, .two⟩
    let next : Cursor := ⟨"-2147483648".toList, 3⟩
    let t : Trinomial := ⟨.one, .zero, ⟨-2147483648, by decide, by decide⟩⟩
    let feed : Feed := ⟨[Text.toBytes raw], none⟩
    readTerm true (.start chars) = .ok (first, next) ∧ next.StandsIn chars ∧ 0 < next.position ∧
      readNumber ⟨"2147483648".toList, 4⟩ = .ok (2147483648, ⟨[], 14⟩) ∧
      InBits 64 (signed true 2147483648) ∧
      first.degree? = some .square ∧ Degree.square.toNat < 3 ∧
      parse raw = .ok t ∧ t.a.val ≠ 0 ∧
      ¬ Unsolvable (runConversation ⟨none, ""⟩ feed .unlimited).ending := by
  intro raw chars first next t feed
  obtain ⟨forward, -, -, inBits, slot, square, -, solvable, -⟩ :=
    nothing_faults raw ⟨none, ""⟩ feed [raw] .unlimited
  have normal : Text.normalChars raw.toList = chars := by decide +kernel
  have taken : readTerm true (.start chars) = .ok (first, next) := by decide +kernel
  have number : readNumber ⟨"2147483648".toList, 4⟩ = .ok (2147483648, ⟨[], 14⟩) := by
    decide +kernel
  have permitted : first.degree? = some .square := by decide
  have read : parse raw = .ok t := by decide +kernel
  rw [normal] at forward
  obtain ⟨stands, further⟩ := forward true _ next first (start_stands chars) taken
  exact ⟨taken, stands, further, number, inBits _ _ _ true number, permitted,
    (slot first .square permitted).1, read, square t read, solvable⟩

end Session

end Parabola
