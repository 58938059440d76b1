import Parabola.Program
import Parabola.Proofs.Session.Delivery
import Parabola.Proofs.Session.Enactment

/-!
A plan that is carried out as it goes comes to what it was planned to do, action by action, on channels
that take everything.
-/

namespace Parabola.Program

open Session

/-- On channels without limits, from these lines on, a program does just this and ends so. -/
def Does {α : Type} (work : Fed α) (lines : Lines) (actions : List Action)
    (result : Except Failure α) : Prop :=
  ∀ events, (work.run' lines).run.run ⟨.unlimited, events⟩ =
    (result, ⟨.unlimited, events ++ actions.map Action.done⟩)

theorem run_act_unlimited (action : Action) (events : List Event) :
    (act action : Limited Unit).run.run ⟨.unlimited, events⟩ =
      (.ok (), ⟨.unlimited, events ++ [action.done]⟩) := by
  cases action with
  | note record => rfl
  | write channel text => cases channel <;> rfl

theorem run_fed {α : Type} (work : Fed α) (lines : Lines) (bench : Bench) :
    (work.run' lines).run.run bench =
      (((work.run lines).run.run bench).1.map Prod.fst, ((work.run lines).run.run bench).2) := by
  rw [StateT.run'_eq, ExceptT.run_map, StateT.run_map]
  rfl

theorem run_fed_bind {α β : Type} (work : Fed α) (next : α → Fed β) (lines : Lines) :
    (work >>= next).run' lines =
      work.run lines >>= fun reached => (next reached.1).run' reached.2 := by
  simp [StateT.run'_eq, StateT.run_bind]

section Composition

variable {α β : Type} {work : Fed α} {next : α → Fed β} {lines : Lines}
  {before later actions : List Action}

theorem does_bind {value : α} {result : Except Failure β}
    (first : Does work lines before (.ok value))
    (second : ∀ rest, Does (next value) rest later result) :
    Does (work >>= next) lines (before ++ later) result := by
  intro events
  have ran := first events
  rw [run_fed] at ran
  cases got : (work.run lines).run.run ⟨.unlimited, events⟩ with
  | mk outcome bench =>
    rw [got] at ran
    cases outcome with
    | error failure => cases ran
    | ok reached =>
      cases ran
      rw [run_fed_bind, run_bind_ok got, List.map_append, ← List.append_assoc]
      exact second reached.2 _

theorem does_pure (value : α) (lines : Lines) : Does (pure value) lines [] (.ok value) := by
  intro events
  simp
  rfl

theorem does_after {result : Except Failure α} (action : Action)
    (does : Does work lines actions result) :
    Does (do act action; work) lines (action :: actions) result := by
  intro events
  rw [run_fed_bind, fed_act, bind_assoc, run_bind_ok (run_act_unlimited action events), pure_bind,
    does, List.append_assoc]
  rfl

theorem does_acts (actions : List Action) (lines : Lines) :
    Does (actions.forM act) lines actions (.ok ()) := by
  induction actions generalizing lines with
  | nil => exact does_pure () lines
  | cons action more ih => exact does_after action (ih lines)

theorem does_settle (run : Run) (lines : Lines) :
    Does (settle run) lines run.actions (.ok run.exit) := by
  rw [← List.append_nil run.actions]
  exact does_bind (does_acts run.actions lines) (does_pure run.exit)

theorem run_tryCatch (work : Fed α) (handler : Failure → Fed α) (lines : Lines) (bench : Bench) :
    ((tryCatch work handler).run lines).run.run bench =
      match (work.run lines).run.run bench with
      | (.ok reached, later) => (.ok reached, later)
      | (.error failure, later) => ((handler failure).run lines).run.run later := by
  change (tryCatch (work.run lines) fun failure => (handler failure).run lines :
    Limited (α × Lines)).run.run bench = _
  rw [ExceptT.run_tryCatch, StateT.run_bind]
  cases (work.run lines).run.run bench with
  | mk outcome later => cases outcome <;> rfl

theorem does_attempt {session : Fed Summary} {ending : Except Failure Summary}
    (does : Does session lines actions ending) :
    Does (tryCatch (.ok <$> session) fun failure => pure (.error failure)) lines actions
      (.ok ending) := by
  intro events
  have ran := does events
  rw [run_fed] at ran ⊢
  rw [run_tryCatch, StateT.run_map, ExceptT.run_map, StateT.run_map]
  cases got : (session.run lines).run.run ⟨.unlimited, events⟩ with
  | mk outcome bench =>
    rw [got] at ran
    cases outcome <;> (cases ran; rfl)

theorem does_concluding {session : Fed Summary} {ending : Except Failure Summary}
    (close : Except Failure Summary → Run) (does : Does session lines actions ending) :
    Does (concluding close session) lines (actions ++ (close ending).actions)
      (.ok (close ending).exit) :=
  does_bind (does_attempt does) (does_settle (close ending))

end Composition

/-! Sessions -/

theorem run_play_unlimited (transcript : Transcript) (events : List Event) :
    (play transcript).run.run ⟨.unlimited, events⟩ =
      (transcript.ending, ⟨.unlimited, events ++ transcript.actions.map Action.done⟩) := by
  obtain ⟨actions, ending⟩ := transcript
  induction actions generalizing events with
  | nil => cases ending <;> simp [play] <;> rfl
  | cons action more ih =>
    rw [play_cons, run_bind_ok (run_act_unlimited action events), ih, List.append_assoc]
    rfl

theorem does_interact (settings : Settings) (lines : Lines) :
    Does (interact settings) lines (converseFrom settings .zero lines).actions
      (converseFrom settings .zero lines).ending := by
  intro events
  rw [interact, interact_from, run_play_unlimited]

theorem does_processAll (equations : List String) (lines : Lines) :
    Does (processAll equations) lines (batch equations).actions (batch equations).ending := by
  intro events
  rw [StateT.run'_eq, fed_batch]
  simp [run_play_unlimited]

theorem conduct_performs (plan : Plan) (input : Feed) :
    Does (conduct plan) input.lines (perform plan input).actions (.ok (perform plan input).exit) := by
  cases plan with
  | converse settings =>
    exact does_after (.note _) (does_concluding _ (does_interact settings input.lines))
  | batch equations =>
    exact does_after (.note _) (does_concluding _ (does_processAll equations input.lines))
  | complain complaint => exact does_settle _ _
  | stop stop => cases stop <;> exact does_settle _ _

end Parabola.Program
