import Parabola.CommandLine.Scan

/-!
What the words of a command line give, word by word and in any order of options and equations. Words
that are accepted give exactly what the arguments hold, and never two sources of equations.
-/

namespace Parabola.CommandLine

/-- What one word gives, or an option together with its value. -/
inductive Item where
  | operand (text : String)
  | value (setting : Setting) (text : String)
  | noPrompt
deriving DecidableEq

/-- Words and what they give. A value stands in the option's own word or in the next one, and a word
that asks for a text about the program gives nothing. -/
inductive Gives : List String → List Item → Prop where
  | nil : Gives [] []
  | operand {text more equation items} (kind : Word.ofText text = .operand equation)
      (others : Gives more items) : Gives (text :: more) (.operand equation :: items)
  | separator {text more} (kind : Word.ofText text = .separator) :
      Gives (text :: more) (more.map .operand)
  | noPrompt {text more items} (kind : Word.ofText text = .noPrompt) (others : Gives more items) :
      Gives (text :: more) (.noPrompt :: items)
  | attached {text more setting value items}
      (kind : Word.ofText text = .setting setting (some value)) (others : Gives more items) :
      Gives (text :: more) (.value setting value :: items)
  | separate {text next more setting value items}
      (kind : Word.ofText text = .setting setting none) (plain : Word.ofText next = .operand value)
      (others : Gives more items) : Gives (text :: next :: more) (.value setting value :: items)

theorem gives_unique {words : List String} {items others : List Item} (one : Gives words items)
    (other : Gives words others) : items = others := by
  induction one generalizing others with
  | nil =>
    cases other
    rfl
  | operand kind _ ih =>
    cases other with
    | operand same later => rw [ih later, Word.operand.inj (kind.symm.trans same)]
    | separator same | noPrompt same | attached same | separate same => cases kind.symm.trans same
  | separator kind =>
    cases other with
    | separator => rfl
    | operand same | noPrompt same | attached same | separate same => cases kind.symm.trans same
  | noPrompt kind _ ih =>
    cases other with
    | noPrompt _ later => rw [ih later]
    | operand same | separator same | attached same | separate same => cases kind.symm.trans same
  | attached kind _ ih =>
    cases other with
    | attached same later =>
      cases kind.symm.trans same
      rw [ih later]
    | operand same | separator same | noPrompt same | separate same => cases kind.symm.trans same
  | separate kind plain _ ih =>
    cases other with
    | separate same samePlain later =>
      cases kind.symm.trans same
      cases plain.symm.trans samePlain
      rw [ih later]
    | operand same | separator same | noPrompt same | attached same => cases kind.symm.trans same

@[simp]
def Item.operand? : Item → Option String
  | operand text => some text
  | _ => none

@[simp]
def Item.value? (setting : Setting) : Item → Option String
  | value given text => if given = setting then some text else none
  | _ => none

def operands (items : List Item) : List String := items.filterMap Item.operand?

def values (setting : Setting) (items : List Item) : List String :=
  items.filterMap (Item.value? setting)

section Items

variable {setting : Setting}

@[simp] theorem operands_nil : operands [] = [] := rfl

@[simp] theorem values_nil : values setting [] = [] := rfl

@[simp] theorem operands_cons (item : Item) (items : List Item) :
    operands (item :: items) = item.operand?.toList ++ operands items := by
  rw [operands, List.filterMap_cons]
  cases item.operand? <;> rfl

@[simp] theorem values_cons (item : Item) (items : List Item) :
    values setting (item :: items) = (item.value? setting).toList ++ values setting items := by
  rw [values, List.filterMap_cons]
  cases item.value? setting <;> rfl

@[simp] theorem operands_append (items others : List Item) :
    operands (items ++ others) = operands items ++ operands others := List.filterMap_append

@[simp] theorem values_append (items others : List Item) :
    values setting (items ++ others) = values setting items ++ values setting others :=
  List.filterMap_append

@[simp] theorem operands_map (texts : List String) : operands (texts.map .operand) = texts := by
  simp [operands, List.filterMap_map, Function.comp_def]

@[simp] theorem values_map (texts : List String) : values setting (texts.map .operand) = [] := by
  simp [values, List.filterMap_map, Function.comp_def]

end Items

namespace Draft

variable {draft next later : Draft}

def held (draft : Draft) : Setting → Option String
  | .inputFile => draft.inputFile
  | .exitToken => draft.exitToken

def given (draft : Draft) (setting : Setting) : List String :=
  (draft.held setting).toList ++
    (draft.pending.filter fun waiting => waiting.1 = setting).toList.map Prod.snd

/-- The later draft has what the items give, and nothing else, behind what was there. -/
structure Gains (draft : Draft) (items : List Item) (later : Draft) : Prop where
  equations : later.equations = draft.equations ++ operands items
  given : ∀ setting, later.given setting = draft.given setting ++ values setting items
  noPrompt : later.noPrompt = (draft.noPrompt || decide (Item.noPrompt ∈ items))

theorem Gains.trans {items others : List Item} (first : draft.Gains items next)
    (second : next.Gains others later) : draft.Gains (items ++ others) later := by
  refine ⟨?_, fun setting => ?_, ?_⟩
  · rw [second.equations, first.equations, operands_append, List.append_assoc]
  · rw [second.given, first.given, values_append, List.append_assoc]
  · rw [second.noPrompt, first.noPrompt, Bool.or_assoc]
    simp

theorem operands_gains (settled : Draft) (texts : List String) :
    settled.Gains (texts.map .operand) (settled.addEquations texts) := by
  refine ⟨?_, fun setting => ?_, ?_⟩
  · simp [addEquations]
  · cases setting <;> simp [given, held, addEquations]
  · simp [addEquations]

theorem pending_gains {setting : Setting} {value : String} (settled : draft.pending = none) :
    draft.Gains [.value setting value] { draft with pending := some (setting, value) } := by
  refine ⟨by simp, fun other => ?_, by simp⟩
  cases setting <;> cases other <;>
    simp [given, held, settled, Option.filter]

theorem assign_gains {setting : Setting} {value : String} (settled : draft.pending = none)
    (assigned : draft.assign setting value = .ok next) :
    draft.Gains [.value setting value] next ∧ next.pending = none := by
  cases setting with
  | inputFile =>
    by_cases again : draft.inputFile.isSome
    · simp [assign, again] at assigned
    by_cases empty : value = ""
    · simp [assign, again, empty] at assigned
    have first : draft.inputFile = none := by simpa using again
    simp only [assign, again, empty, if_false, Bool.false_eq_true, Except.ok.injEq] at assigned
    subst assigned
    refine ⟨⟨by simp, fun other => ?_, by simp⟩, settled⟩
    cases other <;> simp [given, held, settled, first]
  | exitToken =>
    by_cases again : draft.exitToken.isSome
    · simp [assign, again] at assigned
    have first : draft.exitToken = none := by simpa using again
    simp only [assign, again, if_false, Bool.false_eq_true, Except.ok.injEq] at assigned
    subst assigned
    refine ⟨⟨by simp, fun other => ?_, by simp⟩, settled⟩
    cases other <;> simp [given, held, settled, first]

-- Looking at a value that was put off gives nothing new: it was given before.
theorem settle_gains (settled : draft.settle = .ok next) :
    draft.Gains [] next ∧ next.pending = none := by
  cases waiting : draft.pending with
  | none =>
    simp only [settle, waiting, Except.ok.injEq] at settled
    subst settled
    exact ⟨⟨by simp, by simp, by simp⟩, waiting⟩
  | some pending =>
    obtain ⟨setting, value⟩ := pending
    have assigned : { draft with pending := none }.assign setting value = .ok next := by
      simpa only [settle, waiting] using settled
    obtain ⟨gains, clear⟩ := assign_gains rfl assigned
    have before : { draft with pending := none }.Gains [.value setting value]
        { draft with pending := some (setting, value) } := pending_gains rfl
    refine ⟨⟨?_, fun other => ?_, ?_⟩, clear⟩
    · simpa using gains.equations
    · rw [gains.given, ← before.given, ← waiting]
      simp
    · simpa using gains.noPrompt

theorem noPrompt_gains (quiet : draft.turnPromptOff = .ok next) :
    draft.Gains [.noPrompt] next := by
  by_cases again : draft.noPrompt
  · simp [turnPromptOff, again] at quiet
  · simp only [turnPromptOff, again, if_false, Bool.false_eq_true, Except.ok.injEq] at quiet
    subst quiet
    refine ⟨by simp, fun setting => ?_, by simp⟩
    cases setting <;> simp [given, held]

end Draft

variable {draft final : Draft}

theorem scan_turn {text : String} {more : List String}
    (scanned : scan draft (text :: more) = .ok final) :
    ∃ items next rest, rest.length ≤ more.length ∧ draft.Gains items next ∧
      scan next rest = .ok final ∧
      ∀ others, Gives rest others → Gives (text :: more) (items ++ others) := by
  rw [scan] at scanned
  cases settles : draft.settle with
  | error stop => cases kind : Word.ofText text <;> simp [kind, settles] at scanned
  | ok settled =>
    obtain ⟨kept, clear⟩ := Draft.settle_gains settles
    cases kind : Word.ofText text with
    | operand equation =>
      simp only [kind, settles] at scanned
      exact ⟨_, _, more, Nat.le_refl _, kept.trans (settled.operands_gains [equation]), scanned,
        fun others => .operand kind⟩
    | separator =>
      simp only [kind, settles, Except.ok.injEq] at scanned
      refine ⟨_, final, [], Nat.zero_le _, scanned ▸ kept.trans (settled.operands_gains more), ?_, ?_⟩
      · simp [scan, Draft.settle, Draft.addEquations, clear, ← scanned]
      · rintro others (_ | _)
        simpa using Gives.separator kind
    | noPrompt =>
      cases quiets : settled.turnPromptOff with
      | error stop => simp [kind, settles, quiets] at scanned
      | ok quiet =>
        simp only [kind, settles, quiets] at scanned
        exact ⟨_, _, more, Nat.le_refl _, kept.trans (Draft.noPrompt_gains quiets), scanned,
          fun others => .noPrompt kind⟩
    | setting setting attached =>
      cases attached with
      | some value =>
        cases assigns : settled.assign setting value with
        | error stop => simp [kind, settles, assigns] at scanned
        | ok assigned =>
          simp only [kind, settles, assigns] at scanned
          exact ⟨_, _, more, Nat.le_refl _, kept.trans (Draft.assign_gains clear assigns).1, scanned,
            fun others => .attached kind⟩
      | none =>
        cases more with
        | nil => simp [kind, settles] at scanned
        | cons next others =>
          cases plain : Word.ofText next with
          | operand value =>
            simp only [kind, settles, separateValue, plain] at scanned
            exact ⟨_, _, others, Nat.le_succ _, kept.trans (Draft.pending_gains clear), scanned,
              fun items => .separate kind plain⟩
          | _ => simp [kind, settles, separateValue, plain] at scanned
    | help | version | surplusValue | unknown => simp [kind, settles] at scanned

theorem scan_gains {words : List String} (scanned : scan draft words = .ok final) :
    ∃ items, Gives words items ∧ draft.Gains items final ∧ final.pending = none := by
  induction size : words.length using Nat.strongRecOn generalizing words draft with
  | ind size ih =>
    cases words with
    | nil => exact ⟨[], .nil, Draft.settle_gains scanned⟩
    | cons text more =>
      obtain ⟨items, next, rest, shorter, gains, later, gives⟩ := scan_turn scanned
      obtain ⟨others, given, gained, clear⟩ :=
        ih rest.length (size ▸ Nat.lt_succ_of_le shorter) later rfl
      exact ⟨items ++ others, gives others given, gains.trans gained, clear⟩

/-- Accepted words give all that the arguments hold, and equations or a file, not both. -/
theorem parse_gives {words : List String} {arguments : Arguments}
    (accepted : parse words = .ok arguments) :
    ∃ items, Gives words items ∧
      arguments.equations = operands items ∧
      arguments.inputFile.toList = values .inputFile items ∧
      arguments.exitToken = (values .exitToken items).headD defaultExitToken ∧
      arguments.noPrompt = decide (Item.noPrompt ∈ items) ∧
      (arguments.equations = [] ∨ arguments.inputFile = none) := by
  cases scanned : scan .empty words with
  | error stop => simp [parse, scanned] at accepted
  | ok final =>
    obtain ⟨items, gives, gains, clear⟩ := scan_gains scanned
    have finished : final.finish = .ok arguments := by simpa only [parse, scanned] using accepted
    by_cases both : final.inputFile.isSome ∧ final.equations ≠ []
    · simp [Draft.finish, both] at finished
    simp only [Draft.finish, both, if_false, Except.ok.injEq] at finished
    subst finished
    have file := gains.given .inputFile
    have token := gains.given .exitToken
    simp only [Draft.given, Draft.held, clear, Draft.empty, Option.filter_none, Option.toList_none,
      List.map_nil, List.append_nil, List.nil_append] at file token
    refine ⟨items, gives, gains.equations, file, ?_, ?_, ?_⟩
    · rw [← token]
      cases final.exitToken <;> rfl
    · simpa [Draft.empty] using gains.noPrompt
    · by_cases none_given : final.equations = []
      · exact .inl none_given
      · exact .inr (by simpa [none_given] using both)

end Parabola.CommandLine
