import Parabola.Proofs.Equation.Language
import Parabola.Proofs.Equation.Refusal
import Parabola.Proofs.Text.Normal

/-!
The written form of a trinomial read back: numerals denote their numbers, the written form of a term
is a written term that denotes it, and the terms of a trinomial are without fault. A single term
comes back as well, also one of a power that an equation may not hold, which is then named again.
-/

namespace Parabola.Equation

/-! Numerals -/

theorem digitChar_digit : ∀ d < 10,
    (Text.digitChar d).isDigit = true ∧ Text.digitValue (Text.digitChar d) = d := by decide

theorem runValue_append (value : Nat) (run more : List Char) :
    runValue value (run ++ more) = runValue (runValue value run) more := by
  simp only [runValue, List.foldl_append]

theorem natDigits_ne_nil (n : Nat) : Text.natDigits n ≠ [] := by
  rw [Text.natDigits]
  split <;> simp

theorem natDigits_digits (n : Nat) : ∀ c ∈ Text.natDigits n, c.isDigit = true := by
  induction n using Nat.strongRecOn with
  | ind n ih =>
    rw [Text.natDigits]
    split
    · next small => simpa using (digitChar_digit n small).1
    · next large =>
      intro c member
      rcases List.mem_append.mp member with front | last
      · exact ih (n / 10) (by omega) c front
      · rw [List.mem_singleton.mp last]
        exact (digitChar_digit (n % 10) (by omega)).1

theorem natDigits_value (n : Nat) : runValue 0 (Text.natDigits n) = n := by
  -- A numeral grows at its end, so the number without its last digit is the smaller one.
  induction n using Nat.strongRecOn with
  | ind n ih =>
    rw [Text.natDigits]
    split
    · next small => simp [(digitChar_digit n small).2]
    · next large =>
      rw [runValue_append, ih (n / 10) (by omega), runValue_cons, runValue_nil,
        (digitChar_digit (n % 10) (by omega)).2]
      omega

def Digits.ofNat (n : Nat) : Digits := ⟨Text.natDigits n, natDigits_ne_nil n, natDigits_digits n⟩

@[simp] theorem Digits.value_ofNat (n : Nat) : (Digits.ofNat n).value = n := natDigits_value n

theorem intDigits_eq (n : Int) :
    Text.intDigits n = (if n < 0 then ['-'] else []) ++ Text.natDigits n.natAbs := by
  unfold Text.intDigits
  split <;> rfl

/-! Terms -/

/-- A magnitude before the unknown, where a one is left out. -/
def shownFactor (magnitude : Nat) : Option Digits :=
  if magnitude = 1 then none else some (.ofNat magnitude)

@[simp] theorem factorValue_shown (magnitude : Nat) :
    factorValue (shownFactor magnitude) = magnitude := by
  unfold shownFactor
  split
  · next one => exact one.symm
  · simp [factorValue]

def shownBody (magnitude exponent : Nat) : Body :=
  if exponent = 0 then .constant (.ofNat magnitude)
  else if exponent = 1 then .linear (shownFactor magnitude)
  else .power (shownFactor magnitude) (.ofNat exponent)

theorem shownBody_magnitude (magnitude exponent : Nat) :
    (shownBody magnitude exponent).magnitude = magnitude := by
  unfold shownBody
  split
  · simp [Body.magnitude, Body.factor, factorValue]
  · split <;> simp [Body.magnitude, Body.factor]

theorem shownBody_exponent (magnitude exponent : Nat) :
    (shownBody magnitude exponent).exponent = exponent := by
  unfold shownBody
  split
  · next zero => simp [Body.exponent, zero]
  · split
    · next one => simp [Body.exponent, one]
    · simp [Body.exponent]

theorem shownBody_chars (magnitude exponent : Nat) :
    (shownBody magnitude exponent).chars =
      if exponent = 0 then Text.natDigits magnitude
      else factorChars (shownFactor magnitude) ++
        if exponent = 1 then [Term.letter]
        else Term.letter :: Term.caret :: Text.natDigits exponent := by
  unfold shownBody
  split
  · simp [Digits.ofNat]
  · split <;> simp [Digits.ofNat]

/-- A term as it is shown, where `lead` stands before a coefficient that needs no minus sign. -/
def shown (lead : Sign) (term : Term) : Written where
  sign := if term.coefficient.val < 0 then .minus else lead
  body := shownBody term.coefficient.val.natAbs term.exponent.val.toNat

theorem shown_denotes {lead : Sign} {term : Term} (natural : 0 ≤ term.exponent.val)
    (notMinus : lead ≠ .minus) : (shown lead term).Denotes term := by
  constructor
  · simp only [Written.coefficient, shown, shownBody_magnitude]
    split
    · simp only [Sign.apply]
      omega
    · have unsigned : lead.apply term.coefficient.val.natAbs = term.coefficient.val.natAbs := by
        cases lead with
        | minus => exact absurd rfl notMinus
        | omitted => rfl
        | plus => rfl
      rw [unsigned]
      omega
  · simp only [Written.exponent, shown, shownBody_exponent]
    omega

theorem termFactor_chars (coefficient : Signed32) :
    Term.factorChars coefficient = (if coefficient.val < 0 then ['-'] else []) ++
      factorChars (shownFactor coefficient.val.natAbs) := by
  unfold Term.factorChars
  split
  · next one => simp [one, shownFactor]
  · next notOne =>
    split
    · next minusOne => simp [minusOne, shownFactor]
    · next notMinusOne =>
      have large : coefficient.val.natAbs ≠ 1 := by omega
      rw [intDigits_eq, shownFactor, if_neg large]
      rfl

-- Behind its own minus sign, or behind the sign that leads it, a shown term is the written form.
theorem shown_chars {lead : Sign} {term : Term} (natural : 0 ≤ term.exponent.val) :
    (shown lead term).chars =
      (if term.coefficient.val < 0 then [] else lead.chars) ++ term.chars := by
  have sign : (shown lead term).sign.chars =
      (if term.coefficient.val < 0 then [] else lead.chars) ++
        (if term.coefficient.val < 0 then ['-'] else []) := by
    unfold shown
    split <;> simp [Sign.chars]
  have body : (if term.coefficient.val < 0 then ['-'] else []) ++ (shown lead term).body.chars =
      term.chars := by
    obtain ⟨exponent, same⟩ := Int.eq_ofNat_of_zero_le natural
    have notNegative : ¬ ((exponent : Int) < 0) := by omega
    simp only [shown, shownBody_chars, same, Int.toNat_natCast, Term.chars, Int.natCast_eq_zero]
    by_cases zero : exponent = 0
    · simp [zero, intDigits_eq]
    · have one : (exponent : Int) = 1 ↔ exponent = 1 := by omega
      simp [zero, one, termFactor_chars, Term.powerChars, same, intDigits_eq, notNegative]
  rw [Written.chars, sign, List.append_assoc, body]

/-! Trinomials -/

def shownLater (coefficient : Signed32) (degree : Degree) : List Written :=
  if coefficient.val = 0 then [] else [shown .plus (.ofDegree coefficient degree)]

def shownTrinomial (t : Trinomial) : List Written :=
  [shown .omitted (.ofDegree t.a .square)] ++ shownLater t.b .linear ++ shownLater t.c .constant

theorem ofDegree_natural (coefficient : Signed32) (degree : Degree) :
    0 ≤ (Term.ofDegree coefficient degree).exponent.val := by
  rw [Term.ofDegree, degree_exponent_val]
  exact Int.natCast_nonneg _

theorem written_shownLater (coefficient : Signed32) (degree : Degree) :
    written (shownLater coefficient degree) =
      Trinomial.laterChars (.ofDegree coefficient degree) := by
  unfold shownLater Trinomial.laterChars
  by_cases zero : coefficient.val = 0
  · simp [zero, Term.ofDegree]
  · rw [if_neg zero, written_cons, written_nil, List.append_nil,
      shown_chars (ofDegree_natural coefficient degree)]
    by_cases negative : coefficient.val < 0
    · have notPositive : ¬ 0 < coefficient.val := by omega
      simp [Term.ofDegree, zero, negative, notPositive]
    · have positive : 0 < coefficient.val := by omega
      simp [Term.ofDegree, zero, negative, positive, Sign.chars]

theorem written_shownTrinomial (t : Trinomial) : written (shownTrinomial t) = t.chars := by
  simp [shownTrinomial, written_shownLater, Trinomial.chars,
    shown_chars (ofDegree_natural t.a .square), Sign.chars]

-- A term of a power that has no sum yet is without fault and is the whole sum.
theorem faultless_add {before : List Written} {w : Written} {coefficient : Signed32}
    {degree : Degree} (good : Faultless before) (leads : w.sign = .omitted → before = [])
    (denotes : w.Denotes (.ofDegree coefficient degree)) (fresh : total degree.toNat before = 0) :
    Faultless (before ++ [w]) ∧ ∀ exponent, total exponent (before ++ [w]) =
      total exponent before + if degree.toNat = exponent then coefficient.val else 0 := by
  have power : w.exponent = degree.toNat := by
    have value := (degree_exponent_val degree).symm.trans denotes.2
    omega
  have same : coefficient.val = w.coefficient := denotes.1
  have inRange : InRange coefficient.val := in_range_iff.mpr ⟨coefficient, rfl⟩
  have grown : ∀ exponent, total exponent (before ++ [w]) =
      total exponent before + if degree.toNat = exponent then coefficient.val else 0 := by
    intro exponent
    rw [total_append, total_single, power, same]
  refine ⟨faultless_snoc good leads (same ▸ inRange) ?_ ?_, grown⟩
  · rw [power]
    cases degree <;> decide
  · rw [grown, power, if_pos rfl, fresh, Int.zero_add]
    exact inRange

theorem faultless_shownLater {before : List Written} (coefficient : Signed32) (degree : Degree)
    (good : Faultless before) (fresh : total degree.toNat before = 0) :
    Faultless (before ++ shownLater coefficient degree) ∧
      ∀ exponent, total exponent (before ++ shownLater coefficient degree) =
        total exponent before + if degree.toNat = exponent then coefficient.val else 0 := by
  unfold shownLater
  split
  · next zero => simpa [zero] using good
  · refine faultless_add good ?_ (shown_denotes (ofDegree_natural _ _) (by decide)) fresh
    unfold shown
    split <;> simp

theorem shownTrinomial_faultless (t : Trinomial) :
    Faultless (shownTrinomial t) ∧ Totals t (shownTrinomial t) := by
  obtain ⟨square, squareTotal⟩ := faultless_add (w := shown .omitted (.ofDegree t.a .square))
    faultless_nil (fun _ => rfl) (shown_denotes (ofDegree_natural _ _) (by decide)) rfl
  obtain ⟨linear, linearTotal⟩ := faultless_shownLater t.b .linear square
    (by rw [squareTotal]; rfl)
  obtain ⟨constant, constantTotal⟩ := faultless_shownLater t.c .constant linear
    (by rw [linearTotal, squareTotal]; rfl)
  have sums : ∀ exponent, total exponent (shownTrinomial t) =
      total exponent [] + (if Degree.square.toNat = exponent then t.a.val else 0) +
        (if Degree.linear.toNat = exponent then t.b.val else 0) +
        if Degree.constant.toNat = exponent then t.c.val else 0 := by
    intro exponent
    rw [← squareTotal, ← linearTotal, ← constantTotal]
    rfl
  refine ⟨constant, ?_, ?_, ?_⟩ <;> simp [sums, Degree.toNat]

/-! Normal forms -/

theorem symbols_plain : ∀ c ∈ symbols, Text.Plain c := by
  have checked : (symbols.all fun c => decide (Text.Plain c)) = true := by decide +kernel
  simpa using checked

theorem written_normal (ws : List Written) : Text.normalChars (written ws) = written ws :=
  Text.normalChars_plain fun c member => symbols_plain c (written_symbols ws c member)

theorem normalChars_text (t : Trinomial) :
    Text.normalChars t.text.toList = written (shownTrinomial t) := by
  rw [Trinomial.text, String.toList_ofList, ← written_shownTrinomial, written_normal]

/-- The written form of a trinomial is in normal form and is read as that trinomial, unless its
square vanishes. So reading what was read and shown gives the same again. -/
theorem parse_text (t : Trinomial) :
    Text.normalize t.text = t.text ∧
      parse t.text = (if t.a.val = 0 then .error .notQuadratic else .ok t) ∧
      Trinomial.ofText t.text = (if t.a.val = 0 then .error .notQuadratic else .ok t) ∧
      ∀ raw, parse raw = .ok t → parse t.text = .ok t := by
  obtain ⟨good, totals⟩ := shownTrinomial_faultless t
  have reading : parse t.text = (readNormal (written (shownTrinomial t))).outcome := by
    rw [← normalChars_text]
    rfl
  have shownRead : parse t.text = if t.a.val = 0 then .error .notQuadratic else .ok t := by
    rw [reading]
    by_cases zero : t.a.val = 0
    · rcases readNormal_written good with ⟨-, refused⟩ | ⟨square, -⟩
      · rw [if_pos zero, refused]
      · exact absurd (totals.1.symm.trans zero) square
    · rw [if_neg zero]
      exact readNormal_ok good (fun vanishes => zero (totals.1.trans vanishes)) totals
  refine ⟨?_, shownRead, shownRead, ?_⟩
  · rw [Text.normalize, normalChars_text, written_shownTrinomial]
    rfl
  · intro raw accepted
    obtain ⟨ws, -, -, square, resultTotals⟩ := readNormal_ok_iff.mp accepted
    rw [shownRead, if_neg (fun zero => square (resultTotals.1.symm.trans zero))]

/-- The least coefficient survives although its magnitude needs 32 bits, and a unit that is left
out comes back. -/
theorem parse_text_least :
    let t : Trinomial := ⟨.minusOne, .one, ⟨-2147483648, by decide, by decide⟩⟩
    t.text = "-x^2+x-2147483648" ∧ parse "-X^2 + x - 2147483647 - 1" = .ok t ∧
      parse t.text = .ok t := by
  have read : parse "-X^2 + x - 2147483647 - 1" =
      .ok ⟨.minusOne, .one, ⟨-2147483648, by decide, by decide⟩⟩ := by decide +kernel
  exact ⟨by decide +kernel, read, (parse_text _).2.2.2 _ read⟩

/-! Single terms -/

section SingleTerm

variable {term : Term}

theorem shown_single (natural : 0 ≤ term.exponent.val) :
    (shown .omitted term).chars = term.text.toList := by
  rw [shown_chars natural, Term.text, String.toList_ofList]
  simp [Sign.chars]

theorem readTerm_text (natural : 0 ≤ term.exponent.val) :
    readTerm true (.start term.text.toList) = .ok (term, ⟨[], term.text.toList.length⟩) := by
  have denotes := shown_denotes natural (show Sign.omitted ≠ .minus by decide)
  have ends : (shown .omitted term).Ends [] := not_ahead_nil _
  have read : readTerm true ⟨(shown .omitted term).chars ++ [], 0⟩ = _ :=
    readTerm_written 0 (fun _ => rfl) ends denotes
  rwa [shown_single natural, List.append_nil, Nat.zero_add] at read

theorem parse_high_text (high : 3 ≤ term.exponent.val) :
    parse term.text = .error (.invalidExponent term.text) := by
  have natural : 0 ≤ term.exponent.val := by omega
  have denotes := shown_denotes natural (show Sign.omitted ≠ .minus by decide)
  have power : 3 ≤ (shown .omitted term).exponent := by
    have value := denotes.2
    omega
  have single : written [shown .omitted term] = term.text.toList := by
    rw [written_cons, written_nil, List.append_nil, shown_single natural]
  have completed : CompletedAfter (written [shown .omitted term]) [] (shown .omitted term) term :=
    ⟨faultless_nil, fun _ => rfl, ⟨[], by simp, not_ahead_nil _⟩, denotes⟩
  rw [parse, read, ← single, written_normal]
  exact invalid_exponent_iff.mpr ⟨[], _, term, completed, power, rfl⟩

end SingleTerm

/-- The written form of every term whose exponent is not negative is read as that term, to its end.
So different terms have different written forms, and a term that an error names is refused under
the same name. -/
theorem term_text_reads_back :
    (∀ term : Term, 0 ≤ term.exponent.val →
      readTerm true (.start term.text.toList) = .ok (term, ⟨[], term.text.toList.length⟩)) ∧
    Set.InjOn Term.text {term | 0 ≤ term.exponent.val} ∧
    ∀ raw text, parse raw = .error (.invalidExponent text) →
      parse text = .error (.invalidExponent text) := by
  refine ⟨fun term => readTerm_text, ?_, ?_⟩
  · intro term natural other otherNatural same
    have read := readTerm_text natural
    rw [same, readTerm_text otherNatural] at read
    cases read
    rfl
  · intro raw text refused
    obtain ⟨ws, w, term, completed, high, rfl⟩ := invalid_exponent_iff.mp refused
    have value := completed.denotes.2
    exact parse_high_text (by omega)

/-- The least coefficient and the greatest exponent, and a unit that only a constant shows. -/
theorem term_text_reads_back_least :
    let least : Term := ⟨⟨-2147483648, by decide, by decide⟩, ⟨2147483647, by decide, by decide⟩⟩
    let unit : Term := ⟨.minusOne, .zero⟩
    readTerm true (.start "-2147483648x^2147483647".toList) = .ok (least, ⟨[], 23⟩) ∧
      readTerm true (.start "-1".toList) = .ok (unit, ⟨[], 2⟩) ∧
      parse "x^2 - 2147483648x^2147483647 = 0" =
        .error (.invalidExponent "-2147483648x^2147483647") ∧
      parse "-2147483648x^2147483647" = .error (.invalidExponent "-2147483648x^2147483647") := by
  intro least unit
  obtain ⟨reads, -, reproduced⟩ := term_text_reads_back
  have text : least.text = "-2147483648x^2147483647" := by decide +kernel
  have unitText : unit.text = "-1" := by decide +kernel
  have leastRead := reads least (by decide)
  have unitRead := reads unit (by decide)
  rw [text] at leastRead
  rw [unitText] at unitRead
  have refused : parse "x^2 - 2147483648x^2147483647 = 0" =
      .error (.invalidExponent "-2147483648x^2147483647") := by decide +kernel
  exact ⟨leastRead, unitRead, refused, reproduced _ _ refused⟩

end Parabola.Equation
