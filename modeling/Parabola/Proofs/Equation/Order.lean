import Mathlib.Data.List.Induction
import Parabola.Proofs.Equation.Display
import Parabola.Proofs.Equation.Refusal

/-!
The order of terms. Terms that each have a sign can stand in any order, and their totals do not depend
on it, so neither does the result. Only whether a sum leaves its range on the way may depend on the
order, and it does not where the magnitudes stay in range together or the total leaves it anyway.
-/

namespace Parabola.Equation

/-- A term that may stand anywhere: it has a sign, and its numbers are such as an equation may
hold. -/
structure Addend (w : Written) : Prop where
  signed : w.sign ≠ .omitted
  coefficient : InRange w.coefficient
  exponent : w.exponent ≤ 2

structure TermText where
  text : String
  term : Written
  spells : Text.normalChars text.toList = term.chars
  addend : Addend term

def joined (texts : List TermText) : String := String.join (texts.map TermText.text)

/-- The sum of the magnitudes of the coefficients of one exponent. -/
def weight (exponent : Nat) : List Written → Nat
  | [] => 0
  | w :: ws => (if w.exponent = exponent then w.coefficient.natAbs else 0) + weight exponent ws

def Overflows (raw : String) : Prop :=
  ∃ exponent, parse raw = .error (.coefficientOverflow exponent)

theorem Addend.leads {w : Written} (addend : Addend w) {before : List Written} :
    w.sign = .omitted → before = [] :=
  fun omitted => absurd omitted addend.signed

/-! Sums in any order -/

theorem total_perm {left right : List Written} (order : left.Perm right) (exponent : Nat) :
    total exponent left = total exponent right := by
  induction order with
  | nil => rfl
  | cons w order ih => simp only [total, ih]
  | swap v w rest =>
    simp only [total]
    omega
  | trans first second ihFirst ihSecond => exact ihFirst.trans ihSecond

theorem weight_perm {left right : List Written} (order : left.Perm right) (exponent : Nat) :
    weight exponent left = weight exponent right := by
  induction order with
  | nil => rfl
  | cons w order ih => simp only [weight, ih]
  | swap v w rest =>
    simp only [weight]
    omega
  | trans first second ihFirst ihSecond => exact ihFirst.trans ihSecond

theorem abs_total_le (exponent : Nat) (ws : List Written) :
    (total exponent ws).natAbs ≤ weight exponent ws := by
  induction ws with
  | nil => exact Nat.zero_le _
  | cons w ws ih =>
    rw [weight, total]
    split <;> omega

theorem weight_front_le {before ws : List Written} (front : before <+: ws) (exponent : Nat) :
    weight exponent before ≤ weight exponent ws := by
  obtain ⟨later, rfl⟩ := front
  induction before with
  | nil => exact Nat.zero_le _
  | cons w before ih =>
    rw [List.cons_append, weight, weight]
    omega

/-! Where a sum leaves its range -/

section Addends

variable {ws : List Written} (addends : ∀ w ∈ ws, Addend w)
include addends

theorem faultless_of_sums
    (sums : ∀ exponent before, before <+: ws → InRange (total exponent before)) : Faultless ws where
  signs w member := (addends w (List.mem_of_mem_tail member)).signed
  coefficients w member := (addends w member).coefficient
  exponents w member := (addends w member).exponent
  sums := sums

theorem faultless_of_weight (light : ∀ exponent, weight exponent ws ≤ 2147483647) :
    Faultless ws := by
  apply faultless_of_sums addends
  intro exponent before front
  have bounded := abs_total_le exponent before
  have grows := weight_front_le front exponent
  have limit := light exponent
  unfold InRange
  omega

-- The induction is on the terms from the left: until a sum leaves its range all are without fault.
theorem faultless_or_leaves : Faultless ws ∨
    ∃ before w later, ws = before ++ w :: later ∧ Faultless before ∧
      ¬ InRange (total w.exponent (before ++ [w])) := by
  induction ws using List.reverseRecOn with
  | nil => exact .inl faultless_nil
  | append_singleton ws w ih =>
    have last := addends w (by simp)
    rcases ih fun v member => addends v (by simp [member]) with
      good | ⟨before, v, later, split, good, leaves⟩
    · by_cases fits : InRange (total w.exponent (ws ++ [w]))
      · exact .inl (faultless_snoc good last.leads last.coefficient last.exponent fits)
      · exact .inr ⟨ws, w, [], rfl, good, fits⟩
    · exact .inr ⟨before, v, later ++ [w], by simp [split], good, leaves⟩

theorem overflow_iff : (∃ exponent, (readNormal (written ws)).outcome =
    .error (.coefficientOverflow exponent)) ↔ ¬ Faultless ws := by
  constructor
  · rintro ⟨exponent, refused⟩ good
    rcases readNormal_written good with ⟨-, read⟩ | ⟨-, t, read, -⟩
    · rw [read] at refused
      cases refused
    · rw [read] at refused
      cases refused
  · intro faulty
    rcases faultless_or_leaves addends with good | ⟨before, w, later, rfl, good, leaves⟩
    · exact absurd good faulty
    · have addend := addends w (by simp)
      have signed : ∀ v ∈ later, v.sign ≠ .omitted :=
        fun v member => (addends v (by simp [member])).signed
      obtain ⟨term, denotes⟩ := denotes_of_range addend.coefficient addend.exponent
      have completed : CompletedAfter (written (before ++ w :: later)) before w term :=
        ⟨good, addend.leads, ⟨written later, by simp, ends_before_last signed⟩, denotes⟩
      exact ⟨term.exponent,
        coefficient_overflow_iff.mpr ⟨before, w, term, completed, addend.exponent, leaves, rfl⟩⟩

end Addends

-- Without overflow the outcome is a matter of the totals.
theorem outcome_of_totals {ws vs : List Written} (good : Faultless ws) (otherGood : Faultless vs)
    (same : ∀ exponent, total exponent ws = total exponent vs) :
    (readNormal (written ws)).outcome = (readNormal (written vs)).outcome ∧
      ((∃ t, (readNormal (written ws)).outcome = .ok t) ∨
        (readNormal (written ws)).outcome = .error .notQuadratic) := by
  rcases readNormal_written good with ⟨vanishes, read⟩ | ⟨square, t, read, totals⟩
  · rcases readNormal_written otherGood with ⟨-, otherRead⟩ | ⟨otherSquare, -⟩
    · exact ⟨read.trans otherRead.symm, .inr read⟩
    · exact absurd ((same 2).symm.trans vanishes) otherSquare
  · rw [same, same, same] at totals
    rw [same] at square
    exact ⟨read.trans (readNormal_ok otherGood square totals).symm, .inl ⟨t, read⟩⟩

/-! Texts -/

theorem normalChars_joined (texts : List TermText) :
    Text.normalChars (joined texts).toList = written (texts.map TermText.term) := by
  induction texts with
  | nil => rfl
  | cons first texts ih =>
    rw [joined] at ih ⊢
    rw [List.map_cons, String.join_cons, String.toList_append, Text.normalChars_append, ih,
      first.spells, List.map_cons, written_cons]

theorem parse_joined (texts : List TermText) :
    parse (joined texts) = (readNormal (written (texts.map TermText.term))).outcome := by
  rw [parse, read, normalChars_joined]

theorem terms_addends (texts : List TermText) : ∀ w ∈ texts.map TermText.term, Addend w := by
  intro w member
  obtain ⟨text, -, rfl⟩ := List.mem_map.mp member
  exact text.addend

theorem overflows_joined_iff {texts : List TermText} :
    Overflows (joined texts) ↔ ¬ Faultless (texts.map TermText.term) := by
  rw [← overflow_iff (terms_addends texts), Overflows, parse_joined]

/-- Terms can be put in any other order: the result is the same trinomial, or the lack of a square,
both times, unless one of the readings stops at a sum out of range. That happens in no order where the
magnitudes of each exponent sum up to a number in range, and in every order where the total of an
exponent is out of range. -/
theorem term_order {left right : List TermText} (order : left.Perm right) :
    (¬ Overflows (joined left) → ¬ Overflows (joined right) →
      parse (joined left) = parse (joined right) ∧
        ((∃ t, parse (joined left) = .ok t) ∨ parse (joined left) = .error .notQuadratic)) ∧
    ((∀ exponent, weight exponent (left.map TermText.term) ≤ 2147483647) →
      ¬ Overflows (joined left) ∧ ¬ Overflows (joined right)) ∧
    (∀ exponent, ¬ InRange (total exponent (left.map TermText.term)) →
      Overflows (joined left) ∧ Overflows (joined right)) := by
  have terms := order.map TermText.term
  simp only [overflows_joined_iff, not_not, parse_joined]
  refine ⟨?_, ?_, ?_⟩
  · intro good otherGood
    exact outcome_of_totals good otherGood (total_perm terms)
  · intro light
    have otherLight : ∀ exponent, weight exponent (right.map TermText.term) ≤ 2147483647 := by
      intro exponent
      rw [← weight_perm terms]
      exact light exponent
    exact ⟨faultless_of_weight (terms_addends left) light,
      faultless_of_weight (terms_addends right) otherLight⟩
  · intro exponent outside
    constructor
    · intro good
      exact outside (good.sums exponent _ (List.prefix_refl _))
    · intro good
      rw [total_perm terms] at outside
      exact outside (good.sums exponent _ (List.prefix_refl _))

-- The same terms, of which one order leads over the limit and back.
example : (parse "+x^2+2147483647-1+1").isOk = true ∧
    (parse "+x^2+2147483647+1-1").isOk = false := by decide +kernel

def Digits.single (c : Char) (digit : c.isDigit = true) : Digits :=
  ⟨[c], List.cons_ne_nil _ _, by simpa using digit⟩

def squareText : TermText where
  text := "+x^2"
  term := ⟨.plus, .power none (.single '2' (by decide))⟩
  spells := by decide +kernel
  addend := ⟨by decide, by decide, by decide⟩

def linearText : TermText where
  text := " - 3X"
  term := ⟨.minus, .linear (some (.single '3' (by decide)))⟩
  spells := by decide +kernel
  addend := ⟨by decide, by decide, by decide⟩

def constantText : TermText where
  text := "+2"
  term := ⟨.plus, .constant (.single '2' (by decide))⟩
  spells := by decide +kernel
  addend := ⟨by decide, by decide, by decide⟩

/-- The constant moves to the front, and the magnitudes are far below the limit. -/
theorem term_order_moved :
    parse "+x^2 - 3X+2" = parse "+2+x^2 - 3X" ∧
      parse "+x^2 - 3X+2" = .ok ⟨.one, ⟨-3, by decide, by decide⟩, .two⟩ := by
  have order : ([squareText, linearText] ++ [constantText]).Perm
      ([constantText] ++ [squareText, linearText]) := List.perm_append_comm
  have light : ∀ exponent, weight exponent
      (([squareText, linearText] ++ [constantText]).map TermText.term) ≤ 2147483647 := by
    intro exponent
    simp only [List.cons_append, List.nil_append, List.map_cons, List.map_nil, weight]
    split <;> split <;> split <;> decide
  obtain ⟨calm, otherCalm⟩ := (term_order order).2.1 light
  exact ⟨((term_order order).1 calm otherCalm).1, by decide +kernel⟩

end Parabola.Equation
