import Parabola.Equation.Reader
import Parabola.Log
import Parabola.Text.Normal

/-!
Reading a whole equation: terms are read one by one from the left and each is added to the sum of
its power at once, so the first thing wrong, whatever its kind, is the one reported.
-/

namespace Parabola.Equation

/-- The sum of the terms of each power, where there was such a term. -/
structure Sums where
  constant : Option Term
  linear : Option Term
  square : Option Term
deriving DecidableEq

namespace Sums

def empty : Sums := ⟨none, none, none⟩

def get (sums : Sums) : Degree → Option Term
  | .constant => sums.constant
  | .linear => sums.linear
  | .square => sums.square

def put (sums : Sums) (degree : Degree) (term : Term) : Sums :=
  match degree with
  | .constant => { sums with constant := some term }
  | .linear => { sums with linear := some term }
  | .square => { sums with square := some term }

def add (sums : Sums) (degree : Degree) (term : Term) : Except ParseError Sums :=
  match sums.get degree with
  | none => .ok (sums.put degree term)
  | some held =>
    match held.merge term with
    | .ok sum => .ok (sums.put degree sum)
    | .error .overflow => .error (.coefficientOverflow term.exponent)
    | .error error => .error (.merge error)

def coefficient (sums : Sums) (degree : Degree) : Signed32 :=
  match sums.get degree with
  | none => .zero
  | some term => term.coefficient

def trinomial (sums : Sums) : Except ParseError Trinomial :=
  if (sums.coefficient .square).val = 0 then .error .notQuadratic
  else .ok ⟨sums.coefficient .square, sums.coefficient .linear, sums.coefficient .constant⟩

end Sums

/-- What came of reading all terms, and the terms of a permitted power that were read, in order. -/
structure TermsRead where
  terms : List (Term × Degree)
  outcome : Except ParseError Sums

/-- Reads terms to the end of the text. Only where `first` holds may the next one lack its sign. -/
def readTerms (first : Bool) (sums : Sums) (cursor : Cursor) : TermsRead :=
  if cursor.rest = [] then ⟨[], .ok sums⟩
  else
    match taken : readTerm first cursor with
    | .error e => ⟨[], .error e⟩
    | .ok (term, next) =>
      match term.degree? with
      | none => ⟨[], .error (.invalidExponent term.text)⟩
      | some degree =>
        match sums.add degree term with
        | .error e => ⟨[(term, degree)], .error e⟩
        | .ok grown =>
          have : next.rest.length < cursor.rest.length := readTerm_advances taken
          let later := readTerms false grown next
          ⟨(term, degree) :: later.terms, later.outcome⟩
termination_by cursor.rest.length

structure Reading where
  outcome : Except ParseError Trinomial
  log : List Log.Record

def readNormal (chars : List Char) : Reading :=
  let read := readTerms true .empty (.start chars)
  let noted := read.terms.map fun (term, degree) => Log.Record.termRead term degree
  match read.outcome with
  | .error e => ⟨.error e, noted⟩
  | .ok sums =>
    match sums.trinomial with
    | .error e => ⟨.error e, noted⟩
    | .ok result => ⟨.ok result, noted ++ [.parsed (String.ofList chars) result]⟩

def read (raw : String) : Reading := readNormal (Text.normalChars raw.toList)

def parse (raw : String) : Except ParseError Trinomial := (read raw).outcome

-- Blanks and case do not matter, not even inside a number.
example : (parse "X^2 - 1 0x").toOption.map Trinomial.text = some "x^2-10x" := by decide +kernel

end Parabola.Equation

namespace Parabola.Trinomial

/-- The trinomial that a text, as an equation, comes down to. The written form is such a text. -/
def ofText (raw : String) : Except Equation.ParseError Trinomial := Equation.parse raw

end Parabola.Trinomial
