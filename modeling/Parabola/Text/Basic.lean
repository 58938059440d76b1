/-!
Texts as bytes, decimal numerals, texts cut at a mark, and blank characters. Everything that is read
or written is UTF-8.
-/

namespace Parabola.Text

def toBytes (s : String) : List UInt8 := s.toUTF8.data.toList

def ofBytes? (bytes : List UInt8) : Option String := String.fromUTF8? ⟨bytes.toArray⟩

/-! Decimal numerals, without leading zeros and without a plus sign -/

def digitChar (d : Nat) : Char := Char.ofNat (48 + d)

def digitValue (c : Char) : Nat := c.toNat - 48

def natDigits (n : Nat) : List Char :=
  if n < 10 then [digitChar n] else natDigits (n / 10) ++ [digitChar (n % 10)]
termination_by n

def intDigits (n : Int) : List Char :=
  if n < 0 then '-' :: natDigits n.natAbs else natDigits n.natAbs

def natText (n : Nat) : String := String.ofList (natDigits n)

def intText (n : Int) : String := String.ofList (intDigits n)

/-! Texts cut at every occurrence of a mark -/

/-- The pieces of a text between the marks in it. There is always one more piece than there are
marks, and a piece may be empty. -/
def pieces (mark : Char) : List Char → List (List Char)
  | [] => [[]]
  | c :: rest =>
    if c = mark then [] :: pieces mark rest
    else
      match pieces mark rest with
      | [] => [[c]]
      | piece :: more => (c :: piece) :: more

theorem pieces_length (mark : Char) (s : List Char) :
    (pieces mark s).length = s.count mark + 1 := by
  induction s with
  | nil => rfl
  | cons c rest ih =>
    unfold pieces
    by_cases h : c = mark
    · simp [h, ih]
    · cases found : pieces mark rest with
      | nil => simp [found] at ih
      | cons piece more => simpa [h, found] using ih

theorem pieces_plain {mark : Char} {s : List Char} (plain : mark ∉ s) : pieces mark s = [s] := by
  induction s with
  | nil => rfl
  | cons c rest ih =>
    have other : c ≠ mark := fun same => plain (same ▸ List.mem_cons_self)
    rw [pieces, if_neg other, ih fun later => plain (List.mem_cons_of_mem c later)]

theorem pieces_append {mark : Char} {s : List Char} (plain : mark ∉ s) (rest : List Char) :
    pieces mark (s ++ mark :: rest) = s :: pieces mark rest := by
  induction s with
  | nil => rw [List.nil_append, pieces, if_pos rfl]
  | cons c s ih =>
    have other : c ≠ mark := fun same => plain (same ▸ List.mem_cons_self)
    rw [List.cons_append, pieces, if_neg other, ih fun later => plain (List.mem_cons_of_mem c later)]

/-! Classes of characters -/

/-- Closed ranges of code points, ascending and apart. -/
abbrev CodeRanges := List (Nat × Nat)

namespace CodeRanges

def covers (ranges : CodeRanges) (c : Char) : Bool :=
  ranges.any fun range => decide (range.1 ≤ c.toNat) && decide (c.toNat ≤ range.2)

end CodeRanges

/-! Blanks and their removal at the ends of a text -/

/-- The code points with the property White_Space. Zero-width characters and the byte order mark do not
have it. -/
def blankRanges : CodeRanges := [
  (0x09, 0x0D), (0x20, 0x20), (0x85, 0x85), (0xA0, 0xA0), (0x1680, 0x1680), (0x2000, 0x200A),
  (0x2028, 0x2029), (0x202F, 0x202F), (0x205F, 0x205F), (0x3000, 0x3000)]

def isBlank (c : Char) : Bool := blankRanges.covers c

def dropLeadingBlanks (s : List Char) : List Char := s.dropWhile isBlank

def dropTrailingBlanks (s : List Char) : List Char := (dropLeadingBlanks s.reverse).reverse

def trimmed (s : List Char) : List Char := dropTrailingBlanks (dropLeadingBlanks s)

def trim (s : String) : String := String.ofList (trimmed s.toList)

end Parabola.Text
