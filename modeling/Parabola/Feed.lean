/-!
Where bytes come from. A feed hands them out in chunks of any size and ends either in the regular
way or with a failed read; its lines do not depend on the chunks.
-/

namespace Parabola

inductive ReadError where
  | notFound
  | notADirectory
  | isADirectory
  | nameTooLong
  | nulInName
  | notUtf8
  | other (text : String)
deriving DecidableEq

namespace ReadError

def message : ReadError → String
  | notFound => "No such file or directory (os error 2)"
  | notADirectory => "Not a directory (os error 20)"
  | isADirectory => "Is a directory (os error 21)"
  | nameTooLong => "File name too long (os error 36)"
  | nulInName => "file name contained an unexpected NUL byte"
  | notUtf8 => "stream did not contain valid UTF-8"
  | other text => text

end ReadError

/-! Chunks -/

/-- The chunks that successive reads give, and the failure, if any, of the read after the last. -/
structure Feed where
  chunks : List (List UInt8)
  failure : Option ReadError
deriving DecidableEq

namespace Feed

def ofBytes (bytes : List UInt8) : Feed := ⟨[bytes], none⟩

def failing (error : ReadError) : Feed := ⟨[], some error⟩

def bytes (feed : Feed) : List UInt8 := feed.chunks.flatten

def cutEvery (size : Nat) (bytes : List UInt8) : List (List UInt8) :=
  match bytes with
  | [] => []
  | byte :: rest => (byte :: rest.take size) :: cutEvery size (rest.drop size)
termination_by bytes.length
decreasing_by simp only [List.length_drop, List.length_cons]; omega

/-- The same bytes and the same end in chunks of at most `largest` bytes, and of at least one. -/
def rechunk (largest : Nat) (feed : Feed) : Feed :=
  { feed with chunks := cutEvery (largest - 1) feed.bytes }

/-- A feed that gives at most its first `limit` bytes: the read after them fails, even where there
are no more bytes. A feed that ends before the limit is not affected. -/
def failAfter (limit : Nat) (error : ReadError) (feed : Feed) : Feed :=
  if limit ≤ feed.bytes.length then ⟨[feed.bytes.take limit], some error⟩ else feed

end Feed

/-!
The lines of a feed. A line is complete once its newline has come; what is left over at a regular
end is a last line if it is not empty, and is lost if a read failed.
-/

/-- Lines in the order in which they become complete, and what ends them. -/
inductive Lines where
  | line (bytes : List UInt8) (rest : Lines)
  | finished
  | failed (error : ReadError)
deriving DecidableEq, Inhabited

namespace Lines

def newline : UInt8 := 10

/-- What follows the last newline, at the end of the feed. -/
def ofEnd (held : List UInt8) (failure : Option ReadError) : Lines :=
  match failure with
  | some error => failed error
  | none => if held = [] then finished else line held.reverse finished

/-- Gathers lines over chunk borders; `held` is the line begun so far, the latest byte first. -/
def gather (failure : Option ReadError) (held : List UInt8) (chunks : List (List UInt8)) : Lines :=
  match chunks with
  | [] => ofEnd held failure
  | [] :: more => gather failure held more
  | (byte :: chunk) :: more =>
    if byte = newline then line held.reverse (gather failure [] (chunk :: more))
    else gather failure (byte :: held) (chunk :: more)
termination_by (chunks.length, chunks.flatten.length)

end Lines

namespace Feed

def lines (feed : Feed) : Lines := Lines.gather feed.failure [] feed.chunks

end Feed

end Parabola
