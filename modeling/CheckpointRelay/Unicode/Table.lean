import CheckpointRelay.Text.Scan
import CheckpointRelay.Text.Search

/-!
# Tables of characters

Properties of characters come as tables, which are those of version 17 of Unicode. A table is a text of words between
blanks, in which hexadecimal digits write code points, and two of them with a dash between a range.
-/

namespace CheckpointRelay.Unicode

open Text

/-- The words of a table. -/
def words (table : String) : List (List Char) :=
  (parts (fun c => c = ' ' || c = '\n') table.toList).filter (· ≠ [])

/-- The code points from a first to a last one. -/
structure CodeRange where
  first : Nat
  last : Nat
  deriving DecidableEq, Repr

namespace CodeRange

/-- Whether a code point is in a range. -/
def contains (r : CodeRange) (n : Nat) : Bool :=
  r.first ≤ n && n ≤ r.last

/-- The range that a word writes, which may be of one code point. -/
def ofWord (word : List Char) : CodeRange :=
  match cut ['-'] word with
  | (first, some last) => ⟨numberOf 16 first, numberOf 16 last⟩
  | (only, none) => ⟨numberOf 16 only, numberOf 16 only⟩

end CodeRange

/-- A set of characters, as ranges. -/
structure CodeSet where
  ranges : List CodeRange

namespace CodeSet

/-- The set whose ranges a table writes. -/
def ofTable (table : String) : CodeSet :=
  ⟨(words table).map CodeRange.ofWord⟩

/-- Whether a character is in a set. -/
def contains (s : CodeSet) (c : Char) : Bool :=
  s.ranges.any (·.contains c.toNat)

end CodeSet

end CheckpointRelay.Unicode
