import FrameHost.Text.Split

/-!
# Tables of code points

A table of code points is written as lines of words, with all numbers in hexadecimal. A word is a
code point or a range `a-b`; after `>` it may have a value, a sequence of numbers with `.` between
them.
-/

namespace FrameHost.Text

/-- The number that hexadecimal digits write. -/
def hexNumber (cs : List Char) : Nat := (numeral? 16 0 cs).getD 0

/-- The words of a table. -/
def words (lines : List String) : List (List Char) :=
  lines.flatMap fun line => split ' ' line.toList

/-- The ends of a range. -/
def range (word : List Char) : Nat × Nat :=
  match cut '-' word with
  | (a, none) => (hexNumber a, hexNumber a)
  | (a, some b) => (hexNumber a, hexNumber b)

/-- The ranges of a table. -/
def ranges (lines : List String) : List (Nat × Nat) := (words lines).map range

/-- Whether a character is in one of the ranges. -/
def inRanges (rs : List (Nat × Nat)) (c : Char) : Bool :=
  rs.any fun r => r.1 ≤ c.toNat && c.toNat ≤ r.2

/-- A word of a table with its value. -/
def entry (word : List Char) : List Char × List Nat :=
  let (key, value) := cut '>' word
  (key, (split '.' (value.getD [])).map hexNumber)

/-- The words of a table with their values. -/
def entries (lines : List String) : List (List Char × List Nat) := (words lines).map entry

end FrameHost.Text
