import FrameHost.Origin.LabelTable
import FrameHost.Text.Codes

/-!
# Labels

What the characters of a label have to obey among each other: no mark comes first, the two
characters that join and part letters without being seen stand only where they matter, and in a name
with text that runs from right to left every label runs in one direction.
-/

namespace FrameHost.Origin

open Text (inRanges ranges)

/-! ## Marks and joiners -/

/-- The ranges of marks. -/
def marks : List (Nat × Nat) := ranges markCodes

/-- The ranges of signs that join the letters around them. -/
def viramas : List (Nat × Nat) := ranges viramaCodes

/-- The ranges of letters that join the letter after them. -/
def joinsNext : List (Nat × Nat) := ranges joinsLeftCodes ++ ranges joinsBothCodes

/-- The ranges of letters that join the letter before them. -/
def joinsPrevious : List (Nat × Nat) := ranges joinsRightCodes ++ ranges joinsBothCodes

/-- The ranges of characters that do not count when letters join. -/
def joinsThrough : List (Nat × Nat) := ranges joinsThroughCodes

/-- The character that parts letters. -/
def nonJoiner : Char := '\u200c'

/-- The character that joins letters. -/
def joiner : Char := '\u200d'

/-- Whether a character is in one of the ranges, after those that do not count. -/
def reaches (rs : List (Nat × Nat)) (cs : List Char) : Bool :=
  match cs.dropWhile (inRanges joinsThrough) with
  | [] => false
  | c :: _ => inRanges rs c

/-- Whether a character can stand between two texts, the one before it reversed. -/
def fits (before : List Char) (c : Char) (after : List Char) : Bool :=
  let afterVirama := (before.head?.map (inRanges viramas)).getD false
  if c = joiner then afterVirama
  else if c = nonJoiner then
    afterVirama || (reaches joinsNext before && reaches joinsPrevious after)
  else true

/-- Whether every character of a text can stand in it, given the reversed text before it. -/
def allFit (before : List Char) : List Char → Bool
  | [] => true
  | c :: cs => fits before c cs && allFit (c :: before) cs

/-- Whether a label has no mark in front and joins letters only where it matters. -/
def isWellJoined (label : List Char) : Bool :=
  !(label.head?.map (inRanges marks)).getD false && allFit [] label

/-! ## Directions -/

/-- How a character runs. -/
inductive Direction where
  | leftToRight
  | rightToLeft
  | europeanNumber
  | arabicNumber
  | nonspacing
  | neutral
  /-- It parts runs of text. -/
  | separator
deriving DecidableEq, Repr

/-- The ranges of the characters that do not run from left to right. -/
def directions : List ((Nat × Nat) × Direction) :=
  let rows (lines : List String) (d : Direction) := (ranges lines).map fun r => (r, d)
  rows rightToLeftCodes .rightToLeft ++ rows arabicLetterCodes .rightToLeft ++
    rows arabicNumberCodes .arabicNumber ++ rows europeanNumberCodes .europeanNumber ++
    rows nonspacingCodes .nonspacing ++ rows neutralCodes .neutral ++ rows separatorCodes .separator

/-- How a character runs. -/
def direction (c : Char) : Direction :=
  match directions.find? fun row => row.1.1 ≤ c.toNat && c.toNat ≤ row.1.2 with
  | some row => row.2
  | none => .leftToRight

/-- Whether a text makes its name one that runs from right to left. -/
def runsLeft (label : List Char) : Bool :=
  label.any fun c => direction c = .rightToLeft || direction c = .arabicNumber

/-- Whether a label runs in one direction: a first letter sets it, the others keep it, and a letter
or digit ends it. -/
def isDirected (label : List Char) : Bool :=
  let ds := label.map direction
  -- Marks at the end of a label do not count.
  let last := (ds.reverse.dropWhile (· = .nonspacing)).head?
  match ds with
  | [] => true
  | .leftToRight :: _ =>
    ds.all (fun d => d ∉ [.rightToLeft, .arabicNumber, .separator]) &&
      (last = some .leftToRight || last = some .europeanNumber)
  | .rightToLeft :: _ =>
    ds.all (fun d => d ∉ [.leftToRight, .separator]) &&
      (last = some .rightToLeft || last = some .europeanNumber || last = some .arabicNumber) &&
      !(ds.contains .europeanNumber && ds.contains .arabicNumber)
  | _ => false

end FrameHost.Origin
