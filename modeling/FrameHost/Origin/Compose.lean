import FrameHost.Origin.ComposeTable
import FrameHost.Text.Codes

/-!
# Composed text

One text can be written with composed characters or with marks after plain ones. Here it is brought
into the form in which it is compared: everything is taken apart, the marks are put in order, and
what can be composed is composed again.
-/

namespace FrameHost.Origin

open Text (hexNumber)

/-! ## Tables -/

/-- The composed characters with their two parts. -/
def compositions : List (Nat × Nat × Nat) :=
  (Text.entries composedCodes).filterMap fun row =>
    match row.2 with
    | [a, b] => some (hexNumber row.1, a, b)
    | _ => none

/-- The ranges of marks with their places in the order. -/
def markRanges : List ((Nat × Nat) × Nat) :=
  (Text.entries markOrders).filterMap fun row => row.2.head?.map fun n => (Text.range row.1, n)

/-- The place of a code point in the order of marks; what is no mark has place zero. -/
def markOrder (n : Nat) : Nat :=
  match markRanges.find? fun row => row.1.1 ≤ n && n ≤ row.1.2 with
  | some row => row.2
  | none => 0

/-! ## Syllables

The Korean syllables are composed by rule: of a first consonant, a vowel and sometimes a last
consonant. -/

/-- The number of the syllables that differ in their last consonant only. -/
def lastConsonants : Nat := 28

/-- The number of syllables with one first consonant. -/
def rhymes : Nat := 21 * lastConsonants

/-- The parts of a code point that is a syllable: of its last consonant, or of its vowel. -/
def syllableParts? (n : Nat) : Option (Nat × Nat) :=
  if 0xac00 ≤ n ∧ n < 0xac00 + 19 * rhymes then
    let i := n - 0xac00
    if i % lastConsonants = 0 then some (0x1100 + i / rhymes, 0x1161 + i % rhymes / lastConsonants)
    else some (n - i % lastConsonants, 0x11a7 + i % lastConsonants)
  else none

/-- The syllable with the given parts. -/
def syllable? (a b : Nat) : Option Nat :=
  if 0x1100 ≤ a ∧ a < 0x1113 ∧ 0x1161 ≤ b ∧ b < 0x1176 then
    some (0xac00 + (a - 0x1100) * rhymes + (b - 0x1161) * lastConsonants)
  else if 0xac00 ≤ a ∧ a < 0xac00 + 19 * rhymes ∧ (a - 0xac00) % lastConsonants = 0 ∧ 0x11a7 < b ∧
      b < 0x11c3 then
    some (a + (b - 0x11a7))
  else none

/-! ## Taking apart -/

/-- The two parts of a code point that is composed. -/
def parts? (n : Nat) : Option (Nat × Nat) :=
  match compositions.find? fun row => row.1 = n with
  | some row => some row.2
  | none => syllableParts? n

/-- The longest chain of composed characters, each the first part of the next one. -/
def nesting : Nat := 4

/-- A code point taken apart, as deep as `depth`. -/
def takeApart : (depth : Nat) → Nat → List Nat
  | 0, n => [n]
  | depth + 1, n =>
    match parts? n with
    | none => [n]
    | some (a, b) => takeApart depth a ++ takeApart depth b

/-- Puts a mark in its place among the marks before it, which are in order; the text is reversed. -/
def insertMark (order n : Nat) : List Nat → List Nat
  | [] => [n]
  | m :: ms => if order < markOrder m then m :: insertMark order n ms else n :: m :: ms

/-- Adds a code point to a reversed text whose marks are in order. -/
def addOrdered (reversed : List Nat) (n : Nat) : List Nat :=
  match markOrder n with
  | 0 => n :: reversed
  | order => insertMark order n reversed

/-- A text taken apart, with its marks in order. -/
def decomposed (ns : List Nat) : List Nat :=
  ((ns.flatMap (takeApart nesting)).foldl addOrdered []).reverse

/-! ## Composing -/

/-- The composed code point with the given parts. -/
def composed? (a b : Nat) : Option Nat :=
  match compositions.find? fun row => row.2 = (a, b) with
  | some row => some row.1
  | none => syllable? a b

/-- A text that is being composed: what is done, then the character that marks are composed with,
then the marks after it, all reversed. -/
structure Composer where
  done : List Nat := []
  starter : Option Nat := none
  marks : List Nat := []

/-- Adds a code point. Between it and the starter there must be no mark that comes as late in the
order. -/
def Composer.add (c : Composer) (n : Nat) : Composer :=
  let order := markOrder n
  let blocked :=
    match c.marks with
    | [] => false
    | m :: _ => order = 0 || order ≤ markOrder m
  match if blocked then none else c.starter.bind fun s => composed? s n with
  | some s => { c with starter := some s }
  | none =>
    if order = 0 then { done := c.marks ++ c.starter.toList ++ c.done, starter := some n }
    else { c with marks := n :: c.marks }

/-- The text of a composer. -/
def Composer.text (c : Composer) : List Nat := (c.marks ++ c.starter.toList ++ c.done).reverse

/-- A text in its composed form. -/
def compose (cs : List Char) : List Char :=
  ((decomposed (cs.map Char.toNat)).foldl Composer.add {}).text.map Char.ofNat

end FrameHost.Origin
