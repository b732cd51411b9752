import FrameHost.Origin.Compose
import FrameHost.Origin.DomainTable
import FrameHost.Origin.Label
import FrameHost.Origin.Punycode

/-!
# Domain names

The form in which a domain name is compared: ASCII, in lower case. The characters of a name are
mapped and composed, and each label that is not ASCII then is checked and written with ASCII
characters. A label that begins with `xn--` is in that form already and has to be one that is
written so.
-/

namespace FrameHost.Origin

open Text (hexNumber inRanges ranges split)

/-! ## Mapping -/

/-- Code points that are mapped alike: `count` of them, `step` apart from `first` on. -/
structure MappedRun where
  first : Nat
  count : Nat
  step : Nat
  /-- What the first one is written with; the last code point grows with the others. -/
  target : List Nat
deriving Repr

/-- The run that a word of the table writes. -/
def MappedRun.ofEntry (row : List Char × List Nat) : MappedRun :=
  match Text.cut '+' row.1, Text.cut '/' row.1 with
  | (a, some n), _ => ⟨hexNumber a, hexNumber n, 1, row.2⟩
  | _, (a, some n) => ⟨hexNumber a, hexNumber n, 2, row.2⟩
  | (a, none), _ => ⟨hexNumber a, 1, 1, row.2⟩

/-- The runs of mapped code points. -/
def mappedRuns : List MappedRun := (Text.entries mappedCodes).map .ofEntry

/-- The ranges of code points that are left out. -/
def ignored : List (Nat × Nat) := ranges ignoredCodes

/-- The ranges of code points that cannot stand in a domain name. -/
def disallowed : List (Nat × Nat) := ranges disallowedCodes

/-- Whether a run has a code point. -/
def MappedRun.has (r : MappedRun) (n : Nat) : Bool :=
  r.first ≤ n && n < r.first + r.count * r.step && (n - r.first) % r.step = 0

/-- What a code point of a run is written with. -/
def MappedRun.image (r : MappedRun) (n : Nat) : List Nat :=
  match r.target with
  | [m] => [m + (n - r.first)]
  | ms => ms

/-- What a character of a domain name is written with, if it can stand there. -/
def mapChar? (c : Char) : Option (List Char) :=
  if inRanges disallowed c then none
  else if inRanges ignored c then some []
  else
    -- The characters without a run stay as they are.
    match mappedRuns.find? fun r => r.has c.toNat with
    | some r => some ((r.image c.toNat).map Char.ofNat)
    | none => some [c]

/-! ## Labels -/

/-- Whether every character is ASCII. -/
def isAscii (cs : List Char) : Bool := cs.all fun c => c.toNat < 0x80

/-- What a label that is written with ASCII characters begins with. -/
def asciiMark : List Char := ['x', 'n', '-', '-']

/-- The longest ASCII form, without its mark, that is read. -/
def longestForm : Nat := 2000

/-- The label that an ASCII form writes: it is one that mapping and composing leave alone, and not
itself ASCII. -/
def ofAscii? (form : List Char) : Option (List Char) :=
  if longestForm < form.length then none
  else
    match Punycode.decode? form with
    | none => none
    | some label =>
      if isAscii label || compose label ≠ label || asciiMark.isPrefixOf label ||
          label.any (fun c => mapChar? c ≠ some [c]) then none
      else some label

/-- A mapped label in the form in which it is checked. -/
def label? (cs : List Char) : Option (List Char) :=
  if asciiMark.isPrefixOf cs then ofAscii? (cs.drop asciiMark.length) else some cs

/-- The longest label, in characters, that is written with ASCII characters. -/
def longestLabel : Nat := 1000

/-- The ASCII form of a label. -/
def toAscii? (label : List Char) : Option (List Char) :=
  if isAscii label then some label
  else if longestLabel < label.length then none
  else some (asciiMark ++ Punycode.encode label)

/-! ## Names -/

/-- Whether an ASCII character cannot stand in a domain name. -/
def isForbidden (c : Char) : Bool :=
  c.toNat ≤ 0x20 || c.toNat = 0x7f ||
    c ∈ ['#', '%', '/', ':', '<', '>', '?', '@', '[', '\\', ']', '^', '|']

/-- The labels of a mapped name, checked. -/
def labels? (cs : List Char) : Option (List (List Char)) :=
  match (split '.' cs).mapM label? with
  | none => none
  | some labels =>
    let joined := labels.all fun label => isAscii label || isWellJoined label
    -- The direction matters only in a name with text that runs from right to left.
    let directed := !labels.any runsLeft || labels.all isDirected
    if joined && directed then some labels else none

/-- A name whose characters may be any, in ASCII. -/
def mappedToAscii? (cs : List Char) : Option (List Char) :=
  ((cs.mapM mapChar?).bind fun mapped => labels? (compose mapped.flatten)).bind fun labels =>
    (labels.mapM toAscii?).map fun forms => List.intercalate ['.'] forms

/-- Whether a name is its own ASCII form but for the case of its letters. -/
def isPlain (cs : List Char) : Bool :=
  isAscii cs && (split '.' (cs.map Char.toLower)).all fun label => !asciiMark.isPrefixOf label

/-- The normal form of a domain name. -/
def domainToAscii? (cs : List Char) : Option (List Char) :=
  -- A plain name is neither mapped nor checked.
  let form := if isPlain cs then some cs else mappedToAscii? cs
  (form.map fun form => form.map Char.toLower).filter fun form => !form.any isForbidden

end FrameHost.Origin
