import FrameHost.Error
import FrameHost.Origin.Url
import FrameHost.Text.Blank

/-!
# Allow-lists

Before an application shows itself inside another page, the origin of that page has to be on the
application's allow-list. An entry is `*` for every origin, an origin, or a host for any scheme; a
`*` inside an entry stands for one label of a host name, or for any other text without `.`, `/` and
`:`.

An entry with a `*` inside is compiled before it is compared, and the engine that compiles it refuses
what gets too large. Such an entry allows nothing. How large an entry gets is the engine's own affair,
so what is said here of allow-lists holds for every `Engine`.
-/

namespace FrameHost.Origin

open Text (trim)

/-! ## Patterns -/

/-- A character in lower case, where that is an ASCII letter: the Kelvin sign and the long s count
as the letters that they fold to. -/
def foldCase (c : Char) : Char :=
  if c = '\u212a' then 'k' else if c = '\u017f' then 's' else c.toLower

/-- Whether a character can be part of what a `*` stands for. -/
def inLabel (c : Char) : Bool := c ≠ '.' && c ≠ '/' && c ≠ ':'

/-- Which prefixes of a text end a label that begins where a prefix of the row ends; `running` says
that a label is under way. -/
def labelRow (running : Bool) : (row : List Bool) → (text : List Char) → List Bool
  | f :: row, c :: cs =>
    let b := inLabel c && (f || running)
    b :: labelRow b row cs
  | _, _ => []

/-- The row of a pattern followed by `p`, from the row of the pattern. -/
def nextRow (text : List Char) (row : List Bool) (p : Char) : List Bool :=
  if p = '*' then false :: labelRow false row text
  else false :: List.zipWith (fun f c => f && foldCase p == foldCase c) row text

/-- The row of a pattern: which prefixes of the text are the pattern with a label for every `*`,
whatever the case of letters. -/
def patternRow (text pattern : List Char) : List Bool :=
  pattern.foldl (nextRow text) (true :: List.replicate text.length false)

/-- Whether a text is a pattern with a label for every `*`, whatever the case of letters. -/
def matchesPattern (pattern text : List Char) : Bool :=
  (patternRow text pattern).getLast? == some true

/-! ## Engines -/

/-- An engine that compiles patterns: how many bytes it needs for one. -/
structure Engine where
  size : List Char → Nat

namespace Engine

/-- The bytes that an engine grants a pattern. -/
def sizeLimit : Nat := 10 * 1024 * 1024

/-- What an engine makes of a pattern: the test for the texts that match it, unless it gets too
large. -/
def compile? (k : Engine) (pattern : List Char) : Option (List Char → Bool) :=
  if k.size pattern ≤ sizeLimit then some (matchesPattern pattern) else none

/-- The bytes for one character of a pattern. -/
def charSize (c : Char) : Nat :=
  -- All the sequences of bytes that write a character, but for three characters.
  if c = '*' then 1044
  -- A letter is one of two characters; for two letters there is a third one, which is not ASCII.
  else if foldCase c = 'k' then 236
  else if foldCase c = 's' then 204
  else if c.isAlpha then 80
  else 32 * c.utf8Size

/-- The engine in use, as far as its sizes can be told from outside. -/
def standard : Engine where
  size pattern := pattern.foldl (fun n c => n + charSize c) 128

end Engine

/-! ## Entries -/

/-- An entry without the white space around it and the slashes at its end. -/
def trimEntry (entry : String) : List Char :=
  ((trim entry.toList).reverse.dropWhile (· = '/')).reverse

/-- Whether a text names a scheme. -/
def namesScheme : List Char → Bool
  | [] => false
  | ':' :: '/' :: '/' :: _ => true
  | _ :: cs => namesScheme cs

/-- The host of an address, with its port if it has one. -/
def Address.authority (a : Address) : List Char :=
  a.host.toList ++
    match a.port with
    | none => []
    | some n => ':' :: Nat.toDigits 10 n

/-- An address as it is compared with an entry: its authority, after its scheme if the entry names
one. -/
def Address.candidate (a : Address) (withScheme : Bool) : List Char :=
  if withScheme then a.scheme.toList ++ [':', '/', '/'] ++ a.authority else a.authority

/-- Whether a trimmed entry allows an address. An entry that is not compiled allows none. -/
def entryAllows (k : Engine) (entry : List Char) (a : Address) : Bool :=
  let candidate := a.candidate (namesScheme entry)
  if '*' ∈ entry then (k.compile? entry).any fun isMatch => isMatch candidate
  else entry.map Char.toLower == candidate.map Char.toLower

/-- Whether an entry allows an origin. -/
def originMatches (k : Engine) (entry origin : String) : Bool :=
  let entry := trimEntry entry
  entry = ['*'] ||
    match Address.parse? origin with
    | none => false
    | some a => entryAllows k entry a

/-! ## Checks -/

/-- Where the allow-list of an application comes from: the entries, or the error in fetching
them. -/
abbrev Policy := Except Error (List String)

/-- The entries, as far as they are known. -/
def Policy.entries : Policy → List String
  | .ok entries => entries
  | .error _ => []

/-- Whether pages of `host` may embed the application, given its allow-list. -/
def Policy.check (policy : Policy) (k : Engine) (host : String) : Except Error Unit :=
  match policy with
  | .error e => .error e
  | .ok entries =>
    if entries.any fun entry => originMatches k entry host then .ok ()
    else .error (.originNotAllowed host)

/-- Whether pages of `host` need a look at the allow-list of the application at `src`; those of its
own origin do not. -/
def asksPolicy (src host : String) : Bool := !sameOrigin src host

/-- Whether pages of `host` may embed the application at `src`. -/
def validate (policy : Policy) (k : Engine) (src host : String) : Except Error Unit :=
  if asksPolicy src host then policy.check k host else .ok ()

end FrameHost.Origin
