import FrameHost.Json.Value
import FrameHost.Json.Fault

/-!
# Reading JSON

`Value.parse` reads a text as one JSON value, with blanks around it. Arrays and objects nest at most
127 deep, an object keeps the last value of a repeated key, and the first fault ends the reading.
Each reader takes what is left of the text and returns its result with what is left after it.

The digits of a number are read into 64 bits; what does not fit counts as powers of ten before the
point and not at all after it. A number that is no integer of 64 bits is a double, and is rounded as
`Double.ofDecimal` says.
-/

namespace FrameHost.Json

/-- The result of a reader with the rest of the text, or the fault it met. -/
abbrev Read (α : Type) := Except Stop (α × List Char)

/-- Reads on after a reader that found something. -/
def Read.andThen {α β : Type} (r : Read α) (f : α → List Char → Read β) : Read β :=
  match r with
  | .error stop => .error stop
  | .ok (a, cs) => f a cs

/-- Passes what a reader found through `f`. -/
def Read.as {α β : Type} (r : Read α) (f : α → β) : Read β := r.andThen fun a cs => .ok (f a, cs)

/-- A blank between tokens. -/
def isBlank (c : Char) : Bool := c = ' ' || c = '\n' || c = '\t' || c = '\r'

/-- The text after its leading blanks. -/
def skipBlanks (cs : List Char) : List Char := cs.dropWhile isBlank

/-! ## Literals -/

/-- Reads the rest of a literal. -/
def literal : List Char → List Char → Read Unit
  | [], cs => .ok ((), cs)
  | _ :: _, [] => .error (.here .endOfValue [])
  | e :: es, c :: cs => if c = e then literal es cs else .error (.next .expectedIdent (c :: cs))

/-! ## Numbers -/

/-- The leading digits of a text. -/
def leadingDigits (cs : List Char) : List Char := cs.takeWhile Char.isDigit

/-- The text after its leading digits. -/
def afterDigits (cs : List Char) : List Char := cs.dropWhile Char.isDigit

/-- The greatest significand: numbers are read with 64 bits. -/
def greatestSignificand : Nat := Nat.pow 2 64 - 1

/-- The number that leading digits write on top of `n`, and the digits from the first one on with
which it would get too great. -/
def takeDigits : Nat → List Char → Nat × List Char
  | n, [] => (n, [])
  | n, d :: ds =>
    let m := 10 * n + (d.toNat - 48)
    if m ≤ greatestSignificand then takeDigits m ds else (n, d :: ds)

/-- The greatest exponent that is read as a number. -/
def greatestWritten : Nat := 2147483647

/-- Reads the digits of an exponent, each on top of `n`. Beyond the greatest exponent the rest of
the digits is passed over: the answer is `none` then, and a fault if `large` says that the number
would grow without bound. -/
def exponentDigits (large : Bool) : Nat → List Char → Read (Option Nat)
  | n, [] => .ok (some n, [])
  | n, c :: cs =>
    if c.isDigit then
      let n := 10 * n + (c.toNat - 48)
      if greatestWritten < n then
        if large then .error (.here .numberOutOfRange cs) else .ok (none, afterDigits cs)
      else exponentDigits large n cs
    else .ok (some n, c :: cs)

/-- Reads the exponent of a number whose digits are zero or not: its value, or `none` if it makes
the number zero. -/
def exponent (nonzero : Bool) (cs : List Char) : Read (Option Int) :=
  let (minus, cs) := match cs with
    | '-' :: cs => (true, cs)
    | '+' :: cs => (false, cs)
    | cs => (false, cs)
  match cs with
  | [] => .error (.here .endOfValue [])
  | c :: _ =>
    if c.isDigit then
      (exponentDigits (nonzero && !minus) 0 cs).as fun n? =>
        n?.map fun n => if minus then -(n : Int) else n
    else .error (.next .invalidNumber cs)

/-- The double `± significand * 10 ^ scale`, read up to `rest`. -/
def double (negative : Bool) (significand : Nat) (scale : Int) (rest : List Char) :
    Read Number :=
  match Double.ofDecimal negative significand scale with
  | some x => .ok (.double x, rest)
  | none => .error (.here .numberOutOfRange rest)

/-- Reads what follows the digits of a number: an exponent or nothing. -/
def afterMantissa (negative : Bool) (significand : Nat) (scale : Int) (cs : List Char) :
    Read Number :=
  match cs with
  | 'e' :: cs | 'E' :: cs =>
    (exponent (significand ≠ 0) cs).andThen fun e? cs =>
      match e? with
      | some e => double negative significand (scale + e) cs
      | none => .ok (.double (Double.zero negative), cs)
  | cs => double negative significand scale cs

/-- The number that an integer literal writes, `n` with `more` digits after it: an integer if it fits,
and a double otherwise. -/
def integer (negative : Bool) (n more : Nat) (rest : List Char) : Read Number :=
  if 0 < more then double negative n more rest
  else if negative then
    -- There is a double for minus zero and no integer.
    if 0 < n ∧ n ≤ Nat.pow 2 63 then .ok (.int (-(n : Int)), rest) else double true n 0 rest
  else .ok (.int n, rest)

/-- Reads a number after its sign. -/
def unsigned (negative : Bool) (cs : List Char) : Read Number :=
  let ds := leadingDigits cs
  let rest := afterDigits cs
  match ds with
  | [] => .error (if cs = [] then .here .endOfValue [] else .next .invalidNumber cs)
  -- No digit follows a zero in front.
  | '0' :: _ :: _ => .error (.next .invalidNumber (cs.drop 1))
  | _ =>
    let (n, more) := takeDigits 0 ds
    match rest with
    | '.' :: rest =>
      let fs := leadingDigits rest
      let after := afterDigits rest
      if fs = [] then .error (.next (if rest = [] then .endOfValue else .invalidNumber) rest)
      else
        -- A digit after the point is passed over where the significand has no room for it.
        let (n, left) := takeDigits n fs
        let scale : Int := (more.length : Int) + (left.length : Int) - (fs.length : Int)
        afterMantissa negative n scale after
    | 'e' :: _ | 'E' :: _ => afterMantissa negative n more.length rest
    | rest => integer negative n more.length rest

/-! ## Strings -/

/-- The value of a hexadecimal digit. -/
def hexValue? (c : Char) : Option Nat :=
  if '0' ≤ c ∧ c ≤ '9' then some (c.toNat - 48)
  else if 'a' ≤ c ∧ c ≤ 'f' then some (c.toNat - 87)
  else if 'A' ≤ c ∧ c ≤ 'F' then some (c.toNat - 55)
  else none

/-- The value of four hexadecimal digits at the start of a text. -/
def hexValue4? : List Char → Option (Nat × List Char)
  | a :: b :: c :: d :: cs =>
    match hexValue? a, hexValue? b, hexValue? c, hexValue? d with
    | some a, some b, some c, some d => some (4096 * a + 256 * b + 16 * c + d, cs)
    | _, _, _, _ => none
  | _ => none

/-- Reads the four digits of a hexadecimal escape. -/
def hexUnit (cs : List Char) : Read Nat :=
  -- Fewer than four bytes are an end of the text, before they are looked at.
  if byteSize (cs.take 4) < 4 then .error (.here .endOfString [])
  else
    match hexValue4? cs with
    | some r => .ok r
    | none => .error ⟨.invalidEscape, cs, 4⟩

/-- Reads the second half of a surrogate pair. -/
def lowSurrogate (high : Nat) (cs : List Char) : Read Char :=
  match cs with
  | [] => .error (.here .endOfString [])
  | '\\' :: [] => .error (.here .endOfString [])
  | '\\' :: 'u' :: cs =>
    (hexUnit cs).andThen fun low cs =>
      if 0xdc00 ≤ low ∧ low ≤ 0xdfff then
        .ok (Char.ofNat (0x10000 + (high - 0xd800) * 0x400 + (low - 0xdc00)), cs)
      else .error (.here .loneSurrogate cs)
  | '\\' :: cs => .error (.next .endOfHexEscape cs)
  | cs => .error (.next .endOfHexEscape cs)

/-- Reads an escape after its backslash. -/
def escaped (cs : List Char) : Read Char :=
  match cs with
  | [] => .error (.here .endOfString [])
  | '"' :: cs => .ok ('"', cs)
  | '\\' :: cs => .ok ('\\', cs)
  | '/' :: cs => .ok ('/', cs)
  | 'b' :: cs => .ok ('\x08', cs)
  | 'f' :: cs => .ok ('\x0c', cs)
  | 'n' :: cs => .ok ('\n', cs)
  | 'r' :: cs => .ok ('\r', cs)
  | 't' :: cs => .ok ('\t', cs)
  | 'u' :: cs =>
    (hexUnit cs).andThen fun unit cs =>
      -- The second half of a pair cannot come first.
      if 0xdc00 ≤ unit ∧ unit ≤ 0xdfff then .error (.here .loneSurrogate cs)
      else if 0xd800 ≤ unit ∧ unit ≤ 0xdbff then lowSurrogate unit cs
      else .ok (Char.ofNat unit, cs)
  | cs => .error (.next .invalidEscape cs)

/-- Reads a string after its opening quote; `acc` holds the characters read, the last one first. -/
def quoted (acc : List Char) : (fuel : Nat) → List Char → Read String
  | 0, cs => .error (.here .endOfString cs)
  | _ + 1, [] => .error (.here .endOfString [])
  | fuel + 1, c :: cs =>
    if c = '"' then .ok (String.ofList acc.reverse, cs)
    else if c = '\\' then (escaped cs).andThen fun c cs => quoted (c :: acc) fuel cs
    else if c.toNat < 0x20 then .error (.next .controlCharacter (c :: cs))
    else quoted (c :: acc) fuel cs

/-- Reads a string after its opening quote. -/
def stringBody (cs : List Char) : Read String := quoted [] (cs.length + 1) cs

/-! ## Values -/

/-- Reads the items of an array up to its bracket; `acc` holds the items read, the last one first,
and `first` says that there are none yet. -/
def items {α : Type} (value : List Char → Read α) (acc : List α) (first : Bool) :
    (fuel : Nat) → List Char → Read (List α)
  | 0, cs => .error (.here .endOfList cs)
  | fuel + 1, cs =>
    match skipBlanks cs with
    | [] => .error (.next .endOfList [])
    | ']' :: cs => .ok (acc.reverse, cs)
    | c :: cs =>
      if first then
        (value (c :: cs)).andThen fun x cs => items value (x :: acc) false fuel cs
      else if c = ',' then
        match skipBlanks cs with
        | [] => .error (.next .endOfValue [])
        | ']' :: cs => .error (.next .trailingComma (']' :: cs))
        | cs => (value cs).andThen fun x cs => items value (x :: acc) false fuel cs
      else .error (.next .expectedListEnd (c :: cs))

/-- Reads a key and the colon after it, from the key's opening quote on; `body` reads what follows
the quote. -/
def memberKey {κ : Type} (body : List Char → Read κ) (cs : List Char) : Read κ :=
  match cs with
  | '"' :: cs =>
    (body cs).andThen fun k cs =>
      match skipBlanks cs with
      | [] => .error (.next .endOfObject [])
      | ':' :: cs => .ok (k, cs)
      | cs => .error (.next .expectedColon cs)
  | cs => .error (.next .keyNotString cs)

/-- Reads the members of an object up to its brace; `member` reads one with its key. -/
def members {α : Type} (member : List Char → Read α) (acc : List α) (first : Bool) :
    (fuel : Nat) → List Char → Read (List α)
  | 0, cs => .error (.here .endOfObject cs)
  | fuel + 1, cs =>
    match skipBlanks cs with
    | [] => .error (.next .endOfObject [])
    | '\x7d' :: cs => .ok (acc.reverse, cs)
    | c :: cs =>
      if first then
        (member (c :: cs)).andThen fun x cs => members member (x :: acc) false fuel cs
      else if c = ',' then
        match skipBlanks cs with
        | [] => .error (.next .endOfValue [])
        | '\x7d' :: cs => .error (.next .trailingComma ('\x7d' :: cs))
        | cs => (member cs).andThen fun x cs => members member (x :: acc) false fuel cs
      else .error (.next .expectedObjectEnd (c :: cs))

/-- Reads a value whose arrays and objects nest at most `depth` deep. -/
def value : (depth : Nat) → List Char → Read Value
  | depth, cs =>
    match skipBlanks cs with
    | [] => .error (.next .endOfValue [])
    | 'n' :: cs => (literal ['u', 'l', 'l'] cs).as fun _ => .null
    | 't' :: cs => (literal ['r', 'u', 'e'] cs).as fun _ => .bool true
    | 'f' :: cs => (literal ['a', 'l', 's', 'e'] cs).as fun _ => .bool false
    | '-' :: cs => (unsigned true cs).as .number
    | '"' :: cs => (stringBody cs).as .string
    | '[' :: cs =>
      match depth with
      | 0 => .error (.next .tooDeep ('[' :: cs))
      | depth + 1 => (items (value depth) [] true (cs.length + 1) cs).as .array
    | '\x7b' :: cs =>
      match depth with
      | 0 => .error (.next .tooDeep ('\x7b' :: cs))
      | depth + 1 =>
        let member cs := (memberKey stringBody cs).andThen fun k cs =>
          (value depth cs).as fun v => (k, v)
        -- A later member replaces an earlier one with its key.
        (members member [] true (cs.length + 1) cs).as Value.ofMembers
    | c :: cs =>
      if c.isDigit then (unsigned false (c :: cs)).as .number
      else .error (.next .expectedValue (c :: cs))

/-- How deep arrays and objects nest. -/
def depthLimit : Nat := 127

/-- Reads a whole text with a reader: only blanks may follow. -/
def whole {α : Type} (read : List Char → Read α) (text : List Char) : Except SyntaxError α :=
  match read text with
  | .error stop => .error (stop.locate text)
  | .ok (x, rest) =>
    match skipBlanks rest with
    | [] => .ok x
    | rest => .error ((Stop.next .trailingCharacters rest).locate text)

/-- The value that a text writes. -/
def Value.parse (text : String) : Except SyntaxError Value := whole (value depthLimit) text.toList

end FrameHost.Json
