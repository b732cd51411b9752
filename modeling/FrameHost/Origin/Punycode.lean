/-!
# Punycode

A label that is not ASCII is written with ASCII letters, digits and hyphens: first its ASCII
characters, then a number for each of the others, in the order of their code points. A number says
how many places further on, counted through all code points and all places of the text, the next
character is put in. The weight of its digits adapts to the numbers before.
-/

namespace FrameHost.Origin.Punycode

/-! ## Numbers -/

/-- The least digit with which a number can go on, at a place that counts from 36 in steps of 36. -/
def threshold (bias place : Nat) : Nat := if place ≤ bias then 1 else min 26 (place - bias)

/-- No threshold is zero, so a digit always takes something off what is left to write. -/
theorem threshold_pos (bias place : Nat) : 0 < threshold bias place := by
  unfold threshold
  split <;> omega

/-- A number made small, and the weight that it loses on the way. -/
def shrink (delta weight : Nat) : Nat × Nat :=
  if 455 < delta then shrink (delta / 35) (weight + 36) else (delta, weight)
termination_by delta
decreasing_by exact Nat.div_lt_self (by omega) (by omega)

/-- The bias after a number that put in the `count`-th character. -/
def adapt (delta count : Nat) (first : Bool) : Nat :=
  -- The first number spans the code points below the first character, so it weighs less.
  let delta := if first then delta / 700 else delta / 2
  let (delta, weight) := shrink (delta + delta / count) 0
  weight + 36 * delta / (delta + 38)

/-- The value of a digit. -/
def digit? (c : Char) : Option Nat :=
  if 'a' ≤ c ∧ c ≤ 'z' then some (c.toNat - 0x61)
  else if '0' ≤ c ∧ c ≤ '9' then some (c.toNat - 0x30 + 26)
  else none

/-- The digit with a value below 36. -/
def digitChar (d : Nat) : Char :=
  if d < 26 then Char.ofNat (0x61 + d) else Char.ofNat (0x30 + d - 26)

/-! ## Writing -/

/-- A number in writing. -/
def renderNumber (bias place n : Nat) : List Char :=
  let t := threshold bias place
  if n < t then [digitChar n]
  else digitChar (t + (n - t) % (36 - t)) :: renderNumber bias (place + 36) ((n - t) / (36 - t))
termination_by n
decreasing_by
  have h := threshold_pos bias place
  have h' := Nat.div_le_self (n - threshold bias place) (36 - threshold bias place)
  omega

/-- What has been written, and what the next number is to say. -/
structure Encoder where
  /-- The number of characters written. -/
  count : Nat
  delta : Nat := 0
  bias : Nat := 72
  out : List Char := []

/-- Goes past a character of the text while the characters with code point `n` are written; `ascii`
characters were written first. -/
def Encoder.pass (ascii n : Nat) (e : Encoder) (c : Char) : Encoder :=
  if c.toNat < n then { e with delta := e.delta + 1 }
  else if c.toNat = n then
    { count := e.count + 1
      bias := adapt e.delta (e.count + 1) (e.count = ascii)
      out := e.out ++ renderNumber e.bias 36 e.delta }
  else e

/-- Writes the characters with code point `n`, given the least code point not considered yet. -/
def encodeCode (text : List Char) (ascii : Nat) (state : Encoder × Nat) (n : Nat) : Encoder × Nat :=
  let (e, least) := state
  -- Every code point in between could be put in at each place of the text.
  let e := { e with delta := e.delta + (n - least) * (e.count + 1) }
  let e := text.foldl (Encoder.pass ascii n) e
  ({ e with delta := e.delta + 1 }, n + 1)

/-- The ASCII form of a text. -/
def encode (text : List Char) : List Char :=
  let ascii := text.filter fun c => c.toNat < 0x80
  let codes := ((text.map Char.toNat).filter (0x80 ≤ ·)).eraseDups.mergeSort
    fun a b => decide (a ≤ b)
  let (e, _) := codes.foldl (encodeCode text ascii.length) ({ count := ascii.length }, 0x80)
  ascii ++ (if ascii.isEmpty then [] else ['-']) ++ e.out

/-! ## Reading -/

/-- The text so far, where the last character was put in, and the number that is being read. -/
structure Decoder where
  text : List Char
  /-- The least code point that can come next. -/
  code : Nat := 0x80
  /-- The first place where it can be put in. -/
  position : Nat := 0
  bias : Nat := 72
  /-- The place of the next digit. -/
  place : Nat := 36
  weight : Nat := 1
  value : Nat := 0

/-- Numbers and weights have less than 33 bits. -/
def limit : Nat := Nat.pow 2 32

/-- Puts in the character that a complete number stands for. -/
def Decoder.put (d : Decoder) (number : Nat) : Option Decoder :=
  let i := d.position + number
  let count := d.text.length + 1
  -- A turn through all places is one code point more.
  let code := d.code + i / count
  let position := i % count
  if h : code.isValidChar then
    some
      { text := d.text.take position ++ Char.ofNatAux code h :: d.text.drop position
        code
        position := position + 1
        bias := adapt number count (d.position = 0) }
  else none

/-- Reads a digit. -/
def Decoder.feed (d : Decoder) (c : Char) : Option Decoder :=
  match digit? c with
  | none => none
  | some n =>
    let value := d.value + n * d.weight
    let t := threshold d.bias d.place
    if limit ≤ d.position + value then none
    else if n < t then d.put value
    else if limit ≤ d.weight * (36 - t) then none
    else some { d with place := d.place + 36, weight := d.weight * (36 - t), value }

/-- The ASCII characters and the digits of an ASCII form: the last hyphen stands between them,
unless it is the first character. -/
def parts (cs : List Char) : List Char × List Char :=
  let digits := (cs.reverse.takeWhile (· ≠ '-')).reverse
  match cs.take (cs.length - digits.length) with
  | [] | ['-'] => ([], cs)
  | ascii => (ascii.dropLast, digits)

/-- The text with an ASCII form. -/
def decode? (cs : List Char) : Option (List Char) :=
  let (ascii, digits) := parts cs
  if ascii.any fun c => 0x80 ≤ c.toNat then none
  else
    match digits.foldlM Decoder.feed { text := ascii } with
    | none => none
    -- At another place a number has begun and has no end.
    | some d => if d.place = 36 then some d.text else none

end FrameHost.Origin.Punycode
