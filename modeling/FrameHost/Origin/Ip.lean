import FrameHost.Text.Split

/-!
# Numeric hosts

The numeric forms of a host, and the one spelling that each address has. An IPv4 address has up to
four parts, each in decimal, octal or hexadecimal, the last one filling the bytes that are left. An
IPv6 address has eight pieces of which one run of zeros may be left out, and may end in dotted form.
-/

namespace FrameHost.Origin

open Text (split numeral?)

/-! ## IPv4 -/

/-- A part of an IPv4 address, after `0x` in base sixteen and after `0` in base eight. -/
def ipv4Part? (cs : List Char) : Option Nat :=
  match cs with
  | [] => none
  | '0' :: 'x' :: ds | '0' :: 'X' :: ds => numeral? 16 0 ds
  | '0' :: d :: ds => numeral? 8 0 (d :: ds)
  | ds => numeral? 10 0 ds

/-- The parts of a dotted text; a dot at the end does not count. -/
def dottedParts (cs : List Char) : List (List Char) :=
  let parts := split '.' cs
  if parts.getLast? = some [] ∧ parts.length ≠ 1 then parts.dropLast else parts

/-- Whether the last part of a dotted text is a number, so that the host can only be an address. -/
def endsInNumber (cs : List Char) : Bool :=
  match (dottedParts cs).getLast? with
  | none => false
  | some last => (last ≠ [] && last.all Char.isDigit) || (ipv4Part? last).isSome

/-- The number of an IPv4 address whose parts are given: all but the last fill one byte each. -/
def ipv4Number? : (place : Nat) → List Nat → Option Nat
  | _, [] => none
  -- The last part fills every byte that is left.
  | place, [last] => if last < Nat.pow 256 (place + 1) then some last else none
  | 0, _ => none
  | place + 1, part :: parts =>
    if part < 256 then (ipv4Number? place parts).map (part * Nat.pow 256 (place + 1) + ·) else none

/-- The number of an IPv4 address. -/
def ipv4? (cs : List Char) : Option Nat :=
  ((dottedParts cs).mapM ipv4Part?).bind (ipv4Number? 3)

/-- An IPv4 address in dotted decimal form. -/
def renderIpv4 (n : Nat) : List Char :=
  List.intercalate ['.']
    ([24, 16, 8, 0].map fun shift => Nat.toDigits 10 (n / Nat.pow 2 shift % 256))

/-! ## IPv6 -/

/-- The four numbers of a dotted tail: decimal, below 256, without leading zeros. -/
def dottedTail? (cs : List Char) : Option (List Nat) :=
  let numbers := (split '.' cs).mapM fun ds =>
    match ds with
    | [] | '0' :: _ :: _ => none
    | ds => (numeral? 10 0 ds).filter (· < 256)
  match numbers with
  | some [a, b, c, d] => some [256 * a + b, 256 * c + d]
  | _ => none

/-- A piece of an IPv6 address: up to four hexadecimal digits. -/
def ipv6Piece? (ds : List Char) : Option Nat :=
  if ds.length = 0 ∨ 4 < ds.length then none else numeral? 16 0 ds

/-- The pieces between colons; the last one may be dotted if `dotted` says so. -/
def ipv6Pieces? (dotted : Bool) : List (List Char) → Option (List Nat)
  | [] => some []
  | [last] =>
    match ipv6Piece? last with
    | some n => some [n]
    | none => if dotted then dottedTail? last else none
  | part :: parts =>
    match ipv6Piece? part, ipv6Pieces? dotted parts with
    | some n, some ns => some (n :: ns)
    | _, _ => none

/-- The pieces of a text between colons; the empty text has none. -/
def colonPieces? (dotted : Bool) (cs : List Char) : Option (List Nat) :=
  if cs = [] then some [] else ipv6Pieces? dotted (split ':' cs)

/-- What stands before and after the first `::`. -/
def cutGap : List Char → Option (List Char × List Char)
  | [] => none
  | ':' :: ':' :: cs => some ([], cs)
  | c :: cs => (cutGap cs).map fun (before, after) => (c :: before, after)

/-- The eight pieces of an IPv6 address. -/
def ipv6? (cs : List Char) : Option (List Nat) :=
  match cutGap cs with
  | none => (colonPieces? true cs).filter fun ps => ps.length = 8
  | some (before, after) =>
    match colonPieces? false before, colonPieces? true after with
    | some ps, some qs =>
      -- The gap stands for one piece at least.
      if ps.length + qs.length ≤ 7 then
        some (ps ++ List.replicate (8 - ps.length - qs.length) 0 ++ qs)
      else none
    | _, _ => none

/-- The length of the run of zeros at the start of a list. -/
def zeroRun (ps : List Nat) : Nat := (ps.takeWhile (· = 0)).length

/-- Where the first of the longest runs of zeros begins, and its length. -/
def longestZeroRun : (start : Nat) → List Nat → Nat × Nat
  | start, [] => (start, 0)
  | start, p :: ps =>
    let here := zeroRun (p :: ps)
    let later := longestZeroRun (start + 1) ps
    -- Of runs of the same length the first one counts.
    if here < later.2 then later else (start, here)

/-- Pieces in hexadecimal with colons between them. -/
def renderPieces (ps : List Nat) : List Char := List.intercalate [':'] (ps.map (Nat.toDigits 16))

/-- An IPv6 address with its longest run of two zeros or more left out. -/
def renderIpv6 (ps : List Nat) : List Char :=
  let (start, length) := longestZeroRun 0 ps
  if length < 2 then renderPieces ps
  else renderPieces (ps.take start) ++ [':', ':'] ++ renderPieces (ps.drop (start + length))

end FrameHost.Origin
