import FrameHost.Json.Reader

/-!
# Passing over JSON

`skipValue` passes over a value that nobody asked for. It knows the grammar only: nesting has no
limit, a number has no range, and an escaped surrogate needs no partner.
-/

namespace FrameHost.Json

/-- Passes over the characters of a string. -/
def skipString : (fuel : Nat) → List Char → Read Unit
  | 0, cs => .error (.here .endOfString cs)
  | _ + 1, [] => .error (.here .endOfString [])
  | _ + 1, '"' :: cs => .ok ((), cs)
  | _ + 1, '\\' :: [] => .error (.here .endOfString [])
  | fuel + 1, '\\' :: 'u' :: cs => (hexUnit cs).andThen fun _ cs => skipString fuel cs
  | fuel + 1, '\\' :: c :: cs =>
    if c ∈ ['"', '\\', '/', 'b', 'f', 'n', 'r', 't'] then skipString fuel cs
    else .error (.next .invalidEscape (c :: cs))
  | fuel + 1, c :: cs =>
    if c.toNat < 0x20 then .error (.next .controlCharacter (c :: cs)) else skipString fuel cs

/-- Passes over a string after its opening quote. -/
def skipBody (cs : List Char) : Read Unit := skipString (cs.length + 1) cs

/-- Passes over the digits of an exponent. -/
def skipExponent (cs : List Char) : Read Unit :=
  let cs := match cs with
    | '-' :: cs => cs
    | '+' :: cs => cs
    | cs => cs
  if leadingDigits cs = [] then
    .error (if cs = [] then .here .endOfValue [] else .next .invalidNumber cs)
  else .ok ((), afterDigits cs)

/-- Passes over a number after its sign. -/
def skipNumber (cs : List Char) : Read Unit :=
  match leadingDigits cs with
  | [] => .error (if cs = [] then .here .endOfValue [] else .next .invalidNumber cs)
  -- No digit follows a zero in front.
  | '0' :: _ :: _ => .error (.next .invalidNumber (cs.drop 1))
  | _ =>
    match afterDigits cs with
    | '.' :: rest =>
      if leadingDigits rest = [] then
        .error (.next (if rest = [] then .endOfValue else .invalidNumber) rest)
      else
        match afterDigits rest with
        | 'e' :: rest | 'E' :: rest => skipExponent rest
        | rest => .ok ((), rest)
    | 'e' :: rest | 'E' :: rest => skipExponent rest
    | rest => .ok ((), rest)

/-- Passes over a value. -/
def skipValue : (fuel : Nat) → List Char → Read Unit
  | 0, cs => .error (.here .endOfValue cs)
  | fuel + 1, cs =>
    match skipBlanks cs with
    | [] => .error (.next .endOfValue [])
    | 'n' :: cs => literal ['u', 'l', 'l'] cs
    | 't' :: cs => literal ['r', 'u', 'e'] cs
    | 'f' :: cs => literal ['a', 'l', 's', 'e'] cs
    | '-' :: cs => skipNumber cs
    | '"' :: cs => skipBody cs
    | '[' :: cs => (items (skipValue fuel) [] true (cs.length + 1) cs).as fun _ => ()
    | '\x7b' :: cs =>
      let member cs := (memberKey skipBody cs).andThen fun _ cs => skipValue fuel cs
      (members member [] true (cs.length + 1) cs).as fun _ => ()
    | c :: cs =>
      if c.isDigit then skipNumber (c :: cs) else .error (.next .expectedValue (c :: cs))

end FrameHost.Json
