import FrameHost.Json.Value

/-!
# Writing JSON

A value is written without blanks. Strings escape the quote, the backslash and the characters below
U+0020, and nothing else; a double is written with the fewest digits that read back.
-/

namespace FrameHost.Json

/-! ## Numbers -/

/-- The decimal digits of an integer, after a minus sign if it is negative. -/
def renderInt (n : Int) : List Char :=
  if n < 0 then '-' :: Nat.toDigits 10 n.natAbs else Nat.toDigits 10 n.natAbs

/-- A double in positional notation if its first digit has an exponent from `-5` to `15`, with at
least one decimal, and in scientific notation otherwise. -/
def renderDouble (x : Double) : List Char :=
  let (ds, e) := x.digits
  let sign := if x.negative then ['-'] else []
  let body :=
    if x.significand = 0 then ['0', '.', '0']
    -- Scientific: one digit before the point, and no point after a single digit.
    else if e < -5 ∨ 16 ≤ e then
      let exponent := 'e' :: (if e < 0 then '-' else '+') :: Nat.toDigits 10 e.natAbs
      match ds with
      | d :: r :: rs => d :: '.' :: r :: rs ++ exponent
      | _ => ds ++ exponent
    -- Below one: zeros between the point and the first digit.
    else if e < 0 then '0' :: '.' :: List.replicate (e.natAbs - 1) '0' ++ ds
    else
      -- Zeros before the point where the digits end earlier.
      let whole := e.toNat + 1
      let decimals := ds.drop whole
      ds.take whole ++ List.replicate (whole - ds.length) '0' ++
        '.' :: (if decimals = [] then ['0'] else decimals)
  sign ++ body

/-- A number. -/
def Number.render : Number → List Char
  | .int n => renderInt n
  | .double x => renderDouble x

/-! ## Strings -/

/-- A hexadecimal digit, in lower case. -/
def hexDigit (n : Nat) : Char :=
  if n < 10 then Char.ofNat (0x30 + n) else Char.ofNat (0x61 + n - 10)

/-- A character inside a quoted string. -/
def escape (c : Char) : List Char :=
  if c = '"' then ['\\', '"']
  else if c = '\\' then ['\\', '\\']
  else if c = '\x08' then ['\\', 'b']
  else if c = '\x0c' then ['\\', 'f']
  else if c = '\n' then ['\\', 'n']
  else if c = '\r' then ['\\', 'r']
  else if c = '\t' then ['\\', 't']
  else if c.toNat < 0x20 then
    ['\\', 'u', '0', '0', hexDigit (c.toNat / 16), hexDigit (c.toNat % 16)]
  else [c]

/-- A string between quotes. -/
def renderString (s : String) : List Char := '"' :: s.toList.flatMap escape ++ ['"']

/-! ## Values -/

mutual

/-- A value. -/
def Value.render : Value → List Char
  | .null => ['n', 'u', 'l', 'l']
  | .bool true => ['t', 'r', 'u', 'e']
  | .bool false => ['f', 'a', 'l', 's', 'e']
  | .number n => n.render
  | .string s => renderString s
  | .array [] => ['[', ']']
  | .array (x :: xs) => '[' :: x.render ++ renderItems xs ++ [']']
  | .object [] => ['\x7b', '\x7d']
  | .object ((k, x) :: ms) =>
    '\x7b' :: renderString k ++ ':' :: x.render ++ renderMembers ms ++ ['\x7d']

/-- The items of an array after the first, each after a comma. -/
def renderItems : List Value → List Char
  | [] => []
  | x :: xs => ',' :: x.render ++ renderItems xs

/-- The members of an object after the first, each after a comma. -/
def renderMembers : List (String × Value) → List Char
  | [] => []
  | (k, x) :: ms => ',' :: renderString k ++ ':' :: x.render ++ renderMembers ms

end

/-- The text of a number. -/
def Number.text (n : Number) : String := String.ofList n.render

/-- The text of a value. -/
def Value.text (v : Value) : String := String.ofList v.render

end FrameHost.Json
