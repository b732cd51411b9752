/-!
# Double-precision numbers

A finite double is a sign with a significand below `2^53` times a power of two. Each number but zero
has one such form. `ofRatio` rounds a ratio to it, and `digits` finds the shortest decimal that rounds
back. A decimal is not rounded at once: `ofDecimal` rounds its digits, then multiplies or divides by
powers of ten that are doubles themselves, and rounds again each time. So a decimal can be read as a
neighbour of the double that is nearest to it.
-/

namespace FrameHost

/-- A finite binary64 number, `± significand * 2 ^ exponent`. -/
structure Double where
  /-- Whether the sign is minus; zero has both signs. -/
  negative : Bool
  /-- Below `2^53`, and at least `2^52` unless the exponent is the least one. -/
  significand : Nat
  /-- Between `-1074` and `971`. -/
  exponent : Int
deriving DecidableEq, Repr, Inhabited

namespace Double

/-- The least exponent: below it there are no bits. -/
def leastExponent : Int := -1074

/-- The greatest exponent. -/
def greatestExponent : Int := 971

/-- Zero with the given sign. -/
def zero (negative : Bool) : Double := ⟨negative, 0, leastExponent⟩

/-- Whether two numbers have the same value; the sign of zero does not count. -/
def same (x y : Double) : Bool :=
  (x.significand == 0 && y.significand == 0) || x == y

/-! ## From a decimal -/

/-- The natural number nearest to `num / den`; a tie goes to the even one. -/
def roundRatio (num den : Nat) : Nat :=
  let q := num / den
  let r := num % den
  if 2 * r < den then q
  else if den < 2 * r then q + 1
  else if q % 2 = 0 then q else q + 1

/-- `num / den` divided by `2 ^ e` and rounded. -/
def scaledRound (num den : Nat) (e : Int) : Nat :=
  if 0 ≤ e then roundRatio num (den * Nat.pow 2 e.toNat)
  else roundRatio (num * Nat.pow 2 (-e).toNat) den

/-- The double nearest to a positive ratio, or `none` beyond the greatest one. -/
def ofRatio (negative : Bool) (num den : Nat) : Option Double :=
  let guess : Int := (num.log2 : Int) - (den.log2 : Int) - 53
  -- The quotient by `2 ^ guess` lies between `2^52` and `2^54`.
  let large : Bool :=
    if 0 ≤ guess then Nat.pow 2 53 * (den * Nat.pow 2 guess.toNat) ≤ num
    else Nat.pow 2 53 * den ≤ num * Nat.pow 2 (-guess).toNat
  let e := max (if large then guess + 1 else guess) leastExponent
  -- Rounding up may take one binary digit more.
  let m := scaledRound num den e
  let (m, e) := if m = Nat.pow 2 53 then (Nat.pow 2 52, e + 1) else (m, e)
  if greatestExponent < e then none else some ⟨negative, m, e⟩

/-- A double times `num / den`, rounded, or `none` beyond the greatest one. -/
def scale (x : Double) (num den : Nat) : Option Double :=
  if x.significand = 0 then some x
  else if 0 ≤ x.exponent then
    ofRatio x.negative (x.significand * Nat.pow 2 x.exponent.toNat * num) den
  else ofRatio x.negative (x.significand * num) (Nat.pow 2 (-x.exponent).toNat * den)

/-- The greatest power of ten that is a double. -/
def greatestPower : Nat := 308

/-- `10 ^ n` as a double has it: with 53 binary digits, and zeros after them. -/
def powerOfTen (n : Nat) : Nat :=
  let p := Nat.pow 10 n
  let zeros := p.log2 - 52
  roundRatio p (Nat.pow 2 zeros) * Nat.pow 2 zeros

/-- A double divided by the greatest power as often as `steps` says and then by `10 ^ n`; it is rounded
after each step, and zero stays as it is. -/
def divide (x : Double) (n : Nat) : (steps : Nat) → Option Double
  | 0 => x.scale 1 (powerOfTen n)
  | steps + 1 =>
    if x.significand = 0 then some x
    else (x.scale 1 (powerOfTen greatestPower)).bind fun y => y.divide n steps

/-- A double divided by `10 ^ n`. The last step takes what is left of `n`, and not nothing. -/
def divideBy (x : Double) (n : Nat) : Option Double :=
  let steps := (n - 1) / greatestPower
  x.divide (n - steps * greatestPower) steps

/-- A double times `10 ^ n`, or `none` beyond the greatest one. -/
def multiplyBy (x : Double) (n : Nat) : Option Double :=
  if n ≤ greatestPower then x.scale (powerOfTen n) 1
  else if x.significand = 0 then some x
  else none

/-- The double that `± significand * 10 ^ exponent` is read as, or `none` if that is out of range. -/
def ofDecimal (negative : Bool) (significand : Nat) (exponent : Int) : Option Double :=
  let x? := if significand = 0 then some (zero negative) else ofRatio negative significand 1
  x?.bind fun x =>
    if 0 ≤ exponent then x.multiplyBy exponent.toNat else x.divideBy (-exponent).toNat

/-! ## To the shortest decimal -/

/-- The exponent of the first decimal digit of `num / den`. -/
def leadingExponent (num den : Nat) : Int :=
  if den ≤ num then ((Nat.toDigits 10 (num / den)).length : Int) - 1
  else
    let k := (Nat.toDigits 10 (den / num)).length
    -- `10 ^ (k - 1) ≤ den / num`, so the exponent is `-k`, or `1 - k` for an exact power.
    if den ≤ num * Nat.pow 10 (k - 1) then 1 - (k : Int) else -(k : Int)

/-- The value of a grid point: `digits` counted from the digit with exponent `last`. -/
def gridRatio (digits : Nat) (last : Int) : Nat × Nat :=
  if 0 ≤ last then (digits * Nat.pow 10 last.toNat, 1) else (digits, Nat.pow 10 (-last).toNat)

/-- The bounds of the decimals that round to a double: `num / den` with whether they count. -/
structure Window where
  low : Nat
  value : Nat
  high : Nat
  den : Nat
  closed : Bool

/-- The window of a significand and exponent, in quarters of a unit. -/
def window (m : Nat) (e : Int) : Window :=
  -- Below a power of two the doubles are half as far apart.
  let below := if m = Nat.pow 2 52 ∧ leastExponent < e then 1 else 2
  let num := if 2 ≤ e then Nat.pow 2 (e - 2).toNat else 1
  let den := if 2 ≤ e then 1 else Nat.pow 2 (2 - e).toNat
  ⟨(4 * m - below) * num, 4 * m * num, (4 * m + 2) * num, den, m % 2 = 0⟩

/-- Whether `num / den` lies in a window. -/
def Window.has (w : Window) (num den : Nat) : Bool :=
  let lo := w.low * den
  let hi := w.high * den
  let x := num * w.den
  if w.closed then lo ≤ x && x ≤ hi else lo < x && x < hi

/-- The point of the grid of `n` digits that lies in the window and nearest to its value. -/
def Window.point? (w : Window) (lead : Int) (n : Nat) : Option (Nat × Int) :=
  let last := lead - (n - 1 : Nat)
  let down := if 0 ≤ last then w.value / (w.den * Nat.pow 10 last.toNat)
    else w.value * Nat.pow 10 (-last).toNat / w.den
  let up := down + 1
  let (dn, dd) := gridRatio down last
  let (un, ud) := gridRatio up last
  match w.has dn dd, w.has un ud with
  | true, false => some (down, last)
  | false, true => some (up, last)
  | false, false => none
  | true, true =>
    -- The two distances to the value, over the common denominator.
    let toDown := w.value * dd - dn * w.den
    let toUp := un * w.den - w.value * ud
    if toDown < toUp ∨ (toDown = toUp ∧ down % 2 = 0) then some (down, last) else some (up, last)

/-- The first grid with a point in the window, from `n` digits up. -/
def Window.search (w : Window) (lead : Int) (n : Nat) : Nat → Nat × Int
  | 0 => (w.value / w.den, 0)
  | fuel + 1 =>
    match w.point? lead n with
    | some p => p
    | none => w.search lead (n + 1) fuel

/-- The shortest decimal that rounds to `x`, as digits and the exponent of the last digit. -/
def shortest (x : Double) : Nat × Int :=
  if x.significand = 0 then (0, 0)
  else
    let w := window x.significand x.exponent
    w.search (leadingExponent w.value w.den) 1 18

/-- The digits of the shortest decimal without closing zeros, and the exponent of the first one. -/
def digits (x : Double) : List Char × Int :=
  let (d, last) := x.shortest
  let all := Nat.toDigits 10 d
  let kept := (all.reverse.dropWhile (· = '0')).reverse
  (if kept = [] then ['0'] else kept, last + (all.length : Int) - 1)

end Double

end FrameHost
