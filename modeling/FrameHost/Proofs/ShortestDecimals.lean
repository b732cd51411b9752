import FrameHost.Json.Printer
import Mathlib.Data.Nat.Digits.Defs
import Mathlib.Tactic.Ring

/-!
# How long a double is when written

The shortest decimal of a double is searched for on finer and finer grids. On the grid of eighteen
digits the point below the value is closer to it than any other double (`Window.Wide.has_down`), so the
search ends there at the latest, and with a sign, a point and an exponent the text of a double has at
most forty characters (`length_renderDouble_le`). The argument needs the significand to be below
`2 ^ 53`; what a decimal is read as always has such a significand (`inRange_ofDecimal`), as each of the
steps of the reading rounds.
-/

namespace FrameHost.Double

/-- The significand and the exponent of a double are in range. -/
structure InRange (x : Double) : Prop where
  significand_lt : x.significand < 2 ^ 53
  le_exponent : leastExponent ≤ x.exponent
  exponent_le : x.exponent ≤ greatestExponent

/-- A power with an exponent of either sign is a ratio of two powers; this is how they grow. -/
theorem pow_toNat_mul (b : ℕ) {e e' : ℤ} {j : ℕ} (h : e' = e + j) :
    b ^ e'.toNat * b ^ (-e).toNat = b ^ j * b ^ e.toNat * b ^ (-e').toNat := by
  rw [← Nat.pow_add, ← Nat.pow_add, ← Nat.pow_add]
  congr 1
  omega

/-! ## Doubles in range -/

variable {num den : ℕ} {e e' : ℤ}

/-- The quotient of `num / den` by `2 ^ e` is below `2 ^ 53`. -/
def Scaled (num den : ℕ) (e : ℤ) : Prop :=
  num * 2 ^ (-e).toNat < 2 ^ 53 * (den * 2 ^ e.toNat)

/-- A quotient that fits an exponent fits every greater one. -/
theorem Scaled.mono (h : Scaled num den e) (he : e ≤ e') : Scaled num den e' := by
  have hexponent : e' = e + (e' - e).toNat := by omega
  have hpow := pow_toNat_mul 2 hexponent
  unfold Scaled at h ⊢
  refine Nat.lt_of_mul_lt_mul_right (a := 2 ^ (-e).toNat) ?_
  calc num * 2 ^ (-e').toNat * 2 ^ (-e).toNat
      = num * 2 ^ (-e).toNat * 2 ^ (-e').toNat := by ring
    _ < 2 ^ 53 * (den * 2 ^ e.toNat) * 2 ^ (-e').toNat :=
        Nat.mul_lt_mul_of_pos_right h (Nat.two_pow_pos _)
    _ ≤ 2 ^ 53 * (den * 2 ^ e.toNat) * 2 ^ (-e').toNat * 2 ^ (e' - e).toNat :=
        Nat.le_mul_of_pos_right _ (Nat.two_pow_pos _)
    _ = 2 ^ 53 * den * (2 ^ (e' - e).toNat * 2 ^ e.toNat * 2 ^ (-e').toNat) := by ring
    _ = 2 ^ 53 * (den * 2 ^ e'.toNat) * 2 ^ (-e).toNat := by rw [← hpow]; ring

/-- The lengths of numerator and denominator tell the size of the quotient up to a factor of two. -/
theorem scaled_of_log2 (hden : den ≠ 0) :
    Scaled num den ((num.log2 : ℤ) - (den.log2 : ℤ) - 53 + 1) := by
  have hnum : num < 2 ^ (num.log2 + 1) := Nat.lt_log2_self
  have hden : 2 ^ den.log2 ≤ den := Nat.log2_self_le hden
  unfold Scaled
  generalize he : (num.log2 : ℤ) - (den.log2 : ℤ) - 53 + 1 = e
  have hexp : num.log2 + 1 + (-e).toNat = 53 + (den.log2 + e.toNat) := by omega
  calc num * 2 ^ (-e).toNat
      < 2 ^ (num.log2 + 1) * 2 ^ (-e).toNat := Nat.mul_lt_mul_of_pos_right hnum (Nat.two_pow_pos _)
    _ = 2 ^ 53 * (2 ^ den.log2 * 2 ^ e.toNat) := by
        rw [← Nat.pow_add, ← Nat.pow_add, ← Nat.pow_add, hexp]
    _ ≤ 2 ^ 53 * (den * 2 ^ e.toNat) := Nat.mul_le_mul_left _ (Nat.mul_le_mul_right _ hden)

/-- A quotient below a whole number is rounded to it at most. -/
theorem roundRatio_le {a b c : ℕ} (h : a < c * b) : roundRatio a b ≤ c := by
  have hq : a / b < c := Nat.div_lt_of_lt_mul (Nat.mul_comm c b ▸ h)
  unfold roundRatio
  dsimp only
  split
  · exact Nat.le_of_lt hq
  · split
    · exact hq
    · split
      · exact Nat.le_of_lt hq
      · exact hq

/-- A scaled quotient is rounded to a significand of the range, or to the one just beyond. -/
theorem scaledRound_le (h : Scaled num den e) : scaledRound num den e ≤ 2 ^ 53 := by
  unfold Scaled at h
  unfold scaledRound
  simp only [Nat.pow_eq]
  split
  · next he =>
    rw [show (-e).toNat = 0 by omega, Nat.pow_zero, Nat.mul_one] at h
    exact roundRatio_le h
  · next he =>
    rw [show e.toNat = 0 by omega, Nat.pow_zero, Nat.mul_one] at h
    exact roundRatio_le h

/-- Zero is in range. -/
theorem inRange_zero (negative : Bool) : (zero negative).InRange := by
  exact ⟨Nat.two_pow_pos 53, Int.le_refl _, by decide +revert⟩

/-- The exponent is chosen so that the significand is not too large. -/
theorem scaled_of_not_large (h : (if 0 ≤ e then decide (2 ^ 53 * (den * 2 ^ e.toNat) ≤ num)
    else decide (2 ^ 53 * den ≤ num * 2 ^ (-e).toNat)) = false) : Scaled num den e := by
  unfold Scaled
  split at h
  · next he =>
    rw [show (-e).toNat = 0 by omega, Nat.pow_zero, Nat.mul_one]
    exact Nat.lt_of_not_le (of_decide_eq_false h)
  · next he =>
    rw [show e.toNat = 0 by omega, Nat.pow_zero, Nat.mul_one]
    exact Nat.lt_of_not_le (of_decide_eq_false h)

/-- A quotient is rounded into the range, if at all. -/
theorem inRange_ofRatio {negative : Bool} {x : Double} (hden : den ≠ 0)
    (h : ofRatio negative num den = some x) : x.InRange := by
  unfold ofRatio at h
  simp only [Nat.pow_eq] at h
  generalize hguess : (num.log2 : ℤ) - (den.log2 : ℤ) - 53 = guess at h
  generalize hlarge : (if 0 ≤ guess then decide (2 ^ 53 * (den * 2 ^ guess.toNat) ≤ num)
    else decide (2 ^ 53 * den ≤ num * 2 ^ (-guess).toNat)) = large at h
  -- The exponent is the guess, or one more where the quotient is large.
  have hchosen : Scaled num den (if large then guess + 1 else guess) := by
    cases large with
    | false => exact scaled_of_not_large hlarge
    | true => exact hguess ▸ scaled_of_log2 hden
  have hscaled := hchosen.mono (le_max_left _ leastExponent)
  have hleast : leastExponent ≤ max (if large then guess + 1 else guess) leastExponent :=
    le_max_right _ _
  generalize max (if large then guess + 1 else guess) leastExponent = e at h hscaled hleast
  have hm := scaledRound_le hscaled
  generalize scaledRound num den e = m at h hm
  -- Rounding up may reach the next power of two, and then the exponent goes up by one.
  by_cases htop : m = 2 ^ 53
  · rw [if_pos htop] at h
    dsimp only at h
    split at h
    · cases h
    · next hle =>
      cases h
      exact ⟨Nat.pow_lt_pow_right (by decide) (by decide), Int.le_add_one hleast, Int.not_lt.mp hle⟩
  · rw [if_neg htop] at h
    dsimp only at h
    split at h
    · cases h
    · next hle =>
      cases h
      exact ⟨Nat.lt_of_le_of_ne hm htop, hleast, Int.not_lt.mp hle⟩

variable {x y : Double}

/-- A double that is scaled stays in range, if it stays a number. -/
theorem InRange.scale (hx : x.InRange) (hden : den ≠ 0) (h : x.scale num den = some y) :
    y.InRange := by
  unfold Double.scale at h
  split at h
  · cases h
    exact hx
  · split at h
    · exact inRange_ofRatio hden h
    · exact inRange_ofRatio (Nat.mul_ne_zero (Nat.pow_pos (by decide)).ne' hden) h

/-- A quotient of at least one is not rounded to zero. -/
theorem roundRatio_pos {a b : ℕ} (hb : 0 < b) (h : b ≤ a) : 0 < roundRatio a b := by
  have hq : 0 < a / b := Nat.div_pos h hb
  unfold roundRatio
  dsimp only
  split
  · exact hq
  · split
    · exact Nat.succ_pos _
    · split
      · exact hq
      · exact Nat.succ_pos _

/-- No power of ten is zero. -/
theorem powerOfTen_ne_zero (n : ℕ) : powerOfTen n ≠ 0 := by
  have hpos : 10 ^ n ≠ 0 := (Nat.pow_pos (by decide)).ne'
  have hle : 2 ^ ((10 ^ n).log2 - 52) ≤ 10 ^ n :=
    (Nat.pow_le_pow_right (by decide) (Nat.sub_le _ _)).trans (Nat.log2_self_le hpos)
  have hround := roundRatio_pos (Nat.two_pow_pos _) hle
  exact Nat.mul_ne_zero hround.ne' (Nat.two_pow_pos _).ne'

/-- A double that is divided step by step stays in range. -/
theorem InRange.divide {n steps : ℕ} (hx : x.InRange) (h : x.divide n steps = some y) :
    y.InRange := by
  induction steps generalizing x with
  | zero => exact hx.scale (powerOfTen_ne_zero n) h
  | succ steps ih =>
    unfold Double.divide at h
    split at h
    · cases h
      exact hx
    · obtain ⟨z, hz, h⟩ := Option.bind_eq_some_iff.mp h
      exact ih (hx.scale (powerOfTen_ne_zero _) hz) h

/-- A double that is multiplied stays in range, if it stays a number. -/
theorem InRange.multiplyBy {n : ℕ} (hx : x.InRange) (h : x.multiplyBy n = some y) : y.InRange := by
  unfold Double.multiplyBy at h
  split at h
  · exact hx.scale Nat.one_ne_zero h
  · split at h
    · cases h
      exact hx
    · cases h

/-- A decimal is read into the range, if at all. -/
theorem inRange_ofDecimal {negative : Bool} {significand : ℕ} {exponent : ℤ}
    (h : ofDecimal negative significand exponent = some x) : x.InRange := by
  unfold ofDecimal at h
  obtain ⟨y, hy, h⟩ := Option.bind_eq_some_iff.mp h
  have hrange : y.InRange := by
    split at hy
    · cases hy
      exact inRange_zero negative
    · exact inRange_ofRatio Nat.one_ne_zero hy
  split at h
  · exact hrange.multiplyBy h
  · exact hrange.divide h

/-! ## The leading digit -/

/-- The digit of `num / den` with exponent `lead` is its first one. -/
structure LeadsWith (num den : ℕ) (lead : ℤ) : Prop where
  le : den * 10 ^ lead.toNat ≤ num * 10 ^ (-lead).toNat
  lt : num * 10 ^ (-lead).toNat < 10 * (den * 10 ^ lead.toNat)

/-- The digits of a positive number tell its powers of ten. -/
theorem length_toDigits_bounds {q : ℕ} (hq : 0 < q) :
    0 < (Nat.toDigits 10 q).length ∧ 10 ^ ((Nat.toDigits 10 q).length - 1) ≤ q ∧
      q < 10 ^ (Nat.toDigits 10 q).length := by
  have hpos : 0 < (Nat.toDigits 10 q).length := List.length_pos_iff.mpr Nat.toDigits_ne_nil
  refine ⟨hpos, ?_, (Nat.length_toDigits_le_iff (by decide) hpos).mp (Nat.le_refl _)⟩
  by_contra hlt
  rcases Nat.eq_zero_or_pos ((Nat.toDigits 10 q).length - 1) with hone | hmore
  · rw [hone, Nat.pow_zero] at hlt
    exact hlt hq
  · have hshort := (Nat.length_toDigits_le_iff (b := 10) (by decide) hmore).mpr (Nat.lt_of_not_le hlt)
    omega

/-- The leading exponent is that of the first digit. -/
theorem leadsWith_leadingExponent (hnum : 0 < num) (hden : 0 < den) :
    LeadsWith num den (leadingExponent num den) := by
  unfold leadingExponent
  simp only [Nat.pow_eq]
  split
  · next hle =>
    -- At least one: the digits of the whole part are counted.
    obtain ⟨hk, hlow, hhigh⟩ := length_toDigits_bounds (Nat.div_pos hle hden)
    generalize (Nat.toDigits 10 (num / den)).length = k at hk hlow hhigh
    have hpow : 10 ^ k = 10 * 10 ^ (k - 1) := by
      rw [← Nat.pow_succ', Nat.succ_eq_add_one, Nat.sub_add_cancel hk]
    have hdown : ((k : ℤ) - 1).toNat = k - 1 := by omega
    have hup : (-((k : ℤ) - 1)).toNat = 0 := by omega
    refine ⟨?_, ?_⟩
    · rw [hdown, hup, Nat.pow_zero, Nat.mul_one]
      exact (Nat.mul_le_mul_left den hlow).trans (Nat.mul_div_le num den)
    · rw [hdown, hup, Nat.pow_zero, Nat.mul_one]
      calc num < den * (num / den + 1) := Nat.lt_mul_div_succ num hden
        _ ≤ den * 10 ^ k := Nat.mul_le_mul_left den hhigh
        _ = 10 * (den * 10 ^ (k - 1)) := by rw [hpow]; ring
  · next hlt =>
    -- Below one: the digits of the inverse are counted, which may be one too many.
    have hle := Nat.le_of_lt (Nat.lt_of_not_le hlt)
    obtain ⟨hk, hlow, hhigh⟩ := length_toDigits_bounds (Nat.div_pos hle hnum)
    generalize (Nat.toDigits 10 (den / num)).length = k at hk hlow hhigh
    have hpow : 10 ^ k = 10 * 10 ^ (k - 1) := by
      rw [← Nat.pow_succ', Nat.succ_eq_add_one, Nat.sub_add_cancel hk]
    split
    · next hexact =>
      have hdown : (1 - (k : ℤ)).toNat = 0 := by omega
      have hup : (-(1 - (k : ℤ))).toNat = k - 1 := by omega
      refine ⟨?_, ?_⟩
      · rw [hdown, hup, Nat.pow_zero, Nat.mul_one]
        exact hexact
      · rw [hdown, hup, Nat.pow_zero, Nat.mul_one]
        calc num * 10 ^ (k - 1) ≤ num * (den / num) := Nat.mul_le_mul_left num hlow
          _ ≤ den := Nat.mul_div_le den num
          _ < 10 * den := by omega
    · next habove =>
      have hdown : (-(k : ℤ)).toNat = 0 := by omega
      have hup : (-(-(k : ℤ))).toNat = k := by omega
      refine ⟨?_, ?_⟩
      · rw [hdown, hup, Nat.pow_zero, Nat.mul_one]
        exact (Nat.le_of_lt (Nat.lt_mul_div_succ den hnum)).trans (Nat.mul_le_mul_left num hhigh)
      · rw [hdown, hup, Nat.pow_zero, Nat.mul_one]
        calc num * 10 ^ k = 10 * (num * 10 ^ (k - 1)) := by rw [hpow]; ring
          _ < 10 * den := Nat.mul_lt_mul_of_pos_left (Nat.lt_of_not_le habove) (by decide)

/-- The leading digit, counted from the digit `k` places on. -/
theorem LeadsWith.scaled {lead last : ℤ} (h : LeadsWith num den lead) {k : ℕ}
    (hlast : lead = last + k) :
    10 ^ k * (den * 10 ^ last.toNat) ≤ num * 10 ^ (-last).toNat ∧
      num * 10 ^ (-last).toNat < 10 ^ (k + 1) * (den * 10 ^ last.toNat) := by
  -- Both exponents are brought to one side, whatever their signs.
  have hpow := pow_toNat_mul 10 hlast
  have hpos : 0 < 10 ^ (-lead).toNat := Nat.pow_pos (by decide)
  constructor
  · refine Nat.le_of_mul_le_mul_right ?_ hpos
    calc 10 ^ k * (den * 10 ^ last.toNat) * 10 ^ (-lead).toNat
        = den * (10 ^ k * 10 ^ last.toNat * 10 ^ (-lead).toNat) := by ring
      _ = den * 10 ^ lead.toNat * 10 ^ (-last).toNat := by rw [← hpow]; ring
      _ ≤ num * 10 ^ (-lead).toNat * 10 ^ (-last).toNat := Nat.mul_le_mul_right _ h.le
      _ = num * 10 ^ (-last).toNat * 10 ^ (-lead).toNat := by ring
  · refine Nat.lt_of_mul_lt_mul_right (a := 10 ^ (-lead).toNat) ?_
    calc num * 10 ^ (-last).toNat * 10 ^ (-lead).toNat
        = num * 10 ^ (-lead).toNat * 10 ^ (-last).toNat := by ring
      _ < 10 * (den * 10 ^ lead.toNat) * 10 ^ (-last).toNat :=
          Nat.mul_lt_mul_of_pos_right h.lt (Nat.pow_pos (by decide))
      _ = 10 * den * (10 ^ k * 10 ^ last.toNat * 10 ^ (-lead).toNat) := by rw [← hpow]; ring
      _ = 10 ^ (k + 1) * (den * 10 ^ last.toNat) * 10 ^ (-lead).toNat := by ring

/-! ## Windows -/

variable {w : Window} {lead last : ℤ} {m n d : ℕ}

/-- The decimals that round to a double reach below its value by more than one part in `2 ^ 55`, and
above it. -/
structure Window.Wide (w : Window) : Prop where
  den_pos : 0 < w.den
  below : w.value < 2 ^ 55 * (w.value - w.low)
  above : w.value < w.high

/-- The window of every double is wide. -/
theorem window_wide (hm : 0 < m) (hlt : m < 2 ^ 53) (e : ℤ) : (window m e).Wide := by
  unfold window
  simp only [Nat.pow_eq]
  generalize hbelow : (if m = 2 ^ 52 ∧ leastExponent < e then 1 else 2) = below
  -- A quarter of the gap below at the least.
  have hreach : 1 ≤ below := by
    rw [← hbelow]
    split <;> decide
  generalize hnum : (if 2 ≤ e then 2 ^ (e - 2).toNat else 1) = num
  have hpos : 0 < num := by
    rw [← hnum]
    split
    · exact Nat.two_pow_pos _
    · decide
  refine ⟨?_, ?_, ?_⟩
  · dsimp only
    split
    · decide
    · exact Nat.two_pow_pos _
  · -- The gap is one part in `2 ^ 55` of the value or more.
    have hgap : num ≤ 4 * m * num - (4 * m - below) * num := by
      rw [← Nat.sub_mul]
      exact Nat.le_mul_of_pos_left num (by omega)
    have hvalue : 4 * m * num < 2 ^ 55 * num := Nat.mul_lt_mul_of_pos_right (by omega) hpos
    exact hvalue.trans_le (Nat.mul_le_mul_left _ hgap)
  · exact Nat.mul_lt_mul_of_pos_right (by omega) hpos

/-! ## Grid points -/

/-- A point of a grid as a quotient of whole numbers. -/
theorem gridRatio_eq (d : ℕ) (last : ℤ) :
    gridRatio d last = (d * 10 ^ last.toNat, 10 ^ (-last).toNat) := by
  unfold gridRatio
  simp only [Nat.pow_eq]
  split
  · next h => rw [show (-last).toNat = 0 by omega, Nat.pow_zero]
  · next h => rw [show last.toNat = 0 by omega, Nat.pow_zero, Nat.mul_one]

/-- The point of a grid that is nearest from below to the value of a window. -/
def Window.down (w : Window) (last : ℤ) : ℕ :=
  w.value * 10 ^ (-last).toNat / (w.den * 10 ^ last.toNat)

/-- The point below the value, whatever the sign of the exponent. -/
theorem Window.down_eq (w : Window) (last : ℤ) :
    (if 0 ≤ last then w.value / (w.den * 10 ^ last.toNat)
      else w.value * 10 ^ (-last).toNat / w.den) = w.down last := by
  unfold Window.down
  split
  · next h => rw [show (-last).toNat = 0 by omega, Nat.pow_zero, Nat.mul_one]
  · next h => rw [show last.toNat = 0 by omega, Nat.pow_zero, Nat.mul_one]

/-- A grid whose point below the value lies in the window has a point in it. -/
theorem Window.isSome_point? (hlast : lead = last + (n - 1 : ℕ))
    (hdown : w.has (w.down last * 10 ^ last.toNat) (10 ^ (-last).toNat) = true) :
    (w.point? lead n).isSome = true := by
  unfold Window.point?
  simp only [Nat.pow_eq]
  rw [show lead - ((n - 1 : ℕ) : ℤ) = last by omega, down_eq, gridRatio_eq, gridRatio_eq]
  dsimp only
  rw [hdown]
  cases w.has ((w.down last + 1) * 10 ^ last.toNat) (10 ^ (-last).toNat) with
  | false => rfl
  | true =>
    dsimp only
    split <;> rfl

/-- The point of a grid in a window is one of the two next to the value. -/
theorem Window.point?_cases (hlast : lead = last + (n - 1 : ℕ)) {p : ℕ × ℤ}
    (h : w.point? lead n = some p) : p = (w.down last, last) ∨ p = (w.down last + 1, last) := by
  unfold Window.point? at h
  simp only [Nat.pow_eq] at h
  rw [show lead - ((n - 1 : ℕ) : ℤ) = last by omega, down_eq] at h
  split at h
  · exact .inl (Option.some.inj h).symm
  · exact .inr (Option.some.inj h).symm
  · cases h
  · split at h
    · exact .inl (Option.some.inj h).symm
    · exact .inr (Option.some.inj h).symm

/-- The value lies between a point of the grid and the next. -/
theorem Window.down_le (hw : w.Wide) (last : ℤ) :
    w.down last * (w.den * 10 ^ last.toNat) ≤ w.value * 10 ^ (-last).toNat ∧
      w.value * 10 ^ (-last).toNat < (w.down last + 1) * (w.den * 10 ^ last.toNat) := by
  have hpos : 0 < w.den * 10 ^ last.toNat := Nat.mul_pos hw.den_pos (Nat.pow_pos (by decide))
  refine ⟨Nat.div_mul_le_self _ _, ?_⟩
  rw [Nat.mul_comm (w.down last + 1)]
  exact Nat.lt_mul_div_succ _ hpos

/-- On the grid of eighteen digits the point below the value lies in the window: from one point to the
next is less than one part in `10 ^ 17`. -/
theorem Window.Wide.has_down (hw : w.Wide) (hlead : LeadsWith w.value w.den lead)
    (hlast : lead = last + 17) :
    w.has (w.down last * 10 ^ last.toNat) (10 ^ (-last).toNat) = true := by
  obtain ⟨hstep, -⟩ := hlead.scaled (k := 17) hlast
  obtain ⟨hle, hlt⟩ := down_le hw last
  have hpos : 0 < 10 ^ (-last).toNat := Nat.pow_pos (by decide)
  -- The step of the grid is smaller than what the window reaches below.
  have hbelow : w.value * 10 ^ (-last).toNat <
      2 ^ 55 * (w.value * 10 ^ (-last).toNat - w.low * 10 ^ (-last).toNat) := by
    rw [← Nat.sub_mul, ← Nat.mul_assoc]
    exact Nat.mul_lt_mul_of_pos_right hw.below hpos
  have habove : w.value * 10 ^ (-last).toNat < w.high * 10 ^ (-last).toNat :=
    Nat.mul_lt_mul_of_pos_right hw.above hpos
  have hpoint : w.down last * 10 ^ last.toNat * w.den =
      w.down last * (w.den * 10 ^ last.toNat) := by ring
  rw [Nat.add_mul, Nat.one_mul] at hlt
  have hinside : w.low * 10 ^ (-last).toNat < w.down last * 10 ^ last.toNat * w.den ∧
      w.down last * 10 ^ last.toNat * w.den < w.high * 10 ^ (-last).toNat := by
    rw [hpoint]
    omega
  unfold Window.has
  dsimp only
  split
  · simp only [Bool.and_eq_true, decide_eq_true_eq]
    exact ⟨Nat.le_of_lt hinside.1, Nat.le_of_lt hinside.2⟩
  · simp only [Bool.and_eq_true, decide_eq_true_eq]
    exact hinside

/-- A point of the grid of `n` digits has at most `n` digits, or is the next power of ten. -/
theorem Window.Wide.point?_le (hw : w.Wide) (hlead : LeadsWith w.value w.den lead) (hn : 0 < n)
    {p : ℕ × ℤ} (h : w.point? lead n = some p) : p.1 ≤ 10 ^ n ∧ lead = p.2 + (n - 1 : ℕ) := by
  have hlast : lead = (lead - (n - 1 : ℕ)) + (n - 1 : ℕ) := by omega
  obtain ⟨-, hsize⟩ := hlead.scaled hlast
  obtain ⟨hle, -⟩ := down_le hw (lead - (n - 1 : ℕ))
  rw [Nat.sub_add_cancel hn] at hsize
  have hdown : w.down (lead - (n - 1 : ℕ)) < 10 ^ n :=
    Nat.lt_of_mul_lt_mul_right (hle.trans_lt hsize)
  rcases point?_cases hlast h with rfl | rfl
  · exact ⟨Nat.le_of_lt hdown, hlast⟩
  · exact ⟨hdown, hlast⟩

/-- The search ends on the grid of eighteen digits at the latest. -/
theorem Window.Wide.search_le (hw : w.Wide) (hlead : LeadsWith w.value w.den lead) {fuel : ℕ}
    (hn : 0 < n) (hle : n ≤ 18) (hfuel : n + fuel = 19) :
    ∃ k ≤ 17, (w.search lead n fuel).1 ≤ 10 ^ 18 ∧ lead = (w.search lead n fuel).2 + (k : ℕ) := by
  induction fuel generalizing n with
  | zero => omega
  | succ fuel ih =>
    unfold search
    cases hpoint : w.point? lead n with
    | some p =>
      obtain ⟨hp, hlast⟩ := hw.point?_le hlead hn hpoint
      exact ⟨n - 1, by omega, hp.trans (Nat.pow_le_pow_right (by decide) hle), hlast⟩
    | none =>
      -- Eighteen digits are always enough, so the search has stopped by then.
      have hlt : n < 18 := by
        refine Nat.lt_of_le_of_ne hle ?_
        rintro rfl
        have hgrid : lead = lead - 17 + 17 := by omega
        have hsome := isSome_point? (n := 18) hgrid (hw.has_down hlead hgrid)
        rw [hpoint] at hsome
        cases hsome
      exact ih (by omega) hlt (by omega)

/-! ## The text -/

/-- Three bits are less than a digit. -/
theorem two_pow_le_ten_pow (k : ℕ) : 2 ^ (3 * k) ≤ 10 ^ k := by
  rw [Nat.pow_mul]
  exact Nat.pow_le_pow_left (by decide) k

/-- The leading exponent of a quotient is bounded by the sizes of its two numbers. -/
theorem leadingExponent_bounds {k : ℕ} (hk : 0 < k) (hnum : num < 2 ^ (3 * k))
    (hden : den < 2 ^ (3 * k)) :
    -(k : ℤ) ≤ leadingExponent num den ∧ leadingExponent num den ≤ k := by
  have hlength : ∀ {a b : ℕ}, a < 2 ^ (3 * k) → (Nat.toDigits 10 (a / b)).length ≤ k := fun ha =>
    (Nat.length_toDigits_le_iff (by decide) hk).mpr
      ((Nat.div_le_self _ _).trans_lt (ha.trans_le (two_pow_le_ten_pow k)))
  have hup := hlength (b := den) hnum
  have hdown := hlength (b := num) hden
  unfold leadingExponent
  dsimp only
  split
  · omega
  · split <;> omega

/-- The numbers of a window are bounded by the range of doubles. -/
theorem window_lt {k : ℕ} (hk : 1076 < 3 * k) (hlt : m < 2 ^ 53) (hleast : leastExponent ≤ e)
    (hgreatest : e ≤ greatestExponent) :
    (window m e).value < 2 ^ (3 * k) ∧ (window m e).den < 2 ^ (3 * k) := by
  unfold leastExponent at hleast
  unfold greatestExponent at hgreatest
  -- The cases of the definition are one power, with the exponent cut off at zero.
  have hnum : (if 2 ≤ e then 2 ^ (e - 2).toNat else 1) = 2 ^ (e - 2).toNat := by
    split
    · rfl
    · next h => rw [show (e - 2).toNat = 0 by omega, Nat.pow_zero]
  have hden : (if 2 ≤ e then 1 else 2 ^ (2 - e).toNat) = 2 ^ (2 - e).toNat := by
    split
    · next h => rw [show (2 - e).toNat = 0 by omega, Nat.pow_zero]
    · rfl
  unfold window
  simp only [Nat.pow_eq, hnum, hden]
  constructor
  · calc 4 * m * 2 ^ (e - 2).toNat
        < 2 ^ 55 * 2 ^ (e - 2).toNat :=
          Nat.mul_lt_mul_of_pos_right (by omega) (Nat.two_pow_pos _)
      _ = 2 ^ (55 + (e - 2).toNat) := (Nat.pow_add 2 55 _).symm
      _ ≤ 2 ^ (3 * k) := Nat.pow_le_pow_right (by decide) (by omega)
  · exact Nat.pow_lt_pow_right (by decide) (by omega)

/-- The shortest decimal of a double has at most nineteen digits. -/
theorem InRange.digits_bounds {x : Double} (hx : x.InRange) :
    x.digits.1.length ≤ 19 ∧ x.digits.2.natAbs < 1000 := by
  -- What the search finds has eighteen digits and an exponent of the range.
  have hshortest : x.shortest.1 ≤ 10 ^ 18 ∧ -417 ≤ x.shortest.2 ∧ x.shortest.2 ≤ 400 := by
    unfold shortest
    split
    · decide
    · next hm =>
      have hw := window_wide (Nat.pos_of_ne_zero hm) hx.significand_lt x.exponent
      have hvalue : 0 < (window x.significand x.exponent).value := by
        have hbelow := hw.below
        omega
      obtain ⟨hlt, hden⟩ := window_lt (k := 400) (by decide) hx.significand_lt hx.le_exponent
        hx.exponent_le
      obtain ⟨hlow, hhigh⟩ := leadingExponent_bounds (by decide) hlt hden
      have hfuel : 1 + 18 = 19 := rfl
      obtain ⟨k, hk, hd, hlead⟩ := hw.search_le (leadsWith_leadingExponent hvalue hw.den_pos)
        (by decide) (by decide) hfuel
      dsimp only
      omega
  unfold digits
  obtain ⟨hd, hlow, hhigh⟩ := hshortest
  generalize x.shortest = p at hd hlow hhigh
  obtain ⟨d, last⟩ := p
  dsimp only at hd hlow hhigh ⊢
  have hlength : (Nat.toDigits 10 d).length ≤ 19 :=
    (Nat.length_toDigits_le_iff (by decide) (by decide)).mpr (by omega)
  generalize Nat.toDigits 10 d = all at hlength
  -- Zeros at the end are dropped, which shortens the digits only.
  have hkept : (all.reverse.dropWhile (· = '0')).reverse.length ≤ all.length := by
    rw [List.length_reverse]
    exact (List.dropWhile_sublist _).length_le.trans_eq List.length_reverse
  refine ⟨?_, by omega⟩
  split
  · decide
  · omega

/-- A double of the range has a short text. -/
theorem length_renderDouble_le {x : Double} (hx : x.InRange) : (Json.renderDouble x).length ≤ 40 := by
  obtain ⟨hds, he⟩ := hx.digits_bounds
  have hexponent : (Nat.toDigits 10 x.digits.2.natAbs).length ≤ 3 :=
    (Nat.length_toDigits_le_iff (by decide) (by decide)).mpr he
  unfold Json.renderDouble
  generalize x.digits = p at hds he hexponent
  obtain ⟨ds, e⟩ := p
  dsimp only at hds he hexponent ⊢
  -- One for the sign, and 39 for each of the four forms.
  have hsign : (if x.negative then ['-'] else []).length ≤ 1 := by split <;> decide
  rw [List.length_append]
  refine (Nat.add_le_add hsign ?_).trans_eq (Nat.add_comm 1 39)
  split
  · decide
  · split
    · split
      · simp only [List.cons_append, List.length_cons, List.length_append] at hds ⊢
        omega
      · simp only [List.length_cons, List.length_append]
        omega
    · split
      · simp only [List.cons_append, List.length_cons, List.length_append, List.length_replicate]
        omega
      · -- At least one decimal is written, a zero if there is none.
        have hdecimals : (if ds.drop (e.toNat + 1) = [] then ['0'] else ds.drop (e.toNat + 1)).length ≤
            ds.length - (e.toNat + 1) + 1 := by
          rw [← List.length_drop]
          split
          · exact Nat.succ_le_succ (Nat.zero_le _)
          · exact Nat.le_succ _
        simp only [List.length_append, List.length_cons, List.length_replicate, List.length_take]
        omega

end FrameHost.Double
