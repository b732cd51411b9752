import FrameHost.Json.Printer
import FrameHost.Proofs.CanonicalValues
import Mathlib.Data.List.TakeWhile

/-!
# Numbers in writing

What is written for a number is read back as this number, wherever the text after it does not go on
with a number (`value_render_number`). For integers this is so if they fit into 64 bits. For a double
it is so if its text on its own is read back (`Double.Survives`): a reader of numbers finds the same
at the end of a text and before something else (`Finds`).
-/

namespace FrameHost

/-- The text of a double is read back as this double. -/
def Double.Survives (x : Double) : Prop :=
  Json.Value.parse (Json.Number.double x).text = .ok (.number (.double x))

namespace Json

variable {α β : Type} {cs rest r : List Char} {c : Char} {negative : Bool} {n : Number}

/-! ## Blanks -/

/-- No blank is skipped before a character that is none. -/
theorem skipBlanks_cons (hc : isBlank c = false) : skipBlanks (c :: cs) = c :: cs := by
  unfold skipBlanks
  rw [List.dropWhile_cons_of_neg]
  rw [hc]
  exact Bool.noConfusion

/-- No blank is skipped where there is none. -/
theorem skipBlanks_of_forall (hcs : ∀ c ∈ cs, isBlank c = false) : skipBlanks cs = cs := by
  cases cs with
  | nil => rfl
  | cons c cs => exact skipBlanks_cons (hcs c List.mem_cons_self)

/-! ## Where numbers end -/

/-- A text does not begin with what a number could go on with. -/
def EndsNumber (rest : List Char) : Prop :=
  ∀ c ∈ rest.head?, c.isDigit = false ∧ c ≠ '.' ∧ c ≠ 'e' ∧ c ≠ 'E'

/-- A comma, a closing bracket or a closing brace ends a number. -/
theorem endsNumber_cons (hc : c ∈ [',', ']', '\x7d']) : EndsNumber (c :: rest) := by
  intro c' hc'
  cases hc'
  simp only [List.mem_cons, List.not_mem_nil, or_false] at hc
  rcases hc with rfl | rfl | rfl <;> decide

/-- What ends a number has no digit to add to those before it. -/
theorem leadingDigits_append (hrest : EndsNumber rest) (cs : List Char) :
    leadingDigits (cs ++ rest) = leadingDigits cs := by
  unfold leadingDigits
  induction cs with
  | nil =>
    cases rest with
    | nil => rfl
    | cons c rest =>
      have hc := (hrest c rfl).1
      rw [List.nil_append, List.takeWhile_cons_of_neg (by rw [hc]; exact Bool.noConfusion)]
      rfl
  | cons c cs ih =>
    rw [List.cons_append, List.takeWhile_cons, List.takeWhile_cons, ih]

/-- What comes after the digits goes on with what ends the number. -/
theorem afterDigits_append (hrest : EndsNumber rest) (cs : List Char) :
    afterDigits (cs ++ rest) = afterDigits cs ++ rest := by
  unfold afterDigits
  induction cs with
  | nil =>
    cases rest with
    | nil => rfl
    | cons c rest =>
      have hc := (hrest c rfl).1
      rw [List.nil_append, List.dropWhile_cons_of_neg (by rw [hc]; exact Bool.noConfusion)]
      rfl
  | cons c cs ih =>
    rw [List.cons_append, List.dropWhile_cons, List.dropWhile_cons, ih]
    split <;> rfl

/-! ## Readers of numbers -/

/-- What a reader has found in a text it finds whatever follows the text, if no number goes on there;
and it leaves an end of the text. -/
def Finds (read : List Char → Read α) (cs : List Char) (a : α) (r : List Char) : Prop :=
  r <:+ cs ∧ ∀ rest, EndsNumber rest → read (cs ++ rest) = .ok (a, r ++ rest)

/-- The digits of an exponent are found whatever ends the number. -/
theorem finds_exponentDigits {large : Bool} {k : ℕ} {e : Option ℕ}
    (h : exponentDigits large k cs = .ok (e, r)) : Finds (exponentDigits large k) cs e r := by
  induction cs generalizing k with
  | nil =>
    cases h
    refine ⟨List.suffix_rfl, fun rest hrest => ?_⟩
    cases rest with
    | nil => rfl
    | cons c rest =>
      rw [List.nil_append]
      unfold exponentDigits
      rw [if_neg (by rw [(hrest c rfl).1]; exact Bool.noConfusion)]
  | cons c cs ih =>
    unfold exponentDigits at h
    dsimp only at h
    by_cases hc : c.isDigit = true
    · rw [if_pos hc] at h
      -- Beyond the greatest exponent the digits left are skipped, and else they go on.
      by_cases hlarge : greatestWritten < 10 * k + (c.toNat - 48)
      · rw [if_pos hlarge] at h
        split at h
        · cases h
        · next hnot =>
          cases h
          refine ⟨(List.dropWhile_suffix _).trans (List.suffix_cons c cs), fun rest hrest => ?_⟩
          rw [List.cons_append]
          unfold exponentDigits
          rw [if_pos hc]
          dsimp only
          rw [if_pos hlarge, if_neg hnot, afterDigits_append hrest]
      · rw [if_neg hlarge] at h
        obtain ⟨hsuffix, hmore⟩ := ih h
        refine ⟨hsuffix.trans (List.suffix_cons c cs), fun rest hrest => ?_⟩
        rw [List.cons_append]
        unfold exponentDigits
        rw [if_pos hc]
        dsimp only
        rw [if_neg hlarge]
        exact hmore rest hrest
    · rw [if_neg hc] at h
      cases h
      refine ⟨List.suffix_rfl, fun rest _ => ?_⟩
      rw [List.cons_append]
      unfold exponentDigits
      rw [if_neg hc]

/-- An exponent after its sign. -/
def unsignedExponent (nonzero minus : Bool) (cs : List Char) : Read (Option ℤ) :=
  match cs with
  | [] => .error (.here .endOfValue [])
  | c :: _ =>
    if c.isDigit then
      (exponentDigits (nonzero && !minus) 0 cs).as fun n? =>
        n?.map fun n => if minus then -(n : ℤ) else n
    else .error (.next .invalidNumber cs)

/-- The sign of an exponent is its first character, if it has one. -/
theorem exponent_cons (nonzero : Bool) (c : Char) (cs : List Char) :
    exponent nonzero (c :: cs) =
      if c = '-' then unsignedExponent nonzero true cs
      else if c = '+' then unsignedExponent nonzero false cs
      else unsignedExponent nonzero false (c :: cs) := by
  by_cases hminus : c = '-'
  · subst hminus
    rfl
  · by_cases hplus : c = '+'
    · subst hplus
      rfl
    · rw [if_neg hminus, if_neg hplus]
      -- The first character is no sign, so the third case applies.
      unfold exponent
      split
      next heq =>
        split at heq
        · next hcs => exact absurd (List.cons.inj hcs).1 hminus
        · next hcs => exact absurd (List.cons.inj hcs).1 hplus
        · cases heq
          rfl

/-- An exponent without its sign is found whatever ends the number. -/
theorem finds_unsignedExponent {nonzero minus : Bool} {e : Option ℤ}
    (h : unsignedExponent nonzero minus cs = .ok (e, r)) :
    Finds (unsignedExponent nonzero minus) cs e r := by
  cases cs with
  | nil => cases h
  | cons c cs =>
    unfold unsignedExponent at h
    dsimp only at h
    by_cases hc : c.isDigit = true
    · rw [if_pos hc] at h
      -- There must be one digit at least, and then all that come.
      obtain ⟨n?, hn, rfl⟩ := Read.of_as h
      obtain ⟨hsuffix, hmore⟩ := finds_exponentDigits hn
      refine ⟨hsuffix, fun rest hrest => ?_⟩
      have hread := hmore rest hrest
      rw [List.cons_append] at hread ⊢
      unfold unsignedExponent
      dsimp only
      rw [if_pos hc, hread]
      rfl
    · rw [if_neg hc] at h
      cases h

/-- An exponent is found whatever ends the number. -/
theorem finds_exponent {nonzero : Bool} {e : Option ℤ} (h : exponent nonzero cs = .ok (e, r)) :
    Finds (exponent nonzero) cs e r := by
  cases cs with
  | nil => cases h
  | cons c cs =>
    rw [exponent_cons] at h
    -- With the rest behind it the text has the same first character.
    have hcons : ∀ rest, exponent nonzero (c :: cs ++ rest) = _ := fun rest =>
      exponent_cons nonzero c (cs ++ rest)
    by_cases hminus : c = '-'
    · rw [if_pos hminus] at h
      obtain ⟨hsuffix, hmore⟩ := finds_unsignedExponent h
      refine ⟨hsuffix.trans (List.suffix_cons c cs), fun rest hrest => ?_⟩
      rw [hcons, if_pos hminus]
      exact hmore rest hrest
    · by_cases hplus : c = '+'
      · rw [if_neg hminus, if_pos hplus] at h
        obtain ⟨hsuffix, hmore⟩ := finds_unsignedExponent h
        refine ⟨hsuffix.trans (List.suffix_cons c cs), fun rest hrest => ?_⟩
        rw [hcons, if_neg hminus, if_pos hplus]
        exact hmore rest hrest
      · rw [if_neg hminus, if_neg hplus] at h
        obtain ⟨hsuffix, hmore⟩ := finds_unsignedExponent h
        refine ⟨hsuffix, fun rest hrest => ?_⟩
        rw [hcons, if_neg hminus, if_neg hplus]
        exact hmore rest hrest

/-- A double that is read leaves the text as it is. -/
theorem double_eq_ok {k : ℕ} {e : ℤ} (h : double negative k e cs = .ok (n, r)) :
    r = cs ∧ ∀ rest, double negative k e rest = .ok (n, rest) := by
  unfold double at h ⊢
  split at h
  · cases h
    exact ⟨rfl, fun rest => rfl⟩
  · cases h

/-- The digits of an integer make an integer or a double, whatever comes after them. -/
theorem integer_cases (negative : Bool) (k more : ℕ) :
    (∃ m, ∀ rest, integer negative k more rest = .ok (.int m, rest)) ∨
      ∃ e, ∀ rest, integer negative k more rest = double negative k e rest := by
  by_cases hmore : 0 < more
  · exact .inr ⟨more, fun _ => if_pos hmore⟩
  · have hnone : ∀ rest, integer negative k more rest = _ := fun _ => if_neg hmore
    cases negative with
    | true =>
      by_cases hfits : 0 < k ∧ k ≤ Nat.pow 2 63
      · exact .inl ⟨-(k : ℤ), fun rest => (hnone rest).trans (if_pos hfits)⟩
      · exact .inr ⟨0, fun rest => (hnone rest).trans (if_neg hfits)⟩
    | false => exact .inl ⟨k, hnone⟩

/-- A whole number is made from its digits alone, whatever follows. -/
theorem integer_eq_ok {k more : ℕ} (h : integer negative k more cs = .ok (n, r)) :
    r = cs ∧ ∀ rest, integer negative k more rest = .ok (n, rest) := by
  rcases integer_cases negative k more with ⟨m, hint⟩ | ⟨e, hdouble⟩
  · rw [hint] at h
    cases h
    exact ⟨rfl, hint⟩
  · rw [hdouble] at h
    obtain ⟨hr, hall⟩ := double_eq_ok h
    exact ⟨hr, fun rest => (hdouble rest).trans (hall rest)⟩

/-- After the mantissa comes an exponent, or the number is over. -/
theorem afterMantissa_cons (k : ℕ) (scale : ℤ) (c : Char) (cs : List Char) :
    afterMantissa negative k scale (c :: cs) =
      if c = 'e' ∨ c = 'E' then
        (exponent (k ≠ 0) cs).andThen (withExponent negative k scale)
      else double negative k scale (c :: cs) := by
  by_cases hlower : c = 'e'
  · subst hlower
    rfl
  · by_cases hupper : c = 'E'
    · subst hupper
      rfl
    · -- Neither letter comes first, so the last case applies.
      rw [if_neg (not_or.mpr ⟨hlower, hupper⟩)]
      unfold afterMantissa
      split
      · next hcs => exact absurd (List.cons.inj hcs).1 hlower
      · next hcs => exact absurd (List.cons.inj hcs).1 hupper
      · rfl

/-- A number is made from its mantissa and exponent alone, whatever follows. -/
theorem withExponent_eq_ok {k : ℕ} {scale : ℤ} {e? : Option ℤ}
    (h : withExponent negative k scale e? cs = .ok (n, r)) :
    r = cs ∧ ∀ rest, withExponent negative k scale e? rest = .ok (n, rest) := by
  cases e? with
  | some e => exact double_eq_ok h
  | none =>
    cases h
    exact ⟨rfl, fun rest => rfl⟩

/-- What comes after the mantissa is found whatever ends the number. -/
theorem finds_afterMantissa {k : ℕ} {scale : ℤ}
    (h : afterMantissa negative k scale cs = .ok (n, r)) :
    Finds (afterMantissa negative k scale) cs n r := by
  cases cs with
  | nil =>
    obtain ⟨rfl, hall⟩ := double_eq_ok h
    refine ⟨List.suffix_rfl, fun rest hrest => ?_⟩
    cases rest with
    | nil => exact hall []
    | cons c rest =>
      -- Nothing is left, and what ends the number is no exponent sign.
      obtain ⟨-, -, hlower, hupper⟩ := hrest c rfl
      rw [List.nil_append, afterMantissa_cons, if_neg (not_or.mpr ⟨hlower, hupper⟩)]
      exact hall (c :: rest)
  | cons c cs =>
    rw [afterMantissa_cons] at h
    by_cases hc : c = 'e' ∨ c = 'E'
    · rw [if_pos hc] at h
      -- The exponent is read, and the number made of it alone.
      obtain ⟨e?, cs', he, h⟩ := Read.of_andThen h
      obtain ⟨rfl, hall⟩ := withExponent_eq_ok h
      obtain ⟨hsuffix, hmore⟩ := finds_exponent he
      refine ⟨hsuffix.trans (List.suffix_cons c cs), fun rest hrest => ?_⟩
      rw [List.cons_append, afterMantissa_cons, if_pos hc, hmore rest hrest]
      exact hall (r ++ rest)
    · rw [if_neg hc] at h
      obtain ⟨rfl, hall⟩ := double_eq_ok h
      refine ⟨List.suffix_rfl, fun rest _ => ?_⟩
      rw [List.cons_append, afterMantissa_cons, if_neg hc]
      exact hall _

/-- A number after its digits and the point; the digits make `k`, and there are `more` after those. -/
def fraction (negative : Bool) (k more : ℕ) (cs : List Char) : Read Number :=
  if leadingDigits cs = [] then
    .error (.next (if cs = [] then .endOfValue else .invalidNumber) cs)
  else
    afterMantissa negative (takeDigits k (leadingDigits cs)).1
      ((more : ℤ) + ((takeDigits k (leadingDigits cs)).2.length : ℤ)
        - ((leadingDigits cs).length : ℤ)) (afterDigits cs)

/-- A number after its digits. -/
def afterInteger (negative : Bool) (k more : ℕ) (cs : List Char) : Read Number :=
  match cs with
  | '.' :: cs => fraction negative k more cs
  | 'e' :: _ | 'E' :: _ => afterMantissa negative k more cs
  | cs => integer negative k more cs

/-- After the whole digits come a fraction or an exponent, or the number is over. -/
theorem afterInteger_cons (k more : ℕ) (c : Char) (cs : List Char) :
    afterInteger negative k more (c :: cs) =
      if c = '.' then fraction negative k more cs
      else if c = 'e' ∨ c = 'E' then afterMantissa negative k more (c :: cs)
      else integer negative k more (c :: cs) := by
  by_cases hpoint : c = '.'
  · subst hpoint
    rfl
  · by_cases hlower : c = 'e'
    · subst hlower
      rfl
    · by_cases hupper : c = 'E'
      · subst hupper
        rfl
      · -- None of the three signs comes first, so the last case applies.
        rw [if_neg hpoint, if_neg (not_or.mpr ⟨hlower, hupper⟩)]
        unfold afterInteger
        split
        · next hcs => exact absurd (List.cons.inj hcs).1 hpoint
        · next hcs => exact absurd (List.cons.inj hcs).1 hlower
        · next hcs => exact absurd (List.cons.inj hcs).1 hupper
        · rfl

/-- A fraction is found whatever ends the number. -/
theorem finds_fraction {k more : ℕ} (h : fraction negative k more cs = .ok (n, r)) :
    Finds (fraction negative k more) cs n r := by
  have hafter : afterDigits cs <:+ cs := List.dropWhile_suffix _
  unfold fraction at h
  by_cases hdigits : leadingDigits cs = []
  · rw [if_pos hdigits] at h
    cases h
  · rw [if_neg hdigits] at h
    obtain ⟨hsuffix, hmore⟩ := finds_afterMantissa h
    refine ⟨hsuffix.trans hafter, fun rest hrest => ?_⟩
    unfold fraction
    rw [leadingDigits_append hrest, afterDigits_append hrest, if_neg hdigits]
    exact hmore rest hrest

/-- What comes after the whole digits is found whatever ends the number. -/
theorem finds_afterInteger {k more : ℕ} (h : afterInteger negative k more cs = .ok (n, r)) :
    Finds (afterInteger negative k more) cs n r := by
  cases cs with
  | nil =>
    obtain ⟨rfl, hall⟩ := integer_eq_ok h
    refine ⟨List.suffix_rfl, fun rest hrest => ?_⟩
    cases rest with
    | nil => exact hall []
    | cons c rest =>
      -- Nothing is left, and what ends the number is neither a point nor an exponent sign.
      obtain ⟨-, hpoint, hlower, hupper⟩ := hrest c rfl
      rw [List.nil_append, afterInteger_cons, if_neg hpoint,
        if_neg (not_or.mpr ⟨hlower, hupper⟩)]
      exact hall (c :: rest)
  | cons c cs =>
    rw [afterInteger_cons] at h
    have hcons : ∀ rest, afterInteger negative k more (c :: cs ++ rest) = _ := fun rest =>
      afterInteger_cons k more c (cs ++ rest)
    by_cases hpoint : c = '.'
    · rw [if_pos hpoint] at h
      obtain ⟨hsuffix, hmore⟩ := finds_fraction h
      refine ⟨hsuffix.trans (List.suffix_cons c cs), fun rest hrest => ?_⟩
      rw [hcons, if_pos hpoint]
      exact hmore rest hrest
    · by_cases hexponent : c = 'e' ∨ c = 'E'
      · rw [if_neg hpoint, if_pos hexponent] at h
        obtain ⟨hsuffix, hmore⟩ := finds_afterMantissa h
        refine ⟨hsuffix, fun rest hrest => ?_⟩
        rw [hcons, if_neg hpoint, if_pos hexponent]
        exact hmore rest hrest
      · rw [if_neg hpoint, if_neg hexponent] at h
        obtain ⟨rfl, hall⟩ := integer_eq_ok h
        refine ⟨List.suffix_rfl, fun rest _ => ?_⟩
        rw [hcons, if_neg hpoint, if_neg hexponent]
        exact hall (c :: cs ++ rest)

/-- Digits begin a number: there is one, and only a single one is zero. -/
def Begins (ds : List Char) : Prop := ds ≠ [] ∧ ∀ c cs, ds ≠ '0' :: c :: cs

/-- A number is read from its whole digits where they are well begun. -/
theorem unsigned_of_begins (h : Begins (leadingDigits cs)) :
    unsigned negative cs = afterInteger negative (takeDigits 0 (leadingDigits cs)).1
      (takeDigits 0 (leadingDigits cs)).2.length (afterDigits cs) := by
  unfold unsigned
  dsimp only
  split
  · next hds => exact absurd hds h.1
  · next hds => exact absurd hds (h.2 _ _)
  · rfl

/-- A number that is read has well begun digits. -/
theorem begins_of_unsigned (h : unsigned negative cs = .ok (n, r)) :
    Begins (leadingDigits cs) := by
  unfold unsigned at h
  dsimp only at h
  split at h
  · cases h
  · cases h
  · next hnil hzero => exact ⟨hnil, fun c cs hds => hzero _ _ hds⟩

/-- A number after its sign. -/
theorem finds_unsigned (h : unsigned negative cs = .ok (n, r)) :
    Finds (unsigned negative) cs n r := by
  have hafter : afterDigits cs <:+ cs := List.dropWhile_suffix _
  have hbegins := begins_of_unsigned h
  rw [unsigned_of_begins hbegins] at h
  obtain ⟨hsuffix, hmore⟩ := finds_afterInteger h
  refine ⟨hsuffix.trans hafter, fun rest hrest => ?_⟩
  have hdigits := leadingDigits_append hrest cs
  rw [unsigned_of_begins (hdigits ▸ hbegins), hdigits, afterDigits_append hrest]
  exact hmore rest hrest

/-! ## Values that are numbers -/

/-- A digit is no blank. -/
theorem isBlank_of_isDigit (hc : c.isDigit = true) : isBlank c = false := by
  by_contra hblank
  have hmem : ((c = ' ' ∨ c = '\n') ∨ c = '\t') ∨ c = '\r' := by
    simpa [isBlank, or_iff_not_imp_left] using hblank
  rcases hmem with ((rfl | rfl) | rfl) | rfl <;> cases hc

/-- A value that begins with a minus sign is a negative number. -/
theorem value_minus (depth : ℕ) (cs : List Char) :
    value depth ('-' :: cs) = (unsigned true cs).as .number := by
  unfold value
  rfl

/-- A value that begins with a digit is a number. -/
theorem value_digit (depth : ℕ) (hc : c.isDigit = true) (cs : List Char) :
    value depth (c :: cs) = (unsigned false (c :: cs)).as .number := by
  unfold value
  rw [skipBlanks_cons (isBlank_of_isDigit hc)]
  split
  case h_9 heq =>
    cases heq
    rw [if_pos hc]
  -- No other value begins with a digit.
  all_goals
    next heq => cases heq <;> cases hc

/-- A number begins with the minus sign or with a digit. -/
theorem value_eq_number {depth : ℕ} (hcs : skipBlanks cs = cs)
    (h : value depth cs = .ok (.number n, r)) :
    (∃ t, cs = '-' :: t ∧ unsigned true t = .ok (n, r)) ∨
      ∃ c t, cs = c :: t ∧ c.isDigit = true ∧ unsigned false (c :: t) = .ok (n, r) := by
  unfold value at h
  rw [hcs] at h
  split at h
  case h_1 => cases h
  case h_2 => obtain ⟨_, _, heq⟩ := Read.of_as h; cases heq
  case h_3 => obtain ⟨_, _, heq⟩ := Read.of_as h; cases heq
  case h_4 => obtain ⟨_, _, heq⟩ := Read.of_as h; cases heq
  -- A minus sign.
  case h_5 =>
    obtain ⟨_, hn, heq⟩ := Read.of_as h
    cases heq
    exact .inl ⟨_, rfl, hn⟩
  case h_6 => obtain ⟨_, _, heq⟩ := Read.of_as h; cases heq
  case h_7 =>
    split at h
    · cases h
    · obtain ⟨_, _, heq⟩ := Read.of_as h
      cases heq
  case h_8 =>
    split at h
    · cases h
    · obtain ⟨_, _, heq⟩ := Read.of_as h
      cases heq
  -- No sign, so a digit if it is a number.
  case h_9 =>
    split at h
    · next hc =>
      obtain ⟨_, hn, heq⟩ := Read.of_as h
      cases heq
      exact .inr ⟨_, _, rfl, hc, hn⟩
    · cases h

/-! ## Doubles -/

/-- A character stands in the text of a double. -/
def InDouble (c : Char) : Prop := c.isDigit = true ∨ c ∈ ['-', '+', '.', 'e']

/-- No character of a double is a blank. -/
theorem InDouble.isBlank (hc : InDouble c) : isBlank c = false := by
  rcases hc with hdigit | hmem
  · exact isBlank_of_isDigit hdigit
  · simp only [List.mem_cons, List.not_mem_nil, or_false] at hmem
    rcases hmem with rfl | rfl | rfl | rfl <;> rfl

/-- A whole number is written in digits. -/
theorem isDigit_toDigits (k : ℕ) : ∀ c ∈ Nat.toDigits 10 k, c.isDigit = true := fun _ hc =>
  Nat.isDigit_of_mem_toDigits (by decide) (Nat.le_refl 10) hc

/-- The shortest digits of a double are digits. -/
theorem isDigit_digits (x : Double) : ∀ c ∈ x.digits.1, c.isDigit = true := by
  intro c hc
  unfold Double.digits at hc
  dsimp only at hc
  split at hc
  · rw [List.mem_singleton.mp hc]
    rfl
  · have hkept := List.mem_reverse.mp hc
    have hall := (List.dropWhile_sublist _).subset hkept
    exact isDigit_toDigits _ c (List.mem_reverse.mp hall)

/-- A double is written in the characters of doubles. -/
theorem inDouble_renderDouble (x : Double) : ∀ c ∈ renderDouble x, InDouble c := by
  have hdigits : ∀ c ∈ x.digits.1, InDouble c := fun c hc => .inl (isDigit_digits x c hc)
  have hexponent : ∀ k, ∀ c ∈ Nat.toDigits 10 k, InDouble c := fun k c hc =>
    .inl (isDigit_toDigits k c hc)
  have hzero : InDouble '0' := .inl rfl
  have hpoint : InDouble '.' := .inr (by decide)
  have hzeros : ∀ k, ∀ c ∈ List.replicate k '0', InDouble c := fun k c hc =>
    List.eq_of_mem_replicate hc ▸ hzero
  unfold renderDouble
  generalize x.digits = digits at hdigits
  obtain ⟨ds, e⟩ := digits
  dsimp only at hdigits ⊢
  -- The text is a sign, or none, and then one of four forms.
  refine List.forall_mem_append.mpr ⟨?sign, ?body⟩
  case sign =>
    split
    · exact List.forall_mem_singleton.mpr (.inr (by decide))
    · exact List.forall_mem_nil _
  case body =>
    split
    · exact List.forall_mem_cons.mpr
        ⟨hzero, List.forall_mem_cons.mpr ⟨hpoint, List.forall_mem_singleton.mpr hzero⟩⟩
    · split
      · -- Large and small numbers have an exponent.
        have hscientific : ∀ c ∈ 'e' :: (if e < 0 then '-' else '+') :: Nat.toDigits 10 e.natAbs,
            InDouble c := by
          refine List.forall_mem_cons.mpr
            ⟨.inr (by decide), List.forall_mem_cons.mpr ⟨?_, hexponent _⟩⟩
          split <;> exact .inr (by decide)
        split
        · next d r rs =>
          obtain ⟨hd, hrs⟩ := List.forall_mem_cons.mp hdigits
          exact List.forall_mem_append.mpr
            ⟨List.forall_mem_cons.mpr ⟨hd, List.forall_mem_cons.mpr ⟨hpoint, hrs⟩⟩, hscientific⟩
        · exact List.forall_mem_append.mpr ⟨hdigits, hscientific⟩
      · split
        · exact List.forall_mem_append.mpr
            ⟨List.forall_mem_cons.mpr ⟨hzero, List.forall_mem_cons.mpr ⟨hpoint, hzeros _⟩⟩, hdigits⟩
        · -- The others have a point among their digits, or zeros up to it.
          have hwhole : ∀ c ∈ ds.take (e.toNat + 1), InDouble c := fun c hc =>
            hdigits c (List.mem_of_mem_take hc)
          refine List.forall_mem_append.mpr ⟨List.forall_mem_append.mpr ⟨hwhole, hzeros _⟩,
            List.forall_mem_cons.mpr ⟨hpoint, ?_⟩⟩
          split
          · exact List.forall_mem_singleton.mpr hzero
          · exact fun c hc => hdigits c (List.mem_of_mem_drop hc)

/-- A text is parsed when a value is read and only blanks are left. -/
theorem parse_eq_ok {text : String} {v : Value} :
    Value.parse text = .ok v ↔
      ∃ r, value depthLimit text.toList = .ok (v, r) ∧ skipBlanks r = [] := by
  unfold Value.parse whole
  constructor
  · intro h
    split at h
    · cases h
    · next v' r hread =>
      split at h
      · next hblank =>
        cases h
        exact ⟨r, hread, hblank⟩
      · cases h
  · rintro ⟨r, hread, hblank⟩
    rw [hread]
    dsimp only
    rw [hblank]

/-- The text of a double that survives is a whole number, after a minus sign or from a digit on. -/
theorem unsigned_renderDouble {x : Double} (hx : x.Survives) :
    (∃ t, renderDouble x = '-' :: t ∧ unsigned true t = .ok (.double x, [])) ∨
      ∃ c t, renderDouble x = c :: t ∧ c.isDigit = true ∧
        unsigned false (c :: t) = .ok (.double x, []) := by
  have hblank : ∀ c ∈ renderDouble x, isBlank c = false := fun c hc =>
    (inDouble_renderDouble x c hc).isBlank
  obtain ⟨r, hread, hr⟩ := parse_eq_ok.mp hx
  have hlist : (Number.double x).text.toList = renderDouble x := String.toList_ofList
  rw [hlist] at hread
  -- The reader leaves an end of the text, and there are no blanks in it.
  have hend : r <:+ renderDouble x → r = [] := fun hsuffix => by
    rw [← hr, skipBlanks_of_forall fun c hc => hblank c (hsuffix.subset hc)]
  rcases value_eq_number (skipBlanks_of_forall hblank) hread with
    ⟨t, ht, hn⟩ | ⟨c, t, ht, hc, hn⟩
  · have hsuffix : r <:+ '-' :: t := (finds_unsigned hn).1.trans (List.suffix_cons '-' t)
    obtain rfl : r = [] := hend (ht ▸ hsuffix)
    exact .inl ⟨t, ht, hn⟩
  · have hsuffix : r <:+ c :: t := (finds_unsigned hn).1
    obtain rfl : r = [] := hend (ht ▸ hsuffix)
    exact .inr ⟨c, t, ht, hc, hn⟩

/-- A double that survives is read back, whatever ends it. -/
theorem value_renderDouble {x : Double} (hx : x.Survives) (depth : ℕ) (hrest : EndsNumber rest) :
    value depth (renderDouble x ++ rest) = .ok (.number (.double x), rest) := by
  rcases unsigned_renderDouble hx with ⟨t, ht, hn⟩ | ⟨c, t, ht, hc, hn⟩
  · have hread : unsigned true (t ++ rest) = .ok (.double x, rest) :=
      (finds_unsigned hn).2 rest hrest
    rw [ht, List.cons_append, value_minus, hread]
    rfl
  · have hread : unsigned false (c :: (t ++ rest)) = .ok (.double x, rest) :=
      (finds_unsigned hn).2 rest hrest
    rw [ht, List.cons_append, value_digit depth hc, hread]
    rfl

/-! ## Integers -/

/-- The digits of a whole number lead what is written. -/
theorem leadingDigits_toDigits (k : ℕ) (hrest : EndsNumber rest) :
    leadingDigits (Nat.toDigits 10 k ++ rest) = Nat.toDigits 10 k := by
  rw [leadingDigits_append hrest]
  exact List.takeWhile_eq_self_iff.mpr (isDigit_toDigits k)

/-- After the digits of a whole number comes what ends it. -/
theorem afterDigits_toDigits (k : ℕ) (hrest : EndsNumber rest) :
    afterDigits (Nat.toDigits 10 k ++ rest) = rest := by
  rw [afterDigits_append hrest]
  unfold afterDigits
  rw [List.dropWhile_eq_nil_iff.mpr (isDigit_toDigits k)]
  rfl

/-- Digits that fit are taken before those after them. -/
theorem takeDigits_append {k m : ℕ} {ds : List Char} (hds : takeDigits k ds = (m, []))
    (es : List Char) : takeDigits k (ds ++ es) = takeDigits m es := by
  induction ds generalizing k with
  | nil =>
    cases hds
    rfl
  | cons d ds ih =>
    unfold takeDigits at hds
    dsimp only at hds
    rw [List.cons_append]
    conv_lhs => unfold takeDigits
    dsimp only
    split at hds
    · next hle => rw [if_pos hle, ih hds]
    · cases hds

/-- One more digit is taken when the significand stays in range. -/
theorem takeDigits_digitChar {k d : ℕ} (hd : d < 10) (hle : 10 * k + d ≤ greatestSignificand) :
    takeDigits k [d.digitChar] = (10 * k + d, []) := by
  have hvalue : ∀ d < 10, d.digitChar.toNat - 48 = d := by decide
  unfold takeDigits
  dsimp only
  rw [hvalue d hd, if_pos hle]
  rfl

/-- The digits of a number of 64 bits are all taken. -/
theorem takeDigits_toDigits {k : ℕ} (hk : k ≤ greatestSignificand) :
    takeDigits 0 (Nat.toDigits 10 k) = (k, []) := by
  induction k using Nat.strongRecOn with
  | ind k ih =>
    by_cases hlt : k < 10
    · have hone := takeDigits_digitChar (k := 0) hlt (by omega)
      rw [Nat.toDigits_of_lt_base hlt, hone, Nat.mul_zero, Nat.zero_add]
    · have hle : 10 ≤ k := Nat.le_of_not_lt hlt
      have hsplit : 10 * (k / 10) + k % 10 = k := Nat.div_add_mod k 10
      have hfront := ih (k / 10) (by omega) (by omega)
      rw [Nat.toDigits_of_base_le (by decide) hle, takeDigits_append hfront,
        takeDigits_digitChar (Nat.mod_lt k (by decide)) (hsplit.symm ▸ hk), hsplit]

/-- A positive number is written without a leading zero. -/
theorem head?_toDigits {k : ℕ} (hk : 0 < k) : (Nat.toDigits 10 k).head? ≠ some '0' := by
  induction k using Nat.strongRecOn with
  | ind k ih =>
    by_cases hlt : k < 10
    · have hdigit : ∀ k < 10, 0 < k → k.digitChar ≠ '0' := by decide
      rw [Nat.toDigits_of_lt_base hlt]
      exact fun heq => hdigit k hlt hk (Option.some.inj heq)
    · have hle : 10 ≤ k := Nat.le_of_not_lt hlt
      rw [Nat.toDigits_of_base_le (by decide) hle,
        List.head?_append_of_ne_nil _ Nat.toDigits_ne_nil]
      exact ih (k / 10) (by omega) (by omega)

/-- The digits of a whole number are well begun. -/
theorem begins_toDigits (k : ℕ) : Begins (Nat.toDigits 10 k) := by
  refine ⟨Nat.toDigits_ne_nil, fun c cs heq => ?_⟩
  rcases Nat.eq_zero_or_pos k with rfl | hk
  · cases heq
  · have hhead := head?_toDigits hk
    rw [heq] at hhead
    exact hhead rfl

/-- The digits of a number of 64 bits are read as the integer that they write. -/
theorem unsigned_toDigits (negative : Bool) {k : ℕ} (hk : k ≤ greatestSignificand)
    (hrest : EndsNumber rest) :
    unsigned negative (Nat.toDigits 10 k ++ rest) = integer negative k 0 rest := by
  have hdigits := leadingDigits_toDigits k hrest
  have hbegins : Begins (leadingDigits (Nat.toDigits 10 k ++ rest)) := by
    rw [hdigits]
    exact begins_toDigits k
  rw [unsigned_of_begins hbegins, hdigits, afterDigits_toDigits k hrest, takeDigits_toDigits hk]
  cases rest with
  | nil => rfl
  | cons c rest =>
    obtain ⟨-, hpoint, hlower, hupper⟩ := hrest c rfl
    rw [afterInteger_cons, if_neg hpoint, if_neg (not_or.mpr ⟨hlower, hupper⟩)]
    rfl

/-- A whole number of the range is read back, whatever ends it. -/
theorem value_renderInt {m : ℤ} (hm : (Number.int m).Fits) (depth : ℕ) (hrest : EndsNumber rest) :
    value depth (renderInt m ++ rest) = .ok (.number (.int m), rest) := by
  obtain ⟨hlow, hhigh⟩ : -Nat.pow 2 63 ≤ m ∧ m < Nat.pow 2 64 := hm
  have hsize : m.natAbs ≤ greatestSignificand := by
    simp only [greatestSignificand, Nat.pow_eq] at hlow hhigh ⊢
    omega
  unfold renderInt
  split
  · next hneg =>
    -- A negative number is in the signed range.
    have hfits : 0 < m.natAbs ∧ m.natAbs ≤ Nat.pow 2 63 := by omega
    have habs : -(m.natAbs : ℤ) = m := by omega
    have hint : integer true m.natAbs 0 rest = .ok (.int (-(m.natAbs : ℤ)), rest) := if_pos hfits
    rw [List.cons_append, value_minus, unsigned_toDigits true hsize hrest, hint, habs]
    rfl
  · next hpos =>
    have habs : (m.natAbs : ℤ) = m := by omega
    -- Every significand is in the unsigned range.
    have hint : integer false m.natAbs 0 rest = .ok (.int m.natAbs, rest) := rfl
    obtain ⟨c, cs, hcs⟩ := List.exists_cons_of_ne_nil (@Nat.toDigits_ne_nil m.natAbs 10)
    have hc : c.isDigit = true := isDigit_toDigits m.natAbs c (hcs ▸ List.mem_cons_self)
    have hunsigned := unsigned_toDigits false hsize hrest
    rw [hcs, List.cons_append] at hunsigned ⊢
    rw [value_digit depth hc, hunsigned, hint, habs]
    rfl

/-! ## Numbers -/

/-- The text of a number begins with the minus sign or with a digit. -/
theorem render_number_cons (hdouble : ∀ x, n = .double x → x.Survives) :
    ∃ c t, n.render = c :: t ∧ (c = '-' ∨ c.isDigit = true) := by
  cases n with
  | int m =>
    obtain ⟨c, t, ht⟩ := List.exists_cons_of_ne_nil (@Nat.toDigits_ne_nil m.natAbs 10)
    have hc : c.isDigit = true := isDigit_toDigits m.natAbs c (ht ▸ List.mem_cons_self)
    show ∃ c t, renderInt m = c :: t ∧ _
    unfold renderInt
    split
    · exact ⟨'-', _, rfl, .inl rfl⟩
    · exact ⟨c, t, ht, .inr hc⟩
  | double x =>
    rcases unsigned_renderDouble (hdouble x rfl) with ⟨t, ht, -⟩ | ⟨c, t, ht, hc, -⟩
    · exact ⟨'-', t, ht, .inl rfl⟩
    · exact ⟨c, t, ht, .inr hc⟩

/-- A number is read back before everything that does not go on with it. -/
theorem value_render_number (hfits : n.Fits) (hdouble : ∀ x, n = .double x → x.Survives)
    (depth : ℕ) (hrest : EndsNumber rest) :
    value depth (n.render ++ rest) = .ok (.number n, rest) := by
  cases n with
  | int m => exact value_renderInt hfits depth hrest
  | double x => exact value_renderDouble (hdouble x rfl) depth hrest

end Json

end FrameHost
