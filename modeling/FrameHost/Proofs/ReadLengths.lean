import FrameHost.Proofs.JsonNumbers
import FrameHost.Proofs.ShortestDecimals

/-!
# How large a parsed value is

No reader leaves more of a text than it was given, so an array has at most as many items as the text
has characters; and a number that was read has a text of at most forty characters, whatever the
number of digits that were read (`bounded_parse`). Of all parts of a value only its strings and its
keys can be longer than that when they are told.
-/

namespace FrameHost.Json

variable {cs rest : List Char} {c : Char}

/-! ## Strings -/

/-- Reading four hexadecimal digits leaves an end of the text. -/
theorem suffix_hexUnit {k : ℕ} (h : hexUnit cs = .ok (k, rest)) : rest <:+ cs := by
  unfold hexUnit at h
  split at h
  · cases h
  · split at h
    · next r hvalue =>
      cases h
      unfold hexValue4? at hvalue
      split at hvalue
      · split at hvalue
        · cases hvalue
          exact ⟨[_, _, _, _], rfl⟩
        · -- Four digits are taken.
          cases hvalue
      · cases hvalue
    · cases h

/-- Reading the second half of a surrogate pair leaves an end of the text. -/
theorem suffix_lowSurrogate {high : ℕ} (h : lowSurrogate high cs = .ok (c, rest)) :
    rest <:+ cs := by
  unfold lowSurrogate at h
  split at h
  · cases h
  · cases h
  · next cs =>
    -- The second unit follows a backslash and a u.
    obtain ⟨low, after, hlow, h⟩ := Read.of_andThen h
    split at h
    · obtain ⟨-, rfl⟩ := Prod.mk.inj (Except.ok.inj h)
      exact (suffix_hexUnit hlow).trans (List.suffix_append ['\\', 'u'] cs)
    · cases h
  · cases h
  · cases h

/-- Reading an escape leaves an end of the text. -/
theorem suffix_escaped (h : escaped cs = .ok (c, rest)) : rest <:+ cs := by
  unfold escaped at h
  split at h
  case h_10 cs =>
    obtain ⟨unit, after, hunit, h⟩ := Read.of_andThen h
    have hafter := (suffix_hexUnit hunit).trans (List.suffix_cons 'u' cs)
    split at h
    · cases h
    · split at h
      · exact (suffix_lowSurrogate h).trans hafter
      · cases h
        exact hafter
  -- The other escapes are one character each, or a fault.
  all_goals first
    | cases h; exact List.suffix_cons _ _
    | cases h

/-- Reading a string leaves an end of the text. -/
theorem suffix_quoted {acc : List Char} {fuel : ℕ} {s : String}
    (h : quoted acc fuel cs = .ok (s, rest)) : rest <:+ cs := by
  induction fuel generalizing acc cs with
  | zero => cases h
  | succ fuel ih =>
    cases cs with
    | nil => cases h
    | cons c cs =>
      have hcons := List.suffix_cons c cs
      unfold quoted at h
      -- The closing quote, an escape, or a character as it stands.
      split at h
      · cases h
        exact hcons
      · split at h
        · obtain ⟨a, after, ha, h⟩ := Read.of_andThen h
          exact (ih h).trans ((suffix_escaped ha).trans hcons)
        · split at h
          · cases h
          · exact (ih h).trans hcons

/-! ## Numbers -/

/-- A number below a power of ten has at most as many digits as that power has zeros. -/
theorem length_toDigits_le {n k : ℕ} (hk : 0 < k) (hn : n < 10 ^ k) :
    (Nat.toDigits 10 n).length ≤ k := (Nat.length_toDigits_le_iff (by decide) hk).mpr hn

/-- A whole number of the range has a short text. -/
theorem length_renderInt_le {k : ℤ} (hk : (Number.int k).Fits) : (renderInt k).length ≤ 40 := by
  obtain ⟨hlow, hhigh⟩ := hk
  simp only [Nat.pow_eq] at hlow hhigh
  have hdigits : (Nat.toDigits 10 k.natAbs).length ≤ 20 := length_toDigits_le (by decide) (by omega)
  unfold renderInt
  split
  · rw [List.length_cons]
    omega
  · omega

/-- Every number that is read has a short text. -/
theorem Number.Written.length_render_le {n : Number} (hn : n.Written) : n.render.length ≤ 40 := by
  cases hn with
  | int hk => exact length_renderInt_le hk
  | decimal hx => exact Double.length_renderDouble_le (Double.inRange_ofDecimal hx)
  | zero negative => exact Double.length_renderDouble_le (Double.inRange_zero negative)

/-! ## Values -/

/-- Every number in the value has a text of at most forty characters, and every array at most `size`
items. -/
inductive Value.Bounded (size : ℕ) : Value → Prop
  | null : Bounded size .null
  | bool (b : Bool) : Bounded size (.bool b)
  | number {n : Number} (hn : n.render.length ≤ 40) : Bounded size (.number n)
  | string (s : String) : Bounded size (.string s)
  | array {xs : List Value} (hlength : xs.length ≤ size) (hxs : ∀ x ∈ xs, Bounded size x) :
      Bounded size (.array xs)
  | object {ms : List (String × Value)} (hms : ∀ m ∈ ms, Bounded size m.2) :
      Bounded size (.object ms)

/-- The values read in a text are bounded by its length. -/
theorem readsInto_bounded (text : List Char) :
    ReadsInto (· <:+ text) (Value.Bounded text.length) where
  suffix hsuffix hcs := hsuffix.trans hcs
  null := .null
  bool := .bool
  number hcs hn :=
    ⟨.number (written_unsigned hn).length_render_le, (finds_unsigned hn).1.trans hcs⟩
  string hcs hs := ⟨.string _, (suffix_quoted hs).trans hcs⟩
  array hcs hlength hxs := .array (hlength.trans hcs.length_le) hxs
  object hms := by
    refine .object fun m hm => ?_
    -- An object keeps members that were read, and no others.
    rcases Value.mem_foldl_putMember hm with hnil | hmem
    · cases hnil
    · exact hms m hmem

/-- The size of a text bounds the numbers and the arrays in the value that it writes. -/
theorem bounded_parse {text : String} {v : Value} (h : Value.parse text = .ok v) :
    v.Bounded text.toList.length := (readsInto_bounded text.toList).parse List.suffix_rfl h

end FrameHost.Json
