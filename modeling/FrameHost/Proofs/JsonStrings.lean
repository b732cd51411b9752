import FrameHost.Json.Printer
import FrameHost.Json.Reader
import FrameHost.Message.Envelope
import Mathlib.Data.Nat.Notation

/-!
# Strings in writing

What is written for a string is read back as this string, whatever comes after it
(`stringBody_escape`). So the text of a string is no beginning of that of another one
(`renderString_inj`), and the text of an envelope tells the frame that it is for
(`encode_frameId`).
-/

namespace FrameHost

namespace Json

/-! ## Characters -/

/-- A hexadecimal digit is read back. -/
theorem hexValue?_hexDigit : ∀ n < 16, hexValue? (hexDigit n) = some n := by decide

/-- The escape of a control character has four digits. -/
theorem byteSize_control :
    ∀ n < 32, byteSize ['0', '0', hexDigit (n / 16), hexDigit (n % 16)] = 4 := by decide

/-- The four digits of a control character are read as its code. -/
theorem hexUnit_control {n : ℕ} (hn : n < 32) (cs : List Char) :
    hexUnit ('0' :: '0' :: hexDigit (n / 16) :: hexDigit (n % 16) :: cs) = .ok (n, cs) := by
  have hsize := byteSize_control n hn
  -- The four digits: two zeros, and the two of a number below 32.
  have hzero : hexValue? '0' = some 0 := by decide
  have hhigh : hexValue? (hexDigit (n / 16)) = some (n / 16) :=
    hexValue?_hexDigit _ (by omega)
  have hlow : hexValue? (hexDigit (n % 16)) = some (n % 16) :=
    hexValue?_hexDigit _ (Nat.mod_lt n (by decide))
  have hvalue : hexValue4? ('0' :: '0' :: hexDigit (n / 16) :: hexDigit (n % 16) :: cs) =
      some (n, cs) := by
    unfold hexValue4?
    dsimp only
    rw [hzero, hhigh, hlow]
    dsimp only
    rw [show 4096 * 0 + 256 * 0 + 16 * (n / 16) + n % 16 = n by omega]
  unfold hexUnit
  have htake : ('0' :: '0' :: hexDigit (n / 16) :: hexDigit (n % 16) :: cs).take 4 =
      ['0', '0', hexDigit (n / 16), hexDigit (n % 16)] := rfl
  rw [htake, hsize, if_neg (Nat.lt_irrefl 4), hvalue]

/-- An escaped character is read as the character. -/
theorem quoted_escape (c : Char) (acc : List Char) (fuel : ℕ) (cs : List Char) :
    quoted acc (fuel + 1) (escape c ++ cs) = quoted (c :: acc) fuel cs := by
  unfold escape
  -- Seven characters have an escape of their own.
  split
  · next h => rw [h]; rfl
  split
  · next h => rw [h]; rfl
  split
  · next h => rw [h]; rfl
  split
  · next h => rw [h]; rfl
  split
  · next h => rw [h]; rfl
  split
  · next h => rw [h]; rfl
  split
  · next h => rw [h]; rfl
  split
  · -- The other control characters are written by their codes.
    next hcontrol =>
    have hescaped : escaped ('u' :: '0' :: '0' :: hexDigit (c.toNat / 16) ::
        hexDigit (c.toNat % 16) :: cs) = .ok (c, cs) := by
      show (hexUnit _).andThen _ = _
      rw [hexUnit_control hcontrol]
      unfold Read.andThen
      dsimp only
      rw [if_neg (by omega), if_neg (by omega), Char.ofNat_toNat]
    show (escaped ('u' :: '0' :: '0' :: hexDigit (c.toNat / 16) ::
      hexDigit (c.toNat % 16) :: cs)).andThen _ = _
    rw [hescaped]
    rfl
  · next hquote hbackslash _ _ _ _ _ hplain =>
    show (if c = '"' then _ else _) = _
    rw [if_neg hquote, if_neg hbackslash, if_neg hplain]
    rfl

/-! ## Strings -/

/-- An escaped text is read up to its closing quote. -/
theorem quoted_flatMap (s acc : List Char) {fuel : ℕ} (hfuel : s.length < fuel)
    (rest : List Char) :
    quoted acc fuel (s.flatMap escape ++ '"' :: rest) =
      .ok (String.ofList (acc.reverse ++ s), rest) := by
  induction s generalizing acc fuel with
  | nil =>
    -- The quote that closes takes one turn, and every character one more.
    obtain ⟨fuel, rfl⟩ := Nat.exists_eq_succ_of_ne_zero (Nat.ne_of_gt hfuel)
    rw [List.append_nil]
    rfl
  | cons c s ih =>
    obtain ⟨fuel, rfl⟩ := Nat.exists_eq_succ_of_ne_zero (Nat.ne_of_gt (Nat.zero_lt_of_lt hfuel))
    have hfuel' : s.length < fuel := Nat.lt_of_succ_lt_succ hfuel
    rw [List.flatMap_cons, List.append_assoc, quoted_escape, ih (c :: acc) hfuel',
      List.reverse_cons, List.append_assoc]
    rfl

/-- Escaping makes no text shorter. -/
theorem length_le_flatMap_escape (s : List Char) : s.length ≤ (s.flatMap escape).length := by
  induction s with
  | nil => exact Nat.le_refl 0
  | cons c s ih =>
    have hpos : 0 < (escape c).length := by
      unfold escape
      repeat' split
      all_goals exact Nat.zero_lt_succ _
    rw [List.flatMap_cons, List.length_append, List.length_cons]
    omega

/-- A string is read back up to its closing quote. -/
theorem stringBody_escape (s : String) (rest : List Char) :
    stringBody (s.toList.flatMap escape ++ '"' :: rest) = .ok (s, rest) := by
  have hfuel : s.toList.length < (s.toList.flatMap escape ++ '"' :: rest).length + 1 := by
    have hle := length_le_flatMap_escape s.toList
    rw [List.length_append]
    omega
  have hread := quoted_flatMap s.toList [] hfuel rest
  rwa [List.reverse_nil, List.nil_append, String.ofList_toList] at hread

/-- A written string is a quote, its escaped text, a quote, and what follows. -/
theorem renderString_append (s : String) (rest : List Char) :
    renderString s ++ rest = '"' :: (s.toList.flatMap escape ++ '"' :: rest) := by
  unfold renderString
  rw [List.cons_append, List.cons_append, List.append_assoc]
  rfl

/-- A written string tells the string, whatever follows. -/
theorem renderString_inj {s t : String} {xs ys : List Char}
    (h : renderString s ++ xs = renderString t ++ ys) : s = t := by
  -- After the opening quote the string is read back, and the rest is left.
  have hbody : ∀ (u : String) zs,
      stringBody (renderString u ++ zs).tail = .ok (u, zs) := fun u zs => by
    rw [renderString_append]
    exact stringBody_escape u zs
  have hleft := hbody s xs
  have hright := hbody t ys
  rw [← h, hleft] at hright
  cases hright
  rfl

end Json

/-- An envelope begins with the frame ID. -/
theorem Envelope.render_eq (frameId : String) (task : Task) : ∃ rest,
    Envelope.render ⟨frameId, "", task⟩ =
      ('\x7b' :: Json.renderString "frameId" ++ [':']) ++ (Json.renderString frameId ++ rest) := by
  refine ⟨',' :: renderField "type" (Json.renderString "") ++
    ',' :: renderField "data" task.render ++ ['\x7d'], ?_⟩
  simp only [Envelope.render, renderField, List.append_assoc, List.cons_append, List.nil_append]

/-- The text of an envelope tells the frame that it is for. -/
theorem encode_frameId {a b : String} {task task' : Task} (h : encode a task = encode b task') :
    a = b := by
  have hrender := String.ofList_injective h
  obtain ⟨rest, ha⟩ := Envelope.render_eq a task
  obtain ⟨rest', hb⟩ := Envelope.render_eq b task'
  rw [ha, hb] at hrender
  exact Json.renderString_inj (List.append_cancel_left hrender)

end FrameHost
