import Mathlib.Data.Bool.AllAny
import Mathlib.Data.List.TakeDrop
import Mathlib.Data.Nat.Notation
import FrameHost.Config.Path
import FrameHost.Origin.Url
import FrameHost.Text.Split

/-!
# Reading queries back

A query is written by encoding every name and value byte by byte. An encoded text has letters,
digits, `-_.~` and `%` only, so the separators `=` and `&` that stand between the texts are the ones
that the writer put there, and cutting at them finds the texts again. Decoding an encoded text gives
its bytes, which are the UTF-8 form of one text only.

A text that nobody encoded decodes to itself exactly if it has no escape: every escape that decoding
replaces makes the bytes fewer.
-/

namespace FrameHost

open Origin (percentDecode)
open Text (bytes encodeByte percentEncode upperHex isUnreserved digitValue? numeral? cut)

/-! ## Bytes -/

/-- The loop goes through the bytes from the `i`th on. -/
theorem toList_loop (a : ByteArray) (i : ℕ) (read : List UInt8) :
    ByteArray.toList.loop a i read = read.reverse ++ a.data.toList.drop i := by
  rw [ByteArray.toList.loop]
  split
  · next h =>
    have hlength : i < a.data.toList.length := by simpa using h
    have hget : a.get! i = a.data.toList[i] := getElem!_pos a.data i h
    rw [toList_loop a (i + 1), List.drop_eq_getElem_cons hlength, hget]
    simp
  · -- At the end of the array nothing is left to drop.
    next h =>
    have hlength : a.data.toList.length ≤ i := by simpa using h
    rw [List.drop_eq_nil_of_le hlength, List.append_nil]
termination_by a.size - i

/-- The bytes of a string are the data of its byte array. -/
theorem bytes_eq_data (s : String) : bytes s = s.toByteArray.data.toList := by
  rw [bytes, String.toUTF8, ByteArray.toList, toList_loop, List.reverse_nil, List.nil_append,
    List.drop_zero]

/-- The bytes of a text are those of its characters, one after another. -/
theorem bytes_ofList (cs : List Char) :
    bytes (String.ofList cs) = cs.flatMap String.utf8EncodeChar := by
  rw [bytes_eq_data, String.toByteArray_ofList, List.utf8Encode, List.toList_data_toByteArray]

/-- The bytes of a string are those of its characters, one after another. -/
theorem bytes_eq (s : String) : bytes s = s.toList.flatMap String.utf8EncodeChar := by
  rw [← bytes_ofList, String.ofList_toList]

/-- The bytes of one character are its encoding. -/
theorem bytes_singleton (c : Char) : bytes (String.singleton c) = String.utf8EncodeChar c := by
  rw [bytes_eq, String.toList_singleton, List.flatMap_singleton]

/-- Bytes are the UTF-8 form of at most one text. -/
theorem fromUTF8?_eq_some_iff {bs : List UInt8} {s : String} :
    String.fromUTF8? (ByteArray.mk bs.toArray) = some s ↔ bs = bytes s := by
  rw [bytes_eq_data, String.fromUTF8?]
  constructor
  · intro h
    split at h
    · rw [← Option.some.inj h]
      rfl
    · cases h
  · rintro rfl
    rw [dif_pos s.isValidUTF8]
    rfl

/-! ## Percent-encoded texts -/

/-- The text that a percent-encoded text stands for, if its bytes are a text. -/
def Text.percentDecode? (cs : List Char) : Option String :=
  String.fromUTF8? (ByteArray.mk (percentDecode cs).toArray)

/-- A text decodes to the string that has the decoded bytes. -/
theorem Text.percentDecode?_eq_some_iff {cs : List Char} {s : String} :
    percentDecode? cs = some s ↔ percentDecode cs = bytes s :=
  fromUTF8?_eq_some_iff

/-- A hexadecimal digit is read back. -/
theorem digitValue?_upperHex : ∀ n < 16, digitValue? 16 (upperHex n) = some n := by decide

/-- The digits of a byte read as that byte. -/
theorem numeral?_upperHex {n : ℕ} (hn : n < 256) :
    numeral? 16 0 [upperHex (n / 16), upperHex (n % 16)] = some n := by
  have hhigh := digitValue?_upperHex (n / 16) (by omega)
  have hlow := digitValue?_upperHex (n % 16) (by omega)
  simp only [numeral?, hhigh, hlow, Option.some.injEq]
  omega

/-- A byte that stands for itself is an ASCII character other than `%`. -/
theorem ascii_of_isUnreserved :
    ∀ n < 256, isUnreserved (UInt8.ofNat n) → Char.ofNat n ≠ '%' ∧
      String.utf8EncodeChar (Char.ofNat n) = [UInt8.ofNat n] := by
  decide +kernel

/-- What an encoded text consists of. -/
def isEncoded (c : Char) : Bool := c.isAlphanum || c ∈ ['-', '_', '.', '~', '%']

/-- A byte is written in characters that may stand in a query. -/
theorem isEncoded_encodeByte : ∀ n < 256, (encodeByte (UInt8.ofNat n)).all isEncoded := by
  decide +kernel

/-- A character that is no percent sign decodes to its own bytes. -/
theorem percentDecode_cons {c : Char} {cs : List Char} (hc : c ≠ '%') :
    percentDecode (c :: cs) = String.utf8EncodeChar c ++ percentDecode cs := by
  rw [percentDecode, bytes_singleton]
  rintro a b ds rfl
  exact absurd rfl hc

/-- A written byte is read back. -/
theorem percentDecode_encodeByte (b : UInt8) (cs : List Char) :
    percentDecode (encodeByte b ++ cs) = b :: percentDecode cs := by
  have hb : UInt8.ofNat b.toNat = b := UInt8.ofNat_toNat
  rw [encodeByte]
  split
  · next h =>
    obtain ⟨hne, hutf⟩ := ascii_of_isUnreserved b.toNat b.toNat_lt (by rwa [hb])
    rw [List.singleton_append, percentDecode_cons hne, hutf, hb, List.singleton_append]
  · have hn := numeral?_upperHex b.toNat_lt
    simp only [Text.percentByte, List.cons_append, List.nil_append, percentDecode, hn, hb]

/-- Written bytes are read back. -/
theorem percentDecode_flatMap_encodeByte (bs : List UInt8) :
    percentDecode (bs.flatMap encodeByte) = bs := by
  induction bs with
  | nil => rw [List.flatMap_nil, percentDecode]
  | cons b bs ih => rw [List.flatMap_cons, percentDecode_encodeByte, ih]

/-- A percent-encoded string is read back. -/
theorem percentDecode?_percentEncode (s : String) :
    Text.percentDecode? (percentEncode s).toList = some s := by
  rw [Text.percentDecode?_eq_some_iff, percentEncode, String.toList_ofList,
    percentDecode_flatMap_encodeByte]

/-- A separator of paths and queries is in no encoded text. -/
theorem not_mem_percentEncode (s : String) :
    ∀ c ∈ ['&', '=', '?', '#', '/'], c ∉ (percentEncode s).toList := by
  intro c hc hmem
  rw [percentEncode, String.toList_ofList, List.mem_flatMap] at hmem
  obtain ⟨b, -, hmem⟩ := hmem
  have hencoded := isEncoded_encodeByte b.toNat b.toNat_lt
  rw [UInt8.ofNat_toNat] at hencoded
  have hother : ∀ c ∈ ['&', '=', '?', '#', '/'], ¬ isEncoded c = true :=
    List.all_iff_forall_prop.mp (by decide)
  exact hother c hc (List.all_eq_true.mp hencoded c hmem)

/-! ## Texts that are not encoded -/

/-- Whether a text has a `%` that two hexadecimal digits follow. -/
def HasEscape (cs : List Char) : Prop :=
  ∃ a b, (digitValue? 16 a).isSome ∧ (digitValue? 16 b).isSome ∧ ['%', a, b] <:+: cs

/-- Two characters are a hexadecimal numeral when both are digits. -/
theorem numeral?_two_isSome_iff {a b : Char} :
    (numeral? 16 0 [a, b]).isSome ↔ (digitValue? 16 a).isSome ∧ (digitValue? 16 b).isSome := by
  cases ha : digitValue? 16 a <;> cases hb : digitValue? 16 b <;> simp [numeral?, ha, hb]

/-- A text has an escape at its front or behind its first character. -/
theorem hasEscape_cons_iff {c : Char} {cs : List Char} :
    HasEscape (c :: cs) ↔
      HasEscape cs ∨ ∃ a b ds, c = '%' ∧ cs = a :: b :: ds ∧ (numeral? 16 0 [a, b]).isSome := by
  simp only [HasEscape, numeral?_two_isSome_iff, List.infix_cons_iff]
  constructor
  · rintro ⟨a, b, ha, hb, ⟨ds, hprefix⟩ | hinfix⟩
    · obtain ⟨rfl, rfl⟩ := List.cons_eq_cons.mp hprefix
      exact .inr ⟨a, b, ds, rfl, rfl, ha, hb⟩
    · exact .inl ⟨a, b, ha, hb, hinfix⟩
  · rintro (⟨a, b, ha, hb, hinfix⟩ | ⟨a, b, ds, rfl, rfl, ha, hb⟩)
    · exact ⟨a, b, ha, hb, .inr hinfix⟩
    · exact ⟨a, b, ha, hb, .inl (List.prefix_append ['%', a, b] ds)⟩

/-- Decoding makes no text longer, in bytes. -/
theorem length_percentDecode_le (cs : List Char) :
    (percentDecode cs).length ≤ (cs.flatMap String.utf8EncodeChar).length := by
  fun_induction percentDecode cs with
  | case1 => exact Nat.le_refl _
  -- An escape is three characters for one byte.
  | case2 a b cs n hn ih =>
    simp only [List.flatMap_cons, List.length_append, List.length_cons, String.length_utf8EncodeChar]
    have := Char.utf8Size_pos '%'
    omega
  | case3 a b cs hn ih =>
    rw [List.flatMap_cons, List.length_cons, List.length_append, String.length_utf8EncodeChar]
    have := Char.utf8Size_pos '%'
    omega
  | case4 c cs hc ih =>
    rw [List.flatMap_cons, bytes_singleton, List.length_append, List.length_append]
    omega

/-- Decoding leaves the bytes of a text as they are exactly if there is no escape in it. -/
theorem percentDecode_eq_iff (cs : List Char) :
    percentDecode cs = cs.flatMap String.utf8EncodeChar ↔ ¬ HasEscape cs := by
  fun_induction percentDecode cs with
  | case1 => simp [HasEscape]
  | case2 a b cs n hn ih =>
    have hescape : HasEscape ('%' :: a :: b :: cs) :=
      hasEscape_cons_iff.mpr (.inr ⟨a, b, cs, rfl, rfl, by rw [hn]; rfl⟩)
    -- The escape is three characters and one byte.
    have hlength := length_percentDecode_le cs
    refine iff_of_false (fun heq => ?_) (not_not_intro hescape)
    have heq := congrArg List.length heq
    simp only [List.flatMap_cons, List.length_append, List.length_cons,
      String.length_utf8EncodeChar] at heq
    have := Char.utf8Size_pos '%'
    have := Char.utf8Size_pos a
    omega
  | case3 a b cs hn ih =>
    -- A `%` without digits stays.
    have hpercent : String.utf8EncodeChar '%' = ['%'.toNat.toUInt8] := by decide
    have hescape : HasEscape ('%' :: a :: b :: cs) ↔ HasEscape (a :: b :: cs) := by
      rw [hasEscape_cons_iff, or_iff_left]
      rintro ⟨a', b', ds, -, hcs, hsome⟩
      cases hcs
      rw [hn] at hsome
      cases hsome
    rw [List.flatMap_cons, hpercent, List.singleton_append, List.cons_eq_cons, hescape, ← ih]
    simp
  | case4 c cs hc ih =>
    have hescape : HasEscape (c :: cs) ↔ HasEscape cs := by
      rw [hasEscape_cons_iff, or_iff_left]
      rintro ⟨a, b, ds, rfl, rfl, hsome⟩
      exact hc a b ds rfl rfl
    rw [List.flatMap_cons, bytes_singleton, List.append_cancel_left_eq, hescape, ih]

/-- Exactly the texts without an escape decode to themselves. -/
theorem percentDecode?_self_iff (s : String) :
    Text.percentDecode? s.toList = some s ↔ ¬ HasEscape s.toList := by
  rw [Text.percentDecode?_eq_some_iff, bytes_eq, percentDecode_eq_iff]

/-! ## Queries -/

namespace Query

/-- The name and value that a piece of a query writes: what stands before and after its first `=`. -/
def decodePair? (piece : List Char) : Option (String × String) :=
  match cut '=' piece with
  | (name, some value) => do return (← Text.percentDecode? name, ← Text.percentDecode? value)
  | (_, none) => none

/-- The query that a text writes: a pair for each piece between the `&`, and none if the text is
empty. -/
def decode? (text : List Char) : Option Query :=
  if text = [] then some [] else (text.splitOn '&').mapM decodePair?

/-- A pair as its piece of the text. -/
def piece (p : String × String) : List Char :=
  (percentEncode p.1).toList ++ '=' :: (percentEncode p.2).toList

/-- A query is written as its pairs with ampersands in between. -/
theorem toList_encode (q : Query) : q.encode.toList = ['&'].intercalate (q.map piece) := by
  rw [encode, String.toList_intercalate, List.map_map]
  congr 2
  funext p
  simp [piece]

/-- A written pair has none of the signs that structure an address. -/
theorem not_mem_piece (p : String × String) {c : Char} (hc : c ∈ ['&', '?', '#', '/']) :
    c ∉ piece p := by
  have hsub : ['&', '?', '#', '/'] ⊆ ['&', '=', '?', '#', '/'] := by decide
  have hne : c ≠ '=' := by
    rintro rfl
    exact absurd hc (by decide)
  rw [piece, List.mem_append, List.mem_cons, not_or, not_or]
  exact ⟨not_mem_percentEncode p.1 c (hsub hc), hne, not_mem_percentEncode p.2 c (hsub hc)⟩

/-- A text is cut at the first separator. -/
theorem cut_append {sep : Char} {before after : List Char} (h : sep ∉ before) :
    cut sep (before ++ sep :: after) = (before, some after) := by
  have hall : ∀ c ∈ before, decide (c ≠ sep) = true := by
    intro c hc
    exact decide_eq_true (ne_of_mem_of_not_mem hc h)
  have hspan : (before ++ sep :: after).span (· ≠ sep) = (before, sep :: after) := by
    rw [List.span_eq_takeWhile_dropWhile, List.takeWhile_append_of_pos hall,
      List.dropWhile_append_of_pos hall]
    simp
  rw [cut, hspan]

/-- A written pair is read back. -/
theorem decodePair?_piece (p : String × String) : decodePair? (piece p) = some p := by
  have hname := not_mem_percentEncode p.1 '=' (by decide)
  rw [decodePair?, piece, cut_append hname]
  simp only [percentDecode?_percentEncode]
  rfl

/-- Written pairs are read back, all of them. -/
theorem mapM_decodePair?_piece (q : Query) : (q.map piece).mapM decodePair? = some q := by
  induction q with
  | nil => rfl
  | cons p q ih =>
    rw [List.map_cons, List.mapM_cons, decodePair?_piece, ih]
    rfl

/-- A query is read back as it was written. -/
theorem decode?_encode (q : Query) : decode? q.encode.toList = some q := by
  cases q with
  | nil => rfl
  | cons p q =>
    have hpieces : ∀ l ∈ (p :: q).map piece, '&' ∉ l := by
      intro l hl
      obtain ⟨r, -, rfl⟩ := List.mem_map.mp hl
      exact not_mem_piece r (by decide)
    have hsplit := List.splitOn_intercalate '&' hpieces (List.cons_ne_nil _ _)
    rw [← toList_encode] at hsplit
    -- The first piece has an `=`, so the text is not empty.
    have hne : (encode (p :: q)).toList ≠ [] := by
      intro hempty
      rw [hempty, List.map_cons] at hsplit
      have hpiece : piece p = [] := (List.cons_eq_cons.mp hsplit).1.symm
      simp [piece] at hpiece
    rw [decode?, if_neg hne, hsplit, mapM_decodePair?_piece]

/-- An encoded query has nothing in it that begins a query or a fragment. -/
theorem not_mem_encode (q : Query) {c : Char} (hc : c ∈ ['?', '#', '/']) :
    c ∉ q.encode.toList := by
  rw [toList_encode]
  intro hmem
  rcases Text.mem_of_mem_intercalate hmem with hamp | ⟨l, hl, hmem⟩
  · rw [List.mem_singleton.mp hamp] at hc
    exact absurd hc (by decide)
  · obtain ⟨p, -, rfl⟩ := List.mem_map.mp hl
    exact not_mem_piece p (List.mem_cons_of_mem _ hc) hmem

end Query

end FrameHost
