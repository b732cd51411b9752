import FrameHost.Proofs.Hosts
import FrameHost.Proofs.Queries

/-!
# Hosts of small letters

A text of small letters is a domain name in its normal form, however long it is: no letter is
forbidden in a name, what has no digit is no number, and without a hyphen there is no mark of an
encoded label (`domainToAscii?_letters`). So the text is the host of the URL that it makes with
`http://` in front (`parse?_letters`).
-/

namespace FrameHost.Origin

/-- The small letters. -/
def smallLetters : List Char := (List.range 26).map fun n => Char.ofNat (0x61 + n)

variable {name : List Char}

/-- What holds of every small letter holds of every character of a text of small letters. -/
theorem forall_of_letters {p : Char → Prop} [DecidablePred p] (hname : name ⊆ smallLetters)
    (hp : smallLetters.all fun c => decide (p c)) : ∀ c ∈ name, p c := fun c hc =>
  of_decide_eq_true (List.all_eq_true.mp hp c (hname hc))

/-- A text without the separator is one part. -/
theorem split_of_not_mem {sep : Char} {cs : List Char} (h : sep ∉ cs) : Text.split sep cs = [cs] := by
  induction cs with
  | nil => rfl
  | cons c cs ih =>
    obtain ⟨hc, hcs⟩ := not_or.mp (List.mem_cons.not.mp h)
    rw [Text.split, if_neg (Ne.symm hc), ih hcs]

/-- Above the blank there is neither a line break nor a tab. -/
theorem filter_breaks_eq_self {cs : List Char} (h : ∀ c ∈ cs, 0x20 < c.toNat) :
    (cs.filter fun c => c ≠ '\t' && c ≠ '\n' && c ≠ '\r') = cs := by
  rw [List.filter_eq_self]
  intro c hc
  have hcontrol : ∀ d ∈ ['\t', '\n', '\r'], ¬ 0x20 < d.toNat :=
    List.all_iff_forall_prop.mp (by decide)
  have hnot : c ∉ ['\t', '\n', '\r'] := fun hmem => hcontrol c hmem (h c hc)
  simpa [not_or, and_assoc] using hnot

/-- Above the blank there is nothing to trim at the start. -/
theorem dropWhile_blanks_eq_self {cs : List Char} (h : ∀ c ∈ cs, 0x20 < c.toNat) :
    cs.dropWhile (fun c => decide (c.toNat ≤ 0x20)) = cs := by
  cases cs with
  | nil => rfl
  | cons c cs =>
    have hgt := h c List.mem_cons_self
    exact List.dropWhile_cons_of_neg (by simpa using hgt)

/-- A text without blanks and controls is read as it is. -/
theorem clean_of_forall {cs : List Char} (h : ∀ c ∈ cs, 0x20 < c.toNat) : clean cs = cs := by
  have hreverse : ∀ c ∈ cs.reverse, 0x20 < c.toNat := fun c hc => h c (List.mem_reverse.mp hc)
  unfold clean
  dsimp only
  rw [dropWhile_blanks_eq_self h, dropWhile_blanks_eq_self hreverse, List.reverse_reverse,
    filter_breaks_eq_self h]

/-- No escapes are to be decoded in a text of small letters. -/
theorem percentDecode_letters (hname : name ⊆ smallLetters) :
    percentDecode name = Text.bytes (String.ofList name) := by
  have hplain : ∀ c ∈ name, c ≠ '%' := forall_of_letters hname (by decide)
  rw [bytes_ofList]
  induction name with
  | nil => rfl
  | cons c cs ih =>
    rw [percentDecode_cons (hplain c List.mem_cons_self), List.flatMap_cons,
      ih (List.subset_of_cons_subset hname) fun d hd => hplain d (List.mem_cons_of_mem _ hd)]

/-- A text of small letters is a domain name in normal form. -/
theorem domainToAscii?_letters (hname : name ⊆ smallLetters) : domainToAscii? name = some name := by
  have hascii : isAscii name = true := isAscii_iff.mpr (forall_of_letters hname (by decide))
  have hlower : name.map Char.toLower = name :=
    map_toLower_of_small (forall_of_letters hname (by decide))
  have hdot : ∀ c ∈ name, c ≠ '.' := forall_of_letters hname (by decide)
  have hhyphen : ∀ c ∈ name, c ≠ '-' := forall_of_letters hname (by decide)
  have hallowed : ∀ c ∈ name, isForbidden c = false := forall_of_letters hname (by decide)
  -- The mark of an encoded label has a hyphen.
  have hmark : asciiMark.isPrefixOf name = false := by
    by_contra hmark
    obtain ⟨rest, rfl⟩ := List.isPrefixOf_iff_prefix.mp (eq_true_of_ne_false hmark)
    exact hhyphen '-' (List.mem_append_left rest (by decide)) rfl
  have hplain : isPlain name = true := by
    unfold isPlain
    rw [hascii, hlower, split_of_not_mem fun h => hdot '.' h rfl, List.all_cons, hmark]
    rfl
  have hnone : name.any isForbidden = false := by
    rw [List.any_eq_false]
    exact fun c hc => by rw [hallowed c hc]; exact Bool.noConfusion
  unfold domainToAscii?
  dsimp only
  rw [if_pos hplain, Option.map_some, hlower, Option.filter_some, hnone]
  rfl

/-- A text of small letters is no number. -/
theorem endsInNumber_letters (hne : name ≠ []) (hname : name ⊆ smallLetters) :
    endsInNumber name = false := by
  obtain ⟨c, cs, rfl⟩ := List.exists_cons_of_ne_nil hne
  have hdot : ∀ d ∈ c :: cs, d ≠ '.' := forall_of_letters hname (by decide)
  have hzero : ∀ d ∈ c :: cs, d ≠ '0' := forall_of_letters hname (by decide)
  have hdigit : ∀ d ∈ c :: cs, d.isDigit = false := forall_of_letters hname (by decide)
  have hvalue : ∀ d ∈ c :: cs, Text.digitValue? 10 d = none := forall_of_letters hname (by decide)
  -- Without a dot the name is its own last label.
  have hparts : dottedParts (c :: cs) = [c :: cs] := by
    unfold dottedParts
    dsimp only
    rw [split_of_not_mem fun h => hdot '.' h rfl, if_neg fun h => h.2 rfl]
  -- Which begins with a letter, so it is no number.
  have hpart : ipv4Part? (c :: cs) = none := by
    unfold ipv4Part?
    split
    · next heq => cases heq
    · next heq => exact absurd (List.cons.inj heq).1 (hzero c List.mem_cons_self)
    · next heq => exact absurd (List.cons.inj heq).1 (hzero c List.mem_cons_self)
    · next heq => exact absurd (List.cons.inj heq).1 (hzero c List.mem_cons_self)
    · rw [Text.numeral?, hvalue c List.mem_cons_self]
  unfold endsInNumber
  rw [hparts, List.getLast?_singleton]
  dsimp only
  rw [hpart, List.all_cons, hdigit c List.mem_cons_self, Bool.false_and, Bool.and_false]
  rfl

/-- A name of small letters is a host as it stands. -/
theorem specialHost?_letters (hne : name ≠ []) (hname : name ⊆ smallLetters) :
    specialHost? name = some name := by
  have hbracket : ∀ c ∈ name, c ≠ '[' := forall_of_letters hname (by decide)
  have htext : String.fromUTF8? (ByteArray.mk (percentDecode name).toArray) =
      some (String.ofList name) := fromUTF8?_eq_some_iff.mpr (percentDecode_letters hname)
  unfold specialHost?
  split
  · exact absurd rfl (hbracket '[' List.mem_cons_self)
  · rw [htext]
    dsimp only
    rw [String.toList_ofList, domainToAscii?_letters hname]
    obtain ⟨c, cs, rfl⟩ := List.exists_cons_of_ne_nil hne
    dsimp only
    rw [endsInNumber_letters hne hname]
    rfl

/-- A URL has the small letters behind `http://` for its host. -/
theorem parse?_letters (hne : name ≠ []) (hname : name ⊆ smallLetters) :
    Address.parse? (String.ofList ("http://".toList ++ name)) =
      some ⟨"http", String.ofList name, none⟩ := by
  -- No letter is a mark of the authority.
  have hends : ∀ c ∈ name, endsAuthority true c = false := forall_of_letters hname (by decide)
  have hslash : ∀ c ∈ name, c ≠ '/' ∧ c ≠ '\\' := forall_of_letters hname (by decide)
  have huser : ∀ c ∈ name, c ≠ '@' := forall_of_letters hname (by decide)
  have hhost : ∀ c ∈ name, c ≠ ':' ∧ c ≠ '[' ∧ c ≠ ']' := forall_of_letters hname (by decide)
  have hclean : clean ("http://".toList ++ name) = "http://".toList ++ name := by
    refine clean_of_forall (List.forall_mem_append.mpr ⟨?_, forall_of_letters hname (by decide)⟩)
    exact List.all_iff_forall_prop.mp (by decide)
  have hscheme : cutScheme? ("http://".toList ++ name) =
      some ("http".toList, '/' :: '/' :: name) := rfl
  have hstart : ('/' :: '/' :: name).dropWhile (fun c => c = '/' || c = '\\') = name := by
    obtain ⟨c, cs, rfl⟩ := List.exists_cons_of_ne_nil hne
    have hc := hslash c List.mem_cons_self
    simp [hc]
  -- So the authority is all of the name, with neither user nor port.
  have hauthority : authority true name = name :=
    List.takeWhile_eq_self_iff.mpr fun c hc => by rw [hends c hc]; rfl
  have hafter : afterUser name = name := by
    unfold afterUser
    rw [List.takeWhile_eq_self_iff.mpr fun c hc =>
      decide_eq_true (huser c (List.mem_reverse.mp hc)), List.reverse_reverse]
  have hport : cutPort false name = (name, none) := by
    have hcut := cutPort_plain hhost []
    rwa [List.append_nil, show cutPort false [] = ([], none) from rfl, List.append_nil] at hcut
  have haddress : authorityAddress? "http".toList name = some ⟨"http", String.ofList name, none⟩ := by
    unfold authorityAddress?
    rw [hafter, hport]
    dsimp only
    rw [if_pos (by decide), specialHost?_letters hne hname]
    obtain ⟨c, cs, rfl⟩ := List.exists_cons_of_ne_nil hne
    rfl
  unfold Address.parse?
  rw [String.toList_ofList, hclean, hscheme, Option.bind_some]
  dsimp only
  unfold schemeAddress?
  rw [if_neg (by decide), if_pos (by decide), hstart, hauthority, haddress]

end FrameHost.Origin
