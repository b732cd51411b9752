import FrameHost.Origin.AllowList
import Mathlib.Data.Bool.AllAny
import Mathlib.Data.List.TakeDrop
import Mathlib.Data.List.TakeWhile
import Mathlib.Data.Nat.Notation

/-!
# Hosts in normal form

What `Address.parse?` finds in a URL is in normal form (`isNormal_of_parse`): the scheme and the host
are ASCII, a host on the network has no capitals, and its colons, if it has any, stand between
brackets. So two addresses are told apart by their texts, and the case of letters does not matter.

A domain name gets its normal form label by label: a label that is not ASCII is written with the
digits of its Punycode (`Punycode.mem_encode`), and all of it is put in lower case at the end
(`isSmall_domain`). The hosts that are numbers are written with digits, dots and colons only
(`isAddressChar_renderIpv4`, `isAddressChar_renderIpv6`).
-/

namespace FrameHost.Origin

/-! ## Characters -/

/-- Whether a character is an ASCII capital. -/
def IsCapital (c : Char) : Prop := 0x41 ≤ c.toNat ∧ c.toNat ≤ 0x5a

/-- A character of a normal form: ASCII, and no capital. -/
def IsSmall (c : Char) : Prop := c.toNat < 0x80 ∧ ¬ IsCapital c

instance (c : Char) : Decidable (IsCapital c) := inferInstanceAs (Decidable (_ ∧ _))

instance (c : Char) : Decidable (IsSmall c) := inferInstanceAs (Decidable (_ ∧ _))

/-- In lower case, a capital is the letter 32 places on, and any other character is itself. -/
theorem toLower_cases (c : Char) :
    IsCapital c ∧ c.toLower.toNat = c.toNat + 32 ∨ ¬ IsCapital c ∧ c.toLower = c := by
  have hbounds : c.val ≥ 'A'.val ∧ c.val ≤ 'Z'.val ↔ IsCapital c := by
    rw [ge_iff_le, UInt32.le_iff_toNat_le, UInt32.le_iff_toNat_le]
    rfl
  unfold Char.toLower
  split
  · next h =>
    have hcapital := hbounds.mp h
    refine .inl ⟨hcapital, ?_⟩
    show (c.val + ('a'.val - 'A'.val)).toNat = c.val.toNat + 32
    have hle : c.val.toNat ≤ 0x5a := hcapital.2
    rw [UInt32.toNat_add, show ('a'.val - 'A'.val).toNat = 32 from rfl]
    omega
  · next h => exact .inr ⟨fun hcapital => h (hbounds.mpr hcapital), rfl⟩

/-- A small letter stays as it is. -/
theorem IsSmall.toLower {c : Char} (hc : IsSmall c) : c.toLower = c :=
  ((toLower_cases c).resolve_left fun h => hc.2 h.1).2

/-- A lowered ASCII character is small. -/
theorem isSmall_toLower {c : Char} (hc : c.toNat < 0x80) : IsSmall c.toLower := by
  unfold IsSmall IsCapital
  rcases toLower_cases c with ⟨⟨hge, hle⟩, hlower⟩ | ⟨hcapital, hlower⟩
  · rw [hlower]
    omega
  · rw [hlower]
    exact ⟨hc, hcapital⟩

/-- A character whose lower case comes before the small letters is the same in lower case. -/
theorem eq_of_toLower {c d : Char} (hd : d.toNat < 0x61) (h : c.toLower = d) : c = d := by
  rcases toLower_cases c with ⟨⟨hge, -⟩, hlower⟩ | ⟨-, hlower⟩
  · rw [h] at hlower
    omega
  · rw [← hlower, h]

/-- Letters and digits are ASCII. -/
theorem ascii_of_isAlphanum {c : Char} (h : c.isAlphanum = true) : c.toNat < 0x80 := by
  have hle : ∀ d : Char, c.val ≤ d.val → c.toNat ≤ d.toNat := fun _ => UInt32.le_iff_toNat_le.mp
  unfold Char.isAlphanum Char.isAlpha Char.isUpper Char.isLower Char.isDigit at h
  simp only [Bool.or_eq_true, Bool.and_eq_true, decide_eq_true_eq] at h
  rcases h with (⟨-, h⟩ | ⟨-, h⟩) | ⟨-, h⟩
  · exact Nat.lt_of_le_of_lt (hle 'Z' h) (by decide)
  · exact Nat.lt_of_le_of_lt (hle 'z' h) (by decide)
  · exact Nat.lt_of_le_of_lt (hle '9' h) (by decide)

/-- A text of small letters stays as it is. -/
theorem map_toLower_of_small {cs : List Char} (h : ∀ c ∈ cs, IsSmall c) :
    cs.map Char.toLower = cs := by
  conv_rhs => rw [← List.map_id cs]
  exact List.map_congr_left fun c hc => (h c hc).toLower

/-! ## Lists -/

/-- What a mapping that can fail gives comes from something it was given. -/
theorem mem_of_mapM {α β : Type} {f : α → Option β} {xs : List α} {ys : List β} {y : β}
    (h : xs.mapM f = some ys) (hy : y ∈ ys) : ∃ x ∈ xs, f x = some y := by
  induction xs generalizing ys with
  | nil =>
    rw [List.mapM_nil] at h
    cases h
    cases hy
  | cons x xs ih =>
    rw [List.mapM_cons] at h
    obtain ⟨z, hz, h⟩ := Option.bind_eq_some_iff.mp h
    obtain ⟨zs, hzs, h⟩ := Option.bind_eq_some_iff.mp h
    cases h
    rcases List.mem_cons.mp hy with rfl | hy
    · exact ⟨x, List.mem_cons_self, hz⟩
    · obtain ⟨w, hw, hwy⟩ := ih hzs hy
      exact ⟨w, List.mem_cons_of_mem _ hw, hwy⟩

/-! ## Numbers -/

/-- The characters of a number's notation are digits of its base. -/
theorem exists_of_mem_toDigits {b n : ℕ} (hb : 1 < b) {c : Char} (hc : c ∈ Nat.toDigits b n) :
    ∃ d < b, c = Nat.digitChar d := by
  induction n using Nat.strongRecOn with
  | ind n ih =>
    rw [Nat.toDigits_eq_if hb] at hc
    split at hc
    · next h => exact ⟨n, h, List.mem_singleton.mp hc⟩
    · rcases List.mem_append.mp hc with hc | hc
      · exact ih (n / b) (Nat.div_lt_self (by omega) hb) hc
      · exact ⟨n % b, Nat.mod_lt _ (by omega), List.mem_singleton.mp hc⟩

/-- What the addresses of hosts that are numbers are made of. -/
def IsAddressChar (c : Char) : Prop := IsSmall c ∧ c ≠ '[' ∧ c ≠ ']'

/-- The hexadecimal digits are address characters, and none is a colon. -/
theorem isAddressChar_digitChar : ∀ d < 16, IsAddressChar (Nat.digitChar d) ∧ Nat.digitChar d ≠ ':' := by
  unfold IsAddressChar
  decide

/-- An IPv4 address is written in address characters without a colon. -/
theorem isAddressChar_renderIpv4 {n : ℕ} {c : Char} (hc : c ∈ renderIpv4 n) :
    IsAddressChar c ∧ c ≠ ':' := by
  unfold renderIpv4 at hc
  rcases Text.mem_of_mem_intercalate hc with hc | ⟨ds, hds, hc⟩
  · rw [List.mem_singleton.mp hc]
    unfold IsAddressChar
    decide
  · obtain ⟨shift, -, rfl⟩ := List.mem_map.mp hds
    obtain ⟨d, hd, rfl⟩ := exists_of_mem_toDigits (by decide) hc
    exact isAddressChar_digitChar d (by omega)

/-- The pieces of an IPv6 address are written in address characters. -/
theorem isAddressChar_renderPieces {ps : List ℕ} {c : Char} (hc : c ∈ renderPieces ps) :
    IsAddressChar c := by
  unfold renderPieces at hc
  rcases Text.mem_of_mem_intercalate hc with hc | ⟨ds, hds, hc⟩
  · rw [List.mem_singleton.mp hc]
    unfold IsAddressChar
    decide
  · obtain ⟨n, -, rfl⟩ := List.mem_map.mp hds
    obtain ⟨d, hd, rfl⟩ := exists_of_mem_toDigits (by decide) hc
    exact (isAddressChar_digitChar d hd).1

/-- An IPv6 address is written in address characters. -/
theorem isAddressChar_renderIpv6 {ps : List ℕ} {c : Char} (hc : c ∈ renderIpv6 ps) :
    IsAddressChar c := by
  unfold renderIpv6 at hc
  generalize longestZeroRun 0 ps = run at hc
  obtain ⟨start, length⟩ := run
  dsimp only at hc
  split at hc
  · exact isAddressChar_renderPieces hc
  · rcases List.mem_append.mp hc with hc | hc
    · rcases List.mem_append.mp hc with hc | hc
      · exact isAddressChar_renderPieces hc
      · have hcolon : c = ':' := by simpa using hc
        rw [hcolon]
        unfold IsAddressChar
        decide
    · exact isAddressChar_renderPieces hc

/-! ## Labels in ASCII -/

namespace Punycode

/-- No threshold is over twenty-six. -/
theorem threshold_le (bias place : ℕ) : threshold bias place ≤ 26 := by
  unfold threshold
  split <;> omega

/-- A digit of the numbers in an encoded label. -/
def IsDigit (c : Char) : Prop := ∃ d < 36, c = digitChar d

/-- A number of the encoding is written in its digits. -/
theorem isDigit_renderNumber (bias place n : ℕ) : ∀ c ∈ renderNumber bias place n, IsDigit c := by
  induction n using Nat.strongRecOn generalizing place with
  | ind n ih =>
    have hpos := threshold_pos bias place
    have hle := threshold_le bias place
    intro c hc
    rw [renderNumber] at hc
    split at hc
    · exact ⟨n, by omega, List.mem_singleton.mp hc⟩
    · next hn =>
      rcases List.mem_cons.mp hc with rfl | hc
      · have hmod := Nat.mod_lt (n - threshold bias place)
          (show 0 < 36 - threshold bias place by omega)
        exact ⟨_, by omega, rfl⟩
      · have hdiv := Nat.div_le_self (n - threshold bias place) (36 - threshold bias place)
        exact ih _ (by omega) _ c hc

/-- One character passed over leaves an output of digits. -/
theorem isDigit_pass {ascii n : ℕ} {e : Encoder} (he : ∀ c ∈ e.out, IsDigit c) (c : Char) :
    ∀ d ∈ (e.pass ascii n c).out, IsDigit d := by
  unfold Encoder.pass
  split
  · exact he
  · split
    · intro d hd
      rcases List.mem_append.mp hd with hd | hd
      · exact he d hd
      · exact isDigit_renderNumber _ _ _ d hd
    · exact he

/-- One code encoded leaves an output of digits. -/
theorem isDigit_encodeCode {text : List Char} {ascii : ℕ} {state : Encoder × ℕ}
    (he : ∀ c ∈ state.1.out, IsDigit c) (n : ℕ) :
    ∀ c ∈ (encodeCode text ascii state n).1.out, IsDigit c := by
  obtain ⟨e, least⟩ := state
  show ∀ c ∈ (text.foldl (Encoder.pass ascii n)
    { e with delta := e.delta + (n - least) * (e.count + 1) }).out, IsDigit c
  exact List.foldlRecOn (motive := fun e : Encoder => ∀ c ∈ e.out, IsDigit c) text _ he
    fun _ he' c _ => isDigit_pass he' c

/-- The ASCII form of a label has the ASCII characters of the label, hyphens and digits. -/
theorem mem_encode {text : List Char} {c : Char} (hc : c ∈ encode text) :
    (c ∈ text ∧ c.toNat < 0x80) ∨ c = '-' ∨ IsDigit c := by
  unfold encode at hc
  dsimp only at hc
  rcases List.mem_append.mp hc with hc | hc
  · rcases List.mem_append.mp hc with hc | hc
    · obtain ⟨hmem, hascii⟩ := List.mem_filter.mp hc
      exact .inl ⟨hmem, of_decide_eq_true hascii⟩
    · split at hc
      · cases hc
      · exact .inr (.inl (List.mem_singleton.mp hc))
  · -- The codes are encoded one by one, each in digits.
    have hout := List.foldlRecOn (motive := fun state : Encoder × ℕ => ∀ c ∈ state.1.out, IsDigit c)
      (((text.map Char.toNat).filter (0x80 ≤ ·)).eraseDups.mergeSort fun a b => decide (a ≤ b))
      (encodeCode text (text.filter fun c => c.toNat < 0x80).length)
      (b := ({ count := (text.filter fun c => c.toNat < 0x80).length }, 0x80))
      (fun _ h => by cases h) fun _ hstate n _ => isDigit_encodeCode hstate n
    exact .inr (.inr (hout c hc))

end Punycode

/-- Every digit of an encoded label is a small letter or a decimal digit. -/
theorem Punycode.IsDigit.ascii {c : Char} (hc : Punycode.IsDigit c) : c.toNat < 0x80 := by
  have hdigits : ∀ d < 36, (Punycode.digitChar d).toNat < 0x80 := by decide
  obtain ⟨d, hd, rfl⟩ := hc
  exact hdigits d hd

/-- A text is ASCII when all its characters are. -/
theorem isAscii_iff {cs : List Char} : isAscii cs = true ↔ ∀ c ∈ cs, c.toNat < 0x80 := by
  unfold isAscii
  rw [List.all_eq_true]
  exact forall₂_congr fun c _ => decide_eq_true_iff

/-- The ASCII form of a label is ASCII. -/
theorem ascii_toAscii {label form : List Char} (h : toAscii? label = some form) :
    ∀ c ∈ form, c.toNat < 0x80 := by
  unfold toAscii? at h
  split at h
  · next hascii =>
    cases h
    exact isAscii_iff.mp hascii
  · split at h
    · cases h
    · cases h
      intro c hc
      rcases List.mem_append.mp hc with hc | hc
      · exact isAscii_iff.mp (show isAscii asciiMark = true by decide) c hc
      · -- After the mark come the ASCII characters of the label, a hyphen and digits.
        rcases Punycode.mem_encode hc with ⟨-, hc⟩ | rfl | hc
        · exact hc
        · decide
        · exact hc.ascii

/-- The ASCII form of a mapped name is ASCII. -/
theorem ascii_mappedToAscii {cs form : List Char} (h : mappedToAscii? cs = some form) :
    ∀ c ∈ form, c.toNat < 0x80 := by
  unfold mappedToAscii? at h
  obtain ⟨labels, -, h⟩ := Option.bind_eq_some_iff.mp h
  obtain ⟨forms, hforms, rfl⟩ := Option.map_eq_some_iff.mp h
  intro c hc
  rcases Text.mem_of_mem_intercalate hc with hc | ⟨form, hform, hc⟩
  · rw [List.mem_singleton.mp hc]
    decide
  · obtain ⟨label, -, hlabel⟩ := mem_of_mapM hforms hform
    exact ascii_toAscii hlabel c hc

/-! ## Hosts -/

/-- A domain name in normal form has no capitals and nothing else that is forbidden in it. -/
theorem isSmall_domain {cs form : List Char} (h : domainToAscii? cs = some form) :
    ∀ c ∈ form, IsSmall c ∧ isForbidden c = false := by
  unfold domainToAscii? at h
  obtain ⟨h, hfilter⟩ := Option.filter_eq_some_iff.mp h
  obtain ⟨name, hname, rfl⟩ := Option.map_eq_some_iff.mp h
  -- Plain or mapped, the name is ASCII before it is lowered.
  have hascii : ∀ c ∈ name, c.toNat < 0x80 := by
    split at hname
    · next hplain =>
      cases hname
      unfold isPlain at hplain
      exact isAscii_iff.mp (Bool.and_eq_true_iff.mp hplain).1
    · exact ascii_mappedToAscii hname
  intro c hc
  refine ⟨?_, ?_⟩
  · obtain ⟨d, hd, rfl⟩ := List.mem_map.mp hc
    exact isSmall_toLower (hascii d hd)
  · simp only [Bool.not_eq_true', List.any_eq_false] at hfilter
    exact Bool.eq_false_iff.mpr (hfilter c hc)

/-- Without a colon and brackets all of an authority is its host. -/
theorem cutPort_plain {cs : List Char} (hcs : ∀ c ∈ cs, c ≠ ':' ∧ c ≠ '[' ∧ c ≠ ']')
    (rest : List Char) :
    cutPort false (cs ++ rest) = (cs ++ (cutPort false rest).1, (cutPort false rest).2) := by
  induction cs with
  | nil => rfl
  | cons c cs ih =>
    obtain ⟨hcolon, hopen, hclose⟩ := hcs c List.mem_cons_self
    have hrest := ih fun d hd => hcs d (List.mem_cons_of_mem _ hd)
    rw [List.cons_append, cutPort, if_neg fun h => hcolon h.1, if_neg hopen, if_neg hclose]
    dsimp only
    rw [hrest]
    rfl

/-- A host in normal form: it has no capitals, and it has colons only between two brackets, of which
it has no others. -/
structure IsHost (host : List Char) : Prop where
  small : ∀ c ∈ host, IsSmall c
  shape : (∀ c ∈ host, c ≠ ':' ∧ c ≠ '[' ∧ c ≠ ']') ∨
    ∃ inner, host = '[' :: inner ++ [']'] ∧ ∀ c ∈ inner, c ≠ '[' ∧ c ≠ ']'

/-- A bracketed host is a host in normal form. -/
theorem isHost_bracketed {cs host : List Char} (h : bracketedHost? cs = some host) :
    IsHost host := by
  unfold bracketedHost? at h
  split at h
  · obtain ⟨ps, -, rfl⟩ := Option.map_eq_some_iff.mp h
    refine ⟨?_, .inr ⟨renderIpv6 ps, rfl, fun c hc => (isAddressChar_renderIpv6 hc).2⟩⟩
    intro c hc
    rcases List.mem_append.mp hc with hc | hc
    · rcases List.mem_cons.mp hc with rfl | hc
      · decide
      · exact (isAddressChar_renderIpv6 hc).1
    · rw [List.mem_singleton.mp hc]
      decide
  · cases h

/-- The host of a special scheme is one in normal form. -/
theorem isHost_special {cs host : List Char} (h : specialHost? cs = some host) : IsHost host := by
  unfold specialHost? at h
  split at h
  · exact isHost_bracketed h
  · split at h
    · cases h
    · split at h
      · cases h
      · cases h
      · next domain _ hdomain =>
        split at h
        · -- An address of four numbers.
          obtain ⟨n, -, rfl⟩ := Option.map_eq_some_iff.mp h
          refine ⟨fun c hc => (isAddressChar_renderIpv4 hc).1.1, .inl fun c hc => ?_⟩
          obtain ⟨⟨-, hopen, hclose⟩, hcolon⟩ := isAddressChar_renderIpv4 hc
          exact ⟨hcolon, hopen, hclose⟩
        · cases h
          refine ⟨fun c hc => (isSmall_domain hdomain c hc).1, .inl fun c hc => ?_⟩
          -- The colon and the brackets are forbidden in a domain.
          have hallowed := (isSmall_domain hdomain c hc).2
          refine ⟨?_, ?_, ?_⟩
          · rintro rfl
            exact absurd hallowed (by decide)
          · rintro rfl
            exact absurd hallowed (by decide)
          · rintro rfl
            exact absurd hallowed (by decide)

/-- The host of any URL is ASCII. -/
theorem ascii_opaqueHost {cs host : List Char} (h : opaqueHost? cs = some host) :
    ∀ c ∈ host, c.toNat < 0x80 := by
  have hall : ∀ n < 256, (encodeControl (UInt8.ofNat n)).all fun c => c.toNat < 0x80 := by
    decide +kernel
  have hbyte : ∀ n < 256, ∀ c ∈ encodeControl (UInt8.ofNat n), c.toNat < 0x80 := fun n hn =>
    List.all_iff_forall_prop.mp (hall n hn)
  unfold opaqueHost? at h
  split at h
  · exact fun c hc => ((isHost_bracketed h).small c hc).1
  · split at h
    · cases h
    · cases h
      intro c hc
      obtain ⟨b, -, hb⟩ := List.mem_flatMap.mp hc
      rw [← UInt8.ofNat_toNat (x := b)] at hb
      exact hbyte b.toNat b.toNat_lt c hb

/-! ## Addresses -/

/-- The characters of a scheme in normal form. -/
theorem isSmall_scheme {cs scheme rest : List Char} (h : cutScheme? cs = some (scheme, rest)) :
    ∀ c ∈ scheme, IsSmall c ∧ c ≠ ':' := by
  -- A scheme character is ASCII and no colon, and lowering keeps it so.
  have hchar : ∀ c, isSchemeChar c = true → IsSmall c.toLower ∧ c.toLower ≠ ':' := by
    intro c hc
    have hascii : c.toNat < 0x80 := by
      unfold isSchemeChar at hc
      simp only [Bool.or_eq_true, decide_eq_true_eq] at hc
      rcases hc with ((hc | rfl) | rfl) | rfl
      · exact ascii_of_isAlphanum hc
      all_goals decide
    refine ⟨isSmall_toLower hascii, fun hcolon => ?_⟩
    rw [eq_of_toLower (by decide) hcolon] at hc
    exact absurd hc (by decide)
  unfold cutScheme? at h
  split at h
  · cases h
  · split at h
    · split at h
      · next hspan =>
        cases h
        rw [List.span_eq_takeWhile_dropWhile] at hspan
        obtain ⟨hscheme, -⟩ := Prod.mk.inj hspan
        intro c hc
        obtain ⟨d, hd, rfl⟩ := List.mem_map.mp hc
        rw [← hscheme] at hd
        exact hchar d (List.mem_takeWhile_imp hd)
      · cases h
    · cases h

/-- An address in normal form. The hosts of schemes that are not for the network keep their
capitals. -/
structure Address.IsNormal (a : Address) : Prop where
  scheme : ∀ c ∈ a.scheme.toList, IsSmall c ∧ c ≠ ':'
  host : isNetwork a.scheme.toList = true → IsHost a.host.toList
  ascii : ∀ c ∈ a.host.toList, c.toNat < 0x80

/-- An address parsed from an authority is in normal form. -/
theorem isNormal_authority {scheme cs : List Char} {a : Address}
    (hscheme : ∀ c ∈ scheme, IsSmall c ∧ c ≠ ':') (h : authorityAddress? scheme cs = some a) :
    a.IsNormal := by
  unfold authorityAddress? at h
  generalize cutPort false (afterUser cs) = parts at h
  obtain ⟨host, port⟩ := parts
  dsimp only at h
  split at h
  · next first rest portNumber hhost hport =>
    cases h
    -- By either parser the host is ASCII.
    have hascii : ∀ c ∈ first :: rest, c.toNat < 0x80 := by
      split at hhost
      · exact fun c hc => ((isHost_special hhost).small c hc).1
      · exact ascii_opaqueHost hhost
    refine ⟨by rwa [String.toList_ofList], ?_, by rwa [String.toList_ofList]⟩
    intro hnetwork
    rw [String.toList_ofList] at hnetwork ⊢
    rw [if_pos hnetwork] at hhost
    exact isHost_special hhost
  · cases h

/-- A file address has a host or none, and never a port. -/
theorem fileAddress?_eq_some {cs : List Char} {a : Address} (h : fileAddress? cs = some a) :
    ∃ host name, specialHost? host = some name ∧ a = ⟨"file", String.ofList name, none⟩ := by
  unfold fileAddress? at h
  split at h
  · split at h
    · dsimp only at h
      split at h
      · cases h
      · split at h
        · cases h
        · next hhost =>
          split at h
          · cases h
          · cases h
            exact ⟨_, _, hhost, rfl⟩
    · cases h
  · cases h

/-- A file address is in normal form. -/
theorem isNormal_file {cs : List Char} {a : Address} (h : fileAddress? cs = some a) :
    a.IsNormal := by
  have hscheme : ∀ c ∈ "file".toList, IsSmall c ∧ c ≠ ':' :=
    List.all_iff_forall_prop.mp (by decide)
  obtain ⟨host, name, hhost, rfl⟩ := fileAddress?_eq_some h
  have hnormal := isHost_special hhost
  refine ⟨hscheme, fun _ => ?_, fun c hc => ?_⟩
  · rwa [String.toList_ofList]
  · rw [String.toList_ofList] at hc
    exact (hnormal.small c hc).1

/-- The scheme and host of a URL are in normal form. -/
theorem isNormal_of_parse {text : String} {a : Address} (h : Address.parse? text = some a) :
    a.IsNormal := by
  unfold Address.parse? at h
  obtain ⟨⟨scheme, rest⟩, hcut, h⟩ := Option.bind_eq_some_iff.mp h
  have hscheme := isSmall_scheme hcut
  dsimp only at h
  unfold schemeAddress? at h
  split at h
  · exact isNormal_file h
  · split at h
    · exact isNormal_authority hscheme h
    · split at h
      · exact isNormal_authority hscheme h
      · cases h

end FrameHost.Origin
