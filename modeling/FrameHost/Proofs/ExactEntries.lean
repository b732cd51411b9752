import FrameHost.Proofs.Wildcards

/-!
# Entries for one origin

An entry such as `https://host` or `https://host:port` is meant for one origin. There are two ways to
compare it with the origin of a page: as a text with the text of the page's address
(`originMatches`), or by the addresses of both (`sameOrigin`). `exact_entry_agrees_iff` says for which
entries both come to the same: for those that are written as the parser writes their address, whatever
the case of letters. An entry with the default port of its scheme is not (`default_port_refused`), nor
is one with a host that has another normal form.

The text of an address on the network tells the address (`eq_of_candidate`), as the host and the port
can be read back from it (`cutPort_authority`), and it has no capitals (`map_toLower_candidate`).
-/

namespace FrameHost.Origin

open Text (isBlank)
/-! ## Addresses and their texts -/

/-- No port is cut off inside the brackets of an IPv6 address. -/
theorem cutPort_bracketed {cs : List Char} (hcs : ∀ c ∈ cs, c ≠ '[' ∧ c ≠ ']')
    (rest : List Char) :
    cutPort true (cs ++ rest) = (cs ++ (cutPort true rest).1, (cutPort true rest).2) := by
  induction cs with
  | nil => rfl
  | cons c cs ih =>
    obtain ⟨hopen, hclose⟩ := hcs c List.mem_cons_self
    have hrest := ih fun d hd => hcs d (List.mem_cons_of_mem _ hd)
    rw [List.cons_append, cutPort, if_neg fun h => absurd h.2 (by decide), if_neg hopen,
      if_neg hclose]
    dsimp only
    rw [hrest]
    rfl

/-- A host in normal form is read up to its end. -/
theorem cutPort_host {host : List Char} (hhost : IsHost host) (rest : List Char) :
    cutPort false (host ++ rest) = (host ++ (cutPort false rest).1, (cutPort false rest).2) := by
  rcases hhost.shape with hplain | ⟨inner, rfl, hinner⟩
  · exact cutPort_plain hplain rest
  · have hclosed : cutPort true (']' :: rest) =
        (']' :: (cutPort false rest).1, (cutPort false rest).2) := rfl
    have hinside : cutPort true (inner ++ ']' :: rest) =
        (inner ++ ']' :: (cutPort false rest).1, (cutPort false rest).2) := by
      rw [cutPort_bracketed hinner, hclosed]
    have hopened : cutPort false ('[' :: (inner ++ ']' :: rest)) =
        ('[' :: (cutPort true (inner ++ ']' :: rest)).1,
          (cutPort true (inner ++ ']' :: rest)).2) := rfl
    rw [List.append_assoc, List.cons_append, List.singleton_append, hopened, hinside]
    simp

/-- The host and the port of an authority are read back. -/
theorem cutPort_authority {a : Address} (ha : IsHost a.host.toList) :
    cutPort false a.authority = (a.host.toList, a.port.map (Nat.toDigits 10)) := by
  unfold Address.authority
  rw [cutPort_host ha]
  cases a.port with
  | none => rw [show cutPort false [] = ([], none) from rfl, List.append_nil]; rfl
  | some n =>
    have hcolon : cutPort false (':' :: Nat.toDigits 10 n) = ([], some (Nat.toDigits 10 n)) := rfl
    rw [hcolon, List.append_nil]
    rfl

/-- Decimal notation tells numbers apart. -/
theorem toDigits_inj {m n : ℕ} (h : Nat.toDigits 10 m = Nat.toDigits 10 n) : m = n := by
  rw [← @Nat.ofDigitChars_ten_toDigits m, h, Nat.ofDigitChars_ten_toDigits]

/-- What stands before the first colon, and what after it. -/
theorem append_colon_inj {s t x y : List Char} (hs : ':' ∉ s) (ht : ':' ∉ t)
    (h : s ++ ':' :: x = t ++ ':' :: y) : s = t ∧ x = y := by
  induction s generalizing t with
  | nil =>
    cases t with
    | nil => exact ⟨rfl, (List.cons.inj h).2⟩
    | cons d t => exact absurd ((List.cons.inj h).1 ▸ List.mem_cons_self) ht
  | cons c s ih =>
    cases t with
    | nil => exact absurd ((List.cons.inj h).1 ▸ List.mem_cons_self) hs
    | cons d t =>
      obtain ⟨rfl, hrest⟩ := List.cons.inj h
      obtain ⟨rfl, hxy⟩ := ih (fun hmem => hs (List.mem_cons_of_mem _ hmem))
        (fun hmem => ht (List.mem_cons_of_mem _ hmem)) hrest
      exact ⟨rfl, hxy⟩

/-- Two addresses on the network with the same text are the same. -/
theorem eq_of_candidate {a b : Address} (ha : a.IsNormal) (hb : b.IsNormal)
    (hnetwork : isNetwork a.scheme.toList = true) (h : a.candidate true = b.candidate true) :
    a = b := by
  have hcolon : ∀ {x : Address}, x.IsNormal → ':' ∉ x.scheme.toList :=
    fun hx hmem => (hx.scheme ':' hmem).2 rfl
  have hsplit : a.scheme.toList ++ ':' :: ('/' :: '/' :: a.authority) =
      b.scheme.toList ++ ':' :: ('/' :: '/' :: b.authority) := by
    simpa [Address.candidate] using h
  obtain ⟨hscheme, hauthority⟩ := append_colon_inj (hcolon ha) (hcolon hb) hsplit
  -- Host and port are told apart by the cut that the parser makes.
  have hcut := congrArg (cutPort false) (List.cons.inj (List.cons.inj hauthority).2).2
  rw [cutPort_authority (ha.host hnetwork), cutPort_authority (hb.host (hscheme ▸ hnetwork))] at hcut
  obtain ⟨hhost, hport⟩ := Prod.mk.inj hcut
  obtain ⟨ascheme, ahost, aport⟩ := a
  obtain ⟨bscheme, bhost, bport⟩ := b
  obtain rfl := String.toList_inj.mp hscheme
  obtain rfl := String.toList_inj.mp hhost
  obtain rfl := Option.map_injective (fun _ _ => toDigits_inj) hport
  rfl

/-! ## Origins -/

variable {text : String} {a : Address}

/-- The scheme and what follows it are those of the address. -/
theorem toList_scheme {scheme rest : List Char} (h : schemeAddress? scheme rest = some a) :
    a.scheme.toList = scheme := by
  -- But for files the scheme goes into the address as it is.
  have hauthority : ∀ {cs : List Char}, authorityAddress? scheme cs = some a →
      a.scheme.toList = scheme := by
    intro cs h
    unfold authorityAddress? at h
    dsimp only at h
    split at h
    · cases h
      exact String.toList_ofList
    · cases h
  unfold schemeAddress? at h
  split at h
  · next hfile =>
    obtain ⟨-, -, -, rfl⟩ := fileAddress?_eq_some h
    show "file".toList = scheme
    exact (of_decide_eq_true hfile).symm
  · split at h
    · exact hauthority h
    · split at h
      · exact hauthority h
      · cases h

/-- Whether a text is a URL that wraps another one. -/
def IsBlob (text : String) : Prop :=
  ∃ rest, cutScheme? (clean text.toList) = some ("blob".toList, rest)

/-- The origin of a URL on the network is its address; no other URL but a blob has one. -/
theorem origin?_eq_some_iff (hblob : ¬ IsBlob text) :
    origin? text = some a ↔ Address.parse? text = some a ∧ isNetwork a.scheme.toList = true := by
  unfold origin? originOf? Address.parse?
  cases hcut : cutScheme? (clean text.toList) with
  | none => simp
  | some cut =>
    obtain ⟨scheme, rest⟩ := cut
    -- No blob: the address is the text's own.
    have hscheme : scheme ≠ "blob".toList := by
      rintro rfl
      exact hblob ⟨rest, hcut⟩
    dsimp only
    rw [if_neg hscheme, Option.bind_some]
    constructor
    · intro h
      split at h
      · next hnetwork => exact ⟨h, by rwa [toList_scheme h]⟩
      · cases h
    · rintro ⟨h, hnetwork⟩
      rw [toList_scheme h] at hnetwork
      rw [if_pos hnetwork]
      exact h

/-! ## Entries for one origin -/

/-- A character of a host or port: no blank, no control, and nothing that has a meaning of its own in
an entry or before, behind or around a host in a URL. -/
def IsHostChar (c : Char) : Prop :=
  0x20 < c.toNat ∧ isBlank c = false ∧ c ∉ ['*', '/', '\\', '?', '#', '@']

/-- An entry of the form `scheme://host` or `scheme://host:port` with the scheme `http` or
`https`. -/
def IsExact (entry : String) : Prop :=
  ∃ scheme rest, entry.toList = scheme ++ ([':', '/', '/'] ++ rest) ∧
    scheme.map Char.toLower ∈ ["http".toList, "https".toList] ∧
    rest ≠ [] ∧ ∀ c ∈ rest, IsHostChar c

/-- The letters of the two schemes. -/
theorem mem_schemeLetters {scheme : List Char}
    (h : scheme.map Char.toLower ∈ ["http".toList, "https".toList]) :
    ∀ c ∈ scheme, c ∈ "htpsHTPS".toList := by
  intro c hc
  -- Lowered it is one of the four letters.
  have hlower : c.toLower ∈ "htps".toList := by
    have hmem := List.mem_map_of_mem (f := Char.toLower) hc
    rcases List.mem_cons.mp h with h | h
    · rw [h] at hmem
      have hsub : "http".toList ⊆ "htps".toList := by decide
      exact hsub hmem
    · rw [List.mem_singleton.mp h] at hmem
      have hsub : "https".toList ⊆ "htps".toList := by decide
      exact hsub hmem
  rcases toLower_cases c with ⟨-, hcapital⟩ | ⟨-, hsame⟩
  · -- A capital is 32 codes before its small letter.
    have hnumber : ∀ d ∈ "htps".toList, Char.ofNat (d.toNat - 32) ∈ "htpsHTPS".toList :=
      List.all_iff_forall_prop.mp (by decide)
    have hmem := hnumber _ hlower
    rwa [hcapital, Nat.add_sub_cancel, Char.ofNat_toNat] at hmem
  · rw [hsame] at hlower
    have hsub : "htps".toList ⊆ "htpsHTPS".toList := by decide
    exact hsub hlower

variable {entry origin : String} {k : Engine}

/-- An exact entry has no `*`, no blanks and no controls. -/
theorem IsExact.chars (h : IsExact entry) :
    ∀ c ∈ entry.toList, 0x20 < c.toNat ∧ isBlank c = false ∧ c ≠ '*' := by
  obtain ⟨scheme, rest, htext, hscheme, -, hrest⟩ := h
  intro c hc
  rw [htext] at hc
  rcases List.mem_append.mp hc with hc | hc
  · -- The scheme, the three marks after it, and the rest.
    have hletters : ∀ d ∈ "htpsHTPS".toList, 0x20 < d.toNat ∧ isBlank d = false ∧ d ≠ '*' :=
      List.all_iff_forall_prop.mp (by decide)
    exact hletters c (mem_schemeLetters hscheme c hc)
  · rcases List.mem_append.mp hc with hc | hc
    · have hmarks : ∀ d ∈ [':', '/', '/'], 0x20 < d.toNat ∧ isBlank d = false ∧ d ≠ '*' :=
        List.all_iff_forall_prop.mp (by decide)
      exact hmarks c hc
    · obtain ⟨hcontrol, hblank, hplain⟩ := hrest c hc
      refine ⟨hcontrol, hblank, ?_⟩
      rintro rfl
      exact hplain (by decide)

/-- There is nothing to trim off an exact entry. -/
theorem IsExact.trimEntry (h : IsExact entry) : trimEntry entry = entry.toList := by
  refine (trims_iff.mp ⟨[], [], [], by simp, by simp, by simp, ?_, ?_, by simp, ?_⟩).symm
  · intro c hc
    rw [List.append_nil] at hc
    exact (h.chars c (List.mem_of_head? hc)).2.1
  · intro c hc
    rw [List.append_nil] at hc
    exact (h.chars c (List.mem_of_getLast? hc)).2.1
  · obtain ⟨scheme, rest, htext, -, hne, hrest⟩ := h
    intro hslash
    rw [htext, ← List.append_assoc, List.getLast?_append_of_ne_nil _ hne] at hslash
    exact (hrest '/' (List.mem_of_getLast? hslash)).2.2 (by decide)

/-- Nothing in an exact entry is dropped before its URL is read. -/
theorem IsExact.clean (h : IsExact entry) : clean entry.toList = entry.toList :=
  clean_of_forall fun c hc => (h.chars c hc).1

/-- The scheme of an exact entry is that of its URL. -/
theorem IsExact.cutScheme (h : IsExact entry) : ∃ scheme rest,
    entry.toList = scheme ++ ([':', '/', '/'] ++ rest) ∧
    scheme.map Char.toLower ∈ ["http".toList, "https".toList] ∧
    cutScheme? (Origin.clean entry.toList) =
      some (scheme.map Char.toLower, ['/', '/'] ++ rest) := by
  have hclean := h.clean
  obtain ⟨scheme, rest, htext, hscheme, -, -⟩ := h
  refine ⟨scheme, rest, htext, hscheme, ?_⟩
  have hletters := mem_schemeLetters hscheme
  -- The scheme ends at the colon, which is no scheme character.
  have hspan : (scheme ++ ([':', '/', '/'] ++ rest)).span isSchemeChar =
      (scheme, [':', '/', '/'] ++ rest) := by
    have hall : ∀ c ∈ scheme, isSchemeChar c = true := fun c hc =>
      List.all_eq_true.mp (show "htpsHTPS".toList.all isSchemeChar by decide) c (hletters c hc)
    rw [List.span_eq_takeWhile_dropWhile, List.takeWhile_append_of_pos hall,
      List.dropWhile_append_of_pos hall]
    simp [show isSchemeChar ':' = false by decide]
  rw [hclean, htext]
  cases scheme with
  | nil => exact absurd hscheme (by decide)
  | cons c cs =>
    have halpha : c.isAlpha = true :=
      List.all_eq_true.mp (show "htpsHTPS".toList.all Char.isAlpha by decide) c
        (hletters c List.mem_cons_self)
    rw [List.cons_append] at hspan ⊢
    unfold cutScheme?
    dsimp only
    rw [if_pos halpha, hspan]
    rfl

/-- An exact entry allows the origins that are written as it is, whatever the case of letters. -/
theorem IsExact.allows_iff (h : IsExact entry) : originMatches k entry origin = true ↔
    ∃ b, Address.parse? origin = some b ∧
      entry.toList.map Char.toLower = (b.candidate true).map Char.toLower := by
  have hstar : '*' ∉ entry.toList := fun hmem => (h.chars '*' hmem).2.2 rfl
  have hscheme : namesScheme entry.toList = true := by
    obtain ⟨scheme, rest, htext, -⟩ := h
    exact namesScheme_iff.mpr ⟨scheme, rest, by rw [htext, List.append_assoc]⟩
  -- An exact entry is compared as it stands, with its scheme.
  have hplain : entry.toList ≠ ['*'] := fun heq => hstar (heq ▸ List.mem_cons_self)
  unfold originMatches
  dsimp only
  rw [h.trimEntry, decide_eq_false hplain, Bool.false_or]
  cases Address.parse? origin with
  | none => simp
  | some b =>
    dsimp only [entryAllows]
    rw [hscheme, if_neg hstar, beq_iff_eq]
    simp

/-- The text of an address on the network has no capitals. -/
theorem map_toLower_candidate (ha : a.IsNormal) (hnetwork : isNetwork a.scheme.toList = true) :
    (a.candidate true).map Char.toLower = a.candidate true := by
  refine map_toLower_of_small fun c hc => ?_
  unfold Address.candidate at hc
  rw [if_pos rfl, List.mem_append, List.mem_append] at hc
  -- The scheme, the marks, the host and the port are all in small letters.
  rcases hc with (hc | hc) | hc
  · exact (ha.scheme c hc).1
  · have hmarks : ∀ d ∈ [':', '/', '/'], IsSmall d := List.all_iff_forall_prop.mp (by decide)
    exact hmarks c hc
  · rcases mem_authority hc with hc | rfl | ⟨n, hc⟩
    · exact (ha.host hnetwork).small c hc
    · decide
    · obtain ⟨d, hd, rfl⟩ := exists_of_mem_toDigits (by decide) hc
      exact (isAddressChar_digitChar d (by omega)).1.1

/-- What an exact entry is written as has the scheme of the entry, on the network. -/
theorem IsExact.scheme_eq {b : Address} (h : IsExact entry) (hb : b.IsNormal)
    (heq : entry.toList.map Char.toLower = (b.candidate true).map Char.toLower) :
    b.scheme.toList ∈ ["http".toList, "https".toList] := by
  obtain ⟨scheme, rest, htext, hscheme, -⟩ := h
  have hlower : b.scheme.toList.map Char.toLower = b.scheme.toList :=
    map_toLower_of_small fun c hc => (hb.scheme c hc).1
  have hsplit : scheme.map Char.toLower ++ ':' :: ('/' :: '/' :: rest.map Char.toLower) =
      b.scheme.toList ++ ':' :: ('/' :: '/' :: b.authority.map Char.toLower) := by
    rw [htext] at heq
    simpa [Address.candidate, hlower] using heq
  have hcolon : ∀ s ∈ ["http".toList, "https".toList], ':' ∉ s := by decide
  obtain ⟨hsame, -⟩ := append_colon_inj (hcolon _ hscheme)
    (fun hmem => (hb.scheme ':' hmem).2 rfl) hsplit
  rwa [← hsame]

/-- The two web schemes are network schemes. -/
theorem isNetwork_of_web {scheme : List Char} (h : scheme ∈ ["http".toList, "https".toList]) :
    isNetwork scheme = true :=
  (show ∀ s ∈ ["http".toList, "https".toList], isNetwork s = true by decide) scheme h

/-- An exact entry is no blob address. -/
theorem IsExact.not_isBlob (h : IsExact entry) : ¬ IsBlob entry := by
  rintro ⟨rest, hblob⟩
  obtain ⟨scheme, rest', -, hscheme, hcut⟩ := h.cutScheme
  rw [hcut] at hblob
  rw [(Prod.mk.inj (Option.some.inj hblob)).1] at hscheme
  exact absurd hscheme (by decide)

/-- The origin of an exact entry is the address of its URL. -/
theorem IsExact.origin?_eq (h : IsExact entry) (ha : Address.parse? entry = some a) :
    isNetwork a.scheme.toList = true ∧ origin? entry = some a := by
  obtain ⟨scheme, rest, -, hscheme, hcut⟩ := h.cutScheme
  have hnetwork : isNetwork a.scheme.toList = true := by
    unfold Address.parse? at ha
    rw [hcut] at ha
    rw [toList_scheme ha]
    exact isNetwork_of_web hscheme
  exact ⟨hnetwork, (origin?_eq_some_iff h.not_isBlob).mpr ⟨ha, hnetwork⟩⟩

/-- An exact entry allows its own origin if it is written as the parser writes it. -/
theorem IsExact.originMatches_self_iff (h : IsExact entry) (ha : Address.parse? entry = some a) :
    originMatches k entry entry = true ↔ entry.toList.map Char.toLower = a.candidate true := by
  rw [h.allows_iff]
  have hlower := map_toLower_candidate (isNormal_of_parse ha) (h.origin?_eq ha).1
  constructor
  · rintro ⟨b, hb, heq⟩
    rw [ha] at hb
    rw [heq, ← Option.some.inj hb, hlower]
  · exact fun heq => ⟨a, ha, by rw [heq, hlower]⟩

/-- An exact entry is of the same origin as a text exactly when the text has the entry's address as
its origin. -/
theorem IsExact.sameOrigin_iff (h : IsExact entry) (ha : Address.parse? entry = some a) :
    sameOrigin entry origin = true ↔ origin? origin = some a := by
  unfold sameOrigin
  rw [(h.origin?_eq ha).2]
  cases origin? origin with
  | none => simp
  | some b => rw [beq_iff_eq, Option.some_inj, eq_comm]

/-- An exact entry that is written as the parser writes it allows the URLs of its own origin. -/
theorem IsExact.agrees (h : IsExact entry) (ha : Address.parse? entry = some a)
    (hwritten : entry.toList.map Char.toLower = a.candidate true) (hblob : ¬ IsBlob origin) :
    originMatches k entry origin = true ↔ sameOrigin entry origin = true := by
  have hnormal := isNormal_of_parse ha
  have hnetwork := (h.origin?_eq ha).1
  rw [h.allows_iff, h.sameOrigin_iff ha, origin?_eq_some_iff hblob]
  constructor
  · rintro ⟨b, hb, heq⟩
    have hbnormal := isNormal_of_parse hb
    have hbnetwork := isNetwork_of_web (h.scheme_eq hbnormal heq)
    -- Both are written in small letters, so the texts are the same and so are the addresses.
    rw [hwritten, map_toLower_candidate hbnormal hbnetwork] at heq
    rw [eq_of_candidate hnormal hbnormal hnetwork heq]
    exact ⟨hb, hbnetwork⟩
  · rintro ⟨hb, -⟩
    exact ⟨a, hb, by rw [hwritten, map_toLower_candidate hnormal hnetwork]⟩

/-- The scheme of a blob is not one that an exact entry can have. -/
theorem IsExact.refuses_blob (h : IsExact entry) (hblob : IsBlob origin) :
    originMatches k entry origin = false := by
  refine Bool.eq_false_iff.mpr fun hmatches => ?_
  obtain ⟨b, hb, heq⟩ := h.allows_iff.mp hmatches
  have hscheme := h.scheme_eq (isNormal_of_parse hb) heq
  obtain ⟨rest, hcut⟩ := hblob
  unfold Address.parse? at hb
  rw [hcut] at hb
  rw [toList_scheme hb] at hscheme
  exact absurd hscheme (by decide)

/-- Comparing texts and comparing origins agree, for an exact entry that is a URL, on every origin
but that of a blob, exactly if the entry is written as the parser writes its address, whatever the
case of letters: without the default port, and with the host in normal form. So is a URL allowed by
itself. A blob is never allowed by an exact entry. -/
theorem exact_entry_agrees_iff (k : Engine) (hentry : IsExact entry) (ha : Address.parse? entry = some a) :
    ((∀ origin, ¬ IsBlob origin →
        (originMatches k entry origin = true ↔ sameOrigin entry origin = true)) ↔
      entry.toList.map Char.toLower = a.candidate true) ∧
    (originMatches k entry entry = true ↔ entry.toList.map Char.toLower = a.candidate true) ∧
    ∀ origin, IsBlob origin → originMatches k entry origin = false := by
  have hself := hentry.originMatches_self_iff (k := k) ha
  refine ⟨⟨fun hagree => ?_, fun hwritten origin hblob => hentry.agrees ha hwritten hblob⟩, hself,
    fun origin hblob => hentry.refuses_blob hblob⟩
  -- The entry is an origin itself.
  have hsame := (hentry.sameOrigin_iff ha).mpr (hentry.origin?_eq ha).2
  exact hself.mp ((hagree entry hentry.not_isBlob).mpr hsame)

/-- An entry with a port and a capital. -/
theorem exact_entry_agrees_shop :
    IsExact "https://Shop.example.com:8443" ∧
      Address.parse? "https://Shop.example.com:8443" =
        some ⟨"https", "shop.example.com", some 8443⟩ ∧
      ∀ origin, ¬ IsBlob origin →
        (originMatches .standard "https://Shop.example.com:8443" origin = true ↔
          sameOrigin "https://Shop.example.com:8443" origin = true) := by
  have hexact : IsExact "https://Shop.example.com:8443" := by
    refine ⟨"https".toList, "Shop.example.com:8443".toList, by decide +kernel, by decide +kernel,
      by decide, ?_⟩
    unfold IsHostChar
    exact List.all_iff_forall_prop.mp (by decide +kernel)
  have hparse : Address.parse? "https://Shop.example.com:8443" =
      some ⟨"https", "shop.example.com", some 8443⟩ := by decide +kernel
  exact ⟨hexact, hparse, (exact_entry_agrees_iff .standard hexact hparse).1.mpr (by decide +kernel)⟩

/-- An entry with the default port of its scheme is for the same origin as without, and refuses it,
whichever way the origin is written. -/
theorem default_port_refused :
    sameOrigin "https://shop.example.com:443" "https://shop.example.com" = true ∧
      originMatches .standard "https://shop.example.com:443" "https://shop.example.com" = false ∧
      originMatches .standard "https://shop.example.com:443" "https://shop.example.com:443" = false := by
  decide +kernel

end FrameHost.Origin
