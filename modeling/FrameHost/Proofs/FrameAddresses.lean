import FrameHost.Proofs.ManagerPaths
import FrameHost.Proofs.PathCache
import FrameHost.Proofs.ResourcePaths
import FrameHost.Proofs.Wildcards

/-!
# Where iframes are loaded from

A frame is loaded from an address that is put together of its source, without the slashes at its
end, and of a path; messages to it are posted to the source. For a source that is a bare origin both
are at the same site exactly if nothing of the path is taken for a part of the authority
(`site?_append`). The paths of most modes begin with a slash. The path of the manager begins with
the root of the configuration as it is, and a root without a slash in front makes the authority
longer.
-/

namespace FrameHost

/-! ## Sites -/

namespace Origin

/-- Whether a backslash ends the authority of the URLs of a scheme too. -/
def isSpecial (scheme : List Char) : Bool := isNetwork scheme || isFile scheme

/-- The scheme, in lower case, and the authority that a URL text names. -/
def site? (cs : List Char) : Option (List Char × List Char) :=
  match cutScheme? cs with
  | some (scheme, '/' :: '/' :: rest) => some (scheme, authority (isSpecial scheme) rest)
  | _ => none

/-- What an address begins with that has a given scheme and authority. -/
def sitePrefix (scheme auth : List Char) : List Char := scheme ++ [':', '/', '/'] ++ auth

/-- A scheme and an authority that is one for this scheme, both as they are written. -/
structure IsSite (scheme auth : List Char) : Prop where
  /-- The scheme begins with a letter. -/
  letter : ∃ c cs, scheme = c :: cs ∧ c.isAlpha = true
  /-- Nothing in the scheme ends it. -/
  plain : ∀ c ∈ scheme, isSchemeChar c = true
  /-- There is an authority. -/
  named : auth ≠ []
  /-- Nothing in the authority ends it. -/
  inside : ∀ c ∈ auth, endsAuthority (isSpecial (scheme.map Char.toLower)) c = false

/-- A text is an origin, with any number of slashes at its end. -/
def IsBare (scheme auth : List Char) (text : String) : Prop :=
  ∃ slashes, text.toList = sitePrefix scheme auth ++ slashes ∧ ∀ c ∈ slashes, c = '/'

variable {scheme auth : List Char} {text : String}

/-- The scheme is cut off before the colon, in small letters. -/
theorem cutScheme?_append (h : IsSite scheme auth) (rest : List Char) :
    cutScheme? (scheme ++ ':' :: rest) = some (scheme.map Char.toLower, rest) := by
  have hspan : (scheme ++ ':' :: rest).span isSchemeChar = (scheme, ':' :: rest) := by
    rw [List.span_eq_takeWhile_dropWhile, List.takeWhile_append_of_pos h.plain,
      List.dropWhile_append_of_pos h.plain]
    simp [show isSchemeChar ':' = false by decide]
  obtain ⟨c, cs, rfl, hc⟩ := h.letter
  rw [List.cons_append] at hspan ⊢
  unfold cutScheme?
  dsimp only
  rw [if_pos hc, hspan]
  rfl

/-- What follows an authority belongs to it up to the first character that ends it. -/
theorem authority_append {special : Bool} (h : ∀ c ∈ auth, endsAuthority special c = false)
    (rest : List Char) : authority special (auth ++ rest) = auth ++ authority special rest := by
  unfold authority
  rw [List.takeWhile_append_of_pos]
  exact fun c hc => by rw [h c hc]; rfl

/-- There is no authority exactly when the text begins with what ends one. -/
theorem authority_eq_nil_iff {special : Bool} {rest : List Char} :
    authority special rest = [] ↔ ∀ c, rest.head? = some c → endsAuthority special c = true := by
  unfold authority
  cases rest with
  | nil => simp
  | cons c rest => simp [List.takeWhile_cons]

/-- The site of an address: its scheme, and its authority as far as the rest does not go on with it.
-/
theorem site?_append (h : IsSite scheme auth) (rest : List Char) :
    site? (sitePrefix scheme auth ++ rest) = some (scheme.map Char.toLower,
      auth ++ authority (isSpecial (scheme.map Char.toLower)) rest) := by
  have hsplit : sitePrefix scheme auth ++ rest = scheme ++ ':' :: '/' :: '/' :: (auth ++ rest) := by
    simp [sitePrefix]
  rw [hsplit, site?, cutScheme?_append h, ← authority_append h.inside]
  rfl

/-- A bare source is the site it spells. -/
theorem IsBare.site?_eq (h : IsSite scheme auth) (hbare : IsBare scheme auth text) :
    site? text.toList = some (scheme.map Char.toLower, auth) := by
  obtain ⟨slashes, htext, hslashes⟩ := hbare
  have hends : authority (isSpecial (scheme.map Char.toLower)) slashes = [] := by
    refine authority_eq_nil_iff.mpr fun c hc => ?_
    rw [hslashes c (List.mem_of_head? hc)]
    rfl
  rw [htext, site?_append h, hends, List.append_nil]

/-- Of a bare origin only the slashes at its end are dropped. -/
theorem IsBare.toList_dropSlashes (h : IsSite scheme auth) (hbare : IsBare scheme auth text) :
    (dropSlashes text).toList = sitePrefix scheme auth := by
  obtain ⟨slashes, htext, hslashes⟩ := hbare
  -- No slash is inside an authority, so none is dropped from it.
  have hlast : ∀ c, (sitePrefix scheme auth).getLast? = some c → decide (c = '/') = false := by
    intro c hc
    rw [sitePrefix, List.getLast?_append_of_ne_nil _ h.named] at hc
    have hinside := h.inside c (List.mem_of_getLast? hc)
    refine decide_eq_false fun hslash => ?_
    rw [hslash] at hinside
    exact Bool.noConfusion hinside
  rw [dropSlashes, String.toList_ofList, htext]
  exact rdropWhile_append_eq (fun c hc => decide_eq_true (hslashes c hc)) hlast

/-! ## Origins -/

/-- What is left of the end of an address without the blanks behind it and the line breaks and tabs
in it. -/
def cleanEnd (cs : List Char) : List Char :=
  (cs.rdropWhile (·.toNat ≤ 0x20)).filter fun c => c ≠ '\t' && c ≠ '\n' && c ≠ '\r'

/-- A trim from the right stops where no character is to be trimmed. -/
theorem rdropWhile_append_of_neg {p : Char → Bool} {s t : List Char} (hs : ∀ c ∈ s, p c = false) :
    (s ++ t).rdropWhile p = s ++ t.rdropWhile p := by
  have hlast : ∀ c, (s ++ t.rdropWhile p).getLast? = some c → p c = false := by
    intro c hc
    rcases List.eq_nil_or_concat' (t.rdropWhile p) with hnil | hconcat
    · rw [hnil, List.append_nil] at hc
      exact hs c (List.mem_of_getLast? hc)
    · obtain ⟨cs, d, hcs⟩ := hconcat
      have hne : t.rdropWhile p ≠ [] := by simp [hcs]
      rw [List.getLast?_append_of_ne_nil _ hne] at hc
      exact getLast?_rdropWhile hc
  calc (s ++ t).rdropWhile p
      = (s ++ t.rdropWhile p ++ t.rtakeWhile p).rdropWhile p := by
        rw [List.append_assoc, List.rdropWhile_append_rtakeWhile]
    _ = s ++ t.rdropWhile p :=
        rdropWhile_append_eq (fun c hc => List.mem_rtakeWhile_imp hc) hlast

/-- A beginning without blanks is kept. -/
theorem clean_append {front : List Char} (hne : front ≠ []) (hfront : ∀ c ∈ front, 0x20 < c.toNat)
    (rest : List Char) : clean (front ++ rest) = front ++ cleanEnd rest := by
  have hkept : ∀ c ∈ front, decide (c.toNat ≤ 0x20) = false := fun c hc => by
    have hgt := hfront c hc
    exact decide_eq_false (by omega)
  -- The front begins with a character that is kept, so nothing is cut before it.
  have hstart : (front ++ rest).dropWhile (·.toNat ≤ 0x20) = front ++ rest := by
    obtain ⟨c, cs, rfl⟩ := List.exists_cons_of_ne_nil hne
    exact List.dropWhile_cons_of_neg (by rw [hkept c List.mem_cons_self]; decide)
  unfold clean
  dsimp only
  rw [hstart, ← List.rdropWhile, rdropWhile_append_of_neg hkept, List.filter_append,
    filter_breaks_eq_self hfront]
  rfl

/-- Scheme characters are no blanks. -/
theorem lt_of_isSchemeChar {c : Char} (hc : isSchemeChar c = true) : 0x20 < c.toNat := by
  have hlow : ∀ n < 0x21, isSchemeChar (Char.ofNat n) = false := by decide
  by_contra hle
  have hno := hlow c.toNat (by omega)
  rw [Char.ofNat_toNat, hc] at hno
  cases hno

/-- The origin of an address on the network is told by its scheme and its authority, whatever path
follows. -/
theorem origin?_eq (h : IsSite scheme auth) (hnetwork : isNetwork (scheme.map Char.toLower) = true)
    (hblank : ∀ c ∈ auth, 0x20 < c.toNat) {rest : List Char}
    (htext : text.toList = sitePrefix scheme auth ++ rest)
    (hrest : ∀ c, rest.head? = some c → c = '/') :
    origin? text = authorityAddress? (scheme.map Char.toLower) auth := by
  have hspecial : isSpecial (scheme.map Char.toLower) = true := by rw [isSpecial, hnetwork]; rfl
  have hinside := h.inside
  rw [hspecial] at hinside
  have hmarks : ∀ c ∈ [':', '/', '/'], 0x20 < c.toNat := List.all_iff_forall_prop.mp (by decide)
  have hfront : ∀ c ∈ sitePrefix scheme auth, 0x20 < c.toNat := by
    intro c hc
    rw [sitePrefix, List.mem_append, List.mem_append] at hc
    rcases hc with (hc | hc) | hc
    · exact lt_of_isSchemeChar (h.plain c hc)
    · exact hmarks c hc
    · exact hblank c hc
  have hne : sitePrefix scheme auth ≠ [] := List.append_ne_nil_of_right_ne_nil _ h.named
  -- The path begins with the same slash, if it is there.
  obtain ⟨rest', hclean, hends⟩ : ∃ rest', clean text.toList = sitePrefix scheme auth ++ rest' ∧
      ∀ c, rest'.head? = some c → endsAuthority true c = true := by
    cases rest with
    | nil =>
      rw [htext, clean_append hne hfront]
      exact ⟨[], rfl, by simp⟩
    | cons c rest =>
      obtain rfl := hrest c rfl
      have hfront' : ∀ c ∈ sitePrefix scheme auth ++ ['/'], 0x20 < c.toNat :=
        List.forall_mem_append.mpr ⟨hfront, List.forall_mem_singleton.mpr (by decide)⟩
      rw [htext, List.append_cons, clean_append (by simp) hfront']
      exact ⟨'/' :: cleanEnd rest, by simp, by simp [endsAuthority]⟩
  have hsplit : sitePrefix scheme auth ++ rest' =
      scheme ++ ':' :: (['/', '/'] ++ (auth ++ rest')) := by
    simp [sitePrefix]
  have hblob : scheme.map Char.toLower ≠ "blob".toList := by
    intro heq
    rw [heq] at hnetwork
    exact absurd hnetwork (by decide)
  have hfile : isFile (scheme.map Char.toLower) = false := by
    refine decide_eq_false fun heq => ?_
    rw [heq] at hnetwork
    exact absurd hnetwork (by decide)
  have hslashes : (['/', '/'] ++ (auth ++ rest')).dropWhile (fun c => c = '/' || c = '\\') =
      auth ++ rest' := by
    refine dropWhile_append_eq (List.all_iff_forall_prop.mp (by decide)) fun c hc => ?_
    rw [List.head?_append_of_ne_nil _ h.named] at hc
    have hnot := hinside c (List.mem_of_head? hc)
    simp only [endsAuthority, Bool.true_and, Bool.or_eq_false_iff] at hnot
    rw [hnot.1.1.1, hnot.2]
    rfl
  rw [origin?, originOf?, hclean, hsplit, cutScheme?_append h]
  dsimp only
  rw [if_neg hblob, if_pos hnetwork]
  unfold schemeAddress?
  rw [hfile, if_neg Bool.false_ne_true, if_pos hnetwork, hslashes, authority_append hinside,
    authority_eq_nil_iff.mpr hends, List.append_nil]

end Origin

/-! ## Addresses of frames -/

/-- How the address of a path at a source stands to the source, which is an origin with this scheme
and authority. -/
structure IsAddress (scheme auth : List Char) (source path url : String) : Prop where
  /-- The address is the origin without its slashes and then the path. -/
  written : url.toList = Origin.sitePrefix scheme auth ++ path.toList
  /-- A slash separates the two exactly if the path begins with it. -/
  separated : (∃ rest, url.toList = Origin.sitePrefix scheme auth ++ '/' :: rest) ↔
    path.toList.head? = some '/'
  /-- The address is at the site of the source exactly if the path does not go on with the
  authority. -/
  site : Origin.site? url.toList = Origin.site? source.toList ↔
    ∀ c, path.toList.head? = some c →
      Origin.endsAuthority (Origin.isSpecial (scheme.map Char.toLower)) c = true
  /-- On the network a path behind a slash leaves the origin as it is. -/
  origin : path.toList.head? = some '/' → Origin.isNetwork (scheme.map Char.toLower) = true →
    (∀ c ∈ auth, 0x20 < c.toNat) → Origin.origin? url = Origin.origin? source

/-- The address made of a path and a source that is an origin, with slashes at the end or without,
stands so to the source. -/
theorem isAddress_frameUrl {scheme auth : List Char} {source : String}
    (hsite : Origin.IsSite scheme auth) (hbare : Origin.IsBare scheme auth source) (path : String) :
    IsAddress scheme auth source path (frameUrl source path) := by
  have hurl : (frameUrl source path).toList = Origin.sitePrefix scheme auth ++ path.toList := by
    rw [frameUrl, String.toList_append, hbare.toList_dropSlashes hsite]
  refine ⟨hurl, ?_, ?_, fun hslash hnetwork hblank => ?_⟩
  · simp only [hurl, List.append_cancel_left_eq, List.head?_eq_some_iff]
  · rw [hurl, Origin.site?_append hsite, hbare.site?_eq hsite, ← Origin.authority_eq_nil_iff]
    simp
  · obtain ⟨slashes, htext, hslashes⟩ := hbare
    have hpath : ∀ c, path.toList.head? = some c → c = '/' := fun c hc =>
      Option.some.inj (hc.symm.trans hslash)
    rw [Origin.origin?_eq hsite hnetwork hblank hurl hpath,
      Origin.origin?_eq hsite hnetwork hblank htext fun c hc => hslashes c (List.mem_of_head? hc)]

namespace Config

/-- Every path but the manager's begins with a slash; the manager's does if its root does. -/
theorem head?_path (c : Config) (m : Mode) :
    (c.path m).toList.head? = some '/' ↔ (m = .manager → c.root.toList.head? = some '/') := by
  -- An empty root counts as none, and then the root is the default one.
  have hroot : c.root.toList ≠ [] := by
    intro hnil
    have hempty : c.root = "" := String.toList_eq_nil_iff.mp hnil
    unfold root at hempty
    cases htext : c.text? "rootPath" with
    | none =>
      rw [htext] at hempty
      exact absurd hempty (by decide)
    | some s =>
      rw [htext, Option.getD_some] at hempty
      exact c.text?_ne_empty "rootPath" (htext.trans (congrArg some hempty))
  cases m with
  | manager =>
    rw [toList_path, List.append_assoc, List.head?_append_of_ne_nil _ hroot, forall_prop_of_true rfl]
  | editor | viewer | fileSelector | publicRoom =>
    rw [toList_path_of_page rfl]
    exact iff_of_true rfl (fun h => nomatch h)
  | roomSelector =>
    have hslash : "/sdk/room-selector".toList.head? = some '/' := by decide
    exact iff_of_true hslash (fun h => nomatch h)
  | system =>
    have hslash : "/sdk/system".toList.head? = some '/' := by decide
    exact iff_of_true hslash (fun h => nomatch h)

end Config

namespace Host

variable {h : Host} {f : FrameRef} {old : Frame} {n : NodeId} {scheme auth : List Char}

/-- A mount loads its iframe from the source and the path that the cache then keeps, and posts
messages to the source. -/
theorem mount_loads (config : Config) (hf : h.frame? f = some old)
    (hn : (h.mount f config).2 = some n) :
    ∃ path frame, ((h.mount f config).1.cache old.cache).paths.get?
        (old.renewed config).config.pathKey = some path ∧
      ((h.cache old.cache).paths.get? (old.renewed config).config.pathKey = none →
        path = (old.renewed config).config.path (old.renewed config).config.mode) ∧
      (h.mount f config).1.frame? f = some frame ∧
      frame.bus.target = some ⟨n, (old.renewed config).source h.page⟩ ∧
      (h.mount f config).1.page.src? n =
        some (frameUrl ((old.renewed config).source h.page) path) := by
  rcases mount_cases hf config with ⟨-, hnone, -⟩ | ⟨place, nodes, -, hsome, hplaced⟩
  · -- A mount that fails returns no iframe.
    rw [hnone] at hn
    cases hn
  · rw [hsome] at hn
    cases hn
    -- The listener is removed before the source is read, which does not ask for it.
    have horigin : (old.renewed config).source (h.page.removeListener? old.listener) =
        (old.renewed config).source h.page := by
      cases old.listener <;> rfl
    obtain ⟨⟨check, hframes⟩, ⟨p, hbuild, hpage⟩, hcache⟩ := hplaced
    obtain ⟨-, -, -, hsrc⟩ := Page.build_spec hbuild
    have hown : (h.mount f config).1.cache old.cache =
        ((h.preparedCache (old.renewed config) place).templates (old.renewed config).config).2 :=
      (hcache old.cache).trans (if_pos rfl)
    -- A container forgets paths, and a path that is not kept stays so.
    have hprepared : (h.cache old.cache).paths.get? (old.renewed config).config.pathKey = none →
        (h.preparedCache (old.renewed config) place).paths.get?
          (old.renewed config).config.pathKey = none := by
      intro hnone
      cases place with
      | container m =>
        refine (Cache.get?_forgetPaths _ _).trans ?_
        rw [PathEvent.keep]
        exact (congrArg (ite _ none) hnone).trans (ite_self none)
      | element m => exact hnone
    rw [(Cache.templates_spec _).1, Cache.path_eq, horigin] at hsrc
    have hkept : ((h.mount f config).1.cache old.cache).paths.get?
        (old.renewed config).config.pathKey =
          some (((h.preparedCache (old.renewed config) place).paths.get?
            (old.renewed config).config.pathKey).getD
              ((old.renewed config).config.path (old.renewed config).config.mode)) := by
      rw [hown, (Cache.templates_spec _).2, Cache.get?_path, PathEvent.keep_ask_self]
    refine ⟨_, _, hkept, fun hnone => ?_, hframes.frame?, ?_, ?_⟩
    · rw [hprepared hnone, Option.getD_none]
    · rw [← horigin]
      rfl
    · rw [hpage, Page.src?_onLoad, Page.src?_replace, hsrc]

/-- For a source that is a bare origin, a mount loads the iframe from the address of the path that
its cache keeps, which is the path of the configuration if none was kept before, and posts messages
to the source. So the iframe is where messages are posted to if that path begins with a slash. The
paths of all modes do, but the manager's only if its root does. -/
theorem mount_address (config : Config) (hf : h.frame? f = some old)
    (hn : (h.mount f config).2 = some n) (hsite : Origin.IsSite scheme auth)
    (hbare : Origin.IsBare scheme auth ((old.renewed config).source h.page)) :
    (∃ path frame url, ((h.mount f config).1.cache old.cache).paths.get?
        (old.renewed config).config.pathKey = some path ∧
      ((h.cache old.cache).paths.get? (old.renewed config).config.pathKey = none →
        path = (old.renewed config).config.path (old.renewed config).config.mode) ∧
      (h.mount f config).1.frame? f = some frame ∧
      frame.bus.target = some ⟨n, (old.renewed config).source h.page⟩ ∧
      (h.mount f config).1.page.src? n = some url ∧
      IsAddress scheme auth ((old.renewed config).source h.page) path url) ∧
    ∀ (c : Config) (m : Mode),
      (c.path m).toList.head? = some '/' ↔ (m = .manager → c.root.toList.head? = some '/') := by
  obtain ⟨path, frame, hkept, hcold, hframe, htarget, hsrc⟩ := mount_loads config hf hn
  exact ⟨⟨path, frame, _, hkept, hcold, hframe, htarget, hsrc,
    isAddress_frameUrl hsite hbare path⟩, Config.head?_path⟩

/-- A host with an element that a frame waits for. -/
def awaiting : Host :=
  fresh.moves [.page (.add { kind := .element, domId := "f", attached := true }), .enroll "f"]

/-- A root behind a slash: the iframe is where messages are posted to. -/
theorem mount_address_rooted : ∃ url, (awaiting.mount 0 (rooted "/one/")).1.page.src? 2 = some url ∧
    Origin.site? url.toList = Origin.site? "https://app.example.com".toList := by
  have hfacts : (awaiting.frame? 0).map (fun old =>
      ((old.renewed (rooted "/one/")).source awaiting.page,
        (awaiting.cache old.cache).paths.get? (old.renewed (rooted "/one/")).config.pathKey,
        (old.renewed (rooted "/one/")).config.root.toList.head?)) =
      some ("https://app.example.com", none, some '/') := by
    decide
  obtain ⟨old, hold, hfacts⟩ := Option.map_eq_some_iff.mp hfacts
  obtain ⟨hsource, hfacts⟩ := Prod.mk.inj hfacts
  obtain ⟨hcold, hroot⟩ := Prod.mk.inj hfacts
  -- The parts of the address, each of the characters it may have.
  have hsite : Origin.IsSite "https".toList "app.example.com".toList :=
    ⟨⟨'h', "ttps".toList, by decide, by decide⟩, List.all_iff_forall_prop.mp (by decide),
      by decide, List.all_iff_forall_prop.mp (by decide)⟩
  have hbare : Origin.IsBare "https".toList "app.example.com".toList
      ((old.renewed (rooted "/one/")).source awaiting.page) := by
    rw [hsource]
    exact ⟨[], by decide, by simp⟩
  obtain ⟨⟨path, -, url, -, hpath, -, -, hsrc, haddress⟩, -⟩ :=
    mount_address (n := 2) (rooted "/one/") hold (by decide) hsite hbare
  rw [hsource, hpath hcold] at haddress
  -- The path begins as its root does.
  have hslash := (Config.head?_path _ (old.renewed (rooted "/one/")).config.mode).mpr fun _ => hroot
  refine ⟨url, hsrc, haddress.site.mpr fun c hc => ?_⟩
  obtain rfl := Option.some.inj (hslash.symm.trans hc)
  rfl

end Host

namespace Session

/-- The operations of a host that opens a frame on a given root. -/
def opening (root : String) : List Action :=
  [.page (.insert "f" "slot"), .frame (.openFrame "A" none (.ok (Host.rooted root)))]

/-- A root without a slash in front goes on with the authority. -/
theorem loaded_elsewhere :
    let t := (start "https://host.example.com" none Config.empty false []).after (opening "rooms/") 4
    t.agenda = [] ∧ ∃ frame target url, t.host.frame? 0 = some frame ∧
      frame.bus.target = some target ∧ t.host.page.src? target.iframe = some url ∧
      Origin.site? target.origin.toList = some ("https".toList, "app.example.com".toList) ∧
      Origin.site? url.toList = some ("https".toList, "app.example.comrooms".toList) := by
  intro t
  -- The run is evaluated once, and its parts are read off.
  have hloaded : (t.host.frame? 0).bind (fun frame => frame.bus.target.bind fun target =>
      (t.host.page.src? target.iframe).map fun url => (t.agenda.isEmpty,
        [Origin.site? target.origin.toList, Origin.site? url.toList])) = some (true,
          [some ("https".toList, "app.example.com".toList),
            some ("https".toList, "app.example.comrooms".toList)]) := by
    decide +kernel
  clear_value t
  obtain ⟨frame, hframe, hloaded⟩ := Option.bind_eq_some_iff.mp hloaded
  obtain ⟨target, htarget, hloaded⟩ := Option.bind_eq_some_iff.mp hloaded
  obtain ⟨url, hurl, hsites⟩ := Option.map_eq_some_iff.mp hloaded
  obtain ⟨hempty, hsites⟩ := Prod.mk.inj hsites
  obtain ⟨hposted, hsites⟩ := List.cons.inj hsites
  have hloaded := (List.cons.inj hsites).1
  exact ⟨List.isEmpty_iff.mp hempty, frame, target, url, hframe, htarget, hurl, hposted, hloaded⟩

end Session

end FrameHost
