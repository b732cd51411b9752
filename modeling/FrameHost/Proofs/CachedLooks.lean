import FrameHost.Proofs.SlotRuns
import FrameHost.Proofs.Unmounted

/-!
# Cached looks

Unlike a path, a look is determined by its key, and one that is kept stays as it is. So every look
that a cache keeps is that of its key (`Cache.Faithful`) as long as nothing else is put in, and only
a lookup of the host's own can put in anything else (`plants`): a mount asks for the looks of its
own key, and what happens to nodes happens to copies. On a faithful cache a mount makes the nodes
that it would make without one. What that says of a run is put together in `mounts_show_own_looks`.
-/

namespace FrameHost

/-! ## Tables that remember a function -/

namespace Table

variable {κ α : Type} {F : κ → α} {t t' t'' : Table κ α}

/-- Every value that the table holds is the one that `F` gives to its key. -/
def Memoizes (F : κ → α) (t : Table κ α) [DecidableEq κ] : Prop :=
  ∀ k a, t.get? k = some a → a = F k

/-- `t'` holds what `t` holds, and under other keys only values of `F`. -/
def Learns (F : κ → α) (t t' : Table κ α) [DecidableEq κ] : Prop :=
  ∀ k, t'.get? k = t.get? k ∨ t.get? k = none ∧ t'.get? k = some (F k)

variable [DecidableEq κ]

/-- The empty table keeps only what the function gives, having nothing. -/
theorem memoizes_empty (F : κ → α) : (empty : Table κ α).Memoizes F := fun k a ha => by
  rw [get?_empty] at ha
  cases ha

/-- A table learns nothing by staying as it is. -/
theorem Learns.refl (t : Table κ α) : t.Learns F t := fun _ => .inl rfl

/-- What is learnt in two steps is learnt in one. -/
theorem Learns.trans (h : t.Learns F t') (h' : t'.Learns F t'') : t.Learns F t'' := by
  intro k
  rcases h' k with hsame | ⟨hnone, hlearned⟩
  · rw [hsame]
    exact h k
  · rcases h k with hsame' | ⟨-, hsome⟩
    · exact .inr ⟨hsame'.symm.trans hnone, hlearned⟩
    · cases hnone.symm.trans hsome

/-- Nothing is forgotten either, so a wrong value is never made good. -/
theorem Learns.memoizes_iff (h : t.Learns F t') : t'.Memoizes F ↔ t.Memoizes F := by
  refine ⟨fun hmemo k a ha => ?_, fun hmemo k a ha => ?_⟩
  · rcases h k with hsame | ⟨hnone, -⟩
    · exact hmemo k a (hsame.trans ha)
    · cases hnone.symm.trans ha
  · rcases h k with hsame | ⟨-, hlearned⟩
    · exact hmemo k a (hsame.symm.trans ha)
    · exact Option.some.inj (ha.symm.trans hlearned)

/-- Remembering keeps what was there under the key, and puts the new value where nothing was. -/
theorem get?_remember (k k' : κ) (a : α) :
    (t.remember k a).2.get? k' = if k' = k then some ((t.get? k).getD a) else t.get? k' := by
  unfold remember
  cases hk : t.get? k with
  | none => exact get?_insert _ _ _ _
  | some b =>
    dsimp only
    split
    · next heq => rw [heq, hk, Option.getD_some]
    · rfl

/-- A value the function gives is learnt by remembering it. -/
theorem learns_remember {k : κ} {a : α} (h : t.get? k = none → a = F k) :
    t.Learns F (t.remember k a).2 := by
  intro k'
  rw [get?_remember]
  split
  · next heq =>
    subst heq
    cases hk : t.get? k' with
    | none => exact .inr ⟨rfl, congrArg some (h hk)⟩
    | some b => exact .inl rfl
  · exact .inl rfl

/-- A value is put in under a new key only. -/
theorem memoizes_remember_iff {k : κ} {a : α} :
    (t.remember k a).2.Memoizes F ↔ t.Memoizes F ∧ (t.get? k = none → a = F k) := by
  by_cases hright : t.get? k = none → a = F k
  · rw [(learns_remember hright).memoizes_iff]
    exact (and_iff_left hright).symm
  · refine iff_of_false (fun hmemo => hright fun hnone => hmemo k a ?_) fun h => hright h.2
    rw [get?_remember, if_pos rfl, hnone, Option.getD_none]

/-- A table that remembers the function gives its value, whether it was asked for before or not. -/
theorem Memoizes.remember_eq (h : t.Memoizes F) (k : κ) : (t.remember k (F k)).1 = F k := by
  unfold remember
  cases hk : t.get? k with
  | none => rfl
  | some a => exact h k a hk

end Table

/-! ## Caches -/

/-- The look of an iframe under a key. -/
def LookKey.iframe (k : LookKey) : Style := Look.iframe k.width k.height

/-- The look of a loader under a key. -/
def LookKey.loader (k : LookKey) : Look.Loader := Look.loader k.width k.height k.device

/-- The look of the iframe of a configuration: it is hidden behind the loader if there is one. -/
def Config.iframeLook (c : Config) : Style :=
  if c.showsLoader then (Look.iframe c.width c.height).merged Look.hidden
  else Look.iframe c.width c.height

/-- The look of the loader of a configuration, if it has one. -/
def Config.loaderLook? (c : Config) : Option Style :=
  if c.showsLoader then some (Look.loader c.width c.height c.device).style else none

namespace Cache

variable {c c' c'' : Cache}

/-- Every look that a cache keeps is that of its key. -/
structure Faithful (c : Cache) : Prop where
  iframes : c.iframes.Memoizes LookKey.iframe
  loaders : c.loaders.Memoizes LookKey.loader

/-- The looks kept stay, and those that are added are those of their keys. -/
structure Learns (c c' : Cache) : Prop where
  iframes : c.iframes.Learns LookKey.iframe c'.iframes
  loaders : c.loaders.Learns LookKey.loader c'.loaders

/-- A cache without looks, whatever paths it keeps. -/
theorem faithful_of_paths (paths : Table PathKey String) : ({ paths } : Cache).Faithful :=
  ⟨Table.memoizes_empty _, Table.memoizes_empty _⟩

/-- A cache learns nothing by staying as it is. -/
theorem Learns.refl (c : Cache) : c.Learns c := ⟨.refl _, .refl _⟩

/-- What a cache learns in two steps it learns in one. -/
theorem Learns.trans (h : c.Learns c') (h' : c'.Learns c'') : c.Learns c'' :=
  ⟨h.iframes.trans h'.iframes, h.loaders.trans h'.loaders⟩

/-- A cache that only learns is as faithful as it was. -/
theorem Learns.faithful_iff (h : c.Learns c') : c'.Faithful ↔ c.Faithful :=
  ⟨fun hc => ⟨h.iframes.memoizes_iff.mp hc.iframes, h.loaders.memoizes_iff.mp hc.loaders⟩,
    fun hc => ⟨h.iframes.memoizes_iff.mpr hc.iframes, h.loaders.memoizes_iff.mpr hc.loaders⟩⟩

/-- The looks are kept apart from the paths. -/
theorem learns_path (k : PathKey) (built : String) : c.Learns (c.path k built).2 := ⟨.refl _, .refl _⟩

/-- Forgetting a frame's paths takes nothing away from the looks. -/
theorem learns_forgetPaths (frameId : String) : c.Learns (c.forgetPaths frameId) :=
  ⟨.refl _, .refl _⟩

/-- Keeping the iframe look that its key gives is learning it. -/
theorem learns_iframe {k : LookKey} {look : Style} (h : c.iframes.get? k = none → look = k.iframe) :
    c.Learns (c.iframe k look).2 := ⟨Table.learns_remember h, .refl _⟩

/-- Keeping the loader look that its key gives is learning it. -/
theorem learns_loader {k : LookKey} {look : Look.Loader}
    (h : c.loaders.get? k = none → look = k.loader) : c.Learns (c.loader k look).2 :=
  ⟨.refl _, Table.learns_remember h⟩

/-- A mount asks for the looks of its own key. -/
theorem learns_templates (config : Config) : c.Learns (c.templates config).2 := by
  have hpath := c.learns_path config.pathKey (config.path config.mode)
  unfold templates
  dsimp only
  generalize (c.path config.pathKey (config.path config.mode)).2 = c₁ at hpath ⊢
  have hiframe : c₁.Learns (c₁.iframe config.lookKey (Look.iframe config.width config.height)).2 :=
    learns_iframe fun _ => rfl
  split
  · exact (hpath.trans hiframe).trans (learns_loader fun _ => rfl)
  · exact hpath.trans hiframe

/-- What a mount takes from a faithful cache. -/
theorem Faithful.templates_eq (h : c.Faithful) (config : Config) :
    (c.templates config).1 = ⟨(c.path config.pathKey (config.path config.mode)).1,
      config.iframeLook, config.loaderLook?⟩ := by
  have hiframe : (c.iframes.remember config.lookKey (Look.iframe config.width config.height)).1 =
      Look.iframe config.width config.height := h.iframes.remember_eq config.lookKey
  have hloader : (c.loaders.remember config.lookKey
      (Look.loader config.width config.height config.device)).1 =
        Look.loader config.width config.height config.device := h.loaders.remember_eq config.lookKey
  unfold templates Config.iframeLook Config.loaderLook? iframe loader path
  dsimp only
  rw [hiframe, hloader]
  split <;> rfl

/-- The cache after an operation of the host on it. -/
def act (c : Cache) : CacheAction → Cache
  | .path (.ok config) built => (c.path config.pathKey built).2
  | .iframe (.ok config) look => (c.iframe config.lookKey look).2
  | .loader (.ok config) look => (c.loader config.lookKey look).2
  | .forget frameId => c.forgetPaths frameId
  | _ => c

/-- Whether an operation of the host on a cache makes it keep a look that is not that of its key. -/
def plants (c : Cache) : CacheAction → Bool
  | .iframe (.ok config) look =>
    decide (c.iframes.get? config.lookKey = none) && decide (look ≠ config.lookKey.iframe)
  | .loader (.ok config) look =>
    decide (c.loaders.get? config.lookKey = none) && decide (look ≠ config.lookKey.loader)
  | _ => false

/-- Looking up an iframe look keeps a cache faithful, unless the host plants another look under the
key. -/
theorem faithful_iframe_iff {config : Config} {look : Style} :
    (c.iframe config.lookKey look).2.Faithful ↔
      c.Faithful ∧ c.plants (.iframe (.ok config) look) = false := by
  have hplants : c.plants (.iframe (.ok config) look) = false ↔
      (c.iframes.get? config.lookKey = none → look = config.lookKey.iframe) := by
    simp [plants]
  rw [hplants]
  constructor
  · intro h
    obtain ⟨hi, hright⟩ := Table.memoizes_remember_iff.mp h.iframes
    exact ⟨⟨hi, h.loaders⟩, hright⟩
  · rintro ⟨h, hright⟩
    exact (learns_iframe hright).faithful_iff.mpr h

/-- Looking up a loader look keeps a cache faithful, unless the host plants another look under the
key. -/
theorem faithful_loader_iff {config : Config} {look : Look.Loader} :
    (c.loader config.lookKey look).2.Faithful ↔
      c.Faithful ∧ c.plants (.loader (.ok config) look) = false := by
  have hplants : c.plants (.loader (.ok config) look) = false ↔
      (c.loaders.get? config.lookKey = none → look = config.lookKey.loader) := by
    simp [plants]
  rw [hplants]
  constructor
  · intro h
    obtain ⟨hl, hright⟩ := Table.memoizes_remember_iff.mp h.loaders
    exact ⟨⟨h.iframes, hl⟩, hright⟩
  · rintro ⟨h, hright⟩
    exact (learns_loader hright).faithful_iff.mpr h

/-- An operation of the host leaves a cache faithful exactly if it puts no other look in. -/
theorem faithful_act_iff (a : CacheAction) :
    (c.act a).Faithful ↔ c.Faithful ∧ c.plants a = false := by
  -- What only learns plants nothing, so that leaves the two look-ups of looks.
  have hlearns : ∀ {c'}, c.Learns c' → (c'.Faithful ↔ c.Faithful ∧ false = false) := fun h =>
    h.faithful_iff.trans (and_iff_left rfl).symm
  cases a with
  | path config built =>
    cases config with
    | error e => exact hlearns (.refl _)
    | ok config => exact hlearns (learns_path _ _)
  | iframe config look =>
    cases config with
    | error e => exact hlearns (.refl _)
    | ok config => exact faithful_iframe_iff
  | loader config look =>
    cases config with
    | error e => exact hlearns (.refl _)
    | ok config => exact faithful_loader_iff
  | forget frameId => exact hlearns (learns_forgetPaths _)
  | has | count => exact hlearns (.refl _)

/-- The cache without its looks. -/
def withoutLooks (c : Cache) : Cache := { paths := c.paths }

/-- A cache without looks is faithful. -/
theorem faithful_withoutLooks : c.withoutLooks.Faithful := faithful_of_paths c.paths

end Cache

/-! ## Nodes of a mount -/

namespace Page

variable {p p' : Page} {c : Config} {url : String} {look : Style} {loader : Option Style}
  {nodes : Mounted}

/-- What kind a node is of, its DOM id and its style. -/
def look? (p : Page) (n : NodeId) : Option (NodeKind × String × Style) :=
  (p.node? n).map fun node => (node.kind, node.domId, node.style)

/-- The iframe and the loader have the looks of the configuration, and there is a loader exactly if
the configuration shows one. -/
structure Displays (p : Page) (c : Config) (nodes : Mounted) : Prop where
  iframe : p.look? nodes.iframe = some (.iframe, c.frameId, c.iframeLook)
  loader : nodes.loader.map p.look? =
    c.loaderLook?.map fun look => some (.loader, loaderId c.frameId, look)

/-- A new loader shows the style it is made with, and every other node what it showed. -/
theorem look?_createLoader (domId : String) (style : Style) (n : NodeId) :
    (p.createLoader domId style).1.look? n =
      if n = p.lastId + 1 then some (.loader, domId, style) else p.look? n :=
  map_node?_add _ n

/-- A new container shows the style it is made with, and every other node what it showed. -/
theorem look?_createContainer (domId : String) (style : Style) (children : List NodeId) (n : NodeId) :
    (p.createContainer domId style children).1.look? n =
      if n = p.lastId + 1 then some (.container, domId, style) else p.look? n :=
  map_node?_createContainer domId style children n fun _ _ => rfl

/-- The loader that a mount makes has the look that it is given. -/
theorem look?_loader_build (h : p.build c url look loader = (p', nodes)) :
    nodes.loader.map p'.look? = loader.map fun look => some (.loader, loaderId c.frameId, look) := by
  unfold build at h
  cases loader with
  | none =>
    obtain ⟨-, rfl⟩ := Prod.mk.inj h
    rfl
  | some own =>
    obtain ⟨rfl, rfl⟩ := Prod.mk.inj h
    -- The container, which comes last, is another node.
    have hne : p.lastId + 2 ≠ p.lastId + 3 := by omega
    refine congrArg some ((look?_createContainer _ _ _ _).trans ((if_neg hne).trans ?_))
    exact (look?_createLoader _ _ _).trans (if_pos rfl)

/-- The nodes built for a configuration show that configuration's own looks. -/
theorem displays_build (h : p.build c url c.iframeLook c.loaderLook? = (p', nodes)) :
    p'.Displays c nodes := by
  obtain ⟨hiframe, -, -⟩ := (builds_build h).fields
    (fun node => (node.kind, node.domId, node.style)) fun _ _ => rfl
  exact ⟨hiframe, look?_loader_build h⟩

/-- Whether nodes show a configuration's looks depends on the looks of the nodes only. -/
theorem Displays.congr (h : p.Displays c nodes) (hlook : ∀ n, p'.look? n = p.look? n) :
    p'.Displays c nodes := by
  have hsame : p'.look? = p.look? := funext hlook
  exact ⟨(hlook _).trans h.iframe, hsame ▸ h.loader⟩

end Page

namespace Host

variable {h h' : Host} {f : FrameRef} {old frame : Frame} {m : Move} {r : CacheRef} {nodes : Mounted}
  {config : Config}

/-! ## Moves -/

/-- Preparing a mount only teaches the cache. -/
theorem learns_preparedCache (place : Place) :
    (h.cache frame.cache).Learns (h.preparedCache frame place) := by
  cases place with
  | container n => exact Cache.learns_forgetPaths _
  | element n => exact .refl _

/-- A mount keeps the looks that are kept, and adds none but those of its key. -/
theorem learns_mount : (h.cache r).Learns ((h.mount f config).1.cache r) := by
  cases hf : h.frame? f with
  | none =>
    rw [mount_of_none hf]
    exact .refl _
  | some old =>
    rcases mount_cases hf config with ⟨-, -, -, -, hcaches⟩ | ⟨place, nodes, -, -, hplaced⟩
    · rw [cache_congr hcaches]
      exact .refl _
    · rw [hplaced.cache]
      split
      · next hr =>
        rw [hr]
        exact (learns_preparedCache place).trans (Cache.learns_templates _)
      · exact .refl _

/-- Destroying a frame only makes the cache forget paths. -/
theorem learns_destroy : (h.cache r).Learns ((h.destroy f).cache r) := by
  cases hf : h.frame? f with
  | none =>
    rw [destroy_of_none hf]
    exact .refl _
  | some frame =>
    rcases destroy_cases hf with ⟨-, hsame⟩ | ⟨-, -, -, hcache⟩
    · rw [hsame]
      exact .refl _
    · rw [hcache]
      split
      · exact Cache.learns_forgetPaths _
      · exact .refl _

/-- So does every move that is no operation of the host's on a cache. -/
theorem learns_move (hm : ∀ r e, m ≠ .cache r e) : (h.cache r).Learns ((h.move m).cache r) := by
  have hother : (h.move m).caches = h.caches → (h.cache r).Learns ((h.move m).cache r) :=
    fun hcaches => by
      rw [cache_congr hcaches]
      exact .refl _
  cases m with
  | mount f config => exact learns_mount
  | destroy f => exact learns_destroy
  | cache r' e => exact absurd rfl (hm r' e)
  | _ => exact hother (caches_move (by simp) (by simp) (by simp))

/-! ## Mounts -/

/-- The host with the looks of all caches forgotten. -/
def withoutLooks (h : Host) : Host := { h with caches := h.caches.map fun _ c => c.withoutLooks }

/-- A host without looks has the caches without theirs. -/
theorem cache_withoutLooks (r : CacheRef) : h.withoutLooks.cache r = (h.cache r).withoutLooks := by
  unfold cache withoutLooks
  dsimp only
  rw [Table.get?_map]
  cases h.caches.get? r <;> rfl

/-- Preparing a mount leaves the same cache behind, looks set aside, whether or not looks were kept.
-/
theorem preparedCache_withoutLooks (frame : Frame) (place : Place) :
    h.withoutLooks.preparedCache frame place = (h.preparedCache frame place).withoutLooks := by
  cases place with
  | container n => exact congrArg (Cache.forgetPaths · _) (cache_withoutLooks _)
  | element n => exact cache_withoutLooks _

/-- A faithful cache is faithful after preparing a mount. -/
theorem faithful_preparedCache (hc : (h.cache frame.cache).Faithful) (place : Place) :
    (h.preparedCache frame place).Faithful := (learns_preparedCache place).faithful_iff.mpr hc

/-- A mount finds the same path in a cache without looks, so it finds the same templates there if the
looks are those of their keys. -/
theorem templates_withoutLooks (hc : (h.cache frame.cache).Faithful) (place : Place) :
    ((h.withoutLooks.preparedCache frame place).templates config).1 =
      ((h.preparedCache frame place).templates config).1 := by
  rw [preparedCache_withoutLooks, (faithful_preparedCache hc place).templates_eq,
    Cache.faithful_withoutLooks.templates_eq, Cache.path_eq, Cache.path_eq]
  rfl

/-- On a faithful cache a mount does to the page what it does without the looks that are kept. -/
theorem mount_withoutLooks (hf : h.frame? f = some old) (hc : (h.cache old.cache).Faithful)
    (config : Config) :
    (h.withoutLooks.mount f config).1.page = (h.mount f config).1.page ∧
      (h.withoutLooks.mount f config).2 = (h.mount f config).2 := by
  have hf' : h.withoutLooks.frame? f = some old := hf
  have hc' : (h.cache (old.renewed config).cache).Faithful := hc
  rcases mount_cases hf config with ⟨hplace, hnone, -, hpage, -⟩ |
    ⟨place, nodes, hplace, hsome, hplaced⟩
  · rcases mount_cases hf' config with ⟨-, hnone', -, hpage', -⟩ | ⟨place, nodes, hplace', -, -⟩
    · exact ⟨hpage'.trans hpage.symm, hnone'.trans hnone.symm⟩
    · cases hplace.symm.trans hplace'
  · rcases mount_cases hf' config with ⟨hplace', -, -, -, -⟩ |
      ⟨place', nodes', hplace', hsome', hplaced'⟩
    · -- Both mounts fail, or both find the same place, for the page is the same.
      cases hplace'.symm.trans hplace
    · cases hplace'.symm.trans hplace
      obtain ⟨-, ⟨p, hbuild, hpage⟩, -⟩ := hplaced
      obtain ⟨-, ⟨p', hbuild', hpage'⟩, -⟩ := hplaced'
      -- A faithful cache gives the looks that are made anew without it.
      rw [templates_withoutLooks hc' place] at hbuild'
      cases hbuild.symm.trans hbuild'
      exact ⟨hpage'.trans hpage.symm, hsome'.trans hsome.symm⟩

/-- The nodes of a mounted frame are new and have the looks of its configuration, if it was mounted
on a faithful cache. -/
theorem displays_mount {n : NodeId} (hf : h.frame? f = some old) (hc : (h.cache old.cache).Faithful)
    (hn : (h.mount f config).2 = some n) :
    ∃ frame nodes, (h.mount f config).1.frame? f = some frame ∧ frame.nodes = some nodes ∧
      frame.config = (Config.defaults.merged old.config).merged config ∧ nodes.iframe = n ∧
      (h.mount f config).1.page.Displays frame.config nodes ∧ h.page.lastId < n := by
  have hc' : (h.cache (old.renewed config).cache).Faithful := hc
  rcases mount_cases hf config with ⟨-, hnone, -⟩ | ⟨place, nodes, -, hsome, hplaced⟩
  · cases hnone.symm.trans hn
  · cases hsome.symm.trans hn
    have hnew := hplaced.founds.new
    obtain ⟨⟨check, hs⟩, ⟨p, hbuild, hpage⟩, -⟩ := hplaced
    refine ⟨_, nodes, hs.frame?, rfl, rfl, rfl, ?_, hnew⟩
    rw [(faithful_preparedCache hc' place).templates_eq] at hbuild
    refine (Page.displays_build hbuild).congr fun n => ?_
    rw [hpage]
    -- Being put in its place does not change how a node looks.
    exact Page.map_node?_replace _ _ n fun _ _ => rfl

/-- A mount that leaves the frame with nodes shows them with the looks of its configuration.
Whatever was done to the host before the mount, the looks that were kept are still those of their
keys. -/
theorem displays_mount_after {h₀ : Host} (hf : (h.mount f config).1.frame? f = some frame)
    (hnodes : frame.nodes = some nodes) (hc : (h₀.cache frame.cache).Faithful)
    (hlearns : ∀ r, (h₀.cache r).Learns (h.cache r)) (hpage : h.page = h₀.page) :
    (h.mount f config).1.page.Displays frame.config nodes ∧ h₀.page.lastId < nodes.iframe := by
  -- A mount that leaves nodes behind has found its place.
  have hsuccess : ∃ old, h.frame? f = some old ∧ frame.cache = old.cache ∧
      (h.mount f config).2 = some nodes.iframe := by
    cases hold : h.frame? f with
    | none =>
      rw [mount_of_none hold] at hf
      cases hold.symm.trans hf
    | some old =>
      refine ⟨old, rfl, ?_⟩
      rcases mount_cases hold config with ⟨-, -, hs, -⟩ | ⟨place, own, -, hsome, hplaced⟩
      · cases hs.frame?.symm.trans hf
        cases hnodes
      · obtain ⟨check, hs⟩ := hplaced.frames
        cases hs.frame?.symm.trans hf
        cases hnodes
        exact ⟨rfl, hsome⟩
  obtain ⟨old, hold, hcache, hn⟩ := hsuccess
  rw [hcache] at hc
  obtain ⟨frame', nodes', hf', hnodes', -, -, hdisplays, hnew⟩ :=
    displays_mount hold ((hlearns old.cache).faithful_iff.mpr hc) hn
  cases hf'.symm.trans hf
  cases hnodes'.symm.trans hnodes
  exact ⟨hdisplays, hpage ▸ hnew⟩

/-! ## Operations -/

/-- Without a mount of the frame, its nodes are those of a generation that has begun before. -/
theorem generationOf_eq_of_reaches (hr : Reaches (fun m => ∀ config, m ≠ .mount f config) h h')
    (hf : h'.frame? f = some frame) (hnodes : frame.nodes = some nodes) :
    h.generationOf f = frame.generation := by
  -- Read backwards: as there are nodes in the end, they were there all the time.
  have hkept : ∀ nodes, h'.nodesOf? f = some nodes → h'.generationOf f = h.generationOf f := by
    refine hr.preserves (P := fun h' => ∀ nodes, h'.nodesOf? f = some nodes →
      h'.generationOf f = h.generationOf f) (fun h₁ m hm ih nodes' hn' => ?_) fun _ _ => rfl
    rcases nodesOf?_move hn' with ⟨nodes₁, hn₁, -⟩ | ⟨⟨config, hmount⟩, -⟩
    · rw [← ih nodes₁ hn₁]
      obtain ⟨frame₁, hf₁, -⟩ := nodesOf?_eq_some.mp hn₁
      obtain ⟨frame', hf', ht⟩ := (turns_move m).turn f frame₁ hf₁
      rw [generationOf_of_frame? hf₁, generationOf_of_frame? hf']
      rw [nodesOf?_of_frame? hf'] at hn'
      cases ht with
      | goesOn hgoes => exact hgoes.generation
      | patched | retired => rfl
      | unplaced config | placed config => exact absurd rfl (hm config)
      | destroyed => cases hn'
    · exact absurd hmount (hm config)
  rw [← hkept nodes ((nodesOf?_of_frame? hf).trans hnodes), generationOf_of_frame? hf]

/-- An operation on a frame by which a generation with nodes begins is a mount, of a frame that may
have to be made first. -/
theorem displays_operate {op : Frame.Op} (hopen : ∀ config, op = .openFrame config →
      f = (h.openFrame config).2) (hf : (h.operate f op).frame? f = some frame)
    (hnodes : frame.nodes = some nodes) (hbegins : h.generationOf f < frame.generation)
    (hc : (h.cache frame.cache).Faithful) :
    (h.operate f op).page.Displays frame.config nodes ∧ h.page.lastId < nodes.iframe := by
  -- A generation begins only in a mount of the frame.
  have hother : ¬ Reaches (fun m => ∀ config, m ≠ .mount f config) h (h.operate f op) := fun hr =>
    absurd (generationOf_eq_of_reaches hr hf hnodes) (Nat.ne_of_lt hbegins)
  rcases operate_cases h f op with ⟨config, rfl⟩ | ⟨config, hmount⟩ | hdestroy |
    ⟨generation, l, rfl⟩ | hminor
  · -- Opening registers the frame first, and that leaves the page and the looks.
    have hopened : h.operate f (.openFrame config) =
        ((h.registered (h.defaults.merged config).frameId).1.mount f
          (h.defaults.merged config)).1 := by
      rw [hopen config rfl]
      rfl
    have hpage : (h.registered (h.defaults.merged config).frameId).1.page = h.page := by
      unfold registered
      split <;> rfl
    rw [hopened] at hf ⊢
    exact displays_mount_after hf hnodes hc (fun r => learns_move
      (m := .enroll (h.defaults.merged config).frameId) fun _ _ => Move.noConfusion) hpage
  · rw [hmount] at hf ⊢
    exact displays_mount_after hf hnodes hc (fun _ => .refl _) rfl
  · rw [hdestroy] at hother
    exact absurd (Reaches.single (m := .destroy f) fun _ => Move.noConfusion) hother
  · exact absurd (Reaches.single (m := .retire f generation l) fun _ => Move.noConfusion) hother
  · exact absurd (hminor.mono fun _ hm => hm.ne_mount f) hother

end Host

namespace Session

open Host (Reaches)

variable {s : Session} {r : CacheRef} {f : FrameRef} {nodes : Mounted}

/-! ## Steps -/

/-- Whether the host makes a cache keep a look that is not that of its key, with the next job. -/
def plants (s : Session) (r : CacheRef) : Bool :=
  match s.agenda with
  | .act _ (.cache name a) :: _ => decide (s.cacheRef? name = some r) && (s.host.cache r).plants a
  | _ => false

/-- An operation of the host on a cache changes the one that it names. -/
theorem cache_actCache (name : CacheName) (a : CacheAction) (r : CacheRef) :
    (s.actCache name a).host.cache r =
      if s.cacheRef? name = some r then (s.host.cache r).act a else s.host.cache r := by
  unfold actCache onCache
  cases hname : s.cacheRef? name with
  | none => rfl
  | some r' =>
    -- The cache that the name stands for acts, and the others stay.
    have hset : (s.host.setCache r' ((s.host.cache r').act a)).cache r =
        if some r' = some r then (s.host.cache r).act a else s.host.cache r := by
      rw [Host.cache_setCache]
      by_cases hr : r = r'
      · rw [if_pos hr, if_pos (congrArg some hr.symm), hr]
      · rw [if_neg hr, if_neg fun h => hr (Option.some.inj h).symm]
    have hsame : s.host.cache r = if some r' = some r then s.host.cache r else s.host.cache r :=
      (ite_self _).symm
    cases a with
    | path config | iframe config | loader config =>
      cases config with
      | error e => exact hsame
      | ok config => exact hset
    | forget frameId => exact hset
    | has config => cases config <;> exact hsame
    | count => exact hsame

/-- A step leaves a cache faithful unless the host puts another look in. -/
theorem faithful_step : (s.step.host.cache r).Faithful ↔
    (s.host.cache r).Faithful ∧ s.plants r = false := by
  cases hagenda : s.agenda with
  | nil =>
    have hplants : s.plants r = false := by
      unfold plants
      rw [hagenda]
    rw [step_nil hagenda]
    exact (and_iff_left hplants).symm
  | cons job jobs =>
    by_cases hcache : ∃ nested name a, job = .act nested (.cache name a)
    · obtain ⟨nested, name, a, rfl⟩ := hcache
      have hplants : s.plants r =
          (decide (s.cacheRef? name = some r) && (s.host.cache r).plants a) := by
        unfold plants
        rw [hagenda]
      have hstep : s.step.host.cache r =
          if s.cacheRef? name = some r then (s.host.cache r).act a else s.host.cache r := by
        rw [step_cons hagenda]
        exact cache_actCache (s := { s with agenda := jobs }) name a r
      rw [hstep, hplants]
      split
      · next hname => simpa [hname] using Cache.faithful_act_iff a
      · next hname => simp [hname]
    · have hplants : s.plants r = false := by
        unfold plants
        rw [hagenda]
        split
        · next nested name a _ heq => exact absurd ⟨nested, name, a, (List.cons.inj heq).1⟩ hcache
        · rfl
      -- The moves of any other job teach the caches at most.
      have hlearns : (s.host.cache r).Learns (s.step.host.cache r) := by
        refine (step_reaches hagenda).preserves
          (P := fun h => (s.host.cache r).Learns (h.cache r)) (fun h m hm hh => ?_) (.refl _)
        refine hh.trans (Host.learns_move fun r' e => ?_)
        rintro rfl
        exact hcache hm
      rw [hlearns.faithful_iff]
      exact (and_iff_left hplants).symm

/-- A step in which a generation of a frame with nodes begins is an operation on this frame. -/
theorem displays_step {frame : Frame} (hf : s.step.host.frame? f = some frame)
    (hnodes : frame.nodes = some nodes) (hbegins : s.host.generationOf f < frame.generation)
    (hc : (s.host.cache frame.cache).Faithful) :
    s.step.host.page.Displays frame.config nodes ∧ s.host.page.lastId < nodes.iframe := by
  -- A generation begins only where the step operates the frame itself.
  have hother : ¬ Reaches (fun m => ∀ config, m ≠ .mount f config) s.host s.step.host := fun hr =>
    absurd (Host.generationOf_eq_of_reaches hr hf hnodes) (Nat.ne_of_lt hbegins)
  cases hop : s.op? with
  | none =>
    cases hagenda : s.agenda with
    | nil =>
      rw [step_nil hagenda] at hother
      exact absurd (Reaches.refl _) hother
    | cons job jobs =>
      refine absurd ((step_idle hagenda hop).mono fun m hm config => ?_) hother
      rintro rfl
      cases hm.1
  | some found =>
    obtain ⟨g, op⟩ := found
    have hopen := eq_openFrame_of_op? hop
    rw [step_operate hop] at hf hother ⊢
    by_cases hne : g = f
    · subst hne
      exact Host.displays_operate hopen hf hnodes hbegins hc
    · exact absurd (Host.reaches_operate hopen hne) hother

/-! ## Runs -/

/-- A cache of a run is faithful exactly if the host has put no other look into it. -/
theorem faithful_after_iff (hstart : (s.host.cache r).Faithful) (as : List Action) (i : ℕ) :
    ((s.after as i).host.cache r).Faithful ↔ ∀ j < i, (s.after as j).plants r = false := by
  induction i with
  | zero => exact iff_of_true hstart nofun
  | succ i ih =>
    have hsplit : (∀ j < i + 1, (s.after as j).plants r = false) ↔
        (∀ j < i, (s.after as j).plants r = false) ∧ (s.after as i).plants r = false :=
      Nat.forall_lt_succ_right
    rw [hsplit, ← ih]
    -- An idle state plants nothing.
    have hidle : (s.after as i).agenda = [] → (s.after as i).plants r = false := fun hagenda => by
      unfold plants
      rw [hagenda]
    rcases after_succ s as i with ⟨-, h⟩ | ⟨a, -, hagenda, h⟩ | ⟨hagenda, h⟩
    · rw [h]
      exact faithful_step
    · rw [h, begin_host]
      exact (and_iff_left (hidle hagenda)).symm
    · rw [h]
      exact (and_iff_left (hidle hagenda)).symm

/-- A cache of a run keeps the looks of its keys and no others until the host puts in another one by
a lookup of its own; frames never do. Until then the looks that are kept make no difference to a
mount: the iframe that it makes, and the loader that it makes exactly if the configuration shows
one, have the looks of the merged configuration, whatever happened to other nodes before. A
generation of a frame with nodes begins by a mount only, so this holds of every step of the run in
which one begins. -/
theorem mounts_show_own_looks (origin : String) (allowList : Option AllowList) (defaults : Config)
    (runtime : Bool) (scripts : List (List Action)) (as : List Action) :
    let run := (start origin allowList defaults runtime scripts).after as
    (∀ i r, ((run i).host.cache r).Faithful ↔ ∀ j < i, (run j).plants r = false) ∧
    (∀ i f old config, (run i).host.frame? f = some old →
      (∀ j < i, (run j).plants old.cache = false) →
      let h := (run i).host
      (h.withoutLooks.mount f config).1.page = (h.mount f config).1.page ∧
      (h.withoutLooks.mount f config).2 = (h.mount f config).2 ∧
      ∀ n, (h.mount f config).2 = some n →
        ∃ frame nodes, (h.mount f config).1.frame? f = some frame ∧ frame.nodes = some nodes ∧
          frame.config = (Config.defaults.merged old.config).merged config ∧ nodes.iframe = n ∧
          (h.mount f config).1.page.Displays frame.config nodes ∧ h.page.lastId < n) ∧
    ∀ i f frame nodes, (run i).step.host.frame? f = some frame → frame.nodes = some nodes →
      (run i).host.generationOf f < frame.generation →
      (∀ j < i, (run j).plants frame.cache = false) →
      (run i).step.host.page.Displays frame.config nodes ∧
        (run i).host.page.lastId < nodes.iframe := by
  intro run
  have hfaithful : ∀ i r, ((run i).host.cache r).Faithful ↔ ∀ j < i, (run j).plants r = false :=
    fun i r => faithful_after_iff (Cache.faithful_of_paths _) as i
  refine ⟨hfaithful, fun i f old config hf hplants => ?_,
    fun i f frame nodes hf hnodes hbegins hplants => ?_⟩
  · have hc := (hfaithful i old.cache).mpr hplants
    obtain ⟨hpage, hiframe⟩ := Host.mount_withoutLooks hf hc config
    exact ⟨hpage, hiframe, fun n hn => Host.displays_mount hf hc hn⟩
  · exact displays_step hf hnodes hbegins ((hfaithful i frame.cache).mpr hplants)

/-- A configuration of a frame of a given size, with a loader. -/
def sized (frameId : String) : Config :=
  Config.ofFields
    [("frameId", .string frameId), ("src", .string "https://app.example.com"),
      ("checkCSP", .bool false), ("width", .string "640px"), ("height", .string "480px")]

/-- A frame is mounted, its iframe gets another width, and it is torn down; then another frame of the
same size is mounted. -/
def sharing : List Action :=
  [.page (.insert "f" "slot"), .frame (.openFrame "A" none (.ok (sized "f"))),
    .page (.setStyle (.iframeOf "A") (Style.ofList [("width", "1px")])), .frame (.destroy "A"),
    .page (.insert "g" "slot"), .frame (.openFrame "B" none (.ok (sized "g")))]

/-- The second frame gets the looks that are kept since the first mount, and not the width that the
iframe of the first one has; nor would a further mount of the first one get it. -/
theorem mounts_show_own_looks_shared :
    let run := (start "https://host.example.com" none Config.empty false []).after sharing
    (∀ j < 11, (run j).plants .shared = false) ∧
      ((run 11).host.cache .shared).iframes.size = 1 ∧
      ((run 11).host.page.node? 2).bind (fun node => node.style.get? "width") = some "1px" ∧
      (∃ frame nodes, (run 11).step.host.frame? 1 = some frame ∧ frame.nodes = some nodes ∧
        frame.cache = .shared ∧ frame.config.width = "640px" ∧
        (run 11).step.host.page.Displays frame.config nodes) ∧
      ((run 11).host.mount 0 Config.empty).2 = some 7 ∧
      ((run 11).host.withoutLooks.mount 0 Config.empty).1.page =
        ((run 11).host.mount 0 Config.empty).1.page := by
  intro run
  have hplants : ∀ j < 11, (run j).plants .shared = false := by decide +kernel
  have hkept : ((run 11).host.cache .shared).iframes.size = 1 := by decide +kernel
  have hrestyled : ((run 11).host.page.node? 2).bind (fun node => node.style.get? "width") =
      some "1px" := by decide +kernel
  have hold : ((run 11).host.frame? 0).map Frame.cache = some .shared := by decide +kernel
  have hbefore : (run 11).host.generationOf 1 = 0 := by decide +kernel
  have hafter : ((run 11).step.host.frame? 1).map (fun frame =>
      (frame.nodes.isSome, frame.generation, frame.cache, frame.config.width)) =
        some (true, 1, .shared, "640px") := by decide +kernel
  have hagain : ((run 11).host.mount 0 Config.empty).2 = some 7 := by decide +kernel
  -- With the run written out nothing has to be evaluated again.
  have hrun : run = (start "https://host.example.com" none Config.empty false []).after sharing := rfl
  clear_value run
  subst hrun
  obtain ⟨old, hold, hcache⟩ := Option.map_eq_some_iff.mp hold
  obtain ⟨frame, hframe, hfields⟩ := Option.map_eq_some_iff.mp hafter
  simp only [Prod.mk.injEq] at hfields
  obtain ⟨hnodes, hgeneration, hshared, hwidth⟩ := hfields
  obtain ⟨nodes, hnodes⟩ := Option.isSome_iff_exists.mp hnodes
  obtain ⟨-, hmount, hstep⟩ := mounts_show_own_looks "https://host.example.com" none Config.empty
    false [] sharing
  obtain ⟨hpage, -, -⟩ := hmount 11 0 old Config.empty hold (hcache ▸ hplants)
  have hbegins : ((start "https://host.example.com" none Config.empty false []).after sharing
      11).host.generationOf 1 < frame.generation := by
    rw [hbefore, hgeneration]
    decide
  obtain ⟨hdisplays, -⟩ := hstep 11 1 frame nodes hframe hnodes hbegins (hshared ▸ hplants)
  exact ⟨hplants, hkept, hrestyled, ⟨frame, nodes, hframe, hnodes, hshared, hwidth, hdisplays⟩,
    hagain, hpage⟩

end Session

end FrameHost
