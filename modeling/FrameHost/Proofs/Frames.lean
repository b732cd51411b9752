import FrameHost.Proofs.Move

/-!
# What the operations of a frame change

The parts of a host after its operations: each operation changes the frame that it is about and no
other, and says what becomes of the page and of the caches. Mounting a frame is taken apart once
(`mount_cases`), and so are the other operations; what holds of the frames of a host is proved from
these theorems.
-/

namespace FrameHost

open Json (Value)

namespace Host

variable {h : Host} {f : FrameRef}

/-! ## Small changes -/

/-- The frames of `h'` are those of `h`, but `frame` is in the place of `f`. -/
def Sets (h h' : Host) (f : FrameRef) (frame : Frame) : Prop :=
  ∀ f', h'.frame? f' = if f' = f then some frame else h.frame? f'

/-- A modification is read at its own frame only. -/
theorem frame?_modifyFrame (g : Frame → Frame) (f' : FrameRef) :
    (h.modifyFrame f g).frame? f' = if f' = f then (h.frame? f).map g else h.frame? f' := by
  unfold modifyFrame frame?
  dsimp only
  rw [List.getElem?_modify]
  by_cases hf : f = f'
  · subst hf
    simp
  · have hf' : ¬ f' = f := fun e => hf e.symm
    simp [hf, hf']

/-- Nothing changes where there is no frame. -/
theorem frames_modifyFrame_of_none (hf : h.frame? f = none) (g : Frame → Frame) :
    (h.modifyFrame f g).frames = h.frames := by
  refine List.ext_getElem? fun f' => ?_
  have hget := frame?_modifyFrame (h := h) (f := f) g f'
  rw [hf] at hget
  show (h.modifyFrame f g).frame? f' = h.frame? f'
  rw [hget]
  split
  · next heq =>
    rw [heq, hf]
    rfl
  · rfl

/-- A modification sets one frame. -/
theorem sets_modifyFrame {frame : Frame} (hf : h.frame? f = some frame) (g : Frame → Frame) :
    h.Sets (h.modifyFrame f g) f (g frame) := by
  intro f'
  rw [frame?_modifyFrame, hf]
  rfl

/-- The same frame set twice is set to the later state. -/
theorem Sets.trans {h₁ h₂ : Host} {frame frame' : Frame} (hs : h.Sets h₁ f frame)
    (hs' : h₁.Sets h₂ f frame') : h.Sets h₂ f frame' := by
  intro f'
  rw [hs' f', hs f']
  by_cases hf : f' = f <;> simp [hf]

/-- A frame that is set is read back. -/
theorem Sets.frame? {h' : Host} {frame : Frame} (hs : h.Sets h' f frame) :
    h'.frame? f = some frame := by
  rw [hs f, if_pos rfl]

/-- The other frames stay as they are. -/
theorem Sets.frame?_of_ne {h' : Host} {frame : Frame} (hs : h.Sets h' f frame) {f' : FrameRef}
    (hne : f' ≠ f) : h'.frame? f' = h.frame? f' := by
  rw [hs f', if_neg hne]

/-- Nothing is set by a change that is no change of frames. -/
theorem Sets.of_frames {h₁ h₂ : Host} {frame : Frame} (hs : h.Sets h₁ f frame)
    (hframes : h₂.frames = h₁.frames) : h.Sets h₂ f frame := by
  intro f'
  rw [← hs f']
  unfold Host.frame?
  rw [hframes]

/-- A stored cache is read at its own place only. -/
theorem cache_setCache (r r' : CacheRef) (c : Cache) :
    (h.setCache r c).cache r' = if r' = r then c else h.cache r' := by
  unfold cache setCache
  rw [Table.get?_insert]
  split <;> rfl

/-- Leaving the registry keeps the frames. -/
@[simp] theorem frames_deregister (frameId : String) :
    (h.deregister f frameId).frames = h.frames := by
  unfold deregister
  split <;> rfl

/-- Leaving the registry keeps the page. -/
@[simp] theorem page_deregister (frameId : String) : (h.deregister f frameId).page = h.page := by
  unfold deregister
  split <;> rfl

/-- Leaving the registry keeps the caches. -/
@[simp] theorem caches_deregister (frameId : String) :
    (h.deregister f frameId).caches = h.caches := by
  unfold deregister
  split <;> rfl

/-- Entering the registry keeps the frames. -/
@[simp] theorem frames_register : (h.register f).frames = h.frames := by
  unfold register
  split
  · rfl
  · split <;> rfl

/-- Entering the registry keeps the page. -/
@[simp] theorem page_register : (h.register f).page = h.page := by
  unfold register
  split
  · rfl
  · split <;> rfl

/-- Entering the registry keeps the caches. -/
@[simp] theorem caches_register : (h.register f).caches = h.caches := by
  unfold register
  split
  · rfl
  · split <;> rfl

/-- Starting a check keeps the page. -/
@[simp] theorem page_startCheck : (h.startCheck f).page = h.page := by
  unfold startCheck
  split
  · rfl
  · split <;> rfl

/-- Starting a check keeps the caches. -/
@[simp] theorem caches_startCheck : (h.startCheck f).caches = h.caches := by
  unfold startCheck
  split
  · rfl
  · split <;> rfl

/-- A check that is started is noted in the frame. -/
theorem sets_startCheck {frame : Frame} (hf : h.frame? f = some frame) :
    ∃ check, h.Sets (h.startCheck f) f { frame with check } := by
  unfold startCheck
  rw [hf]
  dsimp only
  split
  · exact ⟨_, sets_modifyFrame hf _⟩
  · refine ⟨frame.check, fun f' => ?_⟩
    by_cases hf' : f' = f <;> simp [hf', hf]

/-! ## No frame

Nothing happens where there is no frame. -/

/-- Without a frame there is nothing to mount. -/
theorem mount_of_none (hf : h.frame? f = none) (config : Config) : h.mount f config = (h, none) := by
  unfold mount
  rw [hf]

/-- Without a frame there is nothing to destroy. -/
theorem destroy_of_none (hf : h.frame? f = none) : h.destroy f = h := by
  unfold destroy
  rw [hf]

/-- Without a frame there is no content to show. -/
theorem showContent_of_none (hf : h.frame? f = none) : h.showContent f = (h, []) := by
  unfold showContent
  rw [hf]

/-- Without a frame there is nothing to connect. -/
theorem connect_of_none (hf : h.frame? f = none) (g : ℕ) : h.connect f g = (h, []) := by
  unfold connect
  rw [hf]

/-- Without a frame there is no loader to retire. -/
theorem retireLoader_of_none (hf : h.frame? f = none) (g : ℕ) (loader : NodeId) :
    h.retireLoader f g loader = (h, []) := by
  unfold retireLoader
  rw [hf]

/-! ## Releasing -/

/-- Letting go of the old nodes sets the frame alone. -/
theorem sets_release {frame : Frame} (hf : h.frame? f = some frame) :
    h.Sets (h.release f) f frame.released := by
  unfold release
  rw [hf]
  -- Aborting the check touches the checks alone.
  have hframes : (h.abort frame.check).frames = h.frames := by
    unfold abort
    split <;> rfl
  have hf' : (h.abort frame.check).frame? f = some frame := by
    unfold Host.frame?
    rw [hframes]
    exact hf
  have hs := sets_modifyFrame hf' Frame.released
  intro f'
  have hs' := hs f'
  unfold Host.frame? at hs' ⊢
  rw [hframes] at hs'
  exact hs'

/-- Letting go of the old nodes takes the frame's listener off the page, and nothing else. -/
theorem page_release {frame : Frame} (hf : h.frame? f = some frame) :
    (h.release f).page = h.page.removeListener? frame.listener := by
  unfold release
  rw [hf]

/-- Letting go of the old nodes keeps the caches. -/
@[simp] theorem caches_release : (h.release f).caches = h.caches := by
  unfold release
  split
  · rfl
  · unfold abort
    split <;> rfl

end Host

/-! ## Mounting -/

/-- A frame at the beginning of a mount: released, with its new configuration. -/
def Frame.renewed (frame : Frame) (config : Config) : Frame :=
  { frame.released with config := (Config.defaults.merged frame.config).merged config }

/-- Where the iframe of a frame is loaded from. -/
def Frame.source (frame : Frame) (page : Page) : String := frame.config.src?.getD page.origin

/-- A frame that is put in its place. -/
def Frame.installed (frame : Frame) (className : String) (check : Option ℕ) (nodes : Mounted)
    (source : String) : Frame :=
  { frame with
    className
    check
    phase := .initializing
    nodes := some nodes
    bus := frame.bus.attach frame.frameId ⟨nodes.iframe, source⟩ }

/-- The class of the element whose place a frame takes: a container that is left says nothing about
it. -/
def Frame.classAt (frame : Frame) (page : Page) : Place → String
  | .container _ => frame.className
  | .element n => page.className n

namespace Host

variable {h : Host} {f : FrameRef}

/-- The cache of a frame at the moment when its templates are looked up. -/
def preparedCache (h : Host) (frame : Frame) : Place → Cache
  | .container _ => (h.cache frame.cache).forgetPaths frame.frameId
  | .element _ => h.cache frame.cache

/-- What becomes of the host `h` when the frame `f`, being `frame`, is put in its place on the page. -/
structure Placed (h h' : Host) (f : FrameRef) (frame : Frame) (page : Page) (place : Place)
    (nodes : Mounted) : Prop where
  frames : ∃ check,
    h.Sets h' f (frame.installed (frame.classAt page place) check nodes (frame.source page))
  page : ∃ p,
    page.build frame.config
        (frameUrl (frame.source page) ((h.preparedCache frame place).templates frame.config).1.path)
        ((h.preparedCache frame place).templates frame.config).1.iframe
        ((h.preparedCache frame place).templates frame.config).1.loader = (p, nodes) ∧
      h'.page = (p.replace place.node nodes.container).onLoad nodes.iframe
        (.connect f frame.generation)
  cache : ∀ r, h'.cache r =
    if r = frame.cache then ((h.preparedCache frame place).templates frame.config).2 else h.cache r

/-- A cache is read from the host's caches. -/
theorem cache_congr {g h : Host} (hcaches : g.caches = h.caches) (r : CacheRef) :
    g.cache r = h.cache r := by
  unfold cache
  rw [hcaches]

/-- The frame keeps the class of the element that it replaces. -/
theorem sets_prepare {frame : Frame} (hf : h.frame? f = some frame) (place : Place) :
    h.Sets (h.prepare f frame place) f { frame with className := frame.classAt h.page place } := by
  cases place with
  | container n =>
    intro f'
    show h.frame? f' = if f' = f then some frame else h.frame? f'
    by_cases hf' : f' = f <;> simp [hf', hf]
  | element n => exact sets_modifyFrame hf _

/-- Preparing a mount leaves the page alone. -/
theorem page_prepare (frame : Frame) (place : Place) : (h.prepare f frame place).page = h.page := by
  cases place <;> rfl

/-- Preparing a mount changes the frame's own cache only. -/
theorem cache_prepare (frame : Frame) (place : Place) (r : CacheRef) :
    (h.prepare f frame place).cache r =
      if r = frame.cache then h.preparedCache frame place else h.cache r := by
  cases place with
  | container n => exact cache_setCache frame.cache r _
  | element n =>
    show h.cache r = if r = frame.cache then h.cache frame.cache else h.cache r
    split
    · next hr => rw [hr]
    · rfl

/-- A frame that is put in its place. -/
theorem placed_install {frame : Frame} (hf : h.frame? f = some frame) (place : Place) :
    ∃ nodes, ((h.prepare f frame place).install f frame place).2 = nodes.iframe ∧
      h.Placed ((h.prepare f frame place).install f frame place).1 f frame h.page place nodes := by
  have hprepare := sets_prepare hf place
  generalize hclass : frame.classAt h.page place = className at hprepare
  have hpage := page_prepare (h := h) (f := f) frame place
  have hcache := cache_prepare (h := h) (f := f) frame place
  have hown : (h.prepare f frame place).cache frame.cache = h.preparedCache frame place := by
    rw [hcache, if_pos rfl]
  generalize h.prepare f frame place = h₁ at hprepare hpage hcache hown
  -- From here on only these facts about the prepared host are needed.
  unfold install
  rw [hown, hpage]
  dsimp only
  generalize hbuild : h.page.build frame.config _ _ _ = built
  obtain ⟨p, nodes⟩ := built
  dsimp only
  -- The frame is mounted, then a check is started for it.
  have hframe : h₁.frame? f = some { frame with className } := hprepare.frame?
  let mounted (frame' : Frame) : Frame :=
    { frame' with
      phase := .initializing
      nodes := some nodes
      bus := frame'.bus.attach frame.config.frameId
        ⟨nodes.iframe, frame.config.src?.getD h.page.origin⟩ }
  have hmounted := hprepare.trans (sets_modifyFrame hframe mounted)
  refine ⟨nodes, rfl, ?_, ?_, fun r => ?_⟩
  · generalize hcached : (h₁.setCache frame.cache _).modifyFrame f _ = h₂
    have hsets : h.Sets { h₂ with
        page := (p.replace place.node nodes.container).onLoad nodes.iframe
          (.connect f frame.generation) } f (mounted { frame with className }) := by
      refine hmounted.of_frames ?_
      rw [← hcached]
      rfl
    obtain ⟨check, hcheck⟩ := sets_startCheck hsets.frame?
    refine ⟨check, ?_⟩
    rw [hclass]
    exact (hsets.trans hcheck).of_frames frames_register
  · refine ⟨p, hbuild, ?_⟩
    simp
  · have hcaches := cache_setCache (h := h₁) frame.cache r
      ((h.preparedCache frame place).templates frame.config).2
    refine (cache_congr (h := h₁.setCache frame.cache _) ?_ r).trans (hcaches.trans ?_)
    · rw [caches_register, caches_startCheck]
      rfl
    by_cases hr : r = frame.cache
    · rw [if_pos hr, if_pos hr]
    · rw [if_neg hr, if_neg hr, hcache, if_neg hr]

/-- The host at the moment when a mount looks for the place of the frame. -/
def renew (h : Host) (f : FrameRef) (old : Frame) (config : Config) : Host :=
  let merged := (Config.defaults.merged old.config).merged config
  let h := (h.release f).modifyFrame f fun frame => { frame with config := merged }
  if old.frameId = merged.frameId then h else h.deregister f old.frameId

/-- A mount, in its steps: renew the frame, find its place, prepare, install; it fails where no
place is found. -/
theorem mount_eq {old : Frame} (hf : h.frame? f = some old) (config : Config) :
    h.mount f config =
      match (h.renew f old config).frame? f,
        (h.renew f old config).page.place? (old.renewed config).frameId with
      | some frame, some place =>
        ((((h.renew f old config).prepare f frame place).install f frame place).1,
          some (((h.renew f old config).prepare f frame place).install f frame place).2)
      | _, _ =>
        ((h.renew f old config).modifyFrame f fun frame => { frame with phase := .uninitialized },
          none) := by
  unfold mount
  rw [hf]
  rfl

/-- The frame has its new configuration, and its listener is gone. -/
theorem renew_spec {old : Frame} (hf : h.frame? f = some old) (config : Config) :
    h.Sets (h.renew f old config) f (old.renewed config) ∧
      (h.renew f old config).page = h.page.removeListener? old.listener ∧
      (h.renew f old config).caches = h.caches := by
  have hreleased := sets_release hf
  -- Two changes of one frame, first without its nodes and then with its new configuration.
  have hrenewed : h.Sets ((h.release f).modifyFrame f fun frame =>
      { frame with config := (Config.defaults.merged old.config).merged config }) f
      (old.renewed config) := hreleased.trans (sets_modifyFrame hreleased.frame? _)
  unfold renew
  dsimp only
  split
  · exact ⟨hrenewed, page_release hf, caches_release⟩
  · refine ⟨hrenewed.of_frames (frames_deregister _), ?_, ?_⟩
    · rw [page_deregister]
      exact page_release hf
    · rw [caches_deregister]
      exact caches_release

/-- A mount releases the frame; then it puts it in its place, if there is a place for it. -/
theorem mount_cases {old : Frame} (hf : h.frame? f = some old) (config : Config) :
    ((h.page.removeListener? old.listener).place? (old.renewed config).frameId = none ∧
        (h.mount f config).2 = none ∧
        h.Sets (h.mount f config).1 f { old.renewed config with phase := .uninitialized } ∧
        (h.mount f config).1.page = h.page.removeListener? old.listener ∧
        (h.mount f config).1.caches = h.caches) ∨
      ∃ place nodes,
        (h.page.removeListener? old.listener).place? (old.renewed config).frameId = some place ∧
        (h.mount f config).2 = some nodes.iframe ∧
        h.Placed (h.mount f config).1 f (old.renewed config) (h.page.removeListener? old.listener)
          place nodes := by
  obtain ⟨hsets, hpage, hcaches⟩ := renew_spec hf config
  rw [mount_eq hf config]
  generalize h.renew f old config = h₁ at hsets hpage hcaches
  rw [hsets.frame?, hpage]
  cases hplace : (h.page.removeListener? old.listener).place? (old.renewed config).frameId with
  | none => exact .inl ⟨rfl, rfl, hsets.trans (sets_modifyFrame hsets.frame? _), hpage, hcaches⟩
  | some place =>
    obtain ⟨nodes, hiframe, hplaced⟩ := placed_install hsets.frame? place
    refine .inr ⟨place, nodes, rfl, congrArg some hiframe, ?_⟩
    -- The frame was released and renamed in between, but caches are as they were.
    have hprepared : h₁.preparedCache (old.renewed config) place =
        h.preparedCache (old.renewed config) place := by
      cases place with
      | container n =>
        show (h₁.cache _).forgetPaths _ = (h.cache _).forgetPaths _
        rw [cache_congr hcaches]
      | element n => exact cache_congr hcaches _
    obtain ⟨⟨check, hframes⟩, hbuilt, hcache⟩ := hplaced
    rw [hprepared] at hbuilt hcache
    rw [hpage] at hframes hbuilt
    refine ⟨⟨check, hsets.trans hframes⟩, hbuilt, fun r => ?_⟩
    rw [hcache, cache_congr hcaches]

/-! ## Tearing down -/

/-- The page after the nodes of a frame were replaced by an element. -/
def restoredPage (p : Page) (frame : Frame) : Page :=
  match frame.nodes with
  | none => p
  | some nodes =>
    let (p, n) := p.createPlaceholder frame.frameId frame.className frame.config.destroyText
    p.replace nodes.container n

/-- A mounted frame is released, and an element takes its place; its cached paths are dropped. -/
theorem destroy_cases {frame : Frame} (hf : h.frame? f = some frame) :
    (frame.phase.isMounted = false ∧ h.destroy f = h) ∨
      (frame.phase.isMounted = true ∧
        h.Sets (h.destroy f) f { frame.released with phase := .destroyed } ∧
        (h.destroy f).page = restoredPage (h.page.removeListener? frame.listener) frame ∧
        ∀ r, (h.destroy f).cache r =
          if r = frame.cache then (h.cache r).forgetPaths frame.frameId else h.cache r) := by
  unfold destroy
  rw [hf]
  dsimp only
  cases hmounted : frame.phase.isMounted with
  | false => exact .inl ⟨rfl, rfl⟩
  | true =>
    rw [if_pos rfl]
    have hreleased := sets_release hf
    have hdestroyed := hreleased.trans (sets_modifyFrame hreleased.frame?
      fun frame => { frame with phase := .destroyed })
    have hpage := page_release hf
    have hcaches := caches_release (h := h) (f := f)
    generalize h.release f = h₁ at hdestroyed hpage hcaches
    -- Its page and cache change after it was released, and then it leaves the registry.
    refine .inr ⟨rfl, ?_, ?_, fun r => ?_⟩
    · refine hdestroyed.of_frames ?_
      rw [frames_deregister]
      rfl
    · rw [page_deregister, ← hpage]
      unfold restoredPage
      cases frame.nodes <;> rfl
    · refine (cache_congr (caches_deregister _) r).trans ?_
      rw [cache_setCache]
      by_cases hr : r = frame.cache
      · rw [if_pos hr, if_pos hr, hr]
        exact congrArg (fun c => Cache.forgetPaths c frame.frameId) (cache_congr hcaches _)
      · rw [if_neg hr, if_neg hr]
        exact cache_congr hcaches r

/-! ## Connecting and showing -/

/-- A frame that connects is mounted before and after. -/
theorem isMounted_of_connects {before after : Phase}
    (h : before = .initializing ∧ after = .connected ∨ before = .loaded ∧ after = .loaded) :
    after.isMounted = before.isMounted := by
  rcases h with ⟨rfl, rfl⟩ | ⟨rfl, rfl⟩ <;> rfl

/-- A frame whose iframe has loaded connects, if the load belongs to its mount and it is mounted and
not connected in its first phase already. -/
theorem connect_cases {frame : Frame} (hf : h.frame? f = some frame) (g : ℕ) :
    ((frame.generation = g → frame.phase ≠ .initializing ∧ frame.phase ≠ .loaded) ∧
        (h.connect f g).1 = h) ∨
      (frame.generation = g ∧ ∃ phase,
        (frame.phase = .initializing ∧ phase = .connected ∨
          frame.phase = .loaded ∧ phase = .loaded) ∧
        h.Sets (h.connect f g).1 f
          { frame with phase, listener := some (h.page.lastId + 1), bus := frame.bus.connect } ∧
        (h.connect f g).1.page =
          (h.page.addListener (.frame f)).1.removeListener? frame.listener ∧
        (h.connect f g).1.caches = h.caches) := by
  unfold connect
  rw [hf]
  dsimp only
  -- The load of an earlier mount changes nothing, and in most phases that of this mount neither.
  by_cases hg : frame.generation = g
  · rw [if_pos hg]
    cases hphase : frame.phase with
    | initializing =>
      refine .inr ⟨hg, .connected, .inl ⟨rfl, rfl⟩, ?_, rfl, rfl⟩
      exact (sets_modifyFrame hf _).of_frames rfl
    | loaded =>
      refine .inr ⟨hg, .loaded, .inr ⟨rfl, rfl⟩, ?_, rfl, rfl⟩
      exact (sets_modifyFrame hf _).of_frames rfl
    | uninitialized | connected | destroyed =>
      exact .inl ⟨fun _ => ⟨by simp, by simp⟩, rfl⟩
  · rw [if_neg hg]
    exact .inl ⟨fun h => absurd h hg, rfl⟩

/-- The content of a frame is shown once, and its loader is to fade after the next paint. -/
theorem showContent_cases {frame : Frame} (hf : h.frame? f = some frame) :
    (h.showContent f).1 = h ∨
      ∃ nodes, (frame.phase = .initializing ∨ frame.phase = .connected) ∧ frame.nodes = some nodes ∧
        h.Sets (h.showContent f).1 f { frame with phase := .loaded } ∧
        (h.showContent f).1.page =
          (let page := (h.page.setStyle nodes.container
              (Look.containerLoaded frame.config.width frame.config.height)).setStyle nodes.iframe
                Look.visible
          match nodes.loader with
          | some loader => page.afterPaint (.fade f frame.generation loader)
          | none => page) ∧
        (h.showContent f).1.caches = h.caches := by
  have hs : h.Sets (h.modifyFrame f fun frame => { frame with phase := .loaded }) f
      { frame with phase := .loaded } := sets_modifyFrame hf _
  unfold showContent
  rw [hf]
  -- The frame's new state is named, so that it does not split with the cases.
  generalize ({ frame with phase := .loaded } : Frame) = loaded at hs ⊢
  dsimp only
  by_cases hphase : frame.phase = .initializing ∨ frame.phase = .connected
  · rw [if_pos hphase]
    cases frame.nodes with
    | none => exact .inl rfl
    | some nodes =>
      refine .inr ⟨nodes, hphase, rfl, ?_⟩
      dsimp only
      cases nodes.loader with
      | none => exact ⟨hs.of_frames rfl, rfl, rfl⟩
      | some loader => exact ⟨hs.of_frames rfl, rfl, rfl⟩
  · rw [if_neg hphase]
    exact .inl rfl

/-- The loader of a frame goes, if it belongs to the mount of the frame. -/
theorem retireLoader_cases {frame : Frame} (hf : h.frame? f = some frame) (g : ℕ)
    (loader : NodeId) :
    (frame.generation ≠ g ∧ (h.retireLoader f g loader).1 = h) ∨
      (frame.generation = g ∧
        h.Sets (h.retireLoader f g loader).1 f
          { frame with nodes := frame.nodes.map fun nodes => { nodes with loader := none } } ∧
        (h.retireLoader f g loader).1.page = h.page.remove loader ∧
        (h.retireLoader f g loader).1.caches = h.caches) := by
  unfold retireLoader
  rw [hf]
  dsimp only
  by_cases hg : frame.generation = g
  · rw [if_pos hg]
    exact .inr ⟨hg, (sets_modifyFrame hf _).of_frames rfl, rfl, rfl⟩
  · rw [if_neg hg]
    exact .inl ⟨hg, rfl⟩

/-! ## Buses of frames -/

/-- A frame's bus is the one its state holds. -/
theorem bus?_of_frame? {frame : Frame} (hf : h.frame? f = some frame) :
    h.bus? (.frame f) = some frame.bus := by
  show (h.frame? f).map Frame.bus = _
  rw [hf]
  rfl

/-- Without a frame there is no bus. -/
theorem bus?_of_none (hf : h.frame? f = none) : h.bus? (.frame f) = none := by
  show (h.frame? f).map Frame.bus = none
  rw [hf]
  rfl

/-- A call of a frame that is not there is taken for done. -/
theorem execute_of_none (hf : h.frame? f = none) (task : Task) (responder : Responder) :
    h.execute (.frame f) task responder = .ok h := by
  unfold execute
  rw [bus?_of_none hf]

/-- A call over the bus of a frame changes that bus, and may post a message. -/
theorem execute_cases {frame : Frame} (hf : h.frame? f = some frame) (task : Task)
    (responder : Responder) :
    (∃ e, h.execute (.frame f) task responder = .error e ∧
        frame.bus.execute task responder = .error e) ∨
      ∃ bus posted h', h.execute (.frame f) task responder = .ok h' ∧
        frame.bus.execute task responder = .ok (bus, posted) ∧
        h.Sets h' f { frame with bus } ∧ h'.page = h.page.post? posted ∧ h'.caches = h.caches := by
  have hbus := bus?_of_frame? hf
  unfold execute
  rw [hbus]
  dsimp only
  cases hx : frame.bus.execute task responder with
  | error e => exact .inl ⟨e, rfl, rfl⟩
  | ok r =>
    refine .inr ⟨r.1, r.2, _, rfl, rfl, ?_, rfl, rfl⟩
    exact (sets_modifyFrame hf fun frame => { frame with bus := r.1 }).of_frames rfl

/-- A reply takes the oldest pending call off the bus of a frame. -/
theorem reply_cases {frame : Frame} (hf : h.frame? f = some frame) (data : Option Value) :
    h.Sets (h.reply (.frame f) data).1 f { frame with bus := frame.bus.answer.2 } ∧
      (h.reply (.frame f) data).1.page = h.page ∧
      (h.reply (.frame f) data).1.caches = h.caches := by
  have hs := sets_modifyFrame hf fun frame' => { frame' with bus := frame.bus.answer.2 }
  rcases h.host_reply (.frame f) data with ⟨hnone, -⟩ | ⟨b, replies, hb, hreply⟩
  · rw [bus?_of_frame? hf] at hnone
    cases hnone
  · rw [bus?_of_frame? hf] at hb
    cases hb
    rw [hreply]
    exact ⟨hs.of_frames rfl, rfl, rfl⟩

/-- A reply for a frame that is not there does nothing. -/
theorem reply_of_none (hf : h.frame? f = none) (data : Option Value) :
    h.reply (.frame f) data = (h, []) := by
  unfold reply
  rw [bus?_of_none hf]

/-- A frame that is not there has no deferred task. -/
theorem postNext_of_none (hf : h.frame? f = none) : h.postNext (.frame f) = h := by
  unfold postNext
  rw [bus?_of_none hf]

/-- The end of a reply takes the oldest deferred task off the bus of a frame. -/
theorem postNext_cases {frame : Frame} (hf : h.frame? f = some frame) :
    h.Sets (h.postNext (.frame f)) f { frame with bus := frame.bus.postNext.1 } ∧
      (h.postNext (.frame f)).page = h.page.post? frame.bus.postNext.2 ∧
      (h.postNext (.frame f)).caches = h.caches := by
  have hbus := bus?_of_frame? hf
  unfold postNext
  rw [hbus]
  exact ⟨(sets_modifyFrame hf _).of_frames rfl, rfl, rfl⟩

/-! ## Moves of no frame -/

/-- Whether a move leaves the state of every frame alone. -/
def Move.isFrameless : Move → Bool
  | .page _ | .cache _ _ | .openChannel | .fade _ _ _ | .failCheck _ _ | .setCheck _ _
  | .endAborted | .setGate _ | .newBus | .setBus _ _ | .execute (.bare _) _ _
  | .reply (.bare _) _ | .postNext (.bare _) => true
  | _ => false

/-- A move that belongs to no frame keeps the frames. -/
theorem frames_move {m : Move} (hm : m.isFrameless = true) : (h.move m).frames = h.frames := by
  cases m with
  | page | cache | openChannel | setCheck | endAborted | setGate | newBus | setBus => rfl
  | fade f g loader =>
    show (h.fadeLoader f g loader).frames = h.frames
    rcases h.fadeLoader_cases f g loader with hfade | ⟨frame, -, -, hfade⟩ <;> rw [hfade]
  | failCheck c e =>
    show (h.failCheck c e).1.frames = h.frames
    rcases h.failCheck_cases c e with hfail | ⟨frame, page, -, -, -, hfail⟩ <;> rw [hfail]
  | execute r task responder =>
    cases r with
    | frame => cases hm
    | bare n =>
      rcases h.host_execute (.bare n) task responder with hsame | ⟨b, bus, posted, -, -, hmove⟩
      · rw [hsame]
      · rw [hmove]
        rfl
  | reply r data =>
    cases r with
    | frame => cases hm
    | bare n =>
      show (h.reply (.bare n) data).1.frames = h.frames
      rcases h.host_reply (.bare n) data with ⟨-, hreply⟩ | ⟨b, replies, -, hreply⟩
      · rw [hreply]
      · rw [hreply]
        rfl
  | postNext r =>
    cases r with
    | frame => cases hm
    | bare n =>
      show (h.postNext (.bare n)).frames = h.frames
      rcases h.host_postNext (.bare n) with hsame | ⟨b, -, hnext⟩
      · rw [hsame]
      · rw [hnext]
        rfl
  | _ => cases hm

/-! ## What frames share -/

/-- The registry and the caches stay as they are. -/
structure Shares (h h' : Host) : Prop where
  registry : h'.registry = h.registry
  caches : h'.caches = h.caches

/-- A move that neither registers, mounts nor tears down a frame, and is no change of a cache. -/
def Move.isLocal : Move → Bool
  | .enroll _ | .mount _ _ | .destroy _ | .cache _ _ => false
  | _ => true

/-- An accepted call keeps what the frames share. -/
theorem shares_execute {r : BusRef} {task : Task} {responder : Responder} {h' : Host}
    (hx : h.execute r task responder = .ok h') : h.Shares h' := by
  rw [← move_execute hx]
  rcases h.host_execute r task responder with hsame | ⟨b, bus, posted, -, -, hmove⟩
  · rw [hsame]
    exact ⟨rfl, rfl⟩
  · rw [hmove]
    cases r <;> exact ⟨rfl, rfl⟩

/-- An answer keeps what the frames share. -/
theorem shares_reply (r : BusRef) (data : Option Value) : h.Shares (h.reply r data).1 := by
  rcases h.host_reply r data with ⟨-, hreply⟩ | ⟨b, replies, -, hreply⟩
  · rw [hreply]
    exact ⟨rfl, rfl⟩
  · rw [hreply]
    cases r <;> exact ⟨rfl, rfl⟩

/-- Most moves leave alone what the frames share. -/
theorem shares_move {m : Move} (hm : m.isLocal = true) : h.Shares (h.move m) := by
  cases m with
  | enroll | mount | destroy | cache => cases hm
  | page | newFrame | patch | openChannel | setCheck | endAborted | setGate | newBus | setBus =>
    exact ⟨rfl, rfl⟩
  | showContent f =>
    show h.Shares (h.showContent f).1
    unfold showContent
    split
    · exact ⟨rfl, rfl⟩
    · split
      · exact ⟨rfl, rfl⟩
      · dsimp only
        split <;> exact ⟨rfl, rfl⟩
  | registerCommand f name cb =>
    rcases h.host_registerCommand f name cb with hsame | ⟨frame, commands, -, -, hmove⟩
    · rw [hsame]
      exact ⟨rfl, rfl⟩
    · rw [hmove]
      exact ⟨rfl, rfl⟩
  | execute r task responder =>
    show h.Shares ((h.execute r task responder).toOption.getD h)
    cases hx : h.execute r task responder with
    | error => exact ⟨rfl, rfl⟩
    | ok => exact shares_execute hx
  | reply r data => exact shares_reply r data
  | postNext r =>
    show h.Shares (h.postNext r)
    rcases h.host_postNext r with hsame | ⟨b, -, hnext⟩
    · rw [hsame]
      exact ⟨rfl, rfl⟩
    · rw [hnext]
      cases r <;> exact ⟨rfl, rfl⟩
  | connect f g =>
    show h.Shares (h.connect f g).1
    unfold connect
    split
    · exact ⟨rfl, rfl⟩
    · dsimp only
      split <;> exact ⟨rfl, rfl⟩
  | fade f g loader =>
    show h.Shares (h.fadeLoader f g loader)
    rcases h.fadeLoader_cases f g loader with hfade | ⟨frame, -, -, hfade⟩ <;> rw [hfade] <;>
      exact ⟨rfl, rfl⟩
  | retire f g loader =>
    show h.Shares (h.retireLoader f g loader).1
    unfold retireLoader
    split
    · exact ⟨rfl, rfl⟩
    · dsimp only
      split <;> exact ⟨rfl, rfl⟩
  | failCheck c e =>
    show h.Shares (h.failCheck c e).1
    rcases h.failCheck_cases c e with hfail | ⟨frame, page, -, -, -, hfail⟩ <;> rw [hfail] <;>
      exact ⟨rfl, rfl⟩

end Host

end FrameHost
