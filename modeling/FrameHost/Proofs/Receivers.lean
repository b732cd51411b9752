import FrameHost.Proofs.Renaming

/-!
# Who gets a message

A message that is dispatched goes to every listener of the page, and each frame passes over what is
addressed to another frame ID. So a message is for one frame at most exactly as long as no two
connected frames have the same frame ID (`Host.OneReceiver`). The registry does not see to that: a
frame connects whether or not it is registered, and it keeps its connection when a configuration
renames it. In both of these ways a frame adopts a frame ID (`Session.Adopts`), and there is no other;
`oneReceiver_iff` says that nothing else has to be ruled out.
-/

namespace FrameHost

open Json (Value)

/-! ## Listening -/

/-- The frame listens, and is connected, as before. -/
structure Frame.HearsAsBefore (frame frame' : Frame) : Prop where
  registers : frame'.registers = frame.registers
  listener : frame'.listener = frame.listener
  connected : frame'.bus.connected = frame.bus.connected
  target : frame'.bus.target = frame.bus.target
  mounted : frame'.phase.isMounted = frame.phase.isMounted

/-- A frame hears as before when nothing becomes of it. -/
theorem Frame.HearsAsBefore.refl (frame : Frame) : frame.HearsAsBefore frame :=
  ⟨rfl, rfl, rfl, rfl, rfl⟩

/-- The frame neither listens nor is it connected. -/
structure Frame.Deaf (frame : Frame) : Prop where
  listener : frame.listener = none
  connected : frame.bus.connected = false
  target : frame.phase.isMounted = true → frame.bus.target.isSome = true

/-- What a load event makes of the frame that it connects. -/
structure Frame.Connected (frame frame' : Frame) (id : ListenerId) : Prop where
  registers : frame'.registers = frame.registers
  target : frame'.bus.target = frame.bus.target
  mounted : frame'.phase.isMounted = frame.phase.isMounted
  connected : frame'.bus.connected = frame.bus.target.isSome
  frameId : frame'.frameId = frame.frameId
  listener : frame'.listener = some id

namespace Host

variable {h h' : Host} {f g : FrameRef} {frame frame' : Frame} {m : Move} {frameId : String}

/-- A frame that takes part in the registry is connected, and has the given frame ID. -/
def ConnectedAs (h : Host) (f : FrameRef) (frameId : String) : Prop :=
  ∃ frame, h.frame? f = some frame ∧ frame.registers = true ∧ frame.bus.connected = true ∧
    frame.frameId = frameId

/-- Something comes of a message that is dispatched, at a frame that takes part in the registry. -/
def Heeds (h : Host) (f : FrameRef) (data : Value) : Prop :=
  (∃ id frame, h.page.listeners.get? id = some (.frame f) ∧ h.frame? f = some frame ∧
    frame.registers = true) ∧ h.handle f data ≠ (h, [])

/-- No two of the frames that take part in the registry are connected with the same frame ID, and no
message is heeded by two of them. -/
structure OneReceiver (h : Host) : Prop where
  ids : ∀ f g frameId, h.ConnectedAs f frameId → h.ConnectedAs g frameId → f = g
  receivers : ∀ f g data, h.Heeds f data → h.Heeds g data → f = g

/-- Frames listen exactly while they are connected, and the listeners of the page know which of them
do. -/
structure Tuned (h : Host) : Prop where
  listening : ∀ f frame, h.frame? f = some frame → frame.bus.connected = frame.listener.isSome
  target : ∀ f frame, h.frame? f = some frame → frame.phase.isMounted = true →
    frame.bus.target.isSome = true
  recorded : ∀ id f, h.page.listeners.get? id = some (.frame f) →
    ∃ frame, h.frame? f = some frame ∧ frame.listener = some id

/-- Only a message for its own frame ID is heeded by a frame. -/
theorem frameId_of_handle (hf : h.frame? f = some frame) {data : Value}
    (hheeds : h.handle f data ≠ (h, [])) :
    ∃ text, data.string? = some text ∧ (Inbound.decode text).frameId = frame.frameId := by
  unfold handle at hheeds
  rw [hf] at hheeds
  split at hheeds
  · next frame' text hframe htext =>
    cases hframe
    dsimp only at hheeds
    split at hheeds
    · next hid => exact ⟨text, htext, hid⟩
    · exact absurd rfl hheeds
  · exact absurd rfl hheeds

/-- It is enough that the frame IDs are distinct. -/
theorem Tuned.oneReceiver_iff_connectedAs (ht : h.Tuned) : h.OneReceiver ↔
    ∀ f g frameId, h.ConnectedAs f frameId → h.ConnectedAs g frameId → f = g := by
  -- Who heeds a message is connected under the frame ID that it names.
  have hconnected : ∀ f data, h.Heeds f data →
      ∃ text, data.string? = some text ∧ h.ConnectedAs f (Inbound.decode text).frameId := by
    rintro f data ⟨⟨id, frame, hlistens, hf, hregisters⟩, hheeds⟩
    obtain ⟨frame', hf', hid⟩ := ht.recorded id f hlistens
    cases hf.symm.trans hf'
    obtain ⟨text, htext, hframeId⟩ := frameId_of_handle hf hheeds
    refine ⟨text, htext, frame, hf, hregisters, ?_, hframeId.symm⟩
    rw [ht.listening f frame hf, hid]
    rfl
  refine ⟨OneReceiver.ids, fun hids => ⟨hids, fun f g data hf hg => ?_⟩⟩
  obtain ⟨text, htext, hfc⟩ := hconnected f data hf
  obtain ⟨text', htext', hgc⟩ := hconnected g data hg
  cases htext.symm.trans htext'
  exact hids f g _ hfc hgc

/-! ## Moves that connect nobody -/

/-- Nobody begins to listen: each frame listens as before or not at all. -/
structure Hushes (h h' : Host) : Prop where
  frames : ∀ f frame', h'.frame? f = some frame' →
    (∃ frame, h.frame? f = some frame ∧ frame.HearsAsBefore frame') ∨ frame'.Deaf
  listeners : ∀ id f, h'.page.listeners.get? id = some (.frame f) →
    h.page.listeners.get? id = some (.frame f) ∧
      ∀ frame, h.frame? f = some frame → frame.listener = some id →
        ∃ frame', h'.frame? f = some frame' ∧ frame'.listener = some id

/-- A tuned host stays tuned when nobody begins to listen. -/
theorem Hushes.tuned (hh : h.Hushes h') (ht : h.Tuned) : h'.Tuned := by
  refine ⟨fun f frame' hf' => ?_, fun f frame' hf' hmounted => ?_, fun id f hid => ?_⟩
  · rcases hh.frames f frame' hf' with ⟨frame, hf, hsame⟩ | hdeaf
    · rw [hsame.connected, hsame.listener]
      exact ht.listening f frame hf
    · rw [hdeaf.connected, hdeaf.listener]
      rfl
  · rcases hh.frames f frame' hf' with ⟨frame, hf, hsame⟩ | hdeaf
    · rw [hsame.target]
      exact ht.target f frame hf (hsame.mounted ▸ hmounted)
    · exact hdeaf.target hmounted
  · obtain ⟨hbefore, hkept⟩ := hh.listeners id f hid
    obtain ⟨frame, hf, hl⟩ := ht.recorded id f hbefore
    exact hkept frame hf hl

/-- The frames stay as they are. -/
theorem hushes_of_frames (hframes : h'.frames = h.frames)
    (hlisteners : ∀ id f, h'.page.listeners.get? id = some (.frame f) →
      h.page.listeners.get? id = some (.frame f)) : h.Hushes h' := by
  have hframe : ∀ f, h'.frame? f = h.frame? f := fun f => by
    unfold Host.frame?
    rw [hframes]
  refine ⟨fun f frame' hf' => .inl ⟨frame', (hframe f) ▸ hf', .refl frame'⟩, fun id f hid => ?_⟩
  exact ⟨hlisteners id f hid, fun frame hf hl => ⟨frame, (hframe f).trans hf, hl⟩⟩

/-- A frame that was never mounted is added. -/
theorem hushes_of_added {added : Frame} (hframes : h'.frames = h.frames ++ [added])
    (hdeaf : added.Deaf) (hpage : h'.page = h.page) : h.Hushes h' := by
  have hframe : ∀ f, h'.frame? f = (h.frames ++ [added])[f]? := fun f => by
    unfold Host.frame?
    rw [hframes]
  have hkept : ∀ f frame, h.frame? f = some frame → h'.frame? f = some frame := fun f frame hf => by
    obtain ⟨hlt, -⟩ := List.getElem?_eq_some_iff.mp hf
    rw [hframe, List.getElem?_append_left hlt]
    exact hf
  refine ⟨fun f frame' hf' => ?_, fun id f hid => ⟨hpage ▸ hid, fun frame hf hl =>
    ⟨frame, hkept f frame hf, hl⟩⟩⟩
  cases hf : h.frame? f with
  | some frame =>
    -- An earlier frame is as it was.
    cases (hkept f frame hf).symm.trans hf'
    exact .inl ⟨_, rfl, .refl _⟩
  | none =>
    -- The added one is deaf.
    have hle : h.frames.length ≤ f := List.getElem?_eq_none_iff.mp hf
    rw [hframe, List.getElem?_append_right hle, List.getElem?_singleton] at hf'
    split at hf'
    · cases hf'
      exact .inr hdeaf
    · cases hf'

/-- One frame changes, and listens as before. -/
theorem hushes_of_sets (hf : h.frame? f = some frame) (hs : h.Sets h' f frame')
    (hsame : frame.HearsAsBefore frame') (hlisteners : h'.page.listeners = h.page.listeners) :
    h.Hushes h' := by
  refine ⟨fun f' fr' hf' => ?_, fun id f' hid => ⟨hlisteners ▸ hid, fun fr hfr hl => ?_⟩⟩
  · by_cases heq : f' = f
    · subst heq
      cases hs.frame?.symm.trans hf'
      exact .inl ⟨frame, hf, hsame⟩
    · rw [hs.frame?_of_ne heq] at hf'
      exact .inl ⟨fr', hf', .refl fr'⟩
  · by_cases heq : f' = f
    · subst heq
      cases hf.symm.trans hfr
      exact ⟨frame', hs.frame?, hsame.listener.trans hl⟩
    · exact ⟨fr, (hs.frame?_of_ne heq).trans hfr, hl⟩

/-- One frame stops listening, and its listener leaves the page. -/
theorem hushes_of_released (hf : h.frame? f = some frame) (hs : h.Sets h' f frame')
    (hdeaf : frame'.Deaf)
    (hlisteners : h'.page.listeners = (h.page.removeListener? frame.listener).listeners) :
    h.Hushes h' := by
  -- What listens still did so before, and is not the listener that has gone.
  have hleft : ∀ id f', h'.page.listeners.get? id = some (.frame f') →
      h.page.listeners.get? id = some (.frame f') ∧ frame.listener ≠ some id := by
    intro id f' hid
    rw [hlisteners] at hid
    cases hl : frame.listener with
    | none =>
      rw [hl] at hid
      exact ⟨hid, fun hsome => by cases hsome⟩
    | some l =>
      rw [hl] at hid
      change (h.page.listeners.erase l).get? id = _ at hid
      rw [Table.get?_erase] at hid
      split at hid
      · cases hid
      · next hne => exact ⟨hid, fun hsome => hne (Option.some.inj hsome).symm⟩
  refine ⟨fun f' fr' hf' => ?_, fun id f' hid => ⟨(hleft id f' hid).1, fun fr hfr hl => ?_⟩⟩
  · by_cases heq : f' = f
    · subst heq
      cases hs.frame?.symm.trans hf'
      exact .inr hdeaf
    · rw [hs.frame?_of_ne heq] at hf'
      exact .inl ⟨fr', hf', .refl fr'⟩
  · by_cases heq : f' = f
    · -- The listener that the frame has recorded is the one that left.
      subst heq
      cases hf.symm.trans hfr
      exact absurd hl (hleft id _ hid).2
    · exact ⟨fr, (hs.frame?_of_ne heq).trans hfr, hl⟩

/-- A bus of a frame changes, and its connection stays. -/
theorem hushes_of_bus (hf : h.frame? f = some frame) {bus : Bus} (hs : h.Sets h' f { frame with bus })
    (hline : frame.bus.SameLine bus)
    (hlisteners : h'.page.listeners = h.page.listeners) : h.Hushes h' :=
  hushes_of_sets hf hs ⟨rfl, rfl, hline.connected, hline.target, rfl⟩ hlisteners

/-- Nobody begins to listen in a mount. -/
theorem hushes_mount (f : FrameRef) (config : Config) :
    h.Hushes (h.mount f config).1 := by
  cases hf : h.frame? f with
  | none =>
    rw [mount_of_none hf]
    exact hushes_of_frames rfl fun _ _ hid => hid
  | some frame =>
    rcases mount_cases hf config with ⟨-, -, hs, hpage, -⟩ | ⟨place, nodes, -, -, hplaced⟩
    · refine hushes_of_released hf hs ⟨rfl, rfl, fun hmounted => by cases hmounted⟩ ?_
      rw [hpage]
    · obtain ⟨⟨check, hs⟩, ⟨p, hbuild, hpage⟩, -⟩ := hplaced
      refine hushes_of_released hf hs ⟨rfl, rfl, fun _ => rfl⟩ ?_
      -- New nodes bring no listeners.
      have hredraws := (Page.builds_build hbuild).redraws.trans
        (Page.redraws_replace place.node nodes.container)
      rw [hpage]
      exact hredraws.listeners

/-- Nobody begins to listen when a frame is destroyed. -/
theorem hushes_destroy (f : FrameRef) : h.Hushes (h.destroy f) := by
  cases hf : h.frame? f with
  | none =>
    rw [destroy_of_none hf]
    exact hushes_of_frames rfl fun _ _ hid => hid
  | some frame =>
    rcases destroy_cases hf with ⟨-, hsame⟩ | ⟨-, hs, hpage, -⟩
    · rw [hsame]
      exact hushes_of_frames rfl fun _ _ hid => hid
    · refine hushes_of_released hf hs ⟨rfl, rfl, fun hmounted => by cases hmounted⟩ ?_
      rw [hpage]
      exact (Page.redraws_restored frame).listeners

/-- Nobody begins to listen when content is shown. -/
theorem hushes_showContent (f : FrameRef) : h.Hushes (h.showContent f).1 := by
  cases hf : h.frame? f with
  | none =>
    rw [showContent_of_none hf]
    exact hushes_of_frames rfl fun _ _ hid => hid
  | some frame =>
    rcases showContent_cases hf with hsame | ⟨nodes, hphase, -, hs, hpage, -⟩
    · rw [hsame]
      exact hushes_of_frames rfl fun _ _ hid => hid
    · refine hushes_of_sets hf hs ⟨rfl, rfl, rfl, rfl, ?_⟩ ?_
      · rcases hphase with hphase | hphase <;> rw [hphase] <;> rfl
      · rw [hpage]
        cases nodes.loader <;> rfl

/-- Nobody begins to listen when a command is registered. -/
theorem hushes_registerCommand (f : FrameRef) (name : String) (cb : Callback) :
    h.Hushes (h.move (.registerCommand f name cb)) := by
  rcases h.host_registerCommand f name cb with hsame | ⟨frame, commands, hf, -, hmove⟩
  · rw [hsame]
    exact hushes_of_frames rfl fun _ _ hid => hid
  · rw [hmove]
    have hs : h.Sets (h.modifyFrame f fun frame => { frame with commands }) f
        { frame with commands } := sets_modifyFrame hf _
    exact hushes_of_sets hf hs ⟨rfl, rfl, rfl, rfl, rfl⟩ rfl

/-- Nobody begins to listen when a bus stays the line that it is. -/
theorem hushes_of_line {r : BusRef} {b bus : Bus} (hb : h.bus? r = some b)
    (hframes : h'.frames = (h.setBus r bus).frames) (hline : b.SameLine bus)
    (hlisteners : h'.page.listeners = h.page.listeners) : h.Hushes h' := by
  cases r with
  | bare n => exact hushes_of_frames hframes fun _ _ hid => hlisteners ▸ hid
  | frame f =>
    obtain ⟨frame, hf, rfl⟩ := Option.map_eq_some_iff.mp hb
    have hs := (sets_modifyFrame hf fun frame => { frame with bus }).of_frames hframes
    exact hushes_of_bus hf hs hline hlisteners

/-- Nobody begins to listen in a call. -/
theorem hushes_execute (r : BusRef) (task : Task) (responder : Responder) :
    h.Hushes (h.move (.execute r task responder)) := by
  rcases h.host_execute r task responder with hsame | ⟨b, bus, posted, hb, hx, hmove⟩
  · rw [hsame]
    exact hushes_of_frames rfl fun _ _ hid => hid
  · rw [hmove]
    exact hushes_of_line hb rfl (Bus.sameLine_execute hx) (Page.redraws_post? _).listeners

/-- Nobody begins to listen in an answer. -/
theorem hushes_reply (r : BusRef) (data : Option Value) : h.Hushes (h.reply r data).1 := by
  have hlisteners := congrArg Page.listeners (page_reply (h := h) r data)
  rcases h.host_reply r data with ⟨-, hreply⟩ | ⟨b, replies, hb, hreply⟩
  · rw [hreply]
    exact hushes_of_frames rfl fun _ _ hid => hid
  · have hframes : (h.reply r data).1.frames = (h.setBus r b.answer.2).frames := by
      rw [hreply]
    exact hushes_of_line hb hframes (Bus.sameLine_answer _) hlisteners

/-- Nobody begins to listen when a deferred task is posted. -/
theorem hushes_postNext (r : BusRef) : h.Hushes (h.postNext r) := by
  rcases h.host_postNext r with hsame | ⟨b, hb, hnext⟩
  · rw [hsame]
    exact hushes_of_frames rfl fun _ _ hid => hid
  · rw [hnext]
    exact hushes_of_line hb rfl (Bus.sameLine_postNext _) (Page.redraws_post? _).listeners

/-- Nobody begins to listen when a loader is retired. -/
theorem hushes_retire (f : FrameRef) (generation : ℕ) (loader : NodeId) :
    h.Hushes (h.retireLoader f generation loader).1 := by
  cases hf : h.frame? f with
  | none =>
    rw [retireLoader_of_none hf]
    exact hushes_of_frames rfl fun _ _ hid => hid
  | some frame =>
    rcases retireLoader_cases hf generation loader with ⟨-, hsame⟩ | ⟨-, hs, hpage, -⟩
    · rw [hsame]
      exact hushes_of_frames rfl fun _ _ hid => hid
    · refine hushes_of_sets hf hs ⟨rfl, rfl, rfl, rfl, rfl⟩ ?_
      rw [hpage]
      exact (Page.redraws_remove loader).listeners

/-- Whatever happens to the page apart from the moves of frames lets no frame listen. -/
theorem hushes_edit (e : Page.Edit) : h.Hushes (h.move (.page e)) := by
  refine hushes_of_frames rfl fun id f hid => ?_
  change (h.page.edit e).listeners.get? id = _ at hid
  cases e with
  | addListener cb =>
    -- A listener of the host is none of a frame.
    change (h.page.listeners.insert (h.page.lastId + 1) (.host cb)).get? id = _ at hid
    rw [Table.get?_insert] at hid
    split at hid
    · cases hid
    · exact hid
  | removeListener l =>
    change (h.page.listeners.erase l).get? id = _ at hid
    rw [Table.get?_erase] at hid
    split at hid
    · cases hid
    · exact hid
  | wrap domId style children =>
    exact (Page.redraws_createContainer (p := h.page) domId style children).listeners ▸ hid
  | remove n => exact (Page.redraws_remove (p := h.page) n).listeners ▸ hid
  | _ => exact hid

/-- Only a load event lets a frame begin to listen. -/
theorem hushes_move (hm : ∀ f generation, m ≠ .connect f generation) : h.Hushes (h.move m) := by
  cases m with
  | connect f generation => exact absurd rfl (hm f generation)
  | page e => exact hushes_edit e
  | cache | openChannel | setCheck | endAborted | setGate | newBus | setBus =>
    exact hushes_of_frames rfl fun _ _ hid => hid
  | newFrame checks =>
    -- A blank frame is deaf.
    exact hushes_of_added rfl ⟨rfl, rfl, fun hmounted => by cases hmounted⟩ rfl
  | enroll frameId =>
    show h.Hushes (h.registered frameId).1
    unfold registered
    split
    · exact hushes_of_frames rfl fun _ _ hid => hid
    · exact hushes_of_added rfl ⟨rfl, rfl, fun hmounted => by cases hmounted⟩ rfl
  | mount f config => exact hushes_mount f config
  | destroy f => exact hushes_destroy f
  | showContent f => exact hushes_showContent f
  | patch f config =>
    cases hf : h.frame? f with
    | none => exact hushes_of_frames (frames_modifyFrame_of_none hf _) fun _ _ hid => hid
    | some frame =>
      exact hushes_of_sets hf (sets_modifyFrame hf _) ⟨rfl, rfl, rfl, rfl, rfl⟩ rfl
  | registerCommand f name cb => exact hushes_registerCommand f name cb
  | execute r task responder => exact hushes_execute r task responder
  | reply r data => exact hushes_reply r data
  | postNext r => exact hushes_postNext r
  | fade f generation loader =>
    show h.Hushes (h.fadeLoader f generation loader)
    rcases h.fadeLoader_cases f generation loader with hfade | ⟨frame, -, -, hfade⟩ <;> rw [hfade] <;>
      exact hushes_of_frames rfl fun _ _ hid => hid
  | retire f generation loader => exact hushes_retire f generation loader
  | failCheck c e =>
    show h.Hushes (h.failCheck c e).1
    rcases h.failCheck_cases c e with hfail | ⟨frame, page, -, -, hpage, hfail⟩
    · rw [hfail]
      exact hushes_of_frames rfl fun _ _ hid => hid
    · rw [hfail]
      rcases hpage with ⟨-, rfl⟩ | ⟨nodes, document, -, rfl⟩ <;>
        exact hushes_of_frames rfl fun _ _ hid => hid

/-- A turn keeps the frame ID of a frame that is connected after it, unless a configuration is laid
over that of the frame. -/
theorem Turn.frameId_of_connected (ht : h.Turn f frame m frame') (hpatch : m.isPatch = false)
    (hconnected : frame'.bus.connected = true) : frame'.frameId = frame.frameId := by
  cases ht with
  | goesOn hgoes => exact congrArg Config.frameId hgoes.config
  | patched => cases hpatch
  | retired => rfl
  | unplaced | placed | destroyed => cases hconnected

/-- Nobody gets connected, and nobody who is gets another frame ID, but by a load event or by a
configuration without a mount. -/
theorem connectedAs_move (hm : ∀ f generation, m ≠ .connect f generation)
    (hpatch : m.isPatch = false) (hf : (h.move m).ConnectedAs f frameId) :
    h.ConnectedAs f frameId := by
  obtain ⟨frame', hf', hregisters, hconnected, hid⟩ := hf
  rcases (hushes_move hm).frames f frame' hf' with ⟨frame, hframe, hsame⟩ | hdeaf
  · obtain ⟨frame₁, hframe₁, ht⟩ := (turns_move m).turn f frame hframe
    cases hf'.symm.trans hframe₁
    have hkept := ht.frameId_of_connected hpatch hconnected
    exact ⟨frame, hframe, hsame.registers ▸ hregisters, hsame.connected ▸ hconnected,
      hkept ▸ hid⟩
  · rw [hdeaf.connected] at hconnected
    cases hconnected

/-! ## Load events -/

/-- A load event connects the frame: it belongs to the mount of the frame, which waits for it. -/
structure Connects (h : Host) (f : FrameRef) (generation : ℕ) (frame : Frame) : Prop where
  found : h.frame? f = some frame
  generation : frame.generation = generation
  phase : frame.phase = .initializing ∨ frame.phase = .loaded

/-- A load event connects its frame, if it does anything. -/
theorem connect_spec (f : FrameRef) (generation : ℕ) :
    (h.connect f generation).1 = h ∨
      ∃ frame frame', h.Connects f generation frame ∧
        h.Sets (h.connect f generation).1 f frame' ∧
        frame.Connected frame' (h.page.lastId + 1) ∧
        (h.connect f generation).1.page =
          (h.page.addListener (.frame f)).1.removeListener? frame.listener := by
  cases hf : h.frame? f with
  | none =>
    rw [connect_of_none hf]
    exact .inl rfl
  | some frame =>
    rcases connect_cases hf generation with ⟨-, hsame⟩ | ⟨hg, phase, hphase, hs, hpage, -⟩
    · exact .inl hsame
    · -- The phases in which a load connects are those of a mount.
      have hmounted := isMounted_of_connects hphase
      refine .inr ⟨frame, _, ⟨hf, hg, hphase.imp And.left And.left⟩, hs, ?_, hpage⟩
      exact ⟨rfl, rfl, hmounted, rfl, rfl, rfl⟩

/-- A frame that is connected by its load is mounted. -/
theorem Connects.isMounted {generation : ℕ} (hc : h.Connects f generation frame) :
    frame.phase.isMounted = true := by
  rcases hc.phase with hphase | hphase <;> rw [hphase] <;> rfl

/-- A load event that connects a frame is not in vain. -/
theorem Connects.connect {generation : ℕ} (hc : h.Connects f generation frame) :
    ∃ frame', h.Sets (h.connect f generation).1 f frame' ∧
      frame.Connected frame' (h.page.lastId + 1) := by
  rcases connect_cases hc.found generation with ⟨hnot, -⟩ | ⟨-, phase, hphase, hs, -⟩
  · obtain ⟨hinitializing, hloaded⟩ := hnot hc.generation
    exact (hc.phase.elim hinitializing hloaded).elim
  · exact ⟨_, hs, rfl, rfl, isMounted_of_connects hphase, rfl, rfl, rfl⟩

/-- A load event keeps the host tuned: the frame begins to listen and is connected at once. -/
theorem Tuned.connect (ht : h.Tuned) (f : FrameRef) (generation : ℕ) :
    (h.connect f generation).1.Tuned := by
  rcases connect_spec (h := h) f generation with
    hsame | ⟨frame, frame', hc, hs, hconnected, hpage⟩
  · rw [hsame]
    exact ht
  have hf := hc.found
  -- The frame is mounted, so its bus has a target and connects.
  have htarget : frame.bus.target.isSome = true := ht.target f frame hf hc.isMounted
  refine ⟨fun f' fr hfr => ?_, fun f' fr hfr hmounted => ?_, fun id f' hid => ?_⟩
  · by_cases heq : f' = f
    · subst heq
      cases hs.frame?.symm.trans hfr
      rw [hconnected.connected, hconnected.listener, htarget]
      rfl
    · exact ht.listening f' fr ((hs.frame?_of_ne heq).symm.trans hfr)
  · by_cases heq : f' = f
    · subst heq
      cases hs.frame?.symm.trans hfr
      rw [hconnected.target]
      exact htarget
    · exact ht.target f' fr ((hs.frame?_of_ne heq).symm.trans hfr) hmounted
  · -- The new listener is that of the frame; its old one, if it had one, is gone.
    have hadded : (h.page.addListener (.frame f)).1.listeners.get? id = some (.frame f') ∧
        frame.listener ≠ some id := by
      rw [hpage] at hid
      cases hl : frame.listener with
      | none =>
        rw [hl] at hid
        exact ⟨hid, fun hsome => by cases hsome⟩
      | some l =>
        rw [hl] at hid
        change ((h.page.addListener (.frame f)).1.listeners.erase l).get? id = _ at hid
        rw [Table.get?_erase] at hid
        split at hid
        · cases hid
        · next hne => exact ⟨hid, fun hsome => hne (Option.some.inj hsome).symm⟩
    obtain ⟨hadded, hgone⟩ := hadded
    change (h.page.listeners.insert (h.page.lastId + 1) (.frame f)).get? id = _ at hadded
    rw [Table.get?_insert] at hadded
    split at hadded
    · next hnew =>
      cases hadded
      exact ⟨frame', hs.frame?, hnew ▸ hconnected.listener⟩
    · obtain ⟨fr, hfr, hl⟩ := ht.recorded id f' hadded
      have hne : f' ≠ f := by
        rintro rfl
        cases hf.symm.trans hfr
        exact hgone hl
      exact ⟨fr, (hs.frame?_of_ne hne).trans hfr, hl⟩

/-- A host stays tuned in every move. -/
theorem Tuned.move (ht : h.Tuned) (m : Move) : (h.move m).Tuned := by
  by_cases hm : ∃ f generation, m = .connect f generation
  · obtain ⟨f, generation, rfl⟩ := hm
    exact ht.connect f generation
  · exact (hushes_move fun f generation heq => hm ⟨f, generation, heq⟩).tuned ht

end Host

namespace Session

open Host (Reaches ConnectedAs Connects Tuned OneReceiver)
open Host.Move (ActsOn)

variable {s : Session} {f g : FrameRef} {frameId frameId' : String} {job : Job} {jobs : List Job}

/-! ## Adopting a frame ID -/

/-- With the next job, a frame that takes part in the registry adopts a frame ID: it connects under
it, or a configuration gives it to the frame while that is connected. -/
inductive Adopts (s : Session) (f : FrameRef) : String → Prop where
  | connected {generation : ℕ} {frame : Frame} {jobs : List Job}
    (hagenda : s.agenda = .loaded (.connect f generation) :: jobs) (hlive : s.isLive f = true)
    (hconnects : s.host.Connects f generation frame) (hregisters : frame.registers = true) :
    Adopts s f frame.frameId
  | renamed {patch : Config} {frame : Frame} (hconfigures : s.Configures f patch)
    (hframe : s.host.frame? f = some frame) (hregisters : frame.registers = true)
    (hconnected : frame.bus.connected = true) (hrenamed : frame.RenamedBy patch) :
    Adopts s f (frame.config.merged patch).frameId

/-- A load event that reaches a frame in use is a move, and comes to nothing otherwise. -/
theorem step_loaded {generation : ℕ} (hagenda : s.agenda = .loaded (.connect f generation) :: jobs) :
    s.step.host = if s.isLive f then (s.host.connect f generation).1 else s.host := by
  rw [step_cons hagenda]
  show (Session.runLoadHook _ (.connect f generation)).host = _
  unfold runLoadHook
  dsimp only
  rw [isLive_tail hagenda rfl]
  split <;> rfl

/-- A step configures one frame at most. -/
theorem Configures.frame_unique {patch patch' : Config} (hc : s.Configures f patch)
    (hc' : s.Configures g patch') : f = g := by
  unfold Configures at hc hc'
  split at hc
  · next hagenda =>
    rw [hagenda] at hc'
    exact Option.some.inj (hc.1.symm.trans hc'.1)
  · next hagenda =>
    rw [hagenda] at hc'
    exact Option.some.inj (hc.1.symm.trans hc'.1)
  · next hagenda =>
    rw [hagenda] at hc'
    exact hc.1.symm.trans hc'.1
  · exact hc.elim

/-- One frame at a time adopts a frame ID. -/
theorem Adopts.frame_unique (ha : s.Adopts f frameId) (ha' : s.Adopts g frameId') : f = g := by
  -- A load event is no configuration, so the two ways exclude each other.
  have hmixed : ∀ {f g generation jobs patch},
      s.agenda = .loaded (.connect f generation) :: jobs → ¬ s.Configures g patch := by
    intro f g generation jobs patch hagenda hc
    unfold Configures at hc
    rw [hagenda] at hc
    exact hc
  cases ha with
  | connected hagenda =>
    cases ha' with
    | connected hagenda' =>
      rw [hagenda] at hagenda'
      cases hagenda'
      rfl
    | renamed hc' => exact absurd hc' (hmixed hagenda)
  | renamed hc =>
    cases ha' with
    | connected hagenda' => exact absurd hc (hmixed hagenda')
    | renamed hc' => exact hc.frame_unique hc'

/-- A frame that adopts a frame ID is connected under it, and the others stay connected. -/
theorem Adopts.step (ht : s.host.Tuned) (ha : s.Adopts f frameId) :
    s.step.host.ConnectedAs f frameId ∧
      ∀ g frameId', g ≠ f → s.host.ConnectedAs g frameId' → s.step.host.ConnectedAs g frameId' := by
  -- Either way one frame is set, connected and under the new ID.
  obtain ⟨frame', hs, hregisters, hconnected, hid⟩ : ∃ frame', s.host.Sets s.step.host f frame' ∧
      frame'.registers = true ∧ frame'.bus.connected = true ∧ frame'.frameId = frameId := by
    cases ha with
    | connected hagenda hlive hc hregisters =>
      obtain ⟨frame', hs, hconnected⟩ := hc.connect
      rw [step_loaded hagenda, if_pos hlive]
      refine ⟨frame', hs, hconnected.registers.trans hregisters, ?_, hconnected.frameId⟩
      rw [hconnected.connected]
      exact ht.target f _ hc.found hc.isMounted
    | renamed hc hf hregisters hconnected hrenamed =>
      rw [hc.step_host]
      rcases Host.configure_cases hf _ with ⟨hreload, -⟩ | ⟨-, bus, -, hs, hline, -⟩
      · -- A frame that is mounted again is not renamed in this sense.
        rw [hrenamed.1] at hreload
        cases hreload
      · exact ⟨_, hs, hregisters, hline.connected.trans hconnected, rfl⟩
  refine ⟨⟨frame', hs.frame?, hregisters, hconnected, hid⟩, fun g frameId' hne hg => ?_⟩
  obtain ⟨fr, hfr, hrest⟩ := hg
  exact ⟨fr, (hs.frame?_of_ne hne).trans hfr, hrest⟩

/-- Who is connected after a step was connected before it under the same frame ID, or adopts the
frame ID with the step. -/
theorem connectedAs_of_step (hf : s.step.host.ConnectedAs f frameId) :
    s.host.ConnectedAs f frameId ∨ s.Adopts f frameId := by
  -- Moves that neither connect nor patch take no frame ID up.
  have hquiet : ∀ kind : Host.Move → Prop,
      (∀ m, kind m → (∀ f generation, m ≠ .connect f generation) ∧ m.isPatch = false) →
      Reaches kind s.host s.step.host → s.host.ConnectedAs f frameId := by
    intro kind hkind hreaches
    have hback := hreaches.preserves
      (P := fun h => h.ConnectedAs f frameId → s.host.ConnectedAs f frameId)
      (fun h m hm ih hc => ih (Host.connectedAs_move (hkind m hm).1 (hkind m hm).2 hc)) id
    exact hback hf
  cases hagenda : s.agenda with
  | nil =>
    rw [step_nil hagenda] at hf
    exact .inl hf
  | cons job jobs =>
    by_cases hconfigures : job.configures = true
    · rcases step_cases_of_configures hagenda hconfigures with ⟨g, patch, hc⟩ | ⟨g, hreaches⟩
      · -- A configuration is laid over that of a frame `g`.
        rw [hc.step_host] at hf
        cases hg : s.host.frame? g with
        | none =>
          rw [Host.configure_of_none hg] at hf
          exact .inl hf
        | some frame =>
          rcases Host.configure_cases hg patch with ⟨-, hmount⟩ | ⟨hreload, bus, -, hs, hline, -⟩
          · rw [hmount] at hf
            exact .inl (Host.connectedAs_move (fun _ _ heq => by cases heq) rfl hf)
          · obtain ⟨frame', hframe', hregisters, hconnected, hid⟩ := hf
            by_cases heq : f = g
            · subst heq
              cases hs.frame?.symm.trans hframe'
              -- The patched frame was connected before; it adopts the ID if it had another.
              have hbefore : frame.bus.connected = true := hline.connected ▸ hconnected
              by_cases hsame : (frame.config.merged patch).frameId = frame.frameId
              · exact .inl ⟨frame, hg, hregisters, hbefore, hsame.symm.trans hid⟩
              · subst hid
                exact .inr (.renamed hc hg hregisters hbefore ⟨hreload, hsame⟩)
            · rw [hs.frame?_of_ne heq] at hframe'
              exact .inl ⟨frame', hframe', hregisters, hconnected, hid⟩
      · refine .inl (hquiet _ (fun m hm => ⟨fun f' generation heq => ?_, hm.2⟩) hreaches)
        rw [heq] at hm
        exact hm.1
    by_cases hloads : ∃ g generation, job = .loaded (.connect g generation)
    · obtain ⟨g, generation, rfl⟩ := hloads
      rw [step_loaded hagenda] at hf
      split at hf
      · -- A load event may connect `g`, under the frame ID that it has.
        next hlive =>
        rcases Host.connect_spec (h := s.host) g generation with
          hsame | ⟨frame, frame', hc, hs, hconnected, -⟩
        · rw [hsame] at hf
          exact .inl hf
        · obtain ⟨fr, hfr, hregisters, hfrConnected, hid⟩ := hf
          by_cases heq : f = g
          · subst heq
            cases hs.frame?.symm.trans hfr
            have hframe : frame.registers = true := hconnected.registers ▸ hregisters
            rw [← hid, hconnected.frameId]
            exact .inr (.connected hagenda hlive hc hframe)
          · rw [hs.frame?_of_ne heq] at hfr
            exact .inl ⟨fr, hfr, hregisters, hfrConnected, hid⟩
      · exact .inl hf
    · -- The moves of any other job connect nobody and rename nobody.
      refine .inl (hquiet _ (fun m hm => ⟨fun g generation heq => ?_, ?_⟩) (step_reaches hagenda))
      · rw [heq] at hm
        exact hloads ⟨g, generation, hm⟩
      · cases m with
        | patch => exact absurd hm hconfigures
        | _ => rfl

/-! ## Runs -/

/-- A host is tuned in every state of a run. -/
theorem tuned_after (hs : s.host.Tuned) (as : List Action) (i : ℕ) : (s.after as i).host.Tuned := by
  obtain ⟨ms, hms⟩ := s.host_after as i
  have hreaches : Reaches (fun _ => True) s.host (s.after as i).host :=
    ⟨ms, fun _ _ => trivial, hms⟩
  exact hreaches.preserves (fun h m _ ht => ht.move m) hs

/-- A session starts tuned. -/
theorem tuned_start (origin : String) (allowList : Option AllowList) (defaults : Config)
    (runtime : Bool) (scripts : List (List Action)) :
    (start origin allowList defaults runtime scripts).host.Tuned where
  listening f frame hf := by cases hf
  target f frame hf := by cases hf
  recorded id f hid := by cases hid

/-- Up to the end of a run every message has one receiver at most, exactly if no frame adopts a frame
ID under which another one is connected. -/
theorem oneReceiver_iff (origin : String) (allowList : Option AllowList) (defaults : Config)
    (runtime : Bool) (scripts : List (List Action)) (as : List Action) (i : ℕ) :
    let s := start origin allowList defaults runtime scripts
    (∀ j ≤ i, (s.after as j).host.OneReceiver) ↔
      ∀ j < i, ∀ f g frameId, (s.after as j).Adopts f frameId →
        (s.after as j).host.ConnectedAs g frameId → f = g := by
  intro s
  have htuned : ∀ j, (s.after as j).host.Tuned := tuned_after (tuned_start ..) as
  constructor
  · -- Both are connected with that frame ID in the next state.
    intro hall j hj f g frameId ha hg
    by_contra hne
    obtain ⟨hf', hothers⟩ := ha.step (htuned j)
    have hg' := hothers g frameId (Ne.symm hne) hg
    have hnext : s.after as (j + 1) = (s.after as j).step := by
      refine after_succ_of_ne_nil fun hnil => ?_
      cases ha with
      | connected hagenda =>
        rw [hagenda] at hnil
        cases hnil
      | renamed hc => exact hc.agenda_ne_nil hnil
    rw [← hnext] at hf' hg'
    exact hne ((hall (j + 1) hj).ids f g frameId hf' hg')
  · -- By induction on the states.
    intro hnone j hj
    rw [(htuned j).oneReceiver_iff_connectedAs]
    induction j with
    | zero =>
      rintro f g frameId ⟨frame, hf, -⟩
      cases hf
    | succ j ih =>
      -- Before the step no two frames are connected with one frame ID.
      have hids := ih (Nat.le_of_succ_le hj)
      have hkept : ∀ h : Host, h.frames = (s.after as j).host.frames →
          ∀ f g frameId, h.ConnectedAs f frameId → h.ConnectedAs g frameId → f = g := by
        intro h hframes f g frameId hf hg
        have hsame : ∀ f, h.frame? f = (s.after as j).host.frame? f := fun f => by
          unfold Host.frame?
          rw [hframes]
        obtain ⟨frame, hframe, hrest⟩ := hf
        obtain ⟨frame', hframe', hrest'⟩ := hg
        exact hids f g frameId ⟨frame, hsame f ▸ hframe, hrest⟩ ⟨frame', hsame g ▸ hframe', hrest'⟩
      rcases after_succ s as j with ⟨-, h⟩ | ⟨a, -, -, h⟩ | ⟨-, h⟩
      · rw [h]
        intro f g frameId hf hg
        rcases connectedAs_of_step hf with hf | hf <;> rcases connectedAs_of_step hg with hg | hg
        · exact hids f g frameId hf hg
        · -- One of the two was so before and the other adopts the ID in this step.
          exact (hnone j hj g f frameId hg hf).symm
        · exact hnone j hj f g frameId hf hg
        · exact hf.frame_unique hg
      · rw [h]
        exact hkept _ rfl
      · rw [h]
        exact hkept _ rfl

/-- A configuration with a frame ID, without a loader and a check. -/
def slotted (frameId : String) : Config :=
  Config.ofFields
    [("frameId", .string frameId), ("src", .string "https://app.example.com"),
      ("checkCSP", .bool false), ("noLoader", .bool true)]

/-- The reply that the application sends to the frame `f`. -/
def replyToF : Value :=
  .object [("frameId", .string "f"), ("type", .string "onMethodReturn"),
    ("methodReturnData", .int 1)]

/-- Two frames are connected; the second is renamed to the frame ID of the first, and then one reply
arrives. -/
def renamedOntoAnother : List Action :=
  [.page (.insert "f" "slot"), .page (.insert "g" "slot"),
    .frame (.openFrame "A" none (.ok (slotted "f"))),
    .frame (.openFrame "B" none (.ok (slotted "g"))),
    .page (.fireLoad (.iframeOf "A")), .page (.fireLoad (.iframeOf "B")),
    .frame (.configure "B" (.ok (Config.ofFields [("frameId", .string "f")])) "b"),
    .frame (.call "A" .getUserInfo "a"),
    .page (.dispatchJson replyToF)]

/-- Both frames are connected as `f`, each with a call that waits, and the one reply answers both
calls. -/
theorem one_reply_for_two_frames :
    let s := start "https://host.example.com" none Config.empty false []
    let t := s.after renamedOntoAnother 28
    let u := s.after renamedOntoAnother 37
    t.agenda = [] ∧ t.host.ConnectedAs 0 "f" ∧ t.host.ConnectedAs 1 "f" ∧ ¬ t.host.OneReceiver ∧
      t.host.replies.keys = [] ∧ u.agenda = [] ∧
      u.host.replies.entries.map (fun reply => (reply.1, reply.2.text)) = [(2, "1"), (1, "1")] := by
  intro s t u
  have hbefore : (t.agenda.isEmpty, t.host.replies.keys) = (true, []) := by decide +kernel
  have hafter : (u.agenda.isEmpty,
      u.host.replies.entries.map fun reply => (reply.1, reply.2.text)) =
        (true, [(2, "1"), (1, "1")]) := by decide +kernel
  have hframe : ∀ f < 2, (t.host.frame? f).map (fun frame =>
      (frame.registers, frame.bus.connected, frame.frameId)) = some (true, true, "f") := by
    decide +kernel
  -- The two states are evaluated once, and only what was read off is used.
  clear_value t u
  simp only [Prod.mk.injEq, List.isEmpty_iff] at hbefore hafter
  have hconnected : ∀ f < 2, t.host.ConnectedAs f "f" := by
    intro f hlt
    obtain ⟨frame, hf, hfields⟩ := Option.map_eq_some_iff.mp (hframe f hlt)
    simp only [Prod.mk.injEq] at hfields
    exact ⟨frame, hf, hfields⟩
  have hfirst := hconnected 0 (by decide)
  have hsecond := hconnected 1 (by decide)
  have hnot : ¬ t.host.OneReceiver := fun h => absurd (h.ids 0 1 "f" hfirst hsecond) (by decide)
  exact ⟨hbefore.1, hfirst, hsecond, hnot, hbefore.2, hafter⟩

end Session

end FrameHost
