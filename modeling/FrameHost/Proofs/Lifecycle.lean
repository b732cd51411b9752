import FrameHost.Proofs.BusEvents
import FrameHost.Proofs.Pages

/-!
# The life of a frame

Phase, nodes, bus and listener of a frame are changed one after the other, and by different
operations; between operations they agree (`Frame.Sound`), and the listeners of the page are those
that the frames have recorded. What waits for an iframe to load belongs to a mount: the iframe of a
frame that is not connected has a hook that connects it. All of this is one invariant of a host
(`Coherent`), relative to which load events have happened; every move keeps it but for the load event
itself and the hook that follows it, which have statements of their own.
-/

namespace FrameHost

open Json (Value)

/-! ## The invariant -/

/-- The parts of a frame agree with one another. -/
structure Frame.Sound (frame : Frame) : Prop where
  mounted : frame.phase.isMounted = frame.nodes.isSome
  target : frame.bus.target.map Target.iframe = frame.iframe?
  listening : frame.bus.connected = frame.listener.isSome
  connected : frame.phase = .connected → frame.bus.connected = true
  phase : frame.bus.connected = true → frame.phase = .connected ∨ frame.phase = .loaded
  idle : frame.bus.target = none → frame.bus.pending = [] ∧ frame.bus.deferred = []

/-- A connected frame has an iframe. -/
theorem Frame.Sound.exists_iframe {frame : Frame} (hs : frame.Sound)
    (hconnected : frame.bus.connected = true) : ∃ n, frame.iframe? = some n := by
  have hmounted : frame.nodes.isSome = true := by
    rw [← hs.mounted]
    rcases hs.phase hconnected with hphase | hphase <;> rw [hphase] <;> rfl
  obtain ⟨nodes, hnodes⟩ := Option.isSome_iff_exists.mp hmounted
  refine ⟨nodes.iframe, ?_⟩
  unfold Frame.iframe?
  rw [hnodes]
  rfl

/-- The mount of a frame goes on as it was. -/
structure Frame.Alike (frame frame' : Frame) : Prop where
  listener : frame'.listener = frame.listener
  iframe : frame'.iframe? = frame.iframe?
  generation : frame'.generation = frame.generation
  connected : frame'.bus.connected = frame.bus.connected

/-- Frames and page of a host agree, if the load events in `delivered` have happened. Nothing is said
about the loading of the frames in `exempt`. -/
structure Host.Coherent (delivered : FrameRef → NodeId → Prop) (exempt : FrameRef → Prop)
    (h : Host) : Prop where
  sound : ∀ f frame, h.frame? f = some frame → frame.Sound
  listeners : ∀ id f, h.page.listeners.get? id = some (.frame f) ↔
    ∃ frame, h.frame? f = some frame ∧ frame.listener = some id
  listener_le : ∀ id l, h.page.listeners.get? id = some l → id ≤ h.page.lastId
  iframe_le : ∀ f frame n, h.frame? f = some frame → frame.iframe? = some n → n ≤ h.page.lastId
  hook_le : ∀ n hooks, h.page.loads.get? n = some hooks → n ≤ h.page.lastId
  /-- A hook connects a frame, and sits at its iframe unless the frame was mounted again. -/
  hook : ∀ n hooks, h.page.loads.get? n = some hooks → ∃ f g frame, hooks = [.connect f g] ∧
    h.frame? f = some frame ∧ g ≤ frame.generation ∧
      (g = frame.generation → frame.iframe? = some n)
  delivered_le : ∀ f n, delivered f n → n ≤ h.page.lastId
  /-- A mounted frame is connected and its iframe has loaded, or its hook waits for that. -/
  loading : ∀ f frame n, h.frame? f = some frame → frame.iframe? = some n → ¬ exempt f →
    (frame.bus.connected = true ∧ delivered f n ∧ h.page.loads.get? n = none) ∨
      (frame.bus.connected = false ∧ ¬ delivered f n ∧
        h.page.loads.get? n = some [.connect f frame.generation])

namespace Host

variable {delivered : FrameRef → NodeId → Prop} {exempt : FrameRef → Prop} {h h' : Host}
  {f : FrameRef} {frame frame' : Frame}

/-! ## Sound frames -/

/-- A frame that has let go of its nodes is sound in every phase without a mount. -/
theorem sound_released {config : Config} {phase : Phase} (hphase : phase.isMounted = false)
    (frame : Frame) : Frame.Sound { frame.released with config, phase } := by
  refine ⟨hphase, rfl, rfl, fun h => ?_, fun h => absurd h Bool.noConfusion, fun _ => ⟨rfl, rfl⟩⟩
  dsimp only at h
  rw [h] at hphase
  cases hphase

/-- A frame is sound once its nodes are installed. -/
theorem sound_installed (className : String) (check : Option ℕ) (nodes : Mounted) (source : String)
    (config : Config) : ((frame.renewed config).installed className check nodes source).Sound :=
  ⟨rfl, rfl, rfl, fun h => Phase.noConfusion h, fun h => absurd h Bool.noConfusion,
    fun h => absurd h (Option.some_ne_none _)⟩

/-- A sound frame stays sound when its content is shown. -/
theorem sound_shown (hs : frame.Sound) (hmounted : frame.phase.isMounted = true) :
    Frame.Sound { frame with phase := .loaded } :=
  ⟨hmounted.symm.trans hs.mounted, hs.target, hs.listening, fun h => Phase.noConfusion h,
    fun _ => .inr rfl, hs.idle⟩

/-- A bus that keeps its target and its connection, and has calls only with a target. -/
theorem sound_bus (hs : frame.Sound) {bus : Bus} (htarget : bus.target = frame.bus.target)
    (hconnected : bus.connected = frame.bus.connected)
    (hidle : bus.target = none → bus.pending = [] ∧ bus.deferred = []) :
    Frame.Sound { frame with bus } := by
  refine ⟨hs.mounted, ?_, ?_, fun h => ?_, fun h => ?_, hidle⟩
  · exact (congrArg (Option.map Target.iframe) htarget).trans hs.target
  · exact hconnected.trans hs.listening
  · exact hconnected.trans (hs.connected h)
  · exact hs.phase (hconnected.symm.trans h)

/-- A change of the bus that keeps it connected or not makes no difference to the frame's lifecycle.
-/
theorem alike_bus {bus : Bus} (hconnected : bus.connected = frame.bus.connected) :
    frame.Alike { frame with bus } := ⟨rfl, rfl, rfl, hconnected⟩

/-! ## Changes that keep it -/

/-- Frames change while their mounts go on, and frames that were never mounted are added. -/
theorem Coherent.of_alike (hc : h.Coherent delivered exempt)
    (hkept : ∀ f frame, h.frame? f = some frame →
      ∃ frame', h'.frame? f = some frame' ∧ frame.Alike frame')
    (hfrom : ∀ f frame', h'.frame? f = some frame' → frame'.Sound ∧
      ((∃ frame, h.frame? f = some frame ∧ frame.Alike frame') ∨
        frame'.listener = none ∧ frame'.iframe? = none))
    (hpage : h.page.Redraws h'.page) : h'.Coherent delivered exempt := by
  have hlast := hpage.lastId
  refine ⟨fun f frame' hf' => ?_, fun id f => ?_, fun id l hl => ?_, fun f frame' n hf' hn => ?_,
    fun n hooks hn => ?_, fun n hooks hn => ?_, fun f n hd => ?_, fun f frame' n hf' hn hx => ?_⟩
  · exact (hfrom f frame' hf').1
  · -- The listeners stay, and each belongs to a frame that has kept its own.
    rw [hpage.listeners, hc.listeners]
    constructor
    · rintro ⟨frame, hf, hid⟩
      obtain ⟨frame', hf', hlike⟩ := hkept f frame hf
      exact ⟨frame', hf', hlike.listener.trans hid⟩
    · rintro ⟨frame', hf', hid⟩
      obtain ⟨-, ⟨frame, hf, hlike⟩ | ⟨hnone, -⟩⟩ := hfrom f frame' hf'
      · exact ⟨frame, hf, hlike.listener.symm.trans hid⟩
      · rw [hnone] at hid
        cases hid
  · rw [hpage.listeners] at hl
    exact Nat.le_trans (hc.listener_le id l hl) hlast
  · obtain ⟨-, ⟨frame, hf, hlike⟩ | ⟨-, hnone⟩⟩ := hfrom f frame' hf'
    · exact Nat.le_trans (hc.iframe_le f frame n hf (hlike.iframe.symm.trans hn)) hlast
    · rw [hnone] at hn
      cases hn
  · rw [hpage.loads] at hn
    exact Nat.le_trans (hc.hook_le n hooks hn) hlast
  · rw [hpage.loads] at hn
    -- The owner of a hook has kept its generation and its iframe.
    obtain ⟨f, g, frame, hhooks, hf, hle, hat⟩ := hc.hook n hooks hn
    obtain ⟨frame', hf', hlike⟩ := hkept f frame hf
    refine ⟨f, g, frame', hhooks, hf', hlike.generation ▸ hle, fun heq => ?_⟩
    exact hlike.iframe.trans (hat (heq.trans hlike.generation))
  · exact Nat.le_trans (hc.delivered_le f n hd) hlast
  · obtain ⟨-, ⟨frame, hf, hlike⟩ | ⟨-, hnone⟩⟩ := hfrom f frame' hf'
    · -- What a loading frame owes reads only what is kept.
      rw [hpage.loads, hlike.connected, hlike.generation]
      exact hc.loading f frame n hf (hlike.iframe.symm.trans hn) hx
    · rw [hnone] at hn
      cases hn

/-- Other frames are exempt: those that are not exempt now were not before. -/
theorem Coherent.exempting {exempt' : FrameRef → Prop} (hc : h.Coherent delivered exempt)
    (hx : ∀ f frame n, h.frame? f = some frame → frame.iframe? = some n → ¬ exempt' f → ¬ exempt f) :
    h.Coherent delivered exempt' :=
  ⟨hc.sound, hc.listeners, hc.listener_le, hc.iframe_le, hc.hook_le, hc.hook, hc.delivered_le,
    fun f frame n hf hn hnot => hc.loading f frame n hf hn (hx f frame n hf hn hnot)⟩

/-- A frame changes, and its mount goes on. -/
theorem Coherent.of_frame (hc : h.Coherent delivered exempt) (hf : h.frame? f = some frame)
    (hs : h.Sets h' f frame') (hsound : frame'.Sound) (hlike : frame.Alike frame')
    (hpage : h.page.Redraws h'.page) : h'.Coherent delivered exempt := by
  refine hc.of_alike (fun f' fr hfr => ?_) (fun f' fr' hfr' => ?_) hpage
  · -- Forwards: the frame that is set has kept what counts, the others everything.
    by_cases heq : f' = f
    · subst heq
      rw [hf] at hfr
      cases hfr
      exact ⟨frame', hs.frame?, hlike⟩
    · exact ⟨fr, (hs.frame?_of_ne heq).trans hfr, rfl, rfl, rfl, rfl⟩
  · -- Backwards: every frame there is comes from one that was there.
    rw [hs f'] at hfr'
    split at hfr'
    · next heq =>
      cases hfr'
      exact ⟨hsound, .inl ⟨frame, heq ▸ hf, hlike⟩⟩
    · exact ⟨hc.sound f' fr' hfr', .inl ⟨fr', hfr', rfl, rfl, rfl, rfl⟩⟩

/-- No frame changes. -/
theorem Coherent.of_page (hc : h.Coherent delivered exempt) (hframes : h'.frames = h.frames)
    (hpage : h.page.Redraws h'.page) : h'.Coherent delivered exempt := by
  have hframe : ∀ f', h'.frame? f' = h.frame? f' := by
    intro f'
    unfold Host.frame?
    rw [hframes]
  refine hc.of_alike (fun f' fr hfr => ?_) (fun f' fr hfr => ?_) hpage
  · exact ⟨fr, (hframe f').trans hfr, rfl, rfl, rfl, rfl⟩
  · rw [hframe] at hfr
    exact ⟨hc.sound f' fr hfr, .inl ⟨fr, hfr, rfl, rfl, rfl, rfl⟩⟩

/-- A frame is added. -/
theorem Coherent.of_added (hc : h.Coherent delivered exempt)
    (hframes : h'.frames = h.frames ++ [frame]) (hsound : frame.Sound)
    (hlistener : frame.listener = none) (hiframe : frame.iframe? = none)
    (hpage : h.page.Redraws h'.page) : h'.Coherent delivered exempt := by
  have hframe : ∀ f', h'.frame? f' = (h.frames ++ [frame])[f']? := by
    intro f'
    unfold Host.frame?
    rw [hframes]
  refine hc.of_alike (fun f' fr hfr => ?_) (fun f' fr hfr => ?_) hpage
  · refine ⟨fr, ?_, rfl, rfl, rfl, rfl⟩
    obtain ⟨hlt, -⟩ := List.getElem?_eq_some_iff.mp hfr
    rw [hframe, List.getElem?_append_left hlt]
    exact hfr
  · rw [hframe, List.getElem?_append] at hfr
    split at hfr
    · exact ⟨hc.sound f' fr hfr, .inl ⟨fr, hfr, rfl, rfl, rfl, rfl⟩⟩
    · -- Beyond the old frames there is the added one alone.
      rw [List.getElem?_singleton] at hfr
      split at hfr
      · cases hfr
        exact ⟨hsound, .inr ⟨hlistener, hiframe⟩⟩
      · cases hfr

/-- Removing a listener takes away that one. -/
theorem get?_removeListener? (p : Page) (l : Option ListenerId) (id : ListenerId) :
    (p.removeListener? l).listeners.get? id =
      if l = some id then none else p.listeners.get? id := by
  cases l with
  | none => rfl
  | some id' =>
    show (p.listeners.erase id').get? id = _
    rw [Table.get?_erase]
    by_cases hid : id = id'
    · simp [hid]
    · have hid' : ¬ id' = id := fun e => hid e.symm
      simp [hid, hid']

/-- The page without the listener of a frame has the listeners of the other frames. -/
theorem Coherent.listeners_released (hc : h.Coherent delivered exempt) (hf : h.frame? f = some frame)
    (id : ListenerId) (f' : FrameRef) :
    (h.page.removeListener? frame.listener).listeners.get? id = some (.frame f') ↔
      f' ≠ f ∧ h.page.listeners.get? id = some (.frame f') := by
  rw [get?_removeListener?]
  split
  · next hl =>
    -- The listener that goes is that of the frame and of no other.
    have hown := (hc.listeners id f).mpr ⟨frame, hf, hl⟩
    constructor
    · intro hid
      cases hid
    · rintro ⟨hne, hid⟩
      rw [hown] at hid
      cases hid
      exact absurd rfl hne
  · next hl =>
    refine ⟨fun hid => ⟨?_, hid⟩, And.right⟩
    rintro rfl
    -- A listener that stays cannot be the frame's, which has only the one.
    obtain ⟨fr, hfr, hl'⟩ := (hc.listeners id f').mp hid
    rw [hf] at hfr
    cases hfr
    exact hl hl'

/-- A mount ends, and another may begin: the frame does not listen any more, and if it has a new
iframe then there is a hook at it. -/
theorem Coherent.of_released (hc : h.Coherent delivered exempt) (hf : h.frame? f = some frame)
    (hs : h.Sets h' f frame') (hsound : frame'.Sound) (hlistener : frame'.listener = none)
    (hgeneration : frame'.generation = frame.generation + 1)
    (hlisteners : h'.page.listeners = (h.page.removeListener? frame.listener).listeners)
    (hlast : h.page.lastId ≤ h'.page.lastId)
    (hloads : (frame'.iframe? = none ∧ h'.page.loads = h.page.loads) ∨
      ∃ n, frame'.iframe? = some n ∧ h.page.lastId < n ∧ n ≤ h'.page.lastId ∧
        h'.page.loads = h.page.loads.insert n [.connect f frame'.generation]) :
    h'.Coherent delivered exempt := by
  have hother : ∀ f' fr', f' ≠ f → h'.frame? f' = some fr' → h.frame? f' = some fr' := by
    intro f' fr' hne hfr'
    rw [hs.frame?_of_ne hne] at hfr'
    exact hfr'
  have hself : ∀ fr', h'.frame? f = some fr' → fr' = frame' := by
    intro fr' hfr'
    rw [hs.frame?] at hfr'
    exact (Option.some.inj hfr').symm
  -- What waits at the iframes that were there stays, and what is new is at the new iframe.
  have hkept : ∀ n, n ≤ h.page.lastId → h'.page.loads.get? n = h.page.loads.get? n := by
    intro n hn
    rcases hloads with ⟨-, hloads⟩ | ⟨m, -, hm, -, hloads⟩
    · rw [hloads]
    · have hne : n ≠ m := Nat.ne_of_lt (Nat.lt_of_le_of_lt hn hm)
      rw [hloads, Table.get?_insert, if_neg hne]
  have hadded : ∀ n hooks, h'.page.loads.get? n = some hooks → h.page.loads.get? n = some hooks ∨
      (frame'.iframe? = some n ∧ n ≤ h'.page.lastId ∧ hooks = [.connect f frame'.generation]) := by
    intro n hooks hn
    rcases hloads with ⟨-, hloads⟩ | ⟨m, hm, -, hle, hloads⟩
    · exact .inl (hloads ▸ hn)
    · rw [hloads, Table.get?_insert] at hn
      split at hn
      · next heq =>
        cases hn
        exact .inr ⟨heq ▸ hm, heq ▸ hle, rfl⟩
      · exact .inl hn
  refine ⟨fun f' fr' hfr' => ?_, fun id f' => ?_, fun id l hl => ?_, fun f' fr' n hfr' hn => ?_,
    fun n hooks hn => ?_, fun n hooks hn => ?_, fun f' n hd => ?_, fun f' fr' n hfr' hn hx => ?_⟩
  · by_cases heq : f' = f
    · subst heq
      exact hself fr' hfr' ▸ hsound
    · exact hc.sound f' fr' (hother f' fr' heq hfr')
  · rw [hlisteners, hc.listeners_released hf]
    by_cases heq : f' = f
    · subst heq
      constructor
      · rintro ⟨hne, -⟩
        exact absurd rfl hne
      · rintro ⟨fr', hfr', hl⟩
        rw [hself fr' hfr', hlistener] at hl
        cases hl
    · rw [hs.frame?_of_ne heq, ← hc.listeners]
      exact and_iff_right heq
  · rw [hlisteners, get?_removeListener?] at hl
    split at hl
    · cases hl
    · exact Nat.le_trans (hc.listener_le id l hl) hlast
  · by_cases heq : f' = f
    · subst heq
      rw [hself fr' hfr'] at hn
      rcases hloads with ⟨hnone, -⟩ | ⟨m, hm, -, hle, -⟩
      · rw [hnone] at hn
        cases hn
      · rw [hm] at hn
        cases hn
        exact hle
    · exact Nat.le_trans (hc.iframe_le f' fr' n (hother f' fr' heq hfr') hn) hlast
  · rcases hadded n hooks hn with hn | ⟨-, hle, -⟩
    · exact Nat.le_trans (hc.hook_le n hooks hn) hlast
    · exact hle
  · rcases hadded n hooks hn with hn | ⟨hi, -, hhooks⟩
    · -- The hooks of the frame that were there are of mounts that are over.
      obtain ⟨f', g, fr, hhooks, hfr, hle, hat⟩ := hc.hook n hooks hn
      by_cases heq : f' = f
      · subst heq
        rw [hf] at hfr
        cases hfr
        refine ⟨f', g, frame', hhooks, hs.frame?, ?_, fun hg => ?_⟩
        · omega
        · omega
      · exact ⟨f', g, fr, hhooks, (hs.frame?_of_ne heq).trans hfr, hle, hat⟩
    · exact ⟨f, frame'.generation, frame', hhooks, hs.frame?, Nat.le_refl _, fun _ => hi⟩
  · exact Nat.le_trans (hc.delivered_le f' n hd) hlast
  · by_cases heq : f' = f
    · -- A new mount waits for its iframe.
      subst heq
      rw [hself fr' hfr'] at hn ⊢
      refine .inr ⟨?_, fun hd => ?_, ?_⟩
      · rw [hsound.listening, hlistener]
        rfl
      · -- The iframe is new, so its load event has not happened.
        have hle := hc.delivered_le f' n hd
        rcases hloads with ⟨hnone, -⟩ | ⟨m, hm, hlt, -, -⟩
        · rw [hnone] at hn
          cases hn
        · rw [hm] at hn
          cases hn
          exact absurd hle (Nat.not_le.mpr hlt)
      · rcases hloads with ⟨hnone, -⟩ | ⟨m, hm, -, -, hloads⟩
        · rw [hnone] at hn
          cases hn
        · rw [hm] at hn
          cases hn
          rw [hloads, Table.get?_insert_self]
    · have hfr := hother f' fr' heq hfr'
      rw [hkept n (hc.iframe_le f' fr' n hfr hn)]
      exact hc.loading f' fr' n hfr hn hx

/-- A listener of the host is added. -/
theorem Coherent.addListener (hc : h.Coherent delivered exempt) (cb : Callback) :
    Coherent delivered exempt { h with page := (h.page.addListener (.host cb)).1 } := by
  have hget : ∀ id, (h.page.addListener (.host cb)).1.listeners.get? id =
      if id = h.page.lastId + 1 then some (.host cb) else h.page.listeners.get? id :=
    fun id => Table.get?_insert _ _ _ _
  have hlast : h.page.lastId ≤ (h.page.addListener (.host cb)).1.lastId := Nat.le_succ _
  refine ⟨hc.sound, fun id f => ?_, fun id l hl => ?_, fun f frame n hf hn => ?_,
    fun n hooks hn => ?_, hc.hook, fun f n hd => ?_, hc.loading⟩
  · refine Iff.trans ?_ (hc.listeners id f)
    rw [hget]
    split
    · next heq =>
      constructor
      · intro hid
        cases hid
      · intro hid
        -- The new number was free: every listener has an earlier one.
        have hle := hc.listener_le id _ hid
        rw [heq] at hle
        exact absurd hle (Nat.not_succ_le_self _)
    · exact Iff.rfl
  · rw [hget] at hl
    split at hl
    · next heq =>
      rw [heq]
      exact Nat.le_refl _
    · exact Nat.le_trans (hc.listener_le id l hl) hlast
  · exact Nat.le_trans (hc.iframe_le f frame n hf hn) hlast
  · exact Nat.le_trans (hc.hook_le n hooks hn) hlast
  · exact Nat.le_trans (hc.delivered_le f n hd) hlast

/-! ## Moves -/

/-- A mount keeps the host coherent. -/
theorem Coherent.mount (hc : h.Coherent delivered exempt) (config : Config) :
    (h.mount f config).1.Coherent delivered exempt := by
  cases hf : h.frame? f with
  | none =>
    rw [mount_of_none hf]
    exact hc
  | some old =>
    have hlast : (h.page.removeListener? old.listener).lastId = h.page.lastId := by
      cases old.listener <;> rfl
    have hloads : (h.page.removeListener? old.listener).loads = h.page.loads := by
      cases old.listener <;> rfl
    rcases mount_cases hf config with ⟨-, -, hs, hpage, -⟩ | ⟨place, nodes, -, -, hplaced⟩
    · refine hc.of_released hf hs (sound_released rfl old) rfl rfl ?_ ?_ (.inl ⟨rfl, ?_⟩)
      · rw [hpage]
      · exact Nat.le_of_eq (by rw [hpage, hlast])
      · rw [hpage, hloads]
    · obtain ⟨⟨check, hs⟩, ⟨p, hbuild, hpage⟩, -⟩ := hplaced
      obtain ⟨hiframe, hle, hredraws, -⟩ := Page.build_spec hbuild
      rw [hlast] at hiframe
      -- The iframe is new, so nothing has waited for it yet.
      have hfresh : h.page.loads.get? nodes.iframe = none := by
        cases hget : h.page.loads.get? nodes.iframe with
        | none => rfl
        | some hooks =>
          have hle := hc.hook_le nodes.iframe hooks hget
          rw [hiframe] at hle
          exact absurd hle (Nat.not_succ_le_self _)
      refine hc.of_released hf hs (sound_installed _ check nodes _ config) rfl rfl ?_ ?_
        (.inr ⟨nodes.iframe, rfl, ?_, ?_, ?_⟩)
      · rw [hpage]
        exact hredraws.listeners
      · have hlast' := hredraws.lastId
        rw [hlast] at hlast'
        rw [hpage]
        exact hlast'
      · rw [hiframe]
        exact Nat.lt_succ_self _
      · rw [hpage]
        exact hle
      · rw [hpage]
        show p.loads.insert nodes.iframe ((p.loads.get? nodes.iframe).getD [] ++ _) = _
        rw [hredraws.loads, hloads, hfresh]
        rfl

/-- Destroying a frame keeps the host coherent. -/
theorem Coherent.destroy (hc : h.Coherent delivered exempt) :
    (h.destroy f).Coherent delivered exempt := by
  cases hf : h.frame? f with
  | none =>
    rw [destroy_of_none hf]
    exact hc
  | some frame =>
    rcases destroy_cases hf with ⟨-, hsame⟩ | ⟨-, hs, hpage, -⟩
    · rw [hsame]
      exact hc
    · have hredraws := Page.redraws_restored (p := h.page.removeListener? frame.listener) frame
      -- The page loses the listener; restoring the element changes no listener and no hook.
      refine hc.of_released hf hs (sound_released rfl frame) rfl rfl ?_ ?_ (.inl ⟨rfl, ?_⟩)
      · rw [hpage]
        exact hredraws.listeners
      · have hlast := hredraws.lastId
        rw [hpage]
        refine Nat.le_trans (Nat.le_of_eq ?_) hlast
        cases frame.listener <;> rfl
      · rw [hpage, hredraws.loads]
        cases frame.listener <;> rfl

/-- Showing the content keeps the host coherent. -/
theorem Coherent.showContent (hc : h.Coherent delivered exempt) :
    (h.showContent f).1.Coherent delivered exempt := by
  cases hf : h.frame? f with
  | none =>
    rw [showContent_of_none hf]
    exact hc
  | some frame =>
    rcases showContent_cases hf with hsame | ⟨nodes, hphase, -, hs, hpage, -⟩
    · rw [hsame]
      exact hc
    · have hmounted : frame.phase.isMounted = true := by
        rcases hphase with hphase | hphase <;> rw [hphase] <;> rfl
      refine hc.of_frame hf hs (sound_shown (hc.sound f frame hf) hmounted) ⟨rfl, rfl, rfl, rfl⟩ ?_
      rw [hpage]
      -- Only styles change, and perhaps a hook waits for the paint.
      have hstyled := (Page.redraws_setStyle (p := h.page) nodes.container
        (Look.containerLoaded frame.config.width frame.config.height)).trans
          (Page.redraws_setStyle nodes.iframe Look.visible)
      dsimp only
      split
      · exact hstyled.trans (Page.redraws_afterPaint _)
      · exact hstyled

/-- An accepted call keeps the host coherent. -/
theorem Coherent.execute (hc : h.Coherent delivered exempt) {r : BusRef} {task : Task}
    {responder : Responder} (hx : h.execute r task responder = .ok h') :
    h'.Coherent delivered exempt := by
  cases r with
  | bare n =>
    unfold Host.execute at hx
    split at hx
    · cases hx
      exact hc
    · split at hx
      · cases hx
      · cases hx
        exact hc.of_page rfl (Page.redraws_post? _)
  | frame f =>
    cases hf : h.frame? f with
    | none =>
      unfold Host.execute at hx
      rw [bus?_of_none hf] at hx
      cases hx
      exact hc
    | some frame =>
      have hsound := hc.sound f frame hf
      rcases execute_cases hf task responder with
        ⟨e, he, -⟩ | ⟨bus, posted, h'', hok, hbus, hs, hpage, -⟩
      · rw [he] at hx
        cases hx
      · rw [hok] at hx
        cases hx
        have hredraws : h.page.Redraws h'.page := hpage ▸ Page.redraws_post? posted
        rcases frame.bus.execute_cases task responder with ⟨e, he⟩ | ⟨target, htarget, hok'⟩
        · rw [he] at hbus
          cases hbus
        · -- A bus that takes a call has a target, and keeps it.
          have hkept : bus.target = frame.bus.target ∧ bus.connected = frame.bus.connected := by
            rw [hok'] at hbus
            split at hbus <;> cases hbus <;> exact ⟨rfl, rfl⟩
          refine hc.of_frame hf hs (sound_bus hsound hkept.1 hkept.2 fun hnone => ?_)
            (alike_bus hkept.2) hredraws
          rw [hkept.1, htarget] at hnone
          cases hnone

/-- An answer keeps the host coherent. -/
theorem Coherent.reply (hc : h.Coherent delivered exempt) (r : BusRef) (data : Option Value) :
    (h.reply r data).1.Coherent delivered exempt := by
  cases r with
  | bare n =>
    rcases h.host_reply (.bare n) data with ⟨-, hreply⟩ | ⟨b, replies, -, hreply⟩
    · rw [hreply]
      exact hc
    · rw [hreply]
      exact hc.of_page rfl (Page.Redraws.refl _)
  | frame f =>
    cases hf : h.frame? f with
    | none =>
      rw [reply_of_none hf]
      exact hc
    | some frame =>
      have hsound := hc.sound f frame hf
      obtain ⟨hs, hpage, -⟩ := reply_cases hf data
      refine hc.of_frame hf hs (sound_bus hsound rfl rfl fun hnone => ?_) (alike_bus rfl)
        (hpage ▸ Page.Redraws.refl _)
      -- A bus without an iframe has no call to answer, so it stays idle.
      obtain ⟨hpending, hdeferred⟩ := hsound.idle hnone
      refine ⟨?_, hdeferred⟩
      show frame.bus.pending.tail = []
      rw [hpending]
      rfl

/-- Posting a deferred task keeps the host coherent. -/
theorem Coherent.postNext (hc : h.Coherent delivered exempt) (r : BusRef) :
    (h.postNext r).Coherent delivered exempt := by
  cases r with
  | bare n =>
    unfold Host.postNext
    split
    · exact hc
    · exact hc.of_page rfl (Page.redraws_post? _)
  | frame f =>
    cases hf : h.frame? f with
    | none =>
      unfold Host.postNext
      rw [bus?_of_none hf]
      exact hc
    | some frame =>
      have hsound := hc.sound f frame hf
      obtain ⟨hs, hpage, -⟩ := postNext_cases hf
      have hredraws : h.page.Redraws (h.postNext (.frame f)).page := hpage ▸ Page.redraws_post? _
      -- Posting keeps the iframe and the connection, and without an iframe nothing is posted.
      have hbus : frame.bus.postNext.1.target = frame.bus.target ∧
          frame.bus.postNext.1.connected = frame.bus.connected ∧
          (frame.bus.target = none → frame.bus.postNext.1 = frame.bus) := by
        unfold Bus.postNext
        split
        · next target _ _ htarget _ =>
          exact ⟨rfl, rfl, fun hnone => by rw [htarget] at hnone; cases hnone⟩
        · exact ⟨rfl, rfl, fun _ => rfl⟩
      refine hc.of_frame hf hs (sound_bus hsound hbus.1 hbus.2.1 fun hnone => ?_)
        (alike_bus hbus.2.1) hredraws
      rw [hbus.1] at hnone
      rw [hbus.2.2 hnone]
      exact hsound.idle hnone

/-- The moves that do not touch what waits for an iframe to load, nor take listeners away. -/
def Move.KeepsLoading : Move → Prop
  | .page (.onLoad _ _) | .page (.takeLoads _) | .page (.removeListener _) | .connect _ _ => False
  | _ => True

/-- A frame changes in what its mount does not depend on. -/
theorem Coherent.modifyFrame (hc : h.Coherent delivered exempt) (g : Frame → Frame)
    (hg : ∀ frame : Frame, frame.Sound → (g frame).Sound ∧ frame.Alike (g frame)) :
    (h.modifyFrame f g).Coherent delivered exempt := by
  cases hf : h.frame? f with
  | none => exact hc.of_page (frames_modifyFrame_of_none hf g) (Page.Redraws.refl _)
  | some frame =>
    obtain ⟨hsound, hlike⟩ := hg frame (hc.sound f frame hf)
    exact hc.of_frame hf (sets_modifyFrame hf g) hsound hlike (Page.Redraws.refl _)

/-- An edit of the page keeps the host coherent, unless it plants load hooks or removes listeners.
-/
theorem Coherent.edit (hc : h.Coherent delivered exempt) {e : Page.Edit}
    (he : Move.KeepsLoading (.page e)) :
    Coherent delivered exempt { h with page := h.page.edit e } := by
  cases e with
  | add node => exact hc.of_page rfl (Page.redraws_add node)
  | wrap domId style children =>
    exact hc.of_page rfl (Page.redraws_createContainer domId style children)
  | replace old new => exact hc.of_page rfl (Page.redraws_replace old new)
  | remove n => exact hc.of_page rfl (Page.redraws_remove n)
  | setStyle n style => exact hc.of_page rfl (Page.redraws_setStyle n style)
  | showDocument n html => exact hc.of_page rfl (Page.redraws_showDocument n html)
  | afterPaint cb => exact hc.of_page rfl (Page.redraws_afterPaint _)
  | addListener cb => exact hc.addListener cb
  | takePaint | post | takePosted => exact hc.of_page rfl ⟨Nat.le_refl _, rfl, rfl⟩
  | onLoad | takeLoads | removeListener => exact he.elim

/-- The moves that do not touch what waits for an iframe to load keep frames and page in agreement. -/
theorem Coherent.move (hc : h.Coherent delivered exempt) {m : Move} (hm : m.KeepsLoading) :
    (h.move m).Coherent delivered exempt := by
  -- A frame that was just made is blank, and that is sound.
  have hnew : ∀ cache registers checks,
      Frame.Sound { cache := cache, registers := registers, checks := checks } := by
    intro cache registers checks
    exact ⟨rfl, rfl, rfl, fun h => Phase.noConfusion h, fun h => absurd h Bool.noConfusion,
      fun _ => ⟨rfl, rfl⟩⟩
  cases m with
  | page e => exact hc.edit hm
  | cache | openChannel | setCheck | endAborted | setGate | newBus | setBus =>
    exact hc.of_page rfl (Page.Redraws.refl _)
  | newFrame checks => exact hc.of_added rfl (hnew _ _ _) rfl rfl (Page.Redraws.refl _)
  | enroll frameId =>
    show (h.registered frameId).1.Coherent delivered exempt
    unfold registered
    split
    · exact hc
    · exact hc.of_added rfl (hnew _ _ _) rfl rfl (Page.Redraws.refl _)
  | mount f config => exact hc.mount config
  | destroy f => exact hc.destroy
  | showContent f => exact hc.showContent
  | patch f config =>
    refine hc.modifyFrame _ fun frame hsound => ⟨?_, rfl, rfl, rfl, rfl⟩
    exact ⟨hsound.mounted, hsound.target, hsound.listening, hsound.connected, hsound.phase,
      hsound.idle⟩
  | registerCommand f name cb =>
    rcases h.host_registerCommand f name cb with hsame | ⟨frame, commands, -, -, hmove⟩
    · rwa [hsame]
    · rw [hmove]
      refine hc.modifyFrame _ fun frame hsound => ⟨?_, rfl, rfl, rfl, rfl⟩
      exact ⟨hsound.mounted, hsound.target, hsound.listening, hsound.connected, hsound.phase,
        hsound.idle⟩
  | execute r task responder =>
    show ((h.execute r task responder).toOption.getD h).Coherent delivered exempt
    cases hx : h.execute r task responder with
    | error e => exact hc
    | ok h' => exact hc.execute hx
  | reply r data => exact hc.reply r data
  | postNext r => exact hc.postNext r
  | connect => exact hm.elim
  | fade f g loader =>
    show (h.fadeLoader f g loader).Coherent delivered exempt
    rcases h.fadeLoader_cases f g loader with hfade | ⟨frame, -, -, hfade⟩
    · rwa [hfade]
    · rw [hfade]
      exact hc.of_page rfl ((Page.redraws_setStyle _ _).trans (Page.redraws_afterPaint _))
  | retire f g loader =>
    show (h.retireLoader f g loader).1.Coherent delivered exempt
    cases hf : h.frame? f with
    | none =>
      rw [retireLoader_of_none hf]
      exact hc
    | some frame =>
      have hsound := hc.sound f frame hf
      rcases retireLoader_cases hf g loader with ⟨-, hsame⟩ | ⟨-, hs, hpage, -⟩
      · rw [hsame]
        exact hc
      · -- Losing the loader leaves the iframe.
        have hiframe : (frame.nodes.map fun nodes : Mounted => { nodes with loader := none }).map
            Mounted.iframe = frame.iframe? := by
          unfold Frame.iframe?
          cases frame.nodes <;> rfl
        refine hc.of_frame hf hs ?_ ⟨rfl, hiframe, rfl, rfl⟩ (hpage ▸ Page.redraws_remove loader)
        refine ⟨?_, hsound.target.trans hiframe.symm, hsound.listening, hsound.connected,
          hsound.phase, hsound.idle⟩
        show frame.phase.isMounted = _
        rw [hsound.mounted]
        cases frame.nodes <;> rfl
  | failCheck c e =>
    show (h.failCheck c e).1.Coherent delivered exempt
    rcases h.failCheck_cases c e with hfail | ⟨frame, page, -, -, hpage, hfail⟩
    · rwa [hfail]
    · rw [hfail]
      rcases hpage with ⟨-, rfl⟩ | ⟨nodes, document, -, rfl⟩
      · exact hc.of_page rfl (Page.Redraws.refl _)
      · exact hc.of_page rfl (Page.redraws_showDocument _ _)

/-! ## Loading

The load event takes the hooks of an iframe, and the hook of a frame connects it. Between the two the
event has happened and the frame is not connected. -/

/-- The load events that have happened after one more. -/
def andDelivered (delivered : FrameRef → NodeId → Prop) (h : Host) (n : NodeId) :
    FrameRef → NodeId → Prop :=
  fun f m => delivered f m ∨ (m = n ∧ ∃ frame, h.frame? f = some frame ∧ frame.iframe? = some m)

/-- A hook that connects a frame is about to run: but for that frame everything agrees. -/
structure Loading (delivered : FrameRef → NodeId → Prop) (exempt : FrameRef → Prop) (f : FrameRef)
    (g : ℕ) (frame : Frame) (h : Host) : Prop where
  coherent : h.Coherent delivered fun f' => exempt f' ∨ (f' = f ∧ frame.generation = g)
  present : h.frame? f = some frame
  waiting : frame.generation = g → ∀ n, frame.iframe? = some n → ¬ exempt f →
    frame.bus.connected = false ∧ delivered f n ∧ h.page.loads.get? n = none

/-- The load event of an iframe takes the hook of its frame, if there is one. -/
theorem Coherent.takeLoads (hc : h.Coherent delivered exempt) (n : NodeId) :
    ((h.page.takeLoads n).1 = [] ∧
        Coherent (h.andDelivered delivered n) exempt { h with page := (h.page.takeLoads n).2 }) ∨
      ∃ f g frame, (h.page.takeLoads n).1 = [.connect f g] ∧
        Loading (h.andDelivered delivered n) exempt f g frame
          { h with page := (h.page.takeLoads n).2 } := by
  have hget : ∀ m, (h.page.takeLoads n).2.loads.get? m =
      if m = n then none else h.page.loads.get? m := fun m => Table.get?_erase _ _ _
  have hfrom : ∀ m hooks, (h.page.takeLoads n).2.loads.get? m = some hooks →
      m ≠ n ∧ h.page.loads.get? m = some hooks := by
    intro m hooks hm
    rw [hget] at hm
    split at hm
    · cases hm
    · next hne => exact ⟨hne, hm⟩
  have hle : ∀ f m, h.andDelivered delivered n f m → m ≤ h.page.lastId := by
    rintro f m (hd | ⟨-, frame, hf, hm⟩)
    · exact hc.delivered_le f m hd
    · exact hc.iframe_le f frame m hf hm
  -- What is left to show is that the frames that are not exempt are connected, or wait.
  have hcoherent : ∀ exempt' : FrameRef → Prop,
      (∀ f frame m, h.frame? f = some frame → frame.iframe? = some m → ¬ exempt' f →
        ¬ exempt f ∧ h.page.loads.get? n ≠ some [.connect f frame.generation]) →
      Coherent (h.andDelivered delivered n) exempt' { h with page := (h.page.takeLoads n).2 } := by
    intro exempt' hexempt'
    refine ⟨hc.sound, hc.listeners, hc.listener_le, hc.iframe_le, fun m hooks hm => ?_,
      fun m hooks hm => ?_, hle, fun f frame m hf hm hx => ?_⟩
    · exact hc.hook_le m hooks (hfrom m hooks hm).2
    · exact hc.hook m hooks (hfrom m hooks hm).2
    · obtain ⟨hnot, hno⟩ := hexempt' f frame m hf hm hx
      rcases hc.loading f frame m hf hm hnot with ⟨hconn, hd, hnone⟩ | ⟨hconn, hd, hhook⟩
      · refine .inl ⟨hconn, .inl hd, ?_⟩
        rw [hget, hnone]
        exact ite_self none
      · -- The hook of this frame sits at another iframe, and stays.
        have hne : m ≠ n := by
          rintro rfl
          exact hno hhook
        refine .inr ⟨hconn, ?_, ?_⟩
        · rintro (hd' | ⟨heq, -⟩)
          · exact hd hd'
          · exact hne heq
        · rw [hget, if_neg hne]
          exact hhook
  cases hhooks : h.page.loads.get? n with
  | none =>
    refine .inl ⟨?_, hcoherent exempt fun f frame m _ _ hx => ⟨hx, ?_⟩⟩
    · unfold Page.takeLoads
      rw [hhooks]
      rfl
    · rw [hhooks]
      exact (Option.some_ne_none _).symm
  | some hooks =>
    obtain ⟨f, g, frame, rfl, hf, -, hat⟩ := hc.hook n hooks hhooks
    refine .inr ⟨f, g, frame, ?_, hcoherent _ fun f' frame' m hf' hm hx => ?_, hf,
      fun hg m hm hx => ?_⟩
    · unfold Page.takeLoads
      rw [hhooks]
      rfl
    · refine ⟨fun h => hx (.inl h), fun hhook => hx (.inr ?_)⟩
      rw [hhooks] at hhook
      cases hhook
      rw [hf] at hf'
      cases hf'
      exact ⟨rfl, rfl⟩
    · -- The hook belongs to the mount, so the iframe that has loaded is that of the frame.
      have hmn : m = n := Option.some.inj (hm.symm.trans (hat hg.symm))
      subst hmn
      rcases hc.loading f frame m hf hm hx with ⟨-, -, hnone⟩ | ⟨hconn, -, -⟩
      · rw [hnone] at hhooks
        cases hhooks
      · refine ⟨hconn, .inr ⟨rfl, frame, hf, hm⟩, ?_⟩
        rw [hget, if_pos rfl]

/-- What a loading frame owes is owed under fewer exemptions also under more. -/
theorem Loading.exempting {exempt' : FrameRef → Prop} {g : ℕ}
    (hl : h.Loading delivered exempt f g frame) (hx : ∀ f, exempt f → exempt' f) :
    h.Loading delivered exempt' f g frame where
  coherent := hl.coherent.exempting fun f' _ _ _ _ hnot h =>
    hnot (h.elim (fun h => .inl (hx f' h)) .inr)
  present := hl.present
  waiting hg n hn hnot := hl.waiting hg n hn fun h => hnot (hx f h)

/-- A frame that is exempt stays so. -/
theorem Loading.of_exempt {g : ℕ} (hl : h.Loading delivered exempt f g frame) (hx : exempt f) :
    h.Coherent delivered exempt := by
  refine hl.coherent.exempting fun f' frame' n hf' hn hnot => ?_
  rintro (hx' | ⟨rfl, -⟩)
  · exact hnot hx'
  · exact hnot hx

/-- A sound frame stays sound when it is connected, before its content is shown or after. -/
theorem sound_connected (hs : frame.Sound) {phase : Phase} (id : ListenerId)
    (hphase : frame.phase = .initializing ∧ phase = .connected ∨
      frame.phase = .loaded ∧ phase = .loaded) :
    Frame.Sound { frame with phase, listener := some id, bus := frame.bus.connect } := by
  have hnodes : frame.nodes.isSome = true := by
    rw [← hs.mounted]
    rcases hphase with ⟨hphase, -⟩ | ⟨hphase, -⟩ <;> rw [hphase] <;> rfl
  -- In both phases the frame is mounted, so its bus has the iframe to connect to.
  have htarget : frame.bus.target.isSome = true := by
    have hiframe := congrArg Option.isSome hs.target
    unfold Frame.iframe? at hiframe
    rw [Option.isSome_map, Option.isSome_map] at hiframe
    rw [hiframe]
    exact hnodes
  refine ⟨?_, hs.target, htarget, fun _ => htarget, fun _ => ?_, hs.idle⟩
  · show phase.isMounted = frame.nodes.isSome
    rw [hnodes]
    rcases hphase with ⟨-, hphase⟩ | ⟨-, hphase⟩ <;> rw [hphase] <;> rfl
  · rcases hphase with ⟨-, hphase⟩ | ⟨-, hphase⟩
    · exact .inl hphase
    · exact .inr hphase

/-- A hook that comes too late, or for a frame that is connected already, has nothing to connect. -/
theorem Loading.of_stale {g : ℕ} (hl : h.Loading delivered exempt f g frame)
    (hphase : frame.generation = g → frame.phase ≠ .initializing ∧ frame.phase ≠ .loaded) :
    h.Coherent delivered exempt := by
  have hsound := hl.coherent.sound f frame hl.present
  refine hl.coherent.exempting fun f' frame' n hf' hn hx => ?_
  rintro (hx' | ⟨rfl, hg⟩)
  · exact hx hx'
  · rw [hl.present] at hf'
    cases hf'
    -- A frame that waits is mounted and not connected, so its phase is one of the two.
    obtain ⟨hconn, -, -⟩ := hl.waiting hg n hn hx
    obtain ⟨hne, hne'⟩ := hphase hg
    have hmounted := hsound.mounted
    have hnodes : frame.nodes.isSome = true := by
      unfold Frame.iframe? at hn
      rw [← Option.isSome_map (f := Mounted.iframe), hn]
      rfl
    rw [hnodes] at hmounted
    have hconnected : frame.phase = .connected := by
      cases hp : frame.phase with
      | initializing => exact absurd hp hne
      | loaded => exact absurd hp hne'
      | connected => rfl
      | uninitialized | destroyed =>
        rw [hp] at hmounted
        cases hmounted
    rw [hsound.connected hconnected] at hconn
    cases hconn

/-- The listeners of the page once a frame listens anew. -/
theorem Coherent.get?_relistened (hc : h.Coherent delivered exempt) (hf : h.frame? f = some frame)
    (id : ListenerId) :
    ((h.page.addListener (.frame f)).1.removeListener? frame.listener).listeners.get? id =
      if id = h.page.lastId + 1 then some (.frame f)
      else (h.page.removeListener? frame.listener).listeners.get? id := by
  have hadded : (h.page.addListener (.frame f)).1.listeners.get? id =
      if id = h.page.lastId + 1 then some (.frame f) else h.page.listeners.get? id :=
    Table.get?_insert _ _ _ _
  rw [get?_removeListener?, get?_removeListener?, hadded]
  split
  · next hl =>
    -- The listener that goes is an old one.
    have hle := hc.listener_le id _ ((hc.listeners id f).mpr ⟨frame, hf, hl⟩)
    have hne : id ≠ h.page.lastId + 1 := by
      rintro rfl
      exact Nat.not_succ_le_self _ hle
    rw [if_neg hne]
  · rfl

/-- The hook connects the frame, if it belongs to the mount of the frame. -/
theorem Loading.connect {g : ℕ} (hl : h.Loading delivered exempt f g frame) :
    (h.connect f g).1.Coherent delivered exempt := by
  have hc := hl.coherent
  have hf := hl.present
  have hsound := hc.sound f frame hf
  rcases connect_cases hf g with ⟨hphase, hsame⟩ | ⟨hg, phase, hphase, hs, hpage, -⟩
  · rw [hsame]
    exact hl.of_stale hphase
  · -- It connects, and listens under a number that nothing had before.
    have hnewer : ∀ l, h.page.listeners.get? (h.page.lastId + 1) ≠ some l :=
      fun l hl => absurd (hc.listener_le _ l hl) (Nat.not_succ_le_self _)
    have hlisteners : ∀ id, (h.connect f g).1.page.listeners.get? id =
        if id = h.page.lastId + 1 then some (.frame f)
        else (h.page.removeListener? frame.listener).listeners.get? id := by
      intro id
      rw [hpage]
      exact hc.get?_relistened hf id
    have hlast : (h.connect f g).1.page.lastId = h.page.lastId + 1 := by
      rw [hpage]
      cases frame.listener <;> rfl
    have hloads : (h.connect f g).1.page.loads = h.page.loads := by
      rw [hpage]
      cases frame.listener <;> rfl
    have hgrow : h.page.lastId ≤ (h.connect f g).1.page.lastId := by
      rw [hlast]
      exact Nat.le_succ _
    have hother : ∀ f' frame', f' ≠ f → (h.connect f g).1.frame? f' = some frame' →
        h.frame? f' = some frame' := by
      intro f' frame' hne hf'
      rw [hs.frame?_of_ne hne] at hf'
      exact hf'
    have hself := hs.frame?
    have hsound' := sound_connected hsound (h.page.lastId + 1) hphase
    refine ⟨fun f' frame' hf' => ?_, fun id f' => ?_, fun id l hl => ?_,
      fun f' frame' n hf' hn => ?_, fun n hooks hn => ?_, fun n hooks hn => ?_, fun f' n hd => ?_,
      fun f' frame' n hf' hn hx => ?_⟩
    · by_cases heq : f' = f
      · subst heq
        rw [hself] at hf'
        cases hf'
        exact hsound'
      · exact hc.sound f' frame' (hother f' frame' heq hf')
    · rw [hlisteners]
      by_cases heq : f' = f
      · -- The frame listens under a new number, and under no other.
        subst heq
        have hown : (∃ frame', (h.connect f' g).1.frame? f' = some frame' ∧
            frame'.listener = some id) ↔ id = h.page.lastId + 1 := by
          constructor
          · rintro ⟨frame', hf', hid⟩
            rw [hself] at hf'
            cases hf'
            exact (Option.some.inj hid).symm
          · rintro rfl
            exact ⟨_, hself, rfl⟩
        rw [hown]
        split
        · next hid => exact ⟨fun _ => hid, fun _ => rfl⟩
        · next hid =>
          rw [hc.listeners_released hf]
          exact ⟨fun h => absurd rfl h.1, fun h => absurd h hid⟩
      · -- The other frames listen as before.
        rw [hs.frame?_of_ne heq, ← hc.listeners]
        split
        · next hid =>
          subst hid
          refine ⟨fun h => ?_, fun h => absurd h (hnewer _)⟩
          cases h
          exact absurd rfl heq
        · rw [hc.listeners_released hf]
          exact and_iff_right heq
    · -- The new number is the greatest; the other listeners are earlier ones.
      rw [hlisteners] at hl
      split at hl
      · next hid =>
        exact Nat.le_of_eq (by rw [hid, hlast])
      · rw [get?_removeListener?] at hl
        split at hl
        · cases hl
        · exact Nat.le_trans (hc.listener_le id l hl) hgrow
    · by_cases heq : f' = f
      · subst heq
        rw [hself] at hf'
        cases hf'
        exact Nat.le_trans (hc.iframe_le f' frame n hf hn) hgrow
      · exact Nat.le_trans (hc.iframe_le f' frame' n (hother f' frame' heq hf') hn) hgrow
    · rw [hloads] at hn
      exact Nat.le_trans (hc.hook_le n hooks hn) hgrow
    · rw [hloads] at hn
      obtain ⟨f', g', frame', hhooks, hf', hle, hat⟩ := hc.hook n hooks hn
      by_cases heq : f' = f
      · subst heq
        rw [hf] at hf'
        cases hf'
        exact ⟨f', g', _, hhooks, hself, hle, hat⟩
      · exact ⟨f', g', frame', hhooks, (hs.frame?_of_ne heq).trans hf', hle, hat⟩
    · exact Nat.le_trans (hc.delivered_le f' n hd) hgrow
    · rw [hloads]
      by_cases heq : f' = f
      · subst heq
        rw [hself] at hf'
        cases hf'
        -- The frame itself has been waiting for this load, and is connected now.
        obtain ⟨-, hd, hnone⟩ := hl.waiting hg n hn hx
        exact .inl ⟨hsound'.listening, hd, hnone⟩
      · refine hc.loading f' frame' n (hother f' frame' heq hf') hn ?_
        rintro (hx' | ⟨heq', -⟩)
        · exact hx hx'
        · exact heq heq'

end Host

end FrameHost
