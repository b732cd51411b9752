import FrameHost.Proofs.Overlay
import FrameHost.Proofs.Unmounted

/-!
# Changes of a configuration

A configuration that is laid over that of a frame mounts the frame again, or it is sent to the
application. A mount lays the library's own configuration under that of the frame and the other way
does not; but a frame that is mounted has all of the library's fields already
(`Host.complete_after`), so both ways lead to the same configuration. Which way it goes is told by the
fields that are listed for it, and either way the same configuration comes to nothing new when it is
laid over once more (`configure_overlays`).
-/

namespace FrameHost

open Json (Value)

/-! ## Messages while a frame is mounted -/

namespace Page

variable {p : Page}

/-- Modifying nodes posts nothing. -/
theorem posted_foldl_modify (ns : List NodeId) (g : Node → Node) :
    (ns.foldl (fun p n => p.modify n g) p).posted = p.posted := by
  induction ns generalizing p with
  | nil => rfl
  | cons n ns ih => exact ih

/-- Building the nodes of a mount posts nothing. -/
theorem posted_build (p : Page) (c : Config) (url : String) (look : Style) (loader : Option Style) :
    (p.build c url look loader).1.posted = p.posted := by
  unfold build
  cases loader <;> exact posted_foldl_modify _ _

/-- Removing a listener posts nothing. -/
theorem posted_removeListener? (l : Option ListenerId) :
    (p.removeListener? l).posted = p.posted := by
  cases l <;> rfl

end Page

namespace Host

variable {h h' : Host} {f : FrameRef} {frame frame' : Frame} {m : Move} {patch : Config}

/-- A mount posts nothing. -/
theorem posted_mount (hf : h.frame? f = some frame) (config : Config) :
    (h.mount f config).1.page.posted = h.page.posted := by
  have hlistener : (h.page.removeListener? frame.listener).posted = h.page.posted :=
    Page.posted_removeListener? frame.listener
  rcases mount_cases hf config with ⟨-, -, -, hpage, -⟩ | ⟨place, nodes, -, -, hplaced⟩
  · rw [hpage, hlistener]
  · obtain ⟨p, hbuild, hpage⟩ := hplaced.page
    have hposted : p.posted = (h.page.removeListener? frame.listener).posted :=
      (congrArg (fun built => built.1.posted) hbuild).symm.trans (Page.posted_build ..)
    rw [hpage, ← hlistener, ← hposted]
    rfl

/-! ## Frames with all of the library's fields -/

/-- A mounted frame has a complete configuration after its turn. -/
theorem Turn.complete (ht : h.Turn f frame m frame')
    (hc : frame.phase.isMounted = true → frame.config.Complete) :
    frame'.phase.isMounted = true → frame'.config.Complete := by
  cases ht with
  | goesOn hgoes => rw [hgoes.mounted, hgoes.config]; exact hc
  | patched config => exact fun hmounted => (hc hmounted).merged config
  | retired => exact hc
  | unplaced | destroyed => exact Bool.noConfusion
  | placed config => exact fun _ => (Config.complete_defaults_merged _).merged config

/-- The configuration of a mounted frame is complete. -/
theorem complete_after {s : Session}
    (hs : ∀ f frame, s.host.frame? f = some frame → frame.phase.isMounted = true →
      frame.config.Complete) (as : List Action) (i : ℕ) :
    ∀ f frame, (s.after as i).host.frame? f = some frame → frame.phase.isMounted = true →
      frame.config.Complete :=
  forall_frame_after (fun frame hblank hmounted => by rw [hblank.phase] at hmounted; cases hmounted)
    (fun _ _ _ _ _ ht hc => ht.complete hc) hs as i

/-! ## The two ways -/

/-- A task is queued behind the calls of a frame: it is posted if there are none, and deferred
otherwise. -/
structure Queues (h h' : Host) (frame frame' : Frame) (task : Task) (responder : Responder) :
    Prop where
  pending : frame'.bus.pending = frame.bus.pending ++ [⟨task.method, responder⟩]
  sent : frame.bus.pending = [] → frame'.bus.deferred = frame.bus.deferred ∧
    ∃ target, frame.bus.target = some target ∧
      h'.page = h.page.post (frame.bus.message target task)
  deferred : frame.bus.pending ≠ [] →
    frame'.bus.deferred = frame.bus.deferred ++ [task] ∧ h'.page = h.page

/-- A call that the bus of a frame takes. -/
theorem call_of_execute (hf : h.frame? f = some frame) {method : Method} {bus : Bus}
    {posted : Option Posted} (hx : frame.bus.execute (Task.ofMethod method)
      (.channel (h.lastChannel + 1)) = .ok (bus, posted)) :
    h.call f method = ({ h.newChannel.1.setBus (.frame f) bus with page := h.page.post? posted },
      .waiting (h.lastChannel + 1), []) := by
  have hbus : h.newChannel.1.bus? (.frame f) = some frame.bus := bus?_of_frame? hf
  rw [call_eq]
  unfold execute
  rw [hbus]
  dsimp only
  rw [hx]
  rfl

/-- A mounted frame takes every task that updates its configuration. -/
theorem queues_call (hf : h.frame? f = some frame) (htarget : frame.bus.target.isSome = true)
    {method : Method} (hupdate : (Task.ofMethod method).isConfigUpdate = true) :
    ∃ bus, (h.call f method).1.frame? f = some { frame with bus } ∧
      h.Queues (h.call f method).1 frame { frame with bus } (Task.ofMethod method)
        (.channel (h.lastChannel + 1)) ∧
      (h.call f method).2.1 = .waiting (h.lastChannel + 1) := by
  -- An update of the configuration is taken before the load already, given a target.
  have haccepts : frame.bus.accepts (Task.ofMethod method) = true := by
    unfold Bus.accepts Bus.admits
    rw [hupdate, Bool.or_true, htarget]
    rfl
  have hset : ∀ bus posted, Host.frame? { h.newChannel.1.setBus (.frame f) bus with
      page := h.page.post? posted } f = some { frame with bus } := fun bus _ =>
    (sets_modifyFrame hf fun frame => { frame with bus }).frame?
  rcases Bus.execute_cases frame.bus (Task.ofMethod method) (.channel (h.lastChannel + 1)) with
    ⟨e, he⟩ | ⟨target, htarget, hx⟩
  · obtain ⟨r, hr⟩ := Bus.accepts_iff.mp haccepts
    rw [he] at hr
    cases hr
  · -- The task is posted at once if it is the first, and waits otherwise.
    by_cases hpending : frame.bus.pending = []
    · rw [if_pos hpending] at hx
      rw [call_of_execute hf hx]
      refine ⟨_, hset _ _, ⟨?_, fun _ => ⟨rfl, target, htarget, rfl⟩, ?_⟩, rfl⟩
      · rw [hpending, List.nil_append]
      · exact fun hne => absurd hpending hne
    · rw [if_neg hpending] at hx
      rw [call_of_execute hf hx]
      exact ⟨_, hset _ _, ⟨rfl, fun hnil => absurd hnil hpending, fun _ => ⟨rfl, rfl⟩⟩, rfl⟩

/-- A change that needs a mount: the frame is mounted again, perhaps in vain. -/
theorem configure_remounts (hf : h.frame? f = some frame) (hc : frame.config.Complete)
    (hreload : (frame.phase.isMounted && frame.config.requiresReload patch) = true) :
    (h.configure f patch).1 = (h.mount f patch).1 ∧
      (h.configure f patch).2.1 = .settled (some (.ok (frame.config.merged patch).toValue)) ∧
      ∃ frame', (h.mount f patch).1.frame? f = some frame' ∧
        frame'.config = frame.config.merged patch ∧
        frame'.generation = frame.generation + 1 := by
  -- The defaults that a mount lays under a complete configuration change nothing.
  have hconfig : (frame.renewed patch).config = frame.config.merged patch := by
    show (Config.defaults.merged frame.config).merged patch = _
    rw [hc.defaults_merged]
  -- A mount that fails has raised the generation by then, too.
  obtain ⟨frame', hf', hconfig', hg'⟩ : ∃ frame', (h.mount f patch).1.frame? f = some frame' ∧
      frame'.config = frame.config.merged patch ∧ frame'.generation = frame.generation + 1 := by
    rcases mount_cases hf patch with ⟨-, -, hs, -⟩ | ⟨place, nodes, -, -, hplaced⟩
    · exact ⟨_, hs.frame?, hconfig, rfl⟩
    · obtain ⟨check, hs⟩ := hplaced.frames
      exact ⟨_, hs.frame?, hconfig, rfl⟩
  have hconfigure : h.configure f patch = ((h.mount f patch).1,
      .settled (((h.mount f patch).1.frame? f).map fun frame => .ok frame.config.toValue), []) := by
    unfold configure
    rw [hf]
    dsimp only
    rw [if_pos hreload]
  refine ⟨by rw [hconfigure], ?_, frame', hf', hconfig', hg'⟩
  rw [hconfigure, hf', ← hconfig']
  rfl

/-- What becomes of a frame that is not mounted again: it has the new configuration, and the rest of it
stays but for the bus. If it is mounted, the application is told of the configuration, and otherwise
there is nobody to be told. -/
structure Updates (h : Host) (f : FrameRef) (frame frame' : Frame) (patch : Config) : Prop where
  stays : ∃ bus, frame' = { frame with config := frame.config.merged patch, bus }
  told : frame.phase.isMounted = true →
    h.Queues (h.configure f patch).1 frame frame'
        (Task.ofMethod (.setConfig (frame.config.merged patch).toValue))
        (.channel (h.lastChannel + 1)) ∧
      (h.configure f patch).2.1 = .waiting (h.lastChannel + 1)
  untold : frame.phase.isMounted = false →
    frame'.bus = frame.bus ∧ (h.configure f patch).1.page = h.page ∧
      (h.configure f patch).2.1 = .settled (some (.error (.frameNotMounted frame.bus.frameId)))

/-- A change that needs no mount. -/
theorem configure_updates (hf : h.frame? f = some frame) (hw : frame.Wired)
    (hreload : (frame.phase.isMounted && frame.config.requiresReload patch) = false) :
    ∃ frame', (h.configure f patch).1.frame? f = some frame' ∧ h.Updates f frame frame' patch := by
  cases hmounted : frame.phase.isMounted with
  | false =>
    -- An unmounted frame has no target, so its call is refused and only the merge remains.
    have hrest := hw.resting hmounted
    have hs := sets_modifyFrame hf fun frame => { frame with config := frame.config.merged patch }
    have hconfigure := configure_of_unmounted hf hmounted hrest patch
    refine ⟨{ frame with config := frame.config.merged patch }, ?_, ⟨frame.bus, rfl⟩, ?_, fun _ => ?_⟩
    · rw [hconfigure]
      exact hs.frame?
    · exact fun htrue => Bool.noConfusion (hmounted.symm.trans htrue)
    · rw [hconfigure]
      exact ⟨rfl, rfl, rfl⟩
  | true =>
    have hs := sets_modifyFrame hf fun frame' => { frame' with config := frame.config.merged patch }
    have hconfigure : h.configure f patch =
        (h.modifyFrame f fun frame' => { frame' with config := frame.config.merged patch }).call f
          (.setConfig (frame.config.merged patch).toValue) := by
      unfold configure
      rw [hf]
      dsimp only
      rw [hreload, if_neg Bool.noConfusion]
    have hupdate :
        (Task.ofMethod (.setConfig (frame.config.merged patch).toValue)).isConfigUpdate = true := rfl
    obtain ⟨bus, hf', hqueues, hcall⟩ := queues_call hs.frame? (hw.mounted hmounted) hupdate
    refine ⟨_, by rw [hconfigure]; exact hf', ⟨bus, rfl⟩, fun _ => ?_, fun hfalse => ?_⟩
    · rw [hconfigure]
      exact ⟨⟨hqueues.pending, hqueues.sent, hqueues.deferred⟩, hcall⟩
    · exact Bool.noConfusion (hmounted.symm.trans hfalse)

end Host

namespace Session

/-! ## Runs -/

/-- Whenever a patch is laid over the configuration of a frame, the frame has its configuration with
the patch on top. It is mounted again exactly if it is mounted and the patch gives another value to a
field that the old configuration lists for that; then nothing is posted and the call is answered with
the new fields. Otherwise the mount goes on, and the application is told of all new fields by a call, if
there is an application to be told. With the new configuration the same patch mounts nothing. -/
theorem configure_overlays (origin : String) (allowList : Option AllowList) (defaults : Config)
    (runtime : Bool) (scripts : List (List Action)) (as : List Action) (i : ℕ) {f : FrameRef}
    {frame : Frame} (patch : Config) :
    let h := ((start origin allowList defaults runtime scripts).after as i).host
    let new := frame.config.merged patch
    h.frame? f = some frame →
    ∃ frame', (h.configure f patch).1.frame? f = some frame' ∧ frame'.config = new ∧
      (frame'.generation ≠ frame.generation ↔ frame.phase.isMounted = true ∧
        ∃ key ∈ frame.config.keysForReload, ∃ v,
          new.get? key = some v ∧ frame.config.holds key v = false) ∧
      (frame'.generation ≠ frame.generation → (h.configure f patch).1 = (h.mount f patch).1 ∧
        (h.configure f patch).1.page.posted = h.page.posted ∧
        (h.configure f patch).2.1 = .settled (some (.ok new.toValue))) ∧
      (frame'.generation = frame.generation → h.Updates f frame frame' patch) ∧
      ∀ (h₁ : Host) (frame₁ : Frame), h₁.frame? f = some frame₁ → frame₁.config = new →
        ((h₁.configure f patch).1.frame? f).map Frame.generation = some frame₁.generation := by
  intro h new hf
  have hw : frame.Wired :=
    Host.wired_after (wired_start origin allowList defaults runtime scripts) as i f frame hf
  have hc : frame.phase.isMounted = true → frame.config.Complete :=
    Host.complete_after (fun _ _ hnone => by cases hnone) as i f frame hf
  -- What a patch says is in the merged configuration, so the same patch changes no listed key.
  have hagain : ∀ (h₁ : Host) (frame₁ : Frame), h₁.frame? f = some frame₁ → frame₁.config = new →
      ((h₁.configure f patch).1.frame? f).map Frame.generation = some frame₁.generation := by
    intro h₁ frame₁ hf₁ hnew
    have hstays : frame₁.config.requiresReload patch = false := by
      rw [hnew]
      exact Config.requiresReload_merged frame.config patch
    rcases Host.configure_cases hf₁ patch with ⟨hreload, -⟩ | ⟨-, bus, posted, hs, -⟩
    · rw [hstays, Bool.and_false] at hreload
      cases hreload
    · exact congrArg (Option.map Frame.generation) hs.frame?
  have hiff : (frame.phase.isMounted && frame.config.requiresReload patch) = true ↔
      frame.phase.isMounted = true ∧ ∃ key ∈ frame.config.keysForReload, ∃ v,
        new.get? key = some v ∧ frame.config.holds key v = false := by
    rw [Bool.and_eq_true, Config.requiresReload_iff]
  cases hreload : (frame.phase.isMounted && frame.config.requiresReload patch) with
  | true =>
    have hmounted : frame.phase.isMounted = true := (Bool.and_eq_true _ _ ▸ hreload).1
    -- A listed key changes on a mounted frame: it is mounted anew.
    obtain ⟨hmount, hcall, frame', hf', hconfig, hg⟩ :=
      Host.configure_remounts hf (hc hmounted) hreload
    have hne : frame'.generation ≠ frame.generation := by omega
    refine ⟨frame', by rw [hmount]; exact hf', hconfig, ⟨fun _ => hiff.mp hreload, fun _ => hne⟩,
      fun _ => ⟨hmount, ?_, hcall⟩, fun hg' => absurd hg' hne, hagain⟩
    rw [hmount]
    exact Host.posted_mount hf patch
  | false =>
    -- No listed key changes: the generation stays, and the iframe is told.
    obtain ⟨frame', hf', hupdates⟩ := Host.configure_updates hf hw hreload
    obtain ⟨bus, rfl⟩ := hupdates.stays
    refine ⟨_, hf', rfl, ⟨fun hne => absurd rfl hne, fun hkey => ?_⟩, fun hne => absurd rfl hne,
      fun _ => hupdates, hagain⟩
    have htrue := hiff.mpr hkey
    rw [hreload] at htrue
    cases htrue

/-- A frame is mounted. -/
def opened : List Action :=
  [.page (.insert "f" "slot"), .frame (.openFrame "A" none (.ok (slotted "f")))]

/-- Another mode mounts the frame again. -/
theorem configure_overlays_mode :
    let h := ((start "https://host.example.com" none Config.empty false []).after opened 4).host
    let patch := Config.ofFields [("mode", .string "room-selector")]
    ∃ frame frame', h.frame? 0 = some frame ∧ (h.configure 0 patch).1.frame? 0 = some frame' ∧
      frame'.config = frame.config.merged patch ∧ frame'.generation ≠ frame.generation ∧
      (h.configure 0 patch).1.page.posted = h.page.posted ∧
      (h.configure 0 patch).2.1 =
        .settled (some (.ok (frame.config.merged patch).toValue)) := by
  intro h patch
  have hreload : (h.frame? 0).map (fun frame =>
      (frame.phase.isMounted, frame.config.requiresReload patch)) = some (true, true) := by
    decide +kernel
  obtain ⟨frame, hf, hfields⟩ := Option.map_eq_some_iff.mp hreload
  obtain ⟨hmounted, hrequires⟩ := Prod.mk.inj hfields
  obtain ⟨frame', hf', hconfig, hiff, hremount, -⟩ := configure_overlays "https://host.example.com"
    none Config.empty false [] opened 4 patch hf
  have hne := hiff.mpr ⟨hmounted, Config.requiresReload_iff.mp hrequires⟩
  obtain ⟨-, hposted, hcall⟩ := hremount hne
  exact ⟨frame, frame', hf, hf', hconfig, hne, hposted, hcall⟩

end Session

end FrameHost
