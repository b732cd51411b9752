import FrameHost.Proofs.Turns

/-!
# Frames that are renamed

The frame ID of a frame is part of its configuration. A mount settles everything that depends on the
frame ID; a configuration that is laid over that of the frame without a mount
(`Session.Configures`, `Frame.RenamedBy`) changes the frame ID and nothing else. What every other
step keeps therefore holds up to the end of a run exactly if no such configuration spoils it
(`forall_host_iff`).
-/

namespace FrameHost

open Json (Value)

/-! ## Frame IDs of configurations -/

namespace Config

variable {c later : Config}

/-- The text of a merged key is that of the later configuration, if it has the key. -/
theorem text?_merged (key : String) :
    (c.merged later).text? key = ((((later.get? key).or (c.get? key)).bind Value.string?).filter
      (· ≠ "")) := by
  have hget : (c.merged later).get? key = (later.get? key).or (c.get? key) :=
    Table.get?_overlay c.fields later.fields key
  unfold text?
  rw [hget]

/-- The frame ID that is laid over another one counts, if there is one. -/
theorem frameId_merged :
    (c.merged later).frameId =
      if (later.get? "frameId").isSome then later.frameId else c.frameId := by
  unfold frameId
  rw [text?_merged]
  unfold text?
  cases later.get? "frameId" <;> rfl

/-- A configuration without a frame ID has the default one. -/
theorem frameId_of_none (h : later.get? "frameId" = none) : later.frameId = defaultFrameId := by
  unfold frameId text?
  rw [h]
  rfl

/-- The library's own configuration names no other frame. -/
theorem frameId_defaults_merged (c : Config) : (defaults.merged c).frameId = c.frameId := by
  rw [frameId_merged]
  split
  · rfl
  · next h => exact (frameId_of_none (Option.not_isSome_iff_eq_none.mp h)).symm

/-- A configuration gives its frame ID to one that has the same, or the default one. -/
theorem frameId_merged_of (h : c.frameId = later.frameId ∨ c.frameId = defaultFrameId) :
    (c.merged later).frameId = later.frameId := by
  rw [frameId_merged]
  split
  · rfl
  · next hnone =>
    rcases h with h | h
    · exact h
    · exact h.trans (frameId_of_none (Option.not_isSome_iff_eq_none.mp hnone)).symm

end Config

/-- A mount lays the configuration over that of the frame, as far as the frame ID goes. -/
theorem Frame.frameId_renewed (frame : Frame) (config : Config) :
    (frame.renewed config).frameId = (frame.config.merged config).frameId := by
  show ((Config.defaults.merged frame.config).merged config).frameId = _
  rw [Config.frameId_merged, Config.frameId_defaults_merged, ← Config.frameId_merged]

/-- A configuration that is laid over that of the frame gives it another frame ID, and does not
mount it again. -/
def Frame.RenamedBy (frame : Frame) (patch : Config) : Prop :=
  (frame.phase.isMounted && frame.config.requiresReload patch) = false ∧
    (frame.config.merged patch).frameId ≠ frame.frameId

namespace Host

variable {h h' : Host} {f : FrameRef} {frame : Frame}

/-! ## Calls and configurations -/

/-- A call of a frame changes its bus, and may post a message. -/
theorem call_cases (hf : h.frame? f = some frame) (m : Method) :
    ∃ bus posted, h.Sets (h.call f m).1 f { frame with bus } ∧
      frame.bus.SameLine bus ∧ (h.call f m).1.page = h.page.post? posted ∧
      (h.call f m).1.registry = h.registry := by
  have hf' : h.newChannel.1.frame? f = some frame := hf
  unfold call
  dsimp only
  -- The channel is taken first, and the bus may refuse all the same.
  rcases execute_cases hf' (Task.ofMethod m) (.channel h.newChannel.2) with
    ⟨e, hx, -⟩ | ⟨bus, posted, h', hx, hbus, hs, hpage, -⟩
  · rw [hx]
    refine ⟨frame.bus, none, fun f' => ?_, .refl _, rfl, rfl⟩
    show h.frame? f' = _
    split
    · next heq => exact heq ▸ hf
    · rfl
  · rw [hx]
    have hregistry : h'.registry = h.newChannel.1.registry := (shares_execute hx).registry
    exact ⟨bus, posted, hs, Bus.sameLine_execute hbus, hpage, hregistry⟩

/-- A configuration either mounts the frame again, or it changes the configuration and the bus of
the frame. -/
theorem configure_cases (hf : h.frame? f = some frame) (patch : Config) :
    ((frame.phase.isMounted && frame.config.requiresReload patch) = true ∧
        (h.configure f patch).1 = h.move (.mount f patch)) ∨
      ((frame.phase.isMounted && frame.config.requiresReload patch) = false ∧
        ∃ bus posted,
          h.Sets (h.configure f patch).1 f
            { frame with config := frame.config.merged patch, bus } ∧
          frame.bus.SameLine bus ∧ (h.configure f patch).1.page = h.page.post? posted ∧
          (h.configure f patch).1.registry = h.registry) := by
  unfold configure
  rw [hf]
  dsimp only
  cases hreload : (frame.phase.isMounted && frame.config.requiresReload patch) with
  | true => exact .inl ⟨rfl, rfl⟩
  | false =>
    -- A patch that takes no remount is merged and told to the iframe.
    have hs := sets_modifyFrame hf fun frame' =>
      { frame' with config := frame.config.merged patch }
    obtain ⟨bus, posted, hcall, hbus, hpage, hregistry⟩ :=
      call_cases hs.frame? (.setConfig (frame.config.merged patch).toValue)
    exact .inr ⟨rfl, bus, posted, hs.trans hcall, hbus, hpage, hregistry⟩

/-- Without a frame there is nothing to configure. -/
theorem configure_of_none (hf : h.frame? f = none) (patch : Config) :
    (h.configure f patch).1 = h := by
  unfold configure
  rw [hf]

/-- A move that neither registers a frame nor changes a configuration without a mount. -/
def Move.IsOrdinary (m : Move) : Prop := (∀ frameId, m ≠ .enroll frameId) ∧ m.isPatch = false

/-- The moves that act on a frame are ordinary. -/
theorem Move.ActsOn.isOrdinary {m : Move} (hm : m.ActsOn f) : m.IsOrdinary := by
  refine ⟨fun frameId heq => ?_, hm.2⟩
  rw [heq] at hm
  exact hm.1

end Host

namespace Session

open Host (Reaches)
open Host.Move (ActsOn IsOrdinary)

variable {s : Session} {f : FrameRef} {patch : Config} {job : Job} {jobs : List Job}

/-- The next job lays a configuration over that of a frame: on behalf of the host, or because the
application asks for it in a message. -/
def Configures (s : Session) (f : FrameRef) (patch : Config) : Prop :=
  match s.agenda with
  | .act _ (.frame (.configure name config _)) :: _ =>
    s.frames.get? name = some f ∧ config = .ok patch
  | .act _ (.frame (.handle name data)) :: _ =>
    s.frames.get? name = some f ∧ s.host.Patches f data patch
  | .deliver (.frame g) _ data :: _ => g = f ∧ s.isLive f = true ∧ s.host.Patches f data patch
  | _ => False

/-- An idle session configures nothing. -/
theorem Configures.agenda_ne_nil (hc : s.Configures f patch) : s.agenda ≠ [] := by
  intro hnil
  unfold Configures at hc
  rw [hnil] at hc
  exact hc

/-- A job that keeps no frame in use makes no difference to which frames are. -/
theorem isLive_tail (hagenda : s.agenda = job :: jobs) (hjob : job.frame? = none) :
    ({ s with agenda := jobs } : Session).isLive f = s.isLive f := by
  unfold isLive
  rw [hagenda, List.any_cons, hjob]
  simp

/-- A step that configures a frame leaves the host that this leaves. -/
theorem Configures.step_host (hc : s.Configures f patch) :
    s.step.host = (s.host.configure f patch).1 := by
  unfold Configures at hc
  split at hc
  · next nested name config call jobs hagenda =>
    obtain ⟨hname, rfl⟩ := hc
    rw [step_cons hagenda]
    show (Session.onFrame _ name _).host = _
    unfold onFrame
    dsimp only
    rw [hname]
    rfl
  · next nested name data jobs hagenda =>
    obtain ⟨hname, hpatches⟩ := hc
    rw [step_cons hagenda, ← Host.handle_eq_of_patches hpatches]
    show (Session.onFrame _ name _).host = _
    unfold onFrame
    dsimp only
    rw [hname]
    rfl
  · next g origin data jobs hagenda =>
    obtain ⟨rfl, hlive, hpatches⟩ := hc
    -- A message of the page reaches the live frame it is for.
    rw [step_cons hagenda, ← Host.handle_eq_of_patches hpatches]
    show (Session.deliver _ (.frame g) origin data).host = _
    unfold deliver
    dsimp only
    rw [isLive_tail hagenda rfl, hlive]
    rfl
  · exact hc.elim

/-- A job that can change a configuration without a mount does so, or it consists of other moves of
a frame. -/
theorem step_cases_of_configures (hagenda : s.agenda = job :: jobs)
    (hjob : job.configures = true) :
    (∃ f patch, s.Configures f patch) ∨ ∃ f, Reaches (ActsOn f) s.host s.step.host := by
  -- A name or a frame that is not there leaves the host as it is.
  have hidle : ∃ f, Reaches (ActsOn f) s.host s.host := ⟨0, Reaches.refl _⟩
  rw [step_cons hagenda]
  unfold Configures
  rw [hagenda]
  unfold Job.configures at hjob
  split at hjob
  · next nested name config call =>
    dsimp only
    refine onFrame_cases (P := fun t => _ ∨ ∃ f, Reaches (ActsOn f) s.host t.host)
      (.inr hidle) fun f hname => ?_
    cases config with
    | ok c => exact .inl ⟨f, c, hname, rfl⟩
    | error e => exact .inr hidle
  · next nested name data =>
    dsimp only
    refine onFrame_cases (P := fun t => _ ∨ ∃ f, Reaches (ActsOn f) s.host t.host)
      (.inr hidle) fun f hname => ?_
    rcases Host.handle_cases (h := s.host) (f := f) data with ⟨patch, hpatch⟩ | hr
    · exact .inl ⟨f, patch, hname, hpatch⟩
    · exact .inr ⟨f, hr⟩
  · next f origin data =>
    have hlive := isLive_tail (f := f) hagenda rfl
    show _ ∨ ∃ f, Reaches (ActsOn f) s.host (Session.deliver _ (.frame _) origin data).host
    unfold deliver
    dsimp only
    rw [hlive]
    split
    · next hf =>
      rcases Host.handle_cases (h := s.host) (f := f) data with ⟨patch, hpatch⟩ | hr
      · exact .inl ⟨f, patch, rfl, hf, hpatch⟩
      · exact .inr ⟨f, hr⟩
    · exact .inr hidle
  · cases hjob

/-- A step lays a configuration over that of a frame, or it mounts a registered frame, or it
consists of ordinary moves. -/
theorem step_cases (s : Session) :
    (∃ f patch, s.Configures f patch) ∨ (∃ config, s.step.host = (s.host.openFrame config).1) ∨
      Reaches IsOrdinary s.host s.step.host := by
  cases hagenda : s.agenda with
  | nil =>
    rw [step_nil hagenda]
    exact .inr (.inr (Reaches.refl _))
  | cons job jobs =>
    -- A job opens a frame, configures one or does neither.
    by_cases hopens : job.opens = true
    · unfold Job.opens at hopens
      split at hopens
      · next nested name mode config =>
        rw [step_cons hagenda]
        cases config with
        | error e => exact .inr (.inr (Reaches.refl _))
        | ok c =>
          cases mode with
          | none => exact .inr (.inl ⟨c, rfl⟩)
          | some mode => exact .inr (.inl ⟨c.apply (.mode mode), rfl⟩)
      · cases hopens
    by_cases hconfigures : job.configures = true
    · refine (step_cases_of_configures hagenda hconfigures).imp_right fun ⟨f, hr⟩ => .inr ?_
      exact hr.mono fun _ => Host.Move.ActsOn.isOrdinary
    · -- Its moves are ordinary: it makes no frame and patches none.
      refine .inr (.inr ((step_reaches hagenda).mono fun m hm => ⟨fun frameId heq => ?_, ?_⟩))
      · rw [heq] at hm
        exact hopens hm
      · cases m with
        | patch => exact absurd hm hconfigures
        | _ => rfl

/-- What holds at first, and is kept by ordinary moves and by mounts of registered frames, holds up
to the end of a run exactly if no configuration that is laid over that of a frame spoils it. -/
theorem forall_host_iff {I : Host → Prop} {Spoils : Host → FrameRef → Config → Prop}
    (start : I s.host) (move : ∀ h m, m.IsOrdinary → I h → I (h.move m))
    (opens : ∀ h config, I h → I (h.openFrame config).1)
    (configures : ∀ h f patch, I h → (I (h.configure f patch).1 ↔ ¬ Spoils h f patch))
    (as : List Action) (i : ℕ) :
    (∀ j ≤ i, I (s.after as j).host) ↔
      ∀ j < i, ∀ f patch, (s.after as j).Configures f patch →
        ¬ Spoils (s.after as j).host f patch := by
  constructor
  · -- The next state shows whether the configuration spoils what holds.
    intro hall j hj f patch hc
    have hkept : I (s.after as (j + 1)).host := hall (j + 1) hj
    rw [after_succ_of_ne_nil hc.agenda_ne_nil, hc.step_host] at hkept
    exact (configures _ f patch (hall j (Nat.le_of_lt hj))).mp hkept
  · -- By induction on the states; each step is of one of the three kinds.
    intro hspares j hj
    induction j with
    | zero => exact start
    | succ j ih =>
      have hI : I (s.after as j).host := ih (Nat.le_of_succ_le hj)
      rcases after_succ s as j with ⟨-, h⟩ | ⟨a, -, -, h⟩ | ⟨-, h⟩
      · rw [h]
        rcases step_cases (s.after as j) with ⟨f, patch, hc⟩ | ⟨config, hopen⟩ | hreaches
        · rw [hc.step_host]
          exact (configures _ f patch hI).mpr (hspares j hj f patch hc)
        · rw [hopen]
          exact opens _ config hI
        · exact hreaches.preserves move hI
      · rw [h, begin_host]
        exact move _ _ ⟨fun frameId heq => (by cases heq), rfl⟩ hI
      · rw [h]
        exact hI

end Session

end FrameHost
