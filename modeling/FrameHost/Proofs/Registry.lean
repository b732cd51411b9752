import FrameHost.Proofs.Renaming

/-!
# The registry

A frame is registered under the frame ID that it has (`Host.RegistryCoherent`). A mount that renames
the frame gives the old ID up, and tearing the frame down gives up the ID that it has then; a
configuration that renames the frame without a mount leaves the registry as it is. Nothing else can
make the registry incoherent (`registry_coherent_iff`).
-/

namespace FrameHost

namespace Host

variable {h h' : Host} {f g : FrameRef} {frame old : Frame} {k : String} {config : Config}

/-- Every registered frame has the frame ID that it is registered under. -/
def KeysMatch (h : Host) : Prop :=
  ∀ k f, h.registry.get? k = some f → ∃ frame, h.frame? f = some frame ∧ frame.frameId = k

/-- Frames are registered under their frame IDs, none of them under two, and none stays registered
when it is torn down. -/
structure RegistryCoherent (h : Host) : Prop where
  ids : h.KeysMatch
  once : ∀ k k' f, h.registry.get? k = some f → h.registry.get? k' = some f → k = k'
  left : ∀ f frame, h.frame? f = some frame → frame.phase.isMounted = true →
    ∀ k, (h.destroy f).registry.get? k ≠ some f

/-! ## Entries -/

/-- A registered ID was registered before, or it is the frame's own. -/
theorem get?_register (hf : h.frame? f = some frame)
    (hk : (h.register f).registry.get? k = some g) :
    h.registry.get? k = some g ∨ k = frame.frameId ∧ g = f := by
  unfold register at hk
  rw [hf] at hk
  dsimp only at hk
  split at hk
  · rw [Table.get?_insert] at hk
    split at hk
    · next heq => exact .inr ⟨heq, (Option.some.inj hk).symm⟩
    · exact .inl hk
  · exact .inl hk

/-- What is registered after a frame has left its ID was so before, and is not that frame under that
ID. -/
theorem get?_deregister {frameId : String}
    (hk : (h.deregister f frameId).registry.get? k = some g) :
    h.registry.get? k = some g ∧ ¬ (k = frameId ∧ g = f) := by
  unfold deregister at hk
  split at hk
  · rw [Table.get?_erase] at hk
    split at hk
    · cases hk
    · next hne => exact ⟨hk, fun hown => hne hown.1⟩
  · next hother =>
    refine ⟨hk, ?_⟩
    rintro ⟨rfl, rfl⟩
    exact hother hk

/-- Letting go of the old nodes keeps the registry. -/
theorem registry_release : (h.release f).registry = h.registry := by
  unfold release
  split
  · rfl
  · unfold abort
    split <;> rfl

/-- Starting a check keeps the registry. -/
theorem registry_startCheck : (h.startCheck f).registry = h.registry := by
  unfold startCheck
  split
  · rfl
  · split <;> rfl

/-- A mount that renames a frame gives its old entry up. -/
theorem get?_renew (hk : (h.renew f old config).registry.get? k = some g) :
    h.registry.get? k = some g ∧
      (old.frameId ≠ (old.renewed config).frameId → ¬ (k = old.frameId ∧ g = f)) := by
  have hreleased : ∀ g', ((h.release f).modifyFrame f g').registry = h.registry :=
    fun _ => registry_release
  unfold renew at hk
  dsimp only at hk
  -- Only a change of the frame ID takes the entry out.
  split at hk
  · next hsame =>
    rw [hreleased] at hk
    exact ⟨hk, fun hne => absurd hsame hne⟩
  · obtain ⟨hk, hown⟩ := get?_deregister hk
    rw [hreleased] at hk
    exact ⟨hk, fun _ => hown⟩

/-- The last thing that happens when a frame is put in its place is that it is registered. -/
theorem install_eq_register (place : Place) :
    ∃ h₁ : Host, ((h.prepare f frame place).install f frame place).1 = h₁.register f ∧
      h₁.registry = h.registry := by
  refine ⟨_, rfl, ?_⟩
  rw [registry_startCheck]
  cases place <;> rfl

/-- The entries after a mount: the frame may be registered under its new frame ID, and it is no
longer registered under the old one. -/
theorem get?_registry_mount (hf : h.frame? f = some old)
    (hk : (h.mount f config).1.registry.get? k = some g) :
    k = (old.renewed config).frameId ∧ g = f ∨
      h.registry.get? k = some g ∧
        (old.frameId ≠ (old.renewed config).frameId → ¬ (k = old.frameId ∧ g = f)) := by
  obtain ⟨hs, -, -⟩ := renew_spec hf config
  have hrenew : (h.renew f old config).registry.get? k = some g →
      h.registry.get? k = some g ∧
        (old.frameId ≠ (old.renewed config).frameId → ¬ (k = old.frameId ∧ g = f)) := get?_renew
  rw [mount_eq hf config] at hk
  generalize h.renew f old config = h₁ at hs hrenew hk
  rw [hs.frame?] at hk
  cases hplace : h₁.page.place? (old.renewed config).frameId with
  | none =>
    rw [hplace] at hk
    exact .inr (hrenew hk)
  | some place =>
    rw [hplace] at hk
    dsimp only at hk
    obtain ⟨nodes, -, hplaced⟩ := placed_install hs.frame? place
    obtain ⟨check, hs'⟩ := hplaced.frames
    obtain ⟨h₂, hinstall, hregistry⟩ := install_eq_register (h := h₁) (f := f) place
    rw [hinstall] at hk hs'
    -- Registering is the last thing that happens, so the frame is as it is in the end.
    rcases get?_register (hs'.of_frames frames_register.symm).frame? hk with hk | ⟨hkey, hown⟩
    · rw [hregistry] at hk
      exact .inr (hrenew hk)
    · exact .inl ⟨hkey, hown⟩

/-- Tearing a frame down leaves only entries that were there, and gives the one up that the frame
has under its frame ID. -/
theorem get?_registry_destroy (hf : h.frame? f = some frame)
    (hk : (h.destroy f).registry.get? k = some g) :
    h.registry.get? k = some g ∧
      (frame.phase.isMounted = true → ¬ (k = frame.frameId ∧ g = f)) := by
  unfold destroy at hk
  rw [hf] at hk
  dsimp only at hk
  split at hk
  · obtain ⟨hk, hown⟩ := get?_deregister hk
    have hreleased : (h.release f).registry = h.registry := registry_release
    exact ⟨hreleased ▸ hk, fun _ => hown⟩
  · next hmounted => exact ⟨hk, fun h => absurd h hmounted⟩

/-! ## Keys -/

/-- Everything else follows from the frame IDs. -/
theorem registryCoherent_iff_keysMatch : h.RegistryCoherent ↔ h.KeysMatch := by
  refine ⟨fun hc => hc.ids, fun hkeys => ⟨hkeys, fun k k' f hk hk' => ?_, ?_⟩⟩
  · obtain ⟨frame, hf, hid⟩ := hkeys k f hk
    obtain ⟨frame', hf', hid'⟩ := hkeys k' f hk'
    cases hf.symm.trans hf'
    exact hid.symm.trans hid'
  · intro f frame hf hmounted k hk
    obtain ⟨hk, hown⟩ := get?_registry_destroy hf hk
    obtain ⟨frame', hf', hid⟩ := hkeys k f hk
    cases hf.symm.trans hf'
    exact hown hmounted ⟨hid.symm, rfl⟩

/-- A mount sets right a frame that is registered under the frame ID that it is about to have. -/
theorem keysMatch_mount (hf : h.frame? f = some old)
    (hothers : ∀ k g, g ≠ f → h.registry.get? k = some g →
      ∃ frame, h.frame? g = some frame ∧ frame.frameId = k)
    (hown : ∀ k, h.registry.get? k = some f → k = old.frameId ∨ k = (old.renewed config).frameId) :
    (h.mount f config).1.KeysMatch := by
  -- The mount fails or succeeds under the new frame ID.
  obtain ⟨frame', hs, hid⟩ : ∃ frame', h.Sets (h.mount f config).1 f frame' ∧
      frame'.frameId = (old.renewed config).frameId := by
    rcases mount_cases hf config with ⟨-, -, hs, -⟩ | ⟨place, nodes, -, -, hplaced⟩
    · exact ⟨_, hs, rfl⟩
    · obtain ⟨check, hs⟩ := hplaced.frames
      exact ⟨_, hs, rfl⟩
  intro k g hk
  rcases get?_registry_mount hf hk with ⟨rfl, rfl⟩ | ⟨hbefore, hgone⟩
  · exact ⟨frame', hs.frame?, hid⟩
  · -- An entry that was there before, of the frame itself or of another one.
    by_cases hg : g = f
    · subst hg
      refine ⟨frame', hs.frame?, hid.trans ?_⟩
      rcases hown k hbefore with hold | hnew
      · -- It is still registered under its old frame ID, so it has kept that.
        by_contra hne
        exact hgone (fun heq => hne (heq.symm.trans hold.symm)) ⟨hold, rfl⟩
      · exact hnew.symm
    · rw [hs.frame?_of_ne hg]
      exact hothers k g hg hbefore

/-- Moves other than mounts and patches keep the frame IDs of frames. -/
theorem Turn.frameId_eq {m : Move} {frame' : Frame} (ht : h.Turn f frame m frame')
    (hmount : ∀ f config, m ≠ .mount f config) (hpatch : m.isPatch = false) :
    frame'.frameId = frame.frameId := by
  cases ht with
  | goesOn hgoes => exact congrArg Config.frameId hgoes.config
  | patched => cases hpatch
  | unplaced config => exact absurd rfl (hmount f config)
  | placed config => exact absurd rfl (hmount f config)
  | retired | destroyed => rfl

/-- Frames are registered by mounts only. -/
theorem get?_registry_move {m : Move} (hm : m.IsOrdinary) (hmount : ∀ f config, m ≠ .mount f config)
    (hk : (h.move m).registry.get? k = some g) : h.registry.get? k = some g := by
  cases hlocal : m.isLocal with
  | true => exact (shares_move hlocal).registry ▸ hk
  | false =>
    cases m with
    | enroll frameId => exact absurd rfl (hm.1 frameId)
    | mount f config => exact absurd rfl (hmount f config)
    | cache => exact hk
    -- A destroyed frame takes its own entry out, and no other.
    | destroy f =>
      cases hf : h.frame? f with
      | none =>
        have hsame : h.move (.destroy f) = h := destroy_of_none hf
        exact hsame ▸ hk
      | some frame => exact (get?_registry_destroy hf hk).1
    | _ => cases hlocal

/-- A mount registers the frame under the ID that it has then, if at all. -/
theorem KeysMatch.mount (hkeys : h.KeysMatch) (f : FrameRef) (config : Config) :
    (h.mount f config).1.KeysMatch := by
  cases hf : h.frame? f with
  | none =>
    rw [mount_of_none hf]
    exact hkeys
  | some old =>
    refine keysMatch_mount hf (fun k g _ hk => hkeys k g hk) fun k hk => .inl ?_
    obtain ⟨frame, hframe, hid⟩ := hkeys k f hk
    cases hf.symm.trans hframe
    exact hid.symm

/-- The registry matches in every ordinary move. -/
theorem KeysMatch.move {m : Move} (hkeys : h.KeysMatch) (hm : m.IsOrdinary) :
    (h.move m).KeysMatch := by
  by_cases hmount : ∃ f config, m = .mount f config
  · obtain ⟨f, config, rfl⟩ := hmount
    exact hkeys.mount f config
  · have hmount' : ∀ f config, m ≠ .mount f config := fun f config heq => hmount ⟨f, config, heq⟩
    intro k g hk
    obtain ⟨frame, hf, hid⟩ := hkeys k g (get?_registry_move hm hmount' hk)
    obtain ⟨frame', hf', ht⟩ := (turns_move m).turn g frame hf
    exact ⟨frame', hf', (ht.frameId_eq hmount' hm.2).trans hid⟩

/-- A frame that is made for a frame ID gets it with its first mount. -/
theorem KeysMatch.openFrame (hkeys : h.KeysMatch) (config : Config) :
    (h.openFrame config).1.KeysMatch := by
  unfold Host.openFrame
  dsimp only
  generalize h.defaults.merged config = config
  unfold registered addFrame
  cases hregistered : h.registry.get? config.frameId with
  | some f => exact hkeys.mount f config
  | none =>
    dsimp only
    generalize hmade :
      ({ cache := .shared, registers := true, checks := h.allowList.isSome } : Frame) = made
    have hconfig : made.config = Config.empty := hmade ▸ rfl
    -- The frame that is made has no frame ID of its own, so it takes that of the configuration.
    have hnew : h.frame? h.frames.length = none := List.getElem?_eq_none_iff.mpr (Nat.le_refl _)
    have hf : (h.frames ++ [made])[h.frames.length]? = some made := List.getElem?_concat_length
    refine keysMatch_mount hf (fun k g hne hk => ?_) fun k hk => ?_
    · rw [Table.get?_insert] at hk
      split at hk
      · exact absurd (Option.some.inj hk).symm hne
      · obtain ⟨frame, hf, hid⟩ := hkeys k g hk
        obtain ⟨hlt, -⟩ := List.getElem?_eq_some_iff.mp hf
        exact ⟨frame, (List.getElem?_append_left hlt).trans hf, hid⟩
    · rw [Table.get?_insert] at hk
      split at hk
      · next heq =>
        refine .inr ?_
        rw [Frame.frameId_renewed, heq, Config.frameId_merged_of (.inr (by rw [hconfig]; rfl))]
      · obtain ⟨frame, hf, -⟩ := hkeys k _ hk
        cases hnew.symm.trans hf

/-- Laying a configuration over that of a frame spoils the registry exactly if that renames a
registered frame. -/
theorem keysMatch_configure_iff (hkeys : h.KeysMatch) (f : FrameRef) (patch : Config) :
    (h.configure f patch).1.KeysMatch ↔
      ¬ ∃ frame, h.frame? f = some frame ∧ frame.RenamedBy patch ∧
        h.registry.get? frame.frameId = some f := by
  cases hf : h.frame? f with
  | none =>
    rw [configure_of_none hf]
    exact ⟨fun _ ⟨frame, hframe, _⟩ => (by cases hframe), fun _ => hkeys⟩
  | some frame =>
    rcases configure_cases hf patch with ⟨hreload, hmount⟩ | ⟨hreload, bus, -, hs, -, -, hregistry⟩
    · -- A remount moves the entry to the new frame ID.
      rw [hmount]
      refine ⟨?_, fun _ => hkeys.mount f patch⟩
      rintro - ⟨frame', hframe', ⟨hno, -⟩, -⟩
      cases hframe'
      rw [hreload] at hno
      cases hno
    · constructor
      · -- Without one the entry stays, under a frame ID that is gone.
        rintro hkeys' ⟨frame', hframe', ⟨-, hne⟩, hk⟩
        cases hframe'
        obtain ⟨frame'', hframe'', hid⟩ := hkeys' frame.frameId f (hregistry ▸ hk)
        cases hs.frame?.symm.trans hframe''
        exact hne hid
      · intro hnot k g hk
        rw [hregistry] at hk
        obtain ⟨frame', hframe', hid⟩ := hkeys k g hk
        by_cases hg : g = f
        · subst hg
          cases hf.symm.trans hframe'
          refine ⟨_, hs.frame?, ?_⟩
          by_contra hne
          rw [← hid] at hne hk
          exact hnot ⟨frame, rfl, ⟨hreload, hne⟩, hk⟩
        · exact ⟨frame', (hs.frame?_of_ne hg).trans hframe', hid⟩

end Host

namespace Session

/-- The registry is coherent up to the end of a run exactly if no configuration without a mount
renames a frame that is registered under its frame ID. -/
theorem registry_coherent_iff (origin : String) (allowList : Option AllowList) (defaults : Config)
    (runtime : Bool) (scripts : List (List Action)) (as : List Action) (i : ℕ) :
    let s := start origin allowList defaults runtime scripts
    (∀ j ≤ i, (s.after as j).host.RegistryCoherent) ↔
      ∀ j < i, ∀ f patch frame, (s.after as j).Configures f patch →
        (s.after as j).host.frame? f = some frame → frame.RenamedBy patch →
        (s.after as j).host.registry.get? frame.frameId ≠ some f := by
  intro s
  -- No frame is registered at first.
  have hstart : s.host.KeysMatch := fun k f hk => by cases hk
  have hiff := forall_host_iff hstart (fun h m hm hkeys => hkeys.move hm)
    (fun h config hkeys => hkeys.openFrame config)
    (fun h f patch hkeys => Host.keysMatch_configure_iff hkeys f patch) as i
  simp only [Host.registryCoherent_iff_keysMatch]
  refine hiff.trans ⟨?_, ?_⟩
  · intro hnone j hj f patch frame hc hf hrenamed hk
    exact hnone j hj f patch hc ⟨frame, hf, hrenamed, hk⟩
  · rintro hnone j hj f patch hc ⟨frame, hf, hrenamed, hk⟩
    exact hnone j hj f patch frame hc hf hrenamed hk

/-- A frame is mounted and registered, renamed without another mount, and torn down. -/
def renamedThenTornDown : List Action :=
  [.page (.insert "f" "slot"),
    .frame (.openFrame "A" none (.ok (Config.ofFields
      [("frameId", .string "f"), ("src", .string "https://app.example.com"),
        ("checkCSP", .bool false)]))),
    .frame (.configure "A" (.ok (Config.ofFields [("frameId", .string "g")])) "c"),
    .frame (.destroy "A")]

/-- The frame stays registered under the frame ID that it had, even when it has been torn down. -/
theorem registered_under_old_id :
    let s := start "https://host.example.com" none Config.empty false []
    let t := s.after renamedThenTornDown 9
    let u := s.after renamedThenTornDown 11
    t.agenda = [] ∧ ¬ t.host.RegistryCoherent ∧ u.agenda = [] ∧
      (u.host.frame? 0).map Frame.phase = some .destroyed ∧ u.host.registry.get? "f" = some 0 := by
  intro s t u
  -- Both states are evaluated, before the teardown and after it.
  have hbefore : (t.agenda.isEmpty, (t.host.frame? 0).map Frame.frameId,
      t.host.registry.get? "f") = (true, some "g", some 0) := by decide +kernel
  have hafter : (u.agenda.isEmpty, (u.host.frame? 0).map Frame.phase,
      u.host.registry.get? "f") = (true, some .destroyed, some 0) := by decide +kernel
  clear_value t u
  simp only [Prod.mk.injEq, List.isEmpty_iff] at hbefore hafter
  obtain ⟨hempty, hid, hkey⟩ := hbefore
  refine ⟨hempty, fun hcoherent => ?_, hafter⟩
  obtain ⟨frame, hf, hframe⟩ := hcoherent.ids "f" 0 hkey
  rw [hf, Option.map_some, hframe] at hid
  exact absurd hid (by decide)

end Session

end FrameHost
