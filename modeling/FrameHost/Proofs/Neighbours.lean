import FrameHost.Proofs.CallEvents
import FrameHost.Proofs.Estates
import FrameHost.Proofs.PathCache
import FrameHost.Proofs.Receivers
import FrameHost.Proofs.Registry

/-!
# Frames side by side

What an operation on a frame does to the other frames. They keep their state, their entries of the
registry and the paths that are cached for them (`Host.Confined`), as long as the frame does not take
one of their frame IDs. Their nodes stay on the page too, with one exception: a mount finds its place
by a DOM id, and what it finds may belong to another frame (`Host.Seizes`). `neighbours_spared` says
that there is no other exception, and `iframe_taken_for_container` that there is this one.
-/

namespace FrameHost

open Json (Value)

/-! ## Minor moves -/

/-- A move of a frame that neither mounts it nor ends its mount, and that leaves the nodes alone. -/
def Host.Move.Minor (f : FrameRef) : Host.Move → Prop
  | .showContent g | .patch g _ | .connect g _ | .fade g _ _ => g = f
  | .execute r _ _ | .reply r _ | .postNext r => r = .frame f
  | .openChannel => True
  | _ => False

namespace Host

open Move (Minor)

variable {h h' h'' : Host} {f g : FrameRef} {frame : Frame} {m : Move} {op : Frame.Op} {id : String}
  {n : NodeId}

/-- The moves of a call are minor. -/
theorem Move.Calls.minor (hm : m.Calls f) : m.Minor f := by
  cases m with
  | execute | openChannel => exact hm
  | _ => exact hm.elim

/-- A minor move gives the page no other shape. -/
theorem Move.Minor.reshapes (hm : m.Minor f) : m.reshapes = false := by
  cases m with
  | showContent | patch | connect | fade | execute | reply | postNext | openChannel => rfl
  | _ => exact hm.elim

/-- A minor move is local to its frame. -/
theorem Move.Minor.isLocal (hm : m.Minor f) : m.isLocal = true := by
  cases m with
  | showContent | patch | connect | fade | execute | reply | postNext | openChannel => rfl
  | _ => exact hm.elim

/-- No minor move is a mount. -/
theorem Move.Minor.ne_mount (hm : m.Minor f) (g : FrameRef) (config : Config) :
    m ≠ .mount g config := by
  rintro rfl
  exact hm

/-- Modifying a frame keeps the others. -/
theorem frame?_modifyFrame_of_ne (hne : g ≠ f) (u : Frame → Frame) :
    (h.modifyFrame f u).frame? g = h.frame? g :=
  (frame?_modifyFrame u g).trans (if_neg hne)

/-- Storing a frame's bus keeps the other frames. -/
theorem frame?_setBus_of_ne (hne : g ≠ f) (b : Bus) :
    (h.setBus (.frame f) b).frame? g = h.frame? g :=
  frame?_modifyFrame_of_ne hne _

/-- A minor move of a frame leaves the other frames alone. -/
theorem frame?_move_of_minor (hm : m.Minor f) (hne : g ≠ f) : (h.move m).frame? g = h.frame? g := by
  -- Every minor move modifies its own frame, or none.
  cases m with
  | openChannel => rfl
  | patch =>
    cases hm
    exact frame?_modifyFrame_of_ne hne _
  | showContent =>
    cases hm
    show (h.showContent f).1.frame? g = h.frame? g
    unfold showContent
    split
    · rfl
    · split
      · rfl
      · dsimp only
        split <;> exact frame?_modifyFrame_of_ne hne _
  | connect _ generation =>
    cases hm
    show (h.connect f generation).1.frame? g = h.frame? g
    unfold connect
    split
    · rfl
    · dsimp only
      split
      · rfl
      · exact frame?_modifyFrame_of_ne hne _
  | fade _ generation l =>
    cases hm
    exact congrArg (·[g]?) (frames_move (m := .fade f generation l) rfl)
  | execute _ task responder =>
    cases hm
    rcases h.host_execute (.frame f) task responder with hsame | ⟨b, bus, posted, -, -, hmove⟩
    · rw [hsame]
    · rw [hmove]
      exact frame?_setBus_of_ne hne _
  | reply _ data =>
    cases hm
    show (h.reply (.frame f) data).1.frame? g = h.frame? g
    rcases h.host_reply (.frame f) data with ⟨-, hreply⟩ | ⟨b, replies, -, hreply⟩
    · rw [hreply]
    · rw [hreply]
      exact frame?_setBus_of_ne hne _
  | postNext =>
    cases hm
    show (h.postNext (.frame f)).frame? g = h.frame? g
    rcases h.host_postNext (.frame f) with hsame | ⟨b, -, hnext⟩
    · rw [hsame]
    · rw [hnext]
      exact frame?_setBus_of_ne hne _
  | _ => exact hm.elim

/-- What an operation on a frame consists of: a mount, of a frame that may have to be made first, the
end of a mount, the removal of a loader, or minor moves. -/
theorem operate_cases (h : Host) (f : FrameRef) (op : Frame.Op) :
    (∃ config, op = .openFrame config) ∨
      (∃ config, h.operate f op = (h.mount f config).1) ∨
      h.operate f op = h.destroy f ∨
      (∃ generation l, op = .retire generation l) ∨
      Host.Reaches (Minor f) h (h.operate f op) := by
  -- Configuring is a mount, or a patch and a call.
  have hconfigure : ∀ patch, (h.configure f patch).1 = (h.mount f patch).1 ∨
      Host.Reaches (Minor f) h (h.configure f patch).1 := fun patch => by
    refine (configure_moves patch).imp_right fun hr => hr.mono ?_
    rintro m (rfl | hcalls)
    · rfl
    · exact hcalls.minor
  have hsingle : ∀ {m}, m.Minor f → Host.Reaches (Minor f) h (h.move m) := fun hm =>
    Reaches.single hm
  cases op with
  | openFrame config => exact .inl ⟨config, rfl⟩
  | mount config => exact .inr (.inl ⟨config, rfl⟩)
  | destroy => exact .inr (.inr (.inl rfl))
  | retire generation l => exact .inr (.inr (.inr (.inl ⟨generation, l, rfl⟩)))
  | showContent => exact .inr (.inr (.inr (.inr (hsingle (m := .showContent f) rfl))))
  | connect generation =>
    exact .inr (.inr (.inr (.inr (hsingle (m := .connect f generation) rfl))))
  | fade generation l =>
    exact .inr (.inr (.inr (.inr (hsingle (m := .fade f generation l) rfl))))
  | postNext => exact .inr (.inr (.inr (.inr (hsingle (m := .postNext (.frame f)) rfl))))
  | call m => exact .inr (.inr (.inr (.inr ((calls_call m).mono fun _ => Move.Calls.minor))))
  | callByName name params cb =>
    exact .inr (.inr (.inr (.inr ((calls_callByName name params cb).mono fun _ => Move.Calls.minor))))
  | configure patch =>
    rcases hconfigure patch with hmount | hminor
    · exact .inr (.inl ⟨patch, hmount⟩)
    · exact .inr (.inr (.inr (.inr hminor)))
  | handle data =>
    rcases handle_moves (h := h) (f := f) data with ⟨patch, hp⟩ | ⟨m, hm, hmove⟩ | hsame
    · have heq : h.operate f (.handle data) = (h.configure f patch).1 := handle_eq_of_patches hp
      rw [heq]
      rcases hconfigure patch with hmount | hminor
      · exact .inr (.inl ⟨patch, hmount⟩)
      · exact .inr (.inr (.inr (.inr hminor)))
    · have heq : h.operate f (.handle data) = h.move m := hmove
      rw [heq]
      -- Of the commands one shows the content and one destroys the frame; a return is a reply.
      rcases hm with rfl | rfl | ⟨data', rfl⟩
      · exact .inr (.inr (.inr (.inr (hsingle (m := .showContent f) rfl))))
      · exact .inr (.inr (.inl rfl))
      · exact .inr (.inr (.inr (.inr (hsingle (m := .reply (.frame f) data') rfl))))
    · have heq : h.operate f (.handle data) = h := hsame
      rw [heq]
      exact .inr (.inr (.inr (.inr (Reaches.refl h))))

/-! ## What is left to the other frames -/

/-- Of what frames have and share, only that of `f` has changed, and what is kept under the frame ID
`id`. -/
structure Confined (h h' : Host) (f : FrameRef) (id : String) : Prop where
  frames : ∀ g frame, g ≠ f → h.frame? g = some frame → h'.frame? g = some frame
  entries : ∀ k g, g ≠ f → (h'.registry.get? k = some g ↔ h.registry.get? k = some g)
  free : ∀ k, k ≠ id → h.registry.get? k = none → h'.registry.get? k = none
  paths : ∀ r k, k.frameId ≠ id → (h'.cache r).paths.get? k = (h.cache r).paths.get? k

/-- Standing still is confined. -/
theorem Confined.refl (h : Host) (f : FrameRef) (id : String) : h.Confined h f id :=
  ⟨fun _ _ _ hg => hg, fun _ _ _ => Iff.rfl, fun _ _ hk => hk, fun _ _ _ => rfl⟩

/-- Two confined changes are one. -/
theorem Confined.trans (hc : h.Confined h' f id) (hc' : h'.Confined h'' f id) :
    h.Confined h'' f id where
  frames g frame hne hg := hc'.frames g frame hne (hc.frames g frame hne hg)
  entries k g hne := (hc'.entries k g hne).trans (hc.entries k g hne)
  free k hne hk := hc'.free k hne (hc.free k hne hk)
  paths r k hne := (hc'.paths r k hne).trans (hc.paths r k hne)

/-- What the frames share stays as it is. -/
theorem confined_of_shares (hs : h.Shares h') (hframes : ∀ g, g ≠ f → h'.frame? g = h.frame? g) :
    h.Confined h' f id where
  frames g frame hne hg := (hframes g hne).trans hg
  entries k g _ := by rw [hs.registry]
  free k _ hk := by rwa [hs.registry]
  paths r k _ := by rw [cache_congr hs.caches]

/-- A minor move is confined to its frame. -/
theorem Move.Minor.confined (hm : m.Minor f) : h.Confined (h.move m) f id :=
  confined_of_shares (shares_move hm.isLocal) fun _ hne => frame?_move_of_minor hm hne

/-- Minor moves, one after another, are confined to their frame. -/
theorem Reaches.confined (hr : Host.Reaches (Minor f) h h') : h.Confined h' f id :=
  hr.preserves (P := fun h' => h.Confined h' f id) (fun _ _ hm hc => hc.trans hm.confined)
    (.refl h f id)

/-- The entry of another frame survives when a frame gives its own up. -/
theorem get?_deregister_of_ne (hne : g ≠ f) {k : String} (hk : h.registry.get? k = some g) :
    (h.deregister f id).registry.get? k = some g := by
  unfold deregister
  split
  · next hown =>
    have hkey : k ≠ id := by
      rintro rfl
      exact hne (Option.some.inj (hk.symm.trans hown))
    rw [Table.get?_erase, if_neg hkey]
    exact hk
  · exact hk

/-- A registration takes no ID that another frame has. -/
theorem get?_register_of_some {k : String} (hk : h.registry.get? k = some g) :
    (h.register f).registry.get? k = some g := by
  unfold register
  split
  · exact hk
  · next frame _ =>
    split
    · next hfree =>
      have hkey : k ≠ frame.frameId := by
        rintro rfl
        unfold Table.contains at hfree
        rw [hk] at hfree
        simp at hfree
      rw [Table.get?_insert, if_neg hkey]
      exact hk
    · exact hk

/-- A mount takes no ID that another frame has. -/
theorem get?_registry_mount_of_ne (hf : h.frame? f = some frame) (config : Config) (hne : g ≠ f)
    {k : String} (hk : h.registry.get? k = some g) :
    (h.mount f config).1.registry.get? k = some g := by
  obtain ⟨hs, -, -⟩ := renew_spec hf config
  -- Renewing gives up the old ID of the frame itself at most.
  have hrenew : (h.renew f frame config).registry.get? k = some g := by
    have hreleased : ((h.release f).modifyFrame f fun frame' => { frame' with
        config := (Config.defaults.merged frame.config).merged config }).registry.get? k = some g := by
      show (h.release f).registry.get? k = some g
      rwa [registry_release]
    unfold renew
    dsimp only
    split
    · exact hreleased
    · exact get?_deregister_of_ne hne hreleased
  rw [mount_eq hf config]
  generalize h.renew f frame config = h₁ at hs hrenew
  rw [hs.frame?]
  cases hplace : h₁.page.place? (frame.renewed config).frameId with
  | none => exact hrenew
  | some place =>
    dsimp only
    obtain ⟨h₂, hinstall, hregistry⟩ := install_eq_register (h := h₁) (f := f) place
    rw [hinstall]
    exact get?_register_of_some (hregistry ▸ hrenew)

/-- A mount keeps to the frame and to its new frame ID. -/
theorem confined_mount (hf : h.frame? f = some frame) (config : Config) :
    h.Confined (h.mount f config).1 f (frame.renewed config).frameId := by
  refine ⟨fun g other hne hg => ?_, fun k g hne => ⟨fun hk => ?_, fun hk => ?_⟩, fun k hne hk => ?_,
    fun r k hne => ?_⟩
  · -- Placed or not, the frame itself is set and no other.
    rcases mount_cases hf config with ⟨-, -, hs, -⟩ | ⟨place, nodes, -, -, hplaced⟩
    · exact (hs.frame?_of_ne hne).trans hg
    · obtain ⟨check, hs⟩ := hplaced.frames
      exact (hs.frame?_of_ne hne).trans hg
  · rcases get?_registry_mount hf hk with ⟨-, hown⟩ | ⟨hbefore, -⟩
    · exact absurd hown hne
    · exact hbefore
  · exact get?_registry_mount_of_ne hf config hne hk
  · -- An ID that becomes taken is the one that the frame has now.
    cases hk' : (h.mount f config).1.registry.get? k with
    | none => rfl
    | some g =>
      rcases get?_registry_mount hf hk' with ⟨hkey, -⟩ | ⟨hbefore, -⟩
      · exact absurd hkey hne
      · cases hk.symm.trans hbefore
  · -- Whatever the mount drops or asks for is kept under the new frame ID.
    have hkey : k ≠ (frame.renewed config).config.pathKey := fun heq => hne (heq ▸ rfl)
    have hid : k.frameId ≠ (frame.renewed config).config.frameId := hne
    rw [get?_mount, pathEvents_mount hf]
    unfold mountEvents
    split
    · split <;> simp [PathEvent.keep, hkey, hid]
    · rfl

/-- The end of a mount keeps to the frame and to its frame ID. -/
theorem confined_destroy (hf : h.frame? f = some frame) :
    h.Confined (h.destroy f) f frame.frameId := by
  refine ⟨fun g other hne hg => ?_, fun k g hne => ⟨fun hk => ?_, fun hk => ?_⟩, fun k hne hk => ?_,
    fun r k hne => ?_⟩
  · rcases destroy_cases hf with ⟨-, hsame⟩ | ⟨-, hs, -⟩
    · rwa [hsame]
    · exact (hs.frame?_of_ne hne).trans hg
  · exact (get?_registry_destroy hf hk).1
  · unfold destroy
    rw [hf]
    dsimp only
    split
    · refine get?_deregister_of_ne hne ?_
      show (h.release f).registry.get? k = some g
      rwa [registry_release]
    · exact hk
  · -- Destroying takes no ID.
    cases hk' : (h.destroy f).registry.get? k with
    | none => rfl
    | some g => cases hk.symm.trans (get?_registry_destroy hf hk').1
  · rw [get?_destroy, pathEvents_destroy hf]
    split <;> simp [PathEvent.keep, hne]

/-- Retiring a loader is confined to its frame. -/
theorem confined_retire (generation : ℕ) (l : NodeId) :
    h.Confined (h.move (.retire f generation l)) f id := by
  refine confined_of_shares (shares_move rfl) fun g hne => ?_
  show (h.retireLoader f generation l).1.frame? g = h.frame? g
  cases hf : h.frame? f with
  | none => rw [retireLoader_of_none hf]
  | some frame =>
    rcases retireLoader_cases hf generation l with ⟨-, hsame⟩ | ⟨-, hs, -⟩
    · rw [hsame]
    · exact hs.frame?_of_ne hne

/-! ## The nodes of the other frames -/

/-- `f` was mounted when the page was `p`, and in place of a node that `n` lay under. -/
def Seizes (h : Host) (p : Page) (f : FrameRef) (n : NodeId) : Prop :=
  ∃ frame i place, h.frame? f = some frame ∧ frame.iframe? = some i ∧ p.lastId < i ∧
    p.place? frame.frameId = some place ∧ p.Under place.node n

/-- A node is attached in `h'` as it was on the page `p`, unless a mount of `f` took its place. -/
structure Leaves (p : Page) (h' : Host) (f : FrameRef) (n : NodeId) : Prop where
  seized : h'.Seizes p f n → h'.page.isAttached n = false
  left : ¬ h'.Seizes p f n → h'.page.isAttached n = p.isAttached n

/-- Without a new iframe there was no mount. -/
theorem not_seizes {p : Page} (hold : ∀ frame i, h.frame? f = some frame → frame.iframe? = some i →
    i ≤ p.lastId) : ¬ h.Seizes p f n := by
  rintro ⟨frame, i, place, hf, hi, hlt, -⟩
  exact absurd hlt (Nat.not_lt.mpr (hold frame i hf hi))

/-- Removing a listener detaches nothing. -/
theorem isAttached_removeListener? (p : Page) (l : Option ListenerId) :
    (p.removeListener? l).isAttached n = p.isAttached n := by
  cases l <;> rfl

/-- Removing a listener moves no node. -/
theorem under_removeListener? (p : Page) (l : Option ListenerId) (root : NodeId) :
    (p.removeListener? l).Under root n ↔ p.Under root n :=
  Page.under_congr (S := fun _ => True) trivial (fun _ _ _ _ => trivial)
    (fun _ _ => by cases l <;> rfl) n

/-- A mount detaches what lies under the node that it takes the place of. -/
theorem leaves_mount (he : h.Estates) (f : FrameRef) (config : Config) (hn : n ≤ h.page.lastId) :
    Leaves h.page (h.mount f config).1 f n := by
  cases hf : h.frame? f with
  | none =>
    rw [mount_of_none hf]
    have hnot : ¬ h.Seizes h.page f n :=
      not_seizes fun frame i hf' => by cases hf.symm.trans hf'
    exact ⟨fun hs => absurd hs hnot, fun _ => rfl⟩
  | some frame =>
    rcases mount_cases hf config with ⟨-, -, hs, hpage, -⟩ | ⟨place, nodes, hplace, -, hplaced⟩
    · have hnot : ¬ (h.mount f config).1.Seizes h.page f n := not_seizes fun frame' i hf' hi => by
        cases hs.frame?.symm.trans hf'
        cases hi
      refine ⟨fun hs => absurd hs hnot, fun _ => ?_⟩
      rw [hpage]
      exact isAttached_removeListener? _ _
    · have hfounds := hplaced.founds
      rw [place?_removeListener?] at hplace
      obtain ⟨⟨check, hs⟩, ⟨p, hbuild, hpage⟩, -⟩ := hplaced
      -- The mount is what seizes.
      have hseizes : (h.mount f config).1.Seizes h.page f n ↔ h.page.Under place.node n := by
        constructor
        · rintro ⟨frame', i, place', hf', -, -, hplace', hunder⟩
          cases hs.frame?.symm.trans hf'
          cases hplace.symm.trans hplace'
          exact hunder
        · exact fun hunder => ⟨_, _, place, hs.frame?, rfl, hfounds.new, hplace, hunder⟩
      have hlays := Page.lays_build hbuild
      have hadds := hlays.adds (he.numbered_removeListener? frame.listener)
      -- None of the new nodes was there before.
      have hold : ¬ nodes.Owns n := fun howns =>
        absurd (Nat.lt_of_lt_of_le hfounds.new howns.1) (Nat.not_lt.mpr hn)
      have hattached : (h.mount f config).1.page.isAttached n =
          (h.page.isAttached n && !decide (h.page.Under place.node n)) := by
        calc (h.mount f config).1.page.isAttached n
            = (p.replace place.node nodes.container).isAttached n := by
              rw [hpage]
              rfl
          _ = ((h.page.removeListener? frame.listener).isAttached n &&
                !decide ((h.page.removeListener? frame.listener).Under place.node n)) :=
              hadds.isAttached_replace hlays.ordered.owns_container hold
          _ = (h.page.isAttached n && !decide (h.page.Under place.node n)) := by
              rw [isAttached_removeListener?, decide_eq_decide.mpr (under_removeListener? _ _ _)]
      refine ⟨fun hs => ?_, fun hs => ?_⟩
      · rw [hattached]
        simp [hseizes.mp hs]
      · have hnot : ¬ h.page.Under place.node n := fun hu => hs (hseizes.mpr hu)
        rw [hattached]
        simp [hnot]

/-- The end of a mount puts an element in the place of the container of the frame, and detaches nodes
of the frame only. -/
theorem isAttached_destroy (he : h.Estates) {nodes : Mounted} (hg : h.nodesOf? g = some nodes)
    (hne : g ≠ f) (howns : nodes.Owns n) : (h.destroy f).page.isAttached n = h.page.isAttached n := by
  cases hf : h.frame? f with
  | none => rw [destroy_of_none hf]
  | some frame =>
    rcases destroy_cases hf with ⟨-, hsame⟩ | ⟨-, -, hpage, -⟩
    · rw [hsame]
    · rw [hpage]
      refine Eq.trans ?_ (isAttached_removeListener? h.page frame.listener)
      unfold restoredPage
      cases hnodes : frame.nodes with
      | none => rfl
      | some own =>
        have hown : h.nodesOf? f = some own := (nodesOf?_of_frame? hf).trans hnodes
        -- The element is new, and what lies under the container is of the frame.
        have hfresh := he.numbered_removeListener? frame.listener _ (Nat.lt_succ_self _)
        have hold : n ≠ (h.page.removeListener? frame.listener).lastId + 1 := by
          have hle := he.le_lastId hg howns
          rw [Page.lastId_removeListener?]
          lia
        have hnot : ¬ (h.page.removeListener? frame.listener).Under own.container n := by
          rw [under_removeListener?]
          exact he.not_under hown hg hne (he.ordered f own hown).owns_container howns
        refine ((Page.adds_add rfl hfresh).isAttached_replace rfl hold).trans ?_
        simp [hnot]

/-- A loader that goes belongs to the frame. -/
theorem isAttached_retire (he : h.Estates) {nodes : Mounted} (hg : h.nodesOf? g = some nodes)
    (hne : g ≠ f) (howns : nodes.Owns n) {generation : ℕ} {l : NodeId}
    (haims : h.Aims (.retire f generation l)) :
    (h.move (.retire f generation l)).page.isAttached n = h.page.isAttached n := by
  show (h.retireLoader f generation l).1.page.isAttached n = _
  obtain ⟨frame, hf, -, hown⟩ := haims f generation l rfl rfl
  rcases retireLoader_cases hf generation l with ⟨-, hsame⟩ | ⟨hgeneration, -, hpage, -⟩
  · rw [hsame]
  · obtain ⟨own, hnodes, hlt, hgt⟩ := hown hgeneration
    have howns' : own.Owns l := ⟨Nat.le_of_lt hlt, Nat.le_of_lt hgt⟩
    have hnot := he.not_under ((nodesOf?_of_frame? hf).trans hnodes) hg hne howns' howns
    rw [hpage, Page.isAttached_remove]
    simp [hnot]

/-- Moves that leave the nodes alone attach and detach nothing. -/
theorem isAttached_move (hm : m.reshapes = false) :
    (h.move m).page.isAttached n = h.page.isAttached n :=
  Page.isAttached_congr (Page.map_node?_of_shape (shape_move hm n) Node.attached fun _ => rfl)

/-- Only a mount gives a frame a new iframe. -/
theorem iframe_le_move {p : Page} (hm : ∀ g config, m ≠ .mount g config)
    (hold : ∀ frame i, h.frame? f = some frame → frame.iframe? = some i → i ≤ p.lastId) :
    ∀ frame i, (h.move m).frame? f = some frame → frame.iframe? = some i → i ≤ p.lastId := by
  intro frame i hf hi
  rcases iframe_move hf hi with ⟨frame₀, hf₀, hi₀⟩ | ⟨⟨config, hmount⟩, -⟩
  · exact hold frame₀ i hf₀ hi₀
  · exact absurd hmount (hm f config)

/-! ## Operations -/

/-- A mount renews the frame, whether there is a place for it or not. -/
theorem renewed_of_mount (hf : h.frame? f = some frame) {config : Config} {new : Frame}
    (hnew : (h.mount f config).1.frame? f = some new) :
    new.config = (frame.renewed config).config ∧ new.generation = frame.generation + 1 := by
  rcases mount_cases hf config with ⟨-, -, hs, -⟩ | ⟨place, nodes, -, -, hplaced⟩
  · cases hs.frame?.symm.trans hnew
    exact ⟨rfl, rfl⟩
  · obtain ⟨check, hs⟩ := hplaced.frames
    cases hs.frame?.symm.trans hnew
    exact ⟨rfl, rfl⟩

/-- A frame has the ID of its renewed configuration once it is mounted. -/
theorem frameId_mount (hf : h.frame? f = some frame) {config : Config} {new : Frame}
    (hnew : (h.mount f config).1.frame? f = some new) :
    new.frameId = (frame.renewed config).frameId :=
  congrArg Config.frameId (renewed_of_mount hf hnew).1

/-- A frame that is made for a frame ID has no configuration yet. -/
theorem frame?_registered {frameId : String} (hnone : h.registry.get? frameId = none) :
    ∃ frame, (h.registered frameId).1.frame? (h.registered frameId).2 = some frame ∧
      frame.config = Config.empty := by
  unfold registered
  rw [hnone]
  exact ⟨_, List.getElem?_concat_length, rfl⟩

/-- A frame that is made for a frame ID is registered under it. -/
theorem confined_registered {frameId : String} (hid : h.registry.get? frameId = none → id = frameId) :
    h.Confined (h.registered frameId).1 (h.registered frameId).2 id := by
  unfold registered
  cases hregistered : h.registry.get? frameId with
  | some f => exact .refl h f id
  | none =>
    -- The ID was free: a new frame takes it.
    cases hid hregistered
    dsimp only [addFrame]
    refine ⟨fun g frame _ hg => ?_, fun k g hne => ?_, fun k hne hk => ?_, fun _ _ _ => rfl⟩
    · obtain ⟨hlt, -⟩ := List.getElem?_eq_some_iff.mp hg
      exact (List.getElem?_append_left hlt).trans hg
    · dsimp only
      rw [Table.get?_insert]
      split
      · next hk =>
        rw [hk, hregistered]
        simp [Ne.symm hne]
      · exact Iff.rfl
    · dsimp only
      rw [Table.get?_insert, if_neg hne]
      exact hk

/-- What an operation on a frame does to the others: they keep what they have and what is kept for
them, and their nodes stay attached unless a mount takes their place. -/
theorem operate_neighbours (he : h.Estates) (hopen : ∀ c, op = .openFrame c → f = (h.openFrame c).2)
    (haims : ∀ generation l, op = .retire generation l → h.Aims (.retire f generation l)) {new : Frame}
    (hnew : (h.operate f op).frame? f = some new) :
    h.Confined (h.operate f op) f new.frameId ∧
      ∀ g nodes n, g ≠ f → h.nodesOf? g = some nodes → nodes.Owns n →
        Leaves h.page (h.operate f op) f n := by
  have hiframe : ∀ frame i, h.frame? f = some frame → frame.iframe? = some i →
      i ≤ h.page.lastId := fun frame i hf hi => he.housed.iframe_le f frame i hf hi
  have hleaves : ∀ {h'}, (∀ frame i, h'.frame? f = some frame → frame.iframe? = some i →
      i ≤ h.page.lastId) → ∀ n, h'.page.isAttached n = h.page.isAttached n →
      Leaves h.page h' f n := fun hold n hsame =>
    ⟨fun hs => absurd hs (not_seizes hold), fun _ => hsame⟩
  rcases operate_cases h f op with ⟨c, rfl⟩ | ⟨config, hmount⟩ | hdestroy |
    ⟨generation, l, rfl⟩ | hminor
  · -- The frame may have to be made, and then it is mounted.
    have hf := hopen c rfl
    change f = (h.registered (h.defaults.merged c).frameId).2 at hf
    change ((h.registered (h.defaults.merged c).frameId).1.mount
      (h.registered (h.defaults.merged c).frameId).2 (h.defaults.merged c)).1.frame? f = some new at hnew
    show h.Confined ((h.registered (h.defaults.merged c).frameId).1.mount
        (h.registered (h.defaults.merged c).frameId).2 (h.defaults.merged c)).1 f new.frameId ∧
      ∀ g nodes n, g ≠ f → h.nodesOf? g = some nodes → nodes.Owns n →
        Leaves h.page ((h.registered (h.defaults.merged c).frameId).1.mount
          (h.registered (h.defaults.merged c).frameId).2 (h.defaults.merged c)).1 f n
    generalize h.defaults.merged c = config at hf hnew ⊢
    have he₁ : (h.registered config.frameId).1.Estates := he.move (.enroll config.frameId)
    have hpage : (h.registered config.frameId).1.page = h.page := by
      unfold registered
      split <;> rfl
    cases hf₁ : (h.registered config.frameId).1.frame? (h.registered config.frameId).2 with
    | none =>
      rw [mount_of_none hf₁, hf] at hnew
      cases hf₁.symm.trans hnew
    | some frame =>
      rw [← hf] at hf₁ hnew ⊢
      have hnewId := frameId_mount hf₁ hnew
      -- A frame that was made gets the frame ID that it was made for.
      have hid : h.registry.get? config.frameId = none → new.frameId = config.frameId := by
        intro hnone
        obtain ⟨made, hmade, hempty⟩ := frame?_registered hnone
        cases (hf ▸ hf₁).symm.trans hmade
        rw [hnewId, Frame.frameId_renewed, Config.frameId_merged_of (.inr (by rw [hempty]; rfl))]
      have hconfined : h.Confined (h.registered config.frameId).1 f new.frameId :=
        hf ▸ confined_registered hid
      refine ⟨hconfined.trans (hnewId ▸ confined_mount hf₁ config), fun g nodes n _ hg howns => ?_⟩
      have hleft := leaves_mount (n := n) he₁ f config
      rw [hpage] at hleft
      exact hleft (he.le_lastId hg howns)
  · rw [hmount] at hnew ⊢
    cases hf : h.frame? f with
    | none =>
      rw [mount_of_none hf] at hnew
      cases hf.symm.trans hnew
    | some frame =>
      refine ⟨frameId_mount hf hnew ▸ confined_mount hf config, fun g nodes n _ hg howns => ?_⟩
      exact leaves_mount he f config (he.le_lastId hg howns)
  · rw [hdestroy] at hnew ⊢
    have hleft := iframe_le_move (m := .destroy f) (p := h.page) (fun _ _ => by simp) hiframe
    refine ⟨?_, fun g nodes n hne hg howns => hleaves hleft n (isAttached_destroy he hg hne howns)⟩
    cases hf : h.frame? f with
    | none =>
      rw [destroy_of_none hf] at hnew
      cases hf.symm.trans hnew
    | some frame =>
      have hid : new.frameId = frame.frameId := by
        rcases destroy_cases hf with ⟨-, hsame⟩ | ⟨-, hs, -⟩
        · rw [hsame] at hnew
          cases hf.symm.trans hnew
          rfl
        · cases hs.frame?.symm.trans hnew
          rfl
      exact hid ▸ confined_destroy hf
  · have hleft := iframe_le_move (m := .retire f generation l) (p := h.page) (fun _ _ => by simp)
      hiframe
    refine ⟨confined_retire generation l, fun g nodes n hne hg howns => hleaves hleft n ?_⟩
    exact isAttached_retire he hg hne howns (haims generation l rfl)
  · refine ⟨hminor.confined, fun g nodes n _ _ _ => ?_⟩
    have hkept := hminor.preserves (P := fun h' => h'.page.isAttached n = h.page.isAttached n ∧
        ∀ frame i, h'.frame? f = some frame → frame.iframe? = some i → i ≤ h.page.lastId)
      (fun h' m hm ⟨hsame, hold⟩ => ⟨(isAttached_move hm.reshapes).trans hsame,
        iframe_le_move hm.ne_mount hold⟩) ⟨rfl, hiframe⟩
    exact hleaves hkept.2 n hkept.1

/-- A message for another frame ID is passed over. -/
theorem handle_of_ne (hf : h.frame? f = some frame) {text : String}
    (hid : (Inbound.decode text).frameId ≠ frame.frameId) :
    h.handle f (.string text) = (h, []) := by
  by_contra hheeds
  obtain ⟨text', htext, hid'⟩ := frameId_of_handle hf hheeds
  cases htext
  exact hid hid'

end Host

namespace Session

variable {s : Session} {f : FrameRef}

/-- A loader goes because of a paint. -/
theorem painted_of_op? {generation : ℕ} {l : NodeId} (hop : s.op? = some (f, .retire generation l)) :
    .painted (.retire f generation l) ∈ s.agenda := by
  obtain ⟨jobs, hagenda⟩ := (agenda_of_op? hop).2 generation l rfl
  rw [hagenda]
  exact List.mem_cons_self

/-- Whatever is done to a frame `a` by which it does not take the frame ID of another frame `b`: `b`
stays as it is, with its entries of the registry and the paths that are cached under its frame ID; no
entry of the registry changes but those of `a`; and `b` passes over a message for `a`. Of the nodes of
`b` that are attached, those are detached that lie under the node whose place a mount of `a` takes, and
no others. -/
theorem neighbours_spared (origin : String) (allowList : Option AllowList) (defaults : Config)
    (runtime : Bool) (scripts : List (List Action)) (as : List Action) (i : ℕ) {a b : FrameRef}
    {op : Frame.Op} {old new : Frame} :
    let s := (start origin allowList defaults runtime scripts).after as i
    s.op? = some (a, op) → s.step.host.frame? a = some new →
    s.host.frame? b = some old → b ≠ a → new.frameId ≠ old.frameId →
    s.step.host.frame? b = some old ∧
    (∀ k, s.step.host.registry.get? k = some b ↔ s.host.registry.get? k = some b) ∧
    (∀ k, k ≠ new.frameId → s.host.registry.get? k ≠ some a →
      s.step.host.registry.get? k = s.host.registry.get? k) ∧
    (∀ r k, k.frameId = old.frameId →
      (s.step.host.cache r).paths.get? k = (s.host.cache r).paths.get? k) ∧
    (∀ text, (Inbound.decode text).frameId = new.frameId →
      s.step.host.handle b (.string text) = (s.step.host, [])) ∧
    ∀ nodes n, old.nodes = some nodes →
      n = nodes.iframe ∨ nodes.loader = some n ∨ n = nodes.container →
      s.host.page.isAttached n = true →
      (s.step.host.page.isAttached n = false ↔ s.step.host.Seizes s.host.page a n) := by
  intro s hop hnew hold hne hid
  have hs : s.Parcelled := parcelled_after (parcelled_start ..) i
  rw [step_operate hop] at hnew ⊢
  obtain ⟨hconfined, hleaves⟩ := Host.operate_neighbours hs.estates (eq_openFrame_of_op? hop)
    (fun generation l hretire => hs.aims _ (.inr (painted_of_op? (hretire ▸ hop)))) hnew
  have hkept := hconfined.frames b old hne hold
  refine ⟨hkept, fun k => hconfined.entries k b hne, fun k hk hown => ?_, fun r k hk => ?_,
    fun text htext => ?_, fun nodes n hnodes hn hattached => ?_⟩
  · -- An ID that is free stays free, and one that another frame has stays with it.
    cases hentry : s.host.registry.get? k with
    | none => exact hconfined.free k hk hentry
    | some g =>
      have hg : g ≠ a := by
        rintro rfl
        exact hown hentry
      exact (hconfined.entries k g hg).mpr hentry
  · exact hconfined.paths r k fun heq => hid (heq.symm.trans hk)
  · exact Host.handle_of_ne hkept fun heq => hid (htext.symm.trans heq)
  · have hb : s.host.nodesOf? b = some nodes := (Host.nodesOf?_of_frame? hold).trans hnodes
    have hordered := hs.estates.ordered b nodes hb
    -- The three nodes of the mount are the neighbour's own.
    have howns : nodes.Owns n := by
      rcases hn with rfl | hl | rfl
      · exact hordered.owns_iframe
      · exact hordered.owns_loader hl
      · exact hordered.owns_container
    have hleft := hleaves b nodes n hne hb howns
    refine ⟨fun hdetached => ?_, hleft.seized⟩
    by_contra hnot
    rw [hleft.left hnot, hattached] at hdetached
    cases hdetached

/-- A frame is mounted whose frame ID is the DOM id of the container of the next one. -/
def crowded : List Action :=
  [.page (.insert "f-container" "slot"), .frame (.openFrame "B" none (.ok (slotted "f-container"))),
    .page (.insert "f" "slot"), .frame (.openFrame "A" none (.ok (slotted "f")))]

/-- The second mount takes the place of the iframe of the first. -/
theorem neighbours_spared_crowded :
    let s := (start "https://host.example.com" none Config.empty false []).after crowded 7
    ∃ config old new, s.op? = some (1, .openFrame config) ∧ s.step.host.frame? 1 = some new ∧
      s.host.frame? 0 = some old ∧ new.frameId ≠ old.frameId ∧ s.step.host.frame? 0 = some old ∧
      old.iframe? = some 2 ∧ s.step.host.Seizes s.host.page 1 2 := by
  intro s
  have hbefore : (s.host.frame? 0).map (fun old => (old.frameId, old.nodes)) =
      some ("f-container", some ⟨2, none, 3⟩) := by decide +kernel
  have hafter : (s.step.host.frame? 1).map Frame.frameId = some "f" := by decide +kernel
  have hattached : s.host.page.isAttached 2 = true := by decide +kernel
  have hdetached : s.step.host.page.isAttached 2 = false := by decide +kernel
  obtain ⟨old, hold, hfields⟩ := Option.map_eq_some_iff.mp hbefore
  obtain ⟨new, hnew, hnewId⟩ := Option.map_eq_some_iff.mp hafter
  obtain ⟨holdId, hnodes⟩ := Prod.mk.inj hfields
  have hid : new.frameId ≠ old.frameId := by
    rw [hnewId, holdId]
    decide
  have hop : s.op? = some (1, .openFrame (slotted "f")) := rfl
  -- With the run written out nothing has to be evaluated again.
  have hs : s = (start "https://host.example.com" none Config.empty false []).after crowded 7 := rfl
  clear_value s
  subst hs
  obtain ⟨hkept, -, -, -, -, hiff⟩ := neighbours_spared "https://host.example.com" none Config.empty
    false [] crowded 7 hop hnew hold (by decide) hid
  have hiframe : old.iframe? = some 2 := by
    unfold Frame.iframe?
    rw [hnodes]
    rfl
  have hseizes := (hiff _ 2 hnodes (.inl rfl) hattached).mp hdetached
  exact ⟨_, old, new, hop, hnew, hold, hid, hkept, hiframe, hseizes⟩

/-- The mount of the frame `f` detaches the iframe of the frame `f-container`, which stays mounted
with it. -/
theorem iframe_taken_for_container :
    let s := (start "https://host.example.com" none Config.empty false []).after crowded 7
    (∃ config, s.op? = some (1, .openFrame config)) ∧
      (s.step.host.frame? 1).map Frame.frameId = some "f" ∧
      (s.host.frame? 0).map (fun frame => (frame.frameId, frame.iframe?)) =
        some ("f-container", some 2) ∧
      s.host.page.isAttached 2 = true ∧ s.step.host.page.isAttached 2 = false ∧
      (s.step.host.frame? 0).map (fun frame => (frame.phase, frame.iframe?)) =
        some (.initializing, some 2) := by
  intro s
  refine ⟨⟨_, rfl⟩, ?_, ?_, ?_, ?_, ?_⟩ <;> decide +kernel

end Session

end FrameHost
