import FrameHost.Proofs.Loaders
import FrameHost.Proofs.Receivers

/-!
# When the content is announced

The event `onContentReady` is raised for a frame when its iframe loads, when its content is shown and
when its loader goes (`Host.Announces`). The last two look at the loader itself: a mount that has had
one announces its content in the step that takes the loader, and never again. A load event looks at
the configuration, which may have been changed since the mount. So the loader is gone whenever the
event is raised for a mount that has had one, and it is raised for it once, exactly if no load event
raises it for such a mount (`content_ready_iff`).
-/

namespace FrameHost

open Json (Value)

namespace Frame

/-- A load event of the mount `g` announces the content: the frame connects, and its configuration
says that there is no loader. -/
def AnnouncesAtLoad (frame : Frame) (g : ℕ) : Prop :=
  frame.generation = g ∧ (frame.phase = .initializing ∨ frame.phase = .loaded) ∧
    frame.config.showsLoader = false

instance (frame : Frame) (g : ℕ) : Decidable (frame.AnnouncesAtLoad g) :=
  inferInstanceAs (Decidable (_ ∧ _))

/-- The content is announced when it is shown: it was not shown before, and there is no loader. -/
def AnnouncesAtOnce (frame : Frame) : Prop :=
  (frame.phase = .initializing ∨ frame.phase = .connected) ∧
    frame.nodes.map Mounted.loader = some none

instance (frame : Frame) : Decidable frame.AnnouncesAtOnce := inferInstanceAs (Decidable (_ ∧ _))

/-- A frame that announces at once has no loader. -/
theorem AnnouncesAtOnce.loader? {frame : Frame} (ha : frame.AnnouncesAtOnce) :
    frame.loader? = none := by
  obtain ⟨nodes, hnodes, hloader⟩ := Option.map_eq_some_iff.mp ha.2
  unfold Frame.loader?
  rw [hnodes]
  exact hloader

end Frame

namespace Host

variable {h : Host} {f : FrameRef} {g : ℕ} {frame : Frame} {l : NodeId} {op : Frame.Op}

/-! ## Announcements -/

/-- The load announces the content when the configuration of that moment shows no loader. -/
theorem followups_connect (hf : h.frame? f = some frame) (g : ℕ) :
    (h.connect f g).2 =
      if frame.AnnouncesAtLoad g then (h.connect f g).1.announceContent f else [] := by
  -- A load counts for a mount that loads, and again once it shows its content.
  have hafter : ∀ phase, phaseAfterLoad? phase = none ↔
      ¬ (phase = .initializing ∨ phase = .loaded) := by
    intro phase
    cases phase <;> simp [phaseAfterLoad?]
  unfold connect
  rw [hf]
  dsimp only
  split
  · next hnone =>
    have hnot : ¬ frame.AnnouncesAtLoad g := by
      rintro ⟨hg, hphase, -⟩
      rw [if_pos hg] at hnone
      exact (hafter _).mp hnone hphase
    exact (if_neg hnot).symm
  · next phase hsome =>
    have hg : frame.generation = g := by
      by_contra hne
      rw [if_neg hne] at hsome
      cases hsome
    have hphase : frame.phase = .initializing ∨ frame.phase = .loaded := by
      by_contra hnot
      rw [if_pos hg, (hafter _).mpr hnot] at hsome
      cases hsome
    by_cases hloader : frame.config.showsLoader = true
    · have hnot : ¬ frame.AnnouncesAtLoad g := fun ha => by
        rw [ha.2.2] at hloader
        cases hloader
      rw [if_neg hnot]
      exact if_pos hloader
    · have hannounces : frame.AnnouncesAtLoad g := ⟨hg, hphase, Bool.eq_false_iff.mpr hloader⟩
      rw [if_pos hannounces]
      exact if_neg hloader

/-- Showing the content announces it at once when there is nothing to fade. -/
theorem followups_showContent (hf : h.frame? f = some frame) :
    (h.showContent f).2 =
      if frame.AnnouncesAtOnce then (h.showContent f).1.announceContent f else [] := by
  unfold showContent
  rw [hf]
  dsimp only
  by_cases hphase : frame.phase = .initializing ∨ frame.phase = .connected
  · rw [if_pos hphase]
    -- In these phases all depends on the loader.
    have hiff : frame.AnnouncesAtOnce ↔ frame.nodes.map Mounted.loader = some none :=
      and_iff_right hphase
    cases hnodes : frame.nodes with
    | none =>
      rw [hnodes] at hiff
      refine (if_neg fun ha => ?_).symm
      cases hiff.mp ha
    | some nodes =>
      rw [hnodes] at hiff
      obtain ⟨iframe, loader, container⟩ := nodes
      cases loader with
      | none => exact (if_pos (hiff.mpr rfl)).symm
      | some l =>
        refine (if_neg fun ha => ?_).symm
        cases hiff.mp ha
  · rw [if_neg hphase]
    exact (if_neg fun ha => hphase ha.1).symm

/-- A retired loader announces the content, if its mount is still the current one. -/
theorem followups_retireLoader (hf : h.frame? f = some frame) (g : ℕ) (l : NodeId) :
    (h.retireLoader f g l).2 =
      if frame.generation = g then (h.retireLoader f g l).1.announceContent f else [] := by
  unfold retireLoader
  rw [hf]
  dsimp only
  by_cases hg : frame.generation = g
  · rw [if_pos hg, if_pos hg]
  · rw [if_neg hg, if_neg hg]

/-- A message tells a frame to show its content. -/
def TellsToShow (h : Host) (f : FrameRef) (data : Value) : Prop :=
  ∃ frame text, h.frame? f = some frame ∧ data.string? = some text ∧
    (Inbound.decode text).frameId = frame.frameId ∧ (Inbound.decode text).kind = .callCommand ∧
    frame.commands.get? ((Inbound.decode text).commandName.getD "") = some .showContent

/-- A message that tells the frame to show its content is handled by showing it. -/
theorem handle_of_tellsToShow {data : Value} (ht : h.TellsToShow f data) :
    h.handle f data = h.showContent f := by
  obtain ⟨frame, text, hf, htext, hid, hkind, hcommand⟩ := ht
  rw [handle_of_command hf htext hid hkind]
  unfold runCommand
  rw [hf, Option.bind_some, hcommand]

/-- An operation on the frame `f`, being `frame`, raises `onContentReady`. An event of this name that
the application sends is not raised by the operation itself. -/
def Announces (h : Host) (f : FrameRef) (frame : Frame) : Frame.Op → Prop
  | .connect g => frame.AnnouncesAtLoad g
  | .showContent => frame.AnnouncesAtOnce
  | .handle data => h.TellsToShow f data ∧ frame.AnnouncesAtOnce
  | .retire g _ => frame.generation = g
  | _ => False

/-- What raises the event leaves the call of the handler to be done, and nothing else. -/
theorem leaves_of_announces (hf : h.frame? f = some frame) (ha : h.Announces f frame op) :
    h.leaves f op = (h.operate f op).announceContent f := by
  cases op with
  | connect g => exact (followups_connect hf g).trans (if_pos ha)
  | showContent => exact (followups_showContent hf).trans (if_pos ha)
  | handle data =>
    obtain ⟨ht, honce⟩ := ha
    show (h.handle f data).2 = (h.handle f data).1.announceContent f
    rw [handle_of_tellsToShow ht]
    exact (followups_showContent hf).trans (if_pos honce)
  | retire g l => exact (followups_retireLoader hf g l).trans (if_pos ha)
  | _ => exact ha.elim

/-- An operation is a load event, or it shows content or takes a loader. -/
def Shows : Frame.Op → Prop
  | .connect _ | .showContent | .retire _ _ => True
  | _ => False

/-- Those of these operations that do not raise the event leave nothing to be done. -/
theorem leaves_of_not_announces (hf : h.frame? f = some frame) (hshows : Shows op)
    (ha : ¬ h.Announces f frame op) : h.leaves f op = [] := by
  cases op with
  | connect g => exact (followups_connect hf g).trans (if_neg ha)
  | showContent => exact (followups_showContent hf).trans (if_neg ha)
  | retire g l => exact (followups_retireLoader hf g l).trans (if_neg ha)
  | _ => exact hshows.elim

/-- An operation that raises the event is a load event, or shows the content of a frame without a
loader, or it takes a loader. -/
theorem Announces.cases (ha : h.Announces f frame op) :
    op = .connect frame.generation ∨ frame.AnnouncesAtOnce ∨
      ∃ l, op = .retire frame.generation l := by
  cases op with
  | connect g =>
    obtain ⟨rfl, -⟩ := ha
    exact .inl rfl
  | showContent => exact .inr (.inl ha)
  | handle data => exact .inr (.inl ha.2)
  | retire g l =>
    have hg : frame.generation = g := ha
    exact .inr (.inr ⟨l, hg ▸ rfl⟩)
  | _ => exact ha.elim

/-! ## Loaders of mounts -/

/-- The frame is in the mount `g`, and has the loader `l`. -/
def HasLoader (h : Host) (f : FrameRef) (g : ℕ) (l : NodeId) : Prop :=
  ∃ frame, h.frame? f = some frame ∧ frame.generation = g ∧ frame.loader? = some l

/-- A loader is gone: it is not on the page, and the frame does not have it any more. -/
def Gone (h : Host) (f : FrameRef) (l : NodeId) : Prop :=
  h.page.isAttached l = false ∧ ∀ frame, h.frame? f = some frame → frame.loader? ≠ some l

/-- As long as a mount lasts, it has its loader, or its content is shown and it has none. -/
def LoadsOrShows (l : NodeId) (frame : Frame) : Prop :=
  frame.loader? = some l ∨ frame.loader? = none ∧ frame.phase = .loaded

/-- A loader that is there stays through its mount until it is retired. -/
theorem HasLoader.during (hl : h.HasLoader f g l) : h.During f g (LoadsOrShows l) := by
  obtain ⟨frame, hf, hg, hloader⟩ := hl
  exact ⟨frame, hf, Nat.le_of_eq hg.symm, fun _ => .inl hloader⟩

/-- A frame that goes on within its mount goes on loading or showing. -/
theorem LoadsOrShows.onward {frame' : Frame} (hk : LoadsOrShows l frame)
    (ho : frame.Onward frame') : LoadsOrShows l frame' := by
  rcases hk with hloader | ⟨hnone, hloaded⟩
  · exact .inl (ho.loader.trans hloader)
  · exact .inr ⟨ho.loader.trans hnone, ho.loaded hloaded⟩

/-- Retiring a loader takes it off the page. -/
theorem gone_retire (hf : h.frame? f = some frame) :
    (h.operate f (.retire frame.generation l)).Gone f l := by
  show (h.retireLoader f frame.generation l).1.Gone f l
  rcases retireLoader_cases hf frame.generation l with ⟨hne, -⟩ | ⟨-, hs, hpage, -⟩
  · exact absurd rfl hne
  · refine ⟨?_, fun frame' hf' => ?_⟩
    · have hunder : h.page.Under l l := .root
      rw [hpage, Page.isAttached_remove]
      simp [hunder]
    · cases hs.frame?.symm.trans hf'
      show frame.unloaded.loader? ≠ some l
      rw [Frame.loader?_unloaded]
      exact (Option.some_ne_none l).symm

/-- A load event leaves the loader alone. -/
theorem not_gone_connect (hl : h.HasLoader f g l) (g' : ℕ) :
    ¬ (h.operate f (.connect g')).Gone f l := by
  rintro ⟨-, hgone⟩
  obtain ⟨frame, hf, -, hloader⟩ := hl
  obtain ⟨frame', hf', ht⟩ := (turns_move (h := h) (.connect f g')).turn f frame hf
  refine hgone frame' hf' ?_
  cases ht with
  | goesOn hgoes =>
    exact (congrArg (Option.bind · Mounted.loader) hgoes.nodes).trans hloader

end Host

namespace Session

open Host (LoadsOrShows Awaits)

variable {s : Session} {as : List Action} {f : FrameRef} {g i j k n : ℕ} {l : NodeId}
  {op : Frame.Op}

/-- The next job raises `onContentReady` for the mount `g` of the frame `f`, by an operation on it. -/
def Raises (s : Session) (f : FrameRef) (g : ℕ) (op : Frame.Op) : Prop :=
  s.op? = some (f, op) ∧
    ∃ frame, s.host.frame? f = some frame ∧ frame.generation = g ∧ s.host.Announces f frame op

/-- The mount `g` of the frame `f` has the loader `l`, at some time of a run. -/
def MountsLoader (s : Session) (as : List Action) (f : FrameRef) (g : ℕ) (l : NodeId) : Prop :=
  ∃ k, (s.after as k).host.HasLoader f g l

/-- In the first `n` steps of a run, the loader is gone whenever `onContentReady` is raised for a
mount with a loader, and for such a mount it is raised once at most. -/
structure ReadyOnceGone (s : Session) (as : List Action) (n : ℕ) : Prop where
  gone : ∀ i < n, ∀ f g l op, s.MountsLoader as f g l → (s.after as i).Raises f g op →
    (s.after as (i + 1)).host.Gone f l
  once : ∀ j < n, ∀ i < j, ∀ f g l op op', s.MountsLoader as f g l →
    (s.after as i).Raises f g op → ¬ (s.after as j).Raises f g op'

/-- A step that operates a frame is the next state of the run. -/
theorem after_succ_of_op? (hop : (s.after as i).op? = some (f, op)) :
    s.after as (i + 1) = (s.after as i).step := by
  refine after_succ_of_ne_nil fun hnil => ?_
  unfold op? at hop
  rw [hnil] at hop
  cases hop

/-- A step that raises the event leaves the host its operation leaves. -/
theorem Raises.after_succ (hr : (s.after as i).Raises f g op) :
    (s.after as (i + 1)).host = (s.after as i).host.operate f op := by
  rw [after_succ_of_op? hr.1]
  exact step_operate hr.1

/-- Once the event is raised, the handler of the frame is called next. -/
theorem Raises.follows (hr : (s.after as i).Raises f g op) :
    ∃ jobs, (s.after as (i + 1)).agenda =
      ((s.after as (i + 1)).host.announceContent f).map .follow ++ .hold f :: jobs := by
  obtain ⟨hop, frame, hf, -, ha⟩ := hr
  have htells : op.Tells := by
    cases op with
    | connect | showContent | handle | retire => trivial
    | _ => exact ha.elim
  obtain ⟨rest, -, hagenda⟩ := step_leaves hop htells
  rw [Host.leaves_of_announces hf ha, ← step_operate hop] at hagenda
  rw [after_succ_of_op? hop]
  exact ⟨_, hagenda⟩

/-- An operation that does not raise the event leaves no call of a handler behind. -/
theorem follows_nothing (hop : (s.after as i).op? = some (f, op)) (hshows : Host.Shows op)
    {frame : Frame} (hf : (s.after as i).host.frame? f = some frame)
    (hr : ¬ (s.after as i).Raises f frame.generation op) :
    ∃ jobs, (s.after as (i + 1)).agenda = .hold f :: jobs := by
  have htells : op.Tells := by
    cases op with
    | connect | showContent | retire => trivial
    | _ => exact hshows.elim
  obtain ⟨rest, -, hagenda⟩ := step_leaves hop htells
  rw [Host.leaves_of_not_announces hf hshows fun ha => hr ⟨hop, frame, hf, rfl, ha⟩] at hagenda
  rw [after_succ_of_op? hop]
  exact ⟨_, hagenda⟩

/-- A mount has its loader from its beginning. -/
theorem MountsLoader.exists_le (hl : s.MountsLoader as f g l) {frame : Frame}
    (hf : (s.after as i).host.frame? f = some frame) (hg : frame.generation = g) :
    ∃ k ≤ i, (s.after as k).host.HasLoader f g l := by
  obtain ⟨k, hloader⟩ := hl
  by_cases hki : k ≤ i
  · exact ⟨k, hki, hloader⟩
  · by_cases hhas : frame.loader? = some l
    · exact ⟨i, Nat.le_refl i, frame, hf, hg, hhas⟩
    · -- What has no loader in the mount does not get one.
      have hnever := during_after (P := fun frame => frame.loader? ≠ some l) (by omega : i ≤ k)
        ⟨frame, hf, Nat.le_of_eq hg.symm, fun _ => hhas⟩
        (fun frame frame' ho hne => ho.loader ▸ hne) fun _ _ frame _ _ _ _ => by
          rw [Frame.loader?_unloaded]
          exact (Option.some_ne_none l).symm
      obtain ⟨frame', hf', hg', hsome⟩ := hloader
      exact absurd hsome (hnever.of_frame? hf' hg')

/-- A loader that is taken is that of the mount, whose content is shown. -/
theorem awaits_of_retire (hs : s.host.Fades s.paintHooks) (hop : s.op? = some (f, .retire g l)) :
    s.host.During f g (Awaits (.retire f g l)) := by
  have hjob := painted_of_op? hop
  have hhook : .retire f g l ∈ s.paintHooks :=
    List.mem_append_left _ (List.mem_filterMap.mpr ⟨_, hjob, rfl⟩)
  exact hs.shown _ hhook f g rfl

/-- A mount that has had a loader has it still, or its content is shown and it has none. -/
theorem loadsOrShows_after (hs : ∀ i, (s.after as i).host.Fades (s.after as i).paintHooks) (hki : k ≤ i)
    (hl : (s.after as k).host.HasLoader f g l) : (s.after as i).host.During f g (LoadsOrShows l) := by
  refine during_after hki hl.during (fun _ _ ho hkeeps => hkeeps.onward ho) ?_
  intro i l' frame hop hf hg _
  have hawaits := (awaits_of_retire (hs i) hop).of_frame? hf hg
  exact .inr ⟨Frame.loader?_unloaded frame, hawaits.1⟩

/-- A mount whose loader was taken has no loader to take any more. -/
theorem retired_once (hs : ∀ i, (s.after as i).host.Fades (s.after as i).paintHooks) (hij : i < j)
    {l' : NodeId} (hi : (s.after as i).Raises f g (.retire g l)) :
    ¬ (s.after as j).Raises f g (.retire g l') := by
  rintro ⟨hop, frame, hf, hg, -⟩
  have hsucc := hi.after_succ
  have hnone : (s.after as (i + 1)).host.During f g fun frame => frame.loader? = none := by
    obtain ⟨-, frame, hf, hg, -⟩ := hi
    rw [hsucc]
    rcases Host.retireLoader_cases hf g l with ⟨hne, -⟩ | ⟨-, hs, -⟩
    · exact absurd hg hne
    · exact ⟨_, hs.frame?, Nat.le_of_eq hg.symm, fun _ => Frame.loader?_unloaded frame⟩
  have hnone' := during_after hij hnone (fun _ _ ho hloader => ho.loader.trans hloader)
    fun _ _ frame _ _ _ _ => Frame.loader?_unloaded frame
  have hloader := ((awaits_of_retire (hs j) hop).of_frame? hf hg).2
  rw [hnone'.of_frame? hf hg] at hloader
  cases hloader

/-- A loader that a mount has lost was taken, and the event was raised then. -/
theorem exists_retire (hki : k ≤ i) (hl : (s.after as k).host.HasLoader f g l) {frame : Frame}
    (hf : (s.after as i).host.frame? f = some frame) (hg : frame.generation = g)
    (hlost : frame.loader? ≠ some l) :
    ∃ j < i, ∃ l', (s.after as j).Raises f g (.retire g l') := by
  by_contra hnever
  have honward : ∀ frame frame' : Frame, frame.Onward frame' → frame.loader? = some l →
      frame'.loader? = some l := fun _ _ ho hloader => ho.loader.trans hloader
  -- Then the mount keeps the loader.
  have hkept : (s.after as i).host.During f g fun frame => frame.loader? = some l := by
    obtain ⟨frame, hf, hg, hloader⟩ := hl
    refine after_induction_from (P := fun t => t.host.During f g fun frame => frame.loader? = some l)
      hki ⟨frame, hf, Nat.le_of_eq hg.symm, fun _ => hloader⟩ (fun j _ hji hj => ?_)
      fun j a _ _ hj => during_begin hj honward a
    refine during_step hj honward fun l' frame hop hf hg _ => ?_
    exact absurd ⟨j, hji, l', hop, frame, hf, hg, hg⟩ hnever
  exact hlost (hkept.of_frame? hf hg)

/-- The event is raised for a mount with a loader by a load event, or by the step that takes the
loader. -/
theorem Raises.cases (hs : ∀ i, (s.after as i).host.Fades (s.after as i).paintHooks)
    (hl : s.MountsLoader as f g l) (hr : (s.after as i).Raises f g op) :
    op = .connect g ∨ op = .retire g l := by
  obtain ⟨hop, frame, hf, rfl, ha⟩ := hr
  -- The mount has had its loader by then.
  obtain ⟨k, hki, hhas⟩ := hl.exists_le hf rfl
  have hkeeps := (loadsOrShows_after hs hki hhas).of_frame? hf rfl
  rcases ha.cases with hconnect | honce | ⟨l', rfl⟩
  · exact .inl hconnect
  · -- The content is not shown, so the mount has its loader.
    rcases hkeeps with hloader | ⟨-, hloaded⟩
    · rw [honce.loader?] at hloader
      cases hloader
    · obtain ⟨hphase, -⟩ := honce
      rw [hloaded] at hphase
      rcases hphase with hphase | hphase <;> cases hphase
  · -- The loader that is retired is the one the mount has.
    have hloader := ((awaits_of_retire (hs i) hop).of_frame? hf rfl).2
    rcases hkeeps with hsome | ⟨hnone, -⟩
    · rw [hsome] at hloader
      cases hloader
      exact .inr rfl
    · rw [hnone] at hloader
      cases hloader

/-- Where a retired loader raises the event, the loader is gone in the next state. -/
theorem Raises.gone (hr : (s.after as i).Raises f g (.retire g l)) :
    (s.after as (i + 1)).host.Gone f l := by
  rw [hr.after_succ]
  obtain ⟨-, frame, hf, rfl, -⟩ := hr
  exact Host.gone_retire hf

/-- In the first `n` steps of a run, the loader is gone whenever `onContentReady` is raised for a
mount with a loader, and this happens once for such a mount, exactly if no load event raises it for
such a mount. Whatever else raises it for a mount with a loader takes this loader from the page, and is
the first of its kind to do so. When it is raised, the handler of the frame is called next, and a load
event, a content that is shown or a loader that is taken without raising it leads to no call. -/
theorem content_ready_iff (origin : String) (allowList : Option AllowList) (defaults : Config)
    (runtime : Bool) (scripts : List (List Action)) (as : List Action) (n : ℕ) :
    let s := start origin allowList defaults runtime scripts
    (s.ReadyOnceGone as n ↔
      ∀ i < n, ∀ f g l, s.MountsLoader as f g l → ¬ (s.after as i).Raises f g (.connect g)) ∧
    (∀ i f g l op, s.MountsLoader as f g l → (s.after as i).Raises f g op → op ≠ .connect g →
      op = .retire g l ∧ (s.after as (i + 1)).host.Gone f l ∧
        ∀ j < i, ¬ (s.after as j).Raises f g op) ∧
    (∀ i f g op, (s.after as i).Raises f g op → ∃ jobs, (s.after as (i + 1)).agenda =
      ((s.after as (i + 1)).host.announceContent f).map .follow ++ .hold f :: jobs) ∧
    ∀ i f op frame, (s.after as i).op? = some (f, op) → Host.Shows op →
      (s.after as i).host.frame? f = some frame → ¬ (s.after as i).Raises f frame.generation op →
      ∃ jobs, (s.after as (i + 1)).agenda = .hold f :: jobs := by
  intro s
  have hs : ∀ i, (s.after as i).host.Fades (s.after as i).paintHooks := fun i => fades_after ..
  refine ⟨⟨fun hready i hi f g l hl hr => ?_, fun hnone => ⟨?_, ?_⟩⟩, ?_,
    fun i f g op hr => hr.follows,
    fun i f op frame hop hshows hf hr => follows_nothing hop hshows hf hr⟩
  · -- The loader is not there, so it was taken before, and the event was raised then.
    have hgone := hready.gone i hi f g l _ hl hr
    rw [hr.after_succ] at hgone
    have hlost : ¬ (s.after as i).host.HasLoader f g l := fun hhas =>
      Host.not_gone_connect hhas g hgone
    obtain ⟨frame, hf, hg, -⟩ := hr.2
    obtain ⟨k, hki, hhas⟩ := hl.exists_le hf hg
    obtain ⟨j, hj, l', hr'⟩ := exists_retire hki hhas hf hg fun hsome => hlost ⟨frame, hf, hg, hsome⟩
    exact hready.once i hi j hj f g l _ _ hl hr' hr
  · -- When the event is raised, it is by the retirement, which takes the loader off.
    intro i hi f g l op hl hr
    rcases hr.cases hs hl with rfl | rfl
    · exact absurd hr (hnone i hi f g l hl)
    · exact hr.gone
  · intro j hj i hij f g l op op' hl hr hr'
    rcases hr.cases hs hl with rfl | rfl
    · exact hnone i (Nat.lt_trans hij hj) f g l hl hr
    · -- Both times by a retirement, and there is only one.
      rcases hr'.cases hs hl with rfl | rfl
      · exact hnone j hj f g l hl hr'
      · exact retired_once hs hij hr hr'
  · intro i f g l op hl hr hop
    rcases hr.cases hs hl with rfl | rfl
    · exact absurd rfl hop
    · exact ⟨rfl, hr.gone, fun j hj hr' => retired_once hs hj hr' hr⟩

/-- The hook on the loading of an iframe that the next job runs. -/
def nextLoadHook? (s : Session) : Option LoadHook :=
  match s.agenda with
  | .loaded hook :: _ => some hook
  | _ => none

/-- The load hook of a live frame connects it. -/
theorem op?_of_nextLoadHook? (hnext : s.nextLoadHook? = some (.connect f g))
    (hlive : s.isLive f = true) : s.op? = some (f, .connect g) := by
  unfold nextLoadHook? at hnext
  split at hnext
  · next hagenda =>
    cases hnext
    unfold op?
    rw [hagenda]
    exact if_pos hlive
  · cases hnext

/-- A frame is mounted with a loader, then it is told that it has none, and then its iframe loads. -/
def disowningLoader : List Action :=
  [.page (.insert "f" "slot"),
    .frame (.openFrame "A" none (.ok ((Config.ofFields
      [("frameId", .string "f"), ("src", .string "https://app.example.com"),
        ("checkCSP", .bool false)]).on Event.contentReady ⟨"ready", false, 0⟩))),
    .frame (.configure "A" (.ok (Config.ofFields [("noLoader", .bool true)])) "c"),
    .page (.fireLoad (.iframeOf "A"))]

/-- The load event raises `onContentReady` in front of the loader, which stays. -/
theorem ready_before_loader_gone :
    let s := start "https://host.example.com" none Config.empty false []
    let t := s.after disowningLoader 11
    let u := s.after disowningLoader 17
    t.host.HasLoader 0 1 3 ∧ t.Raises 0 1 (.connect 1) ∧ ¬ s.ReadyOnceGone disowningLoader 12 ∧
      u.agenda.length = 0 ∧ u.records.map Record.tag = ["ready"] ∧ ¬ u.host.Gone 0 3 := by
  intro s t u
  have hafter : (u.agenda.length, u.records.map Record.tag, u.host.page.isAttached 3) =
      (0, ["ready"], true) := by decide +kernel
  have hnext : (t.nextLoadHook?, t.isLive 0) = (some (.connect 0 1), true) := by decide +kernel
  have hframe : (t.host.frame? 0).map (fun frame =>
      (frame.generation, frame.loader?, frame.phase, frame.config.showsLoader)) =
        some (1, some 3, .initializing, false) := by decide +kernel
  obtain ⟨frame, hf, hfields⟩ := Option.map_eq_some_iff.mp hframe
  simp only [Prod.mk.injEq] at hfields hafter hnext
  obtain ⟨hg, hloader, hphase, hshows⟩ := hfields
  have hop := op?_of_nextLoadHook? hnext.1 hnext.2
  -- The load finds a configuration without a loader, and a mount that has one.
  have hhas : t.host.HasLoader 0 1 3 := ⟨frame, hf, hg, hloader⟩
  have hraises : t.Raises 0 1 (.connect 1) := ⟨hop, frame, hf, hg, hg, .inl hphase, hshows⟩
  have hnot : ¬ s.ReadyOnceGone disowningLoader 12 := fun hready => by
    have hgone := hready.gone 11 (by decide) 0 1 3 _ ⟨11, hhas⟩ hraises
    rw [hraises.after_succ] at hgone
    exact Host.not_gone_connect hhas 1 hgone
  have hstays : ¬ u.host.Gone 0 3 := fun hgone => by
    have hattached := hafter.2.2
    rw [hgone.1] at hattached
    cases hattached
  exact ⟨hhas, hraises, hnot, hafter.1, hafter.2.1, hstays⟩

end Session

end FrameHost
