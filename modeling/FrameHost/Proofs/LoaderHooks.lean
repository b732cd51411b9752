import FrameHost.Proofs.LoadEvents
import FrameHost.Proofs.Loaders

/-!
# What sees to loaders

A frame that shows its content and has its loader still has a hook on a paint (`Host.Attends`): showing
the content leaves the first one, and the hook that makes the loader fade leaves the next one before it
is used up. Hooks come in order of their paints and none is dropped, since only a paint takes one from
the page and it runs at once (`Session.Headed`). With what is known of the hooks that there are, a frame
in use has one hook of its generation or none, depending on its phase and its loader (`count_hooks`).
-/

namespace FrameHost

namespace Host

variable {h : Host} {f f' : FrameRef} {g : ℕ} {frame frame' : Frame} {m : Move} {l : NodeId}
  {hook : PaintHook} {hooks hooks' : List PaintHook}

/-! ## Hooks that wait -/

/-- An edit of the page takes no paint hook away, unless it is the one that takes the next. -/
theorem prefix_paints_edit {p : Page} {e : Page.Edit} (he : e ≠ .takePaint) :
    p.paints <+: (p.edit e).paints := by
  cases e with
  | takePaint => exact absurd rfl he
  | afterPaint cb => exact List.prefix_append _ _
  | wrap domId style children =>
    exact (Page.paints_createContainer domId style children) ▸ List.prefix_rfl
  | remove n => exact (Page.paints_remove n) ▸ List.prefix_rfl
  | _ => exact List.prefix_rfl

/-- Destroying a frame leaves the paint hooks waiting. -/
theorem paints_destroy (f : FrameRef) : (h.destroy f).page.paints = h.page.paints := by
  cases hf : h.frame? f with
  | none => rw [destroy_of_none hf]
  | some frame =>
    rcases destroy_cases hf with ⟨-, hsame⟩ | ⟨-, -, hpage, -⟩
    · rw [hsame]
    · rw [hpage, ← Page.paints_removeListener? (p := h.page) frame.listener]
      unfold restoredPage
      split <;> rfl

/-- Connecting leaves the paint hooks waiting. -/
theorem paints_connect (f : FrameRef) (g : ℕ) : (h.connect f g).1.page.paints = h.page.paints := by
  cases hf : h.frame? f with
  | none => rw [connect_of_none hf]
  | some frame =>
    rcases connect_cases hf g with ⟨-, hsame⟩ | ⟨-, phase, -, -, hpage, -⟩
    · rw [hsame]
    · rw [hpage, Page.paints_removeListener?]
      rfl

/-- Retiring the loader leaves the paint hooks waiting. -/
theorem paints_retire (f : FrameRef) (g : ℕ) (l : NodeId) :
    (h.retireLoader f g l).1.page.paints = h.page.paints := by
  cases hf : h.frame? f with
  | none => rw [retireLoader_of_none hf]
  | some frame =>
    rcases retireLoader_cases hf g l with ⟨-, hsame⟩ | ⟨-, -, hpage, -⟩
    · rw [hsame]
    · rw [hpage, Page.paints_remove]

/-- The failure of a check leaves the paint hooks waiting. -/
theorem paints_failCheck (c : Check) (e : Error) :
    (h.failCheck c e).1.page.paints = h.page.paints := by
  rcases h.failCheck_cases c e with hfail | ⟨frame, page, -, -, hpage, hfail⟩
  · rw [hfail]
  · rw [hfail]
    rcases hpage with ⟨-, rfl⟩ | ⟨nodes, document, -, rfl⟩ <;> rfl

/-- Hooks on a paint stand behind those that wait already, and only a paint takes one. -/
theorem prefix_paints (hm : m ≠ .page .takePaint) : h.page.paints <+: (h.move m).page.paints := by
  -- Most moves add no hook at all.
  have hsame : (h.move m).page.paints = h.page.paints → h.page.paints <+: (h.move m).page.paints :=
    fun hpaints => hpaints ▸ List.prefix_rfl
  cases m with
  | page e => exact prefix_paints_edit fun he => hm (he ▸ rfl)
  | mount f config => exact hsame (paints_mount f config)
  | destroy f => exact hsame (paints_destroy f)
  | connect f g => exact hsame (paints_connect f g)
  | retire f g l => exact hsame (paints_retire f g l)
  | failCheck c e => exact hsame (paints_failCheck c e)
  | enroll frameId =>
    refine hsame ?_
    show (h.registered frameId).1.page.paints = _
    unfold registered
    split <;> rfl
  | registerCommand f name cb =>
    refine hsame ?_
    rcases h.host_registerCommand f name cb with hkept | ⟨frame, commands, -, -, hmove⟩
    · rw [hkept]
    · rw [hmove]
      rfl
  | execute r task responder =>
    refine hsame ?_
    rcases h.host_execute r task responder with hkept | ⟨b, bus, posted, -, -, hmove⟩
    · rw [hkept]
    · rw [hmove]
      exact Page.paints_post? _
  | reply r data =>
    refine hsame ?_
    exact congrArg Page.paints (page_reply r data)
  | postNext r =>
    refine hsame ?_
    show (h.postNext r).page.paints = _
    rcases h.host_postNext r with hkept | ⟨b, -, hnext⟩
    · rw [hkept]
    · rw [hnext]
      exact Page.paints_post? _
  | showContent f =>
    cases hf : h.frame? f with
    | none => exact hsame (congrArg (fun r => r.1.page.paints) (showContent_of_none hf))
    | some frame =>
      rcases showContent_cases hf with hnothing | ⟨nodes, -, -, -, hpage, -⟩
      · exact hsame (congrArg (fun h' => h'.page.paints) hnothing)
      · show h.page.paints <+: (h.showContent f).1.page.paints
        rw [hpage]
        cases nodes.loader with
        | none => exact List.prefix_rfl
        | some l => exact List.prefix_append _ _
  | fade f g l =>
    show h.page.paints <+: (h.fadeLoader f g l).page.paints
    rcases h.fadeLoader_cases f g l with hfade | ⟨frame, -, -, hfade⟩
    · rw [hfade]
    · rw [hfade]
      exact List.prefix_append _ _
  | _ => exact List.prefix_rfl

/-- The hooks of frames that wait go on to wait. -/
theorem fading_sublist_move (hm : m ≠ .page .takePaint) :
    h.page.fading.Sublist (h.move m).page.fading := (prefix_paints hm).sublist.filter _

/-! ## Loaders that are seen to -/

/-- If the frame `f` shows its content and has its loader still, one of the hooks belongs to the mount
that it is in. -/
def Attends (h : Host) (hooks : List PaintHook) (f : FrameRef) : Prop :=
  ∀ frame, h.frame? f = some frame → frame.phase = .loaded → frame.loader?.isSome = true →
    (f, frame.generation) ∈ hooks.filterMap PaintHook.mount?

/-- Without a frame there is no loader to attend. -/
theorem Attends.of_none (hf : h.frame? f = none) : h.Attends hooks f := fun frame hf' => by
  cases hf.symm.trans hf'

/-- A frame attended by some hooks is attended by more. -/
theorem Attends.mono (ha : h.Attends hooks f) (hsub : hooks ⊆ hooks') : h.Attends hooks' f :=
  fun frame hf hphase hloader => by
    obtain ⟨hook, hhook, hmount⟩ := List.mem_filterMap.mp (ha frame hf hphase hloader)
    exact List.mem_filterMap.mpr ⟨hook, hsub hhook, hmount⟩

/-- A hook is not needed any more that does not belong to the mount of the frame, or to a mount without
a loader, or for which there is another one. -/
theorem Attends.tail (ha : h.Attends (hook :: hooks) f)
    (hdone : ∀ frame, h.frame? f = some frame → frame.loader?.isSome = true →
      hook.mount? = some (f, frame.generation) →
        (f, frame.generation) ∈ hooks.filterMap PaintHook.mount?) : h.Attends hooks f := by
  intro frame hf hphase hloader
  obtain ⟨hook', hhook, hmount⟩ := List.mem_filterMap.mp (ha frame hf hphase hloader)
  rcases List.mem_cons.mp hhook with rfl | hhook
  · exact hdone frame hf hloader hmount
  · exact List.mem_filterMap.mpr ⟨hook', hhook, hmount⟩

/-- Within a mount no loader comes. -/
theorem Turn.hasLoader (ht : h.Turn f frame m frame')
    (hg : frame'.generation = frame.generation) (hloader : frame'.loader?.isSome = true) :
    frame.loader? = frame'.loader? := by
  by_cases hm : ∃ g l, m = .retire f g l
  · obtain ⟨g, l, rfl⟩ := hm
    cases ht with
    | goesOn hgoes => exact (congrArg (Option.bind · Mounted.loader) hgoes.nodes).symm
    | retired =>
      rw [Frame.loader?_unloaded] at hloader
      cases hloader
  · exact (ht.onward hg fun g l heq => hm ⟨g, l, heq⟩).loader.symm

/-- Showing the content of a frame that has a loader leaves a hook. -/
theorem mem_fading_showContent (hf : h.frame? f = some frame) (hphase : frame.phase ≠ .loaded)
    (hl : frame.loader? = some l)
    (hshown : ∀ frame', (h.showContent f).1.frame? f = some frame' → frame'.phase = .loaded) :
    .fade f frame.generation l ∈ (h.showContent f).1.page.fading := by
  rcases showContent_cases hf with hsame | ⟨nodes, -, hnodes, -, hpage, -⟩
  · rw [hsame] at hshown
    exact absurd (hshown frame hf) hphase
  · have hloader : nodes.loader = some l := by
      unfold Frame.loader? at hl
      rwa [hnodes] at hl
    rw [hpage, hloader]
    exact List.mem_filter.mpr ⟨List.mem_append_right _ (List.mem_singleton_self _), rfl⟩

/-- A move other than the taking of a hook leaves every loader seen to. -/
theorem Attends.move (hooks : List PaintHook) (ha : h.Attends (hooks ++ h.page.fading) f)
    (hm : m ≠ .page .takePaint) : (h.move m).Attends (hooks ++ (h.move m).page.fading) f := by
  intro frame' hf' hphase hloader
  cases hf : h.frame? f with
  | none =>
    -- A frame that is new shows nothing.
    have hblank := ((turns_move m).blank f frame' hf hf').phase
    rw [hphase] at hblank
    cases hblank
  | some frame =>
    obtain ⟨frame₁, hf₁, ht⟩ := (turns_move m).turn f frame hf
    cases hf₁.symm.trans hf'
    obtain ⟨hg, hshown⟩ := ht.shown hphase
    have hsame := ht.hasLoader hg hloader
    rw [hg]
    by_cases hbefore : frame.phase = .loaded
    · -- It showed its content before, and its hook is there still.
      have hkept : h.Attends (hooks ++ (h.move m).page.fading) f :=
        ha.mono ((List.Sublist.refl hooks).append (fading_sublist_move hm)).subset
      exact hkept frame hf hbefore (hsame ▸ hloader)
    · -- The content is shown for the first time.
      obtain rfl := hshown.resolve_left hbefore
      obtain ⟨l, hl⟩ := Option.isSome_iff_exists.mp hloader
      refine List.mem_filterMap.mpr ⟨_, List.mem_append_right _ (mem_fading_showContent hf hbefore
        (hsame.trans hl) fun frame₂ hf₂ => ?_), rfl⟩
      cases hf₁.symm.trans hf₂
      exact hphase

/-- The hook that makes a loader fade leaves another one. -/
theorem Attends.fade (ha : h.Attends (.fade f g l :: h.page.fading) f') :
    (h.move (.fade f g l)).Attends (h.move (.fade f g l)).page.fading f' := by
  have hmoved := Attends.move (m := .fade f g l) [.fade f g l] ha Move.noConfusion
  refine Attends.tail hmoved fun frame' hf' _ hmount => ?_
  cases hmount
  -- Fading leaves the frame as it is, and its retirement waits for the next paint.
  have hf : h.frame? f = some frame' :=
    (congrArg (·[f]?) (frames_move (m := .fade f frame'.generation l) rfl)).symm.trans hf'
  refine List.mem_filterMap.mpr ⟨.retire f frame'.generation l, ?_, rfl⟩
  show _ ∈ (h.fadeLoader f frame'.generation l).page.fading
  unfold fadeLoader
  rw [hf]
  dsimp only
  rw [if_pos rfl]
  exact List.mem_filter.mpr ⟨List.mem_append_right _ (List.mem_singleton_self _), rfl⟩

/-- The hook that takes a loader is the last one. -/
theorem Attends.retire (ha : h.Attends (.retire f g l :: h.page.fading) f') :
    (h.move (.retire f g l)).Attends (h.move (.retire f g l)).page.fading f' := by
  have hmoved := Attends.move (m := .retire f g l) [.retire f g l] ha Move.noConfusion
  refine Attends.tail hmoved fun frame' hf' hloader hmount => ?_
  cases hmount
  exfalso
  change (h.retireLoader f frame'.generation l).1.frame? f = some frame' at hf'
  cases hf : h.frame? f with
  | none =>
    rw [retireLoader_of_none hf] at hf'
    cases hf.symm.trans hf'
  | some frame =>
    rcases retireLoader_cases hf frame'.generation l with ⟨hne, hsame⟩ | ⟨-, hs, -⟩
    · rw [hsame] at hf'
      cases hf.symm.trans hf'
      exact hne rfl
    · cases hs.frame?.symm.trans hf'
      -- The loader of this mount is gone, so nothing is to be attended.
      change frame.unloaded.loader?.isSome = true at hloader
      rw [Frame.loader?_unloaded] at hloader
      cases hloader

end Host

namespace Session

open Host (Attends)

variable {s : Session} {as : List Action} {job : Job} {jobs : List Job} {f : FrameRef}

/-! ## Runs -/

/-- A hook on a paint that is on the agenda runs next. -/
def Headed (s : Session) : Prop := s.agenda.tail.filterMap Job.paintHook? = []

/-- A hook on a paint that is on the agenda runs next, also after a step. -/
theorem Headed.step (hs : s.Headed) : s.step.Headed := by
  -- What comes after a job without hooks has none either.
  have htail : ∀ {js : List Job}, js.filterMap Job.paintHook? = [] →
      js.tail.filterMap Job.paintHook? = [] := fun {js} hjs =>
    List.sublist_nil.mp (hjs ▸ (List.tail_sublist js).filterMap _)
  unfold Headed at hs ⊢
  cases hagenda : s.agenda with
  | nil => rwa [step_nil hagenda]
  | cons job jobs =>
    rw [hagenda, List.tail_cons] at hs
    by_cases hpaint : ∃ ran, job = .paint ran
    · obtain ⟨ran, rfl⟩ := hpaint
      rw [step_cons hagenda]
      show (Session.paint _ ran).agenda.tail.filterMap Job.paintHook? = []
      unfold paint
      dsimp only
      split
      · exact htail hs
      · exact hs
    · -- Only a painting puts a hook on the agenda.
      have hsub := paintHooks_step hagenda fun ran hjob => hpaint ⟨ran, hjob⟩
      exact htail (List.sublist_nil.mp (hs ▸ hsub))

/-- The hooks that have not run yet wait on the page, but for one that runs next. -/
theorem Headed.paintHooks (hs : s.Headed) (hagenda : s.agenda = job :: jobs) :
    s.paintHooks = job.paintHook?.toList ++ s.host.page.fading := by
  unfold Headed at hs
  rw [hagenda, List.tail_cons] at hs
  unfold Session.paintHooks
  rw [hagenda]
  cases hhook : job.paintHook? with
  | none => rw [List.filterMap_cons_none hhook, hs]; rfl
  | some hook => rw [List.filterMap_cons_some hhook, hs]; rfl

/-- Where no hook is next, the current hooks are those that wait on the page. -/
theorem paintHooks_of_no_hook (hs : s.Headed)
    (hnext : ∀ hook, s.agenda.head? ≠ some (.painted hook)) :
    s.paintHooks = s.host.page.fading := by
  cases hagenda : s.agenda with
  | nil =>
    unfold paintHooks
    rw [hagenda]
    rfl
  | cons job jobs =>
    rw [hs.paintHooks hagenda]
    cases job with
    | painted hook => exact absurd (congrArg List.head? hagenda) (hnext hook)
    | _ => rfl

/-- In every state of a run, a hook on a paint that is on the agenda runs next. -/
theorem headed_after (origin : String) (allowList : Option AllowList) (defaults : Config)
    (runtime : Bool) (scripts : List (List Action)) (as : List Action) (i : ℕ) :
    ((start origin allowList defaults runtime scripts).after as i).Headed := by
  refine after_induction (P := Headed) ?_ (fun _ => Headed.step) (fun _ _ _ _ _ => ?_) i
  · exact List.filterMap_nil
  · exact List.filterMap_nil

/-- A paint takes a hook from the page, and it runs next. -/
theorem attends_paint {ran : ℕ} (ha : s.host.Attends s.host.page.fading f)
    (hagenda : s.agenda = .paint ran :: jobs) : s.step.host.Attends s.step.paintHooks f := by
  rw [step_cons hagenda]
  show (Session.paint _ ran).host.Attends (Session.paint _ ran).paintHooks f
  unfold paint
  dsimp only
  split
  · exact ha.mono (List.subset_append_right _ _)
  · next hook paints hpaints =>
    refine ha.mono ?_
    intro hook' hhook
    obtain ⟨hhook, hmount⟩ := List.mem_filter.mp hhook
    rw [hpaints] at hhook
    rcases List.mem_cons.mp hhook with rfl | hhook
    · exact List.mem_append_left _ List.mem_cons_self
    · exact List.mem_append_right _ (List.mem_filter.mpr ⟨hhook, hmount⟩)

/-- A step leaves the loader of a frame in use seen to. -/
theorem attends_step (hs : s.Headed) (ha : s.host.Attends s.paintHooks f)
    (hlive : s.host.frame? f = none ∨ s.isLive f = true) :
    s.step.host.Attends s.step.paintHooks f := by
  cases hagenda : s.agenda with
  | nil => rwa [step_nil hagenda]
  | cons job jobs =>
    rw [hs.paintHooks hagenda] at ha
    by_cases hpaint : ∃ ran, job = .paint ran
    · obtain ⟨ran, rfl⟩ := hpaint
      exact attends_paint ha hagenda
    · suffices hwaits : s.step.host.Attends s.step.host.page.fading f from
        hwaits.mono (List.subset_append_right _ _)
      -- What waits on the page is left there.
      have hrest : s.host.Attends s.host.page.fading f →
          s.step.host.Attends s.step.host.page.fading f :=
        (step_reaches hagenda).preserves (P := fun h => h.Attends h.page.fading f)
          fun h m hm ha => Attends.move [] ha fun heq => hpaint (by rw [heq] at hm; exact hm)
      -- And the frame of a hook that does nothing is not in use.
      have hother : ∀ {hook f' g}, job = .painted hook → hook.mount? = some (f', g) →
          s.isLive f' = false → s.step.host.Attends s.step.host.page.fading f := by
        rintro hook f' g rfl hmount hdead
        refine hrest ?_
        rcases hlive with hnone | hlive
        · exact .of_none hnone
        · refine Attends.tail ha fun frame _ _ hmount' => ?_
          cases hmount.symm.trans hmount'
          rw [hlive] at hdead
          cases hdead
      cases job with
      | painted hook =>
        cases hook with
        | host cb => exact hrest (Attends.tail ha fun _ _ _ hmount => by cases hmount)
        | fade f' g l =>
          cases hlive' : s.isLive f' with
          | true =>
            rw [step_operate ((op?_fade hagenda).trans (if_pos hlive'))]
            exact Attends.fade ha
          | false => exact hother rfl rfl hlive'
        | retire f' g l =>
          cases hlive' : s.isLive f' with
          | true =>
            rw [step_operate ((op?_retire hagenda).trans (if_pos hlive'))]
            exact Attends.retire ha
          | false => exact hother rfl rfl hlive'
      | _ => exact hrest ha

/-- The loader of a frame in use is seen to. -/
theorem attends_after (origin : String) (allowList : Option AllowList) (defaults : Config)
    (runtime : Bool) (scripts : List (List Action)) (as : List Action) (i : ℕ) :
    let s := start origin allowList defaults runtime scripts
    (s.after as i).isLive f = true → (s.after as i).host.Attends (s.after as i).paintHooks f := by
  intro s
  induction i with
  | zero => exact fun _ => .of_none rfl
  | succ i ih =>
    intro hlive
    have hwithin := ((fresh_start origin allowList defaults runtime scripts).within.after as i).live
    -- A frame in use was so before, or it is new.
    have hbefore : ∀ {t : Session}, t.Within (fun f => (s.after as i).isLive f = true ∨
        (s.after as i).host.frames.length ≤ f) → t.isLive f = true →
        (s.after as i).host.frame? f = none ∨ (s.after as i).isLive f = true := fun ht hlive =>
      (ht.isLive hlive).symm.imp_left List.getElem?_eq_none
    have hattends : (s.after as i).host.frame? f = none ∨ (s.after as i).isLive f = true →
        (s.after as i).host.Attends (s.after as i).paintHooks f := fun h =>
      h.elim .of_none ih
    rcases after_succ s as i with ⟨-, h⟩ | ⟨a, -, hagenda, h⟩ | ⟨-, h⟩
    · rw [h] at hlive ⊢
      have hold := hbefore hwithin.step hlive
      exact attends_step (headed_after ..) (hattends hold) hold
    · rw [h] at hlive ⊢
      have hold := hattends (hbefore (hwithin.begin a) hlive)
      have hhooks : (s.after as i).paintHooks = (s.after as i).host.page.fading := by
        unfold paintHooks
        rw [hagenda]
        rfl
      rw [hhooks] at hold
      exact Attends.move (m := .page .takePosted) [] hold nofun
    · rw [h] at hlive ⊢
      exact ih hlive

/-- A frame in use that shows its content and has its loader still has one hook on a paint that belongs
to its mount, and any other frame has none. -/
theorem count_hooks (origin : String) (allowList : Option AllowList) (defaults : Config)
    (runtime : Bool) (scripts : List (List Action)) (as : List Action) (i : ℕ) {frame : Frame} :
    let s := start origin allowList defaults runtime scripts
    (s.after as i).isLive f = true → (s.after as i).host.frame? f = some frame →
      ((s.after as i).paintHooks.filterMap PaintHook.mount?).count (f, frame.generation) =
        if frame.phase = .loaded ∧ frame.loader?.isSome = true then 1 else 0 := by
  intro s hlive hf
  have hfades := fades_after origin allowList defaults runtime scripts as i
  split
  · next hneeds =>
    have hattends := attends_after origin allowList defaults runtime scripts as i hlive
    exact List.count_eq_one_of_mem hfades.once (hattends frame hf hneeds.1 hneeds.2)
  · next hneeds =>
    -- A current hook belongs to a frame that shows its content and has its loader.
    refine List.count_eq_zero_of_not_mem fun hmem => hneeds ?_
    obtain ⟨hook, hhook, hmount⟩ := List.mem_filterMap.mp hmem
    obtain ⟨hphase, hloader⟩ := (hfades.shown hook hhook f _ hmount).of_frame? hf rfl
    refine ⟨hphase, ?_⟩
    rw [hloader]
    cases hook with
    | host => cases hmount
    | fade | retire => rfl

end Session

end FrameHost
