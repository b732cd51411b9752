import FrameHost.Proofs.Neighbours

/-!
# How loaders go

The loader of a mount goes in three steps: the content of the frame is shown, then a paint makes the
loader fade, then another paint takes it from the page. Each step leaves a hook for the next one, and
no mount has two of them at a time (`Host.Fades`, `fades_after`). Whatever else happens, a mount keeps
its loader (`Host.Turn.onward`), so what is said about the loader and holds at one time of a mount
holds for as long as it lasts (`during_after`).
-/

namespace FrameHost

/-- The hook on a paint that a job runs. -/
def Job.paintHook? : Job → Option PaintHook
  | .painted hook => some hook
  | _ => none

/-- A frame keeps its loader, or it keeps having none, and its content stays shown. -/
structure Frame.Onward (frame frame' : Frame) : Prop where
  loader : frame'.loader? = frame.loader?
  loaded : frame.phase = .loaded → frame'.phase = .loaded

/-- A frame that is unloaded has no loader. -/
@[simp] theorem Frame.loader?_unloaded (frame : Frame) : frame.unloaded.loader? = none := by
  unfold unloaded loader?
  cases frame.nodes <;> rfl

namespace Host

variable {h : Host} {f : FrameRef} {g : ℕ} {frame frame' : Frame} {m : Move} {l : NodeId}
  {P : Frame → Prop} {hook hook' : PaintHook} {hooks hooks' : List PaintHook}

/-! ## As long as a mount lasts -/

/-- A frame has come to a mount, and as long as this mount lasts something holds of the frame. -/
def During (h : Host) (f : FrameRef) (g : ℕ) (P : Frame → Prop) : Prop :=
  ∃ frame, h.frame? f = some frame ∧ g ≤ frame.generation ∧ (frame.generation = g → P frame)

/-- What holds during a mount holds of the frame while that mount is current. -/
theorem During.of_frame? (hd : h.During f g P) (hf : h.frame? f = some frame)
    (hg : frame.generation = g) : P frame := by
  obtain ⟨frame₁, hf₁, -, hP⟩ := hd
  cases hf₁.symm.trans hf
  exact hP hg

/-- Within a mount the loader only goes when it is retired. -/
theorem Turn.onward (ht : h.Turn f frame m frame') (hg : frame'.generation = frame.generation)
    (hm : ∀ g l, m ≠ .retire f g l) : frame.Onward frame' := by
  have hnot : frame.generation + 1 ≠ frame.generation := Nat.succ_ne_self _
  cases ht with
  | goesOn hgoes => exact ⟨congrArg (Option.bind · Mounted.loader) hgoes.nodes, hgoes.loaded⟩
  | patched => exact ⟨rfl, id⟩
  | retired g l => exact absurd rfl (hm g l)
  | unplaced | placed | destroyed => exact absurd hg hnot

/-- What a mount keeps, it keeps in every move but a retirement. -/
theorem During.move (hd : h.During f g P) (hm : ∀ g l, m ≠ .retire f g l)
    (hP : ∀ frame frame', frame.Onward frame' → P frame → P frame') : (h.move m).During f g P := by
  obtain ⟨frame, hf, hle, hframe⟩ := hd
  obtain ⟨frame', hf', ht⟩ := (turns_move m).turn f frame hf
  have hle' := ht.generation_le
  refine ⟨frame', hf', Nat.le_trans hle hle', fun hg => ?_⟩
  -- The generation only grows, so it was the same before.
  have hbefore : frame.generation = g := by omega
  exact hP frame frame' (ht.onward (by omega) hm) (hframe hbefore)

/-! ## Loaders that are about to go -/

/-- What holds of a frame as long as a hook waits for it: its content is shown, and it has the loader
of the hook. -/
def Awaits (hook : PaintHook) (frame : Frame) : Prop :=
  frame.phase = .loaded ∧ frame.loader? = hook.loader?

/-- A mount that goes on awaits the same hook. -/
theorem Awaits.onward (hwaits : Awaits hook frame) (ho : frame.Onward frame') :
    Awaits hook frame' :=
  ⟨ho.loaded hwaits.1, ho.loader.trans hwaits.2⟩

/-- Of the hooks on a paint no two belong to the same mount, and as long as this mount lasts its loader
is the one that the hook is about. -/
structure Fades (h : Host) (hooks : List PaintHook) : Prop where
  once : (hooks.filterMap PaintHook.mount?).Nodup
  shown : ∀ hook ∈ hooks, ∀ f g, hook.mount? = some (f, g) → h.During f g (Awaits hook)

/-- Fewer hooks, in any order, fade as well. -/
theorem Fades.subperm (hf : h.Fades hooks) (hsub : hooks'.Subperm hooks) : h.Fades hooks' where
  once := by
    obtain ⟨between, hperm, hsublist⟩ := hsub
    have hnodup := hf.once.sublist (hsublist.filterMap PaintHook.mount?)
    exact (hperm.filterMap PaintHook.mount?).nodup_iff.mp hnodup
  shown hook hhook := hf.shown hook (hsub.subset hhook)

/-- Fewer hooks fade as well. -/
theorem Fades.sublist (hf : h.Fades hooks) (hsub : hooks'.Sublist hooks) : h.Fades hooks' :=
  hf.subperm hsub.subperm

/-- A hook of the host's is about no mount. -/
theorem Fades.cons_of_none (hf : h.Fades hooks) (hmount : hook.mount? = none) :
    h.Fades (hook :: hooks) where
  once := by
    rw [List.filterMap_cons_none hmount]
    exact hf.once
  shown hook' hhook f g hm := by
    rcases List.mem_cons.mp hhook with rfl | hhook
    · rw [hmount] at hm
      cases hm
    · exact hf.shown hook' hhook f g hm

/-- A mount gets its first hook. -/
theorem Fades.cons (hf : h.Fades hooks) (hmount : hook.mount? = some (f, g))
    (hnew : (f, g) ∉ hooks.filterMap PaintHook.mount?) (hd : h.During f g (Awaits hook)) :
    h.Fades (hook :: hooks) where
  once := by
    rw [List.filterMap_cons_some hmount]
    exact List.nodup_cons.mpr ⟨hnew, hf.once⟩
  shown hook' hhook f' g' hm := by
    rcases List.mem_cons.mp hhook with rfl | hhook
    · rw [hmount] at hm
      cases hm
      exact hd
    · exact hf.shown hook' hhook f' g' hm

/-- No mount has a second hook behind its first. -/
theorem Fades.not_mem (hf : h.Fades (hook :: hooks)) (hmount : hook.mount? = some (f, g)) :
    (f, g) ∉ hooks.filterMap PaintHook.mount? := by
  have honce := hf.once
  rw [List.filterMap_cons_some hmount] at honce
  exact (List.nodup_cons.mp honce).1

/-- The new hook stands behind those that wait on the page. -/
theorem Fades.of_asked {waiting waiting' : List PaintHook}
    (hf : h.Fades (hook :: (hooks ++ waiting))) (hsub : waiting'.Sublist (waiting ++ [hook])) :
    h.Fades (hooks ++ waiting') := by
  have hperm : (hooks ++ (waiting ++ [hook])).Perm (hook :: (hooks ++ waiting)) := by
    rw [← List.append_assoc]
    exact List.perm_append_singleton _ _
  exact (hf.subperm hperm.subperm).sublist ((List.Sublist.refl hooks).append hsub)

/-- Frames keep up with their hooks unless a loader is retired. -/
theorem Fades.kept (hf : h.Fades hooks) (hm : ∀ f g l, m ≠ .retire f g l) :
    (h.move m).Fades hooks where
  once := hf.once
  shown hook hhook f g hmount :=
    (hf.shown hook hhook f g hmount).move (hm f) fun _ _ ho hwaits => hwaits.onward ho

/-- Whether a move makes a loader fade or takes it away. -/
def Move.isFading : Move → Bool
  | .fade _ _ _ | .retire _ _ _ => true
  | _ => false

/-- The content of a frame is shown for the first time in its mount, so its hook is the first one. -/
theorem Fades.showContent (hf : h.Fades (hooks ++ h.page.fading)) (f : FrameRef) :
    (h.move (.showContent f)).Fades (hooks ++ (h.move (.showContent f)).page.fading) := by
  have hkept : (h.move (.showContent f)).Fades (hooks ++ h.page.fading) :=
    hf.kept fun _ _ _ => Move.noConfusion
  rcases fading_move (h := h) (.showContent f) with hsub | ⟨hook, hasks, hsub⟩
  · exact hkept.sublist ((List.Sublist.refl hooks).append hsub)
  · obtain ⟨frame, l, hframe, hl, rfl⟩ := hasks
    -- Unless there is a new hook nothing changes.
    rcases showContent_cases hframe with hsame | ⟨nodes, hphase, hnodes, hs, -⟩
    · have hmove : h.move (.showContent f) = h := hsame
      rw [hmove]
      exact hf
    · have hnew : (f, frame.generation) ∉ (hooks ++ h.page.fading).filterMap PaintHook.mount? := by
        intro hmem
        obtain ⟨hook, hhook, hmount⟩ := List.mem_filterMap.mp hmem
        have hloaded := ((hf.shown hook hhook _ _ hmount).of_frame? hframe rfl).1
        rw [hloaded] at hphase
        rcases hphase with hphase | hphase <;> cases hphase
      have hd : (h.move (.showContent f)).During f frame.generation
          (Awaits (.fade f frame.generation l)) :=
        ⟨_, hs.frame?, Nat.le_refl _, fun _ => ⟨rfl, hl⟩⟩
      exact (hkept.cons rfl hnew hd).of_asked hsub

/-- Every move that fades no loader keeps the hooks in order. -/
theorem Fades.move (hf : h.Fades (hooks ++ h.page.fading)) (hm : m.isFading = false) :
    (h.move m).Fades (hooks ++ (h.move m).page.fading) := by
  cases m with
  | showContent f => exact hf.showContent f
  | fade | retire => cases hm
  | _ =>
    -- No other move leaves a hook.
    rcases fading_move (h := h) _ with hsub | ⟨hook, hasks, -⟩
    · have hrest := hf.sublist ((List.Sublist.refl hooks).append hsub)
      exact hrest.kept fun _ _ _ => Move.noConfusion
    · exact hasks.elim

/-- A loader fades, and the hook that made it fade is followed by the one that takes it. -/
theorem Fades.fade (hf : h.Fades (.fade f g l :: (hooks ++ h.page.fading))) :
    (h.move (.fade f g l)).Fades (hooks ++ (h.move (.fade f g l)).page.fading) := by
  have hkept : (h.move (.fade f g l)).Fades (.fade f g l :: (hooks ++ h.page.fading)) :=
    hf.kept fun _ _ _ => Move.noConfusion
  have hrest := hkept.sublist (List.sublist_cons_self _ _)
  rcases fading_move (h := h) (.fade f g l) with hsub | ⟨hook, hasks, hsub⟩
  · exact hrest.sublist ((List.Sublist.refl hooks).append hsub)
  · obtain ⟨frame, -, -, rfl⟩ := hasks
    have hd : (h.move (.fade f g l)).During f g (Awaits (.retire f g l)) :=
      hkept.shown _ List.mem_cons_self f g rfl
    exact (hrest.cons rfl (hkept.not_mem rfl) hd).of_asked hsub

/-- A loader goes, and no other hook belongs to its mount. -/
theorem Fades.retire (hf : h.Fades (.retire f g l :: (hooks ++ h.page.fading))) :
    (h.move (.retire f g l)).Fades (hooks ++ (h.move (.retire f g l)).page.fading) := by
  have hother := hf.not_mem rfl
  have hrest : (h.move (.retire f g l)).Fades (hooks ++ h.page.fading) := by
    have hbefore := hf.sublist (List.sublist_cons_self _ _)
    refine ⟨hbefore.once, fun hook hhook f' g' hmount => ?_⟩
    have hd := hbefore.shown hook hhook f' g' hmount
    -- Only hooks of the same frame are touched, and their generation is another one.
    by_cases hf' : f' = f
    · subst hf'
      obtain ⟨frame, hframe, hle, hwaits⟩ := hd
      rcases retireLoader_cases hframe g l with ⟨-, hsame⟩ | ⟨hg, hs, -⟩
      · have hmove : h.move (.retire f' g l) = h := hsame
        rw [hmove]
        exact ⟨frame, hframe, hle, hwaits⟩
      · -- The hook belongs to an earlier mount.
        have hne : g' ≠ g := by
          rintro rfl
          exact hother (List.mem_filterMap.mpr ⟨hook, hhook, hmount⟩)
        refine ⟨_, hs.frame?, hle, fun hg' => ?_⟩
        have hg'' : frame.generation = g' := hg'
        omega
    · refine hd.move (fun g₁ l₁ heq => ?_) fun _ _ ho hwaits => hwaits.onward ho
      cases heq
      exact hf' rfl
  exact hrest.sublist ((List.Sublist.refl hooks).append (ages_retire f g l).fading)

end Host

namespace Session

open Host (Fades During Awaits retireLoader_cases)

variable {s : Session} {as : List Action} {job : Job} {jobs : List Job} {f : FrameRef} {g : ℕ}
  {l : NodeId} {op : Frame.Op} {P : Frame → Prop}

/-! ## Runs -/

/-- The hooks that wait for a paint or have yet to run. -/
def paintHooks (s : Session) : List PaintHook :=
  s.agenda.filterMap Job.paintHook? ++ s.host.page.fading

/-- A fade hook operates its frame while the frame is live. -/
theorem op?_fade (hagenda : s.agenda = .painted (.fade f g l) :: jobs) :
    s.op? = if s.isLive f then some (f, .fade g l) else none := by
  unfold op?
  rw [hagenda]

/-- A retirement hook operates its frame while the frame is live. -/
theorem op?_retire (hagenda : s.agenda = .painted (.retire f g l) :: jobs) :
    s.op? = if s.isLive f then some (f, .retire g l) else none := by
  unfold op?
  rw [hagenda]

/-- Only a paint puts hooks on the agenda. -/
theorem paintHooks_step (hagenda : s.agenda = job :: jobs) (hjob : ∀ ran, job ≠ .paint ran) :
    (s.step.agenda.filterMap Job.paintHook?).Sublist (jobs.filterMap Job.paintHook?) := by
  obtain ⟨⟨js, rest, hnext, hrest, hplain⟩, -⟩ := step_agenda hagenda
  have hnone : js.filterMap Job.paintHook? = [] := by
    refine List.filterMap_eq_nil_iff.mpr fun x hx => ?_
    cases x with
    | painted hook =>
      obtain ⟨ran, hpaint⟩ := (hplain _ hx).paints hook rfl
      exact absurd hpaint (hjob ran)
    | _ => rfl
  rw [hnext, List.filterMap_append, hnone, List.nil_append]
  exact hrest.filterMap _

/-- A paint moves a hook from the page to the agenda. -/
theorem fades_paint {ran : ℕ} (hs : s.host.Fades s.paintHooks)
    (hagenda : s.agenda = .paint ran :: jobs) : s.step.host.Fades s.step.paintHooks := by
  have hstep : s.step = Session.paint { s with agenda := jobs } ran := step_cons hagenda
  have hhooks : s.paintHooks = jobs.filterMap Job.paintHook? ++ s.host.page.fading := by
    unfold paintHooks
    rw [hagenda]
    rfl
  rw [hhooks] at hs
  rw [hstep]
  unfold paint
  dsimp only
  split
  · exact hs
  · -- The hook goes from the page to the agenda, so among all hooks it only moves.
    next hook paints hpaints =>
    generalize hpage : ({ s.host.page with paints } : Page) = page
    have hfading : s.host.page.fading =
        if hook.mount?.isSome then hook :: page.fading else page.fading := by
      unfold Page.fading
      rw [hpaints, List.filter_cons, ← hpage]
    have hframes : ∀ hooks, s.host.Fades hooks → ({ s.host with page } : Host).Fades hooks :=
      fun hooks hf => ⟨hf.once, hf.shown⟩
    refine hframes _ ?_
    show s.host.Fades (hook :: (jobs.filterMap Job.paintHook? ++ page.fading))
    rw [hfading] at hs
    cases hmount : hook.mount? with
    | none =>
      rw [hmount] at hs
      exact hs.cons_of_none hmount
    | some mount =>
      rw [hmount] at hs
      exact hs.subperm List.perm_middle.symm.subperm

/-- The hooks are in order after every step. -/
theorem fades_step (hs : s.host.Fades s.paintHooks) : s.step.host.Fades s.step.paintHooks := by
  cases hagenda : s.agenda with
  | nil =>
    rw [step_nil hagenda]
    exact hs
  | cons job jobs =>
    by_cases hpaint : ∃ ran, job = .paint ran
    · obtain ⟨ran, rfl⟩ := hpaint
      exact fades_paint hs hagenda
    · have hsub := paintHooks_step hagenda fun ran hjob => hpaint ⟨ran, hjob⟩
      suffices hrest : s.step.host.Fades
          (jobs.filterMap Job.paintHook? ++ s.step.host.page.fading) from
        hrest.sublist (hsub.append (List.Sublist.refl _))
      have hhooks : s.paintHooks =
          (job :: jobs).filterMap Job.paintHook? ++ s.host.page.fading := by
        unfold paintHooks
        rw [hagenda]
      rw [hhooks] at hs
      -- A hook that runs makes one move; other jobs make moves of other kinds.
      have hothers : (∀ m, job.Makes m → m.isFading = false) ∨ s.op? = none →
          s.step.host.Fades (jobs.filterMap Job.paintHook? ++ s.step.host.page.fading) := by
        intro hjob
        have hstart : s.host.Fades (jobs.filterMap Job.paintHook? ++ s.host.page.fading) :=
          hs.sublist (((List.sublist_cons_self job jobs).filterMap _).append (List.Sublist.refl _))
        rcases hjob with hjob | hop
        · exact (step_reaches hagenda).preserves
            (P := fun h => h.Fades (jobs.filterMap Job.paintHook? ++ h.page.fading))
            (fun h m hm hf => hf.move (hjob m hm)) hstart
        · refine (step_idle hagenda hop).preserves
            (P := fun h => h.Fades (jobs.filterMap Job.paintHook? ++ h.page.fading))
            (fun h m hm hf => hf.move ?_) hstart
          cases m with
          | fade | retire => cases hm.1
          | _ => rfl
      by_cases hfading : ∃ f g l, job = .painted (.fade f g l) ∨ job = .painted (.retire f g l)
      · obtain ⟨f, g, l, rfl | rfl⟩ := hfading
        · by_cases hlive : s.isLive f = true
          · rw [step_operate ((op?_fade hagenda).trans (if_pos hlive))]
            exact hs.fade
          · exact hothers (.inr ((op?_fade hagenda).trans (if_neg hlive)))
        · by_cases hlive : s.isLive f = true
          · rw [step_operate ((op?_retire hagenda).trans (if_pos hlive))]
            exact hs.retire
          · exact hothers (.inr ((op?_retire hagenda).trans (if_neg hlive)))
      · refine hothers (.inl fun m hm => ?_)
        cases m with
        | fade f g l => exact absurd ⟨f, g, l, .inl hm⟩ hfading
        | retire f g l => exact absurd ⟨f, g, l, .inr hm⟩ hfading
        | _ => rfl

/-- The hooks are in order in every state of a run. -/
theorem fades_after (origin : String) (allowList : Option AllowList) (defaults : Config)
    (runtime : Bool) (scripts : List (List Action)) (as : List Action) (i : ℕ) :
    let s := start origin allowList defaults runtime scripts
    (s.after as i).host.Fades (s.after as i).paintHooks := by
  intro s
  refine after_induction (P := fun s => s.host.Fades s.paintHooks) ?_ (fun _ => fades_step)
    (fun t a _ hagenda ht => ?_) i
  · exact ⟨List.nodup_nil, fun hook hhook => absurd hhook List.not_mem_nil⟩
  · -- An action that begins puts no hook anywhere.
    have hhooks : (t.begin a).paintHooks = t.paintHooks := by
      unfold paintHooks
      rw [hagenda]
      rfl
    rw [hhooks]
    exact ht.move (m := .page .takePosted) rfl

/-- What holds as long as a mount lasts goes on to hold, if it does so when the loader goes. -/
theorem during_step (hd : s.host.During f g P)
    (hP : ∀ frame frame', frame.Onward frame' → P frame → P frame')
    (hretire : ∀ l frame, s.op? = some (f, .retire g l) → s.host.frame? f = some frame →
      frame.generation = g → P frame → P frame.unloaded) : s.step.host.During f g P := by
  cases hagenda : s.agenda with
  | nil =>
    rw [step_nil hagenda]
    exact hd
  | cons job jobs =>
    -- A retirement takes the loader off, and every other job is onward.
    by_cases hjob : ∃ g' l, job = .painted (.retire f g' l)
    · obtain ⟨g', l, rfl⟩ := hjob
      by_cases hlive : s.isLive f = true
      · have hop := (op?_retire hagenda).trans (if_pos hlive)
        rw [step_operate hop]
        show (s.host.retireLoader f g' l).1.During f g P
        obtain ⟨frame, hf, hle, hframe⟩ := hd
        rcases retireLoader_cases hf g' l with ⟨-, hsame⟩ | ⟨hg', hs, -⟩
        · rw [hsame]
          exact ⟨frame, hf, hle, hframe⟩
        · refine ⟨_, hs.frame?, hle, fun hg => ?_⟩
          have hsame : g' = g := hg'.symm.trans hg
          exact hretire l frame (hsame ▸ hop) hf hg (hframe hg)
      · -- A frame that is gone takes no hook.
        have hop := (op?_retire hagenda).trans (if_neg hlive)
        refine (step_idle hagenda hop).preserves (P := fun h => h.During f g P)
          (fun h m hm hd => hd.move (fun g' l heq => ?_) hP) hd
        rw [heq] at hm
        cases hm.1
    · refine (step_reaches hagenda).preserves (P := fun h => h.During f g P)
        (fun h m hm hd => hd.move (fun g' l heq => ?_) hP) hd
      rw [heq] at hm
      exact hjob ⟨g', l, hm⟩

/-- Beginning an action moves no host, so what a mount keeps is kept. -/
theorem during_begin (hd : s.host.During f g P)
    (hP : ∀ frame frame', frame.Onward frame' → P frame → P frame') (a : Action) :
    (s.begin a).host.During f g P :=
  hd.move (m := .page .takePosted) (fun _ _ => Host.Move.noConfusion) hP

/-- What holds at one time of a run, as long as a mount lasts, holds from then on. -/
theorem during_after {i k : ℕ} (hik : k ≤ i) (hd : (s.after as k).host.During f g P)
    (hP : ∀ frame frame', frame.Onward frame' → P frame → P frame')
    (hretire : ∀ i l frame, (s.after as i).op? = some (f, .retire g l) →
      (s.after as i).host.frame? f = some frame → frame.generation = g → P frame →
      P frame.unloaded) : (s.after as i).host.During f g P := by
  refine after_induction_from (P := fun t => t.host.During f g P) hik hd (fun j _ _ hj => ?_)
    fun j a _ _ hj => ?_
  · exact during_step hj hP (hretire j)
  · exact during_begin hj hP a

end Session

end FrameHost
