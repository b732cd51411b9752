import FrameHost.Proofs.FailedChecks
import FrameHost.Proofs.Loaders
import FrameHost.Proofs.LoadEvents

/-!
# Frames that are not mounted

A frame that was never mounted, that found no place on the page or that was torn down has no nodes,
and its bus has no iframe (`Host.Housed`, `Host.Wired`). So whatever is done to it, short of mounting
it, changes nothing on the page and nothing that frames share (`operate_of_unmounted`), and its calls
are refused. A check of it that fails has no iframe to show the error in, and a paint that it waited
for belongs to a mount that is over. As nothing but a mount takes it out of its phase, this goes on for
as long as it is not mounted (`unmounted_inert`).
-/

namespace FrameHost

open Json (Value)

/-- Whether an operation mounts its frame whatever has become of the frame before. -/
def Frame.Op.mounts : Frame.Op → Bool
  | .openFrame _ | .mount _ => true
  | _ => false

/-- The generation in which an operation began to wait for a paint, if it did. -/
def Frame.Op.painted? : Frame.Op → Option ℕ
  | .fade g _ | .retire g _ => some g
  | _ => none

namespace Host

variable {h h' h'' : Host} {f g : FrameRef} {frame : Frame} {op : Frame.Op} {c : Check} {e : Error}

/-- Nothing changes on the page, and nothing that the frames share. -/
structure Unseen (h h' : Host) : Prop extends Shares h h' where
  page : h'.page = h.page

/-- Standing still goes unseen. -/
theorem Unseen.refl (h : Host) : h.Unseen h := ⟨⟨rfl, rfl⟩, rfl⟩

/-- Two changes that go unseen go unseen together. -/
theorem Unseen.trans (hu : h.Unseen h') (hu' : h'.Unseen h'') : h.Unseen h'' :=
  ⟨⟨hu'.registry.trans hu.registry, hu'.caches.trans hu.caches⟩, hu'.page.trans hu.page⟩

/-! ## Calls -/

/-- A frame with a resting bus refuses every task. -/
theorem execute_of_resting (hf : h.frame? f = some frame) (hrest : frame.bus.Resting) (task : Task)
    (responder : Responder) :
    h.execute (.frame f) task responder = .error (frame.bus.refusal task) := by
  unfold execute
  rw [bus?_of_frame? hf]
  dsimp only
  rw [hrest.execute]

/-- A call of a frame with a resting bus is settled at once, by a refusal that is reported. -/
theorem call_of_resting (hf : h.frame? f = some frame) (hrest : frame.bus.Resting) (m : Method) :
    h.call f m = (h.newChannel.1, .settled (some (.error (frame.bus.refusal (Task.ofMethod m)))),
      h.newChannel.1.report f (frame.bus.refusal (Task.ofMethod m))) := by
  have hf' : h.newChannel.1.frame? f = some frame := hf
  rw [call_eq, execute_of_resting hf' hrest]

/-- A call by name of a frame with a resting bus is refused and reported. -/
theorem callByName_of_resting (hf : h.frame? f = some frame) (hrest : frame.bus.Resting)
    (name : String) (params : Option Value) (cb : Callback) :
    h.callByName f name params cb = (h, .error (frame.bus.refusal (Task.call name params)),
      h.report f (frame.bus.refusal (Task.call name params))) := by
  unfold callByName
  rw [execute_of_resting hf hrest]

/-- The configuration is laid over that of the frame, but there is nobody to be told of it. -/
theorem configure_of_unmounted (hf : h.frame? f = some frame)
    (hphase : frame.phase.isMounted = false) (hrest : frame.bus.Resting) (patch : Config) :
    h.configure f patch =
      ((h.move (.patch f patch)).newChannel.1,
        .settled (some (.error (.frameNotMounted frame.bus.frameId))),
        (h.move (.patch f patch)).newChannel.1.report f (.frameNotMounted frame.bus.frameId)) := by
  have hs := sets_modifyFrame hf fun frame' => { frame' with config := frame.config.merged patch }
  have hpatch :
      h.modifyFrame f (fun frame' => { frame' with config := frame.config.merged patch }) =
        h.move (.patch f patch) := modifyFrame_congr hf rfl
  -- No remount, and the call that tells the application is refused.
  have hcall := call_of_resting hs.frame? hrest (.setConfig (frame.config.merged patch).toValue)
  rw [hpatch] at hcall
  unfold configure
  rw [hf]
  dsimp only
  rw [hphase, Bool.false_and, if_neg Bool.noConfusion, hpatch]
  exact hcall

/-- Every call of a frame fails, because nothing is connected to it. -/
structure Refuses (h : Host) (f : FrameRef) : Prop where
  call : ∀ m, ∃ e, e.isConnection = true ∧ (h.call f m).2.1 = .settled (some (.error e))
  callByName : ∀ name params cb, ∃ e, e.isConnection = true ∧
    (h.callByName f name params cb).2.1 = .error e
  configure : ∀ patch, ∃ e, e.isConnection = true ∧
    (h.configure f patch).2.1 = .settled (some (.error e))

/-- A frame that is not mounted refuses every call. -/
theorem refuses_of_unmounted (hf : h.frame? f = some frame)
    (hphase : frame.phase.isMounted = false) (hrest : frame.bus.Resting) : h.Refuses f where
  call m := ⟨_, Bus.isConnection_refusal _ _, by rw [call_of_resting hf hrest]⟩
  callByName name params cb :=
    ⟨_, Bus.isConnection_refusal _ _, by rw [callByName_of_resting hf hrest]⟩
  configure patch := ⟨_, rfl, by rw [configure_of_unmounted hf hphase hrest]⟩

/-! ## Operations -/

/-- A frame stays in its phase, and nothing changes that can be seen. -/
structure Inert (h h' : Host) (f : FrameRef) (phase : Phase) : Prop extends Unseen h h' where
  phase : (h'.frame? f).map Frame.phase = some phase

/-- A host that stays as it is is inert. -/
theorem inert_of_eq (hf : h.frame? f = some frame) (heq : h' = h) : h.Inert h' f frame.phase := by
  subst heq
  exact ⟨.refl h', congrArg _ hf⟩

/-- A reply finds no call, and there is no task to be posted. -/
theorem inert_reply (hf : h.frame? f = some frame) (data : Option Value) :
    h.Inert (h.reply (.frame f) data).1 f frame.phase := by
  obtain ⟨hs, hpage, -⟩ := reply_cases hf data
  exact ⟨⟨shares_reply (.frame f) data, hpage⟩, congrArg _ hs.frame?⟩

/-- Configuring a frame that is not mounted shows nothing. -/
theorem inert_configure (hf : h.frame? f = some frame) (hphase : frame.phase.isMounted = false)
    (hrest : frame.bus.Resting) (patch : Config) :
    h.Inert (h.configure f patch).1 f frame.phase := by
  rw [configure_of_unmounted hf hphase hrest]
  exact ⟨⟨⟨rfl, rfl⟩, rfl⟩, congrArg _ (sets_modifyFrame hf _).frame?⟩

/-- Destroying a frame that is not mounted shows nothing. -/
theorem inert_destroy (hf : h.frame? f = some frame) (hphase : frame.phase.isMounted = false) :
    h.Inert (h.destroy f) f frame.phase := by
  rcases destroy_cases hf with ⟨-, hsame⟩ | ⟨hmounted, -⟩
  · exact inert_of_eq hf hsame
  · exact Bool.noConfusion (hphase.symm.trans hmounted)

/-- Showing the content of a frame that is not mounted shows nothing. -/
theorem inert_showContent (hf : h.frame? f = some frame) (hphase : frame.phase.isMounted = false) :
    h.Inert (h.showContent f).1 f frame.phase := by
  have hloading : ¬ (frame.phase = .initializing ∨ frame.phase = .connected) := by
    rintro (hnot | hnot) <;> rw [hnot] at hphase <;> cases hphase
  rcases showContent_cases hf with hsame | ⟨nodes, hloads, -⟩
  · exact inert_of_eq hf hsame
  · exact absurd hloads hloading

/-- A message for a frame that is not mounted shows nothing. -/
theorem inert_handle (hf : h.frame? f = some frame) (hphase : frame.phase.isMounted = false)
    (hrest : frame.bus.Resting) (data : Value) : h.Inert (h.handle f data).1 f frame.phase := by
  rcases handle_moves (h := h) (f := f) data with ⟨patch, hpatches⟩ | ⟨m, hm, hmove⟩ | hsame
  · rw [handle_eq_of_patches hpatches]
    exact inert_configure hf hphase hrest patch
  · rw [hmove]
    rcases hm with rfl | rfl | ⟨data, rfl⟩
    · exact inert_showContent hf hphase
    · exact inert_destroy hf hphase
    · exact inert_reply hf data
  · exact inert_of_eq hf hsame

/-- Nothing that is done to a frame that is not mounted can be seen, unless the frame is mounted or a
paint comes that it waits for. -/
theorem operate_of_unmounted (hf : h.frame? f = some frame)
    (hphase : frame.phase.isMounted = false) (hrest : frame.bus.Resting) (hop : op.mounts = false)
    (hstale : ∀ g, op.painted? = some g → frame.generation ≠ g) :
    h.Inert (h.operate f op) f frame.phase := by
  cases op with
  | openFrame | mount => cases hop
  | destroy => exact inert_destroy hf hphase
  | showContent => exact inert_showContent hf hphase
  | configure patch => exact inert_configure hf hphase hrest patch
  | handle data => exact inert_handle hf hphase hrest data
  | call m =>
    show h.Inert (h.call f m).1 f frame.phase
    rw [call_of_resting hf hrest]
    exact ⟨⟨⟨rfl, rfl⟩, rfl⟩, congrArg _ hf⟩
  | callByName name params cb =>
    exact inert_of_eq hf (congrArg Prod.fst (callByName_of_resting hf hrest name params cb))
  | connect generation =>
    rcases connect_cases hf generation with ⟨-, hsame⟩ | ⟨-, phase, hbefore, -⟩
    · exact inert_of_eq hf hsame
    · -- A load connects only frames that are mounted.
      rcases hbefore with ⟨hnot, -⟩ | ⟨hnot, -⟩ <;> rw [hnot] at hphase <;> cases hphase
  | fade generation l =>
    -- The hook belongs to a mount that is over.
    have hne := hstale generation rfl
    refine inert_of_eq hf ?_
    show h.fadeLoader f generation l = h
    unfold fadeLoader
    rw [hf]
    exact if_neg hne
  | retire generation l =>
    rcases retireLoader_cases hf generation l with ⟨-, hsame⟩ | ⟨hg, -⟩
    · exact inert_of_eq hf hsame
    · exact absurd hg (hstale generation rfl)
  | postNext =>
    obtain ⟨hs, hpage, hcaches⟩ := postNext_cases hf
    rw [hrest.postNext] at hpage
    have hshares : h.Shares (h.postNext (.frame f)) :=
      shares_move (m := .postNext (.frame f)) rfl
    exact ⟨⟨hshares, hpage⟩, congrArg _ hs.frame?⟩

/-! ## Checks -/

/-- A check that fails shows nothing where there is no iframe. -/
theorem unseen_endCheck (hf : h.frame? c.frame = some frame) (hnodes : frame.nodes = none) :
    h.Unseen (h.endCheck c).2.1 ∧ (h.endCheck c).2.1.frames = h.frames := by
  have hfail : ∀ e, h.Unseen (h.failCheck c e).1 ∧ (h.failCheck c e).1.frames = h.frames := by
    intro e
    rcases h.failCheck_cases c e with hfail | ⟨frame', page, hf', -, hpage, hfail⟩
    · rw [hfail]
      exact ⟨.refl h, rfl⟩
    · rw [hf] at hf'
      cases hf'
      rcases hpage with ⟨-, rfl⟩ | ⟨nodes, document, hnodes', -⟩
      · rw [hfail]
        exact ⟨.refl h, rfl⟩
      · rw [hnodes] at hnodes'
        cases hnodes'
  unfold endCheck
  split
  · exact ⟨.refl h, rfl⟩
  · exact hfail _

/-- A frame that is not mounted has no nodes. -/
theorem Housed.nodes_of_unmounted (hh : h.Housed) (hf : h.frame? f = some frame)
    (hphase : frame.phase.isMounted = false) : frame.nodes = none := by
  have hnone : frame.nodes.isSome = false := (hh.mounted f frame hf).symm.trans hphase
  exact Option.isSome_eq_false_iff.mp hnone |> Option.isNone_iff_eq_none.mp

/-! ## Phases -/

/-- Nothing but a mount takes a frame out of a phase in which it is not mounted. -/
theorem Reaches.unmounted (hr : Reaches (fun m => ∀ config, m ≠ .mount f config) h h')
    (hf : h.frame? f = some frame) (hphase : frame.phase.isMounted = false) :
    (h'.frame? f).map Frame.phase = some frame.phase := by
  refine hr.preserves (P := fun h => (h.frame? f).map Frame.phase = some frame.phase) ?_
    (congrArg _ hf)
  intro h m hm hbefore
  obtain ⟨frame₁, hf₁, hphase₁⟩ := Option.map_eq_some_iff.mp hbefore
  obtain ⟨frame₂, hf₂, ht⟩ := (turns_move m).turn f frame₁ hf₁
  rw [hf₂, ← hphase₁]
  exact congrArg some (ht.unmounted (hphase₁ ▸ hphase) hm)

/-- What is done to a frame mounts no other one. -/
theorem reaches_operate (hopen : ∀ config, op = .openFrame config → g = (h.openFrame config).2)
    (hne : g ≠ f) : Reaches (fun m => ∀ config, m ≠ .mount f config) h (h.operate g op) := by
  -- What acts on another frame is no mount of this one.
  have hother : ∀ {m : Move}, m.ActsOn g → ∀ config, m ≠ .mount f config := by
    rintro m hm config rfl
    exact hne (hm.1 : f = g).symm
  rcases operate_cases h g op with ⟨config, rfl⟩ | ⟨config, hmount⟩ | hdestroy | ⟨generation, l, rfl⟩ |
    hminor
  · refine (reaches_openFrame config).mono ?_
    rintro m (⟨frameId, rfl⟩ | hm)
    · exact fun _ => Move.noConfusion
    · exact hother (hopen config rfl ▸ hm)
  · rw [hmount]
    exact Reaches.single (m := .mount g config) (hother ⟨rfl, rfl⟩)
  · rw [hdestroy]
    exact Reaches.single (m := .destroy g) fun _ => Move.noConfusion
  · exact Reaches.single (m := .retire g generation l) fun _ => Move.noConfusion
  · exact hminor.mono fun m hm => hm.ne_mount f

end Host

namespace Session

open Host (Unseen Inert Reaches)

variable {s : Session} {as : List Action} {f g : FrameRef} {frame : Frame} {op : Frame.Op}
  {state : CheckState}

/-! ## Steps -/

/-- The frame that the next job mounts, if it mounts one whatever has become of the frame before. -/
def mounts? (s : Session) : Option FrameRef :=
  match s.op? with
  | some (f, op) => if op.mounts then some f else none
  | none => none

/-- The next job is an operation on a frame, or on a check of it, or registers a command for it. -/
def Concerns (s : Session) (f : FrameRef) : Prop :=
  (∃ op, s.op? = some (f, op)) ∨ (∃ state, s.movedCheck? = some (f, state)) ∨
    ∃ nested name command cb jobs, s.frames.get? name = some f ∧
      s.agenda = .act nested (.frame (.registerCommand name command cb)) :: jobs

/-- An idle session concerns nobody. -/
theorem Concerns.agenda_ne_nil (hc : s.Concerns f) : s.agenda ≠ [] := by
  intro hnil
  rcases hc with ⟨op, hop⟩ | ⟨state, hmoved⟩ | ⟨nested, name, command, cb, jobs, -, hagenda⟩
  · unfold op? at hop
    rw [hnil] at hop
    cases hop
  · unfold movedCheck? at hmoved
    rw [hnil] at hmoved
    cases hmoved
  · rw [hnil] at hagenda
    cases hagenda

/-- A paint that a frame waits for leaves a hook until it comes. -/
theorem hook_of_op? {generation : ℕ} (hop : s.op? = some (f, op))
    (hg : op.painted? = some generation) :
    ∃ hook ∈ s.paintHooks, hook.mount? = some (f, generation) := by
  -- The hook that runs is one of the current hooks.
  have hhook : ∀ hook jobs, s.agenda = .painted hook :: jobs → hook ∈ s.paintHooks := by
    intro hook jobs hagenda
    refine List.mem_append_left _ (List.mem_filterMap.mpr ⟨.painted hook, ?_, rfl⟩)
    rw [hagenda]
    exact List.mem_cons_self
  obtain ⟨hfade, hretire⟩ := agenda_of_op? hop
  cases op with
  | fade g l =>
    cases hg
    obtain ⟨jobs, hagenda⟩ := hfade generation l rfl
    exact ⟨_, hhook _ jobs hagenda, rfl⟩
  | retire g l =>
    cases hg
    obtain ⟨jobs, hagenda⟩ := hretire generation l rfl
    exact ⟨_, hhook _ jobs hagenda, rfl⟩
  | _ => cases hg

/-- No paint is on its way that a frame waits for which is not mounted. -/
theorem stale_of_unmounted (hs : s.host.Fades s.paintHooks) (hf : s.host.frame? f = some frame)
    (hphase : frame.phase.isMounted = false) (hop : s.op? = some (f, op)) (generation : ℕ)
    (hg : op.painted? = some generation) : frame.generation ≠ generation := by
  intro heq
  obtain ⟨hook, hhook, hmount⟩ := hook_of_op? hop hg
  have hloaded := ((hs.shown hook hhook f generation hmount).of_frame? hf heq).1
  rw [hloaded] at hphase
  cases hphase

/-- An operation on a frame that is not mounted cannot be seen, unless it mounts the frame. -/
theorem inert_of_op? (hwired : s.host.Wired) (hs : s.host.Fades s.paintHooks)
    (hf : s.host.frame? f = some frame) (hphase : frame.phase.isMounted = false)
    (hop : s.op? = some (f, op)) (hmounts : s.mounts? ≠ some f) :
    s.host.Inert s.step.host f frame.phase := by
  have hop' : op.mounts = false := by
    unfold mounts? at hmounts
    rw [hop] at hmounts
    simpa using hmounts
  rw [step_operate hop]
  exact Host.operate_of_unmounted hf hphase ((hwired f frame hf).resting hphase) hop'
    (stale_of_unmounted hs hf hphase hop)

/-- A check that waits is one of its frame. -/
theorem isOf_of_movedCheck? {U : FrameRef → Prop} (hw : s.Within U)
    (hmoved : s.movedCheck? = some (f, state)) : state.IsOf f := by
  unfold movedCheck? at hmoved
  split at hmoved
  · split at hmoved
    · next hheld =>
      cases hmoved
      exact (hw.calls _ (Table.mem_values_of_get? hheld)).2
    · cases hmoved
  · split at hmoved
    · next n c hnext =>
      split at hmoved
      · cases hmoved
      · cases hmoved
        exact (hw.host.checks c (List.mem_of_getElem? (nextCheck?_spec hnext).1)).state
    · cases hmoved
  · cases hmoved

/-- A check of a frame without nodes cannot be seen to move. -/
theorem unseen_of_movedCheck? (hf : s.host.frame? f = some frame) (hnodes : frame.nodes = none)
    (hstate : state.IsOf f) (hmoved : s.movedCheck? = some (f, state)) :
    s.host.Unseen s.step.host := by
  obtain ⟨t, checks, wait, rest, ht, hstep, hwait⟩ := step_of_movedCheck? hmoved
  have hstart : ∀ u : Session, u.host = t.host → s.host.Unseen u.host := by
    intro u hu
    rw [hu, ht]
    exact ⟨⟨rfl, rfl⟩, rfl⟩
  have hpause : ∀ (u : Session) c, u.host = t.host → s.host.Unseen (wait u c).host := by
    intro u c hu
    obtain ⟨checks', hchecks'⟩ := hwait u c
    rw [hchecks', hu, ht]
    exact ⟨⟨rfl, rfl⟩, rfl⟩
  -- The frame has no nodes, so a check that ends has no document to show.
  have hend : ∀ (u : Session) c, u.host = t.host → c.frame = f →
      s.host.Unseen (u.endCheck c rest).host := by
    rintro u c hu rfl
    have hf' : u.host.frame? c.frame = some frame := by
      rw [hu, ht]
      exact hf
    exact (hstart u hu).trans (Host.unseen_endCheck hf' hnodes).1
  rw [hstep]
  unfold moveCheck
  cases state with
  | ended => exact hstart t rfl
  | fresh =>
    dsimp only
    split
    · exact hstart t rfl
    · next c hc =>
      obtain ⟨hframe, -⟩ := Host.frame?_of_check? hc
      split
      · exact hpause _ c rfl
      · exact hend _ c rfl hframe
  | waiting c =>
    dsimp only
    split
    · exact hpause t c rfl
    · exact hend t c rfl hstate

/-- Whatever the next job does to a frame that is not mounted cannot be seen, unless it mounts it. -/
theorem unseen_of_concerns {U : FrameRef → Prop} (hw : s.Within U) (hh : s.host.Housed)
    (hwired : s.host.Wired) (hs : s.host.Fades s.paintHooks) (hf : s.host.frame? f = some frame)
    (hphase : frame.phase.isMounted = false) (hmounts : s.mounts? ≠ some f)
    (hconcerns : s.Concerns f) : s.host.Unseen s.step.host := by
  rcases hconcerns with ⟨op, hop⟩ | ⟨state, hmoved⟩ | ⟨nested, name, command, cb, jobs, hname, hagenda⟩
  · exact (inert_of_op? hwired hs hf hphase hop hmounts).toUnseen
  · exact unseen_of_movedCheck? hf (hh.nodes_of_unmounted hf hphase)
      (isOf_of_movedCheck? hw hmoved) hmoved
  · -- A command that is registered can be seen by nobody.
    have hstep : s.step.host = s.host.move (.registerCommand f command cb) := by
      rw [step_cons hagenda]
      show (Session.onFrame _ name _).host = _
      unfold onFrame
      rw [show ({ s with agenda := jobs } : Session).frames.get? name = some f from hname]
      show _ = ((s.host.registerCommand f command cb).toOption.getD s.host)
      dsimp only
      cases s.host.registerCommand f command cb <;> rfl
    have hpage : (s.host.move (.registerCommand f command cb)).page = s.host.page := by
      show ((s.host.registerCommand f command cb).toOption.getD s.host).page = s.host.page
      unfold Host.registerCommand
      rw [hf]
      dsimp only
      cases frame.commands.register command cb <;> rfl
    rw [hstep]
    exact ⟨Host.shares_move rfl, hpage⟩

/-- A frame that is not mounted stays in its phase unless the next job mounts it. -/
theorem phase_step (hwired : s.host.Wired) (hs : s.host.Fades s.paintHooks)
    (hf : s.host.frame? f = some frame) (hphase : frame.phase.isMounted = false)
    (hmounts : s.mounts? ≠ some f) : (s.step.host.frame? f).map Frame.phase = some frame.phase := by
  cases hagenda : s.agenda with
  | nil =>
    rw [step_nil hagenda]
    exact congrArg _ hf
  | cons job jobs =>
    cases hop : s.op? with
    | none =>
      -- A step that operates nothing mounts nothing.
      refine ((step_idle hagenda hop).mono ?_).unmounted hf hphase
      rintro m ⟨hidle, -⟩ config rfl
      cases hidle
    | some r =>
      obtain ⟨g, op⟩ := r
      by_cases hg : g = f
      · subst hg
        exact (inert_of_op? hwired hs hf hphase hop hmounts).phase
      · rw [step_operate hop]
        exact (Host.reaches_operate (eq_openFrame_of_op? hop) hg).unmounted hf hphase

/-! ## Runs -/

/-- A frame that is not mounted stays in its phase for as long as it is not mounted. -/
theorem phase_after (hwired : ∀ i, (s.after as i).host.Wired)
    (hs : ∀ i, (s.after as i).host.Fades (s.after as i).paintHooks) {i k : ℕ} (hik : i ≤ k)
    (hf : (s.after as i).host.frame? f = some frame) (hphase : frame.phase.isMounted = false)
    (hmounts : ∀ j, i ≤ j → j < k → (s.after as j).mounts? ≠ some f) :
    ((s.after as k).host.frame? f).map Frame.phase = some frame.phase := by
  refine after_induction_from (P := fun t => (t.host.frame? f).map Frame.phase = some frame.phase)
    hik (congrArg _ hf) (fun j hij hjk hj => ?_) fun _ _ _ _ hj => hj
  obtain ⟨frame₁, hf₁, hphase₁⟩ := Option.map_eq_some_iff.mp hj
  rw [← hphase₁]
  exact phase_step (hwired j) (hs j) hf₁ (hphase₁ ▸ hphase) (hmounts j hij hjk)

/-- A frame that is not mounted is inert for as long as it is not mounted, however it came to that.
It stays in its phase, every call of it fails for want of a connection, and no call is pending or
deferred. Whatever is done to it or to its checks leaves the page, the registry and the caches as they
are. -/
theorem unmounted_inert (origin : String) (allowList : Option AllowList) (defaults : Config)
    (runtime : Bool) (scripts : List (List Action)) (as : List Action) {f : FrameRef} {frame : Frame}
    {i k : ℕ} :
    let s := (start origin allowList defaults runtime scripts).after as
    (s i).host.frame? f = some frame → (frame.phase = .uninitialized ∨ frame.phase = .destroyed) →
    i ≤ k → (∀ j, i ≤ j → j < k → (s j).mounts? ≠ some f) →
    (∃ frame', (s k).host.frame? f = some frame' ∧ frame'.phase = frame.phase ∧
      frame'.nodes = none ∧ frame'.bus.pending = [] ∧ frame'.bus.deferred = []) ∧
    (s k).host.Refuses f ∧
    ((s k).Concerns f → (s k).mounts? ≠ some f → (s k).host.Unseen (s (k + 1)).host) := by
  intro s hf hphase hik hmounts
  have hunmounted : frame.phase.isMounted = false := by
    rcases hphase with hphase | hphase <;> rw [hphase] <;> rfl
  have hwired : ∀ j, (s j).host.Wired := Host.wired_after
    (wired_start origin allowList defaults runtime scripts) as
  have hhoused : ∀ j, (s j).host.Housed := Host.housed_after (housed_start ..) as
  have hfades : ∀ j, (s j).host.Fades (s j).paintHooks := fades_after origin allowList defaults
    runtime scripts as
  have hwithin : (s k).Within fun _ => True := (fresh_start ..).within.after as k
  obtain ⟨frame', hf', hphase'⟩ :=
    Option.map_eq_some_iff.mp (phase_after hwired hfades hik hf hunmounted hmounts)
  have hunmounted' : frame'.phase.isMounted = false := by rw [hphase', hunmounted]
  -- The bus fits the phase, so it has nothing to do.
  have hrest := (hwired k f frame' hf').resting hunmounted'
  refine ⟨⟨frame', hf', hphase', ?_, hrest.pending, hrest.deferred⟩,
    Host.refuses_of_unmounted hf' hunmounted' hrest, fun hconcerns hnot => ?_⟩
  · exact (hhoused k).nodes_of_unmounted hf' hunmounted'
  · have hstep : s (k + 1) = (s k).step := after_succ_of_ne_nil hconcerns.agenda_ne_nil
    rw [hstep]
    exact unseen_of_concerns hwithin (hhoused k) (hwired k) (hfades k) hf' hunmounted' hnot hconcerns

/-- A frame with a loader is mounted and its content is shown; before the loader fades, the frame is torn
down. -/
def tornDownEarly : List Action :=
  [.page (.insert "f" "slot"),
    .frame (.openFrame "A" none (.ok (Config.ofFields
      [("frameId", .string "f"), ("checkCSP", .bool false)]))),
    .frame (.showContent "A"), .frame (.destroy "A"), .page .flushPaint]

/-- The paint comes when the frame is torn down, and does nothing. -/
theorem unmounted_inert_torn_down :
    let s := (start "https://host.example.com" none Config.empty false []).after tornDownEarly
    ((s 10).host.frame? 0).map Frame.phase = some .destroyed ∧ (s 13).op? = some (0, .fade 1 3) ∧
      (s 13).host.Refuses 0 ∧ (s 13).host.Unseen (s 14).host := by
  intro s
  have hphase : ((s 10).host.frame? 0).map Frame.phase = some .destroyed := by decide +kernel
  have hlive : (s 13).isLive 0 = true := by decide +kernel
  -- The hook of the destroyed mount is the next job.
  have hagenda : (s 13).agenda = [.painted (.fade 0 1 3), .paint 1] := by rfl
  have hop : (s 13).op? = some (0, .fade 1 3) := (op?_fade hagenda).trans (if_pos hlive)
  have hmounts : ∀ j, 10 ≤ j → j < 13 → (s j).mounts? ≠ some 0 := by decide +kernel
  have hnot : (s 13).mounts? ≠ some 0 := by
    unfold mounts?
    rw [hop]
    exact (Option.some_ne_none 0).symm
  obtain ⟨frame, hf, hdestroyed⟩ := Option.map_eq_some_iff.mp hphase
  obtain ⟨-, hrefuses, hunseen⟩ := unmounted_inert "https://host.example.com" none Config.empty false
    [] tornDownEarly hf (.inr hdestroyed) (by decide : 10 ≤ 13) hmounts
  exact ⟨hphase, hop, hrefuses, hunseen (.inl ⟨_, hop⟩) hnot⟩

end Session

end FrameHost
