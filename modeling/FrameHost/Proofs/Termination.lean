import FrameHost.Proofs.Estates
import Mathlib.Algebra.GroupWithZero.Nat
import Mathlib.Algebra.Order.BigOperators.Group.List
import Mathlib.Algebra.Order.Group.Nat
import Mathlib.Data.Prod.Lex

/-!
# Operations come to an end

What an operation leads to leads to more in turn, but not for ever: sooner or later the agenda is
empty (`exists_agenda_eq_nil`). Each piece of host code runs once, so the operations of host code run
out. Between two of these the jobs get less: a job is worth more than the jobs it leads to, where the
hooks that wait for a paint and the checks that wait for their turn count as jobs to come
(`Session.work`). So every step makes the operations left in host code, those on the agenda and the
worth of the other jobs smaller, in this order (`step_left_lt`).
-/

namespace FrameHost

open Json (Value)

/-! ## What there is to do -/

/-- What something left to be done is worth. -/
def Followup.work : Followup → ℕ
  | .invoke _ _ => 4
  | .showContent _ => 11
  | .postNext _ => 1

/-- What a hook on a paint is worth while it waits. -/
def PaintHook.work : PaintHook → ℕ
  | .host _ => 4
  | .fade _ _ _ => 9
  | .retire _ _ _ => 7

/-- What a check is worth. -/
def Spawned.work (c : Spawned) : ℕ :=
  match c.state with
  | .fresh => 20
  | .waiting _ => 18
  | .ended => 0

namespace Job

/-- Whether a job is an operation. -/
def isAct : Job → Bool
  | .act _ _ => true
  | _ => false

/-- What a job is worth; operations do not count. -/
def work : Job → ℕ
  | .act _ _ => 0
  | .note _ | .raise | .fence | .hold _ | .keep _ _ | .reply _ | .paint _ => 1
  | .invoke _ _ => 2
  | .follow x => x.work
  | .loaded (.host _) => 3
  | .loaded (.connect _ _) => 6
  | .painted (.host _) => 3
  | .painted (.fade _ _ _) => 8
  | .painted (.retire _ _ _) => 6
  | .deliver (.host _) _ _ => 3
  | .deliver (.frame _) _ _ => 22
  | .sweep 0 => 1
  | .sweep (_ + 1) => 2

/-- A hook is worth more while it waits than when it runs. -/
theorem work_painted_lt (hook : PaintHook) : (painted hook).work < hook.work := by
  cases hook <;> simp [work, PaintHook.work]

/-- A sweep is worth something. -/
theorem work_sweep_pos (start : ℕ) : 0 < (sweep start).work := by
  cases start <;> simp [work]

end Job

/-! ## What operations on frames cost -/

namespace Host

variable {h h' : Host} {f : FrameRef} {xs : List Followup} {c : ℕ}

/-- What the hooks and the checks of a host are worth. -/
def work (h : Host) : ℕ :=
  (h.page.paints.map PaintHook.work).sum + (h.checks.map Spawned.work).sum

/-- The work of a host is in its paint hooks and its checks. -/
theorem work_congr (hpaints : h'.page.paints = h.page.paints) (hchecks : h'.checks = h.checks) :
    h'.work = h.work := by
  unfold work
  rw [hpaints, hchecks]

/-- An operation costs at most `c`: this is what it adds and leaves to be done. -/
def Costs (h : Host) (c : ℕ) (h' : Host) (xs : List Followup) : Prop :=
  h'.work + (xs.map Followup.work).sum ≤ h.work + c

/-- What costs little costs no more than much. -/
theorem Costs.mono {c' : ℕ} (hc : h.Costs c h' xs) (hle : c ≤ c') : h.Costs c' h' xs :=
  Nat.le_trans hc (Nat.add_le_add_left hle _)

/-- An operation that adds no work costs what it leaves to be done. -/
theorem Costs.of_work (hwork : h'.work = h.work) (hxs : (xs.map Followup.work).sum ≤ c) :
    h.Costs c h' xs := by
  unfold Costs
  omega

/-- Doing nothing costs nothing. -/
theorem costs_nothing : h.Costs 0 h [] := Nat.le_refl _

/-- At most one handler is called. -/
theorem work_emit_le (event : String) (v : Value) :
    ((h.emit f event v).map Followup.work).sum ≤ 4 := by
  unfold emit
  cases (h.frame? f).bind fun frame => frame.handler? event with
  | none => exact Nat.zero_le 4
  | some cb => exact Nat.le_refl 4

/-- A hook that begins to wait adds what it is worth. -/
theorem work_afterPaint {p : Page} (hpaints : p.paints = h.page.paints) (hook : PaintHook) :
    work { h with page := p.afterPaint hook } = h.work + hook.work := by
  unfold work Page.afterPaint
  dsimp only
  rw [hpaints, List.map_append, List.sum_append]
  show _ + (hook.work + 0) + _ = _
  omega

/-- What showing the content costs. -/
theorem costs_showContent : h.Costs 9 (h.showContent f).1 (h.showContent f).2 := by
  unfold showContent
  split
  · exact costs_nothing.mono (Nat.zero_le 9)
  · next frame hf =>
    split
    · exact costs_nothing.mono (Nat.zero_le 9)
    · next nodes _ =>
      dsimp only
      split
      · next loader _ =>
        -- With a loader it is the hook on the paint that costs.
        have hwork := work_afterPaint (h := h)
          (p := (h.page.setStyle nodes.container
            (Look.containerLoaded frame.config.width frame.config.height)).setStyle nodes.iframe
              Look.visible) rfl (.fade f frame.generation loader)
        exact Nat.le_of_eq hwork
      · refine Costs.of_work (work_congr rfl rfl) ?_
        exact Nat.le_trans (work_emit_le _ _) (by decide)

/-- What a load costs. -/
theorem costs_connect (g : ℕ) : h.Costs 4 (h.connect f g).1 (h.connect f g).2 := by
  unfold connect
  split
  · exact costs_nothing.mono (Nat.zero_le 4)
  · next frame hf =>
    split
    · exact costs_nothing.mono (Nat.zero_le 4)
    · dsimp only
      refine Costs.of_work (work_congr ?_ rfl) ?_
      · cases frame.listener <;> rfl
      · split
        · exact Nat.zero_le 4
        · exact work_emit_le _ _

/-- What fading the loader adds. -/
theorem work_fadeLoader (g : ℕ) (l : NodeId) : (h.fadeLoader f g l).work ≤ h.work + 7 := by
  rcases h.fadeLoader_cases f g l with hfade | ⟨frame, -, -, hfade⟩
  · rw [hfade]
    exact Nat.le_add_right _ _
  · rw [hfade]
    exact Nat.le_of_eq (work_afterPaint (p := h.page.setStyle l Look.faded) rfl _)

/-- What retiring the loader costs. -/
theorem costs_retireLoader (g : ℕ) (l : NodeId) :
    h.Costs 4 (h.retireLoader f g l).1 (h.retireLoader f g l).2 := by
  unfold retireLoader
  split
  · exact costs_nothing.mono (Nat.zero_le 4)
  · split
    · exact Costs.of_work (work_congr (Page.paints_remove _) rfl) (work_emit_le _ _)
    · exact costs_nothing.mono (Nat.zero_le 4)

/-- What is said about a check changes, but not how far it has come. -/
theorem work_modify_checks {g : Spawned → Spawned} (hg : ∀ c, (g c).work = c.work)
    (checks : List Spawned) (n : ℕ) :
    ((checks.modify n g).map Spawned.work).sum = (checks.map Spawned.work).sum := by
  have hmap : (checks.modify n g).map Spawned.work = checks.map Spawned.work := by
    refine List.ext_getElem? fun m => ?_
    rw [List.getElem?_map, List.getElem?_map, List.getElem?_modify]
    cases checks[m]? with
    | none => rfl
    | some c =>
      show some (Spawned.work (if n = m then g c else c)) = some c.work
      split
      · rw [hg]
      · rfl
  rw [hmap]

/-- Letting go of the old nodes adds no work. -/
theorem work_release : (h.release f).work = h.work := by
  unfold release
  split
  · rfl
  · next frame hf =>
    unfold work modifyFrame
    dsimp only
    rw [Page.paints_removeListener?]
    congr 1
    unfold abort
    split
    · rfl
    · exact work_modify_checks (g := fun c => { c with aborted := true }) (fun _ => rfl) _ _

/-- Leaving the registry adds no work. -/
theorem work_deregister (frameId : String) : (h.deregister f frameId).work = h.work := by
  unfold deregister
  split <;> rfl

/-- Entering the registry adds no work. -/
theorem work_register : (h.register f).work = h.work := by
  unfold register
  split
  · rfl
  · split <;> rfl

/-- A mount may begin a check. -/
theorem work_startCheck : (h.startCheck f).work ≤ h.work + 20 := by
  unfold startCheck
  split
  · exact Nat.le_add_right _ _
  · split
    · unfold work modifyFrame
      dsimp only
      rw [List.map_append, List.sum_append]
      show _ + (_ + (20 + 0)) ≤ _
      omega
    · exact Nat.le_add_right _ _

/-- Installing the nodes adds the work of a check. -/
theorem work_install (frame : Frame) (place : Place) :
    (h.install f frame place).1.work ≤ h.work + 20 := by
  unfold install
  dsimp only
  rw [work_register]
  refine Nat.le_trans work_startCheck (Nat.add_le_add_right (Nat.le_of_eq ?_) 20)
  refine work_congr ?_ rfl
  exact (Page.builds_build rfl).paints

/-- Preparing a mount adds no work. -/
theorem work_prepare (frame : Frame) (place : Place) : (h.prepare f frame place).work = h.work := by
  cases place <;> rfl

/-- A mount adds the work of a check. -/
theorem work_mount (config : Config) : (h.mount f config).1.work ≤ h.work + 20 := by
  unfold mount
  split
  · exact Nat.le_add_right _ _
  · next old hf =>
    -- Until the frame is put in its place nothing is added.
    have hready : ∀ frameId, Host.work (if old.frameId = frameId then
        (h.release f).modifyFrame f fun frame =>
          { frame with config := (Config.defaults.merged old.config).merged config }
        else ((h.release f).modifyFrame f fun frame =>
          { frame with config := (Config.defaults.merged old.config).merged config }).deregister f
            old.frameId) = h.work := by
      intro frameId
      split
      · exact work_release
      · rw [work_deregister]
        exact work_release
    dsimp only
    split
    · refine Nat.le_trans (work_install _ _) (Nat.le_of_eq ?_)
      rw [work_prepare, hready]
    · refine Nat.le_trans (Nat.le_of_eq ?_) (Nat.le_add_right _ 20)
      exact hready _

/-- Destroying a frame adds no work. -/
theorem work_destroy : (h.destroy f).work = h.work := by
  unfold destroy
  split
  · rfl
  · next frame hf =>
    split
    · rw [work_deregister]
      refine Eq.trans (work_congr (h := h.release f) ?_ rfl) work_release
      cases frame.nodes <;> rfl
    · rfl

/-- An accepted call adds no work. -/
theorem work_execute {r : BusRef} {task : Task} {responder : Responder}
    (hx : h.execute r task responder = .ok h') : h'.work = h.work := by
  rw [← move_execute hx]
  rcases h.host_execute r task responder with hsame | ⟨b, bus, posted, -, -, hmove⟩
  · rw [hsame]
  · rw [hmove]
    refine work_congr ?_ ?_
    · cases posted <;> rfl
    · cases r <;> rfl

/-- What a call costs. -/
theorem costs_call (m : Method) : h.Costs 4 (h.call f m).1 (h.call f m).2.2 := by
  unfold call
  dsimp only
  split
  · next h' hx => exact Costs.of_work ((work_execute hx).trans rfl) (Nat.zero_le 4)
  · exact Costs.of_work (work_congr rfl rfl) (work_emit_le _ _)

/-- What configuring costs, a remount included. -/
theorem costs_configure (patch : Config) :
    h.Costs 20 (h.configure f patch).1 (h.configure f patch).2.2 := by
  unfold configure
  split
  · exact costs_nothing.mono (Nat.zero_le 20)
  · split
    · exact work_mount patch
    · exact (costs_call _).mono (by decide)

/-- Posting a deferred task adds no work. -/
theorem work_postNext (r : BusRef) : (h.postNext r).work = h.work := by
  rcases h.host_postNext r with hsame | ⟨b, -, hnext⟩
  · rw [hsame]
  · rw [hnext]
    refine work_congr ?_ ?_
    · cases b.postNext.2 <;> rfl
    · cases r <;> rfl

/-- What an answer costs. -/
theorem costs_reply (r : BusRef) (data : Option Value) :
    h.Costs 5 (h.reply r data).1 (h.reply r data).2 := by
  unfold reply
  split
  · exact costs_nothing.mono (Nat.zero_le 5)
  · next bus _ =>
    have hset : (h.setBus r bus.answer.2).work = h.work := by cases r <;> exact work_congr rfl rfl
    dsimp only
    cases bus.answer.1 with
    | none => exact Costs.of_work hset (Nat.le_add_left 1 4)
    | some call =>
      dsimp only
      cases call.responder with
      | channel id => exact Costs.of_work hset (Nat.le_add_left 1 4)
      | callback cb => exact Costs.of_work hset (Nat.le_refl 5)
      | ignore => exact Costs.of_work hset (Nat.le_add_left 1 4)

/-- What a command costs. -/
theorem costs_runCommand (name : String) (data : Value) :
    h.Costs 20 (h.runCommand f name data).1 (h.runCommand f name data).2 := by
  unfold runCommand
  split
  · exact costs_nothing.mono (Nat.zero_le 20)
  · exact costs_showContent.mono (by decide)
  · exact Costs.of_work work_destroy (Nat.zero_le 20)
  · exact Costs.of_work rfl (Nat.le_add_left 4 16)
  · split
    · exact Costs.of_work rfl (Nat.le_trans (work_emit_le _ _) (by decide))
    · exact costs_configure _

/-- What a handled message costs. -/
theorem costs_handle (data : Value) : h.Costs 20 (h.handle f data).1 (h.handle f data).2 := by
  -- A message at worst calls one handler or runs one command.
  have hemit : ∀ event v, h.Costs 20 h (h.emit f event v) := fun event v =>
    Costs.of_work rfl (Nat.le_trans (work_emit_le event v) (by decide))
  unfold handle
  split
  · dsimp only
    split
    · unfold dispatch
      split
      · exact (costs_reply _ _).mono (by decide)
      · split
        · exact costs_nothing.mono (Nat.zero_le 20)
        · exact hemit _ _
      · exact costs_runCommand _ _
      · exact hemit _ _
      · exact costs_nothing.mono (Nat.zero_le 20)
    · exact costs_nothing.mono (Nat.zero_le 20)
  · exact costs_nothing.mono (Nat.zero_le 20)

/-- What the end of a check costs. -/
theorem costs_endCheck (c : Check) : h.Costs 15 (h.endCheck c).2.1 (h.endCheck c).2.2 := by
  unfold endCheck
  split
  · exact costs_nothing.mono (Nat.zero_le 15)
  · next e _ =>
    rcases h.failCheck_cases c e with hfail | ⟨frame, page, -, -, hpage, hfail⟩
    · rw [hfail]
      exact costs_nothing.mono (Nat.zero_le 15)
    · rw [hfail]
      refine Costs.of_work (work_congr ?_ rfl) ?_
      · rcases hpage with ⟨-, rfl⟩ | ⟨nodes, document, -, rfl⟩ <;> rfl
      · rw [List.map_append, List.sum_append]
        exact Nat.add_le_add (work_emit_le _ _) (Nat.le_refl 11)

end Host

/-! ## What jobs cost -/

namespace Session

variable {s t : Session} {c : ℕ}

/-- What the jobs to come are worth, operations apart. -/
def work (s : Session) : ℕ := (s.agenda.map Job.work).sum + s.host.work

/-- `t` has jobs in front of the agenda of `s`, none of which is an operation. These jobs, and what
else there is to do besides what there was in `s`, cost at most `c`. -/
structure Spends (c : ℕ) (s t : Session) : Prop where
  scripts : t.scripts = s.scripts
  jobs : ∃ js, t.agenda = js ++ s.agenda ∧ (∀ x ∈ js, x.isAct = false) ∧
    t.host.work + (js.map Job.work).sum ≤ s.host.work + c

/-- Who spends little spends no more than much. -/
theorem Spends.mono {c' : ℕ} (h : Spends c s t) (hle : c ≤ c') : Spends c' s t := by
  obtain ⟨js, hjs, hacts, hcost⟩ := h.jobs
  exact ⟨h.scripts, js, hjs, hacts, Nat.le_trans hcost (Nat.add_le_add_left hle _)⟩

/-- What was done before has its cost, too. -/
theorem Spends.after {c' : ℕ} {u : Session} (h : Spends c t u) (hagenda : t.agenda = s.agenda)
    (hscripts : t.scripts = s.scripts) (hwork : t.host.work + c ≤ s.host.work + c') :
    Spends c' s u := by
  obtain ⟨js, hjs, hacts, hcost⟩ := h.jobs
  exact ⟨h.scripts.trans hscripts, js, hagenda ▸ hjs, hacts, Nat.le_trans hcost hwork⟩

/-- A step that changes the host alone spends what this adds. -/
theorem Spends.of_host (hagenda : t.agenda = s.agenda) (hscripts : t.scripts = s.scripts)
    (hcost : t.host.work ≤ s.host.work + c) : Spends c s t :=
  ⟨hscripts, [], hagenda, fun _ hx => absurd hx List.not_mem_nil, hcost⟩

/-- Host code is called. -/
theorem Spends.of_call (hscripts : t.scripts = s.scripts) (hhost : t.host.work = s.host.work)
    {cb : Callback} {v : Value} (hagenda : t.agenda = .invoke cb v :: s.agenda) : Spends 2 s t := by
  refine ⟨hscripts, [.invoke cb v], hagenda, fun x hx => ?_, Nat.le_of_eq ?_⟩
  · rw [List.mem_singleton.mp hx]
    rfl
  · exact congrArg (· + 2) hhost

/-- What follows from an operation on a frame. -/
theorem Spends.follow {f : FrameRef} {xs : List Followup} (rest : List Job)
    (hagenda : t.agenda = s.agenda) (hscripts : t.scripts = s.scripts)
    (hcost : s.host.Costs c t.host xs) (hrest : ∀ x ∈ rest, x.isAct = false) :
    Spends (c + 1 + (rest.map Job.work).sum) s (t.follow f xs rest) := by
  refine ⟨hscripts, xs.map .follow ++ .hold f :: rest, ?_, fun x hx => ?_, ?_⟩
  · show (xs.map .follow ++ .hold f :: rest) ++ t.agenda = _
    rw [hagenda]
  · rcases List.mem_append.mp hx with hx | hx
    · obtain ⟨y, -, rfl⟩ := List.mem_map.mp hx
      rfl
    · rcases List.mem_cons.mp hx with rfl | hx
      · rfl
      · exact hrest x hx
  · -- What follows is worth as much on the agenda as off it.
    have hxs : ((xs.map Job.follow).map Job.work).sum = (xs.map Followup.work).sum := by
      rw [List.map_map]
      rfl
    have hall : ((xs.map Job.follow ++ .hold f :: rest).map Job.work).sum =
        (xs.map Followup.work).sum + (1 + (rest.map Job.work).sum) := by
      rw [List.map_append, List.sum_append, hxs]
      rfl
    unfold Host.Costs at hcost
    rw [hall]
    show t.host.work + _ ≤ _
    omega

/-- What follows from an operation on a frame, and nothing else. -/
theorem Spends.followed {f : FrameRef} {h : Host} {xs : List Followup}
    (hcost : s.host.Costs c h xs) : Spends (c + 1) s ((s.withHost h).follow f xs []) :=
  Spends.follow (t := s.withHost h) [] rfl rfl hcost
    fun _ hx => absurd hx List.not_mem_nil

/-- What is left once a job is done that is worth more than its cost. -/
theorem Spends.work_lt {job : Job} (h : Spends c s t) (hc : c < job.work) :
    t.work < s.work + job.work := by
  obtain ⟨js, hjs, -, hcost⟩ := h.jobs
  unfold work
  rw [hjs, List.map_append, List.sum_append]
  omega

/-- Jobs that are no operations stand in front. -/
theorem acts_of_append (js : List Job) (hjs : t.agenda = js ++ s.agenda)
    (hacts : ∀ x ∈ js, x.isAct = false) :
    t.agenda.countP Job.isAct = s.agenda.countP Job.isAct := by
  have hzero : js.countP Job.isAct = 0 := by
    rw [List.countP_eq_zero]
    intro x hx
    rw [hacts x hx]
    exact Bool.false_ne_true
  rw [hjs, List.countP_append, hzero, Nat.zero_add]

/-- A step that spends puts no operation on the agenda. -/
theorem Spends.acts (h : Spends c s t) : t.agenda.countP Job.isAct = s.agenda.countP Job.isAct := by
  obtain ⟨js, hjs, hacts, -⟩ := h.jobs
  exact acts_of_append js hjs hacts

/-! ## Checks -/

/-- A check moves on by a state that is worth less. -/
theorem work_setCheck {n : ℕ} {spawned : Spawned} (hc : s.host.checks[n]? = some spawned)
    (state : CheckState) :
    (s.setCheck n state).host.work + spawned.work =
      s.host.work + Spawned.work { spawned with state } := by
  obtain ⟨hn, hget⟩ := List.getElem?_eq_some_iff.mp hc
  -- The sum is split at the check that changes.
  have hsplit : s.host.checks =
      s.host.checks.take n ++ spawned :: s.host.checks.drop (n + 1) := by
    rw [← hget, List.cons_getElem_drop_succ, List.take_append_drop]
  have hmodify : s.host.checks.modify n (fun c => { c with state }) =
      s.host.checks.take n ++ { spawned with state } :: s.host.checks.drop (n + 1) := by
    rw [List.modify_eq_take_cons_drop hn, hget]
  have hbefore : (s.host.checks.map Spawned.work).sum =
      ((s.host.checks.take n).map Spawned.work).sum +
        (spawned.work + ((s.host.checks.drop (n + 1)).map Spawned.work).sum) := by
    conv_lhs => rw [hsplit]
    rw [List.map_append, List.sum_append, List.map_cons, List.sum_cons]
  show (s.host.page.paints.map PaintHook.work).sum +
      ((s.host.checks.modify n fun c => { c with state }).map Spawned.work).sum + _ = _
  unfold Host.work
  rw [hmodify, hbefore, List.map_append, List.sum_append, List.map_cons, List.sum_cons]
  omega

/-- Ending the aborted checks takes their work away. -/
theorem work_endAborted (h : Host) :
    (Host.work { h with
      checks := h.checks.map fun c => if c.aborted then { c with state := .ended } else c }) ≤
      h.work := by
  unfold Host.work
  refine Nat.add_le_add_left ?_ _
  rw [List.map_map]
  refine List.sum_le_sum fun c _ => ?_
  show Spawned.work (if c.aborted then { c with state := .ended } else c) ≤ c.work
  split
  · exact Nat.zero_le _
  · exact Nat.le_refl _

/-- A check that moves waits, or it ends; `rest` follows its end. -/
theorem Spends.moveCheck {f : FrameRef} {state : CheckState} {wait : Session → Check → Session}
    {rest : List Job} (hrest : ∀ x ∈ rest, x.isAct = false)
    (hc : 16 + (rest.map Job.work).sum ≤ c)
    (hwait : ∀ t : Session, ∀ c', t.host = s.host → t.agenda = s.agenda → t.scripts = s.scripts →
      (state = .fresh ∨ ∃ c, state = .waiting c ∧ s.host.mustWait = true) → Spends c s (wait t c')) :
    Spends c s (s.moveCheck f state wait fun _ => rest) := by
  -- Without a check to make, the rest is all there is.
  have hover : Spends c s (s.push rest) := ⟨rfl, rest, rfl, hrest, by show s.host.work + _ ≤ _; omega⟩
  -- A check that ends costs fifteen, the hold one, and the rest comes after.
  have hend : ∀ t : Session, ∀ c', t.host = s.host → t.agenda = s.agenda →
      t.scripts = s.scripts → Spends c s (t.endCheck c' fun _ => rest) := by
    intro t c' hhost hagenda hscripts
    have hcost : s.host.Costs 15 (t.host.endCheck c').2.1 (t.host.endCheck c').2.2 :=
      hhost ▸ Host.costs_endCheck c'
    exact (Spends.follow (t := t.withHost (t.host.endCheck c').2.1) (f := c'.frame)
      rest hagenda hscripts hcost hrest).mono hc
  unfold Session.moveCheck
  cases state with
  | ended => exact hover
  | fresh =>
    dsimp only
    split
    · exact hover
    · next c' _ =>
      split
      · exact hwait (s.record (.fetched c'.src)) c' rfl rfl rfl (.inl rfl)
      · exact hend (s.record (.fetched c'.src)) c' rfl rfl rfl
  | waiting c' =>
    dsimp only
    split
    · next hmust => exact hwait s c' rfl rfl rfl (.inr ⟨c', rfl, hmust⟩)
    · exact hend s c' rfl rfl rfl

/-- The checks that can move get less, or the places do where one can be found. -/
theorem spends_sweep (start : ℕ) : ∃ c < (Job.sweep start).work, Spends c s (s.sweep start) := by
  unfold sweep
  split
  · next n spawned hnext =>
    obtain ⟨hc, hmove⟩ := nextCheck?_spec hnext
    refine ⟨0, Job.work_sweep_pos start, ?_⟩
    have hended : (s.setCheck n .ended).host.work + spawned.work = s.host.work :=
      work_setCheck hc .ended
    have hc' : (s.setCheck n .ended).host.checks[n]? = some { spawned with state := .ended } := by
      show (s.host.checks.modify n fun c => { c with state := .ended })[n]? = _
      rw [List.getElem?_modify_eq, hc]
      rfl
    have hacts : ∀ x ∈ [Job.sweep (n + 1)], x.isAct = false := fun x hx => by
      rw [List.mem_singleton.mp hx]
      rfl
    -- What follows is paid by the check: it is worth more than the state that it comes to.
    suffices hpaid : Spends spawned.work (s.setCheck n .ended) _ from
      hpaid.after rfl rfl (Nat.le_of_eq hended)
    cases hstate : spawned.state with
    | ended =>
      unfold canMove at hmove
      rw [hstate] at hmove
      cases hmove
    | fresh =>
      have hwork : spawned.work = 20 := by
        unfold Spawned.work
        rw [hstate]
      rw [hwork]
      split
      · exact ⟨rfl, [.sweep (n + 1)], rfl, hacts, Nat.add_le_add_left (Nat.le_add_left 2 18) _⟩
      · refine Spends.moveCheck hacts (Nat.le_add_left 18 2) fun t c hhost hagenda hscripts _ => ?_
        refine ⟨hscripts, [.sweep (n + 1)], congrArg (_ :: ·) hagenda, hacts, ?_⟩
        have hwaits := work_setCheck (s := t) (hhost ▸ hc') (.waiting c)
        rw [hhost] at hwaits
        have hwaits' : (t.setCheck n (.waiting c)).host.work = (s.setCheck n .ended).host.work + 18 :=
          hwaits
        show (t.setCheck n (.waiting c)).host.work + 2 ≤ _
        omega
    | waiting c =>
      have hwork : spawned.work = 18 := by
        unfold Spawned.work
        rw [hstate]
      rw [hwork]
      split
      · exact ⟨rfl, [.sweep (n + 1)], rfl, hacts, Nat.add_le_add_left (Nat.le_add_left 2 16) _⟩
      · refine Spends.moveCheck hacts (Nat.le_refl 18) fun t c' _ _ _ hwaits => ?_
        -- A check that waits can move only when the allow-list is there.
        rcases hwaits with hfresh | ⟨-, -, hmust⟩
        · cases hfresh
        · have hmust' : s.host.mustWait = true := hmust
          unfold canMove at hmove
          rw [hstate, hmust'] at hmove
          simp at hmove
  · split
    · exact ⟨0, Job.work_sweep_pos start, Spends.of_host rfl rfl (work_endAborted s.host)⟩
    · next hstart =>
      obtain ⟨m, rfl⟩ := Nat.exists_eq_succ_of_ne_zero hstart
      refine ⟨1, Nat.one_lt_two, rfl, [.sweep 0], rfl, fun x hx => ?_, Nat.le_refl _⟩
      rw [List.mem_singleton.mp hx]
      rfl

/-! ## Jobs -/

/-- A panic drops jobs. -/
theorem unwind_le (jobs : List Job) :
    (s.unwind jobs).work ≤ (jobs.map Job.work).sum + s.host.work ∧
      (s.unwind jobs).agenda.countP Job.isAct ≤ jobs.countP Job.isAct := by
  have hsub : (s.unwind jobs).agenda.Sublist jobs := by
    rw [agenda_unwind]
    exact (List.tail_sublist _).trans (List.dropWhile_sublist _)
  refine ⟨?_, hsub.countP_le⟩
  unfold work
  rw [host_unwind]
  exact Nat.add_le_add_right ((hsub.map _).sum_le_sum fun _ _ => Nat.zero_le _) _

/-- A job other than an operation, a panic or a call of host code is worth more than it costs. -/
theorem spends_perform (job : Job) (hact : job.isAct = false) (hraise : job ≠ .raise)
    (hinvoke : ∀ cb v, job ≠ .invoke cb v) : ∃ c < job.work, Spends c s (s.perform job) := by
  -- Most jobs leave nothing and are worth one at least.
  have hfree : ∀ {t : Session}, t.agenda = s.agenda → t.scripts = s.scripts →
      t.host.work = s.host.work → 0 < job.work → ∃ c < job.work, Spends c s t :=
    fun hagenda hscripts hwork hpos => ⟨0, hpos, Spends.of_host hagenda hscripts hwork.le⟩
  cases job with
  | act => cases hact
  | raise => exact absurd rfl hraise
  | invoke cb v => exact absurd rfl (hinvoke cb v)
  | note | fence | hold | keep | reply => exact hfree rfl rfl rfl Nat.one_pos
  | follow x =>
    cases x with
    | invoke cb v =>
      refine ⟨3, Nat.lt_succ_self 3, rfl, [.invoke cb v, .fence], rfl, fun x hx => ?_,
        Nat.le_refl _⟩
      rcases List.mem_cons.mp hx with rfl | hx
      · rfl
      · rw [List.mem_singleton.mp hx]
        rfl
    | showContent f =>
      exact ⟨10, Nat.lt_succ_self 10, Spends.followed Host.costs_showContent⟩
    | postNext r => exact hfree rfl rfl (Host.work_postNext r) Nat.one_pos
  | loaded hook =>
    cases hook with
    | host cb => exact ⟨2, Nat.lt_succ_self 2, Spends.of_call rfl rfl rfl⟩
    | connect f g =>
      show ∃ c < 6, Spends c s (s.runLoadHook (.connect f g))
      unfold runLoadHook
      dsimp only
      split
      · exact ⟨5, Nat.lt_succ_self 5, Spends.followed (Host.costs_connect g)⟩
      · exact hfree rfl rfl rfl (Nat.succ_pos 5)
  | paint ran =>
    show ∃ c < 1, Spends c s (s.paint ran)
    refine ⟨0, Nat.one_pos, ?_⟩
    unfold paint
    split
    · exact Spends.of_host rfl rfl (Nat.le_refl _)
    · next hook paints hpaints =>
      -- The hook moves from the page to the agenda, where it is worth less.
      have hwork : s.host.work =
          hook.work + Host.work { s.host with page := { s.host.page with paints } } := by
        unfold Host.work
        rw [hpaints, List.map_cons, List.sum_cons, Nat.add_assoc]
      have hlt := Job.work_painted_lt hook
      refine ⟨rfl, [.painted hook, .paint (ran + 1)], rfl, fun x hx => ?_, ?_⟩
      · rcases List.mem_cons.mp hx with rfl | hx
        · rfl
        · rw [List.mem_singleton.mp hx]
          rfl
      · show Host.work { s.host with page := { s.host.page with paints } } +
          ((Job.painted hook).work + 1) ≤ _
        omega
  | painted hook =>
    show ∃ c < (Job.painted hook).work, Spends c s (s.runPaintHook hook)
    unfold runPaintHook
    cases hook with
    | host cb => exact ⟨2, Nat.lt_succ_self 2, Spends.of_call rfl rfl rfl⟩
    | fade f g l =>
      dsimp only
      split
      · exact ⟨7, Nat.lt_succ_self 7, Spends.of_host rfl rfl (Host.work_fadeLoader g l)⟩
      · exact hfree rfl rfl rfl (Nat.succ_pos 7)
    | retire f g l =>
      dsimp only
      split
      · exact ⟨5, Nat.lt_succ_self 5, Spends.followed (Host.costs_retireLoader g l)⟩
      · exact hfree rfl rfl rfl (Nat.succ_pos 5)
  | deliver l origin data =>
    show ∃ c < (Job.deliver l origin data).work, Spends c s (s.deliver l origin data)
    unfold deliver
    cases l with
    | host cb => exact ⟨2, Nat.lt_succ_self 2, Spends.of_call rfl rfl rfl⟩
    | frame f =>
      dsimp only
      split
      · exact ⟨21, Nat.lt_succ_self 21, Spends.followed (Host.costs_handle data)⟩
      · exact hfree rfl rfl rfl (Nat.succ_pos 21)
  | sweep start => exact spends_sweep start

/-! ## Operations -/

/-- The actions on the page keep the scripts. -/
theorem scripts_actPage (a : PageAction) : (s.actPage a).scripts = s.scripts := by
  unfold actPage
  cases a <;> rfl

/-- The actions on a frame keep the scripts. -/
theorem scripts_actFrame (a : FrameAction) : (s.actFrame a).scripts = s.scripts := by
  unfold actFrame
  cases a <;> dsimp only
  case openFrame =>
    exact onConfig_cases (P := fun t => t.scripts = s.scripts) (fun _ _ => rfl) fun _ _ => rfl
  case mount | configure =>
    refine onFrame_cases (P := fun t => t.scripts = s.scripts) rfl fun f _ => ?_
    exact onConfig_cases (P := fun t => t.scripts = s.scripts) (fun _ _ => rfl) fun _ _ => rfl
  case registerCommand =>
    refine onFrame_cases (P := fun t => t.scripts = s.scripts) rfl fun f _ => ?_
    split <;> rfl
  case same =>
    refine onFrame_cases (P := fun t => t.scripts = s.scripts) rfl fun f _ => ?_
    exact onFrame_cases (P := fun t => t.scripts = s.scripts) rfl fun _ _ => rfl
  case newFrame | forget | namesOf => rfl
  all_goals exact onFrame_cases (P := fun t => t.scripts = s.scripts) rfl fun _ _ => rfl

/-- The actions on a cache keep the scripts. -/
theorem scripts_actCache (name : CacheName) (a : CacheAction) :
    (s.actCache name a).scripts = s.scripts := by
  unfold actCache
  refine onCache_cases (P := fun t => t.scripts = s.scripts) rfl fun r _ => ?_
  cases a <;> dsimp only
  case forget | count => rfl
  all_goals
    exact onConfig_cases (P := fun t => t.scripts = s.scripts) (fun _ _ => rfl) fun _ _ => rfl

/-- The actions on a kept call keep the scripts. -/
theorem scripts_actCall (nested : Bool) (a : CallAction) :
    (s.actCall nested a).scripts = s.scripts := by
  unfold actCall
  cases a <;> dsimp only
  case poll name =>
    -- Polling answers or waits, and no script is touched.
    split
    · rfl
    · unfold pollCall
      split
      · rfl
      · split <;> rfl
    · next f state _ =>
      unfold pollCheck Session.moveCheck
      cases state with
      | ended => rfl
      | fresh =>
        dsimp only
        split
        · rfl
        · split <;> rfl
      | waiting c =>
        dsimp only
        split <;> rfl
  case pollAs =>
    split
    · unfold pollCallAs
      dsimp only
      split <;> rfl
    · rfl
  case check => exact onFrame_cases (P := fun t => t.scripts = s.scripts) rfl fun _ _ => rfl
  case settle =>
    split
    · rfl
    · unfold settle
      split <;> rfl
  case settled | drop | setGate => rfl

/-- An operation changes no script. -/
theorem scripts_act (nested : Bool) (a : Action) : (s.act nested a).scripts = s.scripts := by
  cases a with
  | page a => exact scripts_actPage a
  | frame a => exact scripts_actFrame a
  | call a => exact scripts_actCall nested a
  | cache name a => exact scripts_actCache name a
  | bus name a => exact scripts_actBus name a
  | unknown name => rfl

/-- An operation leads to no other operation at once. -/
theorem acts_act (nested : Bool) (a : Action) :
    (s.act nested a).agenda.countP Job.isAct = s.agenda.countP Job.isAct := by
  -- Calm jobs are no operations: an operation may panic.
  have hcalm : ∀ {t : Session}, Adds Calm s t →
      t.agenda.countP Job.isAct = s.agenda.countP Job.isAct := by
    intro t ht
    obtain ⟨js, hjs, hcalm⟩ := ht.jobs
    refine acts_of_append js hjs fun x hx => ?_
    have hpanic := hcalm.noPanic x hx
    cases x <;> first | rfl | cases hpanic
  cases a with
  | frame a => exact hcalm (adds_actFrame a)
  | call a => exact hcalm (adds_actCall nested a)
  | cache name a => exact hcalm (adds_actCache name a)
  | unknown name => rfl
  | page a =>
    show (s.actPage a).agenda.countP Job.isAct = _
    unfold actPage
    cases a <;> dsimp only
    -- Hooks, listeners and followups go on the agenda, and none of these is an operation.
    case fireLoad node =>
      refine acts_of_append ((s.host.page.takeLoads (s.nodeId node)).1.map .loaded ++ _) rfl ?_
      intro x hx
      rcases List.mem_append.mp hx with hx | hx
      · obtain ⟨hook, -, rfl⟩ := List.mem_map.mp hx
        rfl
      · rw [List.mem_singleton.mp hx]
        rfl
    case dispatch | dispatchJson =>
      refine acts_of_append (s.host.page.listeners.values.map _ ++ _) rfl fun x hx => ?_
      rcases List.mem_append.mp hx with hx | hx
      · obtain ⟨l, -, rfl⟩ := List.mem_map.mp hx
        rfl
      · rw [List.mem_singleton.mp hx]
        rfl
    all_goals rfl
  | bus name a =>
    show (s.actBus name a).agenda.countP Job.isAct = _
    by_cases hreply : ∃ data, a = .reply data
    · obtain ⟨data, rfl⟩ := hreply
      refine onBus_cases (P := fun t => t.agenda.countP Job.isAct = s.agenda.countP Job.isAct) rfl
        fun n b _ _ => ?_
      refine acts_of_append ((s.host.reply (.bare n) data).2.map .follow ++ [.reply .done]) rfl ?_
      intro x hx
      rcases List.mem_append.mp hx with hx | hx
      · obtain ⟨y, -, rfl⟩ := List.mem_map.mp hx
        rfl
      · rw [List.mem_singleton.mp hx]
        rfl
    · rw [agenda_actBus name a fun data ha => hreply ⟨data, ha⟩]

/-! ## Host code -/

/-- Host code that has a script has one script less to carry out. -/
theorem scripted_invoke {cb : Callback} {v : Value}
    (hscript : (s.scripts[cb.script]?).getD [] ≠ []) : (s.invoke cb v).scripted < s.scripted := by
  obtain ⟨script, hget, hne⟩ : ∃ script, s.scripts[cb.script]? = some script ∧ script ≠ [] := by
    cases hget : s.scripts[cb.script]? with
    | none => exact absurd (congrArg (Option.getD · []) hget) hscript
    | some script => exact ⟨script, rfl, fun hnil => hscript (by rw [hget, hnil]; rfl)⟩
  obtain ⟨hlt, hget⟩ := List.getElem?_eq_some_iff.mp hget
  -- The sum is split at the script that is used up.
  have hsplit : s.scripts =
      s.scripts.take cb.script ++ script :: s.scripts.drop (cb.script + 1) := by
    rw [← hget, List.cons_getElem_drop_succ, List.take_append_drop]
  have hbefore : s.scripts.flatten.length = (s.scripts.take cb.script).flatten.length +
      (script.length + (s.scripts.drop (cb.script + 1)).flatten.length) := by
    conv_lhs => rw [hsplit]
    rw [List.flatten_append, List.length_append, List.flatten_cons, List.length_append]
  have hpos := List.length_pos_iff.mpr hne
  show (s.scripts.set cb.script []).flatten.length < s.scripts.flatten.length
  rw [hbefore, List.set_eq_take_append_cons_drop, if_pos hlt, List.flatten_append,
    List.length_append, List.flatten_cons, List.nil_append]
  omega

/-- Host code without a script panics at most. -/
theorem spends_invoke {cb : Callback} {v : Value}
    (hscript : (s.scripts[cb.script]?).getD [] = []) : Spends 1 s (s.invoke cb v) := by
  -- An empty script is none the emptier for being called.
  have hset : s.scripts.set cb.script [] = s.scripts := by
    refine List.ext_getElem? fun n => ?_
    rw [List.getElem?_set]
    split
    · next hn =>
      subst hn
      split
      · next hlt =>
        rw [List.getElem?_eq_getElem hlt] at hscript ⊢
        exact congrArg some hscript.symm
      · next hlt => exact (List.getElem?_eq_none (Nat.le_of_not_lt hlt)).symm
    · rfl
  -- So all that comes of the call is perhaps a panic.
  have hjobs : s.script cb = if cb.panics then [.raise] else [] := by
    unfold script
    rw [hscript]
    rfl
  refine ⟨hset, s.script cb, rfl, fun x hx => ?_, ?_⟩
  · rw [hjobs] at hx
    split at hx
    · rw [List.mem_singleton.mp hx]
      rfl
    · exact absurd hx List.not_mem_nil
  · show s.host.work + _ ≤ _
    rw [hjobs]
    split
    · exact Nat.le_refl _
    · exact Nat.le_add_right _ 1

/-! ## Steps and runs -/

/-- What is left to do: the operations of host code, the operations on the agenda, and what the other
jobs are worth. -/
def left (s : Session) : ℕ ×ₗ ℕ ×ₗ ℕ :=
  toLex (s.scripted, toLex (s.agenda.countP Job.isAct, s.work))

/-- Less is left where a script has been used up. -/
theorem left_lt_of_scripted (h : t.scripted < s.scripted) : t.left < s.left :=
  Prod.Lex.toLex_lt_toLex.mpr (.inl h)

/-- Less is left where an operation has been performed and no script was touched. -/
theorem left_lt_of_acts (hscripts : t.scripts = s.scripts)
    (h : t.agenda.countP Job.isAct < s.agenda.countP Job.isAct) : t.left < s.left :=
  Prod.Lex.toLex_lt_toLex.mpr
    (.inr ⟨congrArg (fun x => x.flatten.length) hscripts, Prod.Lex.toLex_lt_toLex.mpr (.inl h)⟩)

/-- Less is left where the work is less and nothing else is more. -/
theorem left_lt_of_work (hscripts : t.scripts = s.scripts)
    (hacts : t.agenda.countP Job.isAct ≤ s.agenda.countP Job.isAct) (h : t.work < s.work) :
    t.left < s.left := by
  rcases Nat.lt_or_eq_of_le hacts with hlt | heq
  · exact left_lt_of_acts hscripts hlt
  · refine Prod.Lex.toLex_lt_toLex.mpr (.inr ⟨congrArg (fun x => x.flatten.length) hscripts, ?_⟩)
    exact Prod.Lex.toLex_lt_toLex.mpr (.inr ⟨heq, h⟩)

/-- A step leaves less to do. -/
theorem step_left_lt (h : s.agenda ≠ []) : s.step.left < s.left := by
  obtain ⟨job, jobs, hagenda⟩ := List.exists_cons_of_ne_nil h
  have hacts : s.agenda.countP Job.isAct = jobs.countP Job.isAct + if job.isAct then 1 else 0 := by
    rw [hagenda, List.countP_cons]
  have hwork : s.work = (jobs.map Job.work).sum + s.host.work + job.work := by
    unfold work
    rw [hagenda, List.map_cons, List.sum_cons]
    omega
  rw [step_cons hagenda]
  -- A job that is worth more than it costs.
  have hspends : ∀ c < job.work, Spends c { s with agenda := jobs }
      (({ s with agenda := jobs } : Session).perform job) →
      (({ s with agenda := jobs } : Session).perform job).left < s.left := by
    intro c hc hspends
    refine left_lt_of_work hspends.scripts ?_ (hwork ▸ hspends.work_lt hc)
    rw [hspends.acts, hacts]
    exact Nat.le_add_right _ _
  cases hact : job.isAct with
  | true =>
    obtain ⟨nested, a, rfl⟩ : ∃ nested a, job = .act nested a := by
      cases job <;> first | exact ⟨_, _, rfl⟩ | cases hact
    refine left_lt_of_acts (scripts_act nested a) ?_
    rw [hacts, hact]
    exact Nat.lt_succ_of_le (Nat.le_of_eq (acts_act nested a))
  | false =>
    by_cases hraise : job = .raise
    · subst hraise
      obtain ⟨hwork', hacts'⟩ := unwind_le (s := { s with agenda := jobs }) jobs
      refine left_lt_of_work (scripts_unwind jobs) ?_ ?_
      · rw [hacts]
        exact Nat.le_trans hacts' (Nat.le_add_right _ _)
      · rw [hwork]
        exact Nat.lt_succ_of_le hwork'
    · by_cases hinvoke : ∃ cb v, job = .invoke cb v
      · obtain ⟨cb, v, rfl⟩ := hinvoke
        by_cases hscript : (s.scripts[cb.script]?).getD [] = []
        · exact hspends 1 Nat.one_lt_two (spends_invoke hscript)
        · exact left_lt_of_scripted (scripted_invoke (s := { s with agenda := jobs }) hscript)
      · obtain ⟨c, hc, hcost⟩ := spends_perform (s := { s with agenda := jobs }) job hact hraise
          fun cb v hjob => hinvoke ⟨cb, v, hjob⟩
        exact hspends c hc hcost

/-- Every operation comes to an end: after any state of a run there is one with nothing to do. -/
theorem exists_agenda_eq_nil (s : Session) (as : List Action) (i : ℕ) :
    ∃ j, i ≤ j ∧ (s.after as j).agenda = [] := by
  generalize hleft : (s.after as i).left = left
  induction left using WellFoundedLT.induction generalizing i with
  | ind left ih =>
    by_cases hempty : (s.after as i).agenda = []
    · exact ⟨i, Nat.le_refl i, hempty⟩
    · have hlt : (s.after as (i + 1)).left < left := by
        rw [after_succ_of_ne_nil hempty, ← hleft]
        exact step_left_lt hempty
      obtain ⟨j, hij, hj⟩ := ih _ hlt (i + 1) rfl
      exact ⟨j, Nat.le_of_succ_le hij, hj⟩

/-- A run that has nothing left to do and to begin does not go on. -/
theorem after_of_done {as : List Action} {n k : ℕ} (hagenda : (s.after as n).agenda = [])
    (has : (advance^[n] (s, as)).2 = []) (hk : n ≤ k) : s.after as k = s.after as n := by
  have hfixed : advance (advance^[n] (s, as)) = advance^[n] (s, as) := by
    unfold after at hagenda
    generalize advance^[n] (s, as) = r at hagenda has ⊢
    unfold advance
    rw [hagenda, has]
  obtain ⟨d, rfl⟩ := Nat.exists_eq_add_of_le' hk
  unfold after
  rw [Function.iterate_add_apply, Function.iterate_fixed hfixed]

end Session
end FrameHost
