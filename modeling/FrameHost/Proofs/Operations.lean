import FrameHost.Proofs.Renaming

/-!
# Operations on frames

What a step of a session does to the frames: it is one operation on one of them (`Session.op?`), and
then the host after it is that of the operation (`step_operate`), or it does nothing to any frame that
is there (`step_idle`). So what is said about the operations of a host holds of the steps of a session,
whoever asks for the operation: the host, its own code, a message, the loading of an iframe or a paint.
What an operation of a host leaves to be done comes next in the session (`step_leaves`).
-/

namespace FrameHost

open Json (Value)

/-- What is done to a frame. -/
inductive Frame.Op where
  /-- The registered frame that the configuration names is mounted. -/
  | openFrame (config : Config)
  | mount (config : Config)
  | destroy
  | showContent
  | configure (patch : Config)
  | call (m : Method)
  | callByName (name : String) (params : Option Value) (cb : Callback)
  | handle (data : Value)
  | connect (generation : ℕ)
  | fade (generation : ℕ) (loader : NodeId)
  | retire (generation : ℕ) (loader : NodeId)
  /-- The next deferred task is posted. -/
  | postNext

/-- The operations that can leave something to be done: handlers to call, or content to show. -/
def Frame.Op.Tells : Frame.Op → Prop
  | .connect _ | .showContent | .handle _ | .retire _ _ => True
  | _ => False

namespace Host

variable {h : Host} {f : FrameRef}

/-- The host after an operation on a frame. A frame that is opened is told by its configuration. -/
def operate (h : Host) (f : FrameRef) : Frame.Op → Host
  | .openFrame config => (h.openFrame config).1
  | .mount config => (h.mount f config).1
  | .destroy => h.destroy f
  | .showContent => (h.showContent f).1
  | .configure patch => (h.configure f patch).1
  | .call m => (h.call f m).1
  | .callByName name params cb => (h.callByName f name params cb).1
  | .handle data => (h.handle f data).1
  | .connect generation => (h.connect f generation).1
  | .fade generation loader => h.fadeLoader f generation loader
  | .retire generation loader => (h.retireLoader f generation loader).1
  | .postNext => h.postNext (.frame f)

/-- What an operation on a frame leaves to be done. -/
def leaves (h : Host) (f : FrameRef) : Frame.Op → List Followup
  | .connect generation => (h.connect f generation).2
  | .showContent => (h.showContent f).2
  | .handle data => (h.handle f data).2
  | .retire generation loader => (h.retireLoader f generation loader).2
  | _ => []

/-- Whether a move leaves the frames that are there alone, up to the commands that they offer. -/
def Move.isIdle : Move → Bool
  | .page _ | .cache _ _ | .newFrame _ | .registerCommand _ _ _ | .openChannel
  | .execute (.bare _) _ _ | .reply (.bare _) _ | .postNext (.bare _) | .failCheck _ _
  | .setCheck _ _ | .endAborted | .setGate _ | .newBus | .setBus _ _ => true
  | .enroll _ | .mount _ _ | .destroy _ | .showContent _ | .patch _ _ | .execute (.frame _) _ _
  | .reply (.frame _) _ | .postNext (.frame _) | .connect _ _ | .fade _ _ _ | .retire _ _ _ => false

end Host

namespace Session

open Host (Reaches)

variable {s : Session} {f : FrameRef} {op : Frame.Op} {job : Job} {jobs : List Job}

/-- The operation on a frame that the host or its code asks for. -/
def opOf? (s : Session) : FrameAction → Option (FrameRef × Frame.Op)
  | .openFrame _ mode (.ok c) =>
    let c :=
      match mode with
      | none => c
      | some mode => c.apply (.mode mode)
    some ((s.host.openFrame c).2, .openFrame c)
  | .mount name (.ok c) => (s.frames.get? name).map (·, .mount c)
  | .destroy name => (s.frames.get? name).map (·, .destroy)
  | .showContent name => (s.frames.get? name).map (·, .showContent)
  | .configure name (.ok c) _ => (s.frames.get? name).map (·, .configure c)
  | .handle name data => (s.frames.get? name).map (·, .handle data)
  | .call name m _ => (s.frames.get? name).map (·, .call m)
  | .callByName name m params cb => (s.frames.get? name).map (·, .callByName m params cb)
  | _ => none

/-- The operation on a frame that the next job is, if it is one. What waits for a frame does nothing
unless the frame is in use. -/
def op? (s : Session) : Option (FrameRef × Frame.Op) :=
  match s.agenda with
  | .act _ (.frame a) :: _ => s.opOf? a
  | .follow (.showContent f) :: _ => some (f, .showContent)
  | .follow (.postNext (.frame f)) :: _ => some (f, .postNext)
  | .loaded (.connect f g) :: _ => if s.isLive f then some (f, .connect g) else none
  | .painted (.fade f g l) :: _ => if s.isLive f then some (f, .fade g l) else none
  | .painted (.retire f g l) :: _ => if s.isLive f then some (f, .retire g l) else none
  | .deliver (.frame f) _ data :: _ => if s.isLive f then some (f, .handle data) else none
  | _ => none

/-- What the host asks for by name is not the fading of a loader, nor its going. -/
theorem opOf?_ne {a : FrameAction} (hop : s.opOf? a = some (f, op)) :
    (∀ g l, op ≠ .fade g l) ∧ ∀ g l, op ≠ .retire g l := by
  unfold opOf? at hop
  split at hop
  · cases hop
    exact ⟨nofun, nofun⟩
  all_goals
    first
    | cases hop
    | (obtain ⟨_, -, hpair⟩ := Option.map_eq_some_iff.mp hop
       cases hpair
       exact ⟨nofun, nofun⟩)

/-- A loader fades, and goes, by a hook on a paint. -/
theorem agenda_of_op? (hop : s.op? = some (f, op)) :
    (∀ g l, op = .fade g l → ∃ jobs, s.agenda = .painted (.fade f g l) :: jobs) ∧
      ∀ g l, op = .retire g l → ∃ jobs, s.agenda = .painted (.retire f g l) :: jobs := by
  unfold op? at hop
  split at hop
  case h_1 a jobs hagenda =>
    -- An action of the caller fades and retires nothing.
    obtain ⟨hfade, hretire⟩ := opOf?_ne hop
    exact ⟨fun g l heq => absurd heq (hfade g l), fun g l heq => absurd heq (hretire g l)⟩
  case h_5 f' g l jobs hagenda =>
    split at hop
    · cases hop
      exact ⟨fun _ _ heq => by cases heq; exact ⟨jobs, hagenda⟩, nofun⟩
    · cases hop
  case h_6 f' g l jobs hagenda =>
    split at hop
    · cases hop
      exact ⟨nofun, fun _ _ heq => by cases heq; exact ⟨jobs, hagenda⟩⟩
    · cases hop
  case h_2 | h_3 =>
    cases hop
    exact ⟨nofun, nofun⟩
  case h_4 | h_7 =>
    split at hop
    · cases hop
      exact ⟨nofun, nofun⟩
    · cases hop
  case h_8 => cases hop

/-! ## Steps -/

/-- An operation that the host asks for is carried out; anything else that it asks of a frame leaves
the frames alone. -/
theorem actFrame_cases (nested : Bool) (a : FrameAction) :
    (∃ f op, s.opOf? a = some (f, op) ∧ (s.actFrame a).host = s.host.operate f op) ∨
      s.opOf? a = none ∧
        Reaches (fun m => m.isIdle = true ∧ (Job.act nested (.frame a)).Makes m) s.host
          (s.actFrame a).host := by
  have hidle : ∀ {kind : Host.Move → Prop}, Reaches kind s.host s.host := Reaches.refl _
  -- What is done to a frame by its name, if the name stands for one.
  have hnamed : ∀ (name : String) (op : Frame.Op) (go : FrameRef → Session),
      s.opOf? a = (s.frames.get? name).map (·, op) → s.actFrame a = s.onFrame name go →
      (∀ f, (go f).host = s.host.operate f op) →
      (∃ f op, s.opOf? a = some (f, op) ∧ (s.actFrame a).host = s.host.operate f op) ∨
        s.opOf? a = none ∧
          Reaches (fun m => m.isIdle = true ∧ (Job.act nested (.frame a)).Makes m) s.host
            (s.actFrame a).host := by
    intro name op go hop hact hgo
    rw [hact, hop]
    unfold onFrame
    cases s.frames.get? name with
    | none => exact .inr ⟨rfl, hidle⟩
    | some f => exact .inl ⟨f, op, rfl, hgo f⟩
  -- What leaves the host as it is.
  have hlooks : ∀ (name : String) (go : FrameRef → Session), s.opOf? a = none →
      s.actFrame a = s.onFrame name go → (∀ f, (go f).host = s.host) →
      (∃ f op, s.opOf? a = some (f, op) ∧ (s.actFrame a).host = s.host.operate f op) ∨
        s.opOf? a = none ∧
          Reaches (fun m => m.isIdle = true ∧ (Job.act nested (.frame a)).Makes m) s.host
            (s.actFrame a).host := by
    intro name go hop hact hgo
    have hsame : (s.onFrame name go).host = s.host :=
      onFrame_cases (P := fun t => t.host = s.host) rfl fun f _ => hgo f
    rw [hact, hsame]
    exact .inr ⟨hop, hidle⟩
  cases a with
  | openFrame name mode config =>
    cases config with
    | error e => exact .inr ⟨rfl, hidle⟩
    | ok c => exact .inl ⟨_, _, rfl, rfl⟩
  | newFrame name checks =>
    exact .inr ⟨rfl, Reaches.single (m := .newFrame checks) ⟨rfl, trivial⟩⟩
  | mount name config =>
    cases config with
    | error e => exact hlooks name _ rfl rfl fun _ => rfl
    | ok c => exact hnamed name (.mount c) _ rfl rfl fun _ => rfl
  | destroy name => exact hnamed name .destroy _ rfl rfl fun _ => rfl
  | showContent name => exact hnamed name .showContent _ rfl rfl fun _ => rfl
  | configure name config call =>
    cases config with
    | error e => exact hlooks name _ rfl rfl fun _ => rfl
    | ok c => exact hnamed name (.configure c) _ rfl rfl fun _ => rfl
  | handle name data => exact hnamed name (.handle data) _ rfl rfl fun _ => rfl
  | call name m call => exact hnamed name (.call m) _ rfl rfl fun _ => rfl
  | callByName name m params cb => exact hnamed name (.callByName m params cb) _ rfl rfl fun _ => rfl
  | registerCommand name command cb =>
    refine .inr ⟨rfl, ?_⟩
    unfold actFrame
    refine onFrame_cases (P := fun t => Reaches _ s.host t.host) hidle fun f _ => ?_
    cases hr : s.host.registerCommand f command cb with
    | error e => exact hidle
    | ok h =>
      rw [← Host.move_registerCommand hr]
      exact Reaches.single (m := .registerCommand f command cb) ⟨rfl, nested, name, rfl⟩
  | getConfig name | handlers name | hasCommand name => exact hlooks name _ rfl rfl fun _ => rfl
  | same name other =>
    refine hlooks name _ rfl rfl fun _ => ?_
    exact onFrame_cases (P := fun t => t.host = s.host) rfl fun _ _ => rfl
  | forget | namesOf => exact .inr ⟨rfl, hidle⟩

/-- The moves of a job that is no operation on a frame are idle. -/
theorem isIdle_of_makes {m : Host.Move} (hjob : job.isOperation = false) (hm : job.Makes m) :
    m.isIdle = true := by
  have hoperation : job.isOperation ≠ true := by
    rw [hjob]
    exact Bool.noConfusion
  cases m with
  | execute r | reply r | postNext r =>
    cases r with
    | bare => rfl
    | frame => exact absurd hm hoperation
  | mount | destroy | showContent => exact absurd hm hoperation
  | enroll =>
    refine absurd ?_ hoperation
    change job.opens = true at hm
    unfold Job.opens at hm
    split at hm
    · rfl
    · cases hm
  | patch =>
    refine absurd ?_ hoperation
    change job.configures = true at hm
    unfold Job.configures at hm
    split at hm <;> first | rfl | cases hm
  | connect | fade | retire =>
    -- These moves are made by hooks, and a hook of a frame is an operation.
    have hhook := congrArg Job.isOperation hm
    rw [hjob] at hhook
    cases hhook
  | _ => rfl

/-- The next job is an operation on a frame, or it leaves the frames that are there alone. -/
theorem step_operation (hagenda : s.agenda = job :: jobs) :
    (∃ f op, s.op? = some (f, op) ∧ s.step.host = s.host.operate f op) ∨
      s.op? = none ∧
        Reaches (fun m => m.isIdle = true ∧ job.Makes m) s.host s.step.host := by
  have hidle : ∀ {kind : Host.Move → Prop}, Reaches kind s.host s.host := Reaches.refl _
  by_cases hjob : job.isOperation = true
  · rw [step_cons hagenda]
    -- The job that is taken off the agenda was not what kept a frame in use.
    have hlive : job.frame? = none → ∀ f,
        ({ s with agenda := jobs } : Session).isLive f = s.isLive f := fun hnone _ =>
      isLive_tail hagenda hnone
    unfold op?
    rw [hagenda]
    cases job with
    | act nested a =>
      cases a with
      | frame a => exact actFrame_cases (s := { s with agenda := jobs }) nested a
      | _ => cases hjob
    | follow x =>
      cases x with
      | invoke => cases hjob
      | showContent f => exact .inl ⟨f, .showContent, rfl, rfl⟩
      | postNext r =>
        cases r with
        | bare => cases hjob
        | frame f => exact .inl ⟨f, .postNext, rfl, rfl⟩
    | loaded hook =>
      cases hook with
      | host => cases hjob
      | connect f g =>
        have hstep : (({ s with agenda := jobs } : Session).perform (.loaded (.connect f g))).host =
            if s.isLive f then (s.host.connect f g).1 else s.host := by
          rw [← hlive rfl]
          exact apply_ite Session.host _ _ _
        rw [hstep]
        dsimp only
        split
        · exact .inl ⟨f, .connect g, rfl, rfl⟩
        · exact .inr ⟨rfl, hidle⟩
    | painted hook =>
      cases hook with
      | host => cases hjob
      | fade f g l =>
        have hstep : (({ s with agenda := jobs } : Session).perform (.painted (.fade f g l))).host =
            if s.isLive f then s.host.fadeLoader f g l else s.host := by
          rw [← hlive rfl]
          exact apply_ite Session.host _ _ _
        rw [hstep]
        dsimp only
        split
        · exact .inl ⟨f, .fade g l, rfl, rfl⟩
        · exact .inr ⟨rfl, hidle⟩
      | retire f g l =>
        have hstep : (({ s with agenda := jobs } : Session).perform (.painted (.retire f g l))).host =
            if s.isLive f then (s.host.retireLoader f g l).1 else s.host := by
          rw [← hlive rfl]
          exact apply_ite Session.host _ _ _
        rw [hstep]
        dsimp only
        split
        · exact .inl ⟨f, .retire g l, rfl, rfl⟩
        · exact .inr ⟨rfl, hidle⟩
    | deliver l origin data =>
      cases l with
      | host => cases hjob
      | frame f =>
        have hstep : (({ s with agenda := jobs } : Session).perform
            (.deliver (.frame f) origin data)).host =
              if s.isLive f then (s.host.handle f data).1 else s.host := by
          rw [← hlive rfl]
          exact apply_ite Session.host _ _ _
        rw [hstep]
        dsimp only
        split
        · exact .inl ⟨f, .handle data, rfl, rfl⟩
        · exact .inr ⟨rfl, hidle⟩
    | _ => cases hjob
  · have hjob' : job.isOperation = false := Bool.eq_false_iff.mpr hjob
    -- No operation: whatever moves the host moves it idly.
    have hnone : s.op? = none := by
      unfold op?
      rw [hagenda]
      split <;> first | rfl | (next heq => cases heq; cases hjob')
    refine .inr ⟨hnone, (step_reaches hagenda).mono fun m hm => ?_⟩
    exact ⟨isIdle_of_makes hjob' hm, hm⟩

/-- A step that operates a frame leaves the host that operation leaves. -/
theorem step_operate (hop : s.op? = some (f, op)) : s.step.host = s.host.operate f op := by
  cases hagenda : s.agenda with
  | nil =>
    unfold op? at hop
    rw [hagenda] at hop
    cases hop
  | cons job jobs =>
    rcases step_operation hagenda with ⟨f', op', hop', hstep⟩ | ⟨hnone, -⟩
    · rw [hop] at hop'
      cases hop'
      exact hstep
    · rw [hop] at hnone
      cases hnone

/-- Without an operation on a frame, the moves of the next job are idle. -/
theorem step_idle (hagenda : s.agenda = job :: jobs) (hop : s.op? = none) :
    Reaches (fun m => m.isIdle = true ∧ job.Makes m) s.host s.step.host := by
  rcases step_operation hagenda with ⟨f, op, hop', -⟩ | ⟨-, hreaches⟩
  · rw [hop] at hop'
    cases hop'
  · exact hreaches

/-! ## What is left to be done -/

/-- What an operation goes on with comes first on the agenda, then the hold on the frame, then the
rest. -/
theorem agenda_follow (s : Session) (f : FrameRef) (followups : List Followup) (rest : List Job) :
    (s.follow f followups rest).agenda =
      followups.map .follow ++ .hold f :: (rest ++ s.agenda) := by
  show (followups.map .follow ++ .hold f :: rest) ++ s.agenda = _
  rw [List.append_assoc, List.cons_append]

/-- What is asked for by name is done at once; what it leaves to be done comes next, then the answer. -/
theorem actFrame_leaves {a : FrameAction} (hop : s.opOf? a = some (f, op)) (htells : op.Tells) :
    (s.actFrame a).agenda =
      (s.host.leaves f op).map .follow ++ .hold f :: ([.reply .done] ++ s.agenda) := by
  unfold opOf? at hop
  split at hop
  case h_4 name =>
    obtain ⟨f', hname, hpair⟩ := Option.map_eq_some_iff.mp hop
    cases hpair
    show (s.onFrame name _).agenda = _
    rw [onFrame_of_some hname]
    exact agenda_follow ..
  case h_6 name data =>
    obtain ⟨f', hname, hpair⟩ := Option.map_eq_some_iff.mp hop
    cases hpair
    show (s.onFrame name _).agenda = _
    rw [onFrame_of_some hname]
    exact agenda_follow ..
  -- The other operations that are asked for by name leave nothing of this kind.
  all_goals
    first
    | (cases hop; done)
    | (cases hop; exact htells.elim)
    | (obtain ⟨_, -, hpair⟩ := Option.map_eq_some_iff.mp hop
       cases hpair
       exact htells.elim)

/-- What an operation of the next job leaves to be done comes next, and at most the answer of the host's
own operation is added behind it. -/
theorem step_leaves (hop : s.op? = some (f, op)) (htells : op.Tells) :
    ∃ rest, (∀ x ∈ rest, x = .reply .done) ∧
      s.step.agenda =
        (s.host.leaves f op).map .follow ++ .hold f :: (rest ++ s.agenda.tail) := by
  -- Hooks and messages operate a frame only while something keeps it in use.
  have hlive : ∀ {job : Job} {jobs : List Job}, s.agenda = job :: jobs → job.frame? = none →
      ∀ {f'}, s.isLive f' = true → ({ s with agenda := jobs } : Session).isLive f' = true :=
    fun hagenda hnone _ hlive => (isLive_tail hagenda hnone).trans hlive
  unfold op? at hop
  split at hop
  case h_1 nested a jobs hagenda =>
    refine ⟨[.reply .done], fun x hx => List.mem_singleton.mp hx, ?_⟩
    rw [step_cons hagenda, hagenda]
    exact actFrame_leaves (s := { s with agenda := jobs }) hop htells
  case h_2 f' jobs hagenda =>
    cases hop
    refine ⟨[], List.forall_mem_nil _, ?_⟩
    rw [step_cons hagenda, hagenda]
    exact agenda_follow ..
  -- The next post, the fading and the actions that make calls leave nothing of this kind.
  case h_3 => cases hop; exact htells.elim
  case h_4 f' g jobs hagenda =>
    split at hop
    · next h =>
      cases hop
      refine ⟨[], List.forall_mem_nil _, ?_⟩
      rw [step_cons hagenda, hagenda]
      show (runLoadHook { s with agenda := jobs } (.connect f g)).agenda = _
      unfold runLoadHook
      dsimp only
      rw [if_pos (hlive hagenda rfl h)]
      exact agenda_follow ..
    · cases hop
  case h_5 =>
    split at hop
    · cases hop
      exact htells.elim
    · cases hop
  case h_6 f' g l jobs hagenda =>
    split at hop
    · next h =>
      cases hop
      refine ⟨[], List.forall_mem_nil _, ?_⟩
      rw [step_cons hagenda, hagenda]
      show (runPaintHook { s with agenda := jobs } (.retire f g l)).agenda = _
      unfold runPaintHook
      dsimp only
      rw [if_pos (hlive hagenda rfl h)]
      exact agenda_follow ..
    · cases hop
  case h_7 f' origin data jobs hagenda =>
    split at hop
    · next h =>
      cases hop
      refine ⟨[], List.forall_mem_nil _, ?_⟩
      rw [step_cons hagenda, hagenda]
      show (deliver { s with agenda := jobs } (.frame f) origin data).agenda = _
      unfold deliver
      dsimp only
      rw [if_pos (hlive hagenda rfl h)]
      exact agenda_follow ..
    · cases hop
  case h_8 => cases hop

end Session

end FrameHost
