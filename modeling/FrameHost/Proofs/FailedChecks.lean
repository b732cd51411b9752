import FrameHost.Proofs.Turns

/-!
# Checks that fail

A check of the allow-list knows the mount during which it began. Where it fails in a later mount it
does nothing (`failCheck_of_stale`). Where it fails in its own, the error is reported to host code and
then the content of the frame is shown; and between the two the host code may mount the frame again.
So a failed check spares every later mount up to the end of that host code, and in the end it spares
the mount that it finds there unless that one is later and still loading (`failed_check_spares_iff`).
-/

namespace FrameHost

/-- A frame is mounted and does not show its content yet. -/
def Frame.IsLoading (frame : Frame) : Prop :=
  frame.phase = .initializing ∨ frame.phase = .connected

namespace Host

variable {h : Host} {f : FrameRef} {frame : Frame}

/-- The failure of a check whose mount is over changes nothing. -/
theorem failCheck_of_stale {c : Check} (hf : h.frame? c.frame = some frame)
    (hg : frame.generation ≠ c.generation) (e : Error) : h.failCheck c e = (h, []) := by
  unfold failCheck
  rw [hf]
  exact if_neg hg

/-- Nothing is shown where there is nothing to be shown. -/
theorem showContent_of_not_loading (hf : h.frame? f = some frame) (hloading : ¬ frame.IsLoading) :
    h.showContent f = (h, []) := by
  have hphase : ¬ (frame.phase = .initializing ∨ frame.phase = .connected) := hloading
  unfold showContent
  rw [hf]
  dsimp only
  rw [if_neg hphase]

/-- Showing the content of a frame that is loading changes its phase. -/
theorem phase_showContent (hh : h.Housed) (hf : h.frame? f = some frame)
    (hloading : frame.IsLoading) :
    ((h.showContent f).1.frame? f).map Frame.phase = some .loaded := by
  have hmounted : frame.nodes.isSome = true := by
    rw [← hh.mounted f frame hf]
    rcases hloading with hphase | hphase <;> rw [hphase] <;> rfl
  obtain ⟨nodes, hnodes⟩ := Option.isSome_iff_exists.mp hmounted
  have hs := sets_modifyFrame hf fun frame => { frame with phase := .loaded }
  unfold showContent
  rw [hf]
  dsimp only
  have hphase : frame.phase = .initializing ∨ frame.phase = .connected := hloading
  rw [if_pos hphase, hnodes]
  dsimp only
  split <;> exact congrArg (Option.map Frame.phase) hs.frame?

end Host

namespace Session

variable {s : Session} {as : List Action} {c : Check} {e : Error} {f : FrameRef}

/-! ## Checks in progress -/

/-- The check that the next job moves: a held one that is asked, or the next one that runs by
itself. -/
def movedCheck? (s : Session) : Option (FrameRef × CheckState) :=
  match s.agenda with
  | .act _ (.call (.poll name)) :: _ =>
    match s.calls.get? name with
    | some (.check f state) => some (f, state)
    | _ => none
  | .sweep start :: _ =>
    match s.nextCheck? start with
    | some (_, c) =>
      if c.state = .fresh && !s.isLive c.frame then none else some (c.frame, c.state)
    | none => none
  | _ => none

/-- A check begins with the next job. -/
def Begins (s : Session) (c : Check) : Prop :=
  ∃ f, s.movedCheck? = some (f, .fresh) ∧ s.host.check? f = some c

/-- A check, which waited or begins, fails with the next job. -/
structure Fails (s : Session) (c : Check) (e : Error) : Prop where
  moved : (∃ f, s.movedCheck? = some (f, .waiting c)) ∨ s.Begins c
  ready : s.host.mustWait = false
  verdict : s.host.verdict = .error e

/-- The next job leaves a frame as it is, and the nodes and what waits for a paint, unless the frame
is in its generation `g`. -/
def Spares (s : Session) (f : FrameRef) (g : ℕ) : Prop :=
  ∀ frame, s.host.frame? f = some frame → frame.generation ≠ g →
    s.step.host.frame? f = some frame ∧ s.step.host.page.nodes = s.host.page.nodes ∧
      s.step.host.page.paints = s.host.page.paints

/-- A check of `f` has just failed during its mount: host code is called that the error is reported
to, if there is any, and then the content of `f` is shown, before the jobs in `rest`. -/
def Reports (s : Session) (f : FrameRef) (rest : List Job) : Prop :=
  ∃ reports, s.agenda = reports ++ .follow (.showContent f) :: rest ∧
    ∀ x ∈ reports, ∃ cb v, x = .follow (.invoke cb v)

/-- The check of `f` that has failed at `i` is done with at `k`: the host code is through that the
error was reported to, and the content of `f` is shown next. -/
structure Resumes (s : Session) (as : List Action) (i k : ℕ) (f : FrameRef) (rest : List Job) :
    Prop where
  later : i < k
  left : (s.after as (i + 1)).Reports f rest
  next : (s.after as k).agenda = .follow (.showContent f) :: rest
  first : ∀ l, i < l → l < k → (s.after as l).agenda ≠ .follow (.showContent f) :: rest

/-- A check knows the generation in which it begins. -/
theorem Begins.generation (hb : s.Begins c) :
    ∃ frame, s.host.frame? c.frame = some frame ∧ frame.generation = c.generation := by
  obtain ⟨f, -, hc⟩ := hb
  obtain ⟨rfl, frame, hf, hg⟩ := Host.frame?_of_check? hc
  exact ⟨frame, hf, hg.symm⟩

/-! ## What waits below -/

/-- No panic out of the jobs reaches beyond them. -/
def Fenced : List Job → Prop
  | [] => True
  | job :: jobs => (job.mayPanic = true → ∃ x ∈ jobs, x.isFence = true) ∧ Fenced jobs

/-- What is left of a fenced agenda is fenced. -/
theorem Fenced.of_suffix {js ks : List Job} (h : Fenced ks) (hjs : js <:+ ks) : Fenced js := by
  obtain ⟨ls, rfl⟩ := hjs
  induction ls with
  | nil => exact h
  | cons job ls ih => exact ih h.2

/-- Jobs can stand in front that no panic comes out of, or in front of a fence. -/
theorem Fenced.append {js ks : List Job} (h : Fenced ks)
    (hjs : ∀ x ∈ js, x.mayPanic = true → ∃ y ∈ ks, y.isFence = true) : Fenced (js ++ ks) := by
  induction js with
  | nil => exact h
  | cons job js ih =>
    refine ⟨fun hpanic => ?_, ih fun x hx => hjs x (List.mem_cons_of_mem job hx)⟩
    obtain ⟨y, hy, hfence⟩ := hjs job List.mem_cons_self hpanic
    exact ⟨y, List.mem_append_right js hy, hfence⟩

/-- An agenda without panics is fenced. -/
theorem fenced_of_noPanic {js : List Job} (hjs : ∀ x ∈ js, x.mayPanic = false) : Fenced js := by
  have h : Fenced (js ++ []) := Fenced.append trivial fun x hx hpanic => by
    rw [hjs x hx] at hpanic
    cases hpanic
  rwa [List.append_nil] at h

/-- A panic ends at a fence, and leaves what is behind it. -/
theorem tail_dropWhile_append {js : List Job} (hfence : ∃ x ∈ js, x.isFence = true)
    (below : List Job) :
    ((js ++ below).dropWhile fun x => !x.isFence).tail =
      (js.dropWhile fun x => !x.isFence).tail ++ below := by
  induction js with
  | nil =>
    obtain ⟨x, hx, -⟩ := hfence
    cases hx
  | cons job js ih =>
    rw [List.cons_append]
    cases hjob : job.isFence with
    | true => simp [hjob]
    | false =>
      -- The fence is further on.
      obtain ⟨x, hx, hx'⟩ := hfence
      rcases List.mem_cons.mp hx with rfl | hx
      · rw [hjob] at hx'
        cases hx'
      · simpa [hjob] using ih ⟨x, hx, hx'⟩

/-- A job that is no panic leaves the jobs behind it, and puts others in front of them: none that a
panic comes out of, unless one comes out of the job, or host code in front of a fence. -/
theorem step_front {job : Job} {jobs : List Job} (hagenda : s.agenda = job :: jobs)
    (hraise : job ≠ .raise) : ∃ ks, s.step.agenda = ks ++ jobs ∧
      ((∀ x ∈ ks, x.mayPanic = false) ∨ job.mayPanic = true ∨
        ∃ cb v, ks = [.invoke cb v, .fence]) := by
  rw [step_cons hagenda]
  by_cases hreply : ∃ nested name data, job = .act nested (.bus name (.reply data))
  · -- A reply on a bus leaves its receiver to be called, the next post and an answer.
    obtain ⟨nested, name, data, rfl⟩ := hreply
    refine onBus_cases (P := fun t => ∃ ks, t.agenda = ks ++ jobs ∧
      ((∀ x ∈ ks, x.mayPanic = false) ∨ _ ∨ ∃ cb v, ks = [.invoke cb v, .fence])) ?_
      fun n b _ _ => ⟨_, rfl, .inl fun x hx => ?_⟩
    · exact ⟨[], rfl, .inl fun x hx => absurd hx List.not_mem_nil⟩
    · rcases List.mem_append.mp hx with hx | hx
      · obtain ⟨y, -, rfl⟩ := List.mem_map.mp hx
        rfl
      · rw [List.mem_singleton.mp hx]
        rfl
  · have hreply' : ∀ nested name data, job ≠ .act nested (.bus name (.reply data)) :=
      fun nested name data hjob => hreply ⟨nested, name, data, hjob⟩
    obtain ⟨ks, hks, hharmless⟩ :=
      (perform_agenda (s := { s with agenda := jobs }) job hraise hreply').jobs
    refine ⟨ks, hks, ?_⟩
    -- What any other job leaves was looked at job by job.
    rcases hharmless with hcalm | ⟨hpanic, -⟩ | hinvoke
    · exact .inl hcalm.noPanic
    · exact .inr (.inl hpanic)
    · exact .inr (.inr hinvoke)

/-- A step changes the agenda only above the jobs that a panic does not reach. -/
theorem step_above {job : Job} {js below : List Job} (hagenda : s.agenda = (job :: js) ++ below)
    (hfenced : Fenced (job :: js)) : ∃ ks, s.step.agenda = ks ++ below ∧ Fenced ks := by
  rw [List.cons_append] at hagenda
  by_cases hraise : job = .raise
  · subst hraise
    -- The panic ends at the next fence, which is among the jobs above.
    have hunwind : s.step.agenda = ((js ++ below).dropWhile fun x => !x.isFence).tail := by
      rw [step_cons hagenda]
      exact agenda_unwind (js ++ below)
    refine ⟨(js.dropWhile fun x => !x.isFence).tail, ?_, hfenced.2.of_suffix ?_⟩
    · rw [hunwind, tail_dropWhile_append (hfenced.1 rfl)]
    · exact (List.tail_suffix _).trans (List.dropWhile_suffix _)
  · obtain ⟨ks, hks, hfront⟩ := step_front hagenda hraise
    refine ⟨ks ++ js, by rw [hks, List.append_assoc], ?_⟩
    rcases hfront with hquiet | hpanic | ⟨cb, v, rfl⟩
    · refine hfenced.2.append fun x hx hpanic => ?_
      rw [hquiet x hx] at hpanic
      cases hpanic
    · -- The job could panic itself, so there is a fence for what it leaves.
      exact hfenced.2.append fun _ _ _ => hfenced.1 hpanic
    · -- Host code is called behind a fence.
      exact ⟨fun _ => ⟨.fence, List.mem_cons_self, rfl⟩, fun h => absurd h Bool.false_ne_true,
        hfenced.2⟩

/-- A check that need not wait for the allow-list gets it. -/
theorem moveCheck_eq_endCheck {state : CheckState} {wait : Session → Check → Session}
    {rest : Except Error Unit → List Job}
    (hstate : state = .waiting c ∨ state = .fresh ∧ s.host.check? f = some c)
    (hready : s.host.mustWait = false) :
    ∃ t : Session, t.host = s.host ∧ s.moveCheck f state wait rest = t.endCheck c rest := by
  unfold moveCheck
  rcases hstate with rfl | ⟨rfl, hc⟩
  · dsimp only
    rw [hready]
    exact ⟨s, rfl, rfl⟩
  · dsimp only
    rw [hc]
    dsimp only
    have hrecord : (s.record (.fetched c.src)).host.mustWait = false := hready
    rw [hrecord]
    exact ⟨s.record (.fetched c.src), rfl, rfl⟩

/-- A check that is refused fails, and what follows from that comes before anything else. -/
theorem endCheck_of_refused {rest : Except Error Unit → List Job}
    (hverdict : s.host.verdict = .error e) :
    (s.endCheck c rest).host = (s.host.failCheck c e).1 ∧
      (s.endCheck c rest).agenda =
        (s.host.failCheck c e).2.map .follow ++ .hold c.frame :: rest (.error e) ++ s.agenda := by
  unfold endCheck Host.endCheck
  rw [hverdict]
  exact ⟨rfl, rfl⟩

/-- The next job moves a check that it finds in some state; the host is as before, but that it may
be noted that the check has ended, or that it waits. -/
theorem step_of_movedCheck? {state : CheckState} (hmoved : s.movedCheck? = some (f, state)) :
    ∃ (t : Session) (checks : List Spawned) (wait : Session → Check → Session)
      (rest : Except Error Unit → List Job),
      t.host = { s.host with checks } ∧ s.step = t.moveCheck f state wait rest ∧
        ∀ u c, ∃ checks, (wait u c).host = { u.host with checks } := by
  unfold movedCheck? at hmoved
  split at hmoved
  · next nested name jobs hagenda =>
    split at hmoved
    · -- A check that is polled, held under its name.
      next f' state' hheld =>
      cases hmoved
      refine ⟨({ s with agenda := jobs } : Session).drop name, s.host.checks,
        fun s c => (s.keep name (.check f (.waiting c))).reply .pending,
        fun r => [.hold f, .reply (.outcome r)], rfl, ?_, fun u _ => ⟨u.host.checks, rfl⟩⟩
      rw [step_cons hagenda]
      show Session.actCall _ nested (.poll name) = _
      unfold actCall
      dsimp only
      rw [hheld]
      rfl
    · cases hmoved
  · next start jobs hagenda =>
    split at hmoved
    · -- A check that runs by itself, found by the sweep.
      next n c hnext =>
      -- The sweep on the agenda keeps no frame in use.
      have hlive : ({ s with agenda := jobs } : Session).isLive c.frame = s.isLive c.frame := by
        unfold isLive
        rw [hagenda]
        rfl
      have hnext' : ({ s with agenda := jobs } : Session).nextCheck? start = some (n, c) := hnext
      split at hmoved
      · cases hmoved
      · next hfound =>
        cases hmoved
        refine ⟨({ s with agenda := jobs } : Session).setCheck n .ended, _,
          fun s c => (s.setCheck n (.waiting c)).push [.sweep (n + 1)],
          fun _ => [.sweep (n + 1)], rfl, ?_, fun _ _ => ⟨_, rfl⟩⟩
        rw [step_cons hagenda]
        show Session.sweep _ start = _
        unfold sweep
        rw [hnext']
        dsimp only
        rw [hlive, if_neg hfound]
    · cases hmoved
  · cases hmoved

/-- A session whose next job is a failing check is not idle. -/
theorem Fails.agenda_ne_nil (hfail : s.Fails c e) : s.agenda ≠ [] := by
  intro hnil
  have hnone : s.movedCheck? = none := by
    unfold movedCheck?
    rw [hnil]
  rcases hfail.moved with ⟨f, hmoved⟩ | ⟨f, hmoved, -⟩
  · cases hnone.symm.trans hmoved
  · cases hnone.symm.trans hmoved

/-- The step in which a check fails. -/
theorem Fails.step (hfail : s.Fails c e) : ∃ checks jobs,
    s.step.host = (({ s.host with checks } : Host).failCheck c e).1 ∧
      s.step.agenda =
        (({ s.host with checks } : Host).failCheck c e).2.map .follow ++ .hold c.frame :: jobs := by
  obtain ⟨f, state, hmoved, hstate⟩ : ∃ f state, s.movedCheck? = some (f, state) ∧
      (state = .waiting c ∨ state = .fresh ∧ s.host.check? f = some c) := by
    rcases hfail.moved with ⟨f, hmoved⟩ | ⟨f, hmoved, hc⟩
    · exact ⟨f, _, hmoved, .inl rfl⟩
    · exact ⟨f, _, hmoved, .inr ⟨rfl, hc⟩⟩
  obtain ⟨t, checks, wait, rest, ht, hstep, -⟩ := step_of_movedCheck? hmoved
  have hstate' : state = .waiting c ∨ state = .fresh ∧ t.host.check? f = some c := ht ▸ hstate
  -- It need not wait any more, so this move ends it.
  have hready : t.host.mustWait = false := ht ▸ hfail.ready
  obtain ⟨u, hu, hend⟩ : ∃ u : Session, u.host = t.host ∧
      t.moveCheck f state wait rest = u.endCheck c rest := moveCheck_eq_endCheck hstate' hready
  have hverdict : u.host.verdict = .error e := by
    rw [hu, ht]
    exact hfail.verdict
  obtain ⟨hhost, hagenda⟩ : (u.endCheck c rest).host = (u.host.failCheck c e).1 ∧
      (u.endCheck c rest).agenda =
        (u.host.failCheck c e).2.map .follow ++ .hold c.frame :: rest (.error e) ++ u.agenda :=
    endCheck_of_refused hverdict
  rw [hu, ht] at hhost hagenda
  refine ⟨checks, rest (.error e) ++ u.agenda, ?_, ?_⟩
  · rw [hstep, hend, hhost]
  · rw [hstep, hend, hagenda, List.append_assoc]
    rfl

/-- The job in which a check fails spares its frame, unless the frame is in the mount of the check
still. -/
theorem Fails.spares (hfail : s.Fails c e) : s.Spares c.frame c.generation := by
  intro frame hf hg
  obtain ⟨checks, jobs, hhost, -⟩ := hfail.step
  have hstale := Host.failCheck_of_stale (h := { s.host with checks }) hf hg e
  rw [hhost, hstale]
  exact ⟨hf, rfl, rfl⟩

/-- A check that fails during its mount leaves the report and the showing of the content to be done;
in a later mount it leaves nothing but that the frame is in use. -/
theorem Fails.leaves (hfail : s.Fails c e) {frame : Frame}
    (hf : s.host.frame? c.frame = some frame) :
    (frame.generation = c.generation → ∃ rest, s.step.Reports c.frame rest) ∧
      (frame.generation ≠ c.generation → ∃ rest, s.step.agenda = .hold c.frame :: rest) := by
  obtain ⟨checks, jobs, -, hagenda⟩ := hfail.step
  constructor
  · intro hg
    -- The handler is to be called, and then the content shown.
    have hfollowups : (({ s.host with checks } : Host).failCheck c e).2 =
        s.host.report c.frame e ++ [.showContent c.frame] := by
      unfold Host.failCheck
      rw [show ({ s.host with checks } : Host).frame? c.frame = some frame from hf]
      dsimp only
      rw [if_pos hg]
      rfl
    refine ⟨.hold c.frame :: jobs, (s.host.report c.frame e).map .follow, ?_, fun x hx => ?_⟩
    · rw [hagenda, hfollowups, List.map_append, List.append_assoc]
      rfl
    · obtain ⟨followup, hfollowup, rfl⟩ := List.mem_map.mp hx
      obtain ⟨cb, -, rfl⟩ := Option.map_eq_some_iff.mp (Option.mem_toList.mp hfollowup)
      exact ⟨cb, _, rfl⟩
  · intro hg
    rw [Host.failCheck_of_stale (h := { s.host with checks }) hf hg e] at hagenda
    exact ⟨jobs, hagenda⟩

/-- The followup that shows the content shows it. -/
theorem step_showContent {jobs : List Job} (hagenda : s.agenda = .follow (.showContent f) :: jobs) :
    s.step.host = (s.host.showContent f).1 := by
  rw [step_cons hagenda]
  rfl

/-- Showing the content of a frame spares it, unless it is in a later mount and still loading. -/
theorem spares_showContent_iff {jobs : List Job} {g : ℕ} (hh : s.host.Housed)
    (hagenda : s.agenda = .follow (.showContent f) :: jobs) :
    s.Spares f g ↔ ∀ frame, s.host.frame? f = some frame →
      frame.generation = g ∨ ¬ frame.IsLoading := by
  have hstep := step_showContent hagenda
  constructor
  · intro hspares frame hf
    by_contra hnot
    obtain ⟨hg, hloading⟩ := not_or.mp hnot
    have hloading := not_not.mp hloading
    -- The frame is as before, but its phase is not.
    have hphase := Host.phase_showContent hh hf hloading
    rw [← hstep, (hspares frame hf hg).1] at hphase
    have hphase : frame.phase = .loaded := Option.some.inj hphase
    rcases hloading with hbefore | hbefore <;> rw [hbefore] at hphase <;> cases hphase
  · intro hnot frame hf hg
    have hloading := (hnot frame hf).resolve_left hg
    rw [hstep, Host.showContent_of_not_loading hf hloading]
    exact ⟨hf, rfl, rfl⟩

/-- Until a failed check is done with, its remaining jobs wait below all others. -/
theorem Resumes.suffix {i k : ℕ} {rest : List Job} (hr : s.Resumes as i k f rest) {l : ℕ}
    (hil : i < l) (hlk : l ≤ k) : .follow (.showContent f) :: rest <:+ (s.after as l).agenda := by
  have habove : ∃ js, (s.after as l).agenda = js ++ .follow (.showContent f) :: rest ∧
      Fenced js := by
    induction l, hil using Nat.le_induction with
    | base =>
      obtain ⟨reports, hreports, hinvoke⟩ := hr.left
      refine ⟨reports, hreports, fenced_of_noPanic fun x hx => ?_⟩
      obtain ⟨cb, v, rfl⟩ := hinvoke x hx
      rfl
    | succ l hil ih =>
      obtain ⟨js, hjs, hfenced⟩ := ih (Nat.le_of_succ_le hlk)
      cases js with
      | nil => exact absurd hjs (hr.first l hil hlk)
      | cons job js =>
        have hnext : (s.after as l).agenda ≠ [] := by
          rw [hjs]
          exact List.cons_ne_nil _ _
        rw [after_succ_of_ne_nil hnext]
        exact step_above hjs hfenced
  obtain ⟨js, hjs, -⟩ := habove
  exact ⟨js, hjs.symm⟩

/-- A check that began in a mount of a frame and fails spares every later mount of the frame when it
fails, and in a later mount nothing follows from it. In its own mount the host code runs that the error
is reported to, above the jobs that are left of the check. When that code is through, showing the
content of the frame spares every later mount exactly if the frame is in the mount of the check then,
or in none that is still loading. -/
theorem failed_check_spares_iff (origin : String) (allowList : Option AllowList) (defaults : Config)
    (runtime : Bool) (scripts : List (List Action)) (as : List Action) {j i : ℕ} {old : Frame} :
    let s := start origin allowList defaults runtime scripts
    (s.after as j).Begins c → (s.after as j).host.frame? c.frame = some old →
    (s.after as i).Fails c e →
    (s.after as i).Spares c.frame old.generation ∧
      (∀ frame, (s.after as i).host.frame? c.frame = some frame →
        (frame.generation = old.generation → ∃ rest, (s.after as (i + 1)).Reports c.frame rest) ∧
        (frame.generation ≠ old.generation →
          ∃ rest, (s.after as (i + 1)).agenda = .hold c.frame :: rest)) ∧
      ∀ k rest, s.Resumes as i k c.frame rest →
        (∀ l, i < l → l ≤ k →
          .follow (.showContent c.frame) :: rest <:+ (s.after as l).agenda) ∧
        ((s.after as k).Spares c.frame old.generation ↔
          ∀ frame, (s.after as k).host.frame? c.frame = some frame →
            frame.generation = old.generation ∨ ¬ frame.IsLoading) := by
  intro s hbegin hold hfail
  have hgeneration : old.generation = c.generation := by
    obtain ⟨frame, hf, hg⟩ := hbegin.generation
    cases hold.symm.trans hf
    exact hg
  rw [hgeneration, after_succ_of_ne_nil hfail.agenda_ne_nil]
  refine ⟨hfail.spares, fun frame hf => hfail.leaves hf,
    fun k rest hresumes => ⟨fun l => hresumes.suffix, ?_⟩⟩
  exact spares_showContent_iff (Host.housed_after (housed_start ..) as k) hresumes.next

/-- A session on a page that no application allows; the error of a check that fails is reported to
host code that carries out an operation. -/
def refused (a : Action) : Session :=
  start "https://host.example.com" (some ⟨.ok [], false, .standard⟩) Config.empty false [[a]]

/-- The host code tears the frame down. -/
def tornDown : Session := refused (.frame (.destroy "A"))

/-- The host code mounts the frame again. -/
def mountedAgain : Session := refused (.frame (.mount "A" (.ok Config.empty)))

/-- A frame is mounted and checked. -/
def checking : List Action :=
  [.page (.insert "f" "slot"),
    .frame (.openFrame "A" none (.ok ((Config.ofFields
      [("frameId", .string "f"), ("src", .string "https://app.example.com"),
        ("checkCSP", .bool false)]).on Event.appError ⟨"err", false, 0⟩))),
    .call (.check "A" "c"), .call (.poll "c")]

/-- The check of the first mount. -/
def firstCheck : Check := ⟨0, "https://app.example.com", 1⟩

/-- What it fails with. -/
def refusal : Error := .originNotAllowed "https://host.example.com"

/-- The jobs that are left of the check once the content of the frame is shown. -/
def leftover : List Job :=
  [.hold 0, .hold 0, .reply (.outcome (Except.error refusal : Except Error Unit))]

/-- The content of a frame that was torn down is not shown. -/
theorem failed_check_spares_destroyed :
    tornDown.Resumes checking 7 13 0 leftover ∧ (tornDown.after checking 13).Spares 0 1 := by
  have hbegins : (tornDown.after checking 7).Begins firstCheck := ⟨0, rfl, by decide +kernel⟩
  -- Until the handler is through there is something above the leftover jobs.
  have hlong : ∀ l < 13, 7 < l → (tornDown.after checking l).agenda.length ≠ 4 := by
    decide +kernel
  have hresumes : tornDown.Resumes checking 7 13 0 leftover := by
    refine ⟨by decide, ⟨[.follow (.invoke ⟨"err", false, 0⟩ _)], by with_unfolding_all rfl, ?_⟩,
      by with_unfolding_all rfl, fun l hl hl' heq => hlong l hl' hl (by rw [heq]; rfl)⟩
    exact fun x hx => ⟨_, _, List.mem_singleton.mp hx⟩
  have hbefore : ((tornDown.after checking 7).host.frame? 0).map Frame.generation = some 1 := by
    decide
  have hphase : ((tornDown.after checking 13).host.frame? 0).map Frame.phase =
      some .destroyed := by decide +kernel
  have hloading : ∀ frame, (tornDown.after checking 13).host.frame? 0 = some frame →
      ¬ frame.IsLoading := by
    intro frame hframe
    rw [hframe] at hphase
    unfold Frame.IsLoading
    rw [Option.some.inj hphase]
    decide
  obtain ⟨old, hold, hg⟩ := Option.map_eq_some_iff.mp hbefore
  obtain ⟨-, -, hspares⟩ := failed_check_spares_iff "https://host.example.com"
    (some ⟨.ok [], false, .standard⟩) Config.empty false [[.frame (.destroy "A")]] checking hbegins hold
    (e := refusal) ⟨.inr hbegins, rfl, rfl⟩
  refine ⟨hresumes, ?_⟩
  rw [← hg]
  exact (hspares 13 leftover hresumes).2.mpr fun frame hframe => .inr (hloading frame hframe)

/-- The content of a frame that was mounted again is shown before its new iframe has loaded, and its
new loader is about to fade. -/
theorem remount_shown_by_failed_check :
    (mountedAgain.after checking 7).Begins firstCheck ∧
      (mountedAgain.after checking 7).Fails firstCheck refusal ∧
      mountedAgain.Resumes checking 7 13 0 leftover ∧
      ((mountedAgain.after checking 13).host.frame? 0).map
        (fun frame => (frame.generation, frame.phase)) = some (2, .initializing) ∧
      ((mountedAgain.after checking 14).host.frame? 0).map
        (fun frame => (frame.generation, frame.phase)) = some (2, .loaded) ∧
      (mountedAgain.after checking 13).host.page.paints = [] ∧
      (mountedAgain.after checking 14).host.page.paints = [.fade 0 2 6] := by
  have hbegins : (mountedAgain.after checking 7).Begins firstCheck := ⟨0, rfl, by decide +kernel⟩
  -- Until the handler is through there is something above the leftover jobs.
  have hlong : ∀ l < 13, 7 < l → (mountedAgain.after checking l).agenda.length ≠ 4 := by
    decide +kernel
  have hresumes : mountedAgain.Resumes checking 7 13 0 leftover := by
    refine ⟨by decide, ⟨[.follow (.invoke ⟨"err", false, 0⟩ _)], by with_unfolding_all rfl, ?_⟩,
      by with_unfolding_all rfl, fun l hl hl' heq => hlong l hl' hl (by rw [heq]; rfl)⟩
    exact fun x hx => ⟨_, _, List.mem_singleton.mp hx⟩
  refine ⟨hbegins, ⟨.inr hbegins, rfl, rfl⟩, hresumes, ?_⟩
  decide +kernel

end Session

end FrameHost
