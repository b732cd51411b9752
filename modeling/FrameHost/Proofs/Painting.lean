import FrameHost.Proofs.FailedChecks
import FrameHost.Proofs.LoaderHooks
import FrameHost.Proofs.LoaderNodes
import FrameHost.Proofs.Termination

/-!
# Paintings come to an end

A painting runs hooks until none waits, those included that hooks leave on the way. It comes to an end,
since every operation does (`step_left_lt`), and then no hook waits: it may be cut short by a panic, but
only by one out of a hook of the host's own (`exists_end_of_painting`). As a frame that shows its content
and has its loader still has a hook, no such frame is left when the painting is over (`loaders_go`).
-/

namespace FrameHost.Session

variable {s : Session} {as : List Action} {f : FrameRef} {i k : ℕ} {js rest : List Job} {ran : ℕ}

/-! ## Paintings -/

/-- A painting is in progress, above the jobs in `rest`. -/
def Painting (s : Session) (rest : List Job) : Prop :=
  ∃ js ran, s.agenda = js ++ .paint ran :: rest

/-- A panic is about to cut a painting short: no job that is left of it stops the panic. -/
def CutsPainting (s : Session) (rest : List Job) : Prop :=
  ∃ js ran, s.agenda = .raise :: js ++ .paint ran :: rest ∧ ∀ x ∈ js, x.isFence = false

/-- The jobs behind the next one, if this is to paint the page. -/
def paintsNext? (s : Session) : Option (List Job) :=
  match s.agenda with
  | .act _ (.page .flushPaint) :: rest => some rest
  | _ => none

/-- Painting begins with no hook run. -/
theorem step_paintsNext? (h : s.paintsNext? = some rest) :
    s.agenda ≠ [] ∧ s.step.agenda = .paint 0 :: rest := by
  unfold paintsNext? at h
  split at h
  · next nested jobs hagenda =>
    cases h
    rw [step_cons hagenda, hagenda]
    exact ⟨List.cons_ne_nil _ _, rfl⟩
  · cases h

/-- Whether the next job is a hook of the host's own on a paint. -/
def runsOwnHook (s : Session) : Bool :=
  match s.agenda with
  | .painted (.host _) :: _ => true
  | _ => false

/-- A session that runs a hook of its own has it first on the agenda. -/
theorem exists_of_runsOwnHook (h : s.runsOwnHook = true) :
    ∃ cb jobs, s.agenda = .painted (.host cb) :: jobs := by
  unfold runsOwnHook at h
  split at h
  · next cb jobs hagenda => exact ⟨cb, jobs, hagenda⟩
  · cases h

/-- A painting that has come to its last job: no hook waits. -/
def EndsPainting (s : Session) (rest : List Job) : Prop :=
  s.host.page.paints = [] ∧ ∃ ran, s.agenda = .paint ran :: rest

/-- The last job of a painting belongs to it. -/
theorem EndsPainting.painting (h : s.EndsPainting rest) : s.Painting rest := by
  obtain ⟨-, ran, hagenda⟩ := h
  exact ⟨[], ran, hagenda⟩

/-- A session is not idle while it paints. -/
theorem Painting.agenda_ne_nil (h : s.Painting rest) : s.agenda ≠ [] := by
  obtain ⟨js, ran, hagenda⟩ := h
  rw [hagenda]
  exact List.append_ne_nil_of_right_ne_nil js (List.cons_ne_nil _ _)

/-- No panic comes out of the jobs: they end it at a fence, or are the hook of a frame on a paint. -/
def Contained (js : List Job) : Prop :=
  Fenced js ∨ ∃ hook, (∀ cb, hook ≠ .host cb) ∧ js = [.painted hook]

/-- After a step the jobs that a painting has above the rest contain their panics still. -/
theorem Contained.step {job : Job} (hjs : Contained (job :: js))
    (hagenda : s.agenda = (job :: js) ++ rest) :
    ∃ js', s.step.agenda = js' ++ rest ∧ Contained js' := by
  rcases hjs with hfenced | ⟨hook, hhook, hjs⟩
  · obtain ⟨js', hstep, hfenced'⟩ := step_above hagenda hfenced
    exact ⟨js', hstep, .inl hfenced'⟩
  · obtain ⟨rfl, rfl⟩ := List.cons.inj hjs
    obtain ⟨js', hstep, hcalm⟩ := (adds_runPaintHook (s := { s with agenda := rest }) hhook).jobs
    exact ⟨js', (congrArg agenda (step_cons hagenda)).trans hstep,
      .inl (fenced_of_noPanic hcalm.noPanic)⟩

/-- With its next job a painting is over, or is cut short, or it goes on; and no panic comes out of it
unless a hook of the host's own has run. -/
theorem step_painting (own : Prop) (hagenda : s.agenda = js ++ .paint ran :: rest)
    (hjs : Contained js ∨ own) : s.EndsPainting rest ∨ (s.CutsPainting rest ∧ own) ∨
      ∃ js' ran', s.step.agenda = js' ++ .paint ran' :: rest ∧
        (Contained js' ∨ own ∨ s.step.runsOwnHook = true) := by
  cases js with
  | nil =>
    rw [List.nil_append] at hagenda
    -- Nothing stands before the painting: it takes its next hook, or ends.
    cases hpaints : s.host.page.paints with
    | nil => exact .inl ⟨hpaints, ran, hagenda⟩
    | cons hook paints =>
      have hstep : s.step.agenda = .painted hook :: .paint (ran + 1) :: rest := by
        rw [step_cons hagenda]
        show (Session.paint { s with agenda := rest } ran).agenda = _
        unfold paint
        dsimp only
        rw [hpaints]
        rfl
      refine .inr (.inr ⟨[.painted hook], ran + 1, hstep, ?_⟩)
      cases hook with
      | host cb =>
        refine .inr (.inr ?_)
        unfold runsOwnHook
        rw [hstep]
      | fade | retire => exact .inl (.inr ⟨_, fun _ => PaintHook.noConfusion, rfl⟩)
  | cons job js =>
    rcases hjs with hcontained | hown
    · -- What a hook of the mount leaves is contained again.
      obtain ⟨js', hstep, hcontained'⟩ := hcontained.step hagenda
      exact .inr (.inr ⟨js', ran, hstep, .inl hcontained'⟩)
    · -- A panic goes to the nearest fence, which may be the painting itself.
      by_cases hraise : job = .raise
      · subst hraise
        by_cases hfence : ∃ x ∈ js, x.isFence = true
        · rw [List.cons_append] at hagenda
          have hstep : s.step.agenda =
              (js.dropWhile fun x => !x.isFence).tail ++ .paint ran :: rest := by
            rw [step_cons hagenda, ← tail_dropWhile_append hfence]
            exact agenda_unwind _
          exact .inr (.inr ⟨_, ran, hstep, .inr (.inl hown)⟩)
        · refine .inr (.inl ⟨⟨js, ran, hagenda, fun x hx => ?_⟩, hown⟩)
          exact Bool.eq_false_iff.mpr fun hx' => hfence ⟨x, hx, hx'⟩
      · rw [List.cons_append] at hagenda
        obtain ⟨ks, hks, -⟩ := step_front hagenda hraise
        exact .inr (.inr ⟨ks ++ js, ran, by rw [hks, List.append_assoc], .inr (.inl hown)⟩)

/-- A painting comes to its last job, or it is cut short, which takes a hook of the host's own. -/
theorem exists_end_of_painting {first : ℕ} (hfirst : first ≤ i)
    (hagenda : (s.after as i).agenda = js ++ .paint ran :: rest)
    (hjs : Contained js ∨ ∃ j, first ≤ j ∧ j ≤ i ∧ (s.after as j).runsOwnHook = true) :
    ∃ k, i ≤ k ∧ (∀ j, i ≤ j → j ≤ k → (s.after as j).Painting rest) ∧
      ((s.after as k).EndsPainting rest ∨ (s.after as k).CutsPainting rest ∧
        ∃ j, first ≤ j ∧ j ≤ k ∧ (s.after as j).runsOwnHook = true) := by
  generalize hleft : (s.after as i).left = left
  -- On the work that is left, which every step makes less.
  induction left using WellFoundedLT.induction generalizing i js ran with
  | ind left ih =>
    have hpainting : (s.after as i).Painting rest := ⟨js, ran, hagenda⟩
    have hhere : ∀ j, i ≤ j → j ≤ i → (s.after as j).Painting rest := fun j hij hji =>
      Nat.le_antisymm hij hji ▸ hpainting
    rcases step_painting _ hagenda hjs with hend | ⟨hcut, hown⟩ | ⟨js', ran', hstep, hjs'⟩
    · exact ⟨i, Nat.le_refl i, hhere, .inl hend⟩
    · exact ⟨i, Nat.le_refl i, hhere, .inr ⟨hcut, hown⟩⟩
    · have hsucc := after_succ_of_ne_nil hpainting.agenda_ne_nil
      rw [← hsucc] at hstep hjs'
      have hlt : (s.after as (i + 1)).left < left := by
        rw [hsucc, ← hleft]
        exact step_left_lt hpainting.agenda_ne_nil
      have hown : Contained js' ∨ ∃ j, first ≤ j ∧ j ≤ i + 1 ∧ (s.after as j).runsOwnHook = true := by
        rcases hjs' with hcontained | ⟨j, hj, hji, hown⟩ | hown
        · exact .inl hcontained
        · exact .inr ⟨j, hj, Nat.le_succ_of_le hji, hown⟩
        · exact .inr ⟨i + 1, Nat.le_succ_of_le hfirst, Nat.le_refl _, hown⟩
      obtain ⟨k, hik, hbetween, hend⟩ := ih _ hlt (Nat.le_succ_of_le hfirst) hstep hown rfl
      refine ⟨k, Nat.le_of_succ_le hik, fun j hij hjk => ?_, hend⟩
      rcases Nat.eq_or_lt_of_le hij with rfl | hlt
      · exact hpainting
      · exact hbetween j hlt hjk

/-! ## What a painting leaves -/

/-- A painting is over after `k` steps: no hook waits, and every frame in use that shows its content is
without a loader. The loader that its mount has had is detached and not listed by the container, unless
the host has put it somewhere. -/
structure Painted (s : Session) (as : List Action) (k : ℕ) (rest : List Job) : Prop where
  agenda : (s.after as k).agenda = rest
  answer : ∃ ran, (s.after as k).answer = .count ran
  paints : (s.after as k).host.page.paints = []
  loader : ∀ f frame, (s.after as k).isLive f = true →
    (s.after as k).host.frame? f = some frame → frame.phase = .loaded → frame.loader? = none
  gone : ∀ f frame l, (s.after as k).isLive f = true →
    (s.after as k).host.frame? f = some frame → frame.phase = .loaded →
    s.MountsLoader as f frame.generation l → (∀ j < k, (s.after as j).handles l = false) →
    (s.after as k).host.page.isAttached l = false ∧
      ∀ c, frame.nodes.map Mounted.container = some c →
        l ∉ (s.after as k).host.page.childrenOf c

/-- The last job of a painting leaves no loader where content is shown. -/
theorem painted_of_ends (origin : String) (allowList : Option AllowList) (defaults : Config)
    (runtime : Bool) (scripts : List (List Action)) (as : List Action) :
    let s := start origin allowList defaults runtime scripts
    (s.after as k).EndsPainting rest → s.Painted as (k + 1) rest := by
  intro s hend
  have hheaded := headed_after origin allowList defaults runtime scripts as k
  have hne := hend.painting.agenda_ne_nil
  obtain ⟨hpaints, ran, hagenda⟩ := hend
  have hstep : s.after as (k + 1) = ({ s.after as k with agenda := rest }).reply (.count ran) := by
    rw [after_succ_of_ne_nil hne, step_cons hagenda]
    show Session.paint _ ran = _
    unfold paint
    dsimp only
    rw [hpaints]
  -- No hook is left on the page, and none on the agenda.
  have hnone : (s.after as (k + 1)).paintHooks = [] := by
    unfold Headed at hheaded
    rw [hagenda, List.tail_cons] at hheaded
    rw [hstep]
    show rest.filterMap Job.paintHook? ++ (s.after as k).host.page.fading = []
    rw [hheaded]
    unfold Page.fading
    rw [hpaints]
    rfl
  have hloader : ∀ f frame, (s.after as (k + 1)).isLive f = true →
      (s.after as (k + 1)).host.frame? f = some frame → frame.phase = .loaded →
      frame.loader? = none := by
    intro f frame hlive hf hphase
    have hattends := attends_after origin allowList defaults runtime scripts as (k + 1) hlive
    rw [hnone] at hattends
    refine Option.not_isSome_iff_eq_none.mp fun hloader => ?_
    exact absurd (hattends frame hf hphase hloader) List.not_mem_nil
  refine ⟨by rw [hstep]; rfl, ⟨ran, by rw [hstep]; rfl⟩, by rw [hstep]; exact hpaints, hloader, ?_⟩
  intro f frame l hlive hf hphase hmounts hhandles
  exact loader_gone origin allowList defaults runtime scripts as hf
    (hloader f frame hlive hf hphase) hmounts hhandles

/-- A frame in use has one hook on a paint that belongs to its mount as long as it shows its content and
has its loader still, and none otherwise; and hooks of frames wait on the page, but for one that runs
next. A painting comes to an end. Either it is over then, and no hook is left and no loader where content
is shown, or a panic cuts it short, and a hook of the host's own has run before. -/
theorem loaders_go (origin : String) (allowList : Option AllowList) (defaults : Config)
    (runtime : Bool) (scripts : List (List Action)) (as : List Action) :
    let s := start origin allowList defaults runtime scripts
    (∀ i f frame, (s.after as i).isLive f = true → (s.after as i).host.frame? f = some frame →
      ((s.after as i).paintHooks.filterMap PaintHook.mount?).count (f, frame.generation) =
        if frame.phase = .loaded ∧ frame.loader?.isSome = true then 1 else 0) ∧
    (∀ i, (∀ hook, (s.after as i).agenda.head? ≠ some (.painted hook)) →
      (s.after as i).paintHooks = (s.after as i).host.page.fading) ∧
    ∀ i rest, (s.after as i).paintsNext? = some rest →
      ∃ k, i < k ∧ (∀ j, i < j → j < k → (s.after as j).Painting rest) ∧
        (s.Painted as k rest ∨ (s.after as k).CutsPainting rest ∧
          ∃ j, i < j ∧ j < k ∧ (s.after as j).runsOwnHook = true) := by
  intro s
  refine ⟨fun i f frame => count_hooks origin allowList defaults runtime scripts as i,
    fun i => paintHooks_of_no_hook (headed_after ..), fun i rest hnext => ?_⟩
  obtain ⟨hne, hstep⟩ := step_paintsNext? hnext
  have hfirst : (s.after as (i + 1)).agenda = [] ++ .paint 0 :: rest := by
    rw [after_succ_of_ne_nil hne]
    exact hstep
  obtain ⟨k, hik, hbetween, hend | ⟨hcut, j, hj, hjk, hown⟩⟩ :=
    exists_end_of_painting (Nat.le_refl (i + 1)) hfirst (.inl (.inl trivial))
  · exact ⟨k + 1, Nat.lt_succ_of_lt hik, fun j hij hjk => hbetween j hij (Nat.le_of_lt_succ hjk),
      .inl (painted_of_ends origin allowList defaults runtime scripts as hend)⟩
  · refine ⟨k, hik, fun j hij hjk => hbetween j hij (Nat.le_of_lt hjk), .inr ⟨hcut, j, hj, ?_, hown⟩⟩
    -- A panic is no hook.
    refine Nat.lt_of_le_of_ne hjk ?_
    rintro rfl
    obtain ⟨cb, jobs, hagenda⟩ := exists_of_runsOwnHook hown
    obtain ⟨js, ran, hagenda', -⟩ := hcut
    rw [hagenda] at hagenda'
    cases hagenda'

/-- A frame is mounted with a loader, its content is shown, and the page is painted. -/
def shown : List Action :=
  [.page (.insert "f" "slot"),
    .frame (.openFrame "A" none (.ok (Config.ofFields
      [("frameId", .string "f"), ("checkCSP", .bool false)]))),
    .frame (.showContent "A"), .page .flushPaint]

/-- The painting ends with the loader gone. -/
theorem loaders_go_shown :
    let s := start "https://host.example.com" none Config.empty false []
    (s.after shown 9).paintsNext? = some [] ∧
      ((s.after shown 9).paintHooks.filterMap PaintHook.mount?).count (0, 1) = 1 ∧
      s.Painted shown 16 [] ∧ s.MountsLoader shown 0 1 3 ∧
      (s.after shown 16).host.page.isAttached 3 = false := by
  intro s
  obtain ⟨hcount, -, hpainting⟩ :=
    loaders_go "https://host.example.com" none Config.empty false [] shown
  obtain ⟨rest, hrest, hlength⟩ : ∃ rest, (s.after shown 9).paintsNext? = some rest ∧
      rest.length = 0 := Option.map_eq_some_iff.mp (by decide +kernel)
  obtain rfl := List.length_eq_zero_iff.mp hlength
  -- The run is evaluated first: busy until state 16, and no hook of the host.
  have hbusy : ∀ j < 16, 9 < j → (s.after shown j).agenda.length ≠ 0 := by decide +kernel
  have hidle : (s.after shown 16).agenda.isEmpty = true := by decide +kernel
  have hown : ∀ j < 16, (s.after shown j).runsOwnHook = false := by decide +kernel
  have hlive : (s.after shown 9).isLive 0 = true ∧ (s.after shown 16).isLive 0 = true := by
    decide +kernel
  have hbefore : ((s.after shown 9).host.frame? 0).map (fun frame =>
      (frame.generation, frame.phase, frame.loader?)) = some (1, .loaded, some 3) := by
    decide +kernel
  have hafter : ((s.after shown 16).host.frame? 0).map (fun frame =>
      (frame.generation, frame.phase)) = some (1, .loaded) := by decide +kernel
  have hhandles : ∀ j < 16, (s.after shown j).handles 3 = false := by decide +kernel
  obtain ⟨frame, hf, hfields⟩ := Option.map_eq_some_iff.mp hbefore
  obtain ⟨frame', hf', hfields'⟩ := Option.map_eq_some_iff.mp hafter
  simp only [Prod.mk.injEq] at hfields hfields'
  obtain ⟨hg, hphase, hloader⟩ := hfields
  obtain ⟨hg', hphase'⟩ := hfields'
  have hone := hcount 9 0 frame hlive.1 hf
  rw [hg, hphase, hloader] at hone
  obtain ⟨k, hk, hbetween, hend⟩ := hpainting 9 [] hrest
  -- The painting ends by then, since nothing is left to do.
  have hle : k ≤ 16 := by
    by_contra hlt
    exact (hbetween 16 (by decide) (by omega)).agenda_ne_nil (List.isEmpty_iff.mp hidle)
  have hmounts : s.MountsLoader shown 0 1 3 := ⟨9, frame, hf, hg, hloader⟩
  rcases hend with hpainted | ⟨-, j, -, hjk, hj⟩
  · -- And not before, since the agenda is empty when it ends.
    have hnot : ¬ k < 16 := fun hlt =>
      hbusy k hlt hk (List.length_eq_zero_iff.mpr hpainted.agenda)
    obtain rfl : k = 16 := by omega
    have hmounts' : s.MountsLoader shown 0 frame'.generation 3 := by rwa [hg']
    obtain ⟨hdetached, -⟩ := hpainted.gone 0 frame' 3 hlive.2 hf' hphase' hmounts' hhandles
    refine ⟨hrest, hone, hpainted, hmounts, ?_⟩
    rw [hdetached]
  · rw [hown j (by omega)] at hj
    cases hj

end FrameHost.Session
