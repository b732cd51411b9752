import FrameHost.Proofs.Lifecycle
import FrameHost.Proofs.Liveness

/-!
# Load events

Every state of a run is consistent: the parts of each frame agree, the listeners that frames have on
the page are those that they recorded, and a frame is connected exactly if the load event of its
iframe was fired since it was mounted (`frames_consistent`). The hooks of an iframe run right after
its load event, before anything else on the agenda (`Orderly`), so there is a single step between
the event and the connection.
-/

namespace FrameHost

/-- Whether an operation adds no hooks on loading of the host's own, and takes no listener away. -/
def Action.leavesHooks : Action → Bool
  | .page (.onLoad _ _) | .page (.removeListener _) => false
  | _ => true

namespace Session

open Host (Coherent Loading)

/-! ## What has happened -/

/-- The load event of the iframe of a frame is fired next. -/
def Fires (s : Session) (f : FrameRef) (n : NodeId) : Prop :=
  (∃ nested node jobs, s.agenda = .act nested (.page (.fireLoad node)) :: jobs ∧
    s.nodeId node = n) ∧
    ∃ frame, s.host.frame? f = some frame ∧ frame.iframe? = some n

/-- The load event of an iframe was fired in the first `i` steps of a run, and the iframe was that of
a frame. -/
def Delivered (s : Session) (as : List Action) (i : ℕ) (f : FrameRef) (n : NodeId) : Prop :=
  ∃ j < i, (s.after as j).Fires f n

variable {s : Session} {as : List Action}

/-- What has been delivered after one more step is what had been before, and what that step fires.
-/
theorem delivered_succ (i : ℕ) :
    s.Delivered as (i + 1) = fun f n => s.Delivered as i f n ∨ (s.after as i).Fires f n := by
  funext f n
  refine propext ⟨?_, ?_⟩
  · rintro ⟨j, hj, hfires⟩
    rcases Nat.lt_succ_iff_lt_or_eq.mp hj with hj | rfl
    · exact .inl ⟨j, hj, hfires⟩
    · exact .inr hfires
  · rintro (⟨j, hj, hfires⟩ | hfires)
    · exact ⟨j, Nat.lt_succ_of_lt hj, hfires⟩
    · exact ⟨i, Nat.lt_succ_self i, hfires⟩

/-! ## The invariant of a run -/

/-- No hook on loading waits on the agenda, unless it is the next job: then the load event has just
been fired. -/
structure Orderly (delivered : FrameRef → NodeId → Prop) (exempt : FrameRef → Prop) (s : Session) :
    Prop where
  acts : ∀ nested a, .act nested a ∈ s.agenda → a.leavesHooks = true
  scripts : ∀ script ∈ s.scripts, ∀ a ∈ script, a.leavesHooks = true
  loading : ((∀ hook, .loaded hook ∉ s.agenda) ∧ s.host.Coherent delivered exempt) ∨
    ∃ f g frame jobs, s.agenda = .loaded (.connect f g) :: jobs ∧ (∀ hook, .loaded hook ∉ jobs) ∧
      s.host.Loading delivered exempt f g frame

section Steps

variable {delivered : FrameRef → NodeId → Prop} {exempt exempt' : FrameRef → Prop}
  {job : Job} {jobs : List Job}

/-- A load is delivered to a frame by firing the load of the node that is the frame's iframe. -/
theorem fires_iff (hagenda : s.agenda = job :: jobs) {f : FrameRef} {n : NodeId} :
    s.Fires f n ↔ (∃ nested node, job = .act nested (.page (.fireLoad node)) ∧ s.nodeId node = n) ∧
      ∃ frame, s.host.frame? f = some frame ∧ frame.iframe? = some n := by
  unfold Fires
  rw [hagenda]
  constructor
  · rintro ⟨⟨nested, node, jobs', heq, hn⟩, hframe⟩
    cases heq
    exact ⟨⟨nested, node, rfl, hn⟩, hframe⟩
  · rintro ⟨⟨nested, node, rfl, hn⟩, hframe⟩
    exact ⟨⟨nested, node, jobs, rfl, hn⟩, hframe⟩

/-- A job that fires no load event. -/
theorem not_fires (hagenda : s.agenda = job :: jobs)
    (hjob : ∀ nested node, job ≠ .act nested (.page (.fireLoad node))) :
    (fun f n => delivered f n ∨ s.Fires f n) = delivered := by
  funext f n
  refine propext ⟨?_, .inl⟩
  rintro (hd | hfires)
  · exact hd
  · obtain ⟨⟨nested, node, hfire, -⟩, -⟩ := (fires_iff hagenda).mp hfires
    exact absurd hfire (hjob nested node)

/-- An idle session fires nothing. -/
theorem not_fires_nil (hagenda : s.agenda = []) :
    (fun f n => delivered f n ∨ s.Fires f n) = delivered := by
  funext f n
  refine propext ⟨?_, .inl⟩
  rintro (hd | ⟨⟨nested, node, jobs, heq, -⟩, -⟩)
  · exact hd
  · rw [hagenda] at heq
    cases heq

/-- An idle session that is orderly under fewer exemptions is orderly under more. -/
theorem Orderly.exempting (ho : Orderly delivered exempt s) (hagenda : s.agenda = [])
    (hx : ∀ f, exempt f → exempt' f) : Orderly delivered exempt' s := by
  refine ⟨ho.acts, ho.scripts, ?_⟩
  rcases ho.loading with ⟨hnone, hc⟩ | ⟨f, g, frame, jobs, heq, -⟩
  · exact .inl ⟨hnone, hc.exempting fun f _ _ _ _ hnot h => hnot (hx f h)⟩
  · rw [hagenda] at heq
    cases heq

/-- The moves of a job that leaves hooks alone, and is none. -/
theorem keepsLoading_of_makes {m : Host.Move}
    (hacts : ∀ nested a, job = .act nested a → a.leavesHooks = true)
    (hfire : ∀ nested node, job ≠ .act nested (.page (.fireLoad node)))
    (hloaded : ∀ hook, job ≠ .loaded hook) (hm : job.Makes m) : m.KeepsLoading := by
  cases m with
  | page e =>
    cases e with
    -- Only an action of the host adds a hook or removes a listener.
    | onLoad n cb =>
      obtain ⟨nested, node, hjob⟩ := hm
      exact absurd (hacts nested _ hjob) Bool.noConfusion
    | removeListener id =>
      obtain ⟨nested, hjob⟩ := hm
      exact absurd (hacts nested _ hjob) Bool.noConfusion
    -- Hooks are taken by the load event and connected by the job behind it.
    | takeLoads n =>
      obtain ⟨nested, node, hjob⟩ := hm
      exact absurd hjob (hfire nested node)
    | _ => trivial
  | connect f g => exact absurd hm (hloaded _)
  | _ => trivial

/-- Beginning an action that leaves the load hooks alone keeps the session orderly. -/
theorem Orderly.begin (ho : Orderly delivered exempt s) (hs : s.agenda = []) {a : Action}
    (ha : a.leavesHooks = true) : Orderly delivered exempt (s.begin a) := by
  refine ⟨fun nested b hb => ?_, ho.scripts, .inl ⟨fun hook hx => ?_, ?_⟩⟩
  · cases List.mem_singleton.mp hb
    exact ha
  · cases List.mem_singleton.mp hx
  · rcases ho.loading with ⟨-, hc⟩ | ⟨f, g, frame, jobs, hagenda, -⟩
    · rw [begin_host]
      exact hc.move trivial
    · rw [hs] at hagenda
      cases hagenda

/-- The load event of an iframe takes the hooks of that iframe, and they run next. -/
theorem step_fireLoad {nested : Bool} {node : NodeName}
    (hagenda : s.agenda = .act nested (.page (.fireLoad node)) :: jobs) :
    s.step.host = { s.host with page := (s.host.page.takeLoads (s.nodeId node)).2 } ∧
      ∃ a, s.step.agenda =
        (s.host.page.takeLoads (s.nodeId node)).1.map Job.loaded ++ .reply a :: jobs := by
  rw [step_cons hagenda]
  refine ⟨rfl, .bool !(s.host.page.takeLoads (s.nodeId node)).1.isEmpty, ?_⟩
  show (List.map Job.loaded (s.host.page.takeLoads (s.nodeId node)).1 ++ [Job.reply _]) ++ jobs = _
  rw [List.append_assoc]
  rfl

/-- A hook connects its frame if that is in use. -/
theorem step_connect {f : FrameRef} {g : ℕ} (hagenda : s.agenda = .loaded (.connect f g) :: jobs) :
    s.step.host = if s.isLive f then (s.host.connect f g).1 else s.host := by
  have hlive : ({ s with agenda := jobs } : Session).isLive f = s.isLive f := by
    unfold isLive
    rw [hagenda]
    rfl
  rw [step_cons hagenda]
  show (({ s with agenda := jobs } : Session).runLoadHook (.connect f g)).host = _
  unfold runLoadHook
  dsimp only
  rw [hlive]
  split <;> rfl

/-- A step keeps order, with the load event that it fires, if frames are exempt once they are out of
use. -/
theorem Orderly.step (ho : Orderly delivered exempt s) (hagenda : s.agenda = job :: jobs)
    (hexempt : ∀ f, exempt f → exempt' f)
    (hdead : ∀ f frame, s.host.frame? f = some frame → s.isLive f = false → exempt' f) :
    Orderly (fun f n => delivered f n ∨ s.Fires f n) exempt' s.step := by
  obtain ⟨hjobs, hscripts⟩ := step_adds hagenda
  have hacts : ∀ nested a, .act nested a ∈ s.step.agenda → a.leavesHooks = true := by
    intro nested a hx
    rcases hjobs _ hx with hx | hplain
    · exact ho.acts nested a (hagenda ▸ List.mem_cons_of_mem job hx)
    · obtain ⟨script, hscript, ha⟩ := hplain.acts nested a rfl
      exact ho.scripts script hscript a ha
  refine ⟨hacts, fun script hscript => ?_, ?_⟩
  · rcases hscripts script hscript with hscript | rfl
    · exact ho.scripts script hscript
    · exact fun a ha => absurd ha List.not_mem_nil
  have hplain : ∀ hook, .loaded hook ∉ jobs →
      (∀ nested node, job ≠ .act nested (.page (.fireLoad node))) → .loaded hook ∉ s.step.agenda := by
    intro hook hnot hfire hx
    rcases hjobs _ hx with hx | hplain
    · exact hnot hx
    · obtain ⟨nested, node, hjob⟩ := hplain.loads hook rfl
      exact hfire nested node hjob
  rcases ho.loading with ⟨hnone, hc⟩ | ⟨f, g, frame, jobs', hagenda', hnone, hl⟩
  · rw [hagenda] at hnone
    by_cases hfire : ∃ nested node, job = .act nested (.page (.fireLoad node))
    · -- The load event itself.
      obtain ⟨nested, node, rfl⟩ := hfire
      obtain ⟨hhost, a, hnext⟩ := step_fireLoad hagenda
      have hevent : (fun f n => delivered f n ∨ s.Fires f n) =
          s.host.andDelivered delivered (s.nodeId node) := by
        funext f n
        refine propext (or_congr_right ((fires_iff hagenda).trans (and_congr_left' ?_)))
        constructor
        · rintro ⟨nested', node', heq, hn⟩
          cases heq
          exact hn.symm
        · rintro rfl
          exact ⟨nested, node, rfl, rfl⟩
      have hrest : ∀ hook, .loaded hook ∉ Job.reply a :: jobs := by
        intro hook hx
        rcases List.mem_cons.mp hx with hx | hx
        · cases hx
        · exact hnone hook (List.mem_cons_of_mem _ hx)
      rw [hevent, hhost, hnext]
      rcases hc.takeLoads (s.nodeId node) with ⟨hhooks, hc'⟩ | ⟨f, g, frame, hhooks, hl⟩
      · rw [hhooks]
        exact .inl ⟨hrest, hc'.exempting fun f _ _ _ _ hnot hx => hnot (hexempt f hx)⟩
      · rw [hhooks]
        exact .inr ⟨f, g, frame, .reply a :: jobs, rfl, hrest, hl.exempting hexempt⟩
    · -- Any other job: its moves leave alone what waits for iframes to load.
      have hfire' : ∀ nested node, job ≠ .act nested (.page (.fireLoad node)) :=
        fun nested node hjob => hfire ⟨nested, node, hjob⟩
      have hloaded : ∀ hook, job ≠ .loaded hook :=
        fun hook hjob => hnone hook (hjob ▸ List.mem_cons_self)
      have hrest : ∀ hook, .loaded hook ∉ jobs :=
        fun hook hx => hnone hook (List.mem_cons_of_mem job hx)
      refine .inl ⟨fun hook => hplain hook (hrest hook) hfire', ?_⟩
      rw [not_fires hagenda hfire']
      have hc' : s.step.host.Coherent delivered exempt := by
        refine (step_reaches hagenda).preserves (fun h m hm hc => ?_) hc
        refine hc.move (keepsLoading_of_makes (fun nested a hjob => ?_) hfire' hloaded hm)
        exact ho.acts nested a (hagenda ▸ hjob ▸ List.mem_cons_self)
      exact hc'.exempting fun f _ _ _ _ hnot hx => hnot (hexempt f hx)
  · -- The hook that follows the load event.
    rw [hagenda] at hagenda'
    cases hagenda'
    have hfire : ∀ nested node, Job.loaded (.connect f g) ≠ .act nested (.page (.fireLoad node)) :=
      fun _ _ h => Job.noConfusion h
    refine .inl ⟨fun hook => hplain hook (hnone hook) hfire, ?_⟩
    rw [not_fires hagenda hfire, step_connect hagenda]
    have hl' := hl.exempting hexempt
    split
    · exact hl'.connect
    · next hlive =>
      exact hl'.of_exempt (hdead f frame hl.present (Bool.not_eq_true _ ▸ hlive))

/-- Before its first operation a session has no frames, and nothing waits. -/
structure Fresh (s : Session) : Prop where
  agenda : s.agenda = []
  calls : s.calls = Table.empty
  frames : s.host.frames = []
  checks : s.host.checks = []
  loads : s.host.page.loads = Table.empty
  listeners : s.host.page.listeners = Table.empty

/-- A session starts fresh. -/
theorem fresh_start (origin : String) (allowList : Option AllowList) (defaults : Config)
    (runtime : Bool) (scripts : List (List Action)) :
    (start origin allowList defaults runtime scripts).Fresh := ⟨rfl, rfl, rfl, rfl, rfl, rfl⟩

/-- A fresh session is within any frames, having none. -/
theorem Fresh.within (hs : s.Fresh) : s.Within fun _ => True where
  names _ _ := trivial
  calls held hheld := by
    rw [hs.calls] at hheld
    exact absurd hheld List.not_mem_nil
  agenda job hjob := by
    rw [hs.agenda] at hjob
    exact absurd hjob List.not_mem_nil
  host :=
    { registry := fun _ _ => trivial
      checks := fun c hc => by
        rw [hs.checks] at hc
        exact absurd hc List.not_mem_nil
      newer := fun _ _ => trivial }

/-- A fresh session is orderly when nothing has been delivered. -/
theorem Fresh.orderly (hs : s.Fresh)
    (hscripts : ∀ script ∈ s.scripts, ∀ a ∈ script, a.leavesHooks = true)
    (hdelivered : ∀ f n, ¬ delivered f n) : Orderly delivered exempt s := by
  -- No frame, no listener and no hook: every clause is about nothing.
  have hframe : ∀ f frame, s.host.frame? f ≠ some frame := by
    intro f frame hf
    unfold Host.frame? at hf
    rw [hs.frames] at hf
    cases hf
  have hlistener : ∀ id l, s.host.page.listeners.get? id ≠ some l := by
    intro id l hl
    rw [hs.listeners] at hl
    cases hl
  have hhook : ∀ n hooks, s.host.page.loads.get? n ≠ some hooks := by
    intro n hooks hn
    rw [hs.loads] at hn
    cases hn
  refine ⟨fun nested a hx => ?_, hscripts, .inl ⟨fun hook hx => ?_, ?_⟩⟩
  · rw [hs.agenda] at hx
    exact absurd hx List.not_mem_nil
  · rw [hs.agenda] at hx
    exact absurd hx List.not_mem_nil
  · exact {
      sound := fun f frame hf => absurd hf (hframe f frame)
      listeners := fun id f =>
        ⟨fun hl => absurd hl (hlistener id _), fun ⟨frame, hf, _⟩ => absurd hf (hframe f frame)⟩
      listener_le := fun id l hl => absurd hl (hlistener id l)
      iframe_le := fun f frame _ hf => absurd hf (hframe f frame)
      hook_le := fun n hooks hn => absurd hn (hhook n hooks)
      hook := fun n hooks hn => absurd hn (hhook n hooks)
      delivered_le := fun f n hd => absurd hd (hdelivered f n)
      loading := fun f frame _ hf => absurd hf (hframe f frame) }

end Steps

/-! ## Consistent frames -/

/-- A session is orderly in every state of a run, the frames out of use exempted. -/
theorem orderly_after (hs : s.Fresh)
    (hscripts : ∀ script ∈ s.scripts, ∀ a ∈ script, a.leavesHooks = true)
    (has : ∀ a ∈ as, a.leavesHooks = true) (i : ℕ) :
    Orderly (s.Delivered as i) (s.after as i).OutOfUse (s.after as i) := by
  induction i with
  | zero => exact hs.orderly hscripts fun f n ⟨j, hj, _⟩ => absurd hj (Nat.not_lt_zero j)
  | succ i ih =>
    have hmono : ∀ f, (s.after as i).OutOfUse f → (s.after as (i + 1)).OutOfUse f :=
      fun f h => h.after_succ hs.within
    rw [delivered_succ]
    rcases after_succ s as i with ⟨hne, h⟩ | ⟨a, ha, hempty, h⟩ | ⟨hempty, h⟩
    · obtain ⟨job, jobs, hagenda⟩ := List.exists_cons_of_ne_nil hne
      -- A hook does nothing for a frame that is out of use, and such a frame stays so.
      have hdead : ∀ f frame, (s.after as i).host.frame? f = some frame →
          (s.after as i).isLive f = false → (s.after as (i + 1)).OutOfUse f := by
        intro f frame hf hlive
        exact hmono f ⟨hlive, (List.getElem?_eq_some_iff.mp hf).1⟩
      rw [h] at hmono hdead ⊢
      exact ih.step hagenda hmono hdead
    · rw [h] at hmono
      rw [h, not_fires_nil hempty]
      exact (ih.exempting hempty hmono).begin hempty (has a ha)
    · rw [h, not_fires_nil hempty]
      exact ih

/-- Every state of a run is consistent. The parts of each frame agree; the listeners of the page that
are those of frames are those that the frames have recorded; and unless a load event has just been
fired, a frame in use is connected exactly if the load event of its iframe has been fired. -/
theorem frames_consistent (hs : s.Fresh)
    (hscripts : ∀ script ∈ s.scripts, ∀ a ∈ script, a.leavesHooks = true)
    (has : ∀ a ∈ as, a.leavesHooks = true) (i : ℕ) :
    (∀ f frame, (s.after as i).host.frame? f = some frame → frame.Sound) ∧
      (∀ id f, (s.after as i).host.page.listeners.get? id = some (.frame f) ↔
        ∃ frame, (s.after as i).host.frame? f = some frame ∧ frame.listener = some id) ∧
      ((∀ hook, .loaded hook ∉ (s.after as i).agenda) → ∀ f frame,
        (s.after as i).host.frame? f = some frame → (s.after as i).isLive f = true →
          (frame.bus.connected = true ↔ ∃ n, frame.iframe? = some n ∧ s.Delivered as i f n)) := by
  have ho := orderly_after hs hscripts has i
  obtain ⟨exempt, hc⟩ : ∃ exempt, (s.after as i).host.Coherent (s.Delivered as i) exempt := by
    rcases ho.loading with ⟨-, hc⟩ | ⟨f, g, frame, jobs, -, -, hl⟩
    · exact ⟨_, hc⟩
    · exact ⟨_, hl.coherent⟩
  refine ⟨hc.sound, hc.listeners, fun hquiet f frame hf hlive => ?_⟩
  have hused : ¬ (s.after as i).OutOfUse f := by
    rintro ⟨hnot, -⟩
    rw [hlive] at hnot
    cases hnot
  -- No hook is the next job, so nothing is exempt but what is out of use.
  rcases ho.loading with ⟨-, hc⟩ | ⟨f', g, frame', jobs, hagenda, -⟩
  · constructor
    · intro hconnected
      obtain ⟨n, hn⟩ := (hc.sound f frame hf).exists_iframe hconnected
      rcases hc.loading f frame n hf hn hused with ⟨-, hd, -⟩ | ⟨hnot, -⟩
      · exact ⟨n, hn, hd⟩
      · rw [hnot] at hconnected
        cases hconnected
    · rintro ⟨n, hn, hd⟩
      rcases hc.loading f frame n hf hn hused with ⟨hconnected, -⟩ | ⟨-, hnot, -⟩
      · exact hconnected
      · exact absurd hd hnot
  · exact absurd (hagenda ▸ List.mem_cons_self) (hquiet (.connect f' g))

/-- A session without host code. -/
def visit : Session := start "https://host.example.com" none Config.empty false []

/-- A frame is mounted, and its iframe loads. -/
def visiting : List Action :=
  [.page (.insert "ds-frame" "slot"), .frame (.openFrame "A" none (.ok Config.empty)),
    .page (.fireLoad (.iframeOf "A"))]

/-- When the hook of the iframe has run, the frame is connected. -/
theorem frames_consistent_visit : ∃ frame n, (visit.after visiting 9).host.frame? 0 = some frame ∧
    frame.bus.connected = true ∧ frame.iframe? = some n ∧ visit.Delivered visiting 9 0 n := by
  have hbus : ((visit.after visiting 9).host.frame? 0).map (fun frame => frame.bus.connected) =
      some true := by decide
  obtain ⟨frame, hf, hconnected⟩ := Option.map_eq_some_iff.mp hbus
  have hquiet : ∀ hook, Job.loaded hook ∉ (visit.after visiting 9).agenda := fun _ hx => by
    cases hx
  have hscripts : ∀ script ∈ visit.scripts, ∀ a ∈ script, a.leavesHooks = true := by decide
  have has : ∀ a ∈ visiting, a.leavesHooks = true := by decide
  obtain ⟨-, -, hloaded⟩ := frames_consistent (fresh_start _ _ _ _ _) hscripts has 9
  obtain ⟨n, hn, hd⟩ := (hloaded hquiet 0 frame hf (by decide)).mp hconnected
  exact ⟨frame, n, hf, hconnected, hn, hd⟩

end Session

end FrameHost
