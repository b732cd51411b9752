import FrameHost.Proofs.Followups

/-!
# What a job puts on the agenda

A job puts what follows from it in front of the jobs that wait, and only a panic drops any of those.
This module says what the new jobs are: nothing but the reply to a call of a bus of the session's
own asks for the next task of that bus to be posted (`perform_agenda`, `agenda_actBus_reply`), and a
job whose panic could reach beyond what it puts there is of one of a few kinds (`Job.mayPanic`).
-/

namespace FrameHost

open Json (Value)

/-! ## Kinds of jobs -/

/-- Whether a panic can come out of a job; one that calls host code behind a fence lets none out. -/
def Job.mayPanic : Job → Bool
  | .act _ _ | .raise | .invoke _ _ | .loaded _ | .paint _ | .painted _ | .deliver _ _ _ => true
  | .note _ | .fence | .follow _ | .hold _ | .sweep _ | .keep _ _ | .reply _ => false

/-- Whether a job is an operation or a hook. -/
def Job.isActOrHook : Job → Bool
  | .act _ _ | .loaded _ | .painted _ => true
  | _ => false

/-- Whether a job ends the way of a panic. -/
def Job.isFence : Job → Bool
  | .fence => true
  | _ => false

/-! ## What is put on the agenda -/

namespace Session

/-- Jobs that a panic can come out of only behind a fence, and that post nothing for a bus of the
session's own. -/
structure Calm (jobs : List Job) : Prop where
  noPanic : ∀ x ∈ jobs, x.mayPanic = false
  noPost : ∀ x ∈ jobs, ∀ n, x.usesBus n = false

/-- Adding nothing is calm. -/
theorem calm_nil : Calm [] where
  noPanic _ hx := absurd hx List.not_mem_nil
  noPost _ hx := absurd hx List.not_mem_nil

/-- Calm jobs stay calm when they are put one list after the other. -/
theorem Calm.append {js ks : List Job} (hj : Calm js) (hk : Calm ks) : Calm (js ++ ks) where
  noPanic x hx := (List.mem_append.mp hx).elim (hj.noPanic x) (hk.noPanic x)
  noPost x hx := (List.mem_append.mp hx).elim (hj.noPost x) (hk.noPost x)

/-- A job that cannot panic and touches no bus is calm on its own. -/
theorem calm_singleton {x : Job} (hpanic : x.mayPanic = false) (hpost : ∀ n, x.usesBus n = false) :
    Calm [x] where
  noPanic y hy := by
    rw [List.mem_singleton.mp hy]
    exact hpanic
  noPost y hy := by
    rw [List.mem_singleton.mp hy]
    exact hpost

/-- An answer to the caller is calm. -/
theorem calm_reply (a : Answer) : Calm [.reply a] := calm_singleton rfl fun _ => rfl

/-- Taking hold of a frame is calm. -/
theorem calm_hold (f : FrameRef) : Calm [.hold f] := calm_singleton rfl fun _ => rfl

/-- Keeping a call under a name is calm. -/
theorem calm_keep (name : String) (c : Call) : Calm [.keep name c] :=
  calm_singleton rfl fun _ => rfl

/-- The sweep of the frames is calm. -/
theorem calm_sweep (n : ℕ) : Calm [.sweep n] := calm_singleton rfl fun _ => rfl

/-- What operations on frames leave to be done is calm. -/
theorem calm_followups {f : FrameRef} {xs : List Followup} (hxs : ∀ x ∈ xs, x.OfFrame f) :
    Calm (xs.map .follow) where
  noPanic x hx := by
    obtain ⟨y, -, rfl⟩ := List.mem_map.mp hx
    rfl
  noPost x hx n := by
    obtain ⟨y, hy, rfl⟩ := List.mem_map.mp hx
    exact (hxs y hy).usesBus n

/-- `t` has jobs of a kind in front of the agenda of `s`, and no scripts besides those of `s`. -/
structure Adds (kind : List Job → Prop) (s t : Session) : Prop where
  jobs : ∃ js, t.agenda = js ++ s.agenda ∧ kind js
  scripts : ∀ script ∈ t.scripts, script ∈ s.scripts ∨ script = []

/-- A step that puts jobs of one kind in front of the agenda, and keeps the scripts, adds jobs of
that kind. -/
theorem Adds.of {kind : List Job → Prop} {s t : Session} (js : List Job)
    (hjs : t.agenda = js ++ s.agenda) (hscripts : t.scripts = s.scripts) (hk : kind js) :
    Adds kind s t where
  jobs := ⟨js, hjs, hk⟩
  scripts _ hx := .inl (hscripts ▸ hx)

/-- A step that leaves the agenda and the scripts alone adds only calm jobs, none at all. -/
theorem Adds.nothing {s t : Session} (h : t.agenda = s.agenda) (hscripts : t.scripts = s.scripts) :
    Adds Calm s t := Adds.of [] h hscripts calm_nil

/-- What is added is of every kind that covers the kind proved. -/
theorem Adds.mono {kind kind' : List Job → Prop} {s t : Session} (h : Adds kind s t)
    (hk : ∀ js, kind js → kind' js) : Adds kind' s t := by
  obtain ⟨⟨js, hjs, hkind⟩, hscripts⟩ := h
  exact ⟨⟨js, hjs, hk js hkind⟩, hscripts⟩

/-- What follows from an operation on a frame is calm. -/
theorem Adds.follow {s t : Session} {f : FrameRef} {xs : List Followup} {rest : List Job}
    (h : t.agenda = s.agenda) (hscripts : t.scripts = s.scripts) (hxs : ∀ x ∈ xs, x.OfFrame f)
    (hrest : Calm rest) :
    Adds Calm s (t.follow f xs rest) := by
  refine Adds.of (xs.map .follow ++ .hold f :: rest) ?_ hscripts ?_
  · show (xs.map .follow ++ .hold f :: rest) ++ t.agenda = _
    rw [h]
  · exact (calm_followups hxs).append ((calm_hold f).append hrest)

/-! ## Names -/

section Names

variable {P : Session → Prop} {s : Session}

/-- What is done with a frame by its name. -/
theorem onFrame_cases {name : String} {go : FrameRef → Session} (hno : P (s.refuse .noFrame))
    (hgo : ∀ f, s.frames.get? name = some f → P (go f)) : P (s.onFrame name go) := by
  unfold onFrame
  split
  · exact hno
  · next f hf => exact hgo f hf

/-- On a name that stands for a frame, an action is the action on that frame. -/
theorem onFrame_of_some {name : String} {f : FrameRef} (hf : s.frames.get? name = some f)
    (go : FrameRef → Session) : s.onFrame name go = go f := by
  unfold onFrame
  rw [hf]

/-- What is done with a bus by its name. -/
theorem onBus_cases {name : String} {go : ℕ → Bus → Session} (hno : P (s.refuse .noBus))
    (hgo : ∀ n b, s.buses.get? name = some n → s.host.buses[n]? = some b → P (go n b)) :
    P (s.onBus name go) := by
  unfold onBus
  split
  · exact hno
  · next n b h =>
    obtain ⟨m, hm, h⟩ := Option.bind_eq_some_iff.mp h
    obtain ⟨c, hc, h⟩ := Option.map_eq_some_iff.mp h
    obtain ⟨rfl, rfl⟩ := Prod.mk.inj h
    exact hgo _ _ hm hc

/-- What comes of a task that is given to a bus. The receiver says where the answer goes, and may
open a channel for it; then the bus refuses the task or takes it. -/
theorem executeBus_cases {n : ℕ} {task : Task} {receiver : Receiver}
    {Q : Session → Responder → Prop}
    (hcallback : ∀ cb, receiver = .callback cb → Q s (.callback cb))
    (hignore : receiver = .ignore → Q s .ignore)
    (hcall : ∀ name, receiver = .call name →
      Q ((s.withHost s.host.newChannel.1).keep name (.call (.waiting s.host.newChannel.2)))
        (.channel s.host.newChannel.2))
    (hrefused : ∀ t responder e, Q t responder →
      t.host.execute (.bare n) task responder = .error e → P (t.reply (.error e)))
    (htaken : ∀ t responder h, Q t responder →
      t.host.execute (.bare n) task responder = .ok h → P ((t.withHost h).reply .ok)) :
    P (s.executeBus n task receiver) := by
  -- The call itself, once the receiver is ready.
  have hgive : ∀ t responder, Q t responder → ∀ u : Session,
      (∀ e, t.host.execute (.bare n) task responder = .error e → u = t.reply (.error e)) →
      (∀ h, t.host.execute (.bare n) task responder = .ok h → u = (t.withHost h).reply .ok) →
      P u := by
    intro t responder hq u herror hok
    cases hx : t.host.execute (.bare n) task responder with
    | error e => exact herror e hx ▸ hrefused t responder e hq hx
    | ok h => exact hok h hx ▸ htaken t responder h hq hx
  unfold executeBus
  cases receiver with
  | callback cb =>
    refine hgive s (.callback cb) (hcallback cb rfl) _ ?_ ?_ <;> intro _ hx <;> simp only [hx]
  | ignore => refine hgive s .ignore (hignore rfl) _ ?_ ?_ <;> intro _ hx <;> simp only [hx]
  | call name => refine hgive _ _ (hcall name rfl) _ ?_ ?_ <;> intro _ hx <;> simp only [hx]

/-- What is done with a bus that is found by its name. -/
theorem onBus_of_some {name : String} {n : ℕ} {b : Bus} (hn : s.buses.get? name = some n)
    (hb : s.host.buses[n]? = some b) (go : ℕ → Bus → Session) : s.onBus name go = go n b := by
  unfold onBus
  rw [hn, Option.bind_some, hb]
  rfl

/-- What is done with a cache by its name. -/
theorem onCache_cases {name : CacheName} {go : CacheRef → Session} (hno : P (s.refuse .noFrame))
    (hgo : ∀ r, s.cacheRef? name = some r → P (go r)) : P (s.onCache name go) := by
  unfold onCache
  split
  · exact hno
  · next r hr => exact hgo r hr

/-- What is done with something that may be no configuration. -/
theorem onConfig_cases {config : Configuration} {go : Config → Session}
    (hno : ∀ e, config = .error e → P (s.reply (.error e)))
    (hgo : ∀ c, config = .ok c → P (go c)) : P (s.onConfig config go) := by
  cases config with
  | error e => exact hno e rfl
  | ok c => exact hgo c rfl

end Names

/-! ## Operations -/

variable {s : Session}

/-- The actions on a cache add only calm jobs. -/
theorem adds_actCache (name : CacheName) (a : CacheAction) : Adds Calm s (s.actCache name a) := by
  unfold actCache
  refine onCache_cases (Adds.nothing rfl rfl) fun r _ => ?_
  cases a <;> dsimp only
  case path | iframe | loader | has =>
    exact onConfig_cases (fun _ _ => Adds.nothing rfl rfl) fun _ _ => Adds.nothing rfl rfl
  case forget => exact Adds.nothing rfl rfl
  case count => exact Adds.nothing rfl rfl

/-- Executing on a bare bus adds no job. -/
theorem agenda_executeBus (n : ℕ) (task : Task) (receiver : Receiver) :
    (s.executeBus n task receiver).agenda = s.agenda :=
  executeBus_cases (P := fun t => t.agenda = s.agenda) (Q := fun t _ => t.agenda = s.agenda)
    (fun _ _ => rfl) (fun _ => rfl) (fun _ _ => rfl) (fun _ _ _ ht _ => ht) fun _ _ _ ht _ => ht

/-- Operations on buses put nothing on the agenda, replies apart. -/
theorem agenda_actBus (name : String) (a : BusAction) (ha : ∀ data, a ≠ .reply data) :
    (s.actBus name a).agenda = s.agenda := by
  unfold actBus
  cases a with
  | make => rfl
  | attach frameId node origin =>
    exact onBus_cases (P := fun t => t.agenda = s.agenda) rfl fun _ _ _ _ => rfl
  | connect => exact onBus_cases (P := fun t => t.agenda = s.agenda) rfl fun _ _ _ _ => rfl
  | reset => exact onBus_cases (P := fun t => t.agenda = s.agenda) rfl fun _ _ _ _ => rfl
  | execute method data receiver =>
    exact onBus_cases (P := fun t => t.agenda = s.agenda) rfl fun n _ _ _ =>
      agenda_executeBus n _ receiver
  | reply data => exact absurd rfl (ha data)

/-- The actions on a bare bus keep the scripts. -/
theorem scripts_actBus (name : String) (a : BusAction) : (s.actBus name a).scripts = s.scripts := by
  have honBus : ∀ go, (∀ n b, (go n b).scripts = s.scripts) →
      (s.onBus name go).scripts = s.scripts :=
    fun go hgo => onBus_cases (P := fun t => t.scripts = s.scripts) rfl fun n b _ _ => hgo n b
  unfold actBus
  cases a with
  | make => rfl
  | attach | connect | reset => exact honBus _ fun _ _ => rfl
  | execute method data receiver =>
    exact honBus _ fun n b =>
      executeBus_cases (P := fun t => t.scripts = s.scripts) (Q := fun t _ => t.scripts = s.scripts)
        (fun _ _ => rfl) (fun _ => rfl) (fun _ _ => rfl) (fun _ _ _ ht _ => ht) fun _ _ _ ht _ => ht
  | reply data => exact honBus _ fun _ _ => rfl

/-- The actions on a frame add only calm jobs of their own. -/
theorem adds_actFrame (a : FrameAction) : Adds Calm s (s.actFrame a) := by
  unfold actFrame
  cases a <;> dsimp only
  case openFrame name mode config =>
    exact onConfig_cases (fun _ _ => Adds.nothing rfl rfl) fun _ _ => Adds.nothing rfl rfl
  case newFrame => exact Adds.nothing rfl rfl
  case mount name config =>
    refine onFrame_cases (Adds.nothing rfl rfl) fun f _ => ?_
    exact onConfig_cases (fun _ _ => Adds.nothing rfl rfl) fun _ _ => Adds.nothing rfl rfl
  case destroy name => exact onFrame_cases (Adds.nothing rfl rfl) fun _ _ => Adds.nothing rfl rfl
  case showContent name =>
    exact onFrame_cases (Adds.nothing rfl rfl) fun f _ =>
      Adds.follow rfl rfl Host.ofFrame_showContent (calm_reply _)
  -- An operation that follows up ends in its answer, and a call is kept before it.
  case configure name config call =>
    refine onFrame_cases (Adds.nothing rfl rfl) fun f _ => ?_
    refine onConfig_cases (fun _ _ => Adds.nothing rfl rfl) fun c _ => ?_
    exact Adds.follow rfl rfl Host.ofFrame_configure ((calm_keep _ _).append (calm_reply _))
  case getConfig name => exact onFrame_cases (Adds.nothing rfl rfl) fun _ _ => Adds.nothing rfl rfl
  case handlers name => exact onFrame_cases (Adds.nothing rfl rfl) fun _ _ => Adds.nothing rfl rfl
  case handle name data =>
    exact onFrame_cases (Adds.nothing rfl rfl) fun f _ =>
      Adds.follow rfl rfl Host.ofFrame_handle (calm_reply _)
  case call name method call =>
    exact onFrame_cases (Adds.nothing rfl rfl) fun f _ =>
      Adds.follow rfl rfl Host.ofFrame_call ((calm_keep _ _).append (calm_reply _))
  case callByName name method params cb =>
    exact onFrame_cases (Adds.nothing rfl rfl) fun f _ =>
      Adds.follow rfl rfl Host.ofFrame_callByName (calm_reply _)
  case registerCommand name command cb =>
    refine onFrame_cases (Adds.nothing rfl rfl) fun f _ => ?_
    split <;> exact Adds.nothing rfl rfl
  case hasCommand name command =>
    exact onFrame_cases (Adds.nothing rfl rfl) fun _ _ => Adds.nothing rfl rfl
  case same name other =>
    refine onFrame_cases (Adds.nothing rfl rfl) fun f _ => ?_
    exact onFrame_cases (Adds.nothing rfl rfl) fun _ _ => Adds.nothing rfl rfl
  case forget name => exact Adds.nothing rfl rfl
  case namesOf frameId => exact Adds.nothing rfl rfl

/-- The end of a check adds what its caller goes on with, and that is calm. -/
theorem adds_endCheck {t : Session} (ht : t.agenda = s.agenda) (hscripts : t.scripts = s.scripts)
    (c : Check)
    {rest : Except Error Unit → List Job} (hrest : ∀ r, Calm (rest r)) :
    Adds Calm s (t.endCheck c rest) := by
  unfold endCheck
  exact Adds.follow ht hscripts Host.ofFrame_endCheck (hrest _)

/-- A check that moves on adds only calm jobs, whether it waits again or is over. -/
theorem adds_moveCheck {t : Session} (ht : t.agenda = s.agenda) (hscripts : t.scripts = s.scripts)
    (f : FrameRef) (state : CheckState) {wait : Session → Check → Session}
    {rest : Except Error Unit → List Job}
    (hwait : ∀ u c, u.agenda = s.agenda → u.scripts = s.scripts → Adds Calm s (wait u c))
    (hrest : ∀ r, Calm (rest r)) :
    Adds Calm s (t.moveCheck f state wait rest) := by
  -- Without a check to make the rest is all that is added.
  have hpush : Adds Calm s (t.push (rest (.ok ()))) :=
    Adds.of (rest (.ok ())) (by rw [← ht]; rfl) hscripts (hrest _)
  unfold moveCheck
  cases state with
  | ended => exact hpush
  | fresh =>
    dsimp only
    split
    · exact hpush
    · next c _ =>
      have hrecord : (t.record (.fetched c.src)).agenda = s.agenda := ht
      split
      · exact hwait _ c hrecord hscripts
      · exact adds_endCheck hrecord hscripts c hrest
  | waiting c =>
    dsimp only
    split
    · exact hwait _ c ht hscripts
    · exact adds_endCheck ht hscripts c hrest

/-- The actions on a kept call add only calm jobs. -/
theorem adds_actCall (nested : Bool) (a : CallAction) : Adds Calm s (s.actCall nested a) := by
  unfold actCall
  cases a <;> dsimp only
  case poll name =>
    split
    · exact Adds.nothing rfl rfl
    · unfold pollCall
      split
      · exact Adds.nothing rfl rfl
      · split <;> exact Adds.nothing rfl rfl
    · -- The check that is polled holds its frame until its outcome is told.
      next f state _ =>
      have hdrop : (s.drop name).agenda = s.agenda := rfl
      refine adds_moveCheck hdrop rfl f state (fun u c hu hu' => Adds.nothing hu hu') fun r => ?_
      exact (calm_hold f).append (calm_reply _)
  case pollAs name shape =>
    split
    · unfold pollCallAs
      dsimp only
      split <;> exact Adds.nothing rfl rfl
    · exact Adds.nothing rfl rfl
  case settled name answer => exact Adds.nothing rfl rfl
  case drop name => exact Adds.nothing rfl rfl
  case check frame call => exact onFrame_cases (Adds.nothing rfl rfl) fun _ _ => Adds.nothing rfl rfl
  case setGate isOpen => exact Adds.nothing rfl rfl
  case settle =>
    split
    · exact Adds.nothing rfl rfl
    · unfold settle
      split
      · exact Adds.of [.sweep 0] rfl rfl (calm_sweep 0)
      · exact Adds.nothing rfl rfl

/-- The sweep of the frames adds only calm jobs. -/
theorem adds_sweep (start : ℕ) : Adds Calm s (s.sweep start) := by
  unfold sweep
  split
  · next n c _ =>
    have hended : (s.setCheck n .ended).agenda = s.agenda := rfl
    dsimp only
    split
    · exact Adds.of [.sweep (n + 1)] rfl rfl (calm_sweep _)
    · refine adds_moveCheck hended rfl c.frame c.state (fun u c' hu hu' => ?_) fun _ => calm_sweep _
      exact Adds.of [.sweep (n + 1)] (by rw [← hu]; rfl) hu' (calm_sweep _)
  · split
    · exact Adds.nothing rfl rfl
    · exact Adds.of [.sweep 0] rfl rfl (calm_sweep 0)

/-- Jobs that post nothing for a bus of the session's own. -/
def PostsNothing (jobs : List Job) : Prop := ∀ x ∈ jobs, ∀ n, x.usesBus n = false

/-- Jobs that post nothing, and that carry out only what scripts of `s` say; hooks are among them
only if `job` fires the load event of an iframe, or is the paint that they wait for. -/
structure Risky (s : Session) (job : Job) (js : List Job) : Prop where
  noPost : PostsNothing js
  acts : ∀ nested a, .act nested a ∈ js → ∃ script ∈ s.scripts, a ∈ script
  loads : ∀ hook, .loaded hook ∈ js → ∃ nested node, job = .act nested (.page (.fireLoad node))
  paints : ∀ hook, .painted hook ∈ js → ∃ ran, job = .paint ran

/-- Calm jobs are within what any job may add. -/
theorem Risky.of_calm {job : Job} {js : List Job} (h : Calm js) : Risky s job js where
  noPost := h.noPost
  acts _ _ hx := absurd (h.noPanic _ hx) Bool.noConfusion
  loads _ hx := absurd (h.noPanic _ hx) Bool.noConfusion
  paints _ hx := absurd (h.noPanic _ hx) Bool.noConfusion

/-- Jobs that are neither posts, operations nor hooks. -/
theorem Risky.of_other {job : Job} {js : List Job} (hpost : PostsNothing js)
    (hother : ∀ x ∈ js, x.isActOrHook = false) : Risky s job js where
  noPost := hpost
  acts _ _ hx := absurd (hother _ hx) Bool.noConfusion
  loads _ hx := absurd (hother _ hx) Bool.noConfusion
  paints _ hx := absurd (hother _ hx) Bool.noConfusion

/-- An answer may follow. -/
theorem Risky.append_reply {job : Job} {js : List Job} (a : Answer) (h : Risky s job js) :
    Risky s job (js ++ [.reply a]) := by
  have hreply : Risky s job [.reply a] := Risky.of_calm (calm_reply a)
  refine ⟨fun x hx => ?_, fun nested b hx => ?_, fun hook hx => ?_, fun hook hx => ?_⟩
  · exact (List.mem_append.mp hx).elim (h.noPost x) (hreply.noPost x)
  · exact (List.mem_append.mp hx).elim (h.acts nested b) (hreply.acts nested b)
  · exact (List.mem_append.mp hx).elim (h.loads hook) (hreply.loads hook)
  · exact (List.mem_append.mp hx).elim (h.paints hook) (hreply.paints hook)

/-- The actions on the page add at most the callbacks and panics that the job itself may raise. -/
theorem adds_actPage (nested : Bool) (a : PageAction) :
    Adds (Risky s (.act nested (.page a))) s (s.actPage a) := by
  have hnothing : ∀ {t : Session}, t.agenda = s.agenda → t.scripts = s.scripts →
      Adds (Risky s (.act nested (.page a))) s t :=
    fun h h' => (Adds.nothing h h').mono fun _ hc => Risky.of_calm hc
  unfold actPage
  cases a <;> dsimp only
  case fireLoad node =>
    -- Firing a load adds the hooks that waited, which is what makes it risky.
    have hhooks : ∀ x ∈ (s.host.page.takeLoads (s.nodeId node)).1.map Job.loaded,
        ∃ hook, x = .loaded hook := by
      intro x hx
      obtain ⟨hook, -, rfl⟩ := List.mem_map.mp hx
      exact ⟨hook, rfl⟩
    refine Adds.of _ rfl rfl (Risky.append_reply _
      ⟨fun x hx n => ?_, fun _ _ hx => ?_, fun _ _ => ⟨nested, node, rfl⟩, fun _ hx => ?_⟩)
    · obtain ⟨hook, rfl⟩ := hhooks x hx
      rfl
    · obtain ⟨hook, hx⟩ := hhooks _ hx
      cases hx
    · obtain ⟨hook, hx⟩ := hhooks _ hx
      cases hx
  case flushPaint =>
    refine Adds.of [.paint 0] rfl rfl (Risky.of_other (fun x hx n => ?_) fun x hx => ?_)
    · rw [List.mem_singleton.mp hx]
      rfl
    · rw [List.mem_singleton.mp hx]
      rfl
  case dispatch | dispatchJson =>
    refine Adds.of _ rfl rfl
      (Risky.append_reply _ (Risky.of_other (fun x hx n => ?_) fun x hx => ?_))
    · obtain ⟨l, -, rfl⟩ := List.mem_map.mp hx
      rfl
    · obtain ⟨l, -, rfl⟩ := List.mem_map.mp hx
      rfl
  all_goals exact hnothing rfl rfl

/-! ## Jobs -/

/-- The jobs of a piece of host code. -/
theorem risky_script (cb : Callback) (job : Job) : Risky s job (s.script cb) := by
  -- A script is made of operations with a note after each, and perhaps a panic at its end.
  have hcases : ∀ x ∈ s.script cb, (∃ script ∈ s.scripts, ∃ a ∈ script, x = .act true a) ∨
      x = .note cb.tag ∨ x = .raise := by
    intro x hx
    unfold script at hx
    rcases List.mem_append.mp hx with hx | hx
    · obtain ⟨a, ha, hx⟩ := List.mem_flatMap.mp hx
      rcases List.mem_cons.mp hx with rfl | hx
      · cases hscript : s.scripts[cb.script]? with
        | none =>
          rw [hscript] at ha
          exact absurd ha List.not_mem_nil
        | some script =>
          rw [hscript] at ha
          exact .inl ⟨script, List.mem_of_getElem? hscript, a, ha, rfl⟩
      · exact .inr (.inl (List.mem_singleton.mp hx))
    · split at hx
      · exact .inr (.inr (List.mem_singleton.mp hx))
      · exact absurd hx List.not_mem_nil
  refine ⟨fun x hx n => ?_, fun nested a hx => ?_, fun hook hx => ?_, fun hook hx => ?_⟩
  · rcases hcases x hx with ⟨script, -, a, -, rfl⟩ | rfl | rfl <;> rfl
  · -- An operation is one of the script, and a note or a panic is none.
    rcases hcases _ hx with ⟨script, hscript, b, hb, h⟩ | h | h
    · cases h
      exact ⟨script, hscript, hb⟩
    · cases h
    · cases h
  · rcases hcases _ hx with ⟨script, -, a, -, h⟩ | h | h <;> cases h
  · rcases hcases _ hx with ⟨script, -, a, -, h⟩ | h | h <;> cases h

/-- The hook of a frame on a paint. -/
theorem adds_runPaintHook {hook : PaintHook} (hhook : ∀ cb, hook ≠ .host cb) :
    Adds Calm s (s.runPaintHook hook) := by
  unfold runPaintHook
  cases hook with
  | host cb => exact absurd rfl (hhook cb)
  | fade f g l =>
    dsimp only
    split <;> exact Adds.nothing rfl rfl
  | retire f g l =>
    dsimp only
    split
    · exact Adds.follow rfl rfl Host.ofFrame_retireLoader calm_nil
    · exact Adds.nothing rfl rfl

/-- What a job puts on the agenda: calm jobs; or risky ones, if a panic can come out of it; or a call
of host code behind a fence. -/
def Harmless (s : Session) (job : Job) (js : List Job) : Prop :=
  Calm js ∨ (job.mayPanic = true ∧ Risky s job js) ∨ ∃ cb v, js = [.invoke cb v, .fence]

/-- A job that is neither a panic nor a reply on a bus of the session's own puts harmless jobs in
front of those that wait. -/
theorem perform_agenda (job : Job) (hraise : job ≠ .raise)
    (hreply : ∀ nested name data, job ≠ .act nested (.bus name (.reply data))) :
    Adds (Harmless s job) s (s.perform job) := by
  have hcalm : ∀ {t : Session}, Adds Calm s t → Adds (Harmless s job) s t :=
    fun h => h.mono fun _ => Or.inl
  have hrisky : ∀ {t : Session}, job.mayPanic = true → Adds (Risky s job) s t →
      Adds (Harmless s job) s t := fun hj h => h.mono fun _ hjs => .inr (.inl ⟨hj, hjs⟩)
  have hcall : ∀ cb v, Risky s job [.invoke cb v] := by
    intro cb v
    refine Risky.of_other (fun x hx n => ?_) fun x hx => ?_
    · rw [List.mem_singleton.mp hx]
      rfl
    · rw [List.mem_singleton.mp hx]
      rfl
  cases job with
  | act nested a =>
    cases a with
    | page a => exact hrisky rfl (adds_actPage nested a)
    | frame a => exact hcalm (adds_actFrame a)
    | call a => exact hcalm (adds_actCall nested a)
    | cache name a => exact hcalm (adds_actCache name a)
    | unknown name => exact hcalm (Adds.nothing rfl rfl)
    | bus name a =>
      have ha : ∀ data, a ≠ .reply data := fun data ha => hreply nested name data (by rw [ha])
      exact hcalm (Adds.nothing (agenda_actBus name a ha) (scripts_actBus name a))
  | note tag => exact hcalm (Adds.nothing rfl rfl)
  | raise => exact absurd rfl hraise
  | fence => exact hcalm (Adds.nothing rfl rfl)
  | invoke cb v =>
    refine hrisky rfl ⟨⟨s.script cb, rfl, risky_script cb _⟩, fun script hscript => ?_⟩
    -- The script that runs is emptied, so it runs once.
    exact List.mem_or_eq_of_mem_set hscript
  | follow x =>
    cases x with
    | invoke cb v =>
      exact Adds.of [.invoke cb v, .fence] rfl rfl (.inr (.inr ⟨cb, v, rfl⟩))
    | showContent f => exact hcalm (Adds.follow rfl rfl Host.ofFrame_showContent calm_nil)
    | postNext r => exact hcalm (Adds.nothing rfl rfl)
  | hold f => exact hcalm (Adds.nothing rfl rfl)
  | loaded hook =>
    cases hook with
    | host cb => exact hrisky rfl (Adds.of [.invoke cb .null] rfl rfl (hcall cb .null))
    | connect f g =>
      refine hcalm ?_
      show Adds Calm s (s.runLoadHook (.connect f g))
      unfold runLoadHook
      dsimp only
      split
      · exact Adds.follow rfl rfl Host.ofFrame_connect calm_nil
      · exact Adds.nothing rfl rfl
  | paint ran =>
    show Adds _ s (s.paint ran)
    unfold paint
    split
    · exact hcalm (Adds.nothing rfl rfl)
    · next hook paints _ =>
      have hjobs : ∀ x ∈ [Job.painted hook, .paint (ran + 1)],
          x = .painted hook ∨ x = .paint (ran + 1) := by
        simp
      refine hrisky rfl (Adds.of [.painted hook, .paint (ran + 1)] rfl rfl
        ⟨fun x hx n => ?_, fun _ _ hx => ?_, fun _ hx => ?_, fun _ _ => ⟨ran, rfl⟩⟩)
      · rcases hjobs x hx with rfl | rfl <;> rfl
      · rcases hjobs _ hx with h | h <;> cases h
      · rcases hjobs _ hx with h | h <;> cases h
  | painted hook =>
    show Adds _ s (s.runPaintHook hook)
    cases hook with
    | host cb => exact hrisky rfl (Adds.of [.invoke cb .null] rfl rfl (hcall cb .null))
    | fade | retire => exact hcalm (adds_runPaintHook fun _ => PaintHook.noConfusion)
  | deliver l origin data =>
    show Adds _ s (s.deliver l origin data)
    unfold deliver
    cases l with
    | host cb =>
      exact hrisky rfl (Adds.of [.invoke cb (messageValue origin data)] rfl rfl (hcall cb _))
    | frame f =>
      dsimp only
      split
      · exact hcalm (Adds.follow rfl rfl Host.ofFrame_handle calm_nil)
      · exact hcalm (Adds.nothing rfl rfl)
  | sweep start => exact hcalm (adds_sweep start)
  | keep name c => exact hcalm (Adds.nothing rfl rfl)
  | reply a => exact hcalm (Adds.nothing rfl rfl)

/-- A reply on a bus of the session's own asks for the next post of that bus. -/
theorem agenda_actBus_reply {name : String} {n : ℕ} {b : Bus} (hn : s.buses.get? name = some n)
    (hb : s.host.buses[n]? = some b) (data : Option Value) :
    ∃ js, Calm js ∧ (s.actBus name (.reply data)).agenda =
      js ++ .follow (.postNext (.bare n)) :: .reply .done :: s.agenda := by
  have hbus : s.host.bus? (.bare n) = some b := hb
  have hreceived : ∀ x ∈ b.pending.head?.toList.flatMap fun call =>
      (s.host.deliver call.responder (data.getD Value.emptyObject)).2, x.OfFrame 0 := by
    intro x hx
    obtain ⟨call, -, hx⟩ := List.mem_flatMap.mp hx
    exact Host.ofFrame_deliver call.responder x hx
  refine ⟨_, calm_followups hreceived, ?_⟩
  unfold actBus
  simp only [onBus_of_some hn hb]
  show ((s.host.reply (.bare n) data).2.map .follow ++ [.reply .done]) ++ s.agenda = _
  rw [Host.reply_followups hbus]
  simp

/-- A panic drops jobs, up to the first fence and with it; without a fence it drops all of them. -/
theorem agenda_unwind (jobs : List Job) :
    (s.unwind jobs).agenda = (jobs.dropWhile fun x => !x.isFence).tail := by
  induction jobs with
  | nil => rfl
  | cons job jobs ih =>
    cases job <;> first | exact ih | rfl

/-- Unwinding after a panic keeps the scripts. -/
theorem scripts_unwind (jobs : List Job) : (s.unwind jobs).scripts = s.scripts := by
  induction jobs with
  | nil => rfl
  | cons job jobs ih => cases job <;> first | exact ih | rfl

/-! ## Steps -/

/-- A job that is an operation of a script only, and a hook only if `job` fires the load event of an
iframe or is the paint that it waits for. -/
structure Plain (s : Session) (job x : Job) : Prop where
  acts : ∀ nested a, x = .act nested a → ∃ script ∈ s.scripts, a ∈ script
  loads : ∀ hook, x = .loaded hook → ∃ nested node, job = .act nested (.page (.fireLoad node))
  paints : ∀ hook, x = .painted hook → ∃ ran, job = .paint ran

/-- A job that is neither an operation nor a hook. -/
theorem plain_of_isActOrHook {x : Job} (hx : x.isActOrHook = false) (job : Job) : s.Plain job x := by
  refine ⟨?_, ?_, ?_⟩
  · rintro nested a rfl
    cases hx
  · rintro hook rfl
    cases hx
  · rintro hook rfl
    cases hx

/-- A job that no panic can come out of is neither an operation nor a hook. -/
theorem plain_of_mayPanic {x : Job} (hx : x.mayPanic = false) (job : Job) : s.Plain job x := by
  refine plain_of_isActOrHook ?_ job
  cases x <;> first | rfl | cases hx

/-- Jobs that do no harm are plain, each of them. -/
theorem Harmless.plain {job : Job} {js : List Job} (h : Harmless s job js) :
    ∀ x ∈ js, s.Plain job x := by
  rcases h with hcalm | ⟨-, hrisky⟩ | ⟨cb, v, rfl⟩
  · exact fun x hx => plain_of_mayPanic (hcalm.noPanic x hx) job
  · intro x hx
    refine ⟨?_, ?_, ?_⟩
    · rintro nested a rfl
      exact hrisky.acts nested a hx
    · rintro hook rfl
      exact hrisky.loads hook hx
    · rintro hook rfl
      exact hrisky.paints hook hx
  · intro x hx
    rcases List.mem_cons.mp hx with rfl | hx
    · exact plain_of_isActOrHook rfl job
    · exact plain_of_mayPanic (List.mem_singleton.mp hx ▸ rfl) job

/-- A step puts plain jobs in front of those that waited, of which a panic drops some; and there are
no scripts besides those that there were. -/
theorem step_agenda {job : Job} {jobs : List Job} (h : s.agenda = job :: jobs) :
    (∃ js rest, s.step.agenda = js ++ rest ∧ rest.Sublist jobs ∧ ∀ x ∈ js, s.Plain job x) ∧
      ∀ script ∈ s.step.scripts, script ∈ s.scripts ∨ script = [] := by
  rw [step_cons h]
  by_cases hraise : job = .raise
  · -- A panic only drops jobs.
    subst hraise
    refine ⟨⟨[], _, rfl, ?_, fun x hx => absurd hx List.not_mem_nil⟩, fun script hscript => .inl ?_⟩
    · show (Session.unwind _ jobs).agenda.Sublist jobs
      rw [agenda_unwind]
      exact (List.tail_sublist _).trans (List.dropWhile_sublist _)
    · change script ∈ (Session.unwind _ jobs).scripts at hscript
      rwa [scripts_unwind] at hscript
  · by_cases hreply : ∃ nested name data, job = .act nested (.bus name (.reply data))
    · -- A reply on a bus: its receiver, the next post and an answer, none of which is an operation.
      obtain ⟨nested, name, data, rfl⟩ := hreply
      refine ⟨?_, fun script hscript => .inl ?_⟩
      · refine onBus_cases (P := fun t => ∃ js rest, t.agenda = js ++ rest ∧ rest.Sublist jobs ∧
            ∀ x ∈ js, s.Plain _ x)
          ⟨[], jobs, rfl, List.Sublist.refl _, fun x hx => absurd hx List.not_mem_nil⟩
          fun n b _ _ => ⟨_, jobs, rfl, List.Sublist.refl _, fun x hx => plain_of_mayPanic ?_ _⟩
        rcases List.mem_append.mp hx with hx | hx
        · obtain ⟨y, -, rfl⟩ := List.mem_map.mp hx
          rfl
        · exact List.mem_singleton.mp hx ▸ rfl
      · change script ∈ (Session.actBus _ name (.reply data)).scripts at hscript
        rwa [scripts_actBus] at hscript
    · -- Any other job puts its own jobs in front and takes none away.
      have hadds := perform_agenda (s := { s with agenda := jobs }) job hraise
        fun nested name data hjob => hreply ⟨nested, name, data, hjob⟩
      obtain ⟨⟨js, hjs, hkind⟩, hscripts⟩ := hadds
      refine ⟨⟨js, jobs, hjs, List.Sublist.refl _, fun x hx => ?_⟩, hscripts⟩
      have hplain := hkind.plain x hx
      exact ⟨hplain.acts, hplain.loads, hplain.paints⟩

/-- A step leaves jobs that waited and plain ones, and no scripts besides those that there were. -/
theorem step_adds {job : Job} {jobs : List Job} (h : s.agenda = job :: jobs) :
    (∀ x ∈ s.step.agenda, x ∈ jobs ∨ s.Plain job x) ∧
      ∀ script ∈ s.step.scripts, script ∈ s.scripts ∨ script = [] := by
  obtain ⟨⟨js, rest, hagenda, hrest, hplain⟩, hscripts⟩ := step_agenda h
  refine ⟨fun x hx => ?_, hscripts⟩
  rw [hagenda] at hx
  rcases List.mem_append.mp hx with hx | hx
  · exact .inr (hplain x hx)
  · exact .inl (hrest.subset hx)

end Session
end FrameHost
