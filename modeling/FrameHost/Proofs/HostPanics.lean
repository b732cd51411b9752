import FrameHost.Proofs.HostCode
import FrameHost.Proofs.RefusedCalls

/-!
# Panics of host code

A handler, a command or a receiver is called behind a fence. When it panics, its operations are done
already, and all that the panic drops is the rest of the agenda up to that fence, which is nothing. So a
run in which some of this code panics goes through the same states, step by step, as the run in which it
returns (`Mirrors.step`): a panic takes the step in which the fence would have been passed. Code that
was given to the page itself (hooks and listeners) is called without a fence and panics in both runs.
-/

namespace FrameHost

open Json (Value)

/-- The code with its panics left out, if it is among those chosen. -/
def Callback.returning (p : Callback → Bool) (cb : Callback) : Callback :=
  { cb with panics := cb.panics && !p cb }

/-! ## Operations with other code -/

section

variable (g : Callback → Callback)

/-- What gets a reply, with other code if it is code. -/
def Receiver.mapCode : Receiver → Receiver
  | .callback cb => .callback (g cb)
  | .call name => .call name
  | .ignore => .ignore

/-- An operation on a frame, with other code in what it gives to the frame. -/
def FrameAction.mapCode : FrameAction → FrameAction
  | .openFrame name mode config => .openFrame name mode (config.map (Config.mapCode g))
  | .mount frame config => .mount frame (config.map (Config.mapCode g))
  | .configure frame config held => .configure frame (config.map (Config.mapCode g)) held
  | .callByName frame method params cb => .callByName frame method params (g cb)
  | .registerCommand frame command cb => .registerCommand frame command (g cb)
  | a => a

/-- An operation on a bus, with another receiver of the reply. -/
def BusAction.mapCode : BusAction → BusAction
  | .execute method data receiver => .execute method data (receiver.mapCode g)
  | a => a

/-- An operation, with other handlers, commands and receivers. The code that it gives to the page
stays. -/
def Action.mapCode : Action → Action
  | .frame a => .frame (a.mapCode g)
  | .bus name a => .bus name (a.mapCode g)
  | a => a

/-- A job, with other handlers, commands and receivers. -/
def Job.mapCode : Job → Job
  | .act nested a => .act nested (a.mapCode g)
  | .follow x => .follow (x.mapCode g)
  | job => job

/-- The session with other handlers, commands and receivers, and another agenda. -/
def Session.mapCode (s : Session) (agenda : List Job) : Session :=
  { s with
    host := s.host.mapCode g
    scripts := s.scripts.map (List.map (Action.mapCode g))
    agenda }

/-! ## Agendas -/

/-- The second agenda is the first one with other code. Where host code was called behind a fence, its
panic may be missing. -/
inductive Tames : List Job → List Job → Prop
  | nil : Tames [] []
  | cons (job : Job) {js ks : List Job} (h : Tames js ks) : Tames (job :: js) (job.mapCode g :: ks)
  /-- Host code is about to be called. -/
  | called (cb : Callback) (v : Value) {js ks : List Job} (h : Tames js ks) :
    Tames (.invoke cb v :: .fence :: js) (.invoke (g cb) v :: .fence :: ks)
  /-- Host code has done its operations, and panics on one side. -/
  | raised {js ks : List Job} (h : Tames js ks) : Tames (.raise :: .fence :: js) (.fence :: ks)

variable {g}

namespace Tames

variable {js ks : List Job}

/-- New jobs are tamed by exchanging their callbacks. -/
theorem append (new : List Job) (h : Tames g js ks) :
    Tames g (new ++ js) (new.map (Job.mapCode g) ++ ks) := by
  induction new with
  | nil => exact h
  | cons job new ih => exact .cons job ih

/-- Both agendas are through together. -/
theorem eq_nil_iff (h : Tames g js ks) : ks = [] ↔ js = [] := by
  cases h <;> simp

/-- What a job is asked for that has nothing to do with host code has the same answer on both sides. -/
theorem any_eq (h : Tames g js ks) {q : Job → Bool} (hq : ∀ job, q (job.mapCode g) = q job)
    (hinvoke : ∀ cb v, q (.invoke cb v) = false) (hraise : q .raise = false) :
    ks.any q = js.any q := by
  induction h with
  | nil => rfl
  | cons job h ih => rw [List.any_cons, List.any_cons, ih, hq]
  | called cb v h ih => simp only [List.any_cons, ih, hinvoke]
  | raised h ih => simp only [List.any_cons, ih, hraise, Bool.false_or]

/-- Both agendas use the same bare buses. -/
theorem usesBus (h : Tames g js ks) (n : ℕ) : ks.any (Job.usesBus n) = js.any (Job.usesBus n) := by
  refine h.any_eq (fun job => ?_) (fun _ _ => rfl) rfl
  cases job with
  | follow x => cases x <;> rfl
  | _ => rfl

/-- Both agendas are about the same frames. -/
theorem frame? (h : Tames g js ks) (f : FrameRef) :
    ks.any (fun job => job.frame? = some f) = js.any (fun job => job.frame? = some f) := by
  refine h.any_eq (fun job => ?_) (fun _ _ => by simp [Job.frame?]) (by simp [Job.frame?])
  cases job with
  | follow x => cases x <;> rfl
  | _ => rfl

end Tames

end

namespace Session

variable {g : Callback → Callback} {s t : Session}

/-! ## Sessions with other code -/

/-- The second session is the first one with other code, and without some panics to come. -/
def Mirrors (g : Callback → Callback) (s t : Session) : Prop :=
  ∃ ks, Tames g s.agenda ks ∧ t = s.mapCode g ks

/-- The session after a bus was given a task: it has the host with the task, or says why it has not. -/
def served (s : Session) : Except Error Host → Session
  | .error e => s.reply (.error e)
  | .ok h => (s.withHost h).reply .ok

namespace Mirrors

/-- Both sessions give the same answer. -/
theorem reply (h : Mirrors g s t) (a : Answer) : Mirrors g (s.reply a) (t.reply a) := by
  obtain ⟨ks, hks, rfl⟩ := h
  exact ⟨ks, hks, rfl⟩

/-- Both sessions refuse the same request. -/
theorem refuse (h : Mirrors g s t) (e : BadRequest) : Mirrors g (s.refuse e) (t.refuse e) :=
  h.reply _

/-- Both sessions note the same record. -/
theorem record (h : Mirrors g s t) (r : Record) : Mirrors g (s.record r) (t.record r) := by
  obtain ⟨ks, hks, rfl⟩ := h
  exact ⟨ks, hks, rfl⟩

/-- Both sessions keep the same thing under a name. -/
theorem keep (h : Mirrors g s t) (name : String) (held : Held) :
    Mirrors g (s.keep name held) (t.keep name held) := by
  obtain ⟨ks, hks, rfl⟩ := h
  exact ⟨ks, hks, rfl⟩

/-- Both sessions drop the name. -/
theorem drop (h : Mirrors g s t) (name : String) : Mirrors g (s.drop name) (t.drop name) := by
  obtain ⟨ks, hks, rfl⟩ := h
  exact ⟨ks, hks, rfl⟩

/-- Both sessions give the frame the same name. -/
theorem name (h : Mirrors g s t) (name : String) (f : FrameRef) :
    Mirrors g (s.name name f) (t.name name f) := by
  obtain ⟨ks, hks, rfl⟩ := h
  exact ⟨ks, hks, rfl⟩

/-- Storing a host in one session mirrors storing the exchanged host in the other. -/
theorem withHost (h : Mirrors g s t) (k : Host) :
    Mirrors g (s.withHost k) (t.withHost (k.mapCode g)) := by
  obtain ⟨ks, hks, rfl⟩ := h
  exact ⟨ks, hks, rfl⟩

/-- Both sessions store the same page. -/
theorem withPage (h : Mirrors g s t) (page : Page) :
    Mirrors g (s.withPage page) (t.withPage page) := by
  obtain ⟨ks, hks, rfl⟩ := h
  exact ⟨ks, hks, rfl⟩

/-- Pushed jobs are mirrored by the jobs with their callbacks exchanged. -/
theorem push (h : Mirrors g s t) (new : List Job) :
    Mirrors g (s.push new) (t.push (new.map (Job.mapCode g))) := by
  obtain ⟨ks, hks, rfl⟩ := h
  exact ⟨_, hks.append new, rfl⟩

/-- What an operation on a host has led to is the same with other code. -/
theorem follow (h : Mirrors g s t) (f : FrameRef) (r : Host × List Followup) (rest : List Job)
    (hrest : rest.map (Job.mapCode g) = rest) :
    Mirrors g ((s.withHost r.1).follow f r.2 rest)
      ((t.withHost (Host.mapResult g r).1).follow f (Host.mapResult g r).2 rest) := by
  have hpushed := (h.withHost r.1).push (r.2.map .follow ++ .hold f :: rest)
  have hjobs : (r.2.map Job.follow ++ .hold f :: rest).map (Job.mapCode g) =
      (Host.mapResult g r).2.map .follow ++ .hold f :: rest := by
    rw [List.map_append, List.map_cons, hrest, Host.mapResult, List.map_map, List.map_map]
    rfl
  rw [hjobs] at hpushed
  exact hpushed

/-- The mirrored host is the host with its callbacks exchanged. -/
theorem host (h : Mirrors g s t) : t.host = s.host.mapCode g := by
  obtain ⟨ks, -, rfl⟩ := h
  rfl

/-- Both sessions are idle together. -/
theorem agenda_eq_nil_iff (h : Mirrors g s t) : t.agenda = [] ↔ s.agenda = [] := by
  obtain ⟨ks, hks, rfl⟩ := h
  exact hks.eq_nil_iff

/-- The same frames are live. -/
theorem isLive (h : Mirrors g s t) (f : FrameRef) : t.isLive f = s.isLive f := by
  obtain ⟨ks, hks, rfl⟩ := h
  unfold Session.isLive
  exact congrArg (_ || ·) (hks.frame? f)

/-- The same bare buses are live. -/
theorem isLiveBus (h : Mirrors g s t) (n : ℕ) : t.isLiveBus n = s.isLiveBus n := by
  obtain ⟨ks, hks, rfl⟩ := h
  unfold Session.isLiveBus
  exact congrArg (_ || ·) (hks.usesBus n)

/-- The same buses await the same channels. -/
theorem awaits (h : Mirrors g s t) (r : BusRef) (id : ChannelId) :
    ((t.host.bus? r).map fun b => b.awaits id) = (s.host.bus? r).map fun b => b.awaits id := by
  rw [h.host, Host.bus?_mapCode, Option.map_map]
  exact congrArg (Option.map · _) (funext fun b => b.awaits_mapCode id)

/-- The same channels are awaited. -/
theorem isAwaited (h : Mirrors g s t) (id : ChannelId) : t.isAwaited id = s.isAwaited id := by
  have hframes : t.host.frames.length = s.host.frames.length := by
    rw [h.host]
    exact List.length_map _
  have hbuses : t.host.buses.length = s.host.buses.length := by
    rw [h.host]
    exact List.length_map _
  unfold Session.isAwaited
  rw [hframes, hbuses]
  simp only [h.isLive, h.isLiveBus, h.awaits]

/-- The same names stand for the same frames. -/
theorem frames (h : Mirrors g s t) : t.frames = s.frames := by
  obtain ⟨ks, -, rfl⟩ := h
  rfl

/-- The same names stand for the same bare buses. -/
theorem buses (h : Mirrors g s t) : t.buses = s.buses := by
  obtain ⟨ks, -, rfl⟩ := h
  rfl

/-- The same names stand for the same calls. -/
theorem calls (h : Mirrors g s t) : t.calls = s.calls := by
  obtain ⟨ks, -, rfl⟩ := h
  rfl

/-- Both sessions have the same page. -/
theorem page (h : Mirrors g s t) : t.host.page = s.host.page := by
  rw [h.host]
  rfl

/-- Both sessions have the same checks under way. -/
theorem checks (h : Mirrors g s t) : t.host.checks = s.host.checks := by
  rw [h.host]
  rfl

/-- The same checks must wait. -/
theorem mustWait (h : Mirrors g s t) : t.host.mustWait = s.host.mustWait := by
  rw [h.host]
  rfl

/-- The frames are mirrored one by one. -/
theorem frame? (h : Mirrors g s t) (f : FrameRef) :
    t.host.frame? f = (s.host.frame? f).map (Frame.mapCode g) := by
  rw [h.host, Host.frame?_mapCode]

/-- The same names stand for the same nodes. -/
theorem nodeId (h : Mirrors g s t) (node : NodeName) : t.nodeId node = s.nodeId node := by
  -- A part of a named frame that no code belongs to is the same on both sides.
  have hnode : ∀ (name : String) (part : Frame → Option NodeId),
      (∀ frame : Frame, part (frame.mapCode g) = part frame) →
      ((t.frames.get? name).bind t.host.frame?).bind part =
        ((s.frames.get? name).bind s.host.frame?).bind part := by
    intro name part hpart
    rw [h.frames]
    cases s.frames.get? name with
    | none => rfl
    | some f =>
      rw [Option.bind_some, Option.bind_some, h.frame?]
      cases s.host.frame? f with
      | none => rfl
      | some frame => exact hpart frame
  unfold Session.nodeId
  cases node with
  | node n => rfl
  | iframeOf name => exact congrArg (Option.getD · 0) (hnode name _ fun _ => rfl)
  | loaderOf name => exact congrArg (Option.getD · 0) (hnode name _ fun _ => rfl)

/-- The same names stand for the same caches. -/
theorem cacheRef? (h : Mirrors g s t) (name : CacheName) : t.cacheRef? name = s.cacheRef? name := by
  unfold Session.cacheRef?
  cases name with
  | spare => rfl
  | shared => rfl
  | frame name =>
    dsimp only
    rw [h.frames]
    cases s.frames.get? name with
    | none => rfl
    | some f =>
      rw [Option.bind_some, Option.bind_some, h.frame?]
      cases s.host.frame? f <;> rfl

/-! ### Going on -/

/-- An action on a named frame is mirrored when it is on every frame. -/
theorem onFrame (h : Mirrors g s t) (name : String) {go go' : FrameRef → Session}
    (hgo : ∀ f, Mirrors g (go f) (go' f)) : Mirrors g (s.onFrame name go) (t.onFrame name go') := by
  unfold Session.onFrame
  rw [h.frames]
  cases s.frames.get? name with
  | none => exact h.refuse _
  | some f => exact hgo f

/-- An action on a named bus is mirrored when it is on every bus. -/
theorem onBus (h : Mirrors g s t) (name : String) {go go' : ℕ → Bus → Session}
    (hgo : ∀ n b, Mirrors g (go n b) (go' n (b.mapCode g))) :
    Mirrors g (s.onBus name go) (t.onBus name go') := by
  unfold Session.onBus
  have hbus : ∀ n : ℕ, t.host.buses[n]? = (s.host.buses[n]?).map (Bus.mapCode g) := by
    intro n
    rw [h.host]
    exact List.getElem?_map
  rw [h.buses]
  cases s.buses.get? name with
  | none => exact h.refuse _
  | some n =>
    rw [Option.bind_some, Option.bind_some, hbus]
    cases s.host.buses[n]? with
    | none => exact h.refuse _
    | some b => exact hgo n b

/-- An action on a named cache is mirrored when it is on every cache. -/
theorem onCache (h : Mirrors g s t) (name : CacheName) {go go' : CacheRef → Session}
    (hgo : ∀ r, Mirrors g (go r) (go' r)) : Mirrors g (s.onCache name go) (t.onCache name go') := by
  unfold Session.onCache
  rw [h.cacheRef?]
  cases s.cacheRef? name with
  | none => exact h.refuse _
  | some r => exact hgo r

/-- A configuration may have other handlers. -/
theorem onConfig (h : Mirrors g s t) (config : Configuration) {go go' : Config → Session}
    (hgo : ∀ c, Mirrors g (go c) (go' (c.mapCode g))) :
    Mirrors g (s.onConfig config go) (t.onConfig (config.map (Config.mapCode g)) go') := by
  cases config with
  | error e => exact h.reply _
  | ok c => exact hgo c

/-- An action under a configuration is mirrored when it is so under each, its callbacks left as they
are. -/
theorem onPlainConfig (h : Mirrors g s t) (config : Configuration) {go go' : Config → Session}
    (hgo : ∀ c, Mirrors g (go c) (go' c)) : Mirrors g (s.onConfig config go) (t.onConfig config go') := by
  cases config with
  | error e => exact h.reply _
  | ok c => exact hgo c

/-! ### Operations on the page -/

/-- A change of the page is mirrored. -/
theorem changed (h : Mirrors g s t) (page : Page) : Mirrors g (s.changed page) (t.changed page) :=
  (h.withPage page).reply _

/-- A new node is mirrored. -/
theorem created (h : Mirrors g s t) (made : Page × NodeId) :
    Mirrors g (s.created made) (t.created made) := (h.withPage made.1).reply _

/-- A message is dispatched to the same listeners. -/
theorem dispatch (h : Mirrors g s t) (origin : String) (data : Value) :
    Mirrors g (s.dispatch origin data) (t.dispatch origin data) := by
  unfold Session.dispatch
  rw [h.page]
  have hpushed := h.push
    (s.host.page.listeners.values.map (fun l => .deliver l origin data) ++ [.reply .done])
  rwa [List.map_append, List.map_map] at hpushed

/-- The same load hooks fire. -/
theorem fireLoad (h : Mirrors g s t) (n : NodeId) : Mirrors g (s.fireLoad n) (t.fireLoad n) := by
  unfold Session.fireLoad
  rw [h.page]
  have hpushed := (h.withPage (s.host.page.takeLoads n).2).push
    ((s.host.page.takeLoads n).1.map .loaded ++ [.reply (.bool !(s.host.page.takeLoads n).1.isEmpty)])
  rwa [List.map_append, List.map_map] at hpushed

/-- Every action on the page is mirrored. -/
theorem actPage (h : Mirrors g s t) (a : PageAction) : Mirrors g (s.actPage a) (t.actPage a) := by
  unfold Session.actPage
  rw [h.page]
  cases a with
  | insert | createIframe | createLoader | createContainer | createPlaceholder =>
    exact h.created _
  | replace | remove | setStyle | showDocument | onLoad | post =>
    simp only [h.nodeId]
    exact h.changed _
  | afterPaint | removeListener => exact h.changed _
  -- Loads, paints and messages leave jobs on the agenda.
  | fireLoad node =>
    simp only [h.nodeId]
    exact h.fireLoad _
  | flushPaint => exact h.push [.paint 0]
  | addListener cb => exact (h.withPage _).reply _
  | dispatch origin data => exact h.dispatch _ _
  | dispatchJson payload => exact h.dispatch _ _
  | element domId =>
    unfold Session.element?
    rw [h.page]
    exact h.reply _
  | node | className =>
    simp only [h.nodeId]
    exact h.reply _
  | find | hostOrigin | dom => exact h.reply _

/-- A load hook runs the same way. -/
theorem runLoadHook (h : Mirrors g s t) (hook : LoadHook) :
    Mirrors g (s.runLoadHook hook) (t.runLoadHook hook) := by
  cases hook with
  | host cb => exact h.push [.invoke cb .null]
  | connect f generation =>
    unfold Session.runLoadHook
    dsimp only
    rw [h.isLive, h.host, Host.mapCode_connect]
    split
    · exact h.follow f _ [] rfl
    · exact h

/-- A paint hook runs the same way. -/
theorem runPaintHook (h : Mirrors g s t) (hook : PaintHook) :
    Mirrors g (s.runPaintHook hook) (t.runPaintHook hook) := by
  cases hook with
  | host cb => exact h.push [.invoke cb .null]
  -- The hooks of frames read the host, and ask first whether the frame is live.
  | fade f generation loader =>
    unfold Session.runPaintHook
    dsimp only
    rw [h.isLive, h.host, Host.mapCode_fadeLoader]
    split
    · exact h.withHost _
    · exact h
  | retire f generation loader =>
    unfold Session.runPaintHook
    dsimp only
    rw [h.isLive, h.host, Host.mapCode_retireLoader]
    split
    · exact h.follow f _ [] rfl
    · exact h

/-- Both sessions paint the same. -/
theorem paint (h : Mirrors g s t) (ran : ℕ) : Mirrors g (s.paint ran) (t.paint ran) := by
  unfold Session.paint
  rw [h.page]
  cases s.host.page.paints with
  | nil => exact h.reply _
  | cons hook paints => exact (h.withPage _).push [.painted hook, .paint (ran + 1)]

/-- A message is delivered to the same frame. -/
theorem deliver (h : Mirrors g s t) (l : Listener) (origin : String) (data : Value) :
    Mirrors g (s.deliver l origin data) (t.deliver l origin data) := by
  cases l with
  | host cb => exact h.push [.invoke cb (messageValue origin data)]
  | frame f =>
    unfold Session.deliver
    dsimp only
    rw [h.isLive, h.host, Host.mapCode_handle]
    split
    · exact h.follow f _ [] rfl
    · exact h

/-! ### Operations on caches and buses -/

/-- Every action on a cache is mirrored. -/
theorem actCache (h : Mirrors g s t) (name : CacheName) (a : CacheAction) :
    Mirrors g (s.actCache name a) (t.actCache name a) := by
  -- No code is in a cache, so what is looked up is the same.
  have hcache : ∀ r, t.host.cache r = s.host.cache r := by
    intro r
    rw [h.host]
    rfl
  have hkept : ∀ r c, Mirrors g (s.withHost (s.host.setCache r c)) (t.withHost (t.host.setCache r c)) := by
    intro r c
    rw [h.host]
    exact h.withHost (s.host.setCache r c)
  unfold Session.actCache
  refine h.onCache name fun r => ?_
  dsimp only
  rw [hcache]
  cases a with
  | path config build => exact h.onPlainConfig config fun c => (hkept r _).reply _
  | iframe config look => exact h.onPlainConfig config fun c => (hkept r _).reply _
  | loader config look => exact h.onPlainConfig config fun c => (hkept r _).reply _
  | forget frameId => exact (hkept r _).reply _
  | has config => exact h.onPlainConfig config fun c => h.reply _
  | count => exact h.reply _

/-- What a bare bus says to a task is mirrored. -/
theorem served (h : Mirrors g s t) (n : ℕ) (task : Task) (responder : Responder) :
    Mirrors g (s.served (s.host.execute (.bare n) task responder))
      (t.served (t.host.execute (.bare n) task (responder.mapCode g))) := by
  rw [h.host, Host.mapCode_execute]
  cases s.host.execute (.bare n) task responder with
  | error e => exact h.reply _
  | ok k => exact (h.withHost k).reply _

/-- Executing on a bare bus is mirrored, whoever is to be answered. -/
theorem executeBus (h : Mirrors g s t) (n : ℕ) (task : Task) (receiver : Receiver) :
    Mirrors g (s.executeBus n task receiver) (t.executeBus n task (receiver.mapCode g)) := by
  cases receiver with
  | callback cb => exact h.served n task (.callback cb)
  | ignore => exact h.served n task .ignore
  | call name =>
    have hkept := (h.withHost s.host.newChannel.1).keep name (.call (.waiting s.host.newChannel.2))
    have hserved := hkept.served n task (.channel s.host.newChannel.2)
    unfold Session.executeBus
    dsimp only [Receiver.mapCode]
    rw [h.host]
    exact hserved

/-- A stored bus is mirrored by the bus with its callbacks exchanged. -/
theorem setBus (h : Mirrors g s t) (n : ℕ) (b : Bus) :
    Mirrors g (s.setBus n b) (t.setBus n (b.mapCode g)) := by
  unfold Session.setBus
  rw [h.host, Host.mapCode_setBus]
  exact h.withHost _

/-- Every action on a bare bus is mirrored. -/
theorem actBus (h : Mirrors g s t) (name : String) (a : BusAction) :
    Mirrors g (s.actBus name a) (t.actBus name (a.mapCode g)) := by
  cases a with
  | make =>
    obtain ⟨ks, hks, rfl⟩ := h
    show Mirrors g _ (({ (s.mapCode g ks).withHost (s.host.mapCode g).newBus.1 with
      buses := s.buses.insert name (s.host.mapCode g).newBus.2 } : Session).reply .done)
    rw [Host.mapCode_newBus]
    exact ⟨ks, hks, rfl⟩
  | attach frameId node origin =>
    refine h.onBus name fun n b => ?_
    rw [h.nodeId]
    exact (h.setBus n _).reply _
  | connect => exact h.onBus name fun n b => (h.setBus n b.connect).reply _
  | reset => exact h.onBus name fun n b => (h.setBus n b.reset).reply _
  | execute method data receiver => exact h.onBus name fun n b => h.executeBus n _ receiver
  | reply data =>
    refine h.onBus name fun n b => ?_
    rw [h.host, Host.mapCode_reply]
    -- The answer may call the code that waits: one exchanged callback for the other.
    have hpushed := (h.withHost (s.host.reply (.bare n) data).1).push
      ((s.host.reply (.bare n) data).2.map .follow ++ [.reply .done])
    rw [List.map_append, List.map_map] at hpushed
    dsimp only [Host.mapResult]
    rw [List.map_map]
    exact hpushed

/-! ### Operations on calls and checks -/

/-- A kept call has the same answer. -/
theorem callAnswer? (h : Mirrors g s t) (c : Call) : t.callAnswer? c = s.callAnswer? c := by
  unfold Session.callAnswer? Session.waitingAnswer?
  have hreplies : t.host.replies = s.host.replies := by
    rw [h.host]
    rfl
  simp only [hreplies, h.isAwaited]

/-- Polling a call is mirrored. -/
theorem pollCall (h : Mirrors g s t) (name : String) (c : Call) :
    Mirrors g (s.pollCall name c) (t.pollCall name c) := by
  unfold Session.pollCall
  rw [h.callAnswer?]
  cases s.callAnswer? c with
  | none => exact h.reply _
  | some r =>
    dsimp only
    split
    · exact (h.keep name _).reply _
    · exact (h.drop name).reply _

/-- Polling a call for a reply of a given shape is mirrored. -/
theorem pollCallAs (h : Mirrors g s t) (name : String) (c : Call) (shape : ReplyShape) :
    Mirrors g (s.pollCallAs name c shape) (t.pollCallAs name c shape) := by
  unfold Session.pollCallAs
  rw [h.callAnswer?]
  dsimp only
  split <;> exact (h.drop name).reply _

/-- The end of a check is mirrored, and so is what its caller goes on with. -/
theorem endCheck (h : Mirrors g s t) (c : Check) {rest : Except Error Unit → List Job}
    (hrest : ∀ r, (rest r).map (Job.mapCode g) = rest r) :
    Mirrors g (s.endCheck c rest) (t.endCheck c rest) := by
  unfold Session.endCheck
  rw [h.host, Host.mapCode_endCheck]
  exact h.follow c.frame _ _ (hrest _)

/-- A check moves in the same way if it is made to wait in the same way. -/
theorem moveCheck (h : Mirrors g s t) (f : FrameRef) (state : CheckState)
    {wait : Session → Check → Session} {rest : Except Error Unit → List Job}
    (hwait : ∀ {s t} c, Mirrors g s t → Mirrors g (wait s c) (wait t c))
    (hrest : ∀ r, (rest r).map (Job.mapCode g) = rest r) :
    Mirrors g (s.moveCheck f state wait rest) (t.moveCheck f state wait rest) := by
  have hended : Mirrors g (s.push (rest (.ok ()))) (t.push (rest (.ok ()))) := by
    have hpushed := h.push (rest (.ok ()))
    rwa [hrest] at hpushed
  -- Both sides wait, or both end, for the gate is the same.
  have hmoved : ∀ {s t : Session} c, Mirrors g s t →
      Mirrors g (if s.host.mustWait then wait s c else s.endCheck c rest)
        (if t.host.mustWait then wait t c else t.endCheck c rest) := by
    intro s t c h
    rw [h.mustWait]
    split
    · exact hwait c h
    · exact h.endCheck c hrest
  unfold Session.moveCheck
  cases state with
  | ended => exact hended
  | waiting c => exact hmoved c h
  | fresh =>
    dsimp only
    rw [h.host, Host.check?_mapCode]
    cases s.host.check? f with
    | none => exact hended
    | some c => exact hmoved c (h.record _)

/-- Polling a check is mirrored. -/
theorem pollCheck (h : Mirrors g s t) (name : String) (f : FrameRef) (state : CheckState) :
    Mirrors g (s.pollCheck name f state) (t.pollCheck name f state) :=
  (h.drop name).moveCheck f state (fun _ h => (h.keep name _).reply _) fun _ => rfl

/-- A check's new state is mirrored. -/
theorem setCheck (h : Mirrors g s t) (n : ℕ) (state : CheckState) :
    Mirrors g (s.setCheck n state) (t.setCheck n state) := by
  unfold Session.setCheck
  rw [h.host]
  exact h.withHost _

/-- The end of the aborted checks is mirrored. -/
theorem endAborted (h : Mirrors g s t) : Mirrors g s.endAborted t.endAborted := by
  unfold Session.endAborted
  rw [h.host]
  exact h.withHost _

/-- The same check is next. -/
theorem nextCheck? (h : Mirrors g s t) (start : ℕ) : t.nextCheck? start = s.nextCheck? start := by
  unfold Session.nextCheck? Session.canMove
  rw [h.checks, h.mustWait]

/-- The sweep of the frames is mirrored. -/
theorem sweep (h : Mirrors g s t) (start : ℕ) : Mirrors g (s.sweep start) (t.sweep start) := by
  unfold Session.sweep
  rw [h.nextCheck?]
  cases s.nextCheck? start with
  -- No check can move from here on: the sweep begins again, or it is over.
  | none =>
    dsimp only
    split
    · exact h.endAborted.reply _
    · exact h.push [.sweep 0]
  | some row =>
    obtain ⟨n, c⟩ := row
    have hended := h.setCheck n .ended
    dsimp only
    rw [h.isLive]
    split
    · exact hended.push [.sweep (n + 1)]
    · exact hended.moveCheck c.frame c.state (fun _ h => (h.setCheck n _).push [.sweep (n + 1)])
        fun _ => rfl

/-- Settling is mirrored. -/
theorem settle (h : Mirrors g s t) : Mirrors g s.settle t.settle := by
  have hruntime : t.host.runtime = s.host.runtime := by
    rw [h.host]
    rfl
  unfold Session.settle
  rw [hruntime]
  split
  · exact h.endAborted.push [.sweep 0]
  · exact h.reply _

/-- Every action on a kept call is mirrored. -/
theorem actCall (h : Mirrors g s t) (nested : Bool) (a : CallAction) :
    Mirrors g (s.actCall nested a) (t.actCall nested a) := by
  unfold Session.actCall
  rw [h.calls]
  cases a with
  | poll name =>
    dsimp only
    -- What is held under a name holds no code.
    split
    · exact h.refuse _
    · exact h.pollCall name _
    · exact h.pollCheck name _ _
  | pollAs name shape =>
    dsimp only
    split
    · exact h.pollCallAs name _ shape
    · exact (h.drop name).refuse _
  | settled name answer => exact (h.keep name _).reply _
  | drop name => exact (h.drop name).reply _
  | check name call => exact h.onFrame name fun f => (h.keep call _).reply _
  | setGate isOpen =>
    dsimp only
    rw [h.host]
    exact (h.withHost _).reply _
  | settle =>
    dsimp only
    split
    · exact h.refuse _
    · exact h.settle

/-! ### Operations on frames -/

/-- The same iframe is shown. -/
theorem iframeAnswer (h : Mirrors g s t) (f : FrameRef) : t.iframeAnswer f = s.iframeAnswer f := by
  unfold Session.iframeAnswer
  rw [h.frame?]
  cases s.host.frame? f <;> rfl

/-- The same events are handled. -/
theorem handledEvents (h : Mirrors g s t) (f : FrameRef) : t.handledEvents f = s.handledEvents f := by
  unfold Session.handledEvents
  rw [h.frame?]
  cases s.host.frame? f with
  | none => rfl
  | some frame =>
    refine List.filter_congr fun event _ => ?_
    show ((frame.config.mapCode g).handler? event).isSome = (frame.config.handler? event).isSome
    rw [Config.handler?_mapCode, Option.isSome_map]

/-- Opening a frame is mirrored by opening it with the callbacks exchanged. -/
theorem openFrame (h : Mirrors g s t) (name : String) (mode : Option Mode) (c : Config) :
    Mirrors g (s.openFrame name mode c) (t.openFrame name mode (c.mapCode g)) := by
  -- With or without a mode it is one configuration that is opened.
  have hopened : ∀ c : Config, Mirrors g
      (((s.withHost (s.host.openFrame c).1).name name (s.host.openFrame c).2).reply
        (((s.withHost (s.host.openFrame c).1).name name (s.host.openFrame c).2).iframeAnswer
          (s.host.openFrame c).2))
      (((t.withHost (t.host.openFrame (c.mapCode g)).1).name name
        (t.host.openFrame (c.mapCode g)).2).reply
        (((t.withHost (t.host.openFrame (c.mapCode g)).1).name name
          (t.host.openFrame (c.mapCode g)).2).iframeAnswer (t.host.openFrame (c.mapCode g)).2)) := by
    intro c
    rw [h.host, Host.mapCode_openFrame]
    have hnamed := (h.withHost (s.host.openFrame c).1).name name (s.host.openFrame c).2
    rw [hnamed.iframeAnswer]
    exact hnamed.reply _
  cases mode with
  | none => exact hopened c
  | some mode =>
    unfold Session.openFrame
    dsimp only
    rw [Config.mapCode_apply]
    exact hopened _

/-- The call that a frame makes is kept under the same name. -/
theorem made (h : Mirrors g s t) (f : FrameRef) (name : String) (r : Host × Call × List Followup) :
    Mirrors g (s.made f name r) (t.made f name (Host.mapCall g r)) :=
  h.follow f (r.1, r.2.2) [.keep name r.2.1, .reply (.made r.2.1.isSettled)] rfl

/-- Every action on a frame is mirrored. -/
theorem actFrame (h : Mirrors g s t) (a : FrameAction) :
    Mirrors g (s.actFrame a) (t.actFrame (a.mapCode g)) := by
  cases a with
  | openFrame name mode config => exact h.onConfig config fun c => h.openFrame name mode c
  | newFrame name checks =>
    show Mirrors g _ (((t.withHost (t.host.newFrame checks).1).name name
      (t.host.newFrame checks).2).reply .done)
    rw [h.host, Host.mapCode_newFrame]
    exact ((h.withHost (s.host.newFrame checks).1).name name (s.host.newFrame checks).2).reply _
  | mount name config =>
    refine h.onFrame name fun f => h.onConfig config fun c => ?_
    rw [h.host, Host.mapCode_mount]
    exact (h.withHost _).reply _
  | destroy name =>
    refine h.onFrame name fun f => ?_
    rw [h.host, Host.mapCode_destroy]
    exact (h.withHost _).reply _
  | showContent name =>
    refine h.onFrame name fun f => ?_
    rw [h.host, Host.mapCode_showContent]
    exact h.follow f _ [.reply .done] rfl
  | configure name config call =>
    refine h.onFrame name fun f => h.onConfig config fun c => ?_
    rw [h.host, Host.mapCode_configure]
    exact h.made f call _
  | getConfig name =>
    refine h.onFrame name fun f => ?_
    rw [h.frame?]
    cases s.host.frame? f <;> exact h.reply _
  | handlers name =>
    refine h.onFrame name fun f => ?_
    rw [h.handledEvents]
    exact h.reply _
  | handle name data =>
    refine h.onFrame name fun f => ?_
    rw [h.host, Host.mapCode_handle]
    exact h.follow f _ [.reply .done] rfl
  | call name method call =>
    refine h.onFrame name fun f => ?_
    rw [h.host, Host.mapCode_call]
    exact h.made f call _
  | callByName name method params cb =>
    refine h.onFrame name fun f => ?_
    rw [h.host, Host.mapCode_callByName]
    exact h.follow f (_, _) [.reply (.outcome _)] rfl
  | registerCommand name command cb =>
    refine h.onFrame name fun f => ?_
    rw [h.host, Host.mapCode_registerCommand]
    cases s.host.registerCommand f command cb with
    | error e => exact h.reply _
    | ok k => exact (h.withHost k).reply _
  | hasCommand name command =>
    refine h.onFrame name fun f => ?_
    rw [h.frame?]
    cases s.host.frame? f with
    | none => exact h.reply _
    | some frame =>
      -- Which commands there are does not depend on their code.
      have hcontains : (frame.mapCode g).commands.contains command =
          frame.commands.contains command := Table.contains_map _ _ _
      dsimp only [Option.map_some]
      rw [hcontains]
      exact h.reply _
  | same name other => exact h.onFrame name fun f => h.onFrame other fun f' => h.reply _
  -- The last two touch the names of the session only.
  | forget name =>
    obtain ⟨ks, hks, rfl⟩ := h
    exact ⟨ks, hks, rfl⟩
  | namesOf frameId =>
    obtain ⟨ks, hks, rfl⟩ := h
    exact ⟨ks, hks, rfl⟩

/-- Every action is mirrored. -/
theorem act (h : Mirrors g s t) (nested : Bool) (a : Action) :
    Mirrors g (s.act nested a) (t.act nested (a.mapCode g)) := by
  cases a with
  | page a => exact h.actPage a
  | frame a => exact h.actFrame a
  | call a => exact h.actCall nested a
  | cache name a => exact h.actCache name a
  | bus name a => exact h.actBus name a
  | unknown name => exact h.refuse _

end Mirrors

/-! ## Panics -/

variable {p : Callback → Bool} {js ks : List Job}

/-- A panic drops the same jobs with other code. -/
theorem mirrors_unwind (s : Session) (agenda : List Job) (h : Tames g js ks) :
    Mirrors g (s.unwind js) ((s.mapCode g agenda).unwind ks) := by
  induction h with
  | nil => exact ⟨[], .nil, rfl⟩
  | @cons job js ks h ih =>
    cases job with
    | fence => exact ⟨ks, h, rfl⟩
    | _ => exact ih
  | @called cb v js ks h ih => exact ⟨ks, h, rfl⟩
  | @raised js ks h ih => exact ⟨ks, h, rfl⟩

/-- Host code does its operations, then it panics or not. -/
theorem script_eq (s : Session) (cb : Callback) :
    s.script cb =
      s.script { cb with panics := false } ++ if cb.panics then [.raise] else [] := by
  unfold script
  rw [if_neg Bool.false_ne_true, List.append_nil]

/-- The script of a callback does not depend on the agenda, and is the one whose callbacks are
exchanged. -/
theorem script_mapCode (s : Session) (agenda : List Job) (cb : Callback) :
    (s.mapCode g agenda).script cb = (s.script cb).map (Job.mapCode g) := by
  have hscripts : ((s.mapCode g agenda).scripts[cb.script]?).getD [] =
      ((s.scripts[cb.script]?).getD []).map (Action.mapCode g) := by
    show ((s.scripts.map (List.map (Action.mapCode g)))[cb.script]?).getD [] = _
    rw [List.getElem?_map]
    cases s.scripts[cb.script]? <;> rfl
  unfold script
  rw [hscripts, List.map_append, List.flatMap_map, List.map_flatMap]
  split <;> rfl

/-- The fence stands right behind the panic of the code that was called, so there is nothing between
them that the panic could drop. -/
theorem tames_script (s : Session) (agenda : List Job) (cb : Callback)
    (h : Tames (Callback.returning p) js ks) :
    Tames (Callback.returning p) (s.script cb ++ .fence :: js)
      ((s.mapCode (Callback.returning p) agenda).script (cb.returning p) ++ .fence :: ks) := by
  rw [script_eq s cb, script_eq _ (cb.returning p), script_mapCode, List.append_assoc,
    List.append_assoc]
  refine Tames.append _ ?_
  show Tames _ ((if cb.panics then [.raise] else []) ++ .fence :: js)
    ((if cb.panics && !p cb then [.raise] else []) ++ .fence :: ks)
  cases cb.panics with
  | false => exact .cons .fence h
  | true =>
    cases p cb with
    | false => exact .cons .raise (.cons .fence h)
    | true => exact .raised h

/-- Calling host code runs its script once. -/
theorem mirrors_called (s : Session) (agenda : List Job) (cb cb' : Callback) (v : Value)
    (htag : cb'.tag = cb.tag) (hid : cb'.script = cb.script)
    (h : Tames g (s.script cb ++ s.agenda) ((s.mapCode g agenda).script cb' ++ agenda)) :
    Mirrors g (s.invoke cb v) ((s.mapCode g agenda).invoke cb' v) := by
  refine ⟨_, h, ?_⟩
  have hscripts : (s.scripts.map (List.map (Action.mapCode g))).set cb'.script [] =
      (s.scripts.set cb.script []).map (List.map (Action.mapCode g)) := by
    rw [hid, List.map_set]
    rfl
  unfold invoke
  rw [htag]
  show ({ (s.mapCode g agenda).record (.called cb.tag v) with
    scripts := (s.scripts.map (List.map (Action.mapCode g))).set cb'.script [] } : Session).push _ = _
  rw [hscripts]
  rfl

/-- A followup is run the same way. -/
theorem mirrors_runFollowup (h : Mirrors g s t) (x : Followup) :
    Mirrors g (s.runFollowup x) (t.runFollowup (x.mapCode g)) := by
  cases x with
  | invoke cb v =>
    obtain ⟨ks, hks, rfl⟩ := h
    exact ⟨_, .called cb v hks, rfl⟩
  | showContent f =>
    unfold runFollowup
    dsimp only [Followup.mapCode]
    rw [h.host, Host.mapCode_showContent]
    exact h.follow f _ [] rfl
  | postNext r =>
    unfold runFollowup
    dsimp only [Followup.mapCode]
    rw [h.host, Host.mapCode_postNext]
    exact h.withHost _

/-- Every job but a panic is performed the same way. -/
theorem mirrors_perform (h : Mirrors g s t) (job : Job) (hjob : job ≠ .raise) :
    Mirrors g (s.perform job) (t.perform (job.mapCode g)) := by
  cases job with
  | act nested a => exact h.act nested a
  | note tag =>
    obtain ⟨ks, hks, rfl⟩ := h
    exact ⟨ks, hks, rfl⟩
  | raise => exact absurd rfl hjob
  | fence => exact h
  -- The callback runs the same script, and the second side has its jobs exchanged.
  | invoke cb v =>
    obtain ⟨ks, hks, rfl⟩ := h
    refine mirrors_called s ks cb cb v rfl rfl ?_
    rw [script_mapCode]
    exact hks.append _
  | follow x => exact mirrors_runFollowup h x
  | hold f => exact h
  | loaded hook => exact h.runLoadHook hook
  | paint ran => exact h.paint ran
  | painted hook => exact h.runPaintHook hook
  | deliver l origin data => exact h.deliver l origin data
  | sweep start => exact h.sweep start
  | keep name c => exact h.keep name _
  | reply a => exact h.reply a

/-! ## Runs -/

/-- A step with other code does what it did, whether the code that it calls panics or not. -/
theorem Mirrors.step (h : Mirrors (Callback.returning p) s t) :
    Mirrors (Callback.returning p) s.step t.step := by
  obtain ⟨ks, hks, rfl⟩ := h
  generalize hagenda : s.agenda = js at hks
  cases hks with
  | nil =>
    rw [step_nil hagenda, step_nil rfl]
    refine ⟨[], ?_, rfl⟩
    rw [hagenda]
    exact .nil
  | @cons job js ks h =>
    rw [step_cons hagenda, step_cons rfl]
    by_cases hjob : job = .raise
    · rw [hjob]
      exact mirrors_unwind { s with agenda := js } ks h
    · exact mirrors_perform ⟨ks, h, rfl⟩ job hjob
  -- Here the first side may panic where the second returns; the fence follows on both.
  | @called cb v js ks h =>
    rw [step_cons hagenda, step_cons rfl]
    exact mirrors_called { s with agenda := .fence :: js } (.fence :: ks) cb (cb.returning p) v rfl rfl
      (tames_script _ _ cb h)
  -- The panic that the second side has left out takes the first side to the fence.
  | @raised js ks h =>
    rw [step_cons hagenda, step_cons rfl]
    exact ⟨ks, h, rfl⟩

/-- An action begins the same way. -/
theorem Mirrors.begin (h : Mirrors g s t) (a : Action) :
    Mirrors g (s.begin a) (t.begin (a.mapCode g)) := by
  obtain ⟨ks, hks, rfl⟩ := h
  exact ⟨_, .cons (.act false a) .nil, rfl⟩

/-- One advance of both runs keeps them mirrored, and leaves the same actions to begin. -/
theorem mirrors_advance {r r' : Session × List Action}
    (h : Mirrors (Callback.returning p) r.1 r'.1)
    (has : r'.2 = r.2.map (Action.mapCode (Callback.returning p))) :
    Mirrors (Callback.returning p) (advance r).1 (advance r').1 ∧
      (advance r').2 = (advance r).2.map (Action.mapCode (Callback.returning p)) := by
  obtain ⟨s, as⟩ := r
  obtain ⟨t, as'⟩ := r'
  obtain rfl : as' = _ := has
  unfold advance
  dsimp only at h ⊢
  -- Both are idle or none is, so both begin an action or both take a step.
  cases hs : s.agenda with
  | nil =>
    rw [h.agenda_eq_nil_iff.mpr hs]
    cases as with
    | nil => exact ⟨h, rfl⟩
    | cons a as => exact ⟨h.begin a, rfl⟩
  | cons job jobs =>
    obtain ⟨job', jobs', ht⟩ := List.exists_cons_of_ne_nil fun hnil : t.agenda = [] =>
      List.cons_ne_nil job jobs (hs.symm.trans (h.agenda_eq_nil_iff.mp hnil))
    rw [ht]
    exact ⟨h.step, rfl⟩

/-- Runs with the same operations, up to their code, stay alike. -/
theorem Mirrors.after (h : Mirrors (Callback.returning p) s t) (as : List Action) (i : ℕ) :
    Mirrors (Callback.returning p) (s.after as i)
      (t.after (as.map (Action.mapCode (Callback.returning p))) i) := by
  have hboth : Mirrors (Callback.returning p) (advance^[i] (s, as)).1
        (advance^[i] (t, as.map (Action.mapCode (Callback.returning p)))).1 ∧
      (advance^[i] (t, as.map (Action.mapCode (Callback.returning p)))).2 =
        (advance^[i] (s, as)).2.map (Action.mapCode (Callback.returning p)) := by
    induction i with
    | zero => exact ⟨h, rfl⟩
    | succ i ih =>
      rw [Function.iterate_succ_apply', Function.iterate_succ_apply']
      exact mirrors_advance ih.1 ih.2
  exact hboth.1

/-- The second session is the first one with other code and can be told from it by nothing else: the
page, the registry, the caches, the checks and the replies are the same, and so are the frames and the
buses up to the code that they keep. -/
structure Indistinct (g : Callback → Callback) (s t : Session) : Prop where
  host : t.host = s.host.mapCode g
  frames : t.frames = s.frames
  buses : t.buses = s.buses
  calls : t.calls = s.calls
  /-- What was written down: every call of host code, and what its operations were answered. -/
  records : t.records = s.records
  answer : t.answer = s.answer
  /-- Operations end at the same time. -/
  agenda : t.agenda = [] ↔ s.agenda = []

/-- Mirrored sessions cannot be told apart but by their callbacks. -/
theorem Mirrors.indistinct (h : Mirrors g s t) : Indistinct g s t := by
  have hagenda := h.agenda_eq_nil_iff
  obtain ⟨ks, hks, rfl⟩ := h
  exact ⟨rfl, rfl, rfl, rfl, rfl, rfl, hagenda⟩

/-- In a run in which handlers, commands and receivers panic after their operations, each state is the
one of the run in which those that are chosen return instead. And whoever calls such code comes back
from it: between the call and what stands behind it on the agenda, that part of the agenda stays. -/
theorem panics_contained (origin : String) (allowList : Option AllowList) (defaults : Config)
    (runtime : Bool) (scripts : List (List Action)) (as : List Action) (p : Callback → Bool) (i : ℕ) :
    let g := Callback.returning p
    let s := start origin allowList defaults runtime scripts
    let t := start origin allowList (defaults.mapCode g) runtime
      (scripts.map (List.map (Action.mapCode g)))
    Indistinct g (s.after as i) (t.after (as.map (Action.mapCode g)) i) ∧
    ∀ cb v jobs, (s.after as i).agenda = .follow (.invoke cb v) :: jobs →
      ∃ k, i < k ∧ (s.after as k).agenda = jobs ∧
        ∀ j, i ≤ j → j ≤ k → jobs <:+ (s.after as j).agenda := by
  intro g s t
  have hstart : Mirrors g s t := ⟨[], .nil, rfl⟩
  refine ⟨(hstart.after as i).indistinct, fun cb v jobs hagenda => ?_⟩
  -- The call itself raises nothing: what it puts in front ends at its own fence.
  have hfenced : Fenced [.follow (.invoke cb v)] := fenced_of_noPanic fun x hx => by
    rw [List.mem_singleton.mp hx]
    rfl
  have hbelow : (s.after as i).agenda = [.follow (.invoke cb v)] ++ jobs := hagenda
  obtain ⟨k, hik, hback, hbetween⟩ := exists_after_below hfenced hbelow
  refine ⟨k, Nat.lt_of_le_of_ne hik ?_, hback, hbetween⟩
  rintro rfl
  exact List.cons_ne_self _ _ (hagenda.symm.trans hback)

/-- The receiver of a reply is called and panics; the call that waits is posted all the same. -/
example :
    let receiver : Callback := ⟨"receiver", true, 0⟩
    let operations : List Action := [.bus "b" .make,
      .bus "b" (.attach "f" (.node 1) "https://app.example.com"), .bus "b" .connect,
      .bus "b" (.execute "getFiles" none (.callback receiver)),
      .bus "b" (.execute "getFolders" none .ignore), .bus "b" (.reply none)]
    let s := (start "https://host.example.com" none .empty false []).after operations 20
    (s.agenda.length, s.records.length, s.host.page.posted.length) = (0, 1, 1) := by
  decide +kernel

end Session

end FrameHost
