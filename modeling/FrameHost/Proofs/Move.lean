import FrameHost.Proofs.Agenda

/-!
# The moves of a host

A job of a session changes the host by at most a few moves, each of which takes effect at once. The
operations that consist of others (a call by a frame, a new configuration, a message that is handled)
are taken apart here, so what every move keeps is kept by every job (`step_reaches`) and holds
throughout a run (`host_after`). `Job.Makes` says which jobs a move can come from, where that
matters.
-/

namespace FrameHost

open Json (Value)

/-! ## Changes of the page and of caches -/

/-- A change of the page that is no part of a move of a frame. -/
inductive Page.Edit where
  | add (node : Node)
  | wrap (domId : String) (style : Style) (children : List NodeId)
  | replace (old new : NodeId)
  | remove (n : NodeId)
  | setStyle (n : NodeId) (style : Style)
  | showDocument (n : NodeId) (html : String)
  | onLoad (n : NodeId) (cb : Callback)
  /-- The hooks on the loading of an iframe are taken. -/
  | takeLoads (n : NodeId)
  | afterPaint (cb : Callback)
  /-- The first hook on a paint is taken. -/
  | takePaint
  | addListener (cb : Callback)
  | removeListener (id : ListenerId)
  | post (message : Posted)
  /-- The posted messages are taken. -/
  | takePosted

/-- The page after a change. -/
def Page.edit (p : Page) : Edit → Page
  | .add node => (p.add node).1
  | .wrap domId style children => (p.createContainer domId style children).1
  | .replace old new => p.replace old new
  | .remove n => p.remove n
  | .setStyle n style => p.setStyle n style
  | .showDocument n html => p.showDocument n html
  | .onLoad n cb => p.onLoad n (.host cb)
  | .takeLoads n => (p.takeLoads n).2
  | .afterPaint cb => p.afterPaint (.host cb)
  | .takePaint => { p with paints := p.paints.tail }
  | .addListener cb => (p.addListener (.host cb)).1
  | .removeListener id => p.removeListener id
  | .post message => p.post message
  | .takePosted => { p with posted := [] }

/-- A change of a cache that is no part of a move of a frame. -/
inductive Cache.Edit where
  | path (k : PathKey) (built : String)
  | iframe (k : LookKey) (built : Style)
  | loader (k : LookKey) (built : Look.Loader)
  | forget (frameId : String)

/-- The cache after a change. -/
def Cache.edit (c : Cache) : Edit → Cache
  | .path k built => (c.path k built).2
  | .iframe k built => (c.iframe k built).2
  | .loader k built => (c.loader k built).2
  | .forget frameId => c.forgetPaths frameId

/-! ## Moves -/

/-- A change of the host that takes effect at once. -/
inductive Host.Move where
  | page (e : Page.Edit)
  | cache (r : CacheRef) (e : Cache.Edit)
  | newFrame (checks : Bool)
  /-- There is a registered frame with an ID from now on. -/
  | enroll (frameId : String)
  | mount (f : FrameRef) (config : Config)
  | destroy (f : FrameRef)
  | showContent (f : FrameRef)
  /-- The configuration of a frame changes, and nothing else. -/
  | patch (f : FrameRef) (config : Config)
  | registerCommand (f : FrameRef) (name : String) (cb : Callback)
  | openChannel
  | execute (r : BusRef) (task : Task) (responder : Responder)
  | reply (r : BusRef) (data : Option Value)
  | postNext (r : BusRef)
  | connect (f : FrameRef) (generation : ℕ)
  | fade (f : FrameRef) (generation : ℕ) (loader : NodeId)
  | retire (f : FrameRef) (generation : ℕ) (loader : NodeId)
  | failCheck (c : Check) (e : Error)
  | setCheck (n : ℕ) (state : CheckState)
  /-- The checks of mounts that are over end. -/
  | endAborted
  | setGate (isOpen : Bool)
  | newBus
  | setBus (n : ℕ) (b : Bus)

namespace Host

/-- The host after a move; a call that is refused and a command that is not registered change
nothing. -/
def move (h : Host) : Move → Host
  | .page e => { h with page := h.page.edit e }
  | .cache r e => h.setCache r ((h.cache r).edit e)
  | .newFrame checks => (h.newFrame checks).1
  | .enroll frameId => (h.registered frameId).1
  | .mount f config => (h.mount f config).1
  | .destroy f => h.destroy f
  | .showContent f => (h.showContent f).1
  | .patch f config =>
    h.modifyFrame f fun frame => { frame with config := frame.config.merged config }
  | .registerCommand f name cb => (h.registerCommand f name cb).toOption.getD h
  | .openChannel => h.newChannel.1
  | .execute r task responder => (h.execute r task responder).toOption.getD h
  | .reply r data => (h.reply r data).1
  | .postNext r => h.postNext r
  | .connect f generation => (h.connect f generation).1
  | .fade f generation loader => h.fadeLoader f generation loader
  | .retire f generation loader => (h.retireLoader f generation loader).1
  | .failCheck c e => (h.failCheck c e).1
  | .setCheck n state => { h with checks := h.checks.modify n fun c => { c with state } }
  | .endAborted =>
    { h with checks := h.checks.map fun c => if c.aborted then { c with state := .ended } else c }
  | .setGate isOpen => { h with gateOpen := isOpen }
  | .newBus => h.newBus.1
  | .setBus n b => h.setBus (.bare n) b

/-- An accepted registration is the move of that name. -/
theorem move_registerCommand {h h' : Host} {f : FrameRef} {name : String} {cb : Callback}
    (hr : h.registerCommand f name cb = .ok h') : h.move (.registerCommand f name cb) = h' := by
  show (h.registerCommand f name cb).toOption.getD h = h'
  rw [hr]
  rfl

/-- An accepted call is the move of that name. -/
theorem move_execute {h h' : Host} {r : BusRef} {task : Task} {responder : Responder}
    (hx : h.execute r task responder = .ok h') : h.move (.execute r task responder) = h' := by
  show (h.execute r task responder).toOption.getD h = h'
  rw [hx]
  rfl

/-- The host after a list of moves. -/
def moves (h : Host) (ms : List Move) : Host := ms.foldl move h

/-- Some moves of a kind lead from one host to another. -/
def Reaches (kind : Move → Prop) (h h' : Host) : Prop :=
  ∃ ms : List Move, (∀ m ∈ ms, kind m) ∧ h' = h.moves ms

namespace Reaches

variable {kind kind' : Move → Prop} {h h' h'' : Host}

/-- A host reaches itself without a move. -/
theorem refl (h : Host) : Reaches kind h h := ⟨[], fun _ hm => absurd hm List.not_mem_nil, rfl⟩

/-- A single move. -/
theorem single {m : Move} (hm : kind m) : Reaches kind h (h.move m) :=
  ⟨[m], fun _ h => List.mem_singleton.mp h ▸ hm, rfl⟩

/-- What is reached in two runs of moves is reached in one. -/
theorem trans (h₁ : Reaches kind h h') (h₂ : Reaches kind h' h'') : Reaches kind h h'' := by
  obtain ⟨ms, hms, rfl⟩ := h₁
  obtain ⟨ns, hns, rfl⟩ := h₂
  refine ⟨ms ++ ns, fun m hm => ?_, ?_⟩
  · exact (List.mem_append.mp hm).elim (hms m) (hns m)
  · unfold moves
    rw [List.foldl_append]

/-- Moves of one kind are moves of every kind that covers it. -/
theorem mono (h₁ : Reaches kind h h') (hk : ∀ m, kind m → kind' m) : Reaches kind' h h' := by
  obtain ⟨ms, hms, rfl⟩ := h₁
  exact ⟨ms, fun m hm => hk m (hms m hm), rfl⟩

/-- What every move of a kind keeps is kept. -/
theorem preserves {P : Host → Prop} (hr : Reaches kind h h')
    (hP : ∀ h m, kind m → P h → P (h.move m)) (start : P h) : P h' := by
  obtain ⟨ms, hms, rfl⟩ := hr
  unfold moves
  induction ms generalizing h with
  | nil => exact start
  | cons m ms ih =>
    rw [List.foldl_cons]
    have hm : P (h.move m) := hP h m (hms m List.mem_cons_self) start
    exact ih hm fun n hn => hms n (List.mem_cons_of_mem m hn)

end Reaches

end Host

/-! ## The jobs that make a move -/

/-- Whether a job works on the buses of the session's own. -/
def Job.isBareBus : Job → Bool
  | .act _ (.bus _ _) | .follow (.postNext (.bare _)) => true
  | _ => false

/-- Whether a job mounts the registered frame that a configuration names. -/
def Job.opens : Job → Bool
  | .act _ (.frame (.openFrame _ _ _)) => true
  | _ => false

/-- Whether a job can change the configuration of a frame without mounting it. -/
def Job.configures : Job → Bool
  | .act _ (.frame (.configure _ _ _)) | .act _ (.frame (.handle _ _))
  | .deliver (.frame _) _ _ => true
  | _ => false

/-- Whether a job is an operation on a frame. -/
def Job.isOperation : Job → Bool
  | .act _ (.frame _) | .follow (.showContent _) | .follow (.postNext (.frame _))
  | .loaded (.connect _ _) | .painted (.fade _ _ _) | .painted (.retire _ _ _)
  | .deliver (.frame _) _ _ => true
  | _ => false

/-- Whether a job is an operation of the host that adds nodes to the page, or puts them in or out of
it. -/
def Job.editsNodes : Job → Bool
  | .act _ (.page (.insert _ _)) | .act _ (.page (.createIframe _ _ _))
  | .act _ (.page (.createLoader _ _)) | .act _ (.page (.createContainer _ _ _))
  | .act _ (.page (.createPlaceholder _ _ _)) | .act _ (.page (.replace _ _))
  | .act _ (.page (.remove _)) => true
  | _ => false

/-- Which jobs can make a move. Only the moves are listed that come from jobs of one kind. -/
def Job.Makes (job : Job) : Host.Move → Prop
  | .page (.add _) | .page (.wrap _ _ _) | .page (.replace _ _) | .page (.remove _) =>
    job.editsNodes = true
  | .page (.onLoad _ cb) => ∃ nested node, job = .act nested (.page (.onLoad node cb))
  | .page (.removeListener id) => ∃ nested, job = .act nested (.page (.removeListener id))
  | .page .takePaint => ∃ ran, job = .paint ran
  | .page (.takeLoads _) => ∃ nested node, job = .act nested (.page (.fireLoad node))
  | .page .takePosted => False
  | .connect f g => job = .loaded (.connect f g)
  | .fade f g l => job = .painted (.fade f g l)
  | .retire f g l => job = .painted (.retire f g l)
  | .execute (.bare _) _ _ | .reply (.bare _) _ | .postNext (.bare _) | .newBus | .setBus _ _ =>
    job.isBareBus = true
  | .cache _ _ => ∃ nested name a, job = .act nested (.cache name a)
  | .registerCommand _ command cb =>
    ∃ nested name, job = .act nested (.frame (.registerCommand name command cb))
  | .enroll _ => job.opens = true
  | .patch _ _ => job.configures = true
  | .mount _ _ | .destroy _ | .showContent _ | .execute (.frame _) _ _ | .reply (.frame _) _
  | .postNext (.frame _) => job.isOperation = true
  | _ => True

/-- Whether a move changes a configuration and nothing else. -/
def Host.Move.isPatch : Host.Move → Bool
  | .patch _ _ => true
  | _ => false

/-- A move of a frame, or of its bus, that is part of an operation on it. -/
def Host.Move.OfFrame (f : FrameRef) : Host.Move → Prop
  | .mount g _ | .destroy g | .showContent g | .patch g _ => g = f
  | .execute r _ _ | .reply r _ => r = .frame f
  | .failCheck c _ => c.frame = f
  | .openChannel => True
  | _ => False

/-- A move of a frame, or of its bus, that does more than to change its configuration. -/
def Host.Move.ActsOn (f : FrameRef) (m : Host.Move) : Prop := m.OfFrame f ∧ m.isPatch = false

/-- A move by which a frame makes a call. -/
def Host.Move.Calls (f : FrameRef) : Host.Move → Prop
  | .execute r _ _ => r = .frame f
  | .openChannel => True
  | _ => False

/-- The moves of a call act on the frame. -/
theorem Host.Move.Calls.actsOn {f : FrameRef} {m : Host.Move} (hm : m.Calls f) : m.ActsOn f := by
  cases m with
  | execute | openChannel => exact ⟨hm, rfl⟩
  | _ => exact hm.elim

/-- An operation on a frame may make that frame's moves. -/
theorem Job.makes_of_ofFrame {job : Job} (hjob : job.isOperation = true) {f : FrameRef}
    {m : Host.Move} (hm : m.OfFrame f) (hpatch : m.isPatch = true → job.configures = true) :
    job.Makes m := by
  cases m with
  | mount | destroy | showContent => exact hjob
  | openChannel | failCheck => trivial
  | patch => exact hpatch rfl
  | execute | reply =>
    cases hm
    exact hjob
  | _ => exact hm.elim

/-- An operation on a frame may make the moves that act on it. -/
theorem Job.makes_of_actsOn {job : Job} (hjob : job.isOperation = true) {f : FrameRef}
    {m : Host.Move} (hm : m.ActsOn f) : job.Makes m :=
  makes_of_ofFrame hjob hm.1 fun hpatch => Bool.noConfusion (hpatch.symm.trans hm.2)

/-! ## Operations on frames -/

namespace Host

open Host.Move (OfFrame ActsOn Calls)

variable {h h' : Host} {f : FrameRef}

/-- The moves that act on a frame are moves of the frame. -/
theorem Reaches.ofFrame (hr : Reaches (ActsOn f) h h') : Reaches (OfFrame f) h h' :=
  hr.mono fun _ => And.left

/-- A call that a bus accepts is a move. -/
theorem reaches_execute {kind : Move → Prop} {r : BusRef} {task : Task} {responder : Responder}
    (hx : h.execute r task responder = .ok h') (hk : kind (.execute r task responder)) :
    Reaches kind h h' := by
  rw [← move_execute hx]
  exact Reaches.single hk

/-- A call moves the host only as calls do. -/
theorem calls_call (m : Method) : Reaches (Calls f) h (h.call f m).1 := by
  unfold call
  refine (Reaches.single (m := .openChannel) trivial).trans ?_
  dsimp only
  split
  · next h' hx => exact reaches_execute hx rfl
  · exact Reaches.refl _

/-- A call by name moves the host only as calls do. -/
theorem calls_callByName (name : String) (params : Option Value) (cb : Callback) :
    Reaches (Calls f) h (h.callByName f name params cb).1 := by
  unfold callByName
  split
  · next h' hx => exact reaches_execute hx rfl
  · exact Reaches.refl h

/-- A call only acts on its frame. -/
theorem reaches_call (m : Method) : Reaches (ActsOn f) h (h.call f m).1 :=
  (calls_call m).mono fun _ => Calls.actsOn

/-- A call by name only acts on its frame. -/
theorem reaches_callByName (name : String) (params : Option Value) (cb : Callback) :
    Reaches (ActsOn f) h (h.callByName f name params cb).1 :=
  (calls_callByName name params cb).mono fun _ => Calls.actsOn

/-- A check is one of its frame, and knows the generation in which it begins. -/
theorem frame?_of_check? {c : Check} (hc : h.check? f = some c) :
    c.frame = f ∧ ∃ frame, h.frame? f = some frame ∧ c.generation = frame.generation := by
  unfold check? at hc
  split at hc
  · cases hc
  · next frame hf =>
    dsimp only at hc
    split at hc
    · cases hc
      exact ⟨rfl, frame, hf, rfl⟩
    · cases hc

/-- A frame that is there can be passed through a function that only has to be right for it. -/
theorem modifyFrame_congr {frame : Frame} (hf : h.frame? f = some frame) {g g' : Frame → Frame}
    (hg : g frame = g' frame) : h.modifyFrame f g = h.modifyFrame f g' := by
  unfold modifyFrame
  congr 1
  refine List.ext_getElem? fun n => ?_
  rw [List.getElem?_modify, List.getElem?_modify]
  by_cases hn : f = n
  · subst hn
    rw [show h.frames[f]? = some frame from hf]
    simp [hg]
  · simp [hn]

/-- A frame that gets a configuration is mounted, or it is told of the configuration by a call. -/
theorem configure_moves (patch : Config) : (h.configure f patch).1 = (h.mount f patch).1 ∨
    Reaches (fun m => m = .patch f patch ∨ m.Calls f) h (h.configure f patch).1 := by
  unfold configure
  split
  · exact .inr (Reaches.refl h)
  · next frame hf =>
    split
    · exact .inl rfl
    · have hpatch :
          h.modifyFrame f (fun frame' => { frame' with config := frame.config.merged patch }) =
            h.move (.patch f patch) := modifyFrame_congr hf rfl
      dsimp only
      rw [hpatch]
      have hpatched : Reaches (fun m => m = .patch f patch ∨ m.Calls f) h (h.move (.patch f patch)) :=
        Reaches.single (.inl rfl)
      exact .inr (hpatched.trans ((calls_call _).mono fun _ => .inr))

/-- Configuring moves the frame only, a remount included. -/
theorem reaches_configure (patch : Config) : Reaches (OfFrame f) h (h.configure f patch).1 := by
  rcases configure_moves (h := h) (f := f) patch with hmount | hr
  · rw [hmount]
    exact Reaches.single (m := .mount f patch) rfl
  · refine hr.mono ?_
    rintro m (rfl | hcalls)
    · rfl
    · exact hcalls.actsOn.1

/-- A reply changes its own bus and the replies that were delivered, and nothing else. -/
theorem host_reply (r : BusRef) (data : Option Value) :
    (h.bus? r = none ∧ (h.reply r data).1 = h) ∨
      ∃ b replies, h.bus? r = some b ∧
        (h.reply r data).1 = { h.setBus r b.answer.2 with replies } := by
  unfold reply
  cases h.bus? r with
  | none => exact .inl ⟨rfl, rfl⟩
  | some b =>
    refine .inr ?_
    dsimp only
    split
    · exact ⟨b, _, rfl, rfl⟩
    · next call _ => cases call.responder <;> exact ⟨b, _, rfl, rfl⟩

/-- An answer leaves the page as it is: what it calls is called later. -/
theorem page_reply (r : BusRef) (data : Option Value) : (h.reply r data).1.page = h.page := by
  rcases h.host_reply r data with ⟨-, hreply⟩ | ⟨b, replies, -, hreply⟩
  · rw [hreply]
  · rw [hreply]
    cases r <;> rfl

/-- A call changes its own bus and what is on its way, and nothing at all if it is refused. -/
theorem host_execute (r : BusRef) (task : Task) (responder : Responder) :
    h.move (.execute r task responder) = h ∨
      ∃ b bus posted, h.bus? r = some b ∧ b.execute task responder = .ok (bus, posted) ∧
        h.move (.execute r task responder) =
          { h.setBus r bus with page := h.page.post? posted } := by
  show (h.execute r task responder).toOption.getD h = h ∨ ∃ b bus posted, h.bus? r = some b ∧
    b.execute task responder = .ok (bus, posted) ∧ (h.execute r task responder).toOption.getD h = _
  unfold execute
  cases h.bus? r with
  | none => exact .inl rfl
  | some b =>
    dsimp only
    cases hx : b.execute task responder with
    | error e => exact .inl rfl
    | ok taken => exact .inr ⟨b, taken.1, taken.2, rfl, hx, rfl⟩

/-- Posting a deferred task changes its own bus and what is on its way, and nothing else. -/
theorem host_postNext (r : BusRef) : h.postNext r = h ∨ ∃ b, h.bus? r = some b ∧
    h.postNext r = { h.setBus r b.postNext.1 with page := h.page.post? b.postNext.2 } := by
  unfold postNext
  cases h.bus? r with
  | none => exact .inl rfl
  | some b => exact .inr ⟨b, rfl, rfl⟩

/-- The registration of a command changes the commands of its frame, and nothing at all if it is
refused. -/
theorem host_registerCommand (f : FrameRef) (name : String) (cb : Callback) :
    h.move (.registerCommand f name cb) = h ∨
      ∃ frame commands, h.frame? f = some frame ∧ frame.commands.register name cb = .ok commands ∧
        h.move (.registerCommand f name cb) =
          h.modifyFrame f fun frame => { frame with commands } := by
  show (h.registerCommand f name cb).toOption.getD h = h ∨ ∃ frame commands,
    h.frame? f = some frame ∧ frame.commands.register name cb = .ok commands ∧
      (h.registerCommand f name cb).toOption.getD h = _
  unfold registerCommand
  cases h.frame? f with
  | none => exact .inl rfl
  | some frame =>
    dsimp only
    cases hr : frame.commands.register name cb with
    | error e => exact .inl rfl
    | ok commands => exact .inr ⟨frame, commands, rfl, hr, rfl⟩

/-- Fading a loader does nothing once its mount is over. Else the loader is styled, and a hook that
takes it waits for the next paint. -/
theorem fadeLoader_cases (f : FrameRef) (g : ℕ) (loader : NodeId) :
    h.fadeLoader f g loader = h ∨
      ∃ frame, h.frame? f = some frame ∧ frame.generation = g ∧ h.fadeLoader f g loader =
        { h with page := (h.page.setStyle loader Look.faded).afterPaint (.retire f g loader) } := by
  unfold fadeLoader
  cases h.frame? f with
  | none => exact .inl rfl
  | some frame =>
    dsimp only
    split
    · next hg => exact .inr ⟨frame, rfl, hg, rfl⟩
    · exact .inl rfl

/-- The failure of a check does nothing once its mount is over. Else it is reported, and the iframe of
the mount, if there is one, shows a document. -/
theorem failCheck_cases (c : Check) (e : Error) :
    h.failCheck c e = (h, []) ∨
      ∃ frame page, h.frame? c.frame = some frame ∧ frame.generation = c.generation ∧
        (frame.nodes = none ∧ page = h.page ∨
          ∃ nodes document, frame.nodes = some nodes ∧
            page = h.page.showDocument nodes.iframe document) ∧
        h.failCheck c e = ({ h with page }, h.report c.frame e ++ [.showContent c.frame]) := by
  unfold failCheck
  cases h.frame? c.frame with
  | none => exact .inl rfl
  | some frame =>
    dsimp only
    split
    · next hg =>
      refine .inr ⟨frame, _, rfl, hg, ?_, rfl⟩
      cases frame.nodes with
      | none => exact .inl ⟨rfl, rfl⟩
      | some nodes => exact .inr ⟨nodes, _, rfl, rfl⟩
    · exact .inl rfl

/-- A message tells a frame to lay a configuration over its own. -/
def Patches (h : Host) (f : FrameRef) (data : Value) (patch : Config) : Prop :=
  ∃ frame text, h.frame? f = some frame ∧ data.string? = some text ∧
    (Inbound.decode text).frameId = frame.frameId ∧ (Inbound.decode text).kind = .callCommand ∧
    frame.commands.get? ((Inbound.decode text).commandName.getD "") = some .configure ∧
    Config.ofValue (orNull (Inbound.decode text).commandData) = .ok patch

/-- A message that calls a command of the frame is handled by running the command. -/
theorem handle_of_command {data : Value} {text : String} (hf : h.frame? f = some frame)
    (htext : data.string? = some text) (hid : (Inbound.decode text).frameId = frame.frameId)
    (hkind : (Inbound.decode text).kind = .callCommand) :
    h.handle f data = h.runCommand f ((Inbound.decode text).commandName.getD "")
      (orNull (Inbound.decode text).commandData) := by
  unfold handle
  rw [hf, htext]
  dsimp only
  rw [if_pos hid]
  unfold dispatch
  rw [hkind]

/-- A frame does with such a message what it does when its host changes the configuration. -/
theorem handle_of_patches {data : Value} {patch : Config} (hp : h.Patches f data patch) :
    h.handle f data = ((h.configure f patch).1, (h.configure f patch).2.2) := by
  obtain ⟨frame, text, hf, htext, hid, hkind, hcommand, hpatch⟩ := hp
  rw [handle_of_command hf htext hid hkind]
  unfold runCommand
  rw [hf, Option.bind_some, hcommand]
  dsimp only
  rw [hpatch]

/-- A message that patches the configuration is handled by configuring. -/
theorem handle_eq_of_patches {data : Value} {patch : Config} (hp : h.Patches f data patch) :
    (h.handle f data).1 = (h.configure f patch).1 := congrArg Prod.fst (handle_of_patches hp)

/-- A move that a message can ask for, other than to change the configuration. -/
def Move.Answers (f : FrameRef) (m : Move) : Prop :=
  m = .showContent f ∨ m = .destroy f ∨ ∃ data, m = .reply (.frame f) data

/-- A message tells a frame a configuration, or it is answered by one move, or it does nothing. -/
theorem handle_moves (data : Value) : (∃ patch, h.Patches f data patch) ∨
    (∃ m : Move, m.Answers f ∧ (h.handle f data).1 = h.move m) ∨ (h.handle f data).1 = h := by
  unfold handle
  split
  · next frame text hf htext =>
    dsimp only
    split
    · next hid =>
      unfold dispatch
      split
      · exact .inr (.inl ⟨.reply (.frame f) _, .inr (.inr ⟨_, rfl⟩), rfl⟩)
      · refine .inr (.inr ?_)
        split <;> rfl
      · -- Of the kinds a message has, a return answers the bus and a command may move the frame.
        next hkind =>
        unfold runCommand
        split
        · exact .inr (.inr rfl)
        · exact .inr (.inl ⟨.showContent f, .inl rfl, rfl⟩)
        · exact .inr (.inl ⟨.destroy f, .inr (.inl rfl), rfl⟩)
        · exact .inr (.inr rfl)
        · next hcommand =>
          rw [hf, Option.bind_some] at hcommand
          split
          · exact .inr (.inr rfl)
          · next patch hpatch =>
            exact .inl ⟨patch, frame, text, hf, htext, hid, hkind, hcommand, hpatch⟩
      · exact .inr (.inr rfl)
      · exact .inr (.inr rfl)
    · exact .inr (.inr rfl)
  · exact .inr (.inr rfl)

/-- A message that tells a frame no configuration does more than to change the one it has. -/
theorem handle_cases (data : Value) :
    (∃ patch, h.Patches f data patch) ∨ Reaches (ActsOn f) h (h.handle f data).1 := by
  rcases handle_moves data with hp | ⟨m, hm, hmove⟩ | hsame
  · exact .inl hp
  · rw [hmove]
    refine .inr (Reaches.single ?_)
    rcases hm with rfl | rfl | ⟨data, rfl⟩ <;> exact ⟨rfl, rfl⟩
  · rw [hsame]
    exact .inr (Reaches.refl h)

/-- Handling a message moves the frame only. -/
theorem reaches_handle (data : Value) : Reaches (OfFrame f) h (h.handle f data).1 := by
  rcases handle_cases data with ⟨patch, hp⟩ | hr
  · rw [handle_eq_of_patches hp]
    exact reaches_configure patch
  · exact hr.ofFrame

/-- A registered frame is found, or made, and then it is mounted. -/
theorem reaches_openFrame (config : Config) :
    Reaches (fun m => (∃ frameId, m = .enroll frameId) ∨ m.ActsOn (h.openFrame config).2) h
      (h.openFrame config).1 := by
  have henroll : Reaches (fun m => (∃ frameId, m = .enroll frameId) ∨
      m.ActsOn (h.openFrame config).2) h (h.registered (h.defaults.merged config).frameId).1 :=
    Reaches.single (m := .enroll (h.defaults.merged config).frameId) (.inl ⟨_, rfl⟩)
  refine henroll.trans ?_
  exact Reaches.single (m := .mount (h.openFrame config).2 (h.defaults.merged config))
    (.inr ⟨rfl, rfl⟩)

/-- A check that ends may fail. -/
theorem reaches_endCheck (c : Check) :
    Reaches (fun m => ∃ e, m = .failCheck c e) h (h.endCheck c).2.1 := by
  unfold endCheck
  split
  · exact Reaches.refl h
  · next e _ => exact Reaches.single (m := .failCheck c e) ⟨e, rfl⟩

end Host

/-! ## Jobs -/

namespace Session

open Host (Reaches)

variable {s : Session}

/-- The moves of a job lead from the host of `s` to that of `t`. -/
abbrev Moves (job : Job) (s t : Session) : Prop := Reaches job.Makes s.host t.host

/-- A step that leaves the host alone makes no move. -/
theorem Moves.none {job : Job} {t : Session} (h : t.host = s.host) : Moves job s t := by
  unfold Moves
  rw [h]
  exact Reaches.refl s.host

/-- A step may make one move of its job's. -/
theorem Moves.single {job : Job} {t : Session} {m : Host.Move} (hm : job.Makes m)
    (h : t.host = s.host.move m) : Moves job s t := by
  unfold Moves
  rw [h]
  exact Reaches.single hm

/-- An operation on a frame may do more than to change its configuration. -/
theorem Moves.actsOn {job : Job} {t : Session} {f : FrameRef} {h : Host}
    (hjob : job.isOperation = true) (hr : Reaches (Host.Move.ActsOn f) s.host h)
    (ht : t.host = h) : Moves job s t := by
  unfold Moves
  rw [ht]
  exact hr.mono fun _ => Job.makes_of_actsOn hjob

/-- A step that operates a frame makes the moves of that frame. -/
theorem Moves.ofFrame {job : Job} {t : Session} {f : FrameRef} {h : Host}
    (hjob : job.isOperation = true) (hconfigures : job.configures = true)
    (hr : Reaches (Host.Move.OfFrame f) s.host h) (ht : t.host = h) : Moves job s t := by
  unfold Moves
  rw [ht]
  exact hr.mono fun _ hm => Job.makes_of_ofFrame hjob hm fun _ => hconfigures

/-- A step that opens a frame makes the moves of opening it. -/
theorem Moves.openFrame {job : Job} {t : Session} {config : Config}
    (hjob : job.isOperation = true) (hopens : job.opens = true)
    (ht : t.host = (s.host.openFrame config).1) : Moves job s t := by
  unfold Moves
  rw [ht]
  refine (Host.reaches_openFrame config).mono ?_
  rintro m (⟨frameId, rfl⟩ | hm)
  · exact hopens
  · exact Job.makes_of_actsOn hjob hm

/-- The actions on the page move the host as their jobs may. -/
theorem moves_actPage (nested : Bool) (a : PageAction) :
    Moves (.act nested (.page a)) s (s.actPage a) := by
  unfold actPage
  cases a <;> dsimp only
  case insert => exact Moves.single (m := .page (.add _)) rfl rfl
  case createIframe => exact Moves.single (m := .page (.add _)) rfl rfl
  case createLoader => exact Moves.single (m := .page (.add _)) rfl rfl
  case createContainer => exact Moves.single (m := .page (.wrap _ _ _)) rfl rfl
  case createPlaceholder => exact Moves.single (m := .page (.add _)) rfl rfl
  case replace => exact Moves.single (m := .page (.replace _ _)) rfl rfl
  case remove => exact Moves.single (m := .page (.remove _)) rfl rfl
  case setStyle => exact Moves.single (m := .page (.setStyle _ _)) trivial rfl
  case showDocument => exact Moves.single (m := .page (.showDocument _ _)) trivial rfl
  -- These three edits are marked by the action that may make them.
  case onLoad node cb => exact Moves.single (m := .page (.onLoad _ cb)) ⟨nested, node, rfl⟩ rfl
  case fireLoad node => exact Moves.single (m := .page (.takeLoads _)) ⟨nested, node, rfl⟩ rfl
  case afterPaint cb => exact Moves.single (m := .page (.afterPaint cb)) trivial rfl
  case addListener cb => exact Moves.single (m := .page (.addListener cb)) trivial rfl
  case removeListener id => exact Moves.single (m := .page (.removeListener id)) ⟨nested, rfl⟩ rfl
  case post => exact Moves.single (m := .page (.post _)) trivial rfl
  all_goals exact Moves.none rfl

/-- The actions on a cache move the host as their jobs may. -/
theorem moves_actCache (nested : Bool) (name : CacheName) (a : CacheAction) :
    Moves (.act nested (.cache name a)) s (s.actCache name a) := by
  -- Whatever it is, it is one event of the cache.
  have hmakes : ∀ r e, (Job.act nested (.cache name a)).Makes (.cache r e) :=
    fun _ _ => ⟨nested, name, a, rfl⟩
  unfold actCache
  refine onCache_cases (Moves.none rfl) fun r _ => ?_
  cases a <;> dsimp only
  case path config built =>
    refine onConfig_cases (fun _ _ => Moves.none rfl) fun c _ => ?_
    exact Moves.single (hmakes r (.path c.pathKey built)) rfl
  case iframe config look =>
    refine onConfig_cases (fun _ _ => Moves.none rfl) fun c _ => ?_
    exact Moves.single (hmakes r (.iframe c.lookKey look)) rfl
  case loader config look =>
    refine onConfig_cases (fun _ _ => Moves.none rfl) fun c _ => ?_
    exact Moves.single (hmakes r (.loader c.lookKey look)) rfl
  case has => exact onConfig_cases (fun _ _ => Moves.none rfl) fun _ _ => Moves.none rfl
  case forget frameId => exact Moves.single (hmakes r (.forget frameId)) rfl
  case count => exact Moves.none rfl

/-- The actions on a frame move the host as their jobs may. -/
theorem moves_actFrame (nested : Bool) (a : FrameAction) :
    Moves (.act nested (.frame a)) s (s.actFrame a) := by
  unfold actFrame
  cases a <;> dsimp only
  case openFrame =>
    refine onConfig_cases (fun _ _ => Moves.none rfl) fun c _ => ?_
    exact Moves.openFrame rfl rfl rfl
  case newFrame name checks => exact Moves.single (m := .newFrame checks) trivial rfl
  case mount =>
    refine onFrame_cases (Moves.none rfl) fun f _ => ?_
    refine onConfig_cases (fun _ _ => Moves.none rfl) fun c _ => ?_
    exact Moves.single (m := .mount f c) rfl rfl
  case destroy =>
    refine onFrame_cases (Moves.none rfl) fun f _ => ?_
    exact Moves.single (m := .destroy f) rfl rfl
  case showContent =>
    refine onFrame_cases (Moves.none rfl) fun f _ => ?_
    exact Moves.single (m := .showContent f) rfl rfl
  case configure =>
    refine onFrame_cases (Moves.none rfl) fun f _ => ?_
    refine onConfig_cases (fun _ _ => Moves.none rfl) fun c _ => ?_
    exact Moves.ofFrame rfl rfl (Host.reaches_configure c) rfl
  case handle name data =>
    refine onFrame_cases (Moves.none rfl) fun f _ => ?_
    exact Moves.ofFrame rfl rfl (Host.reaches_handle data) rfl
  case call name method call =>
    refine onFrame_cases (Moves.none rfl) fun f _ => ?_
    exact Moves.actsOn rfl (Host.reaches_call method) rfl
  case callByName name method params cb =>
    refine onFrame_cases (Moves.none rfl) fun f _ => ?_
    exact Moves.actsOn rfl (Host.reaches_callByName method params cb) rfl
  -- A registration is a move only where it is accepted.
  case registerCommand name command cb =>
    refine onFrame_cases (Moves.none rfl) fun f _ => ?_
    split
    · exact Moves.none rfl
    · next h hr =>
      exact Moves.single (m := .registerCommand f command cb) ⟨nested, name, rfl⟩
        (Host.move_registerCommand hr).symm
  case same =>
    refine onFrame_cases (Moves.none rfl) fun f _ => ?_
    exact onFrame_cases (Moves.none rfl) fun _ _ => Moves.none rfl
  case getConfig | handlers | hasCommand =>
    exact onFrame_cases (Moves.none rfl) fun _ _ => Moves.none rfl
  case forget | namesOf => exact Moves.none rfl

/-- A check that moves on moves the host as its job may. -/
theorem moves_moveCheck {job : Job} {t : Session} (ht : Moves job s t) (f : FrameRef)
    (state : CheckState) {wait : Session → Check → Session}
    {rest : Except Error Unit → List Job}
    (hwait : ∀ u c, Moves job s u → Moves job s (wait u c)) :
    Moves job s (t.moveCheck f state wait rest) := by
  -- A check waits, which is for the caller to see to, or it ends by moves of its frame.
  have hend : ∀ u c, Moves job s u → Moves job s (u.endCheck c rest) := by
    intro u c hu
    refine hu.trans ((Host.reaches_endCheck c).mono ?_)
    rintro m ⟨e, rfl⟩
    trivial
  unfold moveCheck
  cases state with
  | ended => exact ht
  | fresh =>
    dsimp only
    split
    · exact ht
    · split
      · exact hwait _ _ ht
      · exact hend _ _ ht
  | waiting c =>
    dsimp only
    split
    · exact hwait _ _ ht
    · exact hend _ _ ht

/-- The actions on a kept call move the host as their jobs may. -/
theorem moves_actCall (nested : Bool) (a : CallAction) :
    Moves (.act nested (.call a)) s (s.actCall nested a) := by
  unfold actCall
  cases a <;> dsimp only
  case poll name =>
    split
    · exact Moves.none rfl
    · unfold pollCall
      split
      · exact Moves.none rfl
      · split <;> exact Moves.none rfl
    · -- A check that is polled moves on, and may fail.
      exact moves_moveCheck (t := s.drop name) (Moves.none rfl) _ _ fun _ _ hu => hu
  case pollAs =>
    split
    · unfold pollCallAs
      dsimp only
      split <;> exact Moves.none rfl
    · exact Moves.none rfl
  case check => exact onFrame_cases (Moves.none rfl) fun _ _ => Moves.none rfl
  case setGate isOpen => exact Moves.single (m := .setGate isOpen) trivial rfl
  case settle =>
    split
    · exact Moves.none rfl
    · unfold settle
      split
      · exact Moves.single (m := .endAborted) trivial rfl
      · exact Moves.none rfl
  case settled | drop => exact Moves.none rfl

/-- The sweep of the frames moves the host as its job may. -/
theorem moves_sweep (start : ℕ) : Moves (.sweep start) s (s.sweep start) := by
  have hset : ∀ (u : Session) n state, Moves (.sweep start) s u →
      Moves (.sweep start) s (u.setCheck n state) := by
    intro u n state hu
    exact hu.trans (Reaches.single (m := .setCheck n state) trivial)
  have hself : Moves (.sweep start) s s := Moves.none rfl
  unfold sweep
  split
  · next n c _ =>
    dsimp only
    split
    · exact hset s n .ended hself
    · exact moves_moveCheck (hset s n .ended hself) _ _ fun u c' hu => hset u n (.waiting c') hu
  · split
    · exact Moves.single (m := .endAborted) trivial rfl
    · exact Moves.none rfl

/-- The actions on a bare bus move the host as their jobs may. -/
theorem moves_actBus (nested : Bool) (name : String) (a : BusAction) :
    Moves (.act nested (.bus name a)) s (s.actBus name a) := by
  unfold actBus
  cases a <;> dsimp only
  case make => exact Moves.single (m := .newBus) rfl rfl
  case attach =>
    refine onBus_cases (Moves.none rfl) fun n b _ _ => ?_
    exact Moves.single (m := .setBus n _) rfl rfl
  case connect =>
    refine onBus_cases (Moves.none rfl) fun n b _ _ => ?_
    exact Moves.single (m := .setBus n _) rfl rfl
  case reset =>
    refine onBus_cases (Moves.none rfl) fun n b _ _ => ?_
    exact Moves.single (m := .setBus n _) rfl rfl
  case execute method data receiver =>
    refine onBus_cases (Moves.none rfl) fun n b _ _ => ?_
    refine executeBus_cases
      (Q := fun t _ => Moves (.act nested (.bus name (.execute method data receiver))) s t)
      (fun _ _ => Moves.none rfl) (fun _ => Moves.none rfl)
      (fun _ _ => Moves.single (m := .openChannel) trivial rfl) (fun _ _ _ ht _ => ht) ?_
    -- The channel first, if one is opened, and then the call.
    intro t responder h ht hx
    exact ht.trans (Host.reaches_execute hx rfl)
  case reply data =>
    refine onBus_cases (Moves.none rfl) fun n b _ _ => ?_
    exact Moves.single (m := .reply (.bare n) data) rfl rfl

/-- Unwinding after a panic leaves the host alone. -/
theorem host_unwind (jobs : List Job) : (s.unwind jobs).host = s.host := by
  induction jobs with
  | nil => rfl
  | cons job jobs ih => cases job <;> first | exact ih | rfl

/-- A job changes the host by moves that it can make. -/
theorem moves_perform (job : Job) : Moves job s (s.perform job) := by
  cases job with
  | act nested a =>
    cases a with
    | page a => exact moves_actPage nested a
    | frame a => exact moves_actFrame nested a
    | call a => exact moves_actCall nested a
    | cache name a => exact moves_actCache nested name a
    | bus name a => exact moves_actBus nested name a
    | unknown => exact Moves.none rfl
  | raise => exact Moves.none (host_unwind _)
  | follow x =>
    cases x with
    | invoke => exact Moves.none rfl
    | showContent f => exact Moves.single (m := .showContent f) rfl rfl
    | postNext r =>
      refine Moves.single (m := .postNext r) ?_ rfl
      cases r <;> rfl
  | loaded hook =>
    cases hook with
    | host => exact Moves.none rfl
    | connect f g =>
      show Moves _ s (s.runLoadHook (.connect f g))
      unfold runLoadHook
      dsimp only
      split
      · exact Moves.single (m := .connect f g) rfl rfl
      · exact Moves.none rfl
  | paint ran =>
    show Moves _ s (s.paint ran)
    unfold paint
    split
    · exact Moves.none rfl
    · next hook paints hp =>
      refine Moves.single (m := .page .takePaint) ⟨ran, rfl⟩ ?_
      -- Painting takes the first of the hooks that wait.
      show _ = { s.host with page := { s.host.page with paints := s.host.page.paints.tail } }
      rw [hp]
      rfl
  | painted hook =>
    show Moves _ s (s.runPaintHook hook)
    unfold runPaintHook
    cases hook with
    | host => exact Moves.none rfl
    | fade f g l =>
      dsimp only
      split
      · exact Moves.single (m := .fade f g l) rfl rfl
      · exact Moves.none rfl
    | retire f g l =>
      dsimp only
      split
      · exact Moves.single (m := .retire f g l) rfl rfl
      · exact Moves.none rfl
  | deliver l origin data =>
    show Moves _ s (s.deliver l origin data)
    unfold deliver
    cases l with
    | host => exact Moves.none rfl
    | frame f =>
      dsimp only
      split
      · exact Moves.ofFrame rfl rfl (Host.reaches_handle data) rfl
      · exact Moves.none rfl
  | sweep start => exact moves_sweep start
  | note | fence | invoke | hold | keep | reply => exact Moves.none rfl

/-! ## Steps and runs -/

/-- A step changes the host by moves that the first job of the agenda can make. -/
theorem step_reaches {job : Job} {jobs : List Job} (h : s.agenda = job :: jobs) :
    Reaches job.Makes s.host s.step.host := by
  rw [step_cons h]
  exact moves_perform (s := { s with agenda := jobs }) job

/-- The beginning of an operation takes the messages that were posted. -/
theorem begin_host (a : Action) : (s.begin a).host = s.host.move (.page .takePosted) := rfl

/-- A step of a run changes the host by moves, of which `kind` knows all. -/
theorem after_reaches {kind : Host.Move → Prop} {s : Session} {as : List Action} (i : ℕ)
    (htake : kind (.page .takePosted))
    (hjob : ∀ job jobs, (s.after as i).agenda = job :: jobs → ∀ m, job.Makes m → kind m) :
    Reaches kind (s.after as i).host (s.after as (i + 1)).host := by
  rcases after_succ s as i with ⟨hne, h⟩ | ⟨a, -, -, h⟩ | ⟨-, h⟩
  · obtain ⟨job, jobs, hagenda⟩ := List.exists_cons_of_ne_nil hne
    rw [h]
    exact (step_reaches hagenda).mono (hjob job jobs hagenda)
  · rw [h, begin_host]
    exact Reaches.single htake
  · rw [h]
    exact Reaches.refl _

/-- The host of every state of a run is reached by moves. -/
theorem host_after (s : Session) (as : List Action) (i : ℕ) :
    ∃ ms, (s.after as i).host = s.host.moves ms := by
  have hreaches : Reaches (fun _ => True) s.host (s.after as i).host := by
    induction i with
    | zero => exact Reaches.refl _
    | succ i ih => exact ih.trans (after_reaches i trivial fun _ _ _ _ _ => trivial)
  obtain ⟨ms, -, hms⟩ := hreaches
  exact ⟨ms, hms⟩

end Session
end FrameHost
