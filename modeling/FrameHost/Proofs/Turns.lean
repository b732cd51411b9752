import FrameHost.Proofs.Pages

/-!
# What becomes of frames

A move leaves each frame in one of a few ways (`Host.Turn`): its mount goes on, its configuration is
changed, its loader goes, it is mounted anew, or released because there is no place for it, or torn
down; and it may add a frame to which nothing has happened (`turns_move`). So the generation of a
frame never goes down, and as long as it stays the same the frame has the same iframe. What a move
leaves waiting for a frame belongs to the mount that the frame is in then (`leads_move`).
-/

namespace FrameHost

open Json (Value)

/-! ## Buses -/

/-- A bus serves the same iframe under the same frame ID, whatever calls are on it. -/
structure Bus.SameLine (b b' : Bus) : Prop where
  frameId : b'.frameId = b.frameId
  connected : b'.connected = b.connected
  target : b'.target = b.target

/-- A bus is on the same line as itself. -/
theorem Bus.SameLine.refl (b : Bus) : b.SameLine b := ⟨rfl, rfl, rfl⟩

/-- An accepted task keeps the line. -/
theorem Bus.sameLine_execute {b b' : Bus} {task : Task} {responder : Responder}
    {posted : Option Posted} (h : b.execute task responder = .ok (b', posted)) : b.SameLine b' := by
  unfold execute at h
  split at h
  · cases h
  · split at h
    · cases h
    · dsimp only at h
      split at h <;> cases h <;> exact ⟨rfl, rfl, rfl⟩

/-- An answer keeps the line. -/
theorem Bus.sameLine_answer (b : Bus) : b.SameLine b.answer.2 := ⟨rfl, rfl, rfl⟩

/-- Posting the next task keeps the line. -/
theorem Bus.sameLine_postNext (b : Bus) : b.SameLine b.postNext.1 := by
  unfold postNext
  split <;> exact ⟨rfl, rfl, rfl⟩

/-- Why a bus without iframe refuses a task: there is no connection or, for a task that could do
without, no iframe. -/
def Bus.refusal (b : Bus) (task : Task) : Error :=
  if task.isConfigUpdate then .frameNotMounted b.frameId else .notConnected b.frameId

/-- A bus refuses with an error of its connection. -/
theorem Bus.isConnection_refusal (b : Bus) (task : Task) : (b.refusal task).isConnection = true := by
  unfold refusal
  split <;> rfl

/-- A bus has no iframe, and nothing to do. -/
structure Bus.Resting (b : Bus) : Prop where
  connected : b.connected = false
  target : b.target = none
  pending : b.pending = []
  deferred : b.deferred = []

namespace Bus.Resting

variable {b b' : Bus}

/-- A bus is at rest after a reset. -/
theorem reset (b : Bus) : b.reset.Resting := ⟨rfl, rfl, rfl, rfl⟩

/-- A resting bus has nothing to connect to. -/
theorem connect (h : b.Resting) : b.connect.Resting :=
  ⟨congrArg Option.isSome h.target, h.target, h.pending, h.deferred⟩

/-- A resting bus refuses every task. -/
theorem execute (h : b.Resting) (task : Task) (responder : Responder) :
    b.execute task responder = .error (b.refusal task) := by
  unfold Bus.execute admits Bus.refusal
  rw [h.connected, h.target]
  cases task.isConfigUpdate <;> rfl

/-- A resting bus has nobody to answer. -/
theorem answer (h : b.Resting) : b.answer.2 = b := by
  obtain ⟨frameId, connected, target, pending, deferred⟩ := b
  obtain rfl : pending = [] := h.pending
  rfl

/-- A resting bus has nothing to post. -/
theorem postNext (h : b.Resting) : b.postNext = (b, none) := by
  unfold Bus.postNext
  rw [h.target]

end Bus.Resting

/-! ## Frames -/

/-- The mount of a frame goes on, or there is none and none begins. -/
structure Frame.GoesOn (frame frame' : Frame) : Prop where
  config : frame'.config = frame.config
  generation : frame'.generation = frame.generation
  nodes : frame'.nodes = frame.nodes
  className : frame'.className = frame.className
  mounted : frame'.phase.isMounted = frame.phase.isMounted
  loaded : frame.phase = .loaded → frame'.phase = .loaded
  unmounted : frame.phase.isMounted = false → frame'.phase = frame.phase
  busId : frame'.bus.frameId = frame.bus.frameId
  target : frame'.bus.target = frame.bus.target
  resting : frame.bus.Resting → frame'.bus.Resting

/-- A frame goes on as it is. -/
theorem Frame.GoesOn.refl (frame : Frame) : frame.GoesOn frame :=
  ⟨rfl, rfl, rfl, rfl, rfl, id, fun _ => rfl, rfl, rfl, id⟩

/-- A frame goes on with a bus of the same line. -/
theorem Frame.GoesOn.of_bus {frame : Frame} {bus : Bus} (hline : frame.bus.SameLine bus)
    (hresting : frame.bus.Resting → bus.Resting) : frame.GoesOn { frame with bus } :=
  ⟨rfl, rfl, rfl, rfl, rfl, id, fun _ => rfl, hline.frameId, hline.target, hresting⟩

/-- The bus of a frame fits its phase: it has an iframe while the frame is mounted, and nothing at all
to do otherwise. -/
structure Frame.Wired (frame : Frame) : Prop where
  mounted : frame.phase.isMounted = true → frame.bus.target.isSome = true
  resting : frame.phase.isMounted = false → frame.bus.Resting

/-- The frame without its loader. -/
def Frame.unloaded (frame : Frame) : Frame :=
  { frame with nodes := frame.nodes.map fun nodes => { nodes with loader := none } }

/-- A frame keeps its iframe without its loader. -/
@[simp] theorem Frame.iframe?_unloaded (frame : Frame) : frame.unloaded.iframe? = frame.iframe? := by
  unfold unloaded iframe?
  cases frame.nodes <;> rfl

/-- A frame keeps its container without its loader. -/
@[simp] theorem Frame.container?_unloaded (frame : Frame) :
    frame.unloaded.nodes.map Mounted.container = frame.nodes.map Mounted.container := by
  unfold unloaded
  cases frame.nodes <;> rfl

/-- A frame that nothing has happened to. -/
structure Frame.Blank (frame : Frame) : Prop where
  config : frame.config = Config.empty
  phase : frame.phase = .uninitialized
  nodes : frame.nodes = none
  bus : frame.bus = {}

namespace Host

variable {h h' : Host} {f : FrameRef} {frame frame' : Frame} {m : Move}

/-! ## The turns of a frame -/

/-- Whether a move can add nodes, or put nodes in or out of the page. -/
def Move.reshapes : Move → Bool
  | .page e => e.reshapes
  | .mount _ _ | .destroy _ | .retire _ _ _ => true
  | _ => false

/-- What becomes of the frame `f`, being `frame`, with a move. -/
inductive Turn (h : Host) (f : FrameRef) (frame : Frame) : Move → Frame → Prop where
  | goesOn {m : Move} {frame' : Frame} (hgoes : frame.GoesOn frame')
    (hshown : frame'.phase = .loaded → frame.phase = .loaded ∨ m = .showContent f) :
    Turn h f frame m frame'
  | patched (config : Config) :
    Turn h f frame (.patch f config) { frame with config := frame.config.merged config }
  | retired (g : ℕ) (l : NodeId) : Turn h f frame (.retire f g l) frame.unloaded
  /-- There is no place on the page for the frame. -/
  | unplaced (config : Config) :
    Turn h f frame (.mount f config) { frame.renewed config with phase := .uninitialized }
  | placed (config : Config) {place : Place} {nodes : Mounted} (className : String)
    (check : Option ℕ)
    (hplaced : h.Placed (h.mount f config).1 f (frame.renewed config)
      (h.page.removeListener? frame.listener) place nodes) :
    Turn h f frame (.mount f config) ((frame.renewed config).installed className check nodes
      ((frame.renewed config).source (h.page.removeListener? frame.listener)))
  | destroyed (hmounted : frame.phase.isMounted = true) :
    Turn h f frame (.destroy f) { frame.released with phase := .destroyed }

/-- The frames after a move: each takes its turn, and those that are new are blank. -/
structure Turns (h : Host) (m : Move) : Prop where
  turn : ∀ f frame, h.frame? f = some frame →
    ∃ frame', (h.move m).frame? f = some frame' ∧ h.Turn f frame m frame'
  blank : ∀ f frame', h.frame? f = none → (h.move m).frame? f = some frame' → frame'.Blank

/-- Where the frames stay, each takes its turn by standing still. -/
theorem turns_of_frames (hframes : (h.move m).frames = h.frames) : h.Turns m := by
  have hframe : ∀ f, (h.move m).frame? f = h.frame? f := fun f => by
    unfold Host.frame?
    rw [hframes]
  refine ⟨fun f frame hf => ⟨frame, (hframe f).trans hf, .goesOn (.refl frame) .inl⟩, ?_⟩
  intro f frame' hnone hf'
  rw [hframe, hnone] at hf'
  cases hf'

/-- A frame is added. -/
theorem turns_of_added {added : Frame} (hframes : (h.move m).frames = h.frames ++ [added])
    (hblank : added.Blank) : h.Turns m := by
  have hframe : ∀ f, (h.move m).frame? f = (h.frames ++ [added])[f]? := fun f => by
    unfold Host.frame?
    rw [hframes]
  refine ⟨fun f frame hf => ⟨frame, ?_, .goesOn (.refl frame) .inl⟩, fun f frame' hnone hf' => ?_⟩
  · obtain ⟨hlt, -⟩ := List.getElem?_eq_some_iff.mp hf
    rw [hframe, List.getElem?_append_left hlt]
    exact hf
  · have hle : h.frames.length ≤ f := List.getElem?_eq_none_iff.mp hnone
    rw [hframe, List.getElem?_append_right hle, List.getElem?_singleton] at hf'
    split at hf'
    · cases hf'
      exact hblank
    · cases hf'

/-- A frame that is there takes its turn, and the others stay. -/
theorem turns_of_sets (hf : h.frame? f = some frame) (hs : h.Sets (h.move m) f frame')
    (hturn : h.Turn f frame m frame') : h.Turns m := by
  refine ⟨fun f' frame₁ hf' => ?_, fun f' frame₁ hnone hf' => ?_⟩
  · by_cases heq : f' = f
    · subst heq
      cases hf.symm.trans hf'
      exact ⟨frame', hs.frame?, hturn⟩
    · exact ⟨frame₁, (hs.frame?_of_ne heq).trans hf', .goesOn (.refl frame₁) .inl⟩
  · rw [hs f'] at hf'
    split at hf'
    · next heq =>
      rw [heq, hf] at hnone
      cases hnone
    · rw [hnone] at hf'
      cases hf'

/-- The bus of a frame is set, and serves the same iframe. -/
theorem turns_of_bus (hf : h.frame? f = some frame) {bus : Bus}
    (hs : h.Sets (h.move m) f { frame with bus }) (hbus : frame.bus.SameLine bus)
    (hresting : frame.bus.Resting → bus.Resting) : h.Turns m :=
  turns_of_sets hf hs (.goesOn (.of_bus hbus hresting) .inl)

/-- The turns in enrolling a frame: one more frame, blank. -/
theorem turns_enroll (frameId : String) : h.Turns (.enroll frameId) := by
  cases hr : h.registry.get? frameId with
  | some f =>
    refine turns_of_frames ?_
    show (h.registered frameId).1.frames = h.frames
    unfold registered
    rw [hr]
  | none =>
    have hadded : (h.move (.enroll frameId)).frames =
        h.frames ++ [{ cache := .shared, registers := true, checks := h.allowList.isSome }] := by
      show (h.registered frameId).1.frames = _
      unfold registered
      rw [hr]
      rfl
    exact turns_of_added hadded ⟨rfl, rfl, rfl, rfl⟩

/-- The turns in a mount: the frame begins a generation. -/
theorem turns_mount (f : FrameRef) (config : Config) : h.Turns (.mount f config) := by
  cases hf : h.frame? f with
  | none => exact turns_of_frames (congrArg (fun r => r.1.frames) (mount_of_none hf config))
  | some frame =>
    rcases mount_cases hf config with ⟨-, -, hs, -⟩ | ⟨place, nodes, -, -, hplaced⟩
    · exact turns_of_sets hf hs (.unplaced config)
    · obtain ⟨check, hs⟩ := hplaced.frames
      exact turns_of_sets hf hs (.placed config _ check hplaced)

/-- The turns in destroying a frame: its mount ends. -/
theorem turns_destroy (f : FrameRef) : h.Turns (.destroy f) := by
  cases hf : h.frame? f with
  | none => exact turns_of_frames (congrArg Host.frames (destroy_of_none hf))
  | some frame =>
    rcases destroy_cases hf with ⟨-, hsame⟩ | ⟨hmounted, hs, -⟩
    · exact turns_of_frames (congrArg Host.frames hsame)
    · exact turns_of_sets hf hs (.destroyed hmounted)

/-- The turns in showing content: the mount goes on. -/
theorem turns_showContent (f : FrameRef) : h.Turns (.showContent f) := by
  cases hf : h.frame? f with
  | none => exact turns_of_frames (congrArg (fun r => r.1.frames) (showContent_of_none hf))
  | some frame =>
    rcases showContent_cases hf with hsame | ⟨nodes, hphase, -, hs, -⟩
    · exact turns_of_frames (congrArg Host.frames hsame)
    · have hmounted : frame.phase.isMounted = true := by
        rcases hphase with hphase | hphase <;> rw [hphase] <;> rfl
      exact turns_of_sets hf hs (.goesOn ⟨rfl, rfl, rfl, rfl, hmounted.symm, fun _ => rfl,
        fun hnot => Bool.noConfusion (hnot.symm.trans hmounted), rfl, rfl, id⟩ fun _ => .inr rfl)

/-- The turns in a patch: the mount goes on under another configuration. -/
theorem turns_patch (f : FrameRef) (config : Config) : h.Turns (.patch f config) := by
  cases hf : h.frame? f with
  | none => exact turns_of_frames (frames_modifyFrame_of_none hf _)
  | some frame => exact turns_of_sets hf (sets_modifyFrame hf _) (.patched config)

/-- The turns in registering a command: the mount goes on. -/
theorem turns_registerCommand (f : FrameRef) (name : String) (cb : Callback) :
    h.Turns (.registerCommand f name cb) := by
  -- A refused registration changes nothing, an accepted one the commands alone.
  rcases h.host_registerCommand f name cb with hsame | ⟨frame, commands, hf, -, hmove⟩
  · exact turns_of_frames (congrArg Host.frames hsame)
  · have hs : h.Sets (h.move (.registerCommand f name cb)) f { frame with commands } := by
      rw [hmove]
      exact sets_modifyFrame hf _
    exact turns_of_sets hf hs (.goesOn ⟨rfl, rfl, rfl, rfl, rfl, id, fun _ => rfl, rfl, rfl, id⟩ .inl)

/-- The turns in a call: the mount goes on. -/
theorem turns_execute (f : FrameRef) (task : Task) (responder : Responder) :
    h.Turns (.execute (.frame f) task responder) := by
  have hmove : h.move (.execute (.frame f) task responder) =
      (h.execute (.frame f) task responder).toOption.getD h := rfl
  cases hf : h.frame? f with
  | none =>
    refine turns_of_frames ?_
    rw [hmove, execute_of_none hf]
    rfl
  | some frame =>
    rcases execute_cases hf task responder with ⟨e, hx, -⟩ | ⟨bus, posted, h', hx, hbus, hs, -⟩
    · refine turns_of_frames ?_
      rw [hmove, hx]
      rfl
    · -- A resting bus would have refused the task.
      refine turns_of_bus hf (move_execute hx ▸ hs) (Bus.sameLine_execute hbus) fun hrest => ?_
      rw [hrest.execute] at hbus
      cases hbus

/-- The turns in an answer: the mount goes on. -/
theorem turns_reply (f : FrameRef) (data : Option Value) : h.Turns (.reply (.frame f) data) := by
  cases hf : h.frame? f with
  | none =>
    refine turns_of_frames ?_
    show (h.reply (.frame f) data).1.frames = h.frames
    rw [reply_of_none hf]
  | some frame =>
    refine turns_of_bus hf (reply_cases hf data).1 (Bus.sameLine_answer _) fun hrest => ?_
    rw [hrest.answer]
    exact hrest

/-- The turns in posting a deferred task: the mount goes on. -/
theorem turns_postNext (f : FrameRef) : h.Turns (.postNext (.frame f)) := by
  cases hf : h.frame? f with
  | none =>
    refine turns_of_frames ?_
    show (h.postNext (.frame f)).frames = h.frames
    rw [postNext_of_none hf]
  | some frame =>
    refine turns_of_bus hf (postNext_cases hf).1 (Bus.sameLine_postNext _) fun hrest => ?_
    rw [hrest.postNext]
    exact hrest

/-- The turns in a load event: the mount goes on, connected. -/
theorem turns_connect (f : FrameRef) (g : ℕ) : h.Turns (.connect f g) := by
  cases hf : h.frame? f with
  | none => exact turns_of_frames (congrArg (fun r => r.1.frames) (connect_of_none hf g))
  | some frame =>
    rcases connect_cases hf g with ⟨-, hsame⟩ | ⟨-, phase, hphase, hs, -⟩
    · exact turns_of_frames (congrArg Host.frames hsame)
    · have hmounted := isMounted_of_connects hphase
      -- A frame that is shown stays so, and one that is loading is not shown by its load.
      have hloaded : frame.phase = .loaded → phase = .loaded := by
        rcases hphase with ⟨hbefore, -⟩ | ⟨-, hafter⟩
        · rw [hbefore]
          exact fun h => Phase.noConfusion h
        · exact fun _ => hafter
      have hbefore : frame.phase.isMounted = true := by
        rcases hphase with ⟨hphase, -⟩ | ⟨hphase, -⟩ <;> rw [hphase] <;> rfl
      have hshown : phase = .loaded → frame.phase = .loaded := by
        rcases hphase with ⟨-, hafter⟩ | ⟨hphase, -⟩
        · rw [hafter]
          exact fun h => Phase.noConfusion h
        · exact fun _ => hphase
      exact turns_of_sets hf hs (.goesOn ⟨rfl, rfl, rfl, rfl, hmounted, hloaded,
        fun hnot => Bool.noConfusion (hnot.symm.trans hbefore), rfl, rfl, Bus.Resting.connect⟩
        fun h => .inl (hshown h))

/-- The turns in retiring a loader: the mount goes on without it. -/
theorem turns_retire (f : FrameRef) (g : ℕ) (loader : NodeId) : h.Turns (.retire f g loader) := by
  cases hf : h.frame? f with
  | none =>
    have hsame := retireLoader_of_none hf g loader
    exact turns_of_frames (congrArg (fun r => r.1.frames) hsame)
  | some frame =>
    rcases retireLoader_cases hf g loader with ⟨-, hsame⟩ | ⟨-, hs, -⟩
    · exact turns_of_frames (congrArg Host.frames hsame)
    · exact turns_of_sets hf hs (.retired g loader)

/-- In every move each frame takes its turn. -/
theorem turns_move (m : Move) : h.Turns m := by
  -- What belongs to no frame leaves them all standing.
  by_cases hm : m.isFrameless = true
  · exact turns_of_frames (frames_move hm)
  cases m with
  | newFrame checks => exact turns_of_added rfl ⟨rfl, rfl, rfl, rfl⟩
  | enroll frameId => exact turns_enroll frameId
  | mount f config => exact turns_mount f config
  | destroy f => exact turns_destroy f
  | showContent f => exact turns_showContent f
  | patch f config => exact turns_patch f config
  | registerCommand f name cb => exact turns_registerCommand f name cb
  | connect f g => exact turns_connect f g
  | retire f g loader => exact turns_retire f g loader
  | execute r task responder =>
    cases r with
    | bare => exact absurd rfl hm
    | frame f => exact turns_execute f task responder
  | reply r data =>
    cases r with
    | bare => exact absurd rfl hm
    | frame f => exact turns_reply f data
  | postNext r =>
    cases r with
    | bare => exact absurd rfl hm
    | frame f => exact turns_postNext f
  | _ => exact absurd rfl hm

/-! ## What a turn keeps -/

/-- No turn counts a generation back. -/
theorem Turn.generation_le (ht : h.Turn f frame m frame') :
    frame.generation ≤ frame'.generation := by
  cases ht with
  | goesOn hgoes => exact Nat.le_of_eq hgoes.generation.symm
  | patched | retired => exact Nat.le_refl _
  | unplaced | placed | destroyed => exact Nat.le_succ _

/-- The content of a frame is shown in the mount that it was in before; it was shown there already, or
the move has shown it. -/
theorem Turn.shown (ht : h.Turn f frame m frame') (hphase : frame'.phase = .loaded) :
    frame'.generation = frame.generation ∧ (frame.phase = .loaded ∨ m = .showContent f) := by
  cases ht with
  | goesOn hgoes hshown => exact ⟨hgoes.generation, hshown hphase⟩
  | patched | retired => exact ⟨rfl, .inl hphase⟩
  | unplaced | placed | destroyed => cases hphase

/-- A frame that is not mounted stays in its phase, unless it is mounted. -/
theorem Turn.unmounted (ht : h.Turn f frame m frame') (hphase : frame.phase.isMounted = false)
    (hm : ∀ config, m ≠ .mount f config) : frame'.phase = frame.phase := by
  cases ht with
  | goesOn hgoes => exact hgoes.unmounted hphase
  | patched | retired => rfl
  | unplaced config | placed config => exact absurd rfl (hm config)
  | destroyed hmounted => exact Bool.noConfusion (hphase.symm.trans hmounted)

/-- A wired frame is wired after its turn. -/
theorem Turn.wired (ht : h.Turn f frame m frame') (hw : frame.Wired) : frame'.Wired := by
  cases ht with
  | goesOn hgoes =>
    refine ⟨fun hmounted => ?_, fun hunmounted => hgoes.resting (hw.resting ?_)⟩
    · rw [hgoes.target]
      exact hw.mounted (hgoes.mounted.symm.trans hmounted)
    · exact hgoes.mounted.symm.trans hunmounted
  | patched | retired => exact ⟨hw.mounted, hw.resting⟩
  | unplaced | destroyed => exact ⟨Bool.noConfusion, fun _ => .reset frame.bus⟩
  | placed => exact ⟨fun _ => rfl, Bool.noConfusion⟩

/-- Moves that leave nodes alone leave a frame its nodes and its class. -/
theorem Turn.kept (ht : h.Turn f frame m frame') (hm : m.reshapes = false) :
    frame'.nodes = frame.nodes ∧ frame'.className = frame.className := by
  cases ht with
  | goesOn hgoes => exact ⟨hgoes.nodes, hgoes.className⟩
  | patched => exact ⟨rfl, rfl⟩
  | retired | unplaced | placed | destroyed => cases hm

/-- A generation of a frame has one iframe. -/
theorem Turn.iframe (ht : h.Turn f frame m frame') (hg : frame'.generation = frame.generation) :
    frame'.iframe? = frame.iframe? := by
  have hnot : frame.generation + 1 ≠ frame.generation := Nat.succ_ne_self _
  cases ht with
  | goesOn hgoes => exact congrArg (Option.map Mounted.iframe) hgoes.nodes
  | patched => rfl
  | retired => exact frame.iframe?_unloaded
  | unplaced | placed | destroyed => exact absurd hg hnot

/-- A frame is mounted exactly if it has nodes. -/
theorem Turn.mounted (ht : h.Turn f frame m frame')
    (hmounted : frame.phase.isMounted = frame.nodes.isSome) :
    frame'.phase.isMounted = frame'.nodes.isSome := by
  cases ht with
  | goesOn hgoes => rw [hgoes.mounted, hmounted, hgoes.nodes]
  | patched => exact hmounted
  | retired => exact hmounted.trans Option.isSome_map.symm
  | unplaced | placed | destroyed => rfl

/-! ## What waits -/

/-- What waits for frames on the page of `h'` waited on the page of `h`, or belongs to the mount that
its frame is in; and a hook on loading that is new waits at a new node, which is the iframe of its
frame. -/
structure Leads (h h' : Host) : Prop extends Page.KeepsNodes h.page h'.page where
  loads : ∀ n f g, .connect f g ∈ h'.page.hooksAt n → .connect f g ∈ h.page.hooksAt n ∨
    (h.page.lastId < n ∧
      ∃ frame, h'.frame? f = some frame ∧ frame.generation = g ∧ frame.iframe? = some n)
  paints : ∀ hook f g, hook ∈ h'.page.paints → hook.mount? = some (f, g) → hook ∈ h.page.paints ∨
    ∃ frame, h'.frame? f = some frame ∧ frame.generation = g

/-- A page that ages leaves no new hook of a frame. -/
theorem leads_of_ages (hages : h.page.Ages h'.page) : h.Leads h' where
  toKeepsNodes := hages.toKeepsNodes
  loads n f g hhook := .inl (hages.loads n f g hhook)
  paints hook f g hhook hm := by
    refine .inl (hages.paints hook hhook ?_)
    rw [hm]
    exact Option.some_ne_none _

/-- A page that stays has the same hooks. -/
theorem leads_of_page (hpage : h'.page = h.page) : h.Leads h' :=
  leads_of_ages (hpage ▸ Page.Ages.refl h.page)

/-- A frame waits for a paint. -/
theorem leads_of_afterPaint {p : Page} {hook : PaintHook} (hages : h.page.Ages p)
    (hpage : h'.page = p.afterPaint hook) (hf : h'.frame? f = some frame)
    (hm : hook.mount? = some (f, frame.generation)) : h.Leads h' where
  toKeepsNodes := by
    rw [hpage]
    exact hages.toKeepsNodes.trans (Page.keepsNodes_of_nodes (Nat.le_refl _) rfl)
  loads n f' g hhook := .inl (hages.loads n f' g (by rwa [hpage] at hhook))
  paints hook' f' g hhook hm' := by
    rw [hpage] at hhook
    rcases List.mem_append.mp hhook with hhook | hhook
    · refine .inl (hages.paints hook' hhook ?_)
      rw [hm']
      exact Option.some_ne_none _
    · rw [List.mem_singleton.mp hhook, hm] at hm'
      cases hm'
      exact .inr ⟨frame, hf, rfl⟩

/-- A frame that is put in its place waits for its new iframe to load. -/
theorem Placed.leads {place : Place} {nodes : Mounted} {l : Option ListenerId}
    (hplaced : h.Placed h' f frame (h.page.removeListener? l) place nodes) : h.Leads h' := by
  obtain ⟨⟨check, hs⟩, ⟨p, hbuild, hpage⟩, -⟩ := hplaced
  have hbuilt := Page.builds_build hbuild
  have hages : h.page.Ages (p.replace place.node nodes.container) :=
    (Page.retouches_removeListener? l).toAges.trans (hbuilt.ages.trans (Page.ages_replace _ _))
  have hlast : (h.page.removeListener? l).lastId = h.page.lastId := Page.lastId_removeListener? l
  refine ⟨?_, fun n f' g hhook => ?_, fun hook f' g hhook hm => ?_⟩
  · rw [hpage]
    exact hages.toKeepsNodes.trans (Page.keepsNodes_of_nodes (Nat.le_refl _) rfl)
  · rw [hpage, Page.hooksAt_onLoad] at hhook
    split at hhook
    · next hn =>
      -- At the new iframe there waits what waited before, and the hook of this mount.
      rcases List.mem_append.mp hhook with hhook | hhook
      · exact .inl (hages.loads n f' g hhook)
      · cases List.mem_singleton.mp hhook
        refine .inr ⟨?_, _, hs.frame?, rfl, congrArg some hn.symm⟩
        rw [hn, hbuilt.iframe, hlast]
        exact Nat.lt_succ_self _
    · exact .inl (hages.loads n f' g hhook)
  · rw [hpage] at hhook
    refine .inl (hages.paints hook hhook ?_)
    rw [hm]
    exact Option.some_ne_none _

/-- The nodes of a frame that is put in its place are new. -/
theorem Placed.new_nodes {place : Place} {nodes : Mounted} {l : Option ListenerId}
    (hplaced : h.Placed h' f frame (h.page.removeListener? l) place nodes) :
    h.page.lastId < nodes.iframe ∧ nodes.iframe ≤ h'.page.lastId ∧
      nodes.container ≤ h'.page.lastId := by
  obtain ⟨-, ⟨p, hbuild, hpage⟩, -⟩ := hplaced
  have hbuilt := Page.builds_build hbuild
  have hlast : (h.page.removeListener? l).lastId = h.page.lastId := Page.lastId_removeListener? l
  have hlast' : h'.page.lastId = p.lastId := by
    rw [hpage]
    rfl
  rw [hlast', ← hbuilt.last, hbuilt.iframe, hlast, ← hlast, ← hbuilt.iframe]
  refine ⟨?_, Nat.le_of_lt hbuilt.container, Nat.le_refl _⟩
  rw [hbuilt.iframe]
  exact Nat.lt_succ_self _

/-- The hook that a mount plants waits at its own new iframe. -/
theorem leads_mount (f : FrameRef) (config : Config) : h.Leads (h.move (.mount f config)) := by
  cases hf : h.frame? f with
  | none => exact leads_of_page (congrArg (fun r => r.1.page) (mount_of_none hf config))
  | some frame =>
    rcases mount_cases hf config with ⟨-, -, -, hpage, -⟩ | ⟨place, nodes, -, -, hplaced⟩
    · refine leads_of_ages ?_
      show h.page.Ages (h.mount f config).1.page
      rw [hpage]
      exact (Page.retouches_removeListener? _).toAges
    · exact hplaced.leads

/-- Destroying a frame ages the page. -/
theorem ages_destroy (f : FrameRef) : h.page.Ages (h.move (.destroy f)).page := by
  show h.page.Ages (h.destroy f).page
  cases hf : h.frame? f with
  | none =>
    rw [destroy_of_none hf]
    exact Page.Ages.refl _
  | some frame =>
    rcases destroy_cases hf with ⟨-, hsame⟩ | ⟨-, -, hpage, -⟩
    · rw [hsame]
      exact Page.Ages.refl _
    · rw [hpage]
      exact ((Page.retouches_removeListener? _).toAges).trans (Page.ages_restored frame)

/-- Retiring a loader ages the page. -/
theorem ages_retire (f : FrameRef) (g : ℕ) (loader : NodeId) :
    h.page.Ages (h.move (.retire f g loader)).page := by
  show h.page.Ages (h.retireLoader f g loader).1.page
  cases hf : h.frame? f with
  | none =>
    rw [retireLoader_of_none hf]
    exact Page.Ages.refl _
  | some frame =>
    rcases retireLoader_cases hf g loader with ⟨-, hsame⟩ | ⟨-, -, hpage, -⟩
    · rw [hsame]
      exact Page.Ages.refl _
    · rw [hpage]
      exact Page.ages_remove loader

/-! ## Moves that leave nodes alone -/

/-- What a move leaves waiting for a paint: a loader that is to fade, or one that fades and is to go. -/
def Asks (h : Host) : Move → PaintHook → Prop
  | .showContent f, hook => ∃ frame l, h.frame? f = some frame ∧ frame.loader? = some l ∧
      hook = .fade f frame.generation l
  | .fade f g l, hook => ∃ frame, h.frame? f = some frame ∧ frame.generation = g ∧
      hook = .retire f g l
  | _, _ => False

/-- The page after a move that leaves nodes alone: they get another look at most, and a loader may
wait for a paint. -/
theorem page_move (hm : m.reshapes = false) : ∃ p, h.page.Retouches p ∧
    ((h.move m).page = p ∨ ∃ hook, h.Asks m hook ∧ (h.move m).page = p.afterPaint hook) := by
  -- Only showing content with a loader, and fading it, ask for a paint.
  have hsame : (h.move m).page = h.page → ∃ p, h.page.Retouches p ∧
      ((h.move m).page = p ∨ ∃ hook, h.Asks m hook ∧ (h.move m).page = p.afterPaint hook) :=
    fun hpage => ⟨h.page, Page.Retouches.refl _, .inl hpage⟩
  have hplain : h.page.Retouches (h.move m).page → ∃ p, h.page.Retouches p ∧
      ((h.move m).page = p ∨ ∃ hook, h.Asks m hook ∧ (h.move m).page = p.afterPaint hook) :=
    fun hretouches => ⟨_, hretouches, .inl rfl⟩
  cases m with
  | mount | destroy | retire => cases hm
  | page e => exact hplain (Page.retouches_edit hm)
  | cache | newFrame | patch | openChannel | setCheck | endAborted | setGate | newBus | setBus =>
    exact hsame rfl
  | enroll frameId =>
    refine hsame ?_
    show (h.registered frameId).1.page = h.page
    unfold registered
    split <;> rfl
  | showContent f =>
    cases hf : h.frame? f with
    | none => exact hsame (congrArg (fun r => r.1.page) (showContent_of_none hf))
    | some frame =>
      rcases showContent_cases hf with hsame' | ⟨nodes, -, hnodes, -, hpage, -⟩
      · exact hsame (congrArg Host.page hsame')
      · refine ⟨_, (Page.retouches_setStyle nodes.container
          (Look.containerLoaded frame.config.width frame.config.height)).trans
            (Page.retouches_setStyle nodes.iframe Look.visible), ?_⟩
        cases hloader : nodes.loader with
        | none =>
          rw [hloader] at hpage
          exact .inl hpage
        | some loader =>
          rw [hloader] at hpage
          refine .inr ⟨_, ⟨frame, loader, hf, ?_, rfl⟩, hpage⟩
          unfold Frame.loader?
          rw [hnodes]
          exact hloader
  | registerCommand f name cb =>
    refine hsame ?_
    rcases h.host_registerCommand f name cb with hkept | ⟨frame, commands, -, -, hmove⟩
    · rw [hkept]
    · rw [hmove]
      rfl
  | execute r task responder =>
    refine hplain ?_
    rcases h.host_execute r task responder with hkept | ⟨b, bus, posted, -, -, hmove⟩
    · rw [hkept]
      exact Page.Retouches.refl _
    · rw [hmove]
      exact Page.retouches_post? _
  | reply r data =>
    refine hsame ?_
    exact page_reply r data
  | postNext r =>
    refine hplain ?_
    show h.page.Retouches (h.postNext r).page
    rcases h.host_postNext r with hkept | ⟨b, -, hnext⟩
    · rw [hkept]
      exact Page.Retouches.refl _
    · rw [hnext]
      exact Page.retouches_post? _
  | connect f g =>
    refine hplain ?_
    show h.page.Retouches (h.connect f g).1.page
    cases hf : h.frame? f with
    | none =>
      rw [connect_of_none hf]
      exact Page.Retouches.refl _
    | some frame =>
      rcases connect_cases hf g with ⟨-, hsame⟩ | ⟨-, phase, -, -, hpage, -⟩
      · rw [hsame]
        exact Page.Retouches.refl _
      · rw [hpage]
        exact (Page.retouches_addListener _).trans (Page.retouches_removeListener? _)
  | fade f g loader =>
    show ∃ p, h.page.Retouches p ∧ ((h.fadeLoader f g loader).page = p ∨
      ∃ hook, h.Asks (.fade f g loader) hook ∧ (h.fadeLoader f g loader).page = p.afterPaint hook)
    rcases h.fadeLoader_cases f g loader with hfade | ⟨frame, hf, hg, hfade⟩
    · rw [hfade]
      exact ⟨_, Page.Retouches.refl _, .inl rfl⟩
    · rw [hfade]
      exact ⟨_, Page.retouches_setStyle loader Look.faded, .inr ⟨_, ⟨frame, hf, hg, rfl⟩, rfl⟩⟩
  | failCheck c e =>
    refine hplain ?_
    show h.page.Retouches (h.failCheck c e).1.page
    rcases h.failCheck_cases c e with hfail | ⟨frame, page, -, -, hpage, hfail⟩
    · rw [hfail]
      exact Page.Retouches.refl _
    · rw [hfail]
      rcases hpage with ⟨-, rfl⟩ | ⟨nodes, document, -, rfl⟩
      · exact Page.Retouches.refl _
      · exact Page.retouches_showDocument _ _

/-- A move that keeps the shapes keeps that of every node. -/
theorem shape_move (hm : m.reshapes = false) (n : NodeId) :
    ((h.move m).page.node? n).map Node.shape = (h.page.node? n).map Node.shape := by
  obtain ⟨p, hretouches, hpage | ⟨hook, -, hpage⟩⟩ := page_move (h := h) hm
  · rw [hpage]
    exact hretouches.shapes n
  · rw [hpage]
    exact hretouches.shapes n

/-- A frame that asks for a paint stays in its mount. -/
theorem Asks.mount? {hook : PaintHook} (ha : h.Asks m hook) : ∃ f frame,
    (h.move m).frame? f = some frame ∧ hook.mount? = some (f, frame.generation) := by
  -- The frame that asks is in the same generation after the move.
  have hstays : ∀ {f frame}, h.frame? f = some frame →
      (∀ frame', h.Turn f frame m frame' → frame'.generation = frame.generation) →
      ∃ frame', (h.move m).frame? f = some frame' ∧ frame'.generation = frame.generation := by
    intro f frame hf hturn
    obtain ⟨frame', hf', ht⟩ := (turns_move m).turn f frame hf
    exact ⟨frame', hf', hturn frame' ht⟩
  cases m with
  | showContent f =>
    obtain ⟨frame, l, hf, -, rfl⟩ := ha
    obtain ⟨frame', hf', hg⟩ := hstays hf fun frame' ht => by
      cases ht with
      | goesOn hgoes => exact hgoes.generation
    exact ⟨f, frame', hf', by rw [hg]; rfl⟩
  | fade f g l =>
    obtain ⟨frame, hf, rfl, rfl⟩ := ha
    obtain ⟨frame', hf', hg⟩ := hstays hf fun frame' ht => by
      cases ht with
      | goesOn hgoes => exact hgoes.generation
    exact ⟨f, frame', hf', by rw [hg]; rfl⟩
  | _ => exact ha.elim

/-- What waits for frames on the page is led there by every move. -/
theorem leads_move (m : Move) : h.Leads (h.move m) := by
  cases hm : m.reshapes with
  | false =>
    obtain ⟨p, hretouches, hpage | ⟨hook, hasks, hpage⟩⟩ := page_move (h := h) hm
    · exact leads_of_ages (hpage ▸ hretouches.toAges)
    · obtain ⟨f, frame, hf, hmount⟩ := hasks.mount?
      exact leads_of_afterPaint hretouches.toAges hpage hf hmount
  | true =>
    cases m with
    | page e => exact leads_of_ages (Page.ages_edit e)
    | mount f config => exact leads_mount f config
    | destroy f => exact leads_of_ages (ages_destroy f)
    | retire f g loader => exact leads_of_ages (ages_retire f g loader)
    | _ => cases hm

/-! ## Where frames live -/

/-- A frame has the iframe that it had, or a mount has given it a new one. -/
theorem Turn.new_iframe (ht : h.Turn f frame m frame') {n : NodeId}
    (hn : frame'.iframe? = some n) :
    (frame'.generation = frame.generation ∧ frame.iframe? = some n) ∨
      ((∃ config, m = .mount f config) ∧ h.page.lastId < n ∧ n ≤ (h.move m).page.lastId) := by
  cases ht with
  | goesOn hgoes =>
    have hiframe := congrArg (Option.map Mounted.iframe) hgoes.nodes
    exact .inl ⟨hgoes.generation, hiframe.symm.trans hn⟩
  | patched => exact .inl ⟨rfl, hn⟩
  | retired => exact .inl ⟨rfl, frame.iframe?_unloaded.symm.trans hn⟩
  | unplaced | destroyed => cases hn
  | placed config className check hplaced =>
    obtain ⟨hlt, hle, -⟩ := hplaced.new_nodes
    cases hn
    exact .inr ⟨⟨config, rfl⟩, hlt, hle⟩

/-- The iframe of a frame after a move, told by the frame before it. -/
theorem iframe_move {n : NodeId} (hf' : (h.move m).frame? f = some frame')
    (hn : frame'.iframe? = some n) :
    (∃ frame, h.frame? f = some frame ∧ frame.iframe? = some n) ∨
      ((∃ config, m = .mount f config) ∧ h.page.lastId < n ∧ n ≤ (h.move m).page.lastId) := by
  cases hf : h.frame? f with
  | none =>
    have hblank := (turns_move m).blank f frame' hf hf'
    unfold Frame.iframe? at hn
    rw [hblank.nodes] at hn
    cases hn
  | some frame =>
    obtain ⟨frame₁, hf₁, ht⟩ := (turns_move m).turn f frame hf
    cases hf₁.symm.trans hf'
    exact (ht.new_iframe hn).imp (fun hold => ⟨frame, rfl, hold.2⟩) id

/-- Frames have nodes exactly while they are mounted, and the page has made these nodes. -/
structure Housed (h : Host) : Prop where
  mounted : ∀ f frame, h.frame? f = some frame → frame.phase.isMounted = frame.nodes.isSome
  iframe_le : ∀ f frame n, h.frame? f = some frame → frame.iframe? = some n → n ≤ h.page.lastId
  container_le : ∀ f frame n, h.frame? f = some frame →
    frame.nodes.map Mounted.container = some n → n ≤ h.page.lastId

/-- Frames are housed after every move. -/
theorem Housed.move (hh : h.Housed) (m : Move) : (h.move m).Housed := by
  have hlast := (leads_move (h := h) m).lastId
  refine ⟨fun f frame' hf' => ?_, fun f frame' n hf' hn => ?_, fun f frame' n hf' hn => ?_⟩
  · cases hf : h.frame? f with
    | none =>
      -- A frame that is new has no mount and no nodes.
      have hblank := (turns_move m).blank f frame' hf hf'
      rw [hblank.phase, hblank.nodes]
      rfl
    | some frame =>
      obtain ⟨frame₁, hf₁, ht⟩ := (turns_move m).turn f frame hf
      cases hf₁.symm.trans hf'
      exact ht.mounted (hh.mounted f frame hf)
  · rcases iframe_move hf' hn with ⟨frame, hf, hn⟩ | ⟨-, -, hle⟩
    · exact Nat.le_trans (hh.iframe_le f frame n hf hn) hlast
    · exact hle
  · cases hf : h.frame? f with
    | none =>
      rw [((turns_move m).blank f frame' hf hf').nodes] at hn
      cases hn
    | some frame =>
      obtain ⟨frame₁, hf₁, ht⟩ := (turns_move m).turn f frame hf
      cases hf₁.symm.trans hf'
      -- A container is kept, given up, or new and numbered last.
      cases ht with
      | goesOn hgoes =>
        rw [hgoes.nodes] at hn
        exact Nat.le_trans (hh.container_le f frame n hf hn) hlast
      | patched => exact Nat.le_trans (hh.container_le f frame n hf hn) hlast
      | retired =>
        rw [frame.container?_unloaded] at hn
        exact Nat.le_trans (hh.container_le f frame n hf hn) hlast
      | unplaced | destroyed => cases hn
      | placed config className check hplaced =>
        cases hn
        exact hplaced.new_nodes.2.2

/-- Frames are housed in every state of a run. -/
theorem housed_after {s : Session} (hs : s.host.Housed) (as : List Action) (i : ℕ) :
    (s.after as i).host.Housed := by
  obtain ⟨ms, hms⟩ := s.host_after as i
  have hreaches : Reaches (fun _ => True) s.host (s.after as i).host :=
    ⟨ms, fun _ _ => trivial, hms⟩
  exact hreaches.preserves (fun h m _ hh => hh.move m) hs

/-! ## What their buses do -/

/-- The buses of all frames fit their phases. -/
def Wired (h : Host) : Prop := ∀ f frame, h.frame? f = some frame → frame.Wired

/-- What holds of blank frames, and is kept with every turn, holds of all frames throughout. -/
theorem forall_frame_after {P : Frame → Prop} (hblank : ∀ frame, frame.Blank → P frame)
    (hturn : ∀ h f frame m frame', Turn h f frame m frame' → P frame → P frame') {s : Session}
    (hs : ∀ f frame, s.host.frame? f = some frame → P frame) (as : List Action) (i : ℕ) :
    ∀ f frame, (s.after as i).host.frame? f = some frame → P frame := by
  obtain ⟨ms, hms⟩ := s.host_after as i
  have hreaches : Reaches (fun _ => True) s.host (s.after as i).host :=
    ⟨ms, fun _ _ => trivial, hms⟩
  refine hreaches.preserves (P := fun h => ∀ f frame, h.frame? f = some frame → P frame) ?_ hs
  intro h m _ hP f frame' hf'
  cases hf : h.frame? f with
  | none => exact hblank frame' ((turns_move m).blank f frame' hf hf')
  | some frame =>
    obtain ⟨frame₁, hf₁, ht⟩ := (turns_move m).turn f frame hf
    cases hf₁.symm.trans hf'
    exact hturn h f frame m frame' ht (hP f frame hf)

/-- Frames are wired in every state of a run. -/
theorem wired_after {s : Session} (hs : s.host.Wired) (as : List Action) (i : ℕ) :
    (s.after as i).host.Wired := by
  refine forall_frame_after (fun frame hblank => ⟨fun hmounted => ?_, fun _ => ?_⟩)
    (fun _ _ _ _ _ ht hw => ht.wired hw) hs as i
  · rw [hblank.phase] at hmounted
    cases hmounted
  · rw [hblank.bus]
    exact ⟨rfl, rfl, rfl, rfl⟩

end Host

/-- A session starts without frames to house. -/
theorem Session.housed_start (origin : String) (allowList : Option AllowList) (defaults : Config)
    (runtime : Bool) (scripts : List (List Action)) :
    (start origin allowList defaults runtime scripts).host.Housed where
  mounted f frame hf := by cases hf
  iframe_le f frame n hf := by cases hf
  container_le f frame n hf := by cases hf

/-- A session starts without frames to wire. -/
theorem Session.wired_start (origin : String) (allowList : Option AllowList) (defaults : Config)
    (runtime : Bool) (scripts : List (List Action)) :
    (start origin allowList defaults runtime scripts).host.Wired := fun _ _ hf => by cases hf

end FrameHost
