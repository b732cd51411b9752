import FrameHost.Proofs.Move

/-!
# Frames in use

Hooks and listeners hold their frames weakly: they do nothing for a frame that is out of use. What
keeps a frame in use (names, the registry, held and waiting checks, jobs) comes about only for frames
that are in use already and for new ones (`Within.step`), so a frame that is out of use stays so
(`OutOfUse.after_succ`).
-/

namespace FrameHost

open Json (Value)

/-! ## What keeps frames in use -/

/-- A check that waits is one of the frame. -/
def CheckState.IsOf (f : FrameRef) : CheckState → Prop
  | .waiting c => c.frame = f
  | .fresh | .ended => True

/-- What is held keeps only frames of `U` in use, and its checks are of the frames that they are held
for. -/
def Held.Within (U : FrameRef → Prop) : Held → Prop
  | .call _ => True
  | .check f state => U f ∧ state.IsOf f

/-- A check that runs by itself is of its frame, and keeps only frames of `U` in use. -/
structure Spawned.Within (U : FrameRef → Prop) (c : Spawned) : Prop where
  frame : ∀ f, c.frame? = some f → U f
  state : c.state.IsOf c.frame

/-- A job keeps only frames of `U` in use. -/
def Job.Within (U : FrameRef → Prop) (job : Job) : Prop := ∀ f, job.frame? = some f → U f

/-- A host keeps only frames of `U` in use, and frames that are not there yet are in `U`. -/
structure Host.Within (U : FrameRef → Prop) (h : Host) : Prop where
  registry : ∀ f ∈ h.registry.values, U f
  checks : ∀ c ∈ h.checks, c.Within U
  newer : ∀ f, h.frames.length ≤ f → U f

/-- A session keeps only frames of `U` in use. -/
structure Session.Within (U : FrameRef → Prop) (s : Session) : Prop where
  names : ∀ f ∈ s.frames.values, U f
  calls : ∀ held ∈ s.calls.values, held.Within U
  agenda : ∀ job ∈ s.agenda, job.Within U
  host : s.host.Within U

variable {U : FrameRef → Prop}

/-! ## Hosts -/

namespace Host

variable {h h' : Host} {f : FrameRef}

/-- A host with the same registry and checks and as many frames is within the same frames. -/
theorem Within.of_eq (hw : h.Within U) (hregistry : h'.registry = h.registry)
    (hchecks : h'.checks = h.checks) (hlength : h'.frames.length = h.frames.length) :
    h'.Within U where
  registry := hregistry ▸ hw.registry
  checks := hchecks ▸ hw.checks
  newer f hf := hw.newer f (hlength ▸ hf)

/-- Modifying a frame makes none. -/
theorem length_modifyFrame (g : Frame → Frame) :
    (h.modifyFrame f g).frames.length = h.frames.length := List.length_modify _ _ _

/-- Modifying a frame stays within. -/
theorem Within.modifyFrame (hw : h.Within U) (g : Frame → Frame) : (h.modifyFrame f g).Within U :=
  hw.of_eq rfl rfl (length_modifyFrame g)

/-- Storing a bus stays within. -/
theorem Within.setBus (hw : h.Within U) (r : BusRef) (b : Bus) : (h.setBus r b).Within U := by
  cases r with
  | frame f => exact hw.modifyFrame _
  | bare n => exact hw.of_eq rfl rfl rfl

/-- A change of the page stays within. -/
theorem Within.withPage (hw : h.Within U) (p : Page) : Host.Within U { h with page := p } :=
  hw.of_eq rfl rfl rfl

/-- A change of checks that run by themselves. -/
theorem Within.withChecks (hw : h.Within U) {checks : List Spawned}
    (hchecks : ∀ c ∈ checks, c.Within U) : Host.Within U { h with checks } :=
  ⟨hw.registry, hchecks, hw.newer⟩

/-- A new frame that nothing names yet stays within. -/
theorem Within.addFrame (hw : h.Within U) (frame : Frame) : (h.addFrame frame).1.Within U := by
  refine ⟨hw.registry, hw.checks, fun f hf => hw.newer f ?_⟩
  have hlength : (h.addFrame frame).1.frames.length = h.frames.length + 1 := List.length_append
  rw [hlength] at hf
  exact Nat.le_of_succ_le hf

/-- Registering a frame of those named stays within. -/
theorem Within.register (hw : h.Within U) (hf : U f) : (h.register f).Within U := by
  unfold Host.register
  split
  · exact hw
  · split
    · refine ⟨fun g hg => ?_, hw.checks, hw.newer⟩
      rcases Table.mem_of_mem_values_insert hg with rfl | hg
      · exact hf
      · exact hw.registry g hg
    · exact hw

/-- Leaving the registry stays within. -/
theorem Within.deregister (hw : h.Within U) (frameId : String) :
    (h.deregister f frameId).Within U := by
  unfold Host.deregister
  split
  · exact ⟨fun g hg => hw.registry g (Table.mem_of_mem_values_erase hg), hw.checks, hw.newer⟩
  · exact hw

/-- What is in a list that is changed in one place. -/
theorem mem_modify {α : Type} {l : List α} {n : ℕ} {g : α → α} {a : α} (ha : a ∈ l.modify n g) :
    a ∈ l ∨ ∃ b, l[n]? = some b ∧ a = g b := by
  obtain ⟨i, hi⟩ := List.mem_iff_getElem?.mp ha
  rw [List.getElem?_modify] at hi
  split at hi
  · next heq =>
    subst heq
    obtain ⟨b, hb, rfl⟩ := Option.map_eq_some_iff.mp hi
    exact .inr ⟨b, hb, rfl⟩
  · rw [Option.map_eq_map, Option.map_id'] at hi
    exact .inl (List.mem_of_getElem? hi)

/-- Aborting a check stays within. -/
theorem Within.abort (hw : h.Within U) (check : Option ℕ) : (h.abort check).Within U := by
  unfold Host.abort
  split
  · exact hw
  · refine hw.withChecks fun c hc => ?_
    rcases mem_modify hc with hc | ⟨b, hb, rfl⟩
    · exact hw.checks c hc
    · obtain ⟨hframe, hstate⟩ := hw.checks b (List.mem_of_getElem? hb)
      exact ⟨hframe, hstate⟩

/-- Letting go of the old nodes stays within. -/
theorem Within.release (hw : h.Within U) : (h.release f).Within U := by
  unfold Host.release
  split
  · exact hw
  · exact ((hw.abort _).modifyFrame _).withPage _

/-- Starting a check stays within. -/
theorem Within.startCheck (hw : h.Within U) : (h.startCheck f).Within U := by
  unfold Host.startCheck
  split
  · exact hw
  · split
    · refine (hw.modifyFrame _).withChecks fun c hc => ?_
      rcases List.mem_append.mp hc with hc | hc
      · exact hw.checks c hc
      · rw [List.mem_singleton.mp hc]
        exact ⟨fun g hg => absurd hg (Option.some_ne_none g).symm, trivial⟩
    · exact hw

/-- Preparing a mount stays within. -/
theorem Within.prepare (hw : h.Within U) (frame : Frame) (place : Place) :
    (h.prepare f frame place).Within U := by
  cases place with
  | container n => exact hw.of_eq rfl rfl rfl
  | element n => exact hw.modifyFrame _

/-- Installing the nodes of a frame of those named stays within. -/
theorem Within.install (hw : h.Within U) (hf : U f) (frame : Frame) (place : Place) :
    (h.install f frame place).1.Within U := by
  unfold Host.install
  exact Within.register (Within.startCheck (hw.of_eq rfl rfl (length_modifyFrame _))) hf

/-- A mount registers no other frame. -/
theorem Within.mount (hw : h.Within U) (hf : U f) (config : Config) :
    (h.mount f config).1.Within U := by
  unfold Host.mount
  split
  · exact hw
  · next old _ =>
    have hreleased := (hw.release (f := f)).modifyFrame (f := f) fun frame =>
      { frame with config := (Config.defaults.merged old.config).merged config }
    dsimp only
    -- The host once the mount before has ended, under the frame ID of the new configuration.
    generalize hrenewed : (if old.frameId = _ then _ else _ : Host) = h₁
    have hw₁ : h₁.Within U := by
      rw [← hrenewed]
      split
      · exact hreleased
      · exact hreleased.deregister _
    split
    · exact (hw₁.prepare _ _).install hf _ _
    · exact hw₁.modifyFrame _

/-- A move keeps only frames of `U` in use; what becomes of single checks is seen to elsewhere. -/
def Move.Within (U : FrameRef → Prop) : Move → Prop
  | .mount f _ => U f
  | .setCheck _ _ => False
  | _ => True

/-- A move of a frame of those named is within. -/
theorem Move.OfFrame.within {m : Move} (hm : m.OfFrame f) (hf : U f) : m.Within U := by
  cases m with
  | mount g config =>
    cases hm
    exact hf
  | setCheck => exact hm.elim
  | _ => trivial

/-- An accepted call stays within. -/
theorem Within.execute (hw : h.Within U) {r : BusRef} {task : Task} {responder : Responder}
    (hx : h.execute r task responder = .ok h') : h'.Within U := by
  unfold Host.execute at hx
  split at hx
  · cases hx
    exact hw
  · split at hx
    · cases hx
    · cases hx
      exact (hw.setBus r _).withPage _

/-- Delivering an answer stays within. -/
theorem Within.deliver (hw : h.Within U) (responder : Responder) (v : Value) :
    (h.deliver responder v).1.Within U := by
  cases responder with
  | channel id => exact hw.of_eq rfl rfl rfl
  | callback cb => exact hw
  | ignore => exact hw

/-- A frame found or made under an ID is within. -/
theorem Within.enroll (hw : h.Within U) (frameId : String) :
    (h.registered frameId).1.Within U ∧ U (h.registered frameId).2 := by
  unfold Host.registered
  split
  · next f hf => exact ⟨hw, hw.registry f (Table.mem_values_of_get? hf)⟩
  · have hadded := hw.addFrame { cache := .shared, registers := true, checks := h.allowList.isSome }
    have hnew : U h.frames.length := hw.newer _ (Nat.le_refl _)
    refine ⟨⟨fun g hg => ?_, hadded.checks, hadded.newer⟩, hnew⟩
    -- The frame that the registry gets is the one that was added.
    rcases Table.mem_of_mem_values_insert hg with rfl | hg
    · exact hnew
    · exact hw.registry g hg

/-- A host stays within in every move that is within. -/
theorem Within.move (hw : h.Within U) {m : Move} (hm : m.Within U) : (h.move m).Within U := by
  cases m with
  | page e => exact hw.withPage _
  | cache | openChannel | setGate | newBus => exact hw.of_eq rfl rfl rfl
  | newFrame checks => exact hw.addFrame _
  | enroll frameId => exact (hw.enroll frameId).1
  | mount f config => exact hw.mount hm config
  | destroy f =>
    show (h.destroy f).Within U
    unfold Host.destroy
    split
    · exact hw
    · split
      · -- Leaving the registry comes last, after the frame has let go of its nodes.
        refine Within.deregister ?_ _
        exact (hw.release.modifyFrame _).of_eq rfl rfl rfl
      · exact hw
  | showContent f =>
    show (h.showContent f).1.Within U
    unfold Host.showContent
    split
    · exact hw
    · split
      · exact hw
      · dsimp only
        split <;> exact (hw.modifyFrame _).of_eq rfl rfl rfl
  | patch f config => exact hw.modifyFrame _
  | registerCommand f name cb =>
    show ((h.registerCommand f name cb).toOption.getD h).Within U
    unfold Host.registerCommand
    split
    · exact hw
    · next frame _ =>
      cases frame.commands.register name cb with
      | error e => exact hw
      | ok commands => exact hw.modifyFrame _
  | execute r task responder =>
    show ((h.execute r task responder).toOption.getD h).Within U
    cases hx : h.execute r task responder with
    | error e => exact hw
    | ok h' => exact hw.execute hx
  | reply r data =>
    show (h.reply r data).1.Within U
    unfold Host.reply
    split
    · exact hw
    · dsimp only
      split
      · exact hw.setBus r _
      · exact (hw.setBus r _).deliver _ _
  | postNext r =>
    show (h.postNext r).Within U
    unfold Host.postNext
    split
    · exact hw
    · exact (hw.setBus r _).withPage _
  | connect f g =>
    show (h.connect f g).1.Within U
    unfold Host.connect
    split
    · exact hw
    · split
      · exact hw
      · exact (hw.modifyFrame _).withPage _
  | fade f g l =>
    show (h.fadeLoader f g l).Within U
    unfold Host.fadeLoader
    split
    · exact hw
    · split
      · exact hw.withPage _
      · exact hw
  | retire f g l =>
    show (h.retireLoader f g l).1.Within U
    unfold Host.retireLoader
    split
    · exact hw
    · split
      · exact (hw.modifyFrame _).withPage _
      · exact hw
  | failCheck c e =>
    show (h.failCheck c e).1.Within U
    unfold Host.failCheck
    split
    · exact hw
    · split
      · exact hw.withPage _
      · exact hw
  | setCheck => exact hm.elim
  | endAborted =>
    refine hw.withChecks fun c hc => ?_
    -- An ended check names no frame any more.
    obtain ⟨b, hb, rfl⟩ := List.mem_map.mp hc
    split
    · exact ⟨fun g hg => absurd hg (Option.some_ne_none g).symm, trivial⟩
    · exact hw.checks b hb
  | setBus n b => exact hw.setBus (.bare n) b

/-- An operation on a frame of `U` keeps only frames of `U` in use. -/
theorem Within.reaches (hw : h.Within U) (hf : U f) (hr : Reaches (Move.OfFrame f) h h') :
    h'.Within U :=
  hr.preserves (fun _ _ hm hw => hw.move (hm.within hf)) hw

/-- Opening a frame stays within, and so is the frame opened. -/
theorem Within.openFrame (hw : h.Within U) (config : Config) :
    (h.openFrame config).1.Within U ∧ U (h.openFrame config).2 := by
  have henrolled := hw.enroll (h.defaults.merged config).frameId
  exact ⟨henrolled.1.mount henrolled.2 _, henrolled.2⟩

end Host

/-! ## Sessions -/

namespace Session

variable {s t : Session} {f : FrameRef}

/-- An answer to the caller stays within. -/
theorem Within.reply (hw : s.Within U) (a : Answer) : (s.reply a).Within U :=
  ⟨hw.names, hw.calls, hw.agenda, hw.host⟩

/-- A record stays within. -/
theorem Within.record (hw : s.Within U) (r : Record) : (s.record r).Within U :=
  ⟨hw.names, hw.calls, hw.agenda, hw.host⟩

/-- A host that is within may be stored. -/
theorem Within.withHost (hw : s.Within U) {h : Host} (hh : h.Within U) : (s.withHost h).Within U :=
  ⟨hw.names, hw.calls, hw.agenda, hh⟩

/-- Jobs that are within may be pushed. -/
theorem Within.push (hw : s.Within U) {js : List Job} (hjs : ∀ x ∈ js, x.Within U) :
    (s.push js).Within U where
  names := hw.names
  calls := hw.calls
  agenda x hx := (List.mem_append.mp hx).elim (hjs x) (hw.agenda x)
  host := hw.host

/-- What is within may be kept under a name. -/
theorem Within.keep (hw : s.Within U) (name : String) (held : Held) (hheld : held.Within U) :
    (s.keep name held).Within U where
  names := hw.names
  calls x hx := by
    rcases Table.mem_of_mem_values_insert hx with rfl | hx
    · exact hheld
    · exact hw.calls x hx
  agenda := hw.agenda
  host := hw.host

/-- A call names no frame and may be kept. -/
theorem Within.keepCall (hw : s.Within U) (name : String) (c : Call) :
    (s.keep name (.call c)).Within U := hw.keep name (.call c) trivial

/-- A check of a frame of those named may be kept. -/
theorem Within.keepCheck (hw : s.Within U) (name : String) (hf : U f) (state : CheckState)
    (hstate : state.IsOf f) : (s.keep name (.check f state)).Within U :=
  hw.keep name (.check f state) ⟨hf, hstate⟩

/-- Dropping a name stays within. -/
theorem Within.drop (hw : s.Within U) (name : String) : (s.drop name).Within U where
  names := hw.names
  calls x hx := hw.calls x (Table.mem_of_mem_values_erase hx)
  agenda := hw.agenda
  host := hw.host

/-- A frame of those named may be given a name. -/
theorem Within.name (hw : s.Within U) (name : String) (hf : U f) : (s.name name f).Within U where
  names g hg := by
    rcases Table.mem_of_mem_values_insert hg with rfl | hg
    · exact hf
    · exact hw.names g hg
  calls := hw.calls
  agenda := hw.agenda
  host := hw.host

/-- What a name stands for is within. -/
theorem Within.of_name (hw : s.Within U) {name : String} (hf : s.frames.get? name = some f) : U f :=
  hw.names f (Table.mem_values_of_get? hf)

/-- The jobs that keep no frame in use. -/
theorem within_of_frame? {job : Job} (h : job.frame? = none) : job.Within U := by
  intro g hg
  rw [h] at hg
  cases hg

/-- A job about no frame is within on its own. -/
theorem within_singleton {job : Job} (h : job.frame? = none) : ∀ x ∈ [job], x.Within U := by
  intro x hx
  rw [List.mem_singleton.mp hx]
  exact within_of_frame? h

/-- A frame of `U` is in use for what follows from an operation on it. -/
theorem Within.follow (hw : s.Within U) (hf : U f) {xs : List Followup} {rest : List Job}
    (hxs : ∀ x ∈ xs, x.OfFrame f) (hrest : ∀ x ∈ rest, x.Within U) :
    (s.follow f xs rest).Within U := by
  refine hw.push fun x hx => ?_
  rcases List.mem_append.mp hx with hx | hx
  · obtain ⟨y, hy, rfl⟩ := List.mem_map.mp hx
    intro g hg
    rw [(hxs y hy).frame? hg]
    exact hf
  · rcases List.mem_cons.mp hx with rfl | hx
    · intro g hg
      cases hg
      exact hf
    · exact hrest x hx

/-- What keeps a frame in use. -/
theorem isLive_iff : s.isLive f = true ↔ f ∈ s.frames.values ∨ f ∈ s.host.registry.values ∨
    (∃ held ∈ s.calls.values, held.frame? = some f) ∨ (∃ c ∈ s.host.checks, c.frame? = some f) ∨
      ∃ job ∈ s.agenda, job.frame? = some f := by
  unfold Session.isLive
  simp only [Bool.or_eq_true, List.contains_iff_mem, List.any_eq_true, decide_eq_true_iff, or_assoc]

/-- A session that keeps only frames of `U` in use has no others in use. -/
theorem Within.isLive (hw : s.Within U) (hlive : s.isLive f = true) : U f := by
  rcases isLive_iff.mp hlive with
    hname | hregistered | ⟨held, hheld, hf⟩ | ⟨c, hc, hf⟩ | ⟨job, hjob, hf⟩
  · exact hw.names f hname
  · exact hw.host.registry f hregistered
  · have hwithin := hw.calls held hheld
    cases held with
    | call c => cases hf
    | check g state =>
      cases hf
      exact hwithin.1
  · exact (hw.host.checks c hc).frame f hf
  · exact hw.agenda job hjob f hf

/-! ### Operations -/

/-- The actions on the page stay within. -/
theorem within_actPage (hw : s.Within U) (a : PageAction) : (s.actPage a).Within U := by
  have hpage : ∀ p, (s.withPage p).Within U := fun p => hw.withHost (hw.host.withPage p)
  have hjobs : ∀ {α : Type} (l : List α) (g : α → Job) (a : Answer), (∀ x, (g x).frame? = none) →
      ∀ x ∈ l.map g ++ [.reply a], x.Within U := by
    intro α l g a hg x hx
    rcases List.mem_append.mp hx with hx | hx
    · obtain ⟨y, -, rfl⟩ := List.mem_map.mp hx
      exact within_of_frame? (hg y)
    · exact within_singleton rfl x hx
  unfold actPage
  cases a <;> dsimp only
  case fireLoad node => exact (hpage _).push (hjobs _ _ _ fun _ => rfl)
  case dispatch | dispatchJson => exact hw.push (hjobs _ _ _ fun _ => rfl)
  case flushPaint => exact hw.push (within_singleton rfl)
  case find | element | node | className | hostOrigin | dom => exact hw.reply _
  all_goals exact (hpage _).reply _

/-- The actions on a frame stay within. -/
theorem within_actFrame (hw : s.Within U) (a : FrameAction) : (s.actFrame a).Within U := by
  have hreply : ∀ a, ∀ x ∈ [Job.reply a], x.Within U := fun a => within_singleton rfl
  -- A call is kept and answered, and neither names a frame.
  have hmade : ∀ {f : FrameRef} (name : String) (c : Call),
      ∀ x ∈ [Job.keep name c, .reply (.made c.isSettled)], x.Within U := by
    intro f name c x hx
    rcases List.mem_cons.mp hx with rfl | hx
    · exact within_of_frame? rfl
    · exact within_singleton rfl x hx
  unfold actFrame
  cases a <;> dsimp only
  case openFrame name mode config =>
    refine onConfig_cases (P := Session.Within U) (fun _ _ => hw.reply _) fun c _ => ?_
    have hopened : ∀ c' a, (((s.withHost (s.host.openFrame c').1).name name
        (s.host.openFrame c').2).reply a).Within U := fun c' a =>
      ((hw.withHost (hw.host.openFrame c').1).name name (hw.host.openFrame c').2).reply a
    cases mode with
    | none => exact hopened c _
    | some mode => exact hopened (c.apply (.mode mode)) _
  case newFrame name checks =>
    -- The new frame is named at once, and the condition admits what is newer.
    exact ((hw.withHost (hw.host.addFrame _)).name name (hw.host.newer _ (Nat.le_refl _))).reply _
  case mount name config =>
    refine onFrame_cases (hw.reply _) fun f hf => ?_
    refine onConfig_cases (P := Session.Within U) (fun _ _ => hw.reply _) fun c _ => ?_
    exact (hw.withHost (hw.host.mount (hw.of_name hf) c)).reply _
  case destroy name =>
    refine onFrame_cases (hw.reply _) fun f hf => ?_
    exact (hw.withHost (hw.host.move (m := .destroy f) trivial)).reply _
  case showContent name =>
    refine onFrame_cases (hw.reply _) fun f hf => ?_
    exact (hw.withHost (hw.host.move (m := .showContent f) trivial)).follow (hw.of_name hf)
      Host.ofFrame_showContent (hreply _)
  case configure name config call =>
    refine onFrame_cases (hw.reply _) fun f hf => ?_
    refine onConfig_cases (P := Session.Within U) (fun _ _ => hw.reply _) fun c _ => ?_
    exact (hw.withHost (hw.host.reaches (hw.of_name hf) (Host.reaches_configure c))).follow
      (hw.of_name hf) Host.ofFrame_configure (hmade (f := f) _ _)
  case handle name data =>
    refine onFrame_cases (hw.reply _) fun f hf => ?_
    exact (hw.withHost (hw.host.reaches (hw.of_name hf) (Host.reaches_handle data))).follow
      (hw.of_name hf) Host.ofFrame_handle (hreply _)
  case call name method call =>
    refine onFrame_cases (hw.reply _) fun f hf => ?_
    exact (hw.withHost (hw.host.reaches (hw.of_name hf) (Host.reaches_call method).ofFrame)).follow
      (hw.of_name hf) Host.ofFrame_call (hmade (f := f) _ _)
  case callByName name method params cb =>
    refine onFrame_cases (hw.reply _) fun f hf => ?_
    exact (hw.withHost (hw.host.reaches (hw.of_name hf)
      (Host.reaches_callByName method params cb).ofFrame)).follow (hw.of_name hf) Host.ofFrame_callByName
        (hreply _)
  case registerCommand name command cb =>
    refine onFrame_cases (hw.reply _) fun f hf => ?_
    have hregistered := hw.host.move (m := .registerCommand f command cb) trivial
    split
    · exact hw.reply _
    · next h hr =>
      rw [Host.move_registerCommand hr] at hregistered
      exact (hw.withHost hregistered).reply _
  case same name other =>
    refine onFrame_cases (hw.reply _) fun f _ => ?_
    exact onFrame_cases (hw.reply _) fun _ _ => hw.reply _
  case getConfig | handlers | hasCommand =>
    exact onFrame_cases (hw.reply _) fun _ _ => hw.reply _
  case forget name =>
    exact ⟨fun g hg => hw.names g (Table.mem_of_mem_values_erase hg), hw.calls, hw.agenda, hw.host⟩
  case namesOf => exact hw.reply _

/-- The actions on a cache stay within. -/
theorem within_actCache (hw : s.Within U) (name : CacheName) (a : CacheAction) :
    (s.actCache name a).Within U := by
  have hkept : ∀ r c, (s.withHost (s.host.setCache r c)).Within U :=
    fun r c => hw.withHost (hw.host.of_eq rfl rfl rfl)
  unfold actCache
  refine onCache_cases (hw.reply _) fun r _ => ?_
  cases a <;> dsimp only
  case path | iframe | loader =>
    refine onConfig_cases (P := Session.Within U) (fun _ _ => hw.reply _) fun c _ => ?_
    exact (hkept r _).reply _
  case has =>
    exact onConfig_cases (P := Session.Within U) (fun _ _ => hw.reply _) fun _ _ => hw.reply _
  case forget => exact (hkept r _).reply _
  case count => exact hw.reply _

/-- Executing on a bare bus stays within. -/
theorem within_executeBus (hw : s.Within U) (n : ℕ) (task : Task) (receiver : Receiver) :
    (s.executeBus n task receiver).Within U := by
  refine executeBus_cases (Q := fun t _ => t.Within U) (fun _ _ => hw) (fun _ => hw)
    (fun name _ => (hw.withHost (hw.host.move (m := .openChannel) trivial)).keepCall name _)
    (fun _ _ _ ht _ => ht.reply _) ?_
  intro t responder h ht hx
  exact (ht.withHost (ht.host.execute hx)).reply _

/-- The actions on a bare bus stay within. -/
theorem within_actBus (hw : s.Within U) (name : String) (a : BusAction) :
    (s.actBus name a).Within U := by
  unfold actBus
  cases a <;> dsimp only
  case make =>
    have hmade := hw.withHost (hw.host.move (m := .newBus) trivial)
    exact ⟨hmade.names, hmade.calls, hmade.agenda, hmade.host⟩
  case attach | connect | reset =>
    refine onBus_cases (P := Session.Within U) (hw.reply _) fun n b _ _ => ?_
    exact (hw.withHost (hw.host.setBus (.bare n) _)).reply _
  case execute method data receiver =>
    exact onBus_cases (P := Session.Within U) (hw.reply _) fun n _ _ _ =>
      within_executeBus hw n _ receiver
  case reply data =>
    refine onBus_cases (P := Session.Within U) (hw.reply _) fun n b _ hb => ?_
    refine (hw.withHost (hw.host.move (m := .reply (.bare n) data) trivial)).push fun x hx => ?_
    have hbus : s.host.bus? (.bare n) = some b := hb
    rcases List.mem_append.mp hx with hx | hx
    · obtain ⟨y, hy, rfl⟩ := List.mem_map.mp hx
      rw [Host.reply_followups hbus] at hy
      rcases List.mem_append.mp hy with hy | hy
      · -- The answer goes to the caller, and the next task is posted: no frame is named.
        obtain ⟨call, -, hy⟩ := List.mem_flatMap.mp hy
        exact within_of_frame? (Host.frame?_deliver y hy)
      · rw [List.mem_singleton.mp hy]
        exact within_of_frame? rfl
    · exact within_singleton rfl x hx

/-! ### Checks -/

/-- A check of a frame of `U` moves. -/
theorem Within.moveCheck (hw : s.Within U) (hf : U f) {state : CheckState} (hstate : state.IsOf f)
    {wait : Session → Check → Session} {rest : Except Error Unit → List Job}
    (hwait : ∀ u c, u.Within U → u.host = s.host → c.frame = f → (wait u c).Within U)
    (hrest : ∀ r, ∀ x ∈ rest r, x.Within U) : (s.moveCheck f state wait rest).Within U := by
  -- A check that ends makes moves of its frame, which is one of `U`.
  have hend : ∀ (u : Session) c, u.Within U → c.frame = f → (u.endCheck c rest).Within U := by
    intro u c hu hc
    subst hc
    have hends : Host.Reaches (Host.Move.OfFrame c.frame) u.host (u.host.endCheck c).2.1 :=
      (Host.reaches_endCheck c).mono fun m ⟨e, hm⟩ => hm ▸ rfl
    exact (hu.withHost (hu.host.reaches hf hends)).follow hf Host.ofFrame_endCheck (hrest _)
  unfold Session.moveCheck
  cases state with
  | ended => exact hw.push (hrest _)
  | fresh =>
    dsimp only
    split
    · exact hw.push (hrest _)
    · next c hc =>
      obtain ⟨hframe, -⟩ := Host.frame?_of_check? hc
      split
      · exact hwait _ c (hw.record _) rfl hframe
      · exact hend _ c (hw.record _) hframe
  | waiting c =>
    dsimp only
    split
    · exact hwait _ c hw rfl hstate
    · exact hend _ c hw hstate

/-- Polling a call stays within. -/
theorem within_pollCall (hw : s.Within U) (name : String) (c : Call) :
    (s.pollCall name c).Within U := by
  unfold pollCall
  split
  · exact hw.reply _
  · dsimp only
    split
    · exact (hw.keepCall name _).reply _
    · exact (hw.drop name).reply _

/-- The actions on a kept call stay within. -/
theorem within_actCall (hw : s.Within U) (nested : Bool) (a : CallAction) :
    (s.actCall nested a).Within U := by
  unfold actCall
  cases a <;> dsimp only
  case poll name =>
    split
    · exact hw.reply _
    · exact within_pollCall hw name _
    · next f state hheld =>
      -- The check that is held names its frame, and goes on naming it while it waits.
      obtain ⟨hf, hstate⟩ := hw.calls _ (Table.mem_values_of_get? hheld)
      refine (hw.drop name).moveCheck hf hstate (fun u c hu _ hc => ?_) fun r x hx => ?_
      · exact (hu.keepCheck name hf (.waiting c) hc).reply _
      · rcases List.mem_cons.mp hx with rfl | hx
        · intro g hg
          cases hg
          exact hf
        · exact within_singleton rfl x hx
  case pollAs name shape =>
    split
    · unfold pollCallAs
      dsimp only
      split <;> exact (hw.drop name).reply _
    · exact (hw.drop name).reply _
  case settled name answer => exact (hw.keepCall name _).reply _
  case drop name => exact (hw.drop name).reply _
  case check name call =>
    refine onFrame_cases (hw.reply _) fun f hf => ?_
    exact (hw.keepCheck call (hw.of_name hf) .fresh trivial).reply _
  case setGate isOpen => exact (hw.withHost (hw.host.move (m := .setGate isOpen) trivial)).reply _
  case settle =>
    split
    · exact hw.reply _
    · unfold settle
      split
      · exact (hw.withHost (hw.host.move (m := .endAborted) trivial)).push (within_singleton rfl)
      · exact hw.reply _

/-- A check that runs by itself gets a state that is right for it, if it keeps its frame in use. -/
theorem Within.setCheck (hw : s.Within U) (n : ℕ) {state : CheckState}
    (hstate : ∀ c, s.host.checks[n]? = some c → Spawned.Within U { c with state }) :
    (s.setCheck n state).Within U := by
  refine hw.withHost (hw.host.withChecks fun c hc => ?_)
  rcases Host.mem_modify hc with hc | ⟨b, hb, rfl⟩
  · exact hw.host.checks c hc
  · exact hstate b hb

/-- The next check is there, and it can move. -/
theorem nextCheck?_spec {start n : ℕ} {c : Spawned} (h : s.nextCheck? start = some (n, c)) :
    s.host.checks[n]? = some c ∧ s.canMove c = true := by
  unfold nextCheck? at h
  obtain ⟨⟨c', n'⟩, hfind, heq⟩ := Option.map_eq_some_iff.mp h
  obtain ⟨rfl, rfl⟩ := Prod.mk.inj heq
  have hmem := List.mem_of_mem_drop (List.mem_of_find?_eq_some hfind)
  have hmove := List.find?_some hfind
  exact ⟨List.mk_mem_zipIdx_iff_getElem?.mp hmem, hmove⟩

/-- The sweep of the frames stays within. -/
theorem within_sweep (hw : s.Within U) (start : ℕ) : (s.sweep start).Within U := by
  unfold sweep
  split
  · next n c hnext =>
    obtain ⟨hc, hmove⟩ := nextCheck?_spec hnext
    obtain ⟨hframe, hstate⟩ := hw.host.checks c (List.mem_of_getElem? hc)
    have hended : (s.setCheck n .ended).Within U :=
      hw.setCheck n fun c _ => ⟨fun g hg => absurd hg (Option.some_ne_none g).symm, trivial⟩
    dsimp only
    split
    · exact hended.push (within_singleton rfl)
    · next hlive =>
      -- The check is of a frame in use: it has just begun, or it keeps its frame in use.
      have hf : U c.frame := by
        cases hstate : c.state with
        | fresh =>
          refine hw.isLive ?_
          simpa [hstate] using hlive
        | waiting c' =>
          refine hframe c.frame ?_
          unfold Spawned.frame?
          rw [hstate]
        | ended =>
          unfold canMove at hmove
          rw [hstate] at hmove
          cases hmove
      -- While it moves it is off the list, and what comes back is a check of the same frame.
      refine hended.moveCheck hf hstate (fun u c' hu hhost hc' => ?_) fun _ => within_singleton rfl
      refine (hu.setCheck n fun b hb => ?_).push (within_singleton rfl)
      have hb' : b.frame = c.frame := by
        rw [hhost] at hb
        have hset : (s.host.checks.modify n fun c => { c with state := .ended })[n]? = some b := hb
        rw [List.getElem?_modify_eq, hc] at hset
        exact (Option.some.inj hset) ▸ rfl
      refine ⟨fun g hg => ?_, hc'.trans hb'.symm⟩
      cases hg
      exact hb' ▸ hf
  · split
    · exact (hw.withHost (hw.host.move (m := .endAborted) trivial)).reply _
    · exact hw.push (within_singleton rfl)

/-! ### Jobs -/

/-- A script names its frames by their names only. -/
theorem within_script (cb : Callback) : ∀ x ∈ s.script cb, x.Within U := by
  intro x hx
  unfold script at hx
  rcases List.mem_append.mp hx with hx | hx
  · obtain ⟨a, -, hx⟩ := List.mem_flatMap.mp hx
    rcases List.mem_cons.mp hx with rfl | hx
    · exact within_of_frame? rfl
    · exact within_singleton rfl x hx
  · split at hx
    · exact within_singleton rfl x hx
    · exact absurd hx List.not_mem_nil

/-- Unwinding after a panic stays within. -/
theorem within_unwind (hw : s.Within U) (jobs : List Job) (hjobs : ∀ x ∈ jobs, x.Within U) :
    (s.unwind jobs).Within U := by
  induction jobs with
  | nil => exact ⟨hw.names, hw.calls, fun x hx => absurd hx List.not_mem_nil, hw.host⟩
  | cons job jobs ih =>
    have hrest : ∀ x ∈ jobs, x.Within U := fun x hx => hjobs x (List.mem_cons_of_mem job hx)
    cases job <;> first | exact ih hrest | exact ⟨hw.names, hw.calls, hrest, hw.host⟩

/-- Every job that is within stays within when it is performed. -/
theorem Within.perform (hw : s.Within U) {job : Job} (hjob : job.Within U) :
    (s.perform job).Within U := by
  have hnil : ∀ x ∈ ([] : List Job), x.Within U := fun x hx => absurd hx List.not_mem_nil
  cases job with
  | act nested a =>
    cases a with
    | page a => exact within_actPage hw a
    | frame a => exact within_actFrame hw a
    | call a => exact within_actCall hw nested a
    | cache name a => exact within_actCache hw name a
    | bus name a => exact within_actBus hw name a
    | unknown => exact hw.reply _
  | note tag => exact hw.record _
  | raise => exact within_unwind hw _ hw.agenda
  | invoke cb v =>
    have hrecorded := hw.record (.called cb.tag v)
    have hcalled : Session.Within U
        { s.record (.called cb.tag v) with scripts := s.scripts.set cb.script [] } :=
      ⟨hrecorded.names, hrecorded.calls, hrecorded.agenda, hrecorded.host⟩
    exact hcalled.push (within_script cb)
  | follow x =>
    cases x with
    | invoke cb v =>
      refine hw.push fun x hx => ?_
      rcases List.mem_cons.mp hx with rfl | hx
      · exact within_of_frame? rfl
      · exact within_singleton rfl x hx
    | showContent f =>
      exact (hw.withHost (hw.host.move (m := .showContent f) trivial)).follow (hjob f rfl)
        Host.ofFrame_showContent hnil
    | postNext r => exact hw.withHost (hw.host.move (m := .postNext r) trivial)
  | loaded hook =>
    show (s.runLoadHook hook).Within U
    unfold runLoadHook
    cases hook with
    | host cb => exact hw.push (within_singleton rfl)
    | connect f g =>
      dsimp only
      split
      · -- A hook runs for a live frame only, and a live frame is one of those named.
        next hlive =>
        exact (hw.withHost (hw.host.move (m := .connect f g) trivial)).follow (hw.isLive hlive)
          Host.ofFrame_connect hnil
      · exact hw
  | paint ran =>
    show (s.paint ran).Within U
    unfold paint
    split
    · exact hw.reply _
    · refine (hw.withHost (hw.host.withPage _)).push fun x hx => ?_
      rcases List.mem_cons.mp hx with rfl | hx
      · exact within_of_frame? rfl
      · exact within_singleton rfl x hx
  | painted hook =>
    show (s.runPaintHook hook).Within U
    unfold runPaintHook
    cases hook with
    | host cb => exact hw.push (within_singleton rfl)
    | fade f g l =>
      dsimp only
      split
      · exact hw.withHost (hw.host.move (m := .fade f g l) trivial)
      · exact hw
    | retire f g l =>
      dsimp only
      split
      · next hlive =>
        exact (hw.withHost (hw.host.move (m := .retire f g l) trivial)).follow (hw.isLive hlive)
          Host.ofFrame_retireLoader hnil
      · exact hw
  | deliver l origin data =>
    show (s.deliver l origin data).Within U
    unfold deliver
    cases l with
    | host cb => exact hw.push (within_singleton rfl)
    | frame f =>
      dsimp only
      split
      · next hlive =>
        have hf := hw.isLive hlive
        exact (hw.withHost (hw.host.reaches hf (Host.reaches_handle data))).follow hf
          Host.ofFrame_handle hnil
      · exact hw
  | sweep start => exact within_sweep hw start
  | keep name c => exact hw.keepCall name c
  | reply a => exact hw.reply a
  | fence | hold => exact hw

/-! ## Runs -/

/-- A step keeps only frames of `U` in use, if that holds of the session before it. -/
theorem Within.step (hw : s.Within U) : s.step.Within U := by
  cases hagenda : s.agenda with
  | nil =>
    rw [step_nil hagenda]
    exact hw
  | cons job jobs =>
    rw [step_cons hagenda]
    have hjobs : ∀ x ∈ jobs, x.Within U :=
      fun x hx => hw.agenda x (hagenda ▸ List.mem_cons_of_mem job hx)
    have hrest : Session.Within U { s with agenda := jobs } :=
      ⟨hw.names, hw.calls, hjobs, hw.host⟩
    exact hrest.perform (hw.agenda job (hagenda ▸ List.mem_cons_self))

/-- Beginning an action stays within. -/
theorem Within.begin (hw : s.Within U) (a : Action) : (s.begin a).Within U where
  names := hw.names
  calls := hw.calls
  agenda := within_singleton rfl
  host := hw.host.withPage _

/-- A session is within the same frames in every state of a run. -/
theorem Within.after (hw : s.Within U) (as : List Action) (i : ℕ) : (s.after as i).Within U :=
  after_induction hw (fun _ ht => ht.step) (fun _ a _ _ ht => ht.begin a) i

/-- A session keeps the frames in use that are. -/
theorem Within.live (hw : s.Within fun _ => True) :
    s.Within fun f => s.isLive f = true ∨ s.host.frames.length ≤ f where
  names f hf := .inl (isLive_iff.mpr (.inl hf))
  calls held hheld := by
    have hwithin := hw.calls held hheld
    cases held with
    | call c => trivial
    | check f state =>
      exact ⟨.inl (isLive_iff.mpr (.inr (.inr (.inl ⟨_, hheld, rfl⟩)))), hwithin.2⟩
  agenda job hjob f hf := .inl (isLive_iff.mpr (.inr (.inr (.inr (.inr ⟨job, hjob, hf⟩)))))
  host :=
    { registry := fun f hf => .inl (isLive_iff.mpr (.inr (.inl hf)))
      checks := fun c hc =>
        { frame := fun f hf => .inl (isLive_iff.mpr (.inr (.inr (.inr (.inl ⟨c, hc, hf⟩)))))
          state := (hw.host.checks c hc).state }
      newer := fun _ hf => .inr hf }

/-- A frame that is there is out of use. -/
def OutOfUse (s : Session) (f : FrameRef) : Prop := s.isLive f = false ∧ f < s.host.frames.length

/-- A session that keeps only frames in use that `s` keeps in use, or new ones, does not bring back
frames that are out of use. -/
theorem OutOfUse.of_within (h : s.OutOfUse f)
    (hw : t.Within fun f => s.isLive f = true ∨ s.host.frames.length ≤ f) : t.OutOfUse f := by
  have hnot : ¬ (s.isLive f = true ∨ s.host.frames.length ≤ f) := by
    rintro (hlive | hle)
    · rw [h.1] at hlive
      cases hlive
    · exact absurd h.2 (Nat.not_lt_of_le hle)
  refine ⟨Bool.eq_false_iff.mpr fun hlive => hnot (hw.isLive hlive), ?_⟩
  exact Nat.lt_of_not_le fun hle => hnot (hw.host.newer f hle)

/-- A frame that is out of use stays so. -/
theorem OutOfUse.after_succ (hs : s.Within fun _ => True) {as : List Action} {i : ℕ}
    (h : (s.after as i).OutOfUse f) : (s.after as (i + 1)).OutOfUse f := by
  have hlive := (hs.after as i).live
  rcases Session.after_succ s as i with ⟨-, heq⟩ | ⟨a, -, -, heq⟩ | ⟨-, heq⟩
  · rw [heq]
    exact h.of_within hlive.step
  · rw [heq]
    exact h.of_within (hlive.begin a)
  · rw [heq]
    exact h

end Session

end FrameHost
