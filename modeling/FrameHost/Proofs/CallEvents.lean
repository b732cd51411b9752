import FrameHost.Proofs.BusEvents
import FrameHost.Proofs.Operations
import FrameHost.Proofs.ReplyData

/-!
# What happens to calls

The calls that wait for their replies change in three ways: a bus takes one more call, a reply answers
the oldest one, or a mount or a teardown drops them all. `Session.callEvent?` says which of these the
next job is, and on which bus; a step does just that to the calls that wait, and to the replies that
were delivered (`step_calls`).
-/

namespace FrameHost

open Json (Value)

/-! ## Events -/

/-- What happens to the calls of a bus that have no reply yet. -/
inductive CallEvent where
  /-- The bus takes a call. -/
  | taken (call : PendingCall)
  /-- The oldest call is answered. -/
  | answered (v : Value)
  | dropped

/-- The calls without a reply after an event. -/
def CallEvent.apply (calls : List PendingCall) : CallEvent → List PendingCall
  | .taken call => calls ++ [call]
  | .answered _ => calls.tail
  | .dropped => []

/-- Whether a bus takes a task. -/
def Bus.accepts (b : Bus) (task : Task) : Bool := b.admits task && b.target.isSome

/-- What an event of a bus is for its calls. -/
def Bus.callEvent? (b : Bus) : Bus.Event → Option CallEvent
  | .attach _ _ | .connect | .postNext => none
  | .reset => some .dropped
  | .execute task responder => if b.accepts task then some (.taken ⟨task.method, responder⟩) else none
  | .answer data => if b.pending = [] then none else some (.answered (data.getD Value.emptyObject))

namespace Host

/-- The calls of a bus that have no reply yet, the oldest first. -/
def waiting (h : Host) (r : BusRef) : List PendingCall := ((h.bus? r).map Bus.pending).getD []

/-- What a call over the bus of a frame is for the calls of the frame. -/
def executeEvent? (h : Host) (f : FrameRef) (task : Task) (responder : Responder) :
    Option CallEvent :=
  (h.frame? f).bind fun frame => frame.bus.callEvent? (.execute task responder)

/-- The mount of a frame ends, if it is mounted. -/
def destroyEvent? (h : Host) (f : FrameRef) : Option CallEvent :=
  match h.frame? f with
  | none => none
  | some frame => if frame.phase.isMounted then some .dropped else none

/-- A new configuration mounts the frame again, or is sent to the application. -/
def configureEvent? (h : Host) (f : FrameRef) (patch : Config) : Option CallEvent :=
  match h.frame? f with
  | none => none
  | some frame =>
    if frame.phase.isMounted && frame.config.requiresReload patch then some .dropped
    else
      h.executeEvent? f (Task.ofMethod (.setConfig (frame.config.merged patch).toValue))
        (.channel (h.lastChannel + 1))

/-- What a command of a frame is for the calls of the frame. -/
def commandEvent? (h : Host) (f : FrameRef) (name : String) (data : Value) : Option CallEvent :=
  match (h.frame? f).bind fun frame => frame.commands.get? name with
  | some .destroy => h.destroyEvent? f
  | some .configure =>
    match Config.ofValue data with
    | .error _ => none
    | .ok patch => h.configureEvent? f patch
  | some .showContent | some (.host _) | none => none

/-- What a message is for the calls of a frame: a reply counts if it is for this frame and a call
waits for it. -/
def handleEvent? (h : Host) (f : FrameRef) (data : Value) : Option CallEvent :=
  match h.frame? f, data.string? with
  | some frame, some text =>
    let m := Inbound.decode text
    if m.frameId = frame.frameId then
      match m.kind with
      | .methodReturn =>
        if frame.bus.pending = [] then none else some (.answered (Inbound.replyData text))
      | .callCommand => h.commandEvent? f (m.commandName.getD "") (orNull m.commandData)
      | .eventReturn | .error | .other _ => none
    else none
  | _, _ => none

/-- What an operation on a frame is for the calls of the frame. -/
def callEvent? (h : Host) (f : FrameRef) : Frame.Op → Option CallEvent
  | .openFrame _ | .mount _ => some .dropped
  | .destroy => h.destroyEvent? f
  | .configure patch => h.configureEvent? f patch
  | .call m => h.executeEvent? f (Task.ofMethod m) (.channel (h.lastChannel + 1))
  | .callByName name params cb => h.executeEvent? f (Task.call name params) (.callback cb)
  | .handle data => h.handleEvent? f data
  | .showContent | .connect _ | .fade _ _ | .retire _ _ | .postNext => none

/-- The calls of a bus after what happened to those of one bus. -/
def waitingAfter (h : Host) (r : BusRef) : Option (BusRef × CallEvent) → List PendingCall
  | none => h.waiting r
  | some (r', e) => if r = r' then e.apply (h.waiting r) else h.waiting r

/-- The replies that were delivered after what happened to the calls of one bus. -/
def repliesAfter (h : Host) : Option (BusRef × CallEvent) → Table ChannelId Value
  | some (r, .answered v) =>
    match (h.waiting r).head?.map PendingCall.responder with
    | some (.channel id) => h.replies.insert id v
    | _ => h.replies
  | _ => h.replies

/-- What the calls of one bus require of an event: a call that waits on a channel has a new one, and
only a call that waits is answered. -/
def AllowsEvent (h h' : Host) : Option (BusRef × CallEvent) → Prop
  | some (_, .taken call) =>
    ∀ id, call.responder = .channel id → h.lastChannel < id ∧ id ≤ h'.lastChannel
  | some (r, .answered _) => h.waiting r ≠ []
  | some (_, .dropped) | none => True

/-- `h'` has the calls of `h` after what happened to those of one bus. -/
structure CallStep (h h' : Host) (e : Option (BusRef × CallEvent)) : Prop where
  waiting : ∀ r, h'.waiting r = h.waitingAfter r e
  replies : h'.replies = h.repliesAfter e
  lastChannel : h.lastChannel ≤ h'.lastChannel
  event : h.AllowsEvent h' e

end Host

/-- What an operation on a bus of the session's own is for the calls. -/
def Session.busCallEvent? (s : Session) (name : String) (a : BusAction) : Option (BusRef × CallEvent) :=
  (s.buses.get? name).bind fun n =>
    (s.host.buses[n]?).bind fun b => ((s.busEventOf? a).bind b.callEvent?).map (.bare n, ·)

/-- What the next job is for the calls of a bus. -/
def Session.callEvent? (s : Session) : Option (BusRef × CallEvent) :=
  match s.op?, s.agenda with
  | some (f, op), _ => (s.host.callEvent? f op).map (.frame f, ·)
  | none, .act _ (.bus name a) :: _ => s.busCallEvent? name a
  | none, _ => none

/-! ## Buses -/

namespace Bus

variable {b b' : Bus} {task : Task} {responder : Responder} {posted : Option Posted}

/-- A bus takes a task, or refuses it. -/
theorem accepts_iff : b.accepts task = true ↔ ∃ r, b.execute task responder = .ok r := by
  unfold accepts execute
  cases b.admits task with
  | false => simp
  | true =>
    cases b.target with
    | none => simp
    | some target => cases b.pending.isEmpty <;> simp

/-- An accepted task puts its responder last among the pending. -/
theorem pending_execute (hx : b.execute task responder = .ok (b', posted)) :
    b'.pending = b.pending ++ [⟨task.method, responder⟩] := by
  unfold execute at hx
  split at hx
  · cases hx
  · split at hx
    · cases hx
    · dsimp only at hx
      split at hx <;> cases hx <;> rfl

/-- Posting the next deferred task resolves nobody. -/
theorem pending_postNext : b.postNext.1.pending = b.pending := by
  unfold postNext
  split <;> rfl

end Bus

namespace Host

variable {h h' h'' : Host} {f : FrameRef} {frame frame' : Frame} {r : BusRef} {b b' : Bus}
  {e : CallEvent} {task : Task} {responder : Responder}

/-- What waits at a place is what is pending on its bus. -/
theorem waiting_of_bus? (hb : h.bus? r = some b) : h.waiting r = b.pending := by
  unfold waiting
  rw [hb]
  rfl

/-- Where there is no bus, nobody waits. -/
theorem waiting_of_none (hb : h.bus? r = none) : h.waiting r = [] := by
  unfold waiting
  rw [hb]
  rfl

/-- A bus that is there is replaced, and the others stay. -/
theorem bus?_setBus (hb : h.bus? r = some b) (b' : Bus) (r' : BusRef) :
    (h.setBus r b').bus? r' = if r' = r then some b' else h.bus? r' := by
  cases r with
  | frame f =>
    obtain ⟨frame, hf, -⟩ := Option.map_eq_some_iff.mp hb
    -- The bus of a frame is stored in the frame.
    have hs := sets_modifyFrame hf fun frame => { frame with bus := b' }
    cases r' with
    | frame f' =>
      show ((h.modifyFrame f _).frame? f').map Frame.bus = _
      rw [hs f']
      by_cases hf' : f' = f
      · subst hf'
        simp
      · rw [if_neg hf', if_neg fun heq => hf' (BusRef.frame.inj heq)]
        rfl
    | bare n =>
      rw [if_neg (by simp)]
      rfl
  | bare n =>
    cases r' with
    | frame f' =>
      rw [if_neg (by simp)]
      rfl
    | bare m =>
      -- A bare bus is stored in its place in the list.
      obtain ⟨hn, -⟩ := List.getElem?_eq_some_iff.mp hb
      show (h.buses.set n b')[m]? = _
      rw [List.getElem?_set]
      by_cases hm : n = m
      · subst hm
        rw [if_pos rfl, if_pos hn, if_pos rfl]
      · rw [if_neg hm, if_neg fun heq => hm (BusRef.bare.inj heq).symm]
        rfl

/-- Storing a bus answers nothing. -/
theorem replies_setBus : (h.setBus r b).replies = h.replies := by
  cases r <;> rfl

/-- Storing a bus opens no channel. -/
theorem lastChannel_setBus : (h.setBus r b).lastChannel = h.lastChannel := by
  cases r <;> rfl

/-! ## Steps without an event -/

/-- Standing still is a step without a call event. -/
theorem CallStep.refl (h : Host) : h.CallStep h none where
  waiting _ := rfl
  replies := rfl
  lastChannel := Nat.le_refl _
  event := trivial

/-- Two steps without a call event are one such step. -/
theorem CallStep.trans (hs : h.CallStep h' none) (hs' : h'.CallStep h'' none) :
    h.CallStep h'' none where
  waiting r := (hs'.waiting r).trans (hs.waiting r)
  replies := hs'.replies.trans hs.replies
  lastChannel := Nat.le_trans hs.lastChannel hs'.lastChannel
  event := trivial

/-- An event after a step that only opens channels. -/
theorem CallStep.after {e : Option (BusRef × CallEvent)} (hs : h'.CallStep h'' e)
    (hs' : h.CallStep h' none) : h.CallStep h'' e where
  waiting r := by
    rw [hs.waiting r]
    unfold waitingAfter
    split
    · exact hs'.waiting r
    · rw [hs'.waiting r]
      rfl
  replies := by
    rw [hs.replies]
    unfold repliesAfter
    split
    · next r v =>
      rw [hs'.waiting r, hs'.replies]
      rfl
    · exact hs'.replies
  lastChannel := Nat.le_trans hs'.lastChannel hs.lastChannel
  event := by
    have hevent := hs.event
    unfold AllowsEvent at hevent ⊢
    split
    · -- A channel opened by the second step is newer than those of the first.
      exact fun id hid => ⟨Nat.lt_of_le_of_lt hs'.lastChannel (hevent id hid).1, (hevent id hid).2⟩
    · next r v => exact fun hnil => hevent ((hs'.waiting r).trans hnil)
    · trivial
    · trivial

/-- A frame changes, and its calls stay as they are or are dropped. -/
theorem waiting_of_sets (hs : h.Sets h' f frame') (hbuses : h'.buses = h.buses) (r : BusRef) :
    h'.waiting r = if r = .frame f then frame'.bus.pending else h.waiting r := by
  cases r with
  | bare n =>
    rw [if_neg (by simp)]
    show ((h'.buses[n]?).map Bus.pending).getD [] = _
    rw [hbuses]
    rfl
  | frame f' =>
    show (((h'.frame? f').map Frame.bus).map Bus.pending).getD [] = _
    rw [hs f']
    by_cases hf' : f' = f
    · subst hf'
      simp
    · rw [if_neg hf', if_neg fun heq => hf' (BusRef.frame.inj heq)]
      rfl

/-- The frames and the buses of the session's own stay as they are. -/
theorem callStep_of_frames (hframes : h'.frames = h.frames) (hbuses : h'.buses = h.buses)
    (hreplies : h'.replies = h.replies) (hchannel : h.lastChannel ≤ h'.lastChannel) :
    h.CallStep h' none where
  waiting r := by
    have hbus : h'.bus? r = h.bus? r := by
      cases r with
      | frame f =>
        show (h'.frames[f]?).map Frame.bus = _
        rw [hframes]
        rfl
      | bare n =>
        show h'.buses[n]? = _
        rw [hbuses]
        rfl
    unfold waiting waitingAfter
    rw [hbus]
    rfl
  replies := hreplies
  lastChannel := hchannel
  event := trivial

/-- A frame that is new has made no calls yet. -/
theorem callStep_added {added : Frame} (hframes : h'.frames = h.frames ++ [added])
    (hpending : added.bus.pending = []) (haside : h'.aside = h.aside) : h.CallStep h' none where
  waiting r := by
    cases r with
    | bare n =>
      have hbuses : h'.buses = h.buses := congrArg Prod.fst haside
      show ((h'.buses[n]?).map Bus.pending).getD [] = ((h.buses[n]?).map Bus.pending).getD []
      rw [hbuses]
    | frame f =>
      show (((h'.frames[f]?).map Frame.bus).map Bus.pending).getD [] =
        (((h.frames[f]?).map Frame.bus).map Bus.pending).getD []
      rw [hframes]
      by_cases hf : f < h.frames.length
      · rw [List.getElem?_append_left hf]
      · -- Beyond the old frames there is at most the added one, whose bus is empty.
        have hle : h.frames.length ≤ f := Nat.le_of_not_lt hf
        rw [List.getElem?_append_right hle, List.getElem?_eq_none_iff.mpr hle,
          List.getElem?_singleton]
        split
        · exact hpending
        · rfl
  replies := congrArg (·.2.1) haside
  lastChannel := Nat.le_of_eq (congrArg (·.2.2) haside).symm
  event := trivial

/-- Nothing happens to the calls of a frame. -/
theorem callStep_kept (hf : h.frame? f = some frame) (hs : h.Sets h' f frame')
    (hpending : frame'.bus.pending = frame.bus.pending) (haside : h'.aside = h.aside) :
    h.CallStep h' none where
  waiting r := by
    rw [waiting_of_sets hs (congrArg Prod.fst haside) r, hpending]
    split
    · next hr =>
      rw [hr]
      exact (waiting_of_bus? (bus?_of_frame? hf)).symm
    · rfl
  replies := congrArg (·.2.1) haside
  lastChannel := Nat.le_of_eq (congrArg (·.2.2) haside).symm
  event := trivial

/-- The calls of a frame are dropped. -/
theorem callStep_dropped (hs : h.Sets h' f frame') (hpending : frame'.bus.pending = [])
    (haside : h'.aside = h.aside) : h.CallStep h' (some (.frame f, .dropped)) where
  waiting r := by
    rw [waiting_of_sets hs (congrArg Prod.fst haside) r, hpending]
    rfl
  replies := congrArg (·.2.1) haside
  lastChannel := Nat.le_of_eq (congrArg (·.2.2) haside).symm
  event := trivial

/-- Where there is no frame, there are no calls to be dropped. -/
theorem callStep_dropped_of_none (hf : h.frame? f = none) :
    h.CallStep h (some (.frame f, .dropped)) where
  waiting r := by
    have hnone := waiting_of_none (bus?_of_none hf)
    unfold waitingAfter
    dsimp only
    split
    · next hr =>
      rw [hr, hnone]
      rfl
    · rfl
  replies := rfl
  lastChannel := Nat.le_refl _
  event := trivial

/-! ## Moves without an event -/

/-- What happens to the page, to the caches, to the checks and to the commands of frames is nothing to
the calls. -/
theorem callStep_move {m : Move} (hidle : m.isIdle = true) (hbare : m.isBareBus = false) :
    h.CallStep (h.move m) none := by
  cases m with
  | page | cache | setCheck | endAborted | setGate =>
    exact callStep_of_frames rfl rfl rfl (Nat.le_refl _)
  | openChannel => exact callStep_of_frames rfl rfl rfl (Nat.le_succ _)
  | newFrame checks => exact callStep_added rfl rfl rfl
  | registerCommand f name cb =>
    rcases h.host_registerCommand f name cb with hsame | ⟨frame, commands, hf, -, hmove⟩
    · rw [hsame]
      exact CallStep.refl h
    · -- A registration touches the commands of a frame, not its bus.
      rw [hmove]
      exact callStep_kept hf (sets_modifyFrame hf _) rfl rfl
  | failCheck c e =>
    have haside : (h.move (.failCheck c e)).aside = h.aside := aside_move rfl rfl
    -- The failure of a check shows a document and changes no frame.
    have hframes : (h.move (.failCheck c e)).frames = h.frames := frames_move rfl
    exact callStep_of_frames hframes (congrArg Prod.fst haside) (congrArg (·.2.1) haside)
      (Nat.le_of_eq (congrArg (·.2.2) haside).symm)
  | execute r | reply r | postNext r =>
    cases r with
    | bare => exact absurd hbare Bool.noConfusion
    | frame => exact absurd hidle Bool.noConfusion
  | newBus | setBus => exact absurd hbare Bool.noConfusion
  | _ => exact absurd hidle Bool.noConfusion

/-! ## Sending and answering -/

/-- A bus that is replaced, as far as its calls go. -/
theorem waiting_setBus (hb : h.bus? r = some b) (b' : Bus)
    (hbus : ∀ r', h'.bus? r' = (h.setBus r b').bus? r') (r' : BusRef) : h'.waiting r' = if r' = r then b'.pending else h.waiting r' := by
  unfold waiting
  rw [hbus, bus?_setBus hb]
  split <;> rfl

/-- A bus refuses a task, and then nothing happens, or takes it. If the answer is waited for on a
channel, then that was opened for it. -/
theorem callStep_execute {h₁ : Host} (hs : h.CallStep h₁ none) (hb : h₁.bus? r = some b)
    (hchannel : ∀ id, responder = .channel id → h.lastChannel < id ∧ id ≤ h₁.lastChannel) :
    h.CallStep ((h₁.execute r task responder).toOption.getD h₁)
      ((b.callEvent? (.execute task responder)).map (r, ·)) := by
  cases hx : b.execute task responder with
  | error e =>
    -- A refusal is no event, and changes nothing.
    have hrefused : b.accepts task = false := by
      refine Bool.eq_false_iff.mpr fun haccepts => ?_
      obtain ⟨r', hr'⟩ := Bus.accepts_iff.mp haccepts
      rw [hx] at hr'
      cases hr'
    have hexecute : h₁.execute r task responder = .error e := by simp only [execute, hb, hx]
    have hevent : b.callEvent? (.execute task responder) = none := by
      simp [Bus.callEvent?, hrefused]
    rw [hexecute, hevent]
    exact hs
  | ok r' =>
    obtain ⟨b', posted⟩ := r'
    have hexecute : h₁.execute r task responder =
        .ok { h₁.setBus r b' with page := h₁.page.post? posted } := by
      simp only [execute, hb, hx]
    have hevent : b.callEvent? (.execute task responder) =
        some (.taken ⟨task.method, responder⟩) := by
      have haccepts := Bus.accepts_iff.mpr ⟨_, hx⟩
      simp [Bus.callEvent?, haccepts]
    rw [hexecute, hevent]
    show h.CallStep { h₁.setBus r b' with page := h₁.page.post? posted } _
    refine ⟨fun r' => ?_, ?_, ?_, ?_⟩
    · -- The call waits behind the others of its bus.
      have hkept : ∀ r', h₁.waiting r' = h.waiting r' := hs.waiting
      refine (waiting_setBus hb b' (fun _ => rfl) r').trans ?_
      rw [Bus.pending_execute hx, ← waiting_of_bus? hb, hkept r, hkept r']
      show _ = if r' = r then h.waiting r' ++ [⟨task.method, responder⟩] else h.waiting r'
      split
      · next hr' => rw [hr']
      · rfl
    · exact replies_setBus.trans hs.replies
    · exact Nat.le_trans hs.lastChannel (Nat.le_of_eq lastChannel_setBus.symm)
    · intro id hid
      -- Its channel was opened in this step.
      have hopen := hchannel id hid
      exact ⟨hopen.1, Nat.le_trans hopen.2 (Nat.le_of_eq lastChannel_setBus.symm)⟩

/-- The end of a reply changes no calls. -/
theorem callStep_postNext (r : BusRef) : h.CallStep (h.postNext r) none := by
  unfold postNext
  cases hb : h.bus? r with
  | none => exact CallStep.refl h
  | some b =>
    dsimp only
    refine ⟨fun r' => ?_, replies_setBus, Nat.le_of_eq lastChannel_setBus.symm,
      trivial⟩
    refine (waiting_setBus hb b.postNext.1 (fun _ => rfl) r').trans ?_
    rw [Bus.pending_postNext]
    show _ = h.waiting r'
    split
    · next hr' => rw [hr', waiting_of_bus? hb]
    · rfl

/-- A reply answers the oldest call, if there is one. -/
theorem callStep_reply (hb : h.bus? r = some b) (data : Option Value) :
    h.CallStep (h.reply r data).1 ((b.callEvent? (.answer data)).map (r, ·)) := by
  have hwaiting := waiting_of_bus? hb
  have hset : ∀ r', (h.setBus r b.answer.2).waiting r' =
      if r' = r then b.pending.tail else h.waiting r' :=
    waiting_setBus hb _ fun _ => rfl
  cases hpending : b.pending with
  | nil =>
    -- Nobody waits, so the bus stays as it is.
    have hreply : (h.reply r data).1 = h.setBus r b.answer.2 := by
      unfold reply
      rw [hb]
      simp [Bus.answer, hpending]
    have hevent : b.callEvent? (.answer data) = none := by simp [Bus.callEvent?, hpending]
    rw [hreply, hevent]
    refine ⟨fun r' => ?_, replies_setBus, Nat.le_of_eq lastChannel_setBus.symm,
      trivial⟩
    rw [hset, hpending]
    show _ = h.waiting r'
    split
    · next hr' => rw [hr', hwaiting, hpending]; rfl
    · rfl
  | cons call calls =>
    have hreply : (h.reply r data).1 =
        ((h.setBus r b.answer.2).deliver call.responder (data.getD Value.emptyObject)).1 := by
      unfold reply
      rw [hb]
      simp [Bus.answer, hpending]
    have hevent : b.callEvent? (.answer data) =
        some (.answered (data.getD Value.emptyObject)) := by
      simp [Bus.callEvent?, hpending]
    have hdeliver : ∀ r',
        ((h.setBus r b.answer.2).deliver call.responder (data.getD Value.emptyObject)).1.waiting r' =
          (h.setBus r b.answer.2).waiting r' := by
      intro r'
      cases call.responder <;> rfl
    rw [hreply, hevent]
    refine ⟨fun r' => ?_, ?_, ?_, ?_⟩
    · rw [hdeliver, hset]
      show _ = if r' = r then (h.waiting r').tail else h.waiting r'
      split
      · next hr' => rw [hr', hwaiting]
      · rfl
    · have hhead : (h.waiting r).head?.map PendingCall.responder = some call.responder := by
        rw [hwaiting, hpending]
        rfl
      show _ = match (h.waiting r).head?.map PendingCall.responder with
        | some (.channel id) => h.replies.insert id (data.getD Value.emptyObject)
        | _ => h.replies
      rw [hhead]
      have hkept : (h.setBus r b.answer.2).replies = h.replies := replies_setBus
      unfold deliver
      cases call.responder with
      | channel id =>
        show (h.setBus r b.answer.2).replies.insert id _ = _
        rw [hkept]
      | callback cb => exact hkept
      | ignore => exact hkept
    · have hkept : (h.setBus r b.answer.2).lastChannel = h.lastChannel := lastChannel_setBus
      unfold deliver
      cases call.responder <;> exact Nat.le_of_eq hkept.symm
    · show h.waiting r ≠ []
      rw [hwaiting, hpending]
      exact List.cons_ne_nil _ _

/-! ## Operations on frames -/

/-- A call over the bus of a frame. -/
theorem callStep_frame {h₁ : Host} (hs : h.CallStep h₁ none) (hbus : h₁.bus? (.frame f) = h.bus? (.frame f))
    (hchannel : ∀ id, responder = .channel id → h.lastChannel < id ∧ id ≤ h₁.lastChannel) :
    h.CallStep ((h₁.execute (.frame f) task responder).toOption.getD h₁)
      ((h.executeEvent? f task responder).map (.frame f, ·)) := by
  unfold executeEvent?
  cases hf : h.frame? f with
  | none =>
    have hnone : h₁.bus? (.frame f) = none := hbus.trans (bus?_of_none hf)
    have hexecute : h₁.execute (.frame f) task responder = .ok h₁ := by simp only [execute, hnone]
    rw [hexecute]
    exact hs
  | some frame => exact callStep_execute hs (hbus.trans (bus?_of_frame? hf)) hchannel

/-- A call opens its channel first. -/
theorem call_eq (m : Method) : h.call f m =
    match h.newChannel.1.execute (.frame f) (Task.ofMethod m) (.channel (h.lastChannel + 1)) with
    | .ok h' => (h', .waiting (h.lastChannel + 1), [])
    | .error e => (h.newChannel.1, .settled (some (.error e)), h.newChannel.1.report f e) := rfl

/-- A call of a frame is its execute event, with a channel of its own to answer. -/
theorem callStep_call (m : Method) : h.CallStep (h.call f m).1
    ((h.executeEvent? f (Task.ofMethod m) (.channel (h.lastChannel + 1))).map (.frame f, ·)) := by
  have hopened : h.CallStep h.newChannel.1 none := callStep_of_frames rfl rfl rfl (Nat.le_succ _)
  have hcall : (h.call f m).1 = (h.newChannel.1.execute (.frame f) (Task.ofMethod m)
      (.channel (h.lastChannel + 1))).toOption.getD h.newChannel.1 := by
    rw [call_eq]
    split
    · next h' hx => rw [hx]; rfl
    · next e hx => rw [hx]; rfl
  rw [hcall]
  refine callStep_frame hopened rfl fun id hid => ?_
  cases hid
  exact ⟨Nat.lt_succ_self _, Nat.le_refl _⟩

/-- A call by name is its execute event, with the callback to answer. -/
theorem callStep_callByName (name : String) (params : Option Value) (cb : Callback) :
    h.CallStep (h.callByName f name params cb).1
      ((h.executeEvent? f (Task.call name params) (.callback cb)).map (.frame f, ·)) := by
  have hcall : (h.callByName f name params cb).1 =
      (h.execute (.frame f) (Task.call name params) (.callback cb)).toOption.getD h := by
    unfold callByName
    split
    · next h' hx => rw [hx]; rfl
    · next e hx => rw [hx]; rfl
  rw [hcall]
  refine callStep_frame (CallStep.refl h) rfl fun id hid => ?_
  cases hid

/-- A mount drops the calls, whether or not the frame finds its place. -/
theorem callStep_mount (config : Config) :
    h.CallStep (h.mount f config).1 (some (.frame f, .dropped)) := by
  cases hf : h.frame? f with
  | none =>
    rw [mount_of_none hf]
    exact callStep_dropped_of_none hf
  | some frame =>
    rcases mount_cases hf config with ⟨-, -, hs, -, -⟩ | ⟨place, nodes, -, -, hplaced⟩
    · exact callStep_dropped hs rfl (aside_mount config)
    · obtain ⟨check, hs⟩ := hplaced.frames
      exact callStep_dropped hs rfl (aside_mount config)

/-- Destroying a frame makes the call event that its state gives, the drop of the calls that wait.
-/
theorem callStep_destroy : h.CallStep (h.destroy f) ((h.destroyEvent? f).map (.frame f, ·)) := by
  unfold destroyEvent?
  cases hf : h.frame? f with
  | none =>
    rw [destroy_of_none hf]
    exact CallStep.refl h
  | some frame =>
    rcases destroy_cases hf with ⟨hmounted, hsame⟩ | ⟨hmounted, hs, -, -⟩
    · rw [hsame]
      simp only [hmounted]
      exact CallStep.refl h
    · simp only [hmounted]
      exact callStep_dropped hs rfl aside_destroy

/-- Configuring a frame makes the call event of the remount it leads to, if it leads to one. -/
theorem callStep_configure (patch : Config) :
    h.CallStep (h.configure f patch).1 ((h.configureEvent? f patch).map (.frame f, ·)) := by
  unfold configureEvent? configure
  cases hf : h.frame? f with
  | none => exact CallStep.refl h
  | some frame =>
    dsimp only
    split
    · -- A remount drops the calls that wait.
      exact callStep_mount patch
    · -- The configuration changes first, and that is nothing to the calls.
      have hs := sets_modifyFrame hf fun frame' =>
        { frame' with config := frame.config.merged patch }
      have hkept : h.CallStep (h.modifyFrame f fun frame' =>
          { frame' with config := frame.config.merged patch }) none := callStep_kept hf hs rfl rfl
      have hcall := callStep_call (f := f) (h := h.modifyFrame f fun frame' =>
          { frame' with config := frame.config.merged patch })
        (.setConfig (frame.config.merged patch).toValue)
      have hstep := hcall.after hkept
      unfold executeEvent? at hstep ⊢
      rw [hs.frame?] at hstep
      rw [hf]
      exact hstep

/-- Showing the content touches no call. -/
theorem callStep_showContent : h.CallStep (h.showContent f).1 none := by
  cases hf : h.frame? f with
  | none =>
    rw [showContent_of_none hf]
    exact CallStep.refl h
  | some frame =>
    rcases showContent_cases hf with hsame | ⟨nodes, -, -, hs, -, -⟩
    · rw [hsame]
      exact CallStep.refl h
    · exact callStep_kept hf hs rfl aside_showContent

/-- A command makes the call event of the built-in it stands for. -/
theorem callStep_runCommand (name : String) (data : Value) :
    h.CallStep (h.runCommand f name data).1 ((h.commandEvent? f name data).map (.frame f, ·)) := by
  unfold commandEvent? runCommand
  cases (h.frame? f).bind fun frame => frame.commands.get? name with
  | none => exact CallStep.refl h
  | some command =>
    cases command with
    | showContent => exact callStep_showContent
    | destroy => exact callStep_destroy
    | host cb => exact CallStep.refl h
    | configure =>
      dsimp only
      cases Config.ofValue data with
      | error e => exact CallStep.refl h
      | ok patch => exact callStep_configure patch

/-- A handled message makes the call event of what it is taken for. -/
theorem callStep_handle (data : Value) :
    h.CallStep (h.handle f data).1 ((h.handleEvent? f data).map (.frame f, ·)) := by
  unfold handleEvent? handle
  cases hf : h.frame? f with
  | none => exact CallStep.refl h
  | some frame =>
    cases data.string? with
    | none => exact CallStep.refl h
    | some text =>
      dsimp only
      split
      · unfold dispatch
        cases hkind : (Inbound.decode text).kind with
        | methodReturn =>
          -- A method return answers the bus, with the data that it carries.
          have hreply := callStep_reply (bus?_of_frame? hf) (Inbound.decode text).returnData
          unfold Bus.callEvent? at hreply
          dsimp only at hreply ⊢
          rw [Inbound.returnData_decode hkind] at hreply
          exact hreply
        | callCommand => exact callStep_runCommand _ _
        | eventReturn =>
          dsimp only
          split <;> exact CallStep.refl h
        | error | other => exact CallStep.refl h
      · exact CallStep.refl h

/-- A frame that is found in the registry, or made for it, has made no calls by that. -/
theorem callStep_registered (frameId : String) : h.CallStep (h.registered frameId).1 none := by
  have haside : (h.registered frameId).1.aside = h.aside := aside_move (m := .enroll frameId) rfl rfl
  unfold registered at haside ⊢
  cases hget : h.registry.get? frameId with
  | some f => exact CallStep.refl h
  | none =>
    rw [hget] at haside
    exact callStep_added rfl rfl haside

/-- Connecting touches no call. -/
theorem callStep_connect (g : ℕ) : h.CallStep (h.connect f g).1 none := by
  have haside : (h.connect f g).1.aside = h.aside := aside_move (m := .connect f g) rfl rfl
  cases hf : h.frame? f with
  | none =>
    rw [connect_of_none hf]
    exact CallStep.refl h
  | some frame =>
    rcases connect_cases hf g with ⟨-, hsame⟩ | ⟨-, phase, -, hs, -, -⟩
    · rw [hsame]
      exact CallStep.refl h
    · exact callStep_kept hf hs rfl haside

/-- Fading the loader touches no call. -/
theorem callStep_fade (g : ℕ) (l : NodeId) : h.CallStep (h.fadeLoader f g l) none := by
  rcases h.fadeLoader_cases f g l with hfade | ⟨frame, -, -, hfade⟩
  · rw [hfade]
    exact CallStep.refl h
  · rw [hfade]
    exact callStep_of_frames rfl rfl rfl (Nat.le_refl _)

/-- Retiring the loader touches no call. -/
theorem callStep_retire (g : ℕ) (l : NodeId) : h.CallStep (h.retireLoader f g l).1 none := by
  have haside : (h.retireLoader f g l).1.aside = h.aside := aside_move (m := .retire f g l) rfl rfl
  cases hf : h.frame? f with
  | none =>
    rw [retireLoader_of_none hf]
    exact CallStep.refl h
  | some frame =>
    rcases retireLoader_cases hf g l with ⟨-, hsame⟩ | ⟨-, hs, -, -⟩
    · rw [hsame]
      exact CallStep.refl h
    · exact callStep_kept hf hs rfl haside

/-- What an operation on a frame is for the calls. -/
theorem callStep_operate {op : Frame.Op} (hopen : ∀ c, op = .openFrame c → f = (h.openFrame c).2) :
    h.CallStep (h.operate f op) ((h.callEvent? f op).map (.frame f, ·)) := by
  cases op with
  | openFrame config =>
    -- Opening registers the frame, which is nothing to the calls, and mounts it.
    have hf := hopen config rfl
    subst hf
    exact (callStep_mount (h.defaults.merged config)).after (callStep_registered _)
  | mount config => exact callStep_mount config
  | destroy => exact callStep_destroy
  | showContent => exact callStep_showContent
  | configure patch => exact callStep_configure patch
  | call m => exact callStep_call m
  | callByName name params cb => exact callStep_callByName name params cb
  | handle data => exact callStep_handle data
  | connect g => exact callStep_connect g
  | fade g l => exact callStep_fade g l
  | retire g l => exact callStep_retire g l
  | postNext => exact callStep_postNext _

end Host

/-! ## Steps -/

namespace Session

variable {s : Session} {f : FrameRef} {op : Frame.Op}

/-- A frame that is opened is told by its configuration. -/
theorem eq_openFrame_of_op? (hop : s.op? = some (f, op)) (c : Config) (hc : op = .openFrame c) :
    f = (s.host.openFrame c).2 := by
  subst hc
  unfold op? at hop
  split at hop
  · next a jobs hagenda =>
    unfold opOf? at hop
    split at hop
    · cases hop
      rfl
    all_goals first | cases hop | (obtain ⟨g, -, hg⟩ := Option.map_eq_some_iff.mp hop; cases hg)
  all_goals first | cases hop | (split at hop <;> cases hop)

/-- A bus that begins empty has taken no calls. -/
theorem callStep_newBus (h : Host) : h.CallStep h.newBus.1 none where
  waiting r := by
    cases r with
    | frame f => rfl
    | bare n =>
      show (((h.buses ++ [({} : Bus)])[n]?).map Bus.pending).getD [] =
        ((h.buses[n]?).map Bus.pending).getD []
      by_cases hn : n < h.buses.length
      · rw [List.getElem?_append_left hn]
      · -- The new bus is empty.
        have hle : h.buses.length ≤ n := Nat.le_of_not_lt hn
        rw [List.getElem?_append_right hle, List.getElem?_eq_none_iff.mpr hle,
          List.getElem?_singleton]
        split <;> rfl
  replies := rfl
  lastChannel := Nat.le_refl _
  event := trivial

/-- A task that is given to a bus: the channel for its answer is opened first, if it is to be kept. -/
theorem callStep_executeBus {n : ℕ} {b : Bus} (hb : s.host.buses[n]? = some b) (task : Task)
    (receiver : Receiver) :
    s.host.CallStep (s.executeBus n task receiver).host
      ((b.callEvent? (.execute task (s.responder receiver))).map (.bare n, ·)) := by
  -- Whatever channel was opened for the answer, the rest is the step of the host.
  have hgiven : ∀ t : Session, s.host.CallStep t.host none → t.host.buses = s.host.buses →
      (∀ id, s.responder receiver = .channel id →
        s.host.lastChannel < id ∧ id ≤ t.host.lastChannel) →
      s.host.CallStep ((t.host.execute (.bare n) task (s.responder receiver)).toOption.getD t.host)
        ((b.callEvent? (.execute task (s.responder receiver))).map (.bare n, ·)) :=
    fun t hs hbuses hchannel =>
      Host.callStep_execute hs (show t.host.buses[n]? = some b from hbuses ▸ hb) hchannel
  refine executeBus_cases (P := fun u => s.host.CallStep u.host _)
    (Q := fun t responder => responder = s.responder receiver ∧
      s.host.CallStep t.host none ∧ t.host.buses = s.host.buses ∧
      ∀ id, responder = .channel id → s.host.lastChannel < id ∧ id ≤ t.host.lastChannel)
    ?_ ?_ ?_ ?_ ?_
  · rintro cb rfl
    exact ⟨rfl, Host.CallStep.refl _, rfl, fun _ hid => by cases hid⟩
  · rintro rfl
    exact ⟨rfl, Host.CallStep.refl _, rfl, fun _ hid => by cases hid⟩
  · -- A call kept under a name has a channel of its own, the newest.
    rintro name rfl
    refine ⟨rfl, Host.callStep_of_frames rfl rfl rfl (Nat.le_succ _), rfl, fun id hid => ?_⟩
    cases hid
    exact ⟨Nat.lt_succ_self _, Nat.le_refl _⟩
  · rintro t _ e ⟨rfl, hs, hbuses, hchannel⟩ hx
    have hstep := hgiven t hs hbuses hchannel
    rw [hx] at hstep
    exact hstep
  · rintro t _ h ⟨rfl, hs, hbuses, hchannel⟩ hx
    have hstep := hgiven t hs hbuses hchannel
    rw [hx] at hstep
    exact hstep

/-- A bus of the session's own that is set to another one. -/
theorem callStep_setBus {n : ℕ} {b b' : Bus} (hb : s.host.buses[n]? = some b) {e : Option CallEvent}
    (he : e = none ∧ b'.pending = b.pending ∨ e = some .dropped ∧ b'.pending = []) :
    s.host.CallStep (s.host.setBus (.bare n) b') (e.map (.bare n, ·)) where
  waiting r := by
    have hb' : s.host.bus? (.bare n) = some b := hb
    rw [Host.waiting_setBus hb' _ (fun _ => rfl) r]
    -- Either the calls stay, or all of them are dropped.
    rcases he with ⟨rfl, hpending⟩ | ⟨rfl, hpending⟩
    · show _ = s.host.waiting r
      split
      · next hr => rw [hr, hpending, Host.waiting_of_bus? hb']
      · rfl
    · rw [hpending]
      rfl
  replies := by rcases he with ⟨rfl, -⟩ | ⟨rfl, -⟩ <;> rfl
  lastChannel := Nat.le_refl _
  event := by rcases he with ⟨rfl, -⟩ | ⟨rfl, -⟩ <;> trivial

/-- An action on a bare bus makes the call event that its name gives. -/
theorem callStep_actBus (name : String) (a : BusAction) :
    s.host.CallStep (s.actBus name a).host (s.busCallEvent? name a) := by
  by_cases hmake : a = .make
  · subst hmake
    -- A new bus is no event, even under a name that stands for another.
    have hnone : s.busCallEvent? name .make = none := by
      unfold busCallEvent?
      cases s.buses.get? name with
      | none => rfl
      | some n =>
        show (s.host.buses[n]?).bind _ = none
        cases s.host.buses[n]? <;> rfl
    rw [hnone]
    exact callStep_newBus s.host
  by_cases hbus : ∃ n b, s.buses.get? name = some n ∧ s.host.buses[n]? = some b
  · obtain ⟨n, b, hn, hb⟩ := hbus
    have hevent : s.busCallEvent? name a =
        ((s.busEventOf? a).bind b.callEvent?).map (.bare n, ·) := by
      unfold busCallEvent?
      rw [hn, Option.bind_some, hb, Option.bind_some]
    rw [hevent]
    unfold actBus
    simp only [onBus_of_some hn hb]
    cases a with
    | make => exact absurd rfl hmake
    | attach | connect => exact callStep_setBus hb (.inl ⟨rfl, rfl⟩)
    | reset => exact callStep_setBus hb (.inr ⟨rfl, rfl⟩)
    | execute method data receiver => exact callStep_executeBus hb _ receiver
    | reply data => exact Host.callStep_reply (r := .bare n) hb data
  · -- A name that stands for no bus.
    have hnone : s.busCallEvent? name a = none := by
      unfold busCallEvent?
      cases hn : s.buses.get? name with
      | none => rfl
      | some n =>
        show (s.host.buses[n]?).bind _ = none
        cases hb : s.host.buses[n]? with
        | none => rfl
        | some b => exact absurd ⟨n, b, hn, hb⟩ hbus
    have hsame := buses_actBus_of_none name hmake fun n b hn hb => hbus ⟨n, b, hn, hb⟩
    rw [hnone, hsame]
    exact Host.CallStep.refl _

/-- A step that operates a frame has the call event of that operation. -/
theorem callEvent?_of_op? (hop : s.op? = some (f, op)) :
    s.callEvent? = (s.host.callEvent? f op).map (.frame f, ·) := by
  unfold callEvent?
  rw [hop]

/-- A step that acts on a bare bus has the call event of that action. -/
theorem callEvent?_act {nested : Bool} {name : String} {a : BusAction} {jobs : List Job}
    (hagenda : s.agenda = .act nested (.bus name a) :: jobs) :
    s.callEvent? = s.busCallEvent? name a := by
  have hop : s.op? = none := by
    unfold op?
    rw [hagenda]
  unfold callEvent?
  rw [hop, hagenda]

/-- A job that is an operation neither on a frame nor on a bus of the session's own. -/
theorem callEvent?_none (hop : s.op? = none)
    (hbus : ∀ nested name a jobs, s.agenda ≠ .act nested (.bus name a) :: jobs) :
    s.callEvent? = none := by
  unfold callEvent?
  split
  · next hsome =>
    rw [hop] at hsome
    cases hsome
  · next hagenda => exact absurd hagenda (hbus _ _ _ _)
  · rfl

/-- A step does to the calls what the next job is for them. -/
theorem step_calls (s : Session) : s.host.CallStep s.step.host s.callEvent? := by
  cases hop : s.op? with
  | some r =>
    obtain ⟨f, op⟩ := r
    rw [callEvent?_of_op? hop, step_operate hop]
    exact Host.callStep_operate (eq_openFrame_of_op? hop)
  | none =>
    cases hagenda : s.agenda with
    | nil =>
      rw [callEvent?_none hop (by simp [hagenda]), step_nil hagenda]
      exact Host.CallStep.refl _
    | cons job jobs =>
      cases hjob : job.isBareBus with
      | true =>
        -- The job acts on a bare bus, or posts its next task.
        rcases isBareBus_cases hjob with ⟨nested, name, a, rfl⟩ | ⟨m, rfl⟩
        · rw [callEvent?_act hagenda, step_cons hagenda]
          exact callStep_actBus (s := { s with agenda := jobs }) name a
        · rw [callEvent?_none hop (by simp [hagenda]), step_cons hagenda]
          exact Host.callStep_postNext _
      | false =>
        -- Every other job makes idle moves only.
        have hbus : ∀ nested name a jobs, s.agenda ≠ .act nested (.bus name a) :: jobs := by
          rintro nested name a jobs' heq
          rw [hagenda] at heq
          rw [(List.cons.inj heq).1] at hjob
          cases hjob
        rw [callEvent?_none hop hbus]
        refine (step_idle hagenda hop).preserves (P := fun h => s.host.CallStep h none) ?_
          (Host.CallStep.refl _)
        rintro h m ⟨hidle, hmakes⟩ hs
        exact hs.trans (Host.callStep_move hidle (isBareBus_of_makes hmakes hjob))

end Session

end FrameHost
