import FrameHost.Proofs.Move

/-!
# What happens to a bus

The buses of the session's own are changed by six kinds of events and by nothing else (`step_bus`):
what a job does to such a bus, and what it posts, is what its event does to the bus alone.
-/

namespace FrameHost

open Json (Value)

/-! ## Events -/

namespace Bus

/-- What can happen to a bus. -/
inductive Event where
  | attach (frameId : String) (target : Target)
  | connect
  | reset
  | execute (task : Task) (responder : Responder)
  /-- A reply arrives. -/
  | answer (data : Option Value)
  /-- The receiver of a reply is done. -/
  | postNext
deriving Inhabited

/-- The bus after an event, and the message that the event posts. -/
def apply (b : Bus) : Event → Bus × Option Posted
  | .attach frameId target => (b.attach frameId target, none)
  | .connect => (b.connect, none)
  | .reset => (b.reset, none)
  | .execute task responder => (b.execute task responder).toOption.getD (b, none)
  | .answer _ => (b.answer.2, none)
  | .postNext => b.postNext

/-- A bus refuses a call, or posts it if no other is pending, or else defers it. -/
theorem execute_cases (b : Bus) (task : Task) (responder : Responder) :
    (∃ e, b.execute task responder = .error e) ∨
      ∃ target, b.target = some target ∧
        b.execute task responder =
          if b.pending = [] then
            .ok ({ b with pending := [⟨task.method, responder⟩] }, some (b.message target task))
          else
            .ok ({ b with
              pending := b.pending ++ [⟨task.method, responder⟩]
              deferred := b.deferred ++ [task] }, none) := by
  unfold execute
  -- A call is refused before the load, and without a target.
  cases hadmits : b.admits task with
  | false => exact .inl ⟨_, rfl⟩
  | true =>
    cases htarget : b.target with
    | none => exact .inl ⟨_, rfl⟩
    | some target =>
      refine .inr ⟨target, rfl, ?_⟩
      cases hpending : b.pending with
      | nil => rfl
      | cons call calls => rfl

end Bus

namespace Session

/-- Who gets the reply to a call that is made now. -/
def responder (s : Session) : Receiver → Responder
  | .callback cb => .callback cb
  | .call _ => .channel (s.host.lastChannel + 1)
  | .ignore => .ignore

/-- What an operation does to the bus that it names. -/
def busEventOf? (s : Session) : BusAction → Option Bus.Event
  | .make => none
  | .attach frameId node origin => some (.attach frameId ⟨s.nodeId node, origin⟩)
  | .connect => some .connect
  | .reset => some .reset
  | .execute method data receiver => some (.execute (Task.call method data) (s.responder receiver))
  | .reply data => some (.answer data)

/-- What the next job does to a bus of the session's own. -/
def busEvent? (s : Session) (n : ℕ) : Option Bus.Event :=
  match s.agenda with
  | .act _ (.bus name a) :: _ => if s.buses.get? name = some n then s.busEventOf? a else none
  | .follow (.postNext (.bare m)) :: _ => if m = n then some .postNext else none
  | _ => none

end Session

/-! ## What leaves the buses alone -/

namespace Host

variable {h : Host} {f : FrameRef}

/-- Whether a move is one of the buses of the session's own. -/
def Move.isBareBus : Move → Bool
  | .execute (.bare _) _ _ | .reply (.bare _) _ | .postNext (.bare _) | .newBus | .setBus _ _ => true
  | _ => false

/-- The buses of the session's own, the replies that were delivered and the channel opened last. -/
def aside (h : Host) : List Bus × Table ChannelId Value × ChannelId :=
  (h.buses, h.replies, h.lastChannel)

/-- A frame's change leaves everything beside the frames alone. -/
@[simp] theorem aside_modifyFrame (g : Frame → Frame) : (h.modifyFrame f g).aside = h.aside := rfl

/-- Leaving the registry keeps the rest of the host. -/
@[simp] theorem aside_deregister (frameId : String) :
    (h.deregister f frameId).aside = h.aside := by
  unfold deregister
  split <;> rfl

/-- Entering the registry keeps the rest of the host. -/
@[simp] theorem aside_register : (h.register f).aside = h.aside := by
  unfold register
  split
  · rfl
  · split <;> rfl

/-- Letting go of the old nodes keeps the buses and all else beside the frame. -/
@[simp] theorem aside_release : (h.release f).aside = h.aside := by
  unfold release
  split
  · rfl
  · unfold abort
    split <;> rfl

/-- Starting a check keeps the rest of the host. -/
@[simp] theorem aside_startCheck : (h.startCheck f).aside = h.aside := by
  unfold startCheck
  split
  · rfl
  · split <;> rfl

/-- Installing a frame's nodes keeps the rest of the host. -/
@[simp] theorem aside_install (frame : Frame) (place : Place) :
    (h.install f frame place).1.aside = h.aside :=
  aside_register.trans aside_startCheck

/-- Preparing a mount keeps the rest of the host. -/
@[simp] theorem aside_prepare (frame : Frame) (place : Place) :
    (h.prepare f frame place).aside = h.aside := by
  cases place <;> rfl

/-- A mount keeps the bare buses and all else beside the frame. -/
@[simp] theorem aside_mount (config : Config) : (h.mount f config).1.aside = h.aside := by
  unfold mount
  dsimp only
  split
  · rfl
  · split
    · rw [aside_install, aside_prepare]
      split <;> simp
    · rw [aside_modifyFrame]
      split <;> simp

/-- So does destroying the frame. -/
@[simp] theorem aside_destroy : (h.destroy f).aside = h.aside := by
  unfold destroy
  split
  · rfl
  · split
    · exact (aside_deregister _).trans aside_release
    · rfl

/-- So does showing its content. -/
@[simp] theorem aside_showContent : (h.showContent f).1.aside = h.aside := by
  unfold showContent
  split
  · rfl
  · split
    · rfl
    · dsimp only
      split <;> rfl

/-- A call accepted on a frame's own bus keeps every bare bus. -/
theorem aside_execute {task : Task} {responder : Responder} {h' : Host}
    (hx : h.execute (.frame f) task responder = .ok h') : h'.aside = h.aside := by
  rw [← move_execute hx]
  rcases h.host_execute (.frame f) task responder with hsame | ⟨b, bus, posted, -, -, hmove⟩
  · rw [hsame]
  · rw [hmove]
    rfl

/-- Whether a move delivers a reply or opens a channel. -/
def Move.isAnswer : Move → Bool
  | .reply _ _ | .openChannel => true
  | _ => false

/-- The other moves leave alone what is not of frames. -/
theorem aside_move {m : Move} (hm : m.isBareBus = false) (hanswer : m.isAnswer = false) :
    (h.move m).aside = h.aside := by
  cases m with
  | page | cache | newFrame | patch | setCheck | endAborted | setGate => rfl
  | enroll frameId =>
    show (h.registered frameId).1.aside = h.aside
    unfold registered
    split <;> rfl
  -- The moves that work on a frame and its page.
  | mount f config => exact aside_mount config
  | destroy f => exact aside_destroy
  | showContent f => exact aside_showContent
  | registerCommand f name cb =>
    rcases h.host_registerCommand f name cb with hsame | ⟨frame, commands, -, -, hmove⟩
    · rw [hsame]
    · rw [hmove]
      rfl
  -- The two that go through a bus: here it is a frame's.
  | execute r task responder =>
    cases r with
    | bare => exact absurd hm Bool.noConfusion
    | frame f =>
      show ((h.execute (.frame f) task responder).toOption.getD h).aside = h.aside
      cases hx : h.execute (.frame f) task responder with
      | error e => rfl
      | ok h' => exact aside_execute hx
  | postNext r =>
    cases r with
    | bare => exact absurd hm Bool.noConfusion
    | frame f =>
      show (h.postNext (.frame f)).aside = h.aside
      rcases h.host_postNext (.frame f) with hsame | ⟨b, -, hnext⟩
      · rw [hsame]
      · rw [hnext]
        rfl
  -- The hooks do their work on a frame of their generation, or none.
  | connect f g =>
    show (h.connect f g).1.aside = h.aside
    unfold connect
    split
    · rfl
    · split <;> rfl
  | fade f g l =>
    show (h.fadeLoader f g l).aside = h.aside
    rcases h.fadeLoader_cases f g l with hfade | ⟨frame, -, -, hfade⟩
    · rw [hfade]
    · rw [hfade]
      rfl
  | retire f g l =>
    show (h.retireLoader f g l).1.aside = h.aside
    unfold retireLoader
    split
    · rfl
    · split <;> rfl
  | failCheck c e =>
    show (h.failCheck c e).1.aside = h.aside
    rcases h.failCheck_cases c e with hfail | ⟨frame, page, -, -, -, hfail⟩
    · rw [hfail]
    · rw [hfail]
      rfl
  | newBus | setBus => exact absurd hm Bool.noConfusion
  | reply | openChannel => exact absurd hanswer Bool.noConfusion

/-- An answer on a frame's own bus keeps every bare bus. -/
theorem buses_reply (data : Option Value) : (h.reply (.frame f) data).1.buses = h.buses := by
  rcases h.host_reply (.frame f) data with ⟨-, hreply⟩ | ⟨b, replies, -, hreply⟩
  · rw [hreply]
  · rw [hreply]
    rfl

/-- The moves that are none of the buses of the session's own keep those buses. -/
theorem buses_move {m : Move} (hm : m.isBareBus = false) : (h.move m).buses = h.buses := by
  cases hanswer : m.isAnswer with
  | false => exact congrArg Prod.fst (aside_move hm hanswer)
  | true =>
    cases m with
    | openChannel => rfl
    | reply r data =>
      cases r with
      | bare => exact absurd hm Bool.noConfusion
      | frame f => exact buses_reply data
    | _ => exact absurd hanswer Bool.noConfusion

end Host

/-! ## What a job does to a bus -/

/-- `h'` has a bus of `h` after an event, the other buses of `h`, and the message that the event
posts. -/
structure Host.BusStep (h h' : Host) (n : ℕ) (b : Bus) (e : Bus.Event) : Prop where
  buses : h'.buses = h.buses.set n (b.apply e).1
  posted : h'.page.posted = h.page.posted ++ (b.apply e).2.toList

namespace Host

variable {h : Host} {n : ℕ} {b : Bus}

/-- Posting an optional message appends it, if there is one. -/
theorem posted_post? (p : Page) (message : Option Posted) :
    (p.post? message).posted = p.posted ++ message.toList := by
  cases message with
  | none => exact (List.append_nil _).symm
  | some message => rfl

/-- A bus put back in its own place. -/
theorem set_bus_self (hb : h.buses[n]? = some b) : h.buses.set n b = h.buses := by
  refine List.ext_getElem? fun m => ?_
  rw [List.getElem?_set]
  split
  · next hm =>
    rw [← hm, hb]
    obtain ⟨hn, -⟩ := List.getElem?_eq_some_iff.mp hb
    rw [if_pos hn]
  · rfl

/-- Executing on a bare bus is the bus event of that task. -/
theorem busStep_execute (hb : h.buses[n]? = some b) (task : Task) (responder : Responder) :
    h.BusStep ((h.execute (.bare n) task responder).toOption.getD h) n b
      (.execute task responder) := by
  have hbus : h.bus? (.bare n) = some b := hb
  cases hx : b.execute task responder with
  | error e =>
    -- A refused call changes nothing and posts nothing.
    have hexecute : h.execute (.bare n) task responder = .error e := by
      simp only [execute, hbus, hx]
    have happly : b.apply (.execute task responder) = (b, none) :=
      congrArg (fun r => r.toOption.getD (b, none)) hx
    rw [hexecute]
    constructor
    · rw [happly]
      exact (set_bus_self hb).symm
    · rw [happly]
      exact (List.append_nil _).symm
  | ok r =>
    -- An accepted one changes its own bus, and the page by what it posts.
    have hexecute : h.execute (.bare n) task responder =
        .ok { h.setBus (.bare n) r.1 with page := h.page.post? r.2 } := by
      simp only [execute, hbus, hx]
    have happly : b.apply (.execute task responder) = r :=
      congrArg (fun r => r.toOption.getD (b, none)) hx
    rw [hexecute]
    constructor
    · rw [happly]
      rfl
    · rw [happly]
      exact posted_post? h.page r.2

/-- Posting the next deferred task is the bus event of that name. -/
theorem busStep_postNext (hb : h.buses[n]? = some b) :
    h.BusStep (h.postNext (.bare n)) n b .postNext := by
  have hbus : h.bus? (.bare n) = some b := hb
  have hpost : h.postNext (.bare n) =
      { h.setBus (.bare n) b.postNext.1 with page := h.page.post? b.postNext.2 } := by
    unfold postNext
    rw [hbus]
  rw [hpost]
  exact ⟨rfl, posted_post? h.page b.postNext.2⟩

/-- Answering a bare bus is its answer event. -/
theorem busStep_reply (hb : h.buses[n]? = some b) (data : Option Value) :
    h.BusStep (h.reply (.bare n) data).1 n b (.answer data) := by
  have hbus : h.bus? (.bare n) = some b := hb
  have hnothing : h.page.posted = h.page.posted ++ ((b.apply (.answer data)).2).toList :=
    (List.append_nil _).symm
  rcases h.host_reply (.bare n) data with ⟨hnone, -⟩ | ⟨b', replies, hb', hreply⟩
  · rw [hbus] at hnone
    cases hnone
  · cases hbus.symm.trans hb'
    rw [hreply]
    exact ⟨rfl, hnothing⟩

/-- Storing the bus that an event leaves is that event's step. -/
theorem busStep_setBus (b' : Bus) (e : Bus.Event) (he : b.apply e = (b', none)) :
    h.BusStep (h.setBus (.bare n) b') n b e := by
  constructor
  · rw [he]
    rfl
  · rw [he]
    exact (List.append_nil _).symm

/-- The bus itself and the other buses after an event of a bus. -/
theorem BusStep.getElem? {h' : Host} {m : ℕ} {e : Bus.Event} (hs : h.BusStep h' m b e)
    (hm : h.buses[m]? = some b) (n : ℕ) :
    h'.buses[n]? = if m = n then some (b.apply e).1 else h.buses[n]? := by
  obtain ⟨hlt, -⟩ := List.getElem?_eq_some_iff.mp hm
  rw [hs.buses, List.getElem?_set]
  rw [if_pos hlt]

end Host

namespace Session

variable {s : Session} {n : ℕ}

/-- An operation on a bus that a name stands for is its event. -/
theorem busStep_actBus {name : String} {a : BusAction} {b : Bus} {e : Bus.Event}
    (hn : s.buses.get? name = some n) (hb : s.host.buses[n]? = some b)
    (he : s.busEventOf? a = some e) : s.host.BusStep (s.actBus name a).host n b e := by
  unfold actBus
  simp only [onBus_of_some hn hb]
  cases a with
  | make => cases he
  | attach frameId node origin =>
    cases he
    exact Host.busStep_setBus _ _ rfl
  | connect =>
    cases he
    exact Host.busStep_setBus _ _ rfl
  | reset =>
    cases he
    exact Host.busStep_setBus _ _ rfl
  | execute method data receiver =>
    cases he
    show s.host.BusStep (s.executeBus n (Task.call method data) receiver).host n b _
    -- The call is made on a host that has the buses and the page of `s`.
    have hgiven : ∀ t : Session, t.host.buses = s.host.buses → t.host.page = s.host.page →
        s.host.BusStep ((t.host.execute (.bare n) (Task.call method data)
          (s.responder receiver)).toOption.getD t.host) n b
          (.execute (Task.call method data) (s.responder receiver)) := by
      intro t hbuses hpage
      have hstep := Host.busStep_execute (hbuses ▸ hb) (Task.call method data)
        (s.responder receiver)
      exact ⟨hstep.buses.trans (by rw [hbuses]), hstep.posted.trans (by rw [hpage])⟩
    refine executeBus_cases (P := fun u => s.host.BusStep u.host n b _)
      (Q := fun t responder => responder = s.responder receiver ∧
        t.host.buses = s.host.buses ∧ t.host.page = s.host.page) ?_ ?_ ?_ ?_ ?_
    · rintro cb rfl
      exact ⟨rfl, rfl, rfl⟩
    · rintro rfl
      exact ⟨rfl, rfl, rfl⟩
    · rintro name rfl
      exact ⟨rfl, rfl, rfl⟩
    · rintro t _ e ⟨rfl, hbuses, hpage⟩ hx
      have hstep := hgiven t hbuses hpage
      rw [hx] at hstep
      exact hstep
    · rintro t _ h ⟨rfl, hbuses, hpage⟩ hx
      have hstep := hgiven t hbuses hpage
      rw [hx] at hstep
      exact hstep
  | reply data =>
    cases he
    exact Host.busStep_reply hb data

/-- An operation on a bus by a name that stands for none. -/
theorem buses_actBus_of_none (name : String) {a : BusAction} (ha : a ≠ .make)
    (hn : ∀ m b, s.buses.get? name = some m → s.host.buses[m]? ≠ some b) :
    (s.actBus name a).host = s.host := by
  have hnone : ∀ go, (s.onBus name go).host = s.host := by
    intro go
    exact onBus_cases (P := fun t => t.host = s.host) rfl fun m b hm hb => absurd hb (hn m b hm)
  unfold actBus
  cases a with
  | make => exact absurd rfl ha
  | _ => exact hnone _

/-- An action on a bare bus is an event of bus `n` where its name stands for `n`. -/
theorem busEvent?_act {nested : Bool} {name : String} {a : BusAction} {jobs : List Job}
    (h : s.agenda = .act nested (.bus name a) :: jobs) :
    s.busEvent? n = if s.buses.get? name = some n then s.busEventOf? a else none := by
  unfold busEvent?
  rw [h]

/-- A job that posts the next deferred task is an event of its own bus. -/
theorem busEvent?_postNext {m : ℕ} {jobs : List Job}
    (h : s.agenda = .follow (.postNext (.bare m)) :: jobs) :
    s.busEvent? n = if m = n then some .postNext else none := by
  unfold busEvent?
  rw [h]

/-- Jobs that work on no bus of the session's own. -/
theorem busEvent?_of_isBareBus {job : Job} {jobs : List Job} (h : s.agenda = job :: jobs)
    (hjob : job.isBareBus = false) : s.busEvent? n = none := by
  unfold busEvent?
  rw [h]
  split
  · next heq =>
    rw [(List.cons.inj heq).1] at hjob
    exact absurd hjob Bool.noConfusion
  · next heq =>
    rw [(List.cons.inj heq).1] at hjob
    exact absurd hjob Bool.noConfusion
  · rfl

/-- The jobs that work on the buses of the session's own. -/
theorem isBareBus_cases {job : Job} (h : job.isBareBus = true) :
    (∃ nested name a, job = .act nested (.bus name a)) ∨
      ∃ m, job = .follow (.postNext (.bare m)) := by
  unfold Job.isBareBus at h
  split at h
  · exact .inl ⟨_, _, _, rfl⟩
  · exact .inr ⟨_, rfl⟩
  · cases h

/-- A move of the buses of the session's own comes from a job that works on them. -/
theorem isBareBus_of_makes {job : Job} {m : Host.Move} (hmakes : job.Makes m)
    (hjob : job.isBareBus = false) : m.isBareBus = false := by
  have hno : job.isBareBus ≠ true := by
    rw [hjob]
    exact Bool.noConfusion
  cases m with
  | execute r | reply r | postNext r =>
    cases r with
    | frame => rfl
    | bare => exact absurd hmakes hno
  | newBus | setBus => exact absurd hmakes hno
  | _ => rfl

/-- A step leaves the buses of the session's own as they are, adds a new one, or is an event of one
of them. -/
theorem step_buses (s : Session) :
    (s.step.host.buses = s.host.buses ∧ ∀ n b, s.host.buses[n]? = some b → s.busEvent? n = none) ∨
      (s.step.host.buses = s.host.buses ++ [({} : Bus)] ∧ ∀ n, s.busEvent? n = none) ∨
      ∃ m b e, s.host.buses[m]? = some b ∧ s.host.BusStep s.step.host m b e ∧
        ∀ n, s.busEvent? n = if m = n then some e else none := by
  cases hagenda : s.agenda with
  | nil =>
    refine .inl ⟨?_, fun n b _ => ?_⟩
    · rw [step_nil hagenda]
    · unfold busEvent?
      rw [hagenda]
  | cons job jobs =>
    have hstep := step_cons hagenda
    cases hjob : job.isBareBus with
    | false =>
      -- The moves of the job are none of those buses.
      refine .inl ⟨?_, fun n b _ => busEvent?_of_isBareBus hagenda hjob⟩
      have hkeeps : ∀ (h : Host) m, job.Makes m → h.buses = s.host.buses →
          (h.move m).buses = s.host.buses := by
        intro h m hm hbuses
        rw [Host.buses_move (isBareBus_of_makes hm hjob), hbuses]
      have hreaches := step_reaches hagenda
      exact hreaches.preserves hkeeps rfl
    | true =>
      rcases isBareBus_cases hjob with ⟨nested, name, a, rfl⟩ | ⟨m, rfl⟩
      · by_cases hmake : a = .make
        · subst hmake
          refine .inr (.inl ⟨?_, fun n => ?_⟩)
          · rw [hstep]
            rfl
          · rw [busEvent?_act hagenda]
            split <;> rfl
        -- A name may stand for no bus, and then the operation is refused.
        by_cases hbus : ∃ m b, s.buses.get? name = some m ∧ s.host.buses[m]? = some b
        · obtain ⟨m, b, hm, hb⟩ := hbus
          obtain ⟨e, he⟩ : ∃ e, s.busEventOf? a = some e := by
            cases a with
            | make => exact absurd rfl hmake
            | _ => exact ⟨_, rfl⟩
          refine .inr (.inr ⟨m, b, e, hb, ?_, fun n => ?_⟩)
          · rw [hstep]
            exact busStep_actBus (s := { s with agenda := jobs }) hm hb he
          · rw [busEvent?_act hagenda, hm, he]
            by_cases hmn : m = n <;> simp [hmn]
        · refine .inl ⟨?_, fun n b hb => ?_⟩
          · rw [hstep]
            have hnone := buses_actBus_of_none (s := { s with agenda := jobs }) name hmake
              fun m b hm hb => hbus ⟨m, b, hm, hb⟩
            exact congrArg Host.buses hnone
          · rw [busEvent?_act hagenda, if_neg fun hn => hbus ⟨n, b, hn, hb⟩]
      · -- The end of a reply.
        have hhost : s.step.host = s.host.postNext (.bare m) := by
          rw [hstep]
          rfl
        cases hb : s.host.buses[m]? with
        | some b =>
          refine .inr (.inr ⟨m, b, .postNext, hb, ?_, fun n => busEvent?_postNext hagenda⟩)
          rw [hhost]
          exact Host.busStep_postNext hb
        | none =>
          refine .inl ⟨?_, fun n b hn => ?_⟩
          · have hbus : s.host.bus? (.bare m) = none := hb
            rw [hhost]
            unfold Host.postNext
            rw [hbus]
          · rw [busEvent?_postNext hagenda, if_neg]
            rintro rfl
            rw [hb] at hn
            cases hn

/-- A step does to a bus what the event of the bus does. -/
theorem step_bus {b : Bus} {e : Bus.Event} (hb : s.host.buses[n]? = some b)
    (he : s.busEvent? n = some e) : s.host.BusStep s.step.host n b e := by
  rcases step_buses s with ⟨-, hnone⟩ | ⟨-, hnone⟩ | ⟨m, c, e', hc, hs, hevent⟩
  · rw [hnone n b hb] at he
    cases he
  · rw [hnone n] at he
    cases he
  · rw [hevent n] at he
    split at he
    · next hmn =>
      subst hmn
      rw [hc] at hb
      cases hb
      cases he
      exact hs
    · cases he

/-- A step without an event of a bus leaves it as it is. -/
theorem step_bus_none {b : Bus} (hb : s.host.buses[n]? = some b) (he : s.busEvent? n = none) :
    s.step.host.buses[n]? = some b := by
  rcases step_buses s with ⟨hbuses, -⟩ | ⟨hbuses, -⟩ | ⟨m, c, e', hc, hs, hevent⟩
  · rw [hbuses, hb]
  · -- The new bus comes after those that there are.
    obtain ⟨hn, -⟩ := List.getElem?_eq_some_iff.mp hb
    rw [hbuses, List.getElem?_append_left hn, hb]
  · rw [hs.getElem? hc, if_neg, hb]
    rintro rfl
    rw [hevent, if_pos rfl] at he
    cases he

/-- A bus begins empty. -/
theorem step_bus_new (hb : s.host.buses[n]? = none) :
    s.step.host.buses[n]? = none ∨ s.step.host.buses[n]? = some ({} : Bus) := by
  rcases step_buses s with ⟨hbuses, -⟩ | ⟨hbuses, -⟩ | ⟨m, c, e', hc, hs, hevent⟩
  · rw [hbuses]
    exact .inl hb
  · have hlen := List.getElem?_eq_none_iff.mp hb
    rw [hbuses, List.getElem?_append_right hlen, List.getElem?_singleton]
    split
    · exact .inr rfl
    · exact .inl rfl
  · refine .inl ?_
    rw [hs.getElem? hc, if_neg, hb]
    rintro rfl
    rw [hc] at hb
    cases hb

end Session

end FrameHost
