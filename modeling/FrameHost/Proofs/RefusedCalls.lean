import FrameHost.Proofs.FailedChecks
import FrameHost.Proofs.Refusals
import FrameHost.Proofs.Renaming
import FrameHost.Proofs.Replies
import FrameHost.Proofs.Termination

/-!
# Refused calls

A bus that refuses a task drops it, and with it whoever was to get the reply. So the step in which
this happens leaves every bus and the page as they are, whoever was to get the reply does not matter
for it (`step_redirected`), and nothing will ever be delivered to him (`closed_of_refused`). If the
bus is that of a frame, the one thing that follows is that the frame's handler of errors is called
with the error, before the error is returned (`step_of_refused`); a command in a message drops what
it is returned. The handler may do whatever it likes and may panic: the jobs behind it stay where
they are until it is through (`exists_after_below`).
-/

namespace FrameHost

open Json (Value)

/-! ## Attempts -/

/-- Who gives a task to a bus, by what becomes of the error if the bus refuses it. -/
inductive Caller where
  /-- The host, which is answered with the error. -/
  | asker
  /-- The host, which holds a call under a name. -/
  | holder (name : String)
  /-- A command in a message that the host hands to the frame; it drops its call. -/
  | handed
  /-- A command in a message that reaches the frame as a listener; it drops its call. -/
  | delivered

/-- A task that a job gives to a bus. -/
structure Attempt where
  bus : BusRef
  task : Task
  responder : Responder
  /-- The host when the bus is asked. -/
  asked : Host
  caller : Caller

namespace Attempt

/-- What is left to be done after an error was reported. -/
def answers (a : Attempt) (e : Error) : List Job :=
  match a.caller with
  | .asker => [.reply (.error e)]
  | .holder name => [.keep name (.settled (some (.error e))), .reply (.made true)]
  | .handed => [.reply .done]
  | .delivered => []

/-- Whether an error was returned to the host, if the host made the call. -/
def Returned (a : Attempt) (e : Error) (s : Session) : Prop :=
  match a.caller with
  | .asker => s.answer = .error e
  | .holder name => s.calls.get? name = some (.call (.settled (some (.error e)))) ∧
      s.answer = .made true
  | .handed | .delivered => True

end Attempt

/-- The operation with another callback for the reply, if it is a call with a callback. -/
def Action.redirected (cb : Callback) : Action → Action
  | .bus name (.execute method data (.callback _)) => .bus name (.execute method data (.callback cb))
  | .frame (.callByName name method params _) => .frame (.callByName name method params cb)
  | a => a

namespace Session

/-- The host when a bus of the session's own is asked for a call with a receiver: a call that is to
be held opens its channel first. -/
def askedBy (s : Session) : Receiver → Host
  | .call _ => s.host.newChannel.1
  | .callback _ | .ignore => s.host

/-- The next job has a frame tell the application the configuration that it has when another one is
laid over its own. It does not if the frame is mounted again instead. -/
def Tells (s : Session) (a : Attempt) (caller : Caller) : Prop :=
  ∃ f patch frame, s.Configures f patch ∧ s.host.frame? f = some frame ∧
    (frame.phase.isMounted && frame.config.requiresReload patch) = false ∧
    a = ⟨.frame f, Task.ofMethod (.setConfig (frame.config.merged patch).toValue),
      .channel (s.host.lastChannel + 1), (s.host.move (.patch f patch)).newChannel.1, caller⟩

/-- The next job gives a task to a bus: a call on a bus of the session's own, a call of a frame, or
a configuration. -/
def Attempts (s : Session) (a : Attempt) : Prop :=
  match s.agenda with
  | .act _ (.bus name (.execute method data receiver)) :: _ =>
    ∃ n, s.buses.get? name = some n ∧
      a = ⟨.bare n, Task.call method data, s.responder receiver, s.askedBy receiver, .asker⟩
  | .act _ (.frame (.call name m kept)) :: _ =>
    ∃ f, s.frames.get? name = some f ∧
      a = ⟨.frame f, Task.ofMethod m, .channel (s.host.lastChannel + 1), s.host.newChannel.1,
        .holder kept⟩
  | .act _ (.frame (.callByName name method params cb)) :: _ =>
    ∃ f, s.frames.get? name = some f ∧
      a = ⟨.frame f, Task.call method params, .callback cb, s.host, .asker⟩
  | .act _ (.frame (.configure _ _ kept)) :: _ => s.Tells a (.holder kept)
  | .act _ (.frame (.handle _ _)) :: _ => s.Tells a .handed
  | .deliver _ _ _ :: _ => s.Tells a .delivered
  | _ => False

/-- The session whose next job has another callback for the reply, if it is a call with a callback.
-/
def redirected (s : Session) (cb : Callback) : Session :=
  match s.agenda with
  | .act nested a :: jobs => { s with agenda := .act nested (a.redirected cb) :: jobs }
  | _ => s

/-- The next job gives a task to a bus, which refuses it. -/
structure Refuses (s : Session) (a : Attempt) (e : Error) : Prop where
  attempt : s.Attempts a
  refused : ∃ b, s.host.bus? a.bus = some b ∧ b.execute a.task a.responder = .error e

end Session

/-- `h'` has the buses of `h`, its page and the replies that were delivered. -/
structure Host.Undisturbed (h h' : Host) : Prop where
  buses : ∀ r, h'.bus? r = h.bus? r
  page : h'.page = h.page
  replies : h'.replies = h.replies

/-- Nothing was disturbed between the job and the bus that it asks, and if the reply is to come
through a channel, this was opened in between. -/
def Attempt.AsksAfter (a : Attempt) (h : Host) : Prop :=
  h.Undisturbed a.asked ∧
    ∀ id, a.responder = .channel id → h.lastChannel < id ∧ id ≤ a.asked.lastChannel

namespace Host

variable {h : Host} {f : FrameRef} {r : BusRef} {b : Bus} {e : Error}

/-- Standing still disturbs nothing. -/
theorem Undisturbed.refl (h : Host) : h.Undisturbed h := ⟨fun _ => rfl, rfl, rfl⟩

/-- Opening a channel disturbs nothing. -/
theorem undisturbed_newChannel (h : Host) : h.Undisturbed h.newChannel.1 :=
  ⟨fun r => by cases r <;> rfl, rfl, rfl⟩

/-- A patched configuration disturbs nothing, and nor does the channel opened after it. -/
theorem undisturbed_patch (f : FrameRef) (patch : Config) :
    h.Undisturbed (h.move (.patch f patch)).newChannel.1 := by
  refine ⟨fun r => ?_, rfl, rfl⟩
  cases r with
  | bare n => rfl
  | frame g =>
    show ((h.frames.modify f _)[g]?).map Frame.bus = (h.frames[g]?).map Frame.bus
    rw [List.getElem?_modify]
    cases h.frames[g]? with
    | none => rfl
    | some frame => by_cases hg : f = g <;> simp [hg]

/-- What the bus refuses, the host refuses. -/
theorem execute_of_refused {task : Task} {responder : Responder} (hb : h.bus? r = some b)
    (hx : b.execute task responder = .error e) : h.execute r task responder = .error e := by
  unfold execute
  rw [hb]
  dsimp only
  rw [hx]

/-- A call of a frame that its bus refuses is settled with the error, which is reported. -/
theorem call_of_refused {m : Method} (hb : h.bus? (.frame f) = some b)
    (hx : b.execute (Task.ofMethod m) (.channel (h.lastChannel + 1)) = .error e) :
    h.call f m = (h.newChannel.1, .settled (some (.error e)), h.newChannel.1.report f e) := by
  have hb' : h.newChannel.1.bus? (.frame f) = some b := hb
  rw [call_eq, execute_of_refused hb' hx]

/-- A refused call by name leaves the host as it is, gives the error back and reports it. -/
theorem callByName_of_refused {name : String} {params : Option Value} {cb : Callback}
    (hb : h.bus? (.frame f) = some b)
    (hx : b.execute (Task.call name params) (.callback cb) = .error e) :
    h.callByName f name params cb = (h, .error e, h.report f e) := by
  unfold callByName
  rw [execute_of_refused hb hx]

/-- What a frame makes of a refusal by its bus: whether it was to call one of the methods or one by
its name, the error is given back and reported. -/
structure GivesBack (h : Host) (f : FrameRef) (b : Bus) : Prop where
  call : ∀ m e, b.execute (Task.ofMethod m) (.channel (h.lastChannel + 1)) = .error e →
    h.call f m = (h.newChannel.1, .settled (some (.error e)), h.newChannel.1.report f e)
  callByName : ∀ name params cb e, b.execute (Task.call name params) (.callback cb) = .error e →
    h.callByName f name params cb = (h, .error e, h.report f e)

/-- A frame gives back every error of its bus. -/
theorem givesBack (hb : h.bus? (.frame f) = some b) : h.GivesBack f b :=
  ⟨fun _ _ => call_of_refused hb, fun _ _ _ _ => callByName_of_refused hb⟩

/-- A configuration that the bus refuses to send is laid over that of the frame, and the call is
settled with the error, which is reported. -/
theorem configure_of_refused {frame : Frame} (hf : h.frame? f = some frame) {patch : Config}
    (hreload : (frame.phase.isMounted && frame.config.requiresReload patch) = false)
    (hb : h.bus? (.frame f) = some b)
    (hx : b.execute (Task.ofMethod (.setConfig (frame.config.merged patch).toValue))
      (.channel (h.lastChannel + 1)) = .error e) :
    h.configure f patch = ((h.move (.patch f patch)).newChannel.1, .settled (some (.error e)),
      (h.move (.patch f patch)).newChannel.1.report f e) := by
  -- The bus is asked after the patch, and is the same one.
  have hb' : (h.move (.patch f patch)).bus? (.frame f) = some b :=
    ((undisturbed_patch f patch).buses (.frame f)).trans hb
  have hpatch :
      h.modifyFrame f (fun frame' => { frame' with config := frame.config.merged patch }) =
        h.move (.patch f patch) := modifyFrame_congr hf rfl
  unfold configure
  rw [hf]
  dsimp only
  rw [hreload, if_neg Bool.false_ne_true, hpatch]
  exact call_of_refused hb' hx

end Host

namespace Session

variable {s : Session} {a : Attempt} {e : Error} {f : FrameRef}

/-- A frame that may not tell its configuration changes it all the same. -/
theorem Tells.configure_eq {caller : Caller} (ht : s.Tells a caller) {b : Bus}
    (hb : s.host.bus? a.bus = some b) (hx : b.execute a.task a.responder = .error e) :
    ∃ f patch, s.Configures f patch ∧ a.bus = .frame f ∧ a.caller = caller ∧
      s.host.configure f patch = (a.asked, .settled (some (.error e)), a.asked.report f e) := by
  obtain ⟨f, patch, frame, hc, hf, hreload, rfl⟩ := ht
  exact ⟨f, patch, hc, rfl, rfl, Host.configure_of_refused hf hreload hb hx⟩

/-- The bus of a frame refuses a task: the frame's handler of errors is called, then the error is
returned. -/
theorem step_of_refused (hr : s.Refuses a e) (hf : a.bus = .frame f) :
    s.agenda ≠ [] ∧
      s.step = (({ s with agenda := s.agenda.tail } : Session).withHost a.asked).follow f
        (a.asked.report f e) (a.answers e) := by
  obtain ⟨hat, b, hb, hx⟩ := hr
  unfold Attempts at hat
  split at hat
  · -- A bare bus is no bus of a frame.
    obtain ⟨n, -, rfl⟩ := hat
    cases hf
  · next nested name m kept jobs hagenda =>
    obtain ⟨g, hname, rfl⟩ := hat
    cases hf
    refine ⟨by simp [hagenda], ?_⟩
    rw [step_cons hagenda, hagenda, List.tail_cons]
    refine (onFrame_of_some (s := { s with agenda := jobs }) hname _).trans ?_
    rw [Host.call_of_refused hb hx]
    rfl
  · next nested name method params cb jobs hagenda =>
    obtain ⟨g, hname, rfl⟩ := hat
    cases hf
    refine ⟨by simp [hagenda], ?_⟩
    rw [step_cons hagenda, hagenda, List.tail_cons]
    refine (onFrame_of_some (s := { s with agenda := jobs }) hname _).trans ?_
    dsimp only
    rw [Host.callByName_of_refused hb hx]
    rfl
  · next nested name config kept jobs hagenda =>
    obtain ⟨g, patch, hc, hg, hcaller, hconfigure⟩ := hat.configure_eq hb hx
    -- The three ways to configure tell the application through the same call.
    obtain rfl : g = f := BusRef.frame.inj (hg.symm.trans hf)
    unfold Configures at hc
    rw [hagenda] at hc
    obtain ⟨hname, rfl⟩ := hc
    refine ⟨by simp [hagenda], ?_⟩
    rw [step_cons hagenda, hagenda, List.tail_cons, Attempt.answers, hcaller]
    refine (onFrame_of_some (s := { s with agenda := jobs }) hname _).trans ?_
    show Session.made _ g kept (s.host.configure g patch) = _
    rw [hconfigure]
    rfl
  · next nested name data jobs hagenda =>
    obtain ⟨g, patch, hc, hg, hcaller, hconfigure⟩ := hat.configure_eq hb hx
    obtain rfl : g = f := BusRef.frame.inj (hg.symm.trans hf)
    unfold Configures at hc
    rw [hagenda] at hc
    obtain ⟨hname, hpatches⟩ := hc
    refine ⟨by simp [hagenda], ?_⟩
    rw [step_cons hagenda, hagenda, List.tail_cons, Attempt.answers, hcaller]
    refine (onFrame_of_some (s := { s with agenda := jobs }) hname _).trans ?_
    dsimp only
    rw [Host.handle_of_patches hpatches, hconfigure]
  · next l origin data jobs hagenda =>
    obtain ⟨g, patch, hc, hg, hcaller, hconfigure⟩ := hat.configure_eq hb hx
    obtain rfl : g = f := BusRef.frame.inj (hg.symm.trans hf)
    unfold Configures at hc
    rw [hagenda] at hc
    cases l with
    | host cb => exact hc.elim
    | frame g' =>
      obtain ⟨rfl, hlive, hpatches⟩ := hc
      refine ⟨by simp [hagenda], ?_⟩
      rw [step_cons hagenda, hagenda, List.tail_cons, Attempt.answers, hcaller]
      show Session.deliver _ (.frame g') origin data = _
      unfold deliver
      dsimp only
      rw [isLive_tail hagenda rfl, hlive, if_pos rfl, Host.handle_of_patches hpatches, hconfigure]
  · exact hat.elim

/-- A task refused by a bare bus leaves the host as it is, but for the channel that was opened. -/
theorem executeBus_of_refused {n : ℕ} {b : Bus} {task : Task} {receiver : Receiver}
    (hb : s.host.bus? (.bare n) = some b)
    (hx : b.execute task (s.responder receiver) = .error e) : ∃ calls,
      s.executeBus n task receiver =
        { s with host := s.askedBy receiver, calls := calls, answer := .error e } ∧
      ∀ cb, s.responder receiver = .callback cb → calls = s.calls := by
  -- A channel that is opened for the answer leaves the bus alone.
  have hbus : (s.askedBy receiver).bus? (.bare n) = some b := by cases receiver <;> exact hb
  have hrefused := Host.execute_of_refused hbus hx
  refine executeBus_cases (P := fun t => ∃ calls, t = { s with
      host := s.askedBy receiver, calls := calls, answer := .error e } ∧
        ∀ cb, s.responder receiver = .callback cb → calls = s.calls)
    (Q := fun t responder => responder = s.responder receiver ∧
      ∃ calls, t = { s with host := s.askedBy receiver, calls := calls } ∧
        ∀ cb, s.responder receiver = .callback cb → calls = s.calls) ?_ ?_ ?_ ?_ ?_
  · rintro cb rfl
    exact ⟨rfl, s.calls, rfl, fun _ _ => rfl⟩
  · rintro rfl
    exact ⟨rfl, s.calls, rfl, fun _ _ => rfl⟩
  · rintro name rfl
    exact ⟨rfl, _, rfl, fun _ hcb => nomatch hcb⟩
  · rintro t responder e' ⟨rfl, calls, rfl, hcalls⟩ hx'
    cases hrefused.symm.trans hx'
    exact ⟨calls, rfl, hcalls⟩
  · rintro t responder h ⟨rfl, calls, rfl, -⟩ hx'
    cases hrefused.symm.trans hx'

/-- A bus of the session's own refuses a task, and the error is returned. -/
theorem step_of_refused_bare {n : ℕ} (hr : s.Refuses a e) (hn : a.bus = .bare n) :
    s.agenda ≠ [] ∧ ∃ calls, s.step = { s with
        agenda := s.agenda.tail, host := a.asked, calls := calls, answer := .error e } ∧
      a.caller = .asker ∧ ∀ cb, a.responder = .callback cb → calls = s.calls := by
  -- Telling the configuration goes through the bus of a frame.
  have hno : ∀ {caller : Caller}, ¬ s.Tells a caller := by
    rintro caller ⟨f, patch, frame, -, -, -, rfl⟩
    cases hn
  obtain ⟨hat, b, hb, hx⟩ := hr
  unfold Attempts at hat
  split at hat
  · next nested name method data receiver jobs hagenda =>
    obtain ⟨m, hname, rfl⟩ := hat
    cases hn
    obtain ⟨calls, hexecute, hcalls⟩ :=
      executeBus_of_refused (s := { s with agenda := jobs }) hb hx
    refine ⟨by simp [hagenda], calls, ?_, rfl, hcalls⟩
    rw [step_cons hagenda, hagenda, List.tail_cons]
    refine (onBus_of_some (s := { s with agenda := jobs }) hname hb _).trans ?_
    rw [hexecute]
    rfl
  · obtain ⟨f, -, rfl⟩ := hat
    cases hn
  · obtain ⟨f, -, rfl⟩ := hat
    cases hn
  · exact absurd hat hno
  · exact absurd hat hno
  · exact absurd hat hno
  · exact hat.elim

/-- A frame that tells its configuration asks the bus after the patch and before any other change.
-/
theorem Tells.asksAfter {caller : Caller} (ht : s.Tells a caller) : a.AsksAfter s.host := by
  obtain ⟨f, patch, frame, -, -, -, rfl⟩ := ht
  refine ⟨Host.undisturbed_patch f _, fun id hid => ?_⟩
  cases hid
  exact ⟨Nat.lt_succ_self _, Nat.le_refl _⟩

/-- A job opens a channel for a call that waits for its reply, or lays a configuration over another
one, before it asks the bus. -/
theorem Attempts.asksAfter (hat : s.Attempts a) : a.AsksAfter s.host := by
  unfold Attempts at hat
  split at hat
  · next receiver jobs hagenda =>
    obtain ⟨n, -, rfl⟩ := hat
    cases receiver with
    | callback cb => exact ⟨.refl _, fun id hid => by cases hid⟩
    | ignore => exact ⟨.refl _, fun id hid => by cases hid⟩
    | call name =>
      -- An answer that is to be kept needs a channel, opened for it now.
      refine ⟨Host.undisturbed_newChannel _, fun id hid => ?_⟩
      cases hid
      exact ⟨Nat.lt_succ_self _, Nat.le_refl _⟩
  · obtain ⟨f, -, rfl⟩ := hat
    refine ⟨Host.undisturbed_newChannel _, fun id hid => ?_⟩
    cases hid
    exact ⟨Nat.lt_succ_self _, Nat.le_refl _⟩
  · obtain ⟨f, -, rfl⟩ := hat
    exact ⟨.refl _, fun id hid => by cases hid⟩
  · exact hat.asksAfter
  · exact hat.asksAfter
  · exact hat.asksAfter
  · exact hat.elim

/-- A refusal leaves the host as the bus found it, and nothing is written down and no host code
called. -/
theorem Refuses.step (hr : s.Refuses a e) : s.step.host = a.asked ∧ s.step.records = s.records ∧
    s.step.scripts = s.scripts := by
  cases hbus : a.bus with
  | bare n =>
    obtain ⟨-, calls, hstep, -⟩ := step_of_refused_bare hr hbus
    rw [hstep]
    exact ⟨rfl, rfl, rfl⟩
  | frame f =>
    obtain ⟨-, hstep⟩ := step_of_refused hr hbus
    rw [hstep]
    exact ⟨rfl, rfl, rfl⟩

/-- An idle session refuses nothing. -/
theorem Refuses.agenda_ne_nil (hr : s.Refuses a e) : s.agenda ≠ [] := by
  cases hbus : a.bus with
  | bare n => exact (step_of_refused_bare hr hbus).1
  | frame f => exact (step_of_refused hr hbus).1

/-! ## Who was to get the reply -/

/-- A redirected session has the redirected operation next. -/
theorem redirected_eq {nested : Bool} {x : Action} {jobs : List Job}
    (hagenda : s.agenda = .act nested x :: jobs) (cb : Callback) :
    s.redirected cb = { s with agenda := .act nested (x.redirected cb) :: jobs } := by
  unfold redirected
  rw [hagenda]

/-- A session whose operation has no callback is redirected to itself. -/
theorem redirected_self {nested : Bool} {x : Action} {jobs : List Job}
    (hagenda : s.agenda = .act nested x :: jobs) {cb : Callback} (hx : x.redirected cb = x) :
    s.redirected cb = s := by
  rw [redirected_eq hagenda, hx, ← hagenda]

/-- Another callback makes another attempt of a call with a callback, and of no other job. -/
theorem redirected_cases (hat : s.Attempts a) (cb : Callback) : s.redirected cb = s ∨
    (∃ cb', a.responder = .callback cb') ∧
      (s.redirected cb).Attempts { a with responder := .callback cb } ∧
      ∃ job, s.redirected cb = { s with agenda := job :: s.agenda.tail } := by
  unfold Attempts at hat
  split at hat
  · next nested name method data receiver jobs hagenda =>
    obtain ⟨n, hname, rfl⟩ := hat
    cases receiver with
    | callback cb' =>
      -- Only a call that has a callback becomes another one.
      have hredirected := redirected_eq hagenda cb
      refine .inr ⟨⟨cb', rfl⟩, ?_, _, by rw [hredirected, hagenda]; rfl⟩
      rw [hredirected]
      exact ⟨n, hname, rfl⟩
    | ignore | call => exact .inl (redirected_self hagenda rfl)
  · next hagenda => exact .inl (redirected_self hagenda rfl)
  · next nested name method params cb' jobs hagenda =>
    obtain ⟨f, hname, rfl⟩ := hat
    have hredirected := redirected_eq hagenda cb
    refine .inr ⟨⟨cb', rfl⟩, ?_, _, by rw [hredirected, hagenda]; rfl⟩
    rw [hredirected]
    exact ⟨f, hname, rfl⟩
  · next hagenda => exact .inl (redirected_self hagenda rfl)
  · next hagenda => exact .inl (redirected_self hagenda rfl)
  · next hagenda =>
    left
    unfold redirected
    rw [hagenda]
  · exact hat.elim

/-- The state after a refusal does not depend on the callback that was to get the reply. -/
theorem step_redirected (hr : s.Refuses a e) (cb : Callback) :
    (s.redirected cb).step = s.step := by
  rcases redirected_cases hr.attempt cb with hsame | ⟨⟨cb', hcb'⟩, hat, job, hsession⟩
  · rw [hsame]
  · -- The bus refuses without looking at who is to be answered.
    obtain ⟨b, hb, hx⟩ := hr.refused
    have hr' : (s.redirected cb).Refuses { a with responder := .callback cb } e := by
      refine ⟨hat, b, ?_, Bus.execute_error_congr hx _⟩
      rw [hsession]
      exact hb
    cases hbus : a.bus with
    | bare n =>
      obtain ⟨-, calls, hstep, -, hcalls⟩ := step_of_refused_bare hr hbus
      obtain ⟨-, calls', hstep', -, hcalls'⟩ := step_of_refused_bare hr' hbus
      rw [hstep, hstep', hcalls cb' hcb', hcalls' cb rfl, hsession]
      rfl
    | frame f =>
      obtain ⟨-, hstep⟩ := step_of_refused hr hbus
      obtain ⟨-, hstep'⟩ := step_of_refused hr' hbus
      rw [hstep, hstep', hsession]
      rfl

/-- The channel of a call that is refused is closed, with nothing delivered on it. -/
theorem closed_of_refused (hsep : s.host.Separate) (hr : s.Refuses a e) {id : ChannelId}
    (hid : a.responder = .channel id) : s.step.host.Closed id none := by
  obtain ⟨hasked, hchannel⟩ := hr.attempt.asksAfter
  obtain ⟨hnew, hopened⟩ := hchannel id hid
  rw [hr.step.1]
  -- The channel is newer than all that a bus holds or a reply came through.
  refine ⟨hopened, fun r n hw => ?_, ?_⟩
  · have hw' : s.host.WaitsAt r n id := by
      unfold Host.WaitsAt Host.waiting at hw ⊢
      rwa [hasked.buses] at hw
    exact absurd hnew (Nat.not_lt.mpr (hsep.opened hw'))
  · rw [hasked.replies]
    cases hreply : s.host.replies.get? id with
    | none => rfl
    | some v => exact absurd hnew (Nat.not_lt.mpr (hsep.delivered hreply))

/-! ## The way back -/

/-- Jobs that no panic reaches are come back to. -/
theorem exists_after_below {as : List Action} {i : ℕ} {js below : List Job} (hjs : Fenced js)
    (hagenda : (s.after as i).agenda = js ++ below) :
    ∃ k, i ≤ k ∧ (s.after as k).agenda = below ∧
      ∀ l, i ≤ l → l ≤ k → below <:+ (s.after as l).agenda := by
  -- The induction is on the work that is left: a step leaves less, and fenced jobs above `below`.
  generalize hleft : (s.after as i).left = left
  induction left using WellFoundedLT.induction generalizing i js with
  | ind left ih =>
    have hhere : ∀ l, i ≤ l → l ≤ i → below <:+ (s.after as l).agenda := fun l hil hli =>
      Nat.le_antisymm hil hli ▸ ⟨js, hagenda.symm⟩
    cases js with
    | nil => exact ⟨i, Nat.le_refl i, hagenda, hhere⟩
    | cons job js =>
      have hne : (s.after as i).agenda ≠ [] := by
        rw [hagenda]
        exact List.cons_ne_nil _ _
      have hsucc := after_succ_of_ne_nil hne
      obtain ⟨ks, hks, hfenced⟩ := step_above hagenda hjs
      rw [← hsucc] at hks
      have hlt : (s.after as (i + 1)).left < left := by
        rw [hsucc, ← hleft]
        exact step_left_lt hne
      obtain ⟨k, hik, hbelow, hbetween⟩ := ih _ hlt hfenced hks rfl
      refine ⟨k, Nat.le_of_succ_le hik, hbelow, fun l hil hlk => ?_⟩
      rcases Nat.eq_or_lt_of_le hil with rfl | hlt
      · exact ⟨job :: js, hagenda.symm⟩
      · exact hbetween l hlt hlk

/-- A session with a job to do performs it in the next step. -/
theorem after_succ_of_cons {as : List Action} {i : ℕ} {job : Job} {jobs : List Job}
    (hagenda : (s.after as i).agenda = job :: jobs) :
    s.after as (i + 1) = ({ s.after as i with agenda := jobs } : Session).perform job := by
  rw [after_succ_of_ne_nil (by simp [hagenda]), step_cons hagenda]

/-- The jobs that return an error do so. -/
theorem returned_after {as : List Action} {i : ℕ} {jobs : List Job}
    (hagenda : (s.after as i).agenda = .hold f :: (a.answers e ++ jobs)) :
    ∃ k, i < k ∧ (s.after as k).agenda = jobs ∧ a.Returned e (s.after as k) := by
  -- First the hold goes, then the answers come one a step.
  have hheld := after_succ_of_cons hagenda
  have hanswers : (s.after as (i + 1)).agenda = a.answers e ++ jobs := by
    rw [hheld]
    rfl
  unfold Attempt.answers at hanswers
  unfold Attempt.Returned
  cases hcaller : a.caller with
  | asker =>
    rw [hcaller] at hanswers
    have hreplied := after_succ_of_cons hanswers
    exact ⟨i + 2, by omega, by rw [hreplied]; rfl, by rw [hreplied]; rfl⟩
  | holder name =>
    rw [hcaller] at hanswers
    have hnamed := after_succ_of_cons hanswers
    have hlast : (s.after as (i + 2)).agenda = .reply (.made true) :: jobs := by
      rw [hnamed]
      rfl
    have hreplied := after_succ_of_cons hlast
    refine ⟨i + 3, by omega, by rw [hreplied]; rfl, ?_, by rw [hreplied]; rfl⟩
    rw [hreplied, hnamed]
    show ((s.after as (i + 1)).calls.insert name _).get? name = _
    rw [Table.get?_insert, if_pos rfl]
  | handed =>
    rw [hcaller] at hanswers
    have hreplied := after_succ_of_cons hanswers
    exact ⟨i + 2, by omega, by rw [hreplied]; rfl, trivial⟩
  | delivered =>
    rw [hcaller] at hanswers
    exact ⟨i + 1, by omega, hanswers, trivial⟩

/-! ## Refusals in a run -/

/-- A refusal at `i` leaves nothing behind on the host, and no trace of who was to get the reply. -/
structure DropsAttempt (s : Session) (as : List Action) (i : ℕ) (a : Attempt) : Prop where
  /-- All buses stay as they are, and nothing is posted. -/
  host : (s.after as i).host.Undisturbed (s.after as (i + 1)).host
  /-- No host code is called. -/
  records : (s.after as (i + 1)).records = (s.after as i).records
  /-- All host code waits to be called. -/
  scripts : (s.after as (i + 1)).scripts = (s.after as i).scripts
  /-- With another callback for the reply all would be the same. -/
  callback : ∀ cb, ((s.after as i).redirected cb).step = s.after as (i + 1)
  /-- A channel for the reply is closed, now and from now on. -/
  channel : ∀ id, a.responder = .channel id → ∀ k, i < k → (s.after as k).host.Closed id none

/-- A refusal by the bus of `f` at `i` is reported once to the handler of errors of `f`, if there is
one, and then returned. -/
structure ReportsOnce (s : Session) (as : List Action) (i : ℕ) (f : FrameRef) (a : Attempt)
    (e : Error) : Prop where
  /-- What is left to do: the handler is to be called once, then the error is to be returned. -/
  left : (s.after as (i + 1)).agenda =
    ((s.after as (i + 1)).host.report f e).map .follow ++
      .hold f :: (a.answers e ++ (s.after as i).agenda.tail)
  /-- The handler is called with the message of the error; then it is gone from what is left to do. -/
  handled : ∀ frame cb, (s.after as (i + 1)).host.frame? f = some frame →
    frame.handler? Event.appError = some cb →
    (s.after as (i + 3)).records =
        (s.after as i).records ++ [.called cb.tag (.string e.appMessage)] ∧
      (s.after as (i + 3)).agenda = (s.after as i).script cb ++
        .fence :: .hold f :: (a.answers e ++ (s.after as i).agenda.tail)
  /-- Whatever the handler does, the error is returned when it is through. -/
  returned : ∃ k, i < k ∧ (s.after as k).agenda = (s.after as i).agenda.tail ∧
    a.Returned e (s.after as k)

variable {as : List Action} {i : ℕ}

/-- Every refusal leaves nothing behind. -/
theorem dropsAttempt_of_refused (hsep : (s.after as i).host.Separate)
    (hr : (s.after as i).Refuses a e) : s.DropsAttempt as i a := by
  have hsucc := after_succ_of_ne_nil hr.agenda_ne_nil
  obtain ⟨hhost, hrecords, hscripts⟩ := hr.step
  refine ⟨?_, hsucc ▸ hrecords, hsucc ▸ hscripts, fun cb => ?_, fun id hid k hik => ?_⟩
  · rw [hsucc, hhost]
    exact hr.attempt.asksAfter.1
  · rw [hsucc]
    exact step_redirected hr cb
  · have hclosed := closed_of_refused hsep hr hid
    rw [← hsucc] at hclosed
    exact closed_after hik hclosed

/-- A callback's script depends on the scripts alone. -/
theorem script_congr {t : Session} (h : t.scripts = s.scripts) (cb : Callback) :
    t.script cb = s.script cb := by
  unfold script
  rw [h]

/-- Host code that is to be called is called two steps later, behind a fence. -/
theorem after_called {cb : Callback} {v : Value} {below : List Job}
    (hagenda : (s.after as i).agenda = .follow (.invoke cb v) :: below) :
    (s.after as (i + 2)).records = (s.after as i).records ++ [.called cb.tag v] ∧
      (s.after as (i + 2)).agenda = (s.after as i).script cb ++ .fence :: below := by
  have hpushed := after_succ_of_cons hagenda
  have hcall : (s.after as (i + 1)).agenda = .invoke cb v :: .fence :: below := by
    rw [hpushed]
    rfl
  have hcalled := after_succ_of_cons hcall
  rw [hcalled, hpushed]
  exact ⟨rfl, rfl⟩

/-- Every refusal by the bus of a frame is reported once. -/
theorem reportsOnce_of_refused (hr : (s.after as i).Refuses a e) (hf : a.bus = .frame f) :
    s.ReportsOnce as i f a e := by
  obtain ⟨hne, hstep⟩ := step_of_refused hr hf
  have hsucc := after_succ_of_ne_nil hne
  have hleft : (s.after as (i + 1)).agenda =
      ((s.after as (i + 1)).host.report f e).map .follow ++
        .hold f :: (a.answers e ++ (s.after as i).agenda.tail) := by
    rw [hsucc, hstep]
    show _ ++ .hold f :: a.answers e ++ _ = _
    simp only [List.append_assoc, List.cons_append]
    rfl
  refine ⟨hleft, fun frame cb hframe hcb => ?_, ?_⟩
  · -- The handler is called once, and its records say so.
    have hreport : (s.after as (i + 1)).host.report f e =
        [.invoke cb (.string e.appMessage)] := by
      unfold Host.report Host.emit
      rw [hframe, Option.bind_some, hcb]
      rfl
    rw [hreport] at hleft
    obtain ⟨hrecords, hagenda⟩ := after_called hleft
    obtain ⟨-, hsame, hscripts⟩ := hr.step
    rw [← hsucc] at hsame hscripts
    rw [hsame] at hrecords
    rw [script_congr hscripts] at hagenda
    exact ⟨hrecords, hagenda⟩
  · -- A panic of the handler stays within its call, so the answers are come to.
    have hquiet : Fenced (((s.after as (i + 1)).host.report f e).map .follow) := by
      refine fenced_of_noPanic fun x hx => ?_
      obtain ⟨y, -, rfl⟩ := List.mem_map.mp hx
      rfl
    obtain ⟨k, hik, hbelow, -⟩ := exists_after_below hquiet hleft
    obtain ⟨k', hkk', htail, hreturned⟩ := returned_after hbelow
    exact ⟨k', by omega, htail, hreturned⟩

/-- In a run, what a bus refuses is told by its connection and its iframe alone, and a bus that is
connected refuses nothing. A frame gives the error back and reports it, by whichever method the call
was made. A refusal changes no bus, posts nothing, and nobody ever gets a reply to what was refused.
On a bus of the session's own the error is returned at once; on that of a frame it is first
reported, once, to the frame's handler of errors. -/
theorem refusals_reported_once (origin : String) (allowList : Option AllowList) (defaults : Config)
    (runtime : Bool) (scripts : List (List Action)) (as : List Action) (i : ℕ) :
    let s := start origin allowList defaults runtime scripts
    (∀ r b, (s.after as i).host.bus? r = some b → b.Refuses) ∧
    (∀ f b, (s.after as i).host.bus? (.frame f) = some b → (s.after as i).host.GivesBack f b) ∧
    ∀ a e, (s.after as i).Refuses a e →
      s.DropsAttempt as i a ∧
      (∀ n, a.bus = .bare n → (s.after as (i + 1)).agenda = (s.after as i).agenda.tail ∧
        a.Returned e (s.after as (i + 1))) ∧
      ∀ f, a.bus = .frame f → s.ReportsOnce as i f a e := by
  intro s
  refine ⟨fun r b hb => (grounded_after origin allowList defaults runtime scripts as i hb).refuses,
    fun f b => Host.givesBack, fun a e hr => ⟨?_, fun n hn => ?_, fun f => reportsOnce_of_refused hr⟩⟩
  · exact dropsAttempt_of_refused (separate_after (separate_start ..) as i) hr
  · obtain ⟨hne, calls, hstep, hcaller, -⟩ := step_of_refused_bare hr hn
    rw [after_succ_of_ne_nil hne, hstep]
    unfold Attempt.Returned
    rw [hcaller]
    exact ⟨rfl, rfl⟩

/-- A frame is mounted, and called before its iframe has loaded. -/
def calledEarly : List Action :=
  [.page (.insert "f" "slot"),
    .frame (.openFrame "A" none (.ok ((Config.ofFields
      [("frameId", .string "f"), ("src", .string "https://app.example.com"),
        ("checkCSP", .bool false)]).on Event.appError ⟨"err", false, 0⟩))),
    .frame (.call "A" .getFiles "c")]

/-- The call is refused: the handler of errors is called, and the call is settled with the error. -/
theorem early_call_reported :
    let s := start "https://host.example.com" none Config.empty false []
    (s.after calledEarly 8).records = [.called "err" (.string (Error.notConnected "f").appMessage)] ∧
      ∃ k, (s.after calledEarly k).agenda = [] ∧ (s.after calledEarly k).calls.get? "c" =
        some (.call (.settled (some (.error (.notConnected "f"))))) := by
  intro s
  -- The fifth state is about to make the call, on a bus without a connection.
  have hagenda : (s.after calledEarly 5).agenda =
      [.act false (.frame (.call "A" .getFiles "c"))] := by
    with_unfolding_all rfl
  have hname : (s.after calledEarly 5).frames.get? "A" = some 0 := by decide +kernel
  have hstate : ((s.after calledEarly 5).host.bus? (.frame 0)).map (fun b =>
      (b.connected, b.frameId)) = some (false, "f") := by decide +kernel
  have hhandler : ((s.after calledEarly 6).host.frame? 0).bind (fun frame =>
      frame.handler? Event.appError) = some ⟨"err", false, 0⟩ := by decide +kernel
  have hnothing : (s.after calledEarly 5).records = [] := by with_unfolding_all rfl
  obtain ⟨b, hb, hfields⟩ := Option.map_eq_some_iff.mp hstate
  obtain ⟨hconnected, hid⟩ := Prod.mk.inj hfields
  obtain ⟨frame, hframe, hcb⟩ := Option.bind_eq_some_iff.mp hhandler
  have hrefuses : (s.after calledEarly 5).Refuses ⟨.frame 0, Task.ofMethod .getFiles,
      .channel ((s.after calledEarly 5).host.lastChannel + 1),
      (s.after calledEarly 5).host.newChannel.1, .holder "c"⟩ (.notConnected "f") := by
    refine ⟨?_, b, hb, Bus.execute_eq_error_iff.mpr (.inl ⟨⟨hconnected, by decide⟩, by rw [hid]⟩)⟩
    unfold Attempts
    rw [hagenda]
    exact ⟨0, hname, rfl⟩
  obtain ⟨-, -, hrun⟩ := refusals_reported_once "https://host.example.com" none Config.empty false []
    calledEarly 5
  obtain ⟨-, -, hreports⟩ := hrun _ _ hrefuses
  obtain ⟨-, hhandled, k, -, hdone, hreturned, -⟩ := hreports 0 rfl
  have hcalled := (hhandled frame _ hframe hcb).1
  rw [hnothing] at hcalled
  exact ⟨hcalled, k, hdone.trans (by rw [hagenda]; rfl), hreturned⟩

end Session

end FrameHost
