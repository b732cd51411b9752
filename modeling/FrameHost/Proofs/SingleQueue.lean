import FrameHost.Proofs.BusLedger
import FrameHost.Proofs.Termination

/-!
# One queue instead of two

A bus keeps its calls in two queues, and it posts the next task only after the receiver of a reply is
done. A line keeps one list of tasks and their receivers, and serves each request at once (`Line.serve`).
As long as the receivers of replies leave the bus alone, nobody can tell a bus from a line
(`bus_serves_line`): both answer every request alike, post the same messages at the same steps, and
give the same replies to the same receivers.
-/

namespace FrameHost

open Json (Value)

/-! ## Lines -/

/-- A bus with one queue: every call with its task, the oldest first, which alone is on the way. -/
structure Line where
  frameId : String := ""
  connected : Bool := false
  target : Option Target := none
  calls : List Bus.Taken := []

/-- What comes of a request to a line. -/
structure Line.Served where
  line : Line
  answer : Answer := .done
  posted : Option Posted := none
  /-- Who gets a reply, and the reply. -/
  resolved : Option (Responder × Value) := none

namespace Line

/-- The message that carries the task at the head of the line. -/
def front? (l : Line) : Option Posted :=
  match l.target, l.calls with
  | some target, call :: _ => some ⟨target.iframe, encode l.frameId call.task, target.origin⟩
  | _, _ => none

/-- Serves a request. -/
def serve (l : Line) : Bus.Event → Served
  | .attach frameId target => { line := { l with frameId, target := some target } }
  | .connect => { line := { l with connected := l.target.isSome }, answer := .bool l.target.isSome }
  | .reset => { line := { frameId := l.frameId } }
  | .execute task responder =>
    if !l.connected && !task.isConfigUpdate then
      { line := l, answer := .error (.notConnected l.frameId) }
    else if l.target.isNone then { line := l, answer := .error (.frameNotMounted l.frameId) }
    else
      let line := { l with calls := l.calls ++ [⟨task, responder⟩] }
      { line, answer := .ok, posted := if l.calls.isEmpty then line.front? else none }
  | .answer data =>
    let line := { l with calls := l.calls.tail }
    { line
      posted := line.front?
      resolved := l.calls.head?.map fun call => (call.responder, data.getD Value.emptyObject) }
  -- The reply was served with everything that belongs to it.
  | .postNext => { line := l }

/-- The bus that does what a line does; while a reply is in progress, the head of the line is still
to be posted. -/
def toBus (l : Line) (busy : Bool) : Bus where
  frameId := l.frameId
  connected := l.connected
  target := l.target
  pending := l.calls.map Bus.Taken.call
  deferred := (if busy then l.calls else l.calls.tail).map Bus.Taken.task

/-- A line that leads nowhere is empty. -/
def Leads (l : Line) : Prop := l.target = none → l.calls = []

variable {l : Line}

/-- A line and its bus refuse the same calls for the same reasons, or take them and post the same
tasks. -/
theorem execute_toBus (task : Task) (responder : Responder) :
    (∃ e, (l.toBus false).execute task responder = .error e ∧
        l.serve (.execute task responder) = { line := l, answer := .error e }) ∨
      (l.target ≠ none ∧ (l.serve (.execute task responder)).answer = .ok ∧
        (l.toBus false).execute task responder =
          .ok ((l.serve (.execute task responder)).line.toBus false,
            (l.serve (.execute task responder)).posted)) := by
  obtain ⟨frameId, connected, target, calls⟩ := l
  cases hrefused : !connected && !task.isConfigUpdate with
  | true =>
    refine .inl ⟨.notConnected frameId, ?_, ?_⟩
    · simp [Bus.execute, Bus.admits, toBus, hrefused]
    · simp [serve, hrefused]
  | false =>
    cases target with
    | none =>
      refine .inl ⟨.frameNotMounted frameId, ?_, ?_⟩
      · simp [Bus.execute, Bus.admits, toBus, hrefused]
      · simp [serve, hrefused]
    | some target =>
      -- The task is posted at once if the line was empty, and waits in it otherwise.
      refine .inr ⟨Option.some_ne_none target, ?_, ?_⟩
      · simp [serve, hrefused]
      · cases calls with
        | nil => simp [Bus.execute, Bus.admits, Bus.message, toBus, serve, front?, hrefused,
            Bus.Taken.call]
        | cons call calls => simp [Bus.execute, Bus.admits, toBus, serve, hrefused, Bus.Taken.call]

/-- What a bus does with a request is what the line does with it, but that it posts the next task
only at the end of a reply. -/
theorem apply_toBus {e : Bus.Event} (he : e ≠ .postNext) :
    ((l.toBus false).apply e).1 = (l.serve e).line.toBus (e.inReply false) ∧
      ((∀ data, e ≠ .answer data) → ((l.toBus false).apply e).2 = (l.serve e).posted) := by
  cases e with
  | attach frameId target => exact ⟨rfl, fun _ => rfl⟩
  | connect => exact ⟨rfl, fun _ => rfl⟩
  | reset => exact ⟨rfl, fun _ => rfl⟩
  | postNext => exact absurd rfl he
  | answer data =>
    refine ⟨?_, fun hno => absurd rfl (hno data)⟩
    -- The call at the head is over, and the tasks of all others wait.
    simp [Bus.apply, Bus.answer, Bus.Event.inReply, serve, toBus]
  | execute task responder =>
    have happly : (l.toBus false).apply (.execute task responder) =
        ((l.toBus false).execute task responder).toOption.getD (l.toBus false, none) := rfl
    rcases execute_toBus (l := l) task responder with ⟨e, hx, hserve⟩ | ⟨-, -, hx⟩
    · rw [happly, hx, hserve]
      exact ⟨rfl, fun _ => rfl⟩
    · rw [happly, hx]
      exact ⟨rfl, fun _ => rfl⟩

/-- The end of a reply posts the head of the line. -/
theorem postNext_toBus (hl : l.Leads) :
    (l.toBus true).apply .postNext = (l.toBus false, l.front?) := by
  obtain ⟨frameId, connected, target, calls⟩ := l
  cases target with
  | none =>
    obtain rfl : calls = [] := hl rfl
    rfl
  | some target => cases calls <;> rfl

/-- A request keeps a line that leads nowhere empty. -/
theorem Leads.serve (hl : l.Leads) (e : Bus.Event) : (l.serve e).line.Leads := by
  intro hnone
  cases e with
  | attach frameId target => cases hnone
  | connect => exact hl hnone
  | reset => rfl
  | postNext => exact hl hnone
  | answer data =>
    show l.calls.tail = []
    rw [hl hnone]
    rfl
  | execute task responder =>
    obtain ⟨frameId, connected, target, calls⟩ := l
    -- A refused task leaves the line, and a line that takes one leads somewhere.
    cases hrefused : !connected && !task.isConfigUpdate with
    | true =>
      simp only [Line.serve, hrefused, if_true] at hnone ⊢
      exact hl hnone
    | false =>
      cases target with
      | none =>
        simp only [Line.serve, hrefused, Option.isNone_none, if_true, Bool.false_eq_true, if_false]
        exact hl rfl
      | some target =>
        simp [Line.serve, hrefused] at hnone

end Line

/-! ## Requests in a session -/

namespace Session

variable {s t : Session} {as : List Action} {n i : ℕ} {l : Line} {b : Bus} {e : Bus.Event}

/-- The line in the place of a bus, after `i` steps of a run. -/
def line (s : Session) (as : List Action) (n : ℕ) : ℕ → Line
  | 0 => {}
  | i + 1 =>
    match (s.after as i).host.buses[n]?, (s.after as i).busEvent? n with
    | some _, some e => ((s.line as n i).serve e).line
    | _, _ => s.line as n i

/-- Whether the next job makes no request to a bus; the post at the end of a reply is none. -/
def asksNothing (s : Session) (n : ℕ) : Bool :=
  match s.busEvent? n with
  | none | some .postNext => true
  | some _ => false

/-- Those who get replies on a bus leave it alone: nobody makes a request to it while a reply is in
progress. -/
def Aloof (s : Session) (as : List Action) (n : ℕ) : Prop :=
  ∀ k, (s.after as k).inReply n = true → (s.after as k).asksNothing n = true

/-- While a reply is in progress nothing happens to the bus but the post that ends it. -/
theorem Aloof.eq_postNext (h : s.Aloof as n) (hreply : (s.after as i).inReply n = true)
    (he : (s.after as i).busEvent? n = some e) : e = .postNext := by
  have hnothing := h i hreply
  unfold asksNothing at hnothing
  rw [he] at hnothing
  cases e <;> first | rfl | cases hnothing

/-- A request finds no reply in progress. -/
theorem Aloof.inReply_eq_false (h : s.Aloof as n) (he : (s.after as i).busEvent? n = some e)
    (hpost : e ≠ .postNext) : (s.after as i).inReply n = false := by
  by_contra hreply
  exact hpost (h.eq_postNext (Bool.eq_true_of_not_eq_false hreply) he)

/-- Where receivers are aloof, no reply nests. -/
theorem Aloof.noNestedReply (h : s.Aloof as n) (i : ℕ) : s.NoNestedReply as n i := by
  intro k _ hbegins
  unfold beginsReply at hbegins
  split at hbegins
  · next data he => exact h.inReply_eq_false he fun hpost => Bus.Event.noConfusion hpost
  · cases hbegins

/-- A request is granted: it is answered, a task may be posted, and nobody gets a reply. -/
structure Grants (s t : Session) (r : Line.Served) : Prop where
  answer : t.answer = r.answer
  posted : t.host.page.posted = s.host.page.posted ++ r.posted.toList
  replies : t.host.replies = s.host.replies
  agenda : t.agenda = s.agenda.tail

/-- A reply is given to somebody, or to nobody: a channel gets it, or host code is to be called with
it. The post of the next task of the bus is still to come. -/
structure Resolves (s t : Session) (n : ℕ) (resolved : Option (Responder × Value)) : Prop where
  posted : t.host.page.posted = s.host.page.posted
  replies : t.host.replies =
    match resolved with
    | some (.channel id, v) => s.host.replies.insert id v
    | _ => s.host.replies
  agenda : t.agenda =
    (match resolved with
      | some (.callback cb, v) => [.follow (.invoke cb v)]
      | _ => []) ++ .follow (.postNext (.bare n)) :: .reply .done :: s.agenda.tail

/-- Requests come from operations. -/
theorem agenda_of_request (he : s.busEvent? n = some e) (hpost : e ≠ .postNext) :
    ∃ nested name a jobs, s.agenda = .act nested (.bus name a) :: jobs ∧
      s.buses.get? name = some n ∧ s.busEventOf? a = some e := by
  unfold busEvent? at he
  split at he
  · next nested name a jobs hagenda =>
    split at he
    · next hname => exact ⟨nested, name, a, jobs, hagenda, hname, he⟩
    · cases he
  · split at he
    · cases he
      exact absurd rfl hpost
    · cases he
  · cases he

/-- A step grants a request other than a reply just as the line does. -/
theorem step_grants (hb : s.host.buses[n]? = some (l.toBus false)) (he : s.busEvent? n = some e)
    (hpost : e ≠ .postNext) (hreply : ∀ data, e ≠ .answer data) :
    s.Grants s.step (l.serve e) := by
  have hposted := (step_bus hb he).posted
  rw [(Line.apply_toBus hpost).2 hreply] at hposted
  obtain ⟨nested, name, a, jobs, hagenda, hname, ha⟩ := agenda_of_request he hpost
  have htail : s.agenda.tail = jobs := by rw [hagenda]; rfl
  have hstep : s.step = ({ s with agenda := jobs } : Session).actBus name a := step_cons hagenda
  have hfound := onBus_of_some (s := { s with agenda := jobs }) hname hb
  suffices h : s.step.answer = (l.serve e).answer ∧ s.step.host.replies = s.host.replies ∧
      s.step.agenda = jobs from ⟨h.1, hposted, h.2.1, h.2.2.trans htail.symm⟩
  rw [hstep]
  unfold actBus
  cases a with
  | make => cases ha
  | reply data =>
    cases ha
    exact absurd rfl (hreply data)
  | attach frameId node origin =>
    cases ha
    simp only [hfound]
    exact ⟨rfl, rfl, rfl⟩
  | connect =>
    cases ha
    simp only [hfound]
    exact ⟨rfl, rfl, rfl⟩
  | reset =>
    cases ha
    simp only [hfound]
    exact ⟨rfl, rfl, rfl⟩
  | execute method data receiver =>
    cases ha
    simp only [hfound]
    refine executeBus_cases
      (P := fun u => u.answer =
          (l.serve (.execute (Task.call method data) (s.responder receiver))).answer ∧
        u.host.replies = s.host.replies ∧ u.agenda = jobs)
      (Q := fun t responder => responder = s.responder receiver ∧
        t.host.buses = s.host.buses ∧ t.host.replies = s.host.replies ∧ t.agenda = jobs) ?_ ?_ ?_ ?_ ?_
    · rintro cb rfl
      exact ⟨rfl, rfl, rfl, rfl⟩
    · rintro rfl
      exact ⟨rfl, rfl, rfl, rfl⟩
    · rintro name rfl
      exact ⟨rfl, rfl, rfl, rfl⟩
    · rintro t _ e ⟨rfl, hbuses, hreplies, hjobs⟩ hx
      have hbus : t.host.bus? (.bare n) = some (l.toBus false) := by rw [← hb, ← hbuses]; rfl
      unfold Host.execute at hx
      simp only [hbus] at hx
      rcases Line.execute_toBus (l := l) (Task.call method data) (s.responder receiver) with
        ⟨e', hx', hserve⟩ | ⟨-, -, hx'⟩
      · rw [hx'] at hx
        cases hx
        rw [hserve]
        exact ⟨rfl, hreplies, hjobs⟩
      · rw [hx'] at hx
        cases hx
    · rintro t _ h ⟨rfl, hbuses, hreplies, hjobs⟩ hx
      have hbus : t.host.bus? (.bare n) = some (l.toBus false) := by rw [← hb, ← hbuses]; rfl
      unfold Host.execute at hx
      simp only [hbus] at hx
      rcases Line.execute_toBus (l := l) (Task.call method data) (s.responder receiver) with
        ⟨e', hx', -⟩ | ⟨-, hanswer, hx'⟩
      · rw [hx'] at hx
        cases hx
      · rw [hx'] at hx
        cases hx
        exact ⟨hanswer.symm, hreplies, hjobs⟩

/-- A step that is a reply gives it to whoever is at the head of the line. -/
theorem step_resolves {data : Option Value} (hb : s.host.buses[n]? = some (l.toBus false))
    (he : s.busEvent? n = some (.answer data)) :
    s.Resolves s.step n (l.serve (.answer data)).resolved := by
  have hbus : s.host.bus? (.bare n) = some (l.toBus false) := hb
  have hposted := (step_bus hb he).posted
  rw [step_of_answer hb he] at hposted ⊢
  refine ⟨hposted.trans (List.append_nil _), ?_, ?_⟩
  · -- The first of the line gets the reply, by its channel or by its callback.
    show (s.host.reply (.bare n) data).1.replies = _
    unfold Host.reply
    rw [hbus]
    obtain ⟨frameId, connected, target, calls⟩ := l
    cases calls with
    | nil => rfl
    | cons call calls =>
      obtain ⟨task, responder⟩ := call
      cases responder <;> rfl
  · show ((s.host.reply (.bare n) data).2.map Job.follow ++ [Job.reply .done]) ++ s.agenda.tail = _
    rw [Host.reply_followups hbus]
    obtain ⟨frameId, connected, target, calls⟩ := l
    cases calls with
    | nil => rfl
    | cons call calls =>
      obtain ⟨task, responder⟩ := call
      cases responder <;> rfl

/-! ## Runs -/

/-- One more step serves the line with the event of that step. -/
theorem line_succ (i : ℕ) :
    s.line as n (i + 1) =
      match (s.after as i).host.buses[n]?, (s.after as i).busEvent? n with
      | some _, some e => ((s.line as n i).serve e).line
      | _, _ => s.line as n i := rfl

/-- A step without an event leaves the line as it is. -/
theorem line_succ_of_none (he : (s.after as i).busEvent? n = none) :
    s.line as n (i + 1) = s.line as n i := by
  rw [line_succ, he]
  split
  · next h => cases h
  · rfl

/-- As long as the receivers of replies leave a bus alone, it stands throughout a run as the line in
its place says. -/
theorem toBus_after (hs : s.agenda = []) (hn : s.host.buses[n]? = none) (haloof : s.Aloof as n)
    (i : ℕ) : ((s.after as i).host.buses[n]? = none → s.line as n i = {}) ∧
      ∀ b, (s.after as i).host.buses[n]? = some b →
        (s.line as n i).Leads ∧ b = (s.line as n i).toBus ((s.after as i).inReply n) := by
  induction i with
  | zero =>
    refine ⟨fun _ => rfl, fun b hb => ?_⟩
    rw [after_zero, hn] at hb
    cases hb
  | succ i ih =>
    obtain ⟨ihnone, ihsome⟩ := ih
    have hnested := haloof.noNestedReply i
    rcases after_bus_cases s as n i with
      ⟨hnone, -, hnext⟩ | ⟨b, hb, ⟨he, -, hnext⟩ | ⟨e, he, -, -, hnext⟩⟩
    · -- The bus is still to come, or it is new.
      have hline : s.line as n (i + 1) = {} := by
        rw [line_succ, hnone]
        exact ihnone hnone
      refine ⟨fun _ => hline, fun b hb => ?_⟩
      -- A bus that has just come is empty, as is its line, and no reply is in progress.
      rw [hline, after_succ_inReply_new hs hnested hnone]
      rcases hnext with hnext | hnext
      · rw [hnext] at hb
        cases hb
      · rw [hnext] at hb
        cases hb
        exact ⟨fun _ => rfl, rfl⟩
    · have hreply := after_succ_inReply hs hnested hb
      rw [he] at hreply
      -- The step leaves the bus alone.
      refine ⟨fun h => absurd (hnext.symm.trans h) (Option.some_ne_none _), fun b' hb' => ?_⟩
      rw [hnext] at hb'
      cases hb'
      rw [line_succ_of_none he, hreply]
      exact ihsome b hb
    · have hreply := after_succ_inReply hs hnested hb
      rw [he] at hreply
      -- The step is an event, which the line serves as well.
      have hline : s.line as n (i + 1) = ((s.line as n i).serve e).line := by
        rw [line_succ, hb, he]
      obtain ⟨hleads, hbus⟩ := ihsome b hb
      refine ⟨fun h => absurd (hnext.symm.trans h) (Option.some_ne_none _), fun b' hb' => ?_⟩
      rw [hnext] at hb'
      cases hb'
      rw [hline, hreply]
      refine ⟨hleads.serve e, ?_⟩
      by_cases hpost : e = .postNext
      · -- The end of a reply, which must be in progress.
        subst hpost
        have hbusy : (s.after as i).inReply n = true := by
          rw [inReply_eq, decide_eq_true_iff]
          exact posts_pos_of_postNext he
        rw [hbusy] at hbus
        rw [hbus, Line.postNext_toBus hleads]
        rfl
      · -- A request, which finds no reply in progress.
        have hidle := haloof.inReply_eq_false he hpost
        rw [hidle] at hbus ⊢
        rw [hbus]
        exact (Line.apply_toBus hpost).1

/-- A reply that is in progress comes to its end: the next thing that happens to the bus is the post
of the next task. -/
theorem exists_postNext (hs : s.agenda = []) (haloof : s.Aloof as n)
    (hb : (s.after as i).host.buses[n]? = some b) (hreply : (s.after as i).inReply n = true) :
    ∃ j, i ≤ j ∧ (s.after as j).busEvent? n = some .postNext ∧
      (∀ k, i ≤ k → k < j → (s.after as k).busEvent? n = none) ∧
      (s.after as j).host.buses[n]? = some b ∧ s.line as n j = s.line as n i := by
  obtain ⟨last, hle, hempty⟩ := exists_agenda_eq_nil s as i
  obtain ⟨d, rfl⟩ := Nat.exists_eq_add_of_le' hle
  induction d generalizing i with
  | zero =>
    -- Nothing is left to do, so no reply is in progress.
    rw [Nat.zero_add] at hempty
    unfold inReply at hreply
    rw [hempty] at hreply
    cases hreply
  | succ d ih =>
    cases he : (s.after as i).busEvent? n with
    | some e =>
      obtain rfl := haloof.eq_postNext hreply he
      exact ⟨i, Nat.le_refl i, he, fun k hik hki => absurd hik (Nat.not_le_of_lt hki), hb, rfl⟩
    | none =>
      have hreply' := after_succ_inReply hs (haloof.noNestedReply i) hb
      rw [he] at hreply'
      have hb' : (s.after as (i + 1)).host.buses[n]? = some b := by
        rcases after_bus_cases s as n i with
          ⟨hnone, -⟩ | ⟨b', hb', ⟨-, -, hnext⟩ | ⟨e, he', -⟩⟩
        · rw [hb] at hnone
          cases hnone
        · rw [hb] at hb'
          cases hb'
          exact hnext
        · rw [he] at he'
          cases he'
      have hlast : d + (i + 1) = d + 1 + i := by omega
      obtain ⟨j, hij, hpost, hquiet, hbj, hline⟩ :=
        ih hb' (hreply'.trans hreply) (Nat.le_add_left _ _) (by rw [hlast]; exact hempty)
      refine ⟨j, Nat.le_of_succ_le hij, hpost, fun k hik hkj => ?_, hbj,
        hline.trans (line_succ_of_none he)⟩
      rcases Nat.eq_or_lt_of_le hik with rfl | hlt
      · exact he
      · exact hquiet k hlt hkj

/-- Nobody can tell a bus from a line, as long as the receivers of replies leave it alone. Throughout
a run the bus stands as the line says, and between replies as many calls are pending as the line has,
of which all but the one at its head are deferred. Every request is answered as the line answers it,
and posts what the line posts; a reply is given to whom the line gives it, and the message that the
line posts at once is posted when the receiver is done, before anything else happens to the bus. -/
theorem bus_serves_line (hs : s.agenda = []) (hn : s.host.buses[n]? = none)
    (haloof : s.Aloof as n) (hb : (s.after as i).host.buses[n]? = some b) :
    b = (s.line as n i).toBus ((s.after as i).inReply n) ∧
      ((s.after as i).inReply n = false →
        b.pending.length = (s.line as n i).calls.length ∧
          b.deferred.length = (s.line as n i).calls.length - 1) ∧
      ∀ e, (s.after as i).busEvent? n = some e → e ≠ .postNext →
        ((∀ data, e ≠ .answer data) →
          (s.after as i).Grants (s.after as (i + 1)) ((s.line as n i).serve e)) ∧
        ∀ data, e = .answer data →
          (s.after as i).Resolves (s.after as (i + 1)) n ((s.line as n i).serve e).resolved ∧
            ∃ j, i < j ∧ (s.after as j).busEvent? n = some .postNext ∧
              (∀ k, i < k → k < j → (s.after as k).busEvent? n = none) ∧
              (s.after as (j + 1)).host.page.posted = (s.after as j).host.page.posted ++
                ((s.line as n i).serve e).posted.toList := by
  obtain ⟨-, hstands⟩ := toBus_after hs hn haloof i
  obtain ⟨hleads, hbus⟩ := hstands b hb
  refine ⟨hbus, fun hidle => ?_, fun e he hpost => ?_⟩
  · rw [hidle] at hbus
    rw [hbus]
    simp [Line.toBus]
  rw [haloof.inReply_eq_false he hpost] at hbus
  have hne : (s.after as i).agenda ≠ [] := fun hempty => by
    rw [busEvent?_nil hempty] at he
    cases he
  have hstep : s.after as (i + 1) = (s.after as i).step := after_succ_of_ne_nil hne
  have hfound : (s.after as i).host.buses[n]? = some ((s.line as n i).toBus false) := hbus ▸ hb
  refine ⟨fun hreply => ?_, fun data hdata => ?_⟩
  · rw [hstep]
    exact step_grants hfound he hpost hreply
  · subst hdata
    refine ⟨hstep ▸ step_resolves hfound he, ?_⟩
    -- An answer begins a reply, and the post that ends it is still to come.
    have hbusy : (s.after as (i + 1)).inReply n = true := by
      have hreply := after_succ_inReply hs (haloof.noNestedReply i) hb
      rw [he] at hreply
      exact hreply
    obtain ⟨b', hb'⟩ : ∃ b', (s.after as (i + 1)).host.buses[n]? = some b' := by
      have hbus' := (step_bus hb he).getElem? hb n
      rw [if_pos rfl] at hbus'
      exact ⟨_, hstep ▸ hbus'⟩
    obtain ⟨j, hij, hpostj, hquiet, hbj, hline⟩ := exists_postNext hs haloof hb' hbusy
    refine ⟨j, hij, hpostj, fun k hik hkj => hquiet k hik hkj, ?_⟩
    have hnej : (s.after as j).agenda ≠ [] := fun hempty => by
      rw [busEvent?_nil hempty] at hpostj
      cases hpostj
    obtain ⟨hleadsj, hbusj⟩ := (toBus_after hs hn haloof j).2 b' hbj
    have hbusyj : (s.after as j).inReply n = true := by
      rw [inReply_eq, decide_eq_true_iff]
      exact posts_pos_of_postNext hpostj
    -- Nothing happens to the line in between.
    have hlinej : s.line as n j = ((s.line as n i).serve (.answer data)).line := by
      rw [hline, line_succ, hb, he]
    rw [after_succ_of_ne_nil hnej, (step_bus hbj hpostj).posted, hbusj, hbusyj,
      Line.postNext_toBus hleadsj, hlinej]
    rfl

/-- A session whose host code asks for the number of cached paths, and then panics. -/
def bystander : Session :=
  start "https://host.example.com" none Config.empty false [[.cache .spare .count]]

/-- Two calls over a bus, and the reply to the first one, whose receiver is that host code. -/
def twoCalls : List Action :=
  [.bus "b" .make,
    .bus "b" (.attach "ds-frame" (.node 1) "https://app.example.com"),
    .bus "b" .connect,
    .bus "b" (.execute "x" none (.callback ⟨"x", true, 0⟩)),
    .bus "b" (.execute "y" none .ignore),
    .bus "b" (.reply (some (.int 1)))]

/-- The receiver of the reply panics, and the second call is posted nevertheless. -/
theorem bus_serves_line_panicking : ∃ b j, (bystander.after twoCalls 11).host.buses[0]? = some b ∧
    b.deferred.length = 1 ∧ 11 < j ∧
    (bystander.after twoCalls j).busEvent? 0 = some .postNext ∧
    (bystander.after twoCalls (j + 1)).host.page.posted =
      (bystander.after twoCalls j).host.page.posted ++
        [⟨1, encode "ds-frame" (Task.call "y" none), "https://app.example.com"⟩] := by
  obtain ⟨b, hb⟩ : ∃ b, (bystander.after twoCalls 11).host.buses[0]? = some b :=
    Option.isSome_iff_exists.mp (by decide)
  have hdone : ∀ k, 19 ≤ k → bystander.after twoCalls k = bystander.after twoCalls 19 :=
    fun k hk => after_of_done (by rfl) (by rfl) hk
  -- The run is over after nineteen steps, and each of them can be looked at.
  have haloof : bystander.Aloof twoCalls 0 := by
    have hsteps : ∀ k < 20, (bystander.after twoCalls k).inReply 0 = true →
        (bystander.after twoCalls k).asksNothing 0 = true := by decide
    intro k hreply
    rcases Nat.lt_or_ge k 20 with hk | hk
    · exact hsteps k hk hreply
    · rw [hdone k (by omega)] at hreply ⊢
      exact hsteps 19 (by decide) hreply
  obtain ⟨-, hcounts, hrequests⟩ := bus_serves_line rfl rfl haloof hb
  obtain ⟨-, hreplies⟩ := hrequests (.answer (some (.int 1))) rfl fun h => Bus.Event.noConfusion h
  obtain ⟨-, j, hlt, hpost, -, hposted⟩ := hreplies _ rfl
  exact ⟨b, j, hb, (hcounts (by decide)).2, hlt, hpost, hposted⟩

end Session
end FrameHost
