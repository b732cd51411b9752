import FrameHost.Proofs.Shelter

/-!
# The books of a bus

A ledger lists what happened on a bus since it was reset last: the calls that it took, the tasks that
it posted and the calls that were answered. The queues of the bus are what is missing: the tasks that
were posted and the deferred ones together are the tasks of the calls taken, in order, and the calls
answered and the pending ones are these calls (`Balanced`). Every event keeps the books balanced, so
no call is lost, taken twice or overtaken; that a bus with a pending call has posted the oldest one
needs that replies do not nest (`calls_in_order`).
-/

namespace FrameHost

open Json (Value)

namespace Bus

/-! ## Ledgers -/

/-- A call that a bus has taken. -/
structure Taken where
  task : Task
  responder : Responder

/-- The call as it waits for its reply. -/
def Taken.call (c : Taken) : PendingCall := ⟨c.task.method, c.responder⟩

/-- A task that a bus has posted. -/
structure Sent where
  task : Task
  /-- The frame and the target of the bus when it posted the task. -/
  frameId : String
  target : Option Target
  message : Posted

/-- What happened on a bus since the latest reset. -/
structure Ledger where
  taken : List Taken := []
  sent : List Sent := []
  resolved : List PendingCall := []
  /-- Whether the latest reply or reset has left no call pending. -/
  emptied : Bool := true
  /-- The number of calls taken since the latest reply or reset. -/
  calls : ℕ := 0

/-- What an event posts: the new task, or the oldest deferred one. -/
def sent? (b : Bus) (e : Event) : Option Sent :=
  match e with
  | .execute task _ => (b.apply e).2.map fun m => ⟨task, b.frameId, b.target, m⟩
  | .postNext =>
    b.deferred.head?.bind fun task => (b.apply e).2.map fun m => ⟨task, b.frameId, b.target, m⟩
  | _ => none

/-- The call that an event adds. -/
def taken? (b : Bus) (e : Event) : Option Taken :=
  match e with
  | .execute task responder =>
    match b.execute task responder with
    | .ok _ => some ⟨task, responder⟩
    | .error _ => none
  | _ => none

/-- The ledger of a bus after an event. -/
def Ledger.record (l : Ledger) (b : Bus) (e : Event) : Ledger :=
  match e with
  | .reset => {}
  | .answer _ =>
    { l with
      resolved := l.resolved ++ b.pending.head?.toList
      emptied := b.pending.tail.isEmpty
      calls := 0 }
  | _ =>
    { l with
      taken := l.taken ++ (b.taken? e).toList
      sent := l.sent ++ (b.sent? e).toList
      calls := l.calls + (b.taken? e).toList.length }

/-! ## What events write down -/

section Record

variable (l : Ledger) (b : Bus)

/-- Attaching a target records nothing. -/
theorem Ledger.record_attach (frameId : String) (target : Target) :
    l.record b (.attach frameId target) = l := by
  simp [Ledger.record, taken?, sent?]

/-- Connecting records nothing. -/
theorem Ledger.record_connect : l.record b .connect = l := by
  simp [Ledger.record, taken?, sent?]

/-- A call is refused, or it is posted because no other is pending, or else it is deferred. -/
theorem Ledger.record_execute (task : Task) (responder : Responder) :
    (l.record b (.execute task responder) = l ∧ (b.apply (.execute task responder)).1 = b) ∨
      ∃ target, b.target = some target ∧
        ((b.pending = [] ∧
            (l.record b (.execute task responder) =
              { l with
                taken := l.taken ++ [⟨task, responder⟩]
                sent := l.sent ++ [⟨task, b.frameId, some target, b.message target task⟩]
                calls := l.calls + 1 }) ∧
            (b.apply (.execute task responder)).1 =
              { b with pending := [⟨task.method, responder⟩] }) ∨
          (b.pending ≠ [] ∧
            (l.record b (.execute task responder) =
              { l with taken := l.taken ++ [⟨task, responder⟩], calls := l.calls + 1 }) ∧
            (b.apply (.execute task responder)).1 =
              { b with
                pending := b.pending ++ [⟨task.method, responder⟩]
                deferred := b.deferred ++ [task] })) := by
  rcases b.execute_cases task responder with ⟨e, hx⟩ | ⟨target, htarget, hx⟩
  · refine .inl ⟨?_, ?_⟩
    · simp [Ledger.record, taken?, sent?, apply, hx, Except.toOption]
    · simp [apply, hx, Except.toOption]
  · refine .inr ⟨target, htarget, ?_⟩
    -- A task is sent at once if no call is pending, and deferred otherwise.
    by_cases hp : b.pending = []
    · rw [if_pos hp] at hx
      refine .inl ⟨hp, ?_, ?_⟩
      · simp [Ledger.record, taken?, sent?, apply, hx, Except.toOption, htarget]
      · simp [apply, hx, Except.toOption]
    · rw [if_neg hp] at hx
      refine .inr ⟨hp, ?_, ?_⟩
      · simp [Ledger.record, taken?, sent?, apply, hx, Except.toOption]
      · simp [apply, hx, Except.toOption]

/-- The end of a reply posts the oldest deferred task, unless there is none or nowhere to post it. -/
theorem Ledger.record_postNext :
    ((b.deferred = [] ∨ b.target = none) ∧ l.record b .postNext = l ∧ (b.apply .postNext).1 = b) ∨
      ∃ target task tasks, b.target = some target ∧ b.deferred = task :: tasks ∧
        (l.record b .postNext =
          { l with sent := l.sent ++ [⟨task, b.frameId, some target, b.message target task⟩] }) ∧
        (b.apply .postNext).1 = { b with deferred := tasks } := by
  cases htarget : b.target with
  | none =>
    refine .inl ⟨.inr rfl, ?_, ?_⟩
    · simp [Ledger.record, taken?, sent?, apply, postNext, htarget]
    · simp [apply, postNext, htarget]
  | some target =>
    cases hdeferred : b.deferred with
    | nil =>
      refine .inl ⟨.inl rfl, ?_, ?_⟩
      · simp [Ledger.record, taken?, sent?, apply, postNext, hdeferred]
      · simp [apply, postNext, hdeferred]
    | cons task tasks =>
      -- The first of the deferred tasks is sent, to the target of the moment.
      refine .inr ⟨target, task, tasks, rfl, rfl, ?_, ?_⟩
      · simp [Ledger.record, taken?, sent?, apply, postNext, htarget, hdeferred]
      · simp [apply, postNext, htarget, hdeferred]

end Record

/-! ## Balance -/

/-- A message is what carries a task to the target of the bus. -/
def Sent.IsDelivery (x : Sent) : Prop :=
  ∃ target, x.target = some target ∧
    x.message = ⟨target.iframe, encode x.frameId x.task, target.origin⟩

/-- The queues of a bus are what the ledger has open. -/
structure Ledger.Balanced (l : Ledger) (b : Bus) : Prop where
  /-- Tasks are posted in the order in which their calls were taken, and the others are deferred. -/
  tasks : l.sent.map Sent.task ++ b.deferred = l.taken.map Taken.task
  /-- Calls are answered in the order in which they were taken, and the others are pending. -/
  calls : l.resolved ++ b.pending = l.taken.map Taken.call
  /-- Tasks go to the target that the bus has at that moment. -/
  deliveries : ∀ x ∈ l.sent, x.IsDelivery
  /-- A bus without an iframe has no calls. -/
  target : b.target = none → b.pending = []

/-- The tasks that wait belong to pending calls: to all but the oldest, or to all of them while a
reply is in progress. -/
structure Staggered (busy : Bool) (b : Bus) : Prop where
  le : b.deferred.length ≤ b.pending.length
  lt : busy = false → b.pending ≠ [] → b.deferred.length < b.pending.length

/-- A new bus, and a bus that was reset. -/
theorem Ledger.balanced_empty {b : Bus} (hp : b.pending = []) (hd : b.deferred = []) :
    ({} : Ledger).Balanced b where
  tasks := by rw [hd]; rfl
  calls := by rw [hp]; rfl
  deliveries _ hx := absurd hx List.not_mem_nil
  target _ := hp

section Events

variable {l : Ledger} {b : Bus} {busy : Bool}

/-- A task that is posted now is delivered to the target of the bus. -/
theorem Ledger.Balanced.deliveries_append (h : l.Balanced b) (task : Task) (target : Target) :
    ∀ x ∈ l.sent ++ [⟨task, b.frameId, some target, b.message target task⟩], x.IsDelivery := by
  intro x hx
  rcases List.mem_append.mp hx with hx | hx
  · exact h.deliveries x hx
  · rw [List.mem_singleton.mp hx]
    exact ⟨target, rfl, rfl⟩

/-- Every event keeps the books balanced. -/
theorem Ledger.Balanced.record (h : l.Balanced b) (hstaggered : b.Staggered busy) (e : Event) :
    (l.record b e).Balanced (b.apply e).1 := by
  cases e with
  | attach frameId target =>
    rw [l.record_attach]
    exact { h with target := fun hnone => absurd hnone (Option.some_ne_none target) }
  | connect =>
    rw [l.record_connect]
    exact { h with }
  | reset => exact balanced_empty rfl rfl
  | answer data =>
    refine ⟨h.tasks, ?_, h.deliveries, fun hnone => ?_⟩
    · have hcalls := h.calls
      -- The call that is resolved is the first of those pending.
      show (l.resolved ++ b.pending.head?.toList) ++ b.pending.tail = l.taken.map Taken.call
      rw [← hcalls, List.append_assoc]
      cases b.pending <;> rfl
    · show b.pending.tail = []
      rw [h.target hnone]
      rfl
  | execute task responder =>
    rcases l.record_execute b task responder with
      ⟨hl, hb⟩ | ⟨target, htarget, ⟨hp, hl, hb⟩ | ⟨hp, hl, hb⟩⟩
    · rw [hl, hb]
      exact h
    · -- Nothing waits, so the new task is the next one.
      have hd : b.deferred = [] := by
        have hle := hstaggered.le
        rw [hp] at hle
        exact List.eq_nil_of_length_eq_zero (Nat.le_zero.mp hle)
      have htasks := h.tasks
      have hcalls := h.calls
      rw [hd, List.append_nil] at htasks
      rw [hp, List.append_nil] at hcalls
      rw [hl, hb]
      refine ⟨?_, ?_, h.deliveries_append task target, fun hnone => ?_⟩
      · simp [hd, htasks]
      · simp [hcalls, Taken.call]
      · rw [htarget] at hnone
        cases hnone
    · -- The new task waits behind those that wait already.
      rw [hl, hb]
      refine ⟨?_, ?_, h.deliveries, fun hnone => ?_⟩
      · simp [← h.tasks]
      · simp [← h.calls, Taken.call]
      · rw [htarget] at hnone
        cases hnone
  | postNext =>
    rcases l.record_postNext b with ⟨-, hl, hb⟩ | ⟨target, task, tasks, htarget, hd, hl, hb⟩
    · rw [hl, hb]
      exact h
    · have htasks := h.tasks
      rw [hd] at htasks
      rw [hl, hb]
      refine ⟨?_, h.calls, h.deliveries_append task target, h.target⟩
      -- The task that is sent is the first of those deferred.
      simp [← htasks]

/-- Whether a reply is in progress after an event: it is from when it arrives to the next post. -/
def Event.inReply (e : Event) (before : Bool) : Bool :=
  match e with
  | .answer _ => true
  | .postNext => false
  | _ => before

/-- Every event keeps the tasks staggered, if replies do not nest. -/
theorem Staggered.apply (h : b.Staggered busy) (htarget : b.target = none → b.pending = [])
    {e : Event} (hnested : ∀ data, e = .answer data → busy = false) :
    (b.apply e).1.Staggered (e.inReply busy) := by
  obtain ⟨hle, hlt⟩ := h
  cases e with
  | attach frameId target => exact ⟨hle, hlt⟩
  | connect => exact ⟨hle, hlt⟩
  | reset => exact ⟨Nat.le_refl 0, fun _ hne => absurd rfl hne⟩
  | answer data =>
    refine ⟨?_, fun hreply => absurd hreply Bool.noConfusion⟩
    show b.deferred.length ≤ b.pending.tail.length
    -- Before the reply one task less waited than calls were pending.
    have hquiet := hlt (hnested data rfl)
    rw [List.length_tail]
    by_cases hp : b.pending = []
    · rw [hp] at hle ⊢
      exact hle
    · have := hquiet hp
      omega
  | execute task responder =>
    rcases Ledger.record_execute {} b task responder with
      ⟨-, hb⟩ | ⟨target, -, ⟨hp, -, hb⟩ | ⟨hp, -, hb⟩⟩
    · rw [hb]
      exact ⟨hle, hlt⟩
    · rw [hp, List.length_nil] at hle
      rw [hb]
      refine ⟨?_, fun _ _ => ?_⟩
      · show b.deferred.length ≤ 1
        omega
      · show b.deferred.length < 1
        omega
    · rw [hb]
      refine ⟨?_, fun hreply _ => ?_⟩
      · simpa using hle
      · simpa using hlt hreply hp
  | postNext =>
    rcases Ledger.record_postNext {} b with
      ⟨hnone, -, hb⟩ | ⟨target, task, tasks, -, hd, -, hb⟩
    · -- Nothing is posted because nothing waits, or because there is no iframe.
      rw [hb]
      refine ⟨hle, fun _ hp => ?_⟩
      rcases hnone with hd | hnone
      · rw [hd]
        exact List.length_pos_iff.mpr hp
      · exact absurd (htarget hnone) hp
    · rw [hd, List.length_cons] at hle
      rw [hb]
      refine ⟨?_, fun _ _ => ?_⟩
      · show tasks.length ≤ b.pending.length
        omega
      · show tasks.length < b.pending.length
        omega

end Events

end Bus

/-! ## Runs -/

namespace Session

/-- Whether a reply on a bus is in progress: it has arrived, and the next task is yet to be posted. -/
def inReply (s : Session) (n : ℕ) : Bool := s.agenda.any (Job.usesBus n)

/-- The ledger of a bus after `i` steps of a run. -/
def ledger (s : Session) (as : List Action) (n : ℕ) : ℕ → Bus.Ledger
  | 0 => {}
  | i + 1 =>
    match (s.after as i).host.buses[n]?, (s.after as i).busEvent? n with
    | some b, some e => (s.ledger as n i).record b e
    | _, _ => s.ledger as n i

/-- Whether the next job answers the oldest pending call of a bus. -/
def beginsReply (s : Session) (n : ℕ) : Bool :=
  match s.busEvent? n with
  | some (.answer _) => true
  | _ => false

/-- No reply arrives on a bus while one is in progress, in the first `i` steps of a run. -/
def NoNestedReply (s : Session) (as : List Action) (n i : ℕ) : Prop :=
  ∀ k < i, (s.after as k).beginsReply n = true → (s.after as k).inReply n = false

instance (s : Session) (as : List Action) (n i : ℕ) : Decidable (s.NoNestedReply as n i) :=
  inferInstanceAs (Decidable (∀ k < i, _ → _))

variable {s : Session} {as : List Action} {n : ℕ}

/-- A bus is in a reply as long as a job waits to post its next task. -/
theorem inReply_eq : s.inReply n = decide (0 < posts n s.agenda) := by
  rw [Bool.eq_iff_iff, decide_eq_true_iff]
  unfold inReply posts
  rw [List.any_eq_true, List.countP_pos_iff]

/-- A bus is in no reply when no job waits to post for it. -/
theorem inReply_eq_false_iff : s.inReply n = false ↔ posts n s.agenda = 0 := by
  unfold inReply posts
  rw [List.any_eq_false, List.countP_eq_zero]

/-- Where no reply nests, an answer comes while the bus is in no reply. -/
theorem NoNestedReply.inReply_eq_false {i k : ℕ} (h : s.NoNestedReply as n i) (hk : k < i)
    {data : Option Value} (he : (s.after as k).busEvent? n = some (.answer data)) :
    (s.after as k).inReply n = false := by
  refine h k hk ?_
  unfold beginsReply
  rw [he]

/-- The step that posts the next task is one of the posts that were waiting. -/
theorem posts_pos_of_postNext (h : s.busEvent? n = some .postNext) : 0 < posts n s.agenda := by
  unfold busEvent? at h
  split at h
  · next name a _ _ =>
    split at h
    · cases a <;> simp [busEventOf?] at h
    · cases h
  · next m jobs hagenda =>
    split at h
    · next hmn =>
      rw [hagenda, posts_cons]
      simp [Job.usesBus, hmn]
    · cases h
  · cases h

/-- An idle session does nothing to any bus. -/
theorem busEvent?_nil (h : s.agenda = []) : s.busEvent? n = none := by
  unfold busEvent?
  rw [h]

/-- One more step records the event of that step, if the bus is there and has one. -/
theorem ledger_succ (i : ℕ) :
    s.ledger as n (i + 1) =
      match (s.after as i).host.buses[n]?, (s.after as i).busEvent? n with
      | some b, some e => (s.ledger as n i).record b e
      | _, _ => s.ledger as n i := rfl

/-- How a bus and its ledger go on after a step: the bus is still to come, or it begins,
or the step is none of its events, or it is one. -/
theorem after_bus_cases (s : Session) (as : List Action) (n i : ℕ) :
    ((s.after as i).host.buses[n]? = none ∧ s.ledger as n (i + 1) = s.ledger as n i ∧
        ((s.after as (i + 1)).host.buses[n]? = none ∨
          (s.after as (i + 1)).host.buses[n]? = some ({} : Bus))) ∨
      ∃ b, (s.after as i).host.buses[n]? = some b ∧
        (((s.after as i).busEvent? n = none ∧ s.ledger as n (i + 1) = s.ledger as n i ∧
            (s.after as (i + 1)).host.buses[n]? = some b) ∨
          ∃ e, (s.after as i).busEvent? n = some e ∧
            s.ledger as n (i + 1) = (s.ledger as n i).record b e ∧
            (s.after as (i + 1)) = (s.after as i).step ∧
            (s.after as (i + 1)).host.buses[n]? = some (b.apply e).1) := by
  cases hb : (s.after as i).host.buses[n]? with
  | none =>
    refine .inl ⟨rfl, ?_, ?_⟩
    · rw [ledger_succ, hb]
    · rcases after_succ s as i with ⟨-, h⟩ | ⟨a, -, -, h⟩ | ⟨-, h⟩
      · rw [h]
        exact step_bus_new hb
      · rw [h]
        exact .inl hb
      · rw [h]
        exact .inl hb
  | some b =>
    refine .inr ⟨b, rfl, ?_⟩
    cases he : (s.after as i).busEvent? n with
    | none =>
      refine .inl ⟨rfl, ?_, ?_⟩
      · rw [ledger_succ, hb, he]
      · rcases after_succ s as i with ⟨-, h⟩ | ⟨a, -, -, h⟩ | ⟨-, h⟩
        · rw [h]
          exact step_bus_none hb he
        · rw [h]
          exact hb
        · rw [h]
          exact hb
    | some e =>
      -- There is an event, so there is a job.
      have hne : (s.after as i).agenda ≠ [] := fun hempty => by
        rw [busEvent?_nil hempty] at he
        cases he
      have hstep : s.after as (i + 1) = (s.after as i).step := after_succ_of_ne_nil hne
      have hbus := step_bus hb he
      refine .inr ⟨e, rfl, ?_, hstep, ?_⟩
      · rw [ledger_succ, hb, he]
      · rw [hstep, hbus.getElem? hb, if_pos rfl]

/-- Posts are sheltered throughout a run, and there is at most one of them if replies do not nest. -/
theorem after_posts (hs : s.agenda = []) {i : ℕ} (hnested : s.NoNestedReply as n i) :
    Sheltered n (s.after as i).agenda ∧ posts n (s.after as i).agenda ≤ 1 ∧
      ((s.after as i).host.buses[n]? = none → posts n (s.after as i).agenda = 0) := by
  induction i with
  | zero =>
    rw [after_zero, hs]
    exact ⟨trivial, Nat.zero_le 1, fun _ => rfl⟩
  | succ i ih =>
    obtain ⟨hshelter, hone, hnone⟩ := ih fun k hk => hnested k (Nat.lt_succ_of_lt hk)
    rcases after_succ s as i with ⟨-, h⟩ | ⟨a, -, -, h⟩ | ⟨-, h⟩
    · obtain ⟨hshelter', hposts⟩ := step_posts hshelter hnone
      rw [← h] at hshelter' hposts
      refine ⟨hshelter', ?_, fun hgone => ?_⟩
      · rw [hposts]
        split
        · exact Nat.zero_le 1
        · unfold postsAfter
          split
          · next data he =>
            -- A reply that arrives finds none in progress.
            have hzero := inReply_eq_false_iff.mp (hnested.inReply_eq_false (Nat.lt_succ_self i) he)
            omega
          · omega
          · exact hone
      · -- A bus that is there stays.
        have hnone' : (s.after as i).host.buses[n]? = none := by
          rcases after_bus_cases s as n i with
            ⟨hn, -⟩ | ⟨b, -, ⟨-, -, hb⟩ | ⟨e, -, -, -, hb⟩⟩
          · exact hn
          · rw [hgone] at hb
            cases hb
          · rw [hgone] at hb
            cases hb
        rw [hposts, if_pos hnone']
    · -- An operation begins on an empty agenda.
      rw [h]
      have hzero : posts n ((s.after as i).begin a).agenda = 0 := rfl
      exact ⟨sheltered_of_posts_eq_zero hzero, by rw [hzero]; exact Nat.zero_le 1, fun _ => hzero⟩
    · rw [h]
      exact ⟨hshelter, hone, hnone⟩

/-- A reply begins to be in progress when it arrives, and ends with the next post. -/
theorem after_succ_inReply (hs : s.agenda = []) {i : ℕ} (hnested : s.NoNestedReply as n i) {b : Bus}
    (hb : (s.after as i).host.buses[n]? = some b) :
    (s.after as (i + 1)).inReply n =
      match (s.after as i).busEvent? n with
      | none => (s.after as i).inReply n
      | some e => e.inReply ((s.after as i).inReply n) := by
  obtain ⟨hshelter, hone, hnone⟩ := after_posts hs hnested
  rcases after_succ s as i with ⟨-, h⟩ | ⟨a, -, hempty, h⟩ | ⟨hempty, h⟩
  · obtain ⟨-, hposts⟩ := step_posts hshelter hnone
    rw [← h, hb, if_neg (Option.some_ne_none b)] at hposts
    -- One post waits at most, so a post that is made is the last one.
    rw [inReply_eq, inReply_eq, hposts]
    cases he : (s.after as i).busEvent? n with
    | none => rfl
    | some e =>
      cases e with
      | answer data => rfl
      | postNext =>
        show decide (0 < posts n (s.after as i).agenda - 1) = false
        rw [decide_eq_false_iff_not]
        omega
      | _ => rfl
  · rw [busEvent?_nil hempty, h]
    unfold inReply
    rw [hempty]
    rfl
  · rw [busEvent?_nil hempty, h]

/-- No reply is in progress on a new bus. -/
theorem after_succ_inReply_new (hs : s.agenda = []) {i : ℕ} (hnested : s.NoNestedReply as n i)
    (hb : (s.after as i).host.buses[n]? = none) : (s.after as (i + 1)).inReply n = false := by
  obtain ⟨hshelter, -, hnone⟩ := after_posts hs hnested
  rw [inReply_eq_false_iff]
  rcases after_succ s as i with ⟨-, h⟩ | ⟨a, -, -, h⟩ | ⟨-, h⟩
  · obtain ⟨-, hposts⟩ := step_posts hshelter hnone
    rw [h, hposts, if_pos hb]
  · rw [h]
    rfl
  · rw [h]
    exact hnone hb

/-- What holds of a new bus and is kept by its events holds throughout a run in which replies do not
nest. -/
theorem ledger_induction {P : Bool → Bus.Ledger → Bus → Prop} (hs : s.agenda = [])
    (hn : s.host.buses[n]? = none) {i : ℕ} (hnested : s.NoNestedReply as n i)
    (new : P false {} {})
    (event : ∀ j < i, ∀ b e, (s.after as j).busEvent? n = some e →
      (∀ data, e = .answer data → (s.after as j).inReply n = false) →
      (e = .postNext → (s.after as j).inReply n = true) →
      P ((s.after as j).inReply n) (s.ledger as n j) b →
      P (e.inReply ((s.after as j).inReply n)) ((s.ledger as n j).record b e) (b.apply e).1) :
    ∀ b, (s.after as i).host.buses[n]? = some b →
      P ((s.after as i).inReply n) (s.ledger as n i) b := by
  -- Until the bus begins there is nothing in its ledger, and afterwards `P` holds.
  suffices h : ((s.after as i).host.buses[n]? = none → s.ledger as n i = {}) ∧
      ∀ b, (s.after as i).host.buses[n]? = some b →
        P ((s.after as i).inReply n) (s.ledger as n i) b from h.2
  induction i with
  | zero =>
    refine ⟨fun _ => rfl, fun b hb => ?_⟩
    rw [after_zero, hn] at hb
    cases hb
  | succ i ih =>
    have hnested' : s.NoNestedReply as n i := fun k hk => hnested k (Nat.lt_succ_of_lt hk)
    obtain ⟨ihnone, ihsome⟩ := ih hnested' fun j hj => event j (Nat.lt_succ_of_lt hj)
    rcases after_bus_cases s as n i with
      ⟨hnone, hledger, hnext⟩ | ⟨b, hb, ⟨he, hledger, hnext⟩ | ⟨e, he, hledger, -, hnext⟩⟩
    · refine ⟨fun _ => by rw [hledger, ihnone hnone], fun b hb => ?_⟩
      rcases hnext with hnext | hnext
      · rw [hnext] at hb
        cases hb
      · rw [hnext] at hb
        cases hb
        rw [hledger, ihnone hnone, after_succ_inReply_new hs hnested' hnone]
        exact new
    · have hreply := after_succ_inReply hs hnested' hb
      rw [he] at hreply
      refine ⟨fun h => ?_, fun b' hb' => ?_⟩
      · rw [hnext] at h
        cases h
      · rw [hnext] at hb'
        cases hb'
        rw [hledger, hreply]
        exact ihsome b hb
    · have hreply := after_succ_inReply hs hnested' hb
      rw [he] at hreply
      refine ⟨fun h => ?_, fun b' hb' => ?_⟩
      · rw [hnext] at h
        cases h
      · rw [hnext] at hb'
        cases hb'
        rw [hledger, hreply]
        refine event i (Nat.lt_succ_self i) b e he (fun data hdata => ?_) (fun hpost => ?_)
          (ihsome b hb)
        · exact hnested.inReply_eq_false (Nat.lt_succ_self i) (by rw [he, hdata])
        · rw [inReply_eq, decide_eq_true_iff]
          exact posts_pos_of_postNext (by rw [he, hpost])

/-! ## Calls in order -/

/-- What an event posts is the message of the task that it posts. -/
theorem map_message_sent? (b : Bus) (e : Bus.Event) :
    (b.sent? e).map Bus.Sent.message = (b.apply e).2 := by
  cases e with
  | execute task responder =>
    unfold Bus.sent?
    dsimp only
    cases (b.apply (.execute task responder)).2 <;> rfl
  | postNext =>
    unfold Bus.sent? Bus.apply Bus.postNext
    cases b.target <;> cases b.deferred <;> rfl
  | _ => rfl

/-- Who waited for a reply has got it: host code is to be called with it, or a channel holds it. -/
def Receives (s : Session) (responder : Responder) (v : Value) : Prop :=
  match responder with
  | .callback cb => s.agenda.head? = some (.follow (.invoke cb v))
  | .channel id => s.host.replies.get? id = some v
  | .ignore => True

/-- Replies come from operations. -/
theorem agenda_of_answer {data : Option Value} (he : s.busEvent? n = some (.answer data)) :
    ∃ nested name jobs, s.agenda = .act nested (.bus name (.reply data)) :: jobs ∧
      s.buses.get? name = some n := by
  unfold busEvent? at he
  split at he
  · next nested name a jobs hagenda =>
    split at he
    · next hname =>
      cases a with
      | reply data' =>
        cases he
        exact ⟨nested, name, jobs, hagenda, hname⟩
      | _ => simp [busEventOf?] at he
    · cases he
  · split at he <;> cases he
  · cases he

/-- A step that is a reply replies on its bus, and then does what follows. -/
theorem step_of_answer {b : Bus} {data : Option Value} (hb : s.host.buses[n]? = some b)
    (he : s.busEvent? n = some (.answer data)) :
    s.step = (({ s with agenda := s.agenda.tail } : Session).withHost
      (s.host.reply (.bare n) data).1).push
        ((s.host.reply (.bare n) data).2.map .follow ++ [.reply .done]) := by
  obtain ⟨nested, name, jobs, hagenda, hname⟩ := agenda_of_answer he
  rw [step_cons hagenda, hagenda]
  show ({ s with agenda := jobs } : Session).actBus name (.reply data) = _
  unfold actBus
  exact onBus_of_some (s := { s with agenda := jobs }) hname hb _

/-- The oldest pending call gets the reply. -/
theorem step_receives {b : Bus} {call : PendingCall} {data : Option Value}
    (hb : s.host.buses[n]? = some b) (he : s.busEvent? n = some (.answer data))
    (hcall : b.pending.head? = some call) :
    s.step.Receives call.responder (data.getD Value.emptyObject) := by
  have hbus : s.host.bus? (.bare n) = some b := hb
  -- A callback is called next, and a channel has its reply in the host already.
  have hfollowups := Host.reply_followups hbus data
  rw [hcall] at hfollowups
  rw [step_of_answer hb he]
  cases hr : call.responder with
  | callback cb =>
    show (((s.host.reply (.bare n) data).2.map Job.follow ++ [Job.reply .done]) ++
      s.agenda.tail).head? = _
    rw [hfollowups]
    simp [hr, Host.deliver]
  | channel id =>
    show (s.host.reply (.bare n) data).1.replies.get? id = _
    unfold Host.reply
    rw [hbus]
    simp [Bus.answer, hcall, hr, Host.deliver]
  | ignore => trivial

/-- No call is lost, taken twice or overtaken, as long as replies do not nest. Throughout a run the
books of a bus are balanced, all but the oldest call wait at most unless a reply is in progress, what
the ledger says is posted is what the page gets, and a reply is received by whoever made the oldest
pending call. -/
theorem calls_in_order (hs : s.agenda = []) (hn : s.host.buses[n]? = none) {i : ℕ}
    (hnested : s.NoNestedReply as n i) {b : Bus} (hb : (s.after as i).host.buses[n]? = some b) :
    (s.ledger as n i).Balanced b ∧
      ((s.after as i).inReply n = false → b.pending ≠ [] →
        b.deferred.length < b.pending.length) ∧
      (∀ e, (s.after as i).busEvent? n = some e →
        (s.after as (i + 1)).host.page.posted =
          (s.after as i).host.page.posted ++ (b.sent? e).toList.map Bus.Sent.message) ∧
      ∀ data call, (s.after as i).busEvent? n = some (.answer data) →
        b.pending.head? = some call →
        (s.after as (i + 1)).Receives call.responder (data.getD Value.emptyObject) := by
  -- The two invariants go together: each needs the other to pass an event.
  have hbooks : (s.ledger as n i).Balanced b ∧ b.Staggered ((s.after as i).inReply n) := by
    refine ledger_induction (P := fun busy l b => l.Balanced b ∧ b.Staggered busy) hs hn hnested
      ?_ ?_ b hb
    · exact ⟨Bus.Ledger.balanced_empty rfl rfl, ⟨Nat.le_refl 0, fun _ hne => absurd rfl hne⟩⟩
    · rintro j - b e - hanswer - ⟨hbalanced, hstaggered⟩
      exact ⟨hbalanced.record hstaggered e, hstaggered.apply hbalanced.target hanswer⟩
  obtain ⟨hbalanced, hstaggered⟩ := hbooks
  have hstep : ∀ e, (s.after as i).busEvent? n = some e →
      s.after as (i + 1) = (s.after as i).step := by
    intro e he
    rcases after_bus_cases s as n i with
      ⟨hnone, -⟩ | ⟨b', hb', ⟨hnone, -⟩ | ⟨e', -, -, hstep, -⟩⟩
    · rw [hb] at hnone
      cases hnone
    · rw [he] at hnone
      cases hnone
    · exact hstep
  refine ⟨hbalanced, hstaggered.lt, fun e he => ?_, fun data call he hcall => ?_⟩
  · rw [hstep e he, (step_bus hb he).posted, ← map_message_sent?]
    cases b.sent? e <;> rfl
  · rw [hstep _ he]
    exact step_receives hb he hcall

/-- A session whose host code makes two calls over a bus. -/
def reentrant : Session :=
  start "https://host.example.com" none Config.empty false
    [[.bus "b" (.execute "x" none .ignore), .bus "b" (.execute "y" none .ignore)]]

/-- A call over that bus whose receiver is the host code, and its reply. -/
def reentry (panics : Bool) : List Action :=
  [.bus "b" .make,
    .bus "b" (.attach "ds-frame" (.node 1) "https://app.example.com"),
    .bus "b" .connect,
    .bus "b" (.execute "a" none (.callback ⟨"a", panics, 0⟩)),
    .bus "b" (.reply (some (.int 1)))]

/-- The receiver of the reply has made its two calls and is about to panic. -/
theorem calls_in_order_reentry : ∃ b,
    (reentrant.after (reentry true) 17).host.buses[0]? = some b ∧
      b.pending.map PendingCall.method = ["x", "y"] ∧
      (reentrant.ledger (reentry true) 0 17).Balanced b := by
  have hpending : ((reentrant.after (reentry true) 17).host.buses[0]?).map
      (fun b => b.pending.map PendingCall.method) = some ["x", "y"] := by decide
  obtain ⟨b, hb, hmethods⟩ := Option.map_eq_some_iff.mp hpending
  exact ⟨b, hb, hmethods, (calls_in_order rfl rfl (by decide) hb).1⟩

end Session

end FrameHost
