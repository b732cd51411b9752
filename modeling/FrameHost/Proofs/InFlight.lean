import FrameHost.Proofs.BusLedger

/-!
# One call in flight

A bus is meant to have one call on the way as long as calls are pending, and to hold the others back.
It has, unless the receiver of a reply makes several calls while no other is pending: the first of
them is posted at once, and the end of the reply posts the second without looking for the first
(`oneInFlight_iff`). Until that happens the queues are in step (`InStep`), while a reply is in
progress too.
-/

namespace FrameHost

open Json (Value)

namespace Bus

/-- The number of calls that were posted and not answered yet. -/
def Ledger.inFlight (l : Ledger) : ℕ := l.sent.length - l.resolved.length

/-- One call is in flight if any is pending, and the tasks of the other pending calls wait. -/
structure Ledger.OneInFlight (l : Ledger) (b : Bus) : Prop where
  inFlight : l.inFlight = if b.pending = [] then 0 else 1
  deferred : b.deferred = (l.taken.drop (l.resolved.length + 1)).map Taken.task

/-! ## Counting -/

section Counting

variable {l : Ledger} {b : Bus}

/-- The tasks sent and those deferred are as many as those taken. -/
theorem Ledger.Balanced.length_tasks (h : l.Balanced b) :
    l.sent.length + b.deferred.length = l.taken.length := by
  have := congrArg List.length h.tasks
  simpa using this

/-- The calls resolved and those pending are as many as those taken. -/
theorem Ledger.Balanced.length_calls (h : l.Balanced b) :
    l.resolved.length + b.pending.length = l.taken.length := by
  have := congrArg List.length h.calls
  simpa using this

/-- With balanced books one call is in flight exactly if all tasks but one wait. -/
theorem Ledger.Balanced.oneInFlight_iff_length (h : l.Balanced b)
    (hle : b.deferred.length ≤ b.pending.length) :
    l.OneInFlight b ↔ b.deferred.length = b.pending.length - 1 := by
  have htasks := h.length_tasks
  have hcalls := h.length_calls
  constructor
  · -- The sizes of both queues and of the two accounts leave one solution.
    rintro ⟨hin, -⟩
    unfold Ledger.inFlight at hin
    by_cases hp : b.pending = []
    · rw [hp] at hle ⊢
      exact Nat.le_zero.mp hle
    · have hpos := List.length_pos_iff.mpr hp
      rw [if_neg hp] at hin
      omega
  · intro hd
    refine ⟨?_, ?_⟩
    · unfold Ledger.inFlight
      split
      · next hp =>
        rw [hp, List.length_nil] at hd hcalls
        omega
      · next hp =>
        have hpos := List.length_pos_iff.mpr hp
        omega
    · -- What is deferred is what of the tasks is left after those that were posted.
      have hdrop : b.deferred = (l.taken.map Taken.task).drop l.sent.length := by
        rw [← h.tasks, List.drop_append_of_le_length (by simp)]
        simp
      rw [hdrop, List.map_drop]
      by_cases hp : b.pending = []
      · rw [hp, List.length_nil] at hd hcalls
        rw [List.drop_eq_nil_of_le (by simp; omega), List.drop_eq_nil_of_le (by simp; omega)]
      · have hpos := List.length_pos_iff.mpr hp
        congr 1
        omega

end Counting

/-! ## Queues in step -/

/-- The queues of a bus are in step: all pending calls but one wait, and while a reply is in progress
all of them wait that were pending when it arrived. -/
structure InStep (busy : Bool) (l : Ledger) (b : Bus) : Prop where
  quiet : busy = false → b.deferred.length = b.pending.length - 1
  /-- No call was left pending: the first call that was made since then did not wait. -/
  emptied : busy = true → l.emptied = true →
    b.pending.length = l.calls ∧ b.deferred.length = l.calls - 1
  kept : busy = true → l.emptied = false →
    b.pending ≠ [] ∧ b.deferred.length = b.pending.length

section Events

variable {l : Ledger} {b : Bus} {busy : Bool}

/-- A reply begins with the queues in step, so afterwards everything that is pending waits. -/
theorem InStep.answer (h : InStep false l b) (data : Option Value) :
    InStep true (l.record b (.answer data)) (b.apply (.answer data)).1 := by
  have htail : b.deferred.length = b.pending.tail.length := by
    rw [List.length_tail, h.quiet rfl]
  refine ⟨fun hb => absurd hb Bool.noConfusion, fun _ he => ?_, fun _ he => ?_⟩
  · have hnil : b.pending.tail = [] := List.isEmpty_iff.mp he
    rw [hnil] at htail
    refine ⟨?_, htail⟩
    show b.pending.tail.length = 0
    rw [hnil, List.length_nil]
  · have hne : b.pending.tail ≠ [] := List.isEmpty_eq_false_iff.mp he
    exact ⟨hne, htail⟩

/-- A call that is taken is posted if no other is pending, and waits otherwise. -/
theorem InStep.execute (h : InStep busy l b) (task : Task) (responder : Responder) :
    InStep busy (l.record b (.execute task responder)) (b.apply (.execute task responder)).1 := by
  rcases l.record_execute b task responder with
    ⟨hl, hb⟩ | ⟨target, -, ⟨hp, hl, hb⟩ | ⟨hp, hl, hb⟩⟩
  · rw [hl, hb]
    exact h
  · -- The first call: nothing waits, before and after it.
    rw [hl, hb]
    have hquiet := h.quiet
    have hemptied := h.emptied
    have hkept := h.kept
    rw [hp, List.length_nil] at hquiet hemptied
    refine ⟨fun hb => ?_, fun hb he => ?_, fun hb he => ?_⟩
    · exact hquiet hb
    · obtain ⟨hcalls, hd⟩ := hemptied hb he
      constructor
      · show 1 = l.calls + 1
        omega
      · show b.deferred.length = l.calls + 1 - 1
        omega
    · exact absurd hp (hkept hb he).1
  · -- Both queues grow by one.
    rw [hl, hb]
    have hpos := List.length_pos_iff.mpr hp
    refine ⟨fun hb => ?_, fun hb he => ?_, fun hb he => ⟨by simp, ?_⟩⟩
    · have hquiet := h.quiet hb
      simp only [List.length_append, List.length_singleton]
      omega
    · obtain ⟨hcalls, hd⟩ := h.emptied hb he
      simp only [List.length_append, List.length_singleton]
      omega
    · have hd := (h.kept hb he).2
      simp only [List.length_append, List.length_singleton]
      omega

/-- The end of a reply posts the oldest task that waits, which is right unless calls were made on a
bus without pending calls: then the first of them has been posted already. -/
theorem InStep.postNext (h : InStep true l b) (hbalanced : l.Balanced b)
    (hfew : l.emptied = true → l.calls ≤ 1) :
    InStep false (l.record b .postNext) (b.apply .postNext).1 := by
  refine ⟨fun _ => ?_, fun hb => absurd hb Bool.noConfusion, fun hb => absurd hb Bool.noConfusion⟩
  cases he : l.emptied with
  | true =>
    obtain ⟨hp, hd⟩ := h.emptied rfl he
    have hcalls := hfew he
    rcases l.record_postNext b with ⟨-, -, hb⟩ | ⟨target, task, tasks, -, hdeferred, -, -⟩
    · rw [hb]
      omega
    · -- At most one call was made, and it does not wait.
      rw [hdeferred, List.length_cons] at hd
      omega
  | false =>
    obtain ⟨hp, hd⟩ := h.kept rfl he
    have hpos := List.length_pos_iff.mpr hp
    rcases l.record_postNext b with ⟨hnone, -, -⟩ | ⟨target, task, tasks, -, hdeferred, -, hb⟩
    · -- Something is pending, so there is a task that waits and a target for it.
      rcases hnone with hdeferred | htarget
      · rw [hdeferred, List.length_nil] at hd
        omega
      · exact absurd (hbalanced.target htarget) hp
    · rw [hdeferred, List.length_cons] at hd
      rw [hb]
      show tasks.length = b.pending.length - 1
      omega

/-- Every event keeps the queues in step, but for the end of a reply during which several calls were
made on a bus without pending calls. -/
theorem InStep.apply (h : InStep busy l b) (hbalanced : l.Balanced b) {e : Event}
    (hnested : ∀ data, e = .answer data → busy = false)
    (hpost : e = .postNext → busy = true ∧ (l.emptied = true → l.calls ≤ 1)) :
    InStep (e.inReply busy) (l.record b e) (b.apply e).1 := by
  cases e with
  | attach frameId target =>
    rw [l.record_attach]
    exact ⟨h.quiet, h.emptied, h.kept⟩
  | connect =>
    rw [l.record_connect]
    exact ⟨h.quiet, h.emptied, h.kept⟩
  | reset => exact ⟨fun _ => rfl, fun _ _ => ⟨rfl, rfl⟩, fun _ he => absurd he Bool.noConfusion⟩
  | answer data =>
    obtain rfl := hnested data rfl
    exact h.answer data
  | execute task responder => exact h.execute task responder
  | postNext =>
    -- The reply ends here, and its receiver made few enough calls.
    obtain ⟨rfl, hfew⟩ := hpost rfl
    exact h.postNext hbalanced hfew

/-- The end of a reply during which several calls were made on a bus without pending calls puts a
second call in flight. -/
theorem InStep.not_oneInFlight_postNext (h : InStep true l b) (hbalanced : l.Balanced b)
    (hemptied : l.emptied = true) (hcalls : 2 ≤ l.calls) :
    ¬ (l.record b .postNext).OneInFlight (b.apply .postNext).1 := by
  obtain ⟨hp, hd⟩ := h.emptied rfl hemptied
  have htasks := hbalanced.length_tasks
  have hlengths := hbalanced.length_calls
  rintro ⟨hin, -⟩
  unfold Ledger.inFlight at hin
  rcases l.record_postNext b with ⟨hnone, -, -⟩ | ⟨target, task, tasks, -, -, hl, hb⟩
  · -- Two calls were made, so the second of them waits.
    rcases hnone with hdeferred | htarget
    · rw [hdeferred, List.length_nil] at hd
      omega
    · rw [hbalanced.target htarget, List.length_nil] at hp
      omega
  · -- One task more is posted, and the calls that are pending are the same.
    have hne : b.pending ≠ [] := List.ne_nil_of_length_pos (by omega)
    rw [hl, hb, if_neg hne] at hin
    simp only [List.length_append, List.length_singleton] at hin
    omega

end Events

end Bus

/-! ## Runs -/

namespace Session

variable {s : Session} {as : List Action} {n : ℕ}

/-- Whether the next job ends a reply on a bus. -/
def endsReply (s : Session) (n : ℕ) : Bool :=
  match s.busEvent? n with
  | some .postNext => true
  | _ => false

/-- A step ends a reply when it posts the next deferred task. -/
theorem endsReply_iff : s.endsReply n = true ↔ s.busEvent? n = some .postNext := by
  unfold endsReply
  constructor
  · intro h
    split at h
    · next he => exact he
    · cases h
  · intro h
    rw [h]

/-- The receiver of a reply has made several calls on a bus that had no other call pending, and the
next job ends that reply. -/
def EndsBurst (s : Session) (as : List Action) (n k : ℕ) : Prop :=
  (s.after as k).endsReply n = true ∧ (s.ledger as n k).emptied = true ∧
    2 ≤ (s.ledger as n k).calls

instance (s : Session) (as : List Action) (n k : ℕ) : Decidable (s.EndsBurst as n k) :=
  inferInstanceAs (Decidable (_ ∧ _ ∧ _))

/-- The books are balanced and the queues are in step as long as no burst ends. -/
theorem inStep_of_noBurst (hs : s.agenda = []) (hn : s.host.buses[n]? = none) {i : ℕ}
    (hnested : s.NoNestedReply as n i) (hburst : ∀ k < i, ¬ s.EndsBurst as n k) {b : Bus}
    (hb : (s.after as i).host.buses[n]? = some b) :
    (s.ledger as n i).Balanced b ∧ b.Staggered ((s.after as i).inReply n) ∧
      Bus.InStep ((s.after as i).inReply n) (s.ledger as n i) b := by
  refine ledger_induction
    (P := fun busy l b => l.Balanced b ∧ b.Staggered busy ∧ Bus.InStep busy l b) hs hn hnested
    ?_ ?_ b hb
  · -- A bus that is made now has taken no task.
    refine ⟨Bus.Ledger.balanced_empty rfl rfl, ⟨Nat.le_refl 0, fun _ hne => absurd rfl hne⟩, ?_⟩
    exact ⟨fun _ => rfl, fun h => absurd h Bool.noConfusion, fun h => absurd h Bool.noConfusion⟩
  · rintro j hj b e he hanswer hpost ⟨hbalanced, hstaggered, hinStep⟩
    refine ⟨hbalanced.record hstaggered e, hstaggered.apply hbalanced.target hanswer, ?_⟩
    refine hinStep.apply hbalanced hanswer fun hend => ⟨hpost hend, fun hemptied => ?_⟩
    have hno := hburst j hj
    rw [hend] at he
    -- Two calls made while nothing else was pending are a burst.
    by_contra hmany
    exact hno ⟨endsReply_iff.mpr he, hemptied, by omega⟩

/-- Throughout a run one call is in flight while calls are pending and no reply is in progress,
exactly if no burst ends: whenever the receiver of a reply is done that left no call pending, it has
made one call at most. -/
theorem oneInFlight_iff (hs : s.agenda = []) (hn : s.host.buses[n]? = none) {i : ℕ}
    (hnested : s.NoNestedReply as n i) :
    (∀ k ≤ i, ∀ b, (s.after as k).host.buses[n]? = some b → (s.after as k).inReply n = false →
        (s.ledger as n k).OneInFlight b) ↔
      ∀ k < i, ¬ s.EndsBurst as n k := by
  constructor
  · intro hone k
    -- The first burst that ends, with the queues in step before it.
    induction k using Nat.strongRecOn with
    | _ k ih =>
      rintro hk hburst
      obtain ⟨hends, hemptied, hcalls⟩ := hburst
      have he := endsReply_iff.mp hends
      have hnested' : s.NoNestedReply as n k := fun j hj => hnested j (Nat.lt_trans hj hk)
      have hbefore : ∀ j < k, ¬ s.EndsBurst as n j := fun j hj => ih j hj (Nat.lt_trans hj hk)
      have hpos := posts_pos_of_postNext he
      obtain ⟨-, -, hnone⟩ := after_posts hs hnested'
      have hbusy : (s.after as k).inReply n = true := by
        rw [inReply_eq, decide_eq_true_iff]
        exact hpos
      rcases after_bus_cases s as n k with
        ⟨hgone, -⟩ | ⟨b, hb, ⟨hquiet, -⟩ | ⟨e, he', hledger, -, hnext⟩⟩
      · have hzero := hnone hgone
        omega
      · rw [he] at hquiet
        cases hquiet
      · rw [he] at he'
        cases he'
        -- After this step no reply is in progress, and two calls are in flight.
        have hreply := after_succ_inReply hs hnested' hb
        rw [he] at hreply
        obtain ⟨hbalanced, -, hinStep⟩ := inStep_of_noBurst hs hn hnested' hbefore hb
        rw [hbusy] at hinStep
        have hnext' := hone (k + 1) hk _ hnext hreply
        rw [hledger] at hnext'
        exact hinStep.not_oneInFlight_postNext hbalanced hemptied hcalls hnext'
  · intro hburst k hk b hb hquiet
    have hnested' : s.NoNestedReply as n k := fun j hj => hnested j (Nat.lt_of_lt_of_le hj hk)
    obtain ⟨hbalanced, hstaggered, hinStep⟩ :=
      inStep_of_noBurst hs hn hnested' (fun j hj => hburst j (Nat.lt_of_lt_of_le hj hk)) hb
    rw [hbalanced.oneInFlight_iff_length hstaggered.le]
    exact hinStep.quiet hquiet

/-- Until the reply ends whose receiver makes two calls, one call is in flight: here the one that
waits for that reply. -/
theorem oneInFlight_before_burst : ∃ b,
    (reentrant.after (reentry false) 8).host.buses[0]? = some b ∧ b.pending ≠ [] ∧
      (reentrant.ledger (reentry false) 0 8).OneInFlight b := by
  have hpending : ((reentrant.after (reentry false) 8).host.buses[0]?).map
      (fun b => b.pending.length) = some 1 := by decide
  obtain ⟨b, hb, hlength⟩ := Option.map_eq_some_iff.mp hpending
  have hone := (oneInFlight_iff rfl rfl (i := 17) (by decide)).mpr (by decide) 8 (by decide) b hb
  exact ⟨b, hb, List.ne_nil_of_length_pos (by omega), hone (by decide)⟩

/-- Once the reply has ended, two calls are in flight. -/
theorem two_inFlight_after_burst :
    reentrant.NoNestedReply (reentry false) 0 19 ∧
      (reentrant.after (reentry false) 19).agenda = [] ∧
        ∃ b, (reentrant.after (reentry false) 19).host.buses[0]? = some b ∧
          (reentrant.ledger (reentry false) 0 19).inFlight = 2 ∧
          ¬ (reentrant.ledger (reentry false) 0 19).OneInFlight b := by
  have hpending : ((reentrant.after (reentry false) 19).host.buses[0]?).map
      (fun b => b.pending.length) = some 2 := by decide
  have hinFlight : (reentrant.ledger (reentry false) 0 19).inFlight = 2 := by decide
  obtain ⟨b, hb, hlength⟩ := Option.map_eq_some_iff.mp hpending
  have hne : b.pending ≠ [] := List.ne_nil_of_length_pos (by omega)
  refine ⟨by decide, rfl, b, hb, hinFlight, fun hone => ?_⟩
  have hin := hone.inFlight
  rw [hinFlight, if_neg hne] at hin
  cases hin

end Session

end FrameHost
