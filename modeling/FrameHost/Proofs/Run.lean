import FrameHost.Session.Report
import Mathlib.Logic.Function.Iterate
import Mathlib.Data.Nat.Init
import Mathlib.Data.Nat.Notation

/-!
# Runs of a session

A run carries out a list of operations, one after the other: each begins when nothing is left of the
one before it, and then the jobs of the agenda are done one by one. Host code that a job calls is
part of the agenda, so the states of a run are all the states that a session passes through, those
inside a callback included. What holds of the first state and is kept by both kinds of step holds of
every state (`after_induction`).
-/

namespace FrameHost.Session

/-- The session at the beginning of an operation: what the last one told has been read. -/
def begin (s : Session) (a : Action) : Session :=
  { s.cleared with agenda := [.act false a], answer := .done }

/-- A step does the first job of the agenda. -/
theorem step_cons {s : Session} {job : Job} {jobs : List Job} (h : s.agenda = job :: jobs) :
    s.step = { s with agenda := jobs }.perform job := by
  unfold step
  rw [h]

/-- An idle session stays as it is. -/
theorem step_nil {s : Session} (h : s.agenda = []) : s.step = s := by
  unfold step
  rw [h]

/-- One step of a session that has yet to begin some operations. -/
def advance (r : Session × List Action) : Session × List Action :=
  match r.1.agenda, r.2 with
  | _ :: _, as => (r.1.step, as)
  | [], a :: as => (r.1.begin a, as)
  | [], [] => r

/-- The session after `i` steps of the run that carries out `as`. -/
def after (s : Session) (as : List Action) (i : ℕ) : Session := (advance^[i] (s, as)).1

/-- A run starts with its session. -/
@[simp] theorem after_zero (s : Session) (as : List Action) : s.after as 0 = s := rfl

/-- The operations that a run has yet to begin are among those that it was given. -/
theorem mem_of_mem_advance (s : Session) (as : List Action) (i : ℕ) :
    ∀ a ∈ (advance^[i] (s, as)).2, a ∈ as := by
  induction i with
  | zero => exact fun a h => h
  | succ i ih =>
    intro a h
    rw [Function.iterate_succ_apply'] at h
    generalize advance^[i] (s, as) = r at h ih
    unfold advance at h
    split at h
    · exact ih a h
    · next b bs _ hbs => exact ih a (by rw [hbs]; exact List.mem_cons_of_mem b h)
    · exact ih a h

/-- A step of a run does a job, or begins an operation when there is no job, or is no step at all
when there is neither. -/
theorem after_succ (s : Session) (as : List Action) (i : ℕ) :
    ((s.after as i).agenda ≠ [] ∧ s.after as (i + 1) = (s.after as i).step) ∨
      (∃ a ∈ as, (s.after as i).agenda = [] ∧ s.after as (i + 1) = (s.after as i).begin a) ∨
      ((s.after as i).agenda = [] ∧ s.after as (i + 1) = s.after as i) := by
  have hmem := mem_of_mem_advance s as i
  unfold after
  rw [Function.iterate_succ_apply']
  generalize advance^[i] (s, as) = r at hmem ⊢
  unfold advance
  split
  · next hagenda => exact .inl ⟨by rw [hagenda]; exact List.cons_ne_nil _ _, rfl⟩
  · next b bs hagenda hbs =>
    exact .inr (.inl ⟨b, hmem b (by rw [hbs]; exact List.mem_cons_self), hagenda, rfl⟩)
  · next hagenda _ => exact .inr (.inr ⟨hagenda, rfl⟩)

/-- As long as there is a job, a step of a run does it. -/
theorem after_succ_of_ne_nil {s : Session} {as : List Action} {i : ℕ}
    (h : (s.after as i).agenda ≠ []) : s.after as (i + 1) = (s.after as i).step := by
  rcases after_succ s as i with ⟨-, hstep⟩ | ⟨a, -, hempty, -⟩ | ⟨hempty, -⟩
  · exact hstep
  · exact absurd hempty h
  · exact absurd hempty h

/-- What holds at the start of a run, and is kept by jobs and by the beginning of operations, holds
throughout. -/
theorem after_induction {P : Session → Prop} {s : Session} {as : List Action} (start : P s)
    (job : ∀ t, P t → P t.step) (op : ∀ t, ∀ a ∈ as, t.agenda = [] → P t → P (t.begin a)) (i : ℕ) :
    P (s.after as i) := by
  induction i with
  | zero => exact start
  | succ i ih =>
    rcases after_succ s as i with ⟨-, h⟩ | ⟨a, ha, hempty, h⟩ | ⟨-, h⟩
    · rw [h]; exact job _ ih
    · rw [h]; exact op _ a ha hempty ih
    · rw [h]; exact ih

/-- What holds at one time of a run, and is kept by the jobs that are done and the operations that are
begun since then, holds later on. -/
theorem after_induction_from {P : Session → Prop} {s : Session} {as : List Action} {i k : ℕ}
    (hik : i ≤ k) (start : P (s.after as i))
    (job : ∀ j, i ≤ j → j < k → P (s.after as j) → P (s.after as j).step)
    (op : ∀ j a, i ≤ j → j < k → P (s.after as j) → P ((s.after as j).begin a)) :
    P (s.after as k) := by
  -- On the last state, with what holds before it at hand.
  induction k, hik using Nat.le_induction with
  | base => exact start
  | succ k hik ih =>
    have hlt : ∀ {j}, j < k → j < k + 1 := Nat.lt_succ_of_lt
    have hbefore := ih (fun j hij hjk => job j hij (hlt hjk)) fun j a hij hjk => op j a hij (hlt hjk)
    rcases after_succ s as k with ⟨-, h⟩ | ⟨a, -, -, h⟩ | ⟨-, h⟩
    · rw [h]
      exact job k hik (Nat.lt_succ_self k) hbefore
    · rw [h]
      exact op k a hik (Nat.lt_succ_self k) hbefore
    · rw [h]
      exact hbefore

/-! ## Operations that are carried out -/

/-- A run passes through the session that doing jobs, at most `n` of them, leaves. -/
theorem exists_after_eq_run (n : ℕ) (s : Session) (as : List Action) :
    ∃ i, s.after as i = run n s := by
  induction n generalizing s with
  | zero => exact ⟨0, rfl⟩
  | succ n ih =>
    unfold run
    cases hs : s.agenda with
    -- A run is over when nothing is left to do.
    | nil => exact ⟨0, rfl⟩
    | cons job jobs =>
      obtain ⟨i, hi⟩ := ih s.step
      have hadvance : advance (s, as) = (s.step, as) := by
        unfold advance
        simp only [hs]
      refine ⟨i + 1, ?_⟩
      unfold after at hi ⊢
      rw [Function.iterate_succ_apply, hadvance]
      exact hi

/-- A run passes through the session that an operation leaves, if nothing was left to do or to tell
before it. -/
theorem exists_after_eq_carryOut (s : Session) (a : Action) (as : List Action)
    (hs : s.cleared = s) : ∃ i, s.after (a :: as) i = s.carryOut a := by
  have hagenda : s.agenda = [] := by rw [← hs]; rfl
  have hbegin : s.begin a = { s with agenda := [.act false a], answer := .done } := by
    unfold begin
    rw [hs]
  -- One state is the action that begins, and the others are its jobs.
  obtain ⟨i, hi⟩ := exists_after_eq_run (s.begin a).budget (s.begin a) as
  have hadvance : advance (s, a :: as) = (s.begin a, as) := by
    unfold advance
    simp only [hagenda]
  refine ⟨i + 1, ?_⟩
  unfold after at hi ⊢
  rw [Function.iterate_succ_apply, hadvance, hi, hbegin]
  rfl

end FrameHost.Session
