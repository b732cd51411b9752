import FrameHost.Proofs.BusLedger
import FrameHost.Proofs.Turns

/-!
# Which tasks a bus refuses

A bus asks for a connection, unless the task updates the configuration, and then for an iframe.
Taken by itself it might be connected without an iframe, and then it would refuse every task for
want of one. In a run this does not happen (`grounded_after`): a bus is connected only if it has an
iframe, and it loses the iframe only together with the connection. So what a bus refuses is told by
its connection for calls, and by its iframe for updates of the configuration
(`Bus.Grounded.refuses`).
-/

namespace FrameHost

namespace Bus

variable {b b' : Bus} {task : Task} {responder : Responder} {e : Error}

/-! ## Refusals -/

/-- The two reasons for which a bus refuses a task. -/
theorem execute_eq_error_iff : b.execute task responder = .error e ↔
    (b.connected = false ∧ task.method ≠ configUpdate) ∧ e = .notConnected b.frameId ∨
      ((b.connected = true ∨ task.method = configUpdate) ∧ b.target = none) ∧
        e = .frameNotMounted b.frameId := by
  unfold execute admits Task.isConfigUpdate
  by_cases hmethod : task.method = configUpdate <;> cases hconnected : b.connected <;>
    cases htarget : b.target <;> simp [hmethod, eq_comm (a := e)]
  all_goals split <;> simp

/-- Who is to get the reply makes no difference to a refusal. -/
theorem execute_error_congr (h : b.execute task responder = .error e) (responder' : Responder) :
    b.execute task responder' = .error e :=
  execute_eq_error_iff.mpr (execute_eq_error_iff.mp h)

/-- What a bus refuses, whatever the task and whoever gets the reply: without a connection
everything but an update of the configuration, without an iframe such an update, and with a
connection nothing. -/
structure Refuses (b : Bus) : Prop where
  notConnected : ∀ task responder, b.execute task responder = .error (.notConnected b.frameId) ↔
    b.connected = false ∧ task.method ≠ configUpdate
  notMounted : ∀ task responder, b.execute task responder = .error (.frameNotMounted b.frameId) ↔
    task.method = configUpdate ∧ b.target = none
  only : ∀ task responder e, b.execute task responder = .error e →
    e = .notConnected b.frameId ∨ e = .frameNotMounted b.frameId
  connected : b.connected = true → ∀ task responder, ∃ r, b.execute task responder = .ok r

/-! ## Connections -/

/-- A bus that is connected has an iframe. -/
def Grounded (b : Bus) : Prop := b.connected = true → b.target.isSome = true

/-- A grounded bus refuses by its connection and its iframe alone. -/
theorem Grounded.refuses (h : b.Grounded) : b.Refuses where
  notConnected task responder := by simp [execute_eq_error_iff]
  notMounted task responder := by
    rw [execute_eq_error_iff]
    simp only [reduceCtorEq, and_false, false_or, and_true]
    refine and_congr_left fun htarget => or_iff_right fun hconnected => ?_
    -- A connected bus has a target.
    have hsome := h hconnected
    rw [htarget] at hsome
    cases hsome
  only task responder e he := (execute_eq_error_iff.mp he).imp And.right And.right
  connected hconnected task responder := by
    have htarget := h hconnected
    cases hx : b.execute task responder with
    | ok r => exact ⟨r, rfl⟩
    | error e =>
      rcases execute_eq_error_iff.mp hx with ⟨⟨hnot, -⟩, -⟩ | ⟨⟨-, hnone⟩, -⟩
      · rw [hconnected] at hnot
        cases hnot
      · rw [hnone] at htarget
        cases htarget

/-- A bus that serves the same line is grounded as before. -/
theorem Grounded.of_sameLine (h : b.Grounded) (hline : b.SameLine b') : b'.Grounded := by
  unfold Grounded
  rw [hline.connected, hline.target]
  exact h

/-- Every event leaves a bus grounded. -/
theorem Grounded.apply (h : b.Grounded) (e : Event) : (b.apply e).1.Grounded := by
  cases e with
  | attach frameId target => exact fun _ => rfl
  -- Connecting is connecting with the iframe: without one it does nothing.
  | connect => exact id
  | reset => exact fun hconnected => Bool.noConfusion hconnected
  | execute task responder =>
    show ((b.execute task responder).toOption.getD (b, none)).1.Grounded
    cases hx : b.execute task responder with
    | error e => exact h
    | ok r => exact h.of_sameLine (sameLine_execute hx)
  | answer data => exact h.of_sameLine (sameLine_answer b)
  | postNext => exact h.of_sameLine (sameLine_postNext b)

/-- A bus at rest is grounded, being not connected. -/
theorem Resting.grounded (h : b.Resting) : b.Grounded := by
  unfold Grounded
  rw [h.connected]
  exact fun hconnected => Bool.noConfusion hconnected

end Bus

/-- The bus of a wired frame is grounded. -/
theorem Frame.Wired.grounded {frame : Frame} (h : frame.Wired) : frame.bus.Grounded := by
  cases hphase : frame.phase.isMounted with
  | true => exact fun _ => h.mounted hphase
  | false => exact (h.resting hphase).grounded

namespace Session

variable {s : Session}

/-- The buses of the session's own are grounded throughout: they are made without a connection. -/
theorem grounded_bare_after (hs : s.host.buses = []) (as : List Action) (i : ℕ) :
    ∀ (n : ℕ) (b : Bus), (s.after as i).host.buses[n]? = some b → b.Grounded := by
  induction i with
  | zero =>
    intro n b hb
    have hnone : s.host.buses[n]? = some b := hb
    rw [hs] at hnone
    cases hnone
  | succ i ih =>
    intro n b hb
    rcases after_bus_cases s as n i with ⟨-, -, hnew | hnew⟩ | ⟨b₀, hb₀, hstep⟩
    · rw [hnew] at hb
      cases hb
    · -- A bus that is made now is not connected.
      rw [hnew] at hb
      cases hb
      exact fun hconnected => Bool.noConfusion hconnected
    · rcases hstep with ⟨-, -, hkept⟩ | ⟨e, -, -, -, happlied⟩
      · rw [hkept] at hb
        cases hb
        exact ih n _ hb₀
      · rw [happlied] at hb
        cases hb
        exact (ih n b₀ hb₀).apply e

/-- Every bus is grounded throughout a run. -/
theorem grounded_after (origin : String) (allowList : Option AllowList) (defaults : Config)
    (runtime : Bool) (scripts : List (List Action)) (as : List Action) (i : ℕ) {r : BusRef} {b : Bus}
    (hb : ((start origin allowList defaults runtime scripts).after as i).host.bus? r = some b) :
    b.Grounded := by
  cases r with
  | bare n => exact grounded_bare_after rfl as i n b hb
  | frame f =>
    obtain ⟨frame, hf, rfl⟩ := Option.map_eq_some_iff.mp hb
    have hwired := Host.wired_after (wired_start origin allowList defaults runtime scripts) as i
    exact (hwired f frame hf).grounded

end Session

end FrameHost
