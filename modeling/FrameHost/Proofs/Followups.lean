import FrameHost.Proofs.Run

/-!
# What operations leave to be done

What an operation on a frame leaves to be done is a call of host code, the content of that frame to
be shown, or the next task of its bus to be posted. Only a reply on a bus of the session's own leaves
something to be done for that bus (`reply_followups`).
-/

namespace FrameHost

open Json (Value)

/-- Whether something left to be done is host code or concerns a frame. -/
def Followup.OfFrame (f : FrameRef) : Followup → Prop
  | .invoke _ _ => True
  | .showContent g => g = f
  | .postNext r => r = .frame f

/-- What a frame goes on with uses no bare bus. -/
theorem Followup.OfFrame.usesBus {f : FrameRef} {x : Followup} (hx : x.OfFrame f) (n : ℕ) :
    (Job.follow x).usesBus n = false := by
  cases x with
  | invoke cb v => rfl
  | showContent g => rfl
  | postNext r =>
    cases hx
    rfl

/-- What a frame goes on with is about that frame, if it is about one. -/
theorem Followup.OfFrame.frame? {f g : FrameRef} {x : Followup} (hx : x.OfFrame f)
    (hg : x.frame? = some g) : g = f := by
  cases x with
  | invoke cb v => cases hg
  | showContent f' =>
    cases hg
    exact hx
  | postNext r =>
    cases hx
    exact (Option.some.inj hg).symm

namespace Host

variable {h : Host} {f : FrameRef}

/-- Nothing to go on with is within any frame. -/
theorem ofFrame_nil : ∀ x ∈ ([] : List Followup), x.OfFrame f :=
  fun _ hx => absurd hx List.not_mem_nil

/-- An event goes on within its own frame. -/
theorem ofFrame_emit {event : String} {v : Value} : ∀ x ∈ h.emit f event v, x.OfFrame f := by
  intro x hx
  unfold emit at hx
  rw [Option.mem_toList, Option.map_eq_some_iff] at hx
  obtain ⟨cb, -, rfl⟩ := hx
  trivial

/-- Showing the content goes on within the frame. -/
theorem ofFrame_showContent : ∀ x ∈ (h.showContent f).2, x.OfFrame f := by
  unfold showContent
  split
  · exact ofFrame_nil
  · split
    · exact ofFrame_nil
    · dsimp only
      split
      · exact ofFrame_nil
      · exact ofFrame_emit

/-- Connecting goes on within the frame. -/
theorem ofFrame_connect {g : ℕ} : ∀ x ∈ (h.connect f g).2, x.OfFrame f := by
  unfold connect
  split
  · exact ofFrame_nil
  · split
    · exact ofFrame_nil
    · dsimp only
      split
      · exact ofFrame_nil
      · exact ofFrame_emit

/-- Retiring the loader goes on within the frame. -/
theorem ofFrame_retireLoader {g : ℕ} {loader : NodeId} :
    ∀ x ∈ (h.retireLoader f g loader).2, x.OfFrame f := by
  unfold retireLoader
  split
  · exact ofFrame_nil
  · split
    · exact ofFrame_emit
    · exact ofFrame_nil

/-- A call goes on within the frame. -/
theorem ofFrame_call {m : Method} : ∀ x ∈ (h.call f m).2.2, x.OfFrame f := by
  unfold call
  dsimp only
  split
  · exact ofFrame_nil
  · exact ofFrame_emit

/-- A call by name goes on within the frame. -/
theorem ofFrame_callByName {name : String} {params : Option Value} {cb : Callback} :
    ∀ x ∈ (h.callByName f name params cb).2.2, x.OfFrame f := by
  unfold callByName
  split
  · exact ofFrame_nil
  · exact ofFrame_emit

/-- Configuring goes on within the frame, a remount included. -/
theorem ofFrame_configure {c : Config} : ∀ x ∈ (h.configure f c).2.2, x.OfFrame f := by
  unfold configure
  split
  · exact ofFrame_nil
  · split
    · exact ofFrame_nil
    · exact ofFrame_call

/-- Delivering an answer goes on within any frame, for it operates none. -/
theorem ofFrame_deliver (responder : Responder) {v : Value} :
    ∀ x ∈ (h.deliver responder v).2, x.OfFrame f := by
  cases responder with
  | channel id => exact ofFrame_nil
  | ignore => exact ofFrame_nil
  | callback cb =>
    intro x hx
    rw [List.mem_singleton.mp hx]
    trivial

/-- Delivering an answer operates no frame. -/
theorem frame?_deliver {responder : Responder} {v : Value} :
    ∀ x ∈ (h.deliver responder v).2, x.frame? = none := by
  cases responder with
  | channel id => exact fun x hx => absurd hx List.not_mem_nil
  | ignore => exact fun x hx => absurd hx List.not_mem_nil
  | callback cb =>
    intro x hx
    rw [List.mem_singleton.mp hx]
    rfl

/-- A reply leaves to be done what its receiver does, then the next post of the bus. -/
theorem reply_followups {r : BusRef} {b : Bus} (hb : h.bus? r = some b) (data : Option Value) :
    (h.reply r data).2 =
      (b.pending.head?.toList.flatMap fun call =>
        (h.deliver call.responder (data.getD Value.emptyObject)).2) ++ [.postNext r] := by
  unfold reply
  rw [hb]
  dsimp only [Bus.answer]
  cases b.pending.head? with
  | none => rfl
  | some call =>
    cases hr : call.responder <;> simp [hr, deliver]

/-- An answer on a frame's bus goes on within the frame. -/
theorem ofFrame_reply {data : Option Value} :
    ∀ x ∈ (h.reply (.frame f) data).2, x.OfFrame f := by
  cases hb : h.bus? (.frame f) with
  | none =>
    unfold reply
    rw [hb]
    exact ofFrame_nil
  | some b =>
    rw [reply_followups hb]
    intro x hx
    -- The receiver of the reply, and then the next post.
    rcases List.mem_append.mp hx with hx | hx
    · obtain ⟨call, -, hx⟩ := List.mem_flatMap.mp hx
      exact ofFrame_deliver call.responder x hx
    · rw [List.mem_singleton.mp hx]
      rfl

/-- A command goes on within the frame. -/
theorem ofFrame_runCommand {name : String} {data : Value} :
    ∀ x ∈ (h.runCommand f name data).2, x.OfFrame f := by
  unfold runCommand
  split
  · exact ofFrame_nil
  · exact ofFrame_showContent
  · exact ofFrame_nil
  · next cb _ => exact ofFrame_deliver (.callback cb)
  · -- The command that sets the configuration.
    split
    · exact ofFrame_emit
    · exact ofFrame_configure

/-- A handled message goes on within the frame. -/
theorem ofFrame_handle {data : Value} : ∀ x ∈ (h.handle f data).2, x.OfFrame f := by
  unfold handle
  split
  · dsimp only
    split
    · -- Reply, event, command, error, and what is none of them.
      unfold dispatch
      split
      · exact ofFrame_reply
      · split
        · exact ofFrame_nil
        · exact ofFrame_emit
      · exact ofFrame_runCommand
      · exact ofFrame_emit
      · exact ofFrame_nil
    · exact ofFrame_nil
  · exact ofFrame_nil

/-- The end of a check goes on within the check's frame. -/
theorem ofFrame_endCheck {c : Check} : ∀ x ∈ (h.endCheck c).2.2, x.OfFrame c.frame := by
  unfold endCheck
  split
  · exact ofFrame_nil
  · unfold failCheck
    split
    · exact ofFrame_nil
    · split
      · intro x hx
        -- The handlers of the frame, then its own follow-up.
        rcases List.mem_append.mp hx with hx | hx
        · exact ofFrame_emit x hx
        · rw [List.mem_singleton.mp hx]
          rfl
      · exact ofFrame_nil

end Host

end FrameHost
