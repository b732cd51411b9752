import FrameHost.Proofs.CallEvents

/-!
# Calls and their replies

A reply names no call: it belongs to the oldest call that waits. So what becomes of a call is told by
how many calls its frame had made before it since the last mount, and by the replies that found a call
waiting since then (`Exchange`). Whoever made a call waits on a channel; each channel belongs to one
call (`Host.Separate`), the calls of a frame that were answered are the first of those that it made
(`Host.Matches`), and on a channel that nobody waits on nothing arrives (`Host.Closed`). From that it
follows when each call is settled, and with what (`call_settles_once`).
-/

namespace FrameHost

open Json (Value)

/-! ## Exchanges -/

/-- What went over the bus of a frame since its calls were dropped last. -/
structure Exchange where
  /-- The calls that the bus took, the oldest first. -/
  taken : List PendingCall := []
  /-- The replies that found a call waiting, the oldest first. -/
  answers : List Value := []

namespace Exchange

/-- The exchange after an event. -/
def record (x : Exchange) : CallEvent → Exchange
  | .taken call => { x with taken := x.taken ++ [call] }
  | .answered v => { x with answers := x.answers ++ [v] }
  | .dropped => {}

/-- The exchange of a frame after what happened to the calls of one bus. -/
def follow (x : Exchange) (f : FrameRef) : Option (BusRef × CallEvent) → Exchange
  | none => x
  | some (r, e) => if r = .frame f then x.record e else x

end Exchange

namespace Session

/-- The exchange of a frame in a state of a run. -/
def exchange (s : Session) (as : List Action) (f : FrameRef) : ℕ → Exchange
  | 0 => {}
  | k + 1 => (s.exchange as f k).follow f (s.after as k).callEvent?

/-- The calls of a frame are dropped: the frame is mounted, or torn down. -/
def Drops (s : Session) (f : FrameRef) : Prop := s.callEvent? = some (.frame f, .dropped)

instance (s : Session) (f : FrameRef) : Decidable (s.Drops f) :=
  match he : s.callEvent? with
  | some (r, .dropped) =>
    if hr : r = .frame f then .isTrue (he.trans (by rw [hr]))
    else .isFalse fun hd => hr (Prod.mk.inj (Option.some.inj (he.symm.trans hd))).1
  | some (_, .taken _) | some (_, .answered _) | none => .isFalse fun hd => by cases he.symm.trans hd

end Session

/-! ## Channels -/

namespace Host

variable {h h' : Host} {f : FrameRef} {r r' : BusRef} {n n' : ℕ} {id : ChannelId}
  {e : Option (BusRef × CallEvent)} {x : Exchange}

/-- The call at a place among those of a bus waits for its reply on a channel. -/
def WaitsAt (h : Host) (r : BusRef) (n : ℕ) (id : ChannelId) : Prop :=
  ∃ call, (h.waiting r)[n]? = some call ∧ call.responder = .channel id

/-- A channel belongs to one call, and nothing was delivered on it while the call waits. -/
structure Separate (h : Host) : Prop where
  once : ∀ {r r' n n' id}, h.WaitsAt r n id → h.WaitsAt r' n' id → r = r' ∧ n = n'
  opened : ∀ {r n id}, h.WaitsAt r n id → id ≤ h.lastChannel
  unanswered : ∀ {r n id}, h.WaitsAt r n id → h.replies.get? id = none
  delivered : ∀ {id v}, h.replies.get? id = some v → id ≤ h.lastChannel

/-- The first calls of an exchange are answered, each by the reply at its place, and the others wait. -/
structure Matches (h : Host) (f : FrameRef) (x : Exchange) : Prop where
  waiting : h.waiting (.frame f) = x.taken.drop x.answers.length
  answers : x.answers.length ≤ x.taken.length
  opened : ∀ {n : ℕ} {id : ChannelId} {call : PendingCall}, x.taken[n]? = some call → call.responder = .channel id →
    id ≤ h.lastChannel
  replies : ∀ {n : ℕ} {id : ChannelId} {call : PendingCall}, x.taken[n]? = some call → call.responder = .channel id →
    h.replies.get? id = x.answers[n]?

/-- Nobody waits on a channel any more; `v` is what was delivered on it. -/
structure Closed (h : Host) (id : ChannelId) (v : Option Value) : Prop where
  opened : id ≤ h.lastChannel
  nobody : ∀ r n, ¬ h.WaitsAt r n id
  reply : h.replies.get? id = v

/-! ### What a step does to the calls that wait -/

/-- Where no call is made or answered, those that waited wait. -/
theorem CallStep.waitsAt_none (hs : h.CallStep h' none) : h'.WaitsAt r n id ↔ h.WaitsAt r n id := by
  unfold WaitsAt
  rw [hs.waiting r]
  rfl

/-- A call that is taken comes last. -/
theorem CallStep.waitsAt_taken {r₀ : BusRef} {call : PendingCall}
    (hs : h.CallStep h' (some (r₀, .taken call))) (hw : h'.WaitsAt r n id) :
    h.WaitsAt r n id ∨
      r = r₀ ∧ n = (h.waiting r₀).length ∧ call.responder = .channel id := by
  obtain ⟨call', hcall', hid⟩ := hw
  rw [hs.waiting r] at hcall'
  change (if r = r₀ then h.waiting r ++ [call] else h.waiting r)[n]? = some call' at hcall'
  by_cases hr : r = r₀
  · subst hr
    rw [if_pos rfl] at hcall'
    -- The call that is taken comes last.
    by_cases hn : n < (h.waiting r).length
    · rw [List.getElem?_append_left hn] at hcall'
      exact .inl ⟨call', hcall', hid⟩
    · have hle : (h.waiting r).length ≤ n := Nat.le_of_not_lt hn
      rw [List.getElem?_append_right hle, List.getElem?_singleton] at hcall'
      split at hcall'
      · next hzero =>
        cases hcall'
        exact .inr ⟨rfl, by omega, hid⟩
      · cases hcall'
  · rw [if_neg hr] at hcall'
    exact .inl ⟨call', hcall', hid⟩

/-- The oldest call is answered, and the others move up. -/
theorem CallStep.waitsAt_answered {r₀ : BusRef} {v : Value}
    (hs : h.CallStep h' (some (r₀, .answered v))) (hw : h'.WaitsAt r n id) :
    h.WaitsAt r (if r = r₀ then n + 1 else n) id := by
  obtain ⟨call, hcall, hid⟩ := hw
  rw [hs.waiting r] at hcall
  change (if r = r₀ then (h.waiting r).tail else h.waiting r)[n]? = some call at hcall
  refine ⟨call, ?_, hid⟩
  split at hcall
  · next hr => rwa [if_pos hr, ← List.getElem?_tail]
  · next hr => rwa [if_neg hr]

/-- Where the calls of a bus are dropped, those of the other buses wait on. -/
theorem CallStep.waitsAt_dropped {r₀ : BusRef} (hs : h.CallStep h' (some (r₀, .dropped)))
    (hw : h'.WaitsAt r n id) : r ≠ r₀ ∧ h.WaitsAt r n id := by
  obtain ⟨call, hcall, hid⟩ := hw
  rw [hs.waiting r] at hcall
  change (if r = r₀ then [] else h.waiting r)[n]? = some call at hcall
  split at hcall
  · cases hcall
  · next hr => exact ⟨hr, call, hcall, hid⟩

/-- A reply arrives on the channel of the oldest call, and on no other. -/
theorem CallStep.get?_replies {r₀ : BusRef} {v : Value}
    (hs : h.CallStep h' (some (r₀, .answered v))) (id : ChannelId) :
    h.WaitsAt r₀ 0 id ∧ h'.replies.get? id = some v ∨
      ¬ h.WaitsAt r₀ 0 id ∧ h'.replies.get? id = h.replies.get? id := by
  have hreplies := hs.replies
  unfold repliesAfter at hreplies
  -- Who does not wait first gets nothing.
  have hnot : (h.waiting r₀).head?.map PendingCall.responder ≠ some (.channel id) →
      ¬ h.WaitsAt r₀ 0 id := by
    rintro hne ⟨call, hcall, hid⟩
    rw [List.head?_eq_getElem?, hcall] at hne
    exact hne (congrArg some hid)
  dsimp only at hreplies
  split at hreplies
  · next id' hhead =>
    rw [hreplies, Table.get?_insert]
    by_cases hid : id = id'
    · subst hid
      obtain ⟨call, hcall, hresponder⟩ := Option.map_eq_some_iff.mp hhead
      rw [List.head?_eq_getElem?] at hcall
      exact .inl ⟨⟨call, hcall, hresponder⟩, if_pos rfl⟩
    · refine .inr ⟨hnot fun heq => hid ?_, if_neg hid⟩
      rw [hhead] at heq
      cases heq
      rfl
  · next hother => exact .inr ⟨hnot (hother id), by rw [hreplies]⟩

/-- Only an answer delivers a reply. -/
theorem CallStep.replies_eq (hs : h.CallStep h' e) (he : ∀ r v, e ≠ some (r, .answered v)) :
    h'.replies = h.replies := by
  have hreplies := hs.replies
  unfold repliesAfter at hreplies
  split at hreplies
  · next r v => exact absurd rfl (he r v)
  · exact hreplies

/-! ### Every channel belongs to one call -/

/-- Channels stay separate in every step. -/
theorem Separate.step (hsep : h.Separate) (hs : h.CallStep h' e) : h'.Separate := by
  have hkept : ∀ {id v}, h.replies.get? id = some v → id ≤ h'.lastChannel := fun hv =>
    Nat.le_trans (hsep.delivered hv) hs.lastChannel
  rcases e with _ | ⟨r₀, _ | v | _⟩
  · have hreplies := hs.replies_eq fun _ _ => by simp
    exact
      { once := fun hw hw' => hsep.once (hs.waitsAt_none.mp hw) (hs.waitsAt_none.mp hw')
        opened := fun hw => Nat.le_trans (hsep.opened (hs.waitsAt_none.mp hw)) hs.lastChannel
        unanswered := fun hw => hreplies ▸ hsep.unanswered (hs.waitsAt_none.mp hw)
        delivered := fun hv => hkept (hreplies ▸ hv) }
  · next call =>
    -- The channel of the new call is a new one.
    have hreplies := hs.replies_eq fun _ _ => by simp
    have hnew : ∀ id, call.responder = .channel id → h.lastChannel < id ∧ id ≤ h'.lastChannel :=
      hs.event
    have hold : ∀ {r n id}, h.WaitsAt r n id → call.responder ≠ .channel id := fun hw heq =>
      absurd (hsep.opened hw) (Nat.not_le_of_lt (hnew _ heq).1)
    refine ⟨fun hw hw' => ?_, fun hw => ?_, fun hw => ?_, fun hv => hkept (hreplies ▸ hv)⟩
    · rcases hs.waitsAt_taken hw with hw | ⟨hr, hn, hid⟩ <;>
        rcases hs.waitsAt_taken hw' with hw' | ⟨hr', hn', hid'⟩
      · exact hsep.once hw hw'
      · exact absurd hid' (hold hw)
      · exact absurd hid (hold hw')
      · exact ⟨hr.trans hr'.symm, hn.trans hn'.symm⟩
    · rcases hs.waitsAt_taken hw with hw | ⟨-, -, hid⟩
      · exact Nat.le_trans (hsep.opened hw) hs.lastChannel
      · exact (hnew _ hid).2
    · rw [hreplies]
      rcases hs.waitsAt_taken hw with hw | ⟨-, -, hid⟩
      · exact hsep.unanswered hw
      · refine Option.eq_none_iff_forall_ne_some.mpr fun v hv => ?_
        exact absurd (hsep.delivered hv) (Nat.not_le_of_lt (hnew _ hid).1)
  · -- The call that is answered waits no more.
    have hfirst : ∀ {r n id}, h'.WaitsAt r n id → ¬ h.WaitsAt r₀ 0 id := by
      intro r n id hw hw₀
      obtain ⟨hr, hn⟩ := hsep.once (hs.waitsAt_answered hw) hw₀
      rw [if_pos hr] at hn
      exact absurd hn (Nat.succ_ne_zero n)
    refine ⟨fun hw hw' => ?_, fun hw => ?_, fun {r n id} hw => ?_, fun {id w} hv => ?_⟩
    · obtain ⟨hr, hn⟩ := hsep.once (hs.waitsAt_answered hw) (hs.waitsAt_answered hw')
      refine ⟨hr, ?_⟩
      subst hr
      split at hn <;> omega
    · exact Nat.le_trans (hsep.opened (hs.waitsAt_answered hw)) hs.lastChannel
    · rcases hs.get?_replies id with ⟨hw₀, -⟩ | ⟨-, hreplies⟩
      · exact absurd hw₀ (hfirst hw)
      · rw [hreplies]
        exact hsep.unanswered (hs.waitsAt_answered hw)
    · rcases hs.get?_replies id with ⟨hw₀, -⟩ | ⟨-, hreplies⟩
      · exact Nat.le_trans (hsep.opened hw₀) hs.lastChannel
      · exact hkept (hreplies ▸ hv)
  · have hreplies := hs.replies_eq fun _ _ => by simp
    exact
      { once := fun hw hw' => hsep.once (hs.waitsAt_dropped hw).2 (hs.waitsAt_dropped hw').2
        opened := fun hw => Nat.le_trans (hsep.opened (hs.waitsAt_dropped hw).2) hs.lastChannel
        unanswered := fun hw => hreplies ▸ hsep.unanswered (hs.waitsAt_dropped hw).2
        delivered := fun hv => hkept (hreplies ▸ hv) }

/-- A channel that nobody waits on stays as it is. -/
theorem Closed.step {v : Option Value} (hc : h.Closed id v) (hs : h.CallStep h' e) :
    h'.Closed id v := by
  have hopened := Nat.le_trans hc.opened hs.lastChannel
  rcases e with _ | ⟨r₀, _ | w | _⟩
  · have hreplies := hs.replies_eq fun _ _ => by simp
    exact ⟨hopened, fun r n hw => hc.nobody r n (hs.waitsAt_none.mp hw), hreplies ▸ hc.reply⟩
  · have hreplies := hs.replies_eq fun _ _ => by simp
    refine ⟨hopened, fun r n hw => ?_, hreplies ▸ hc.reply⟩
    rcases hs.waitsAt_taken hw with hw | ⟨-, -, hid⟩
    · exact hc.nobody r n hw
    · -- A call that is taken waits on a new channel.
      have hnew : h.lastChannel < id := (hs.event id hid).1
      exact absurd hc.opened (Nat.not_le_of_lt hnew)
  · refine ⟨hopened, fun r n hw => hc.nobody r _ (hs.waitsAt_answered hw), ?_⟩
    -- An answer goes to who waits, and nobody waits on this channel.
    rcases hs.get?_replies id with ⟨hw₀, -⟩ | ⟨-, hreplies⟩
    · exact absurd hw₀ (hc.nobody r₀ 0)
    · exact hreplies.trans hc.reply
  · have hreplies := hs.replies_eq fun _ _ => by simp
    exact ⟨hopened, fun r n hw => hc.nobody r n (hs.waitsAt_dropped hw).2, hreplies ▸ hc.reply⟩

/-! ### The calls of a frame and their replies -/

/-- A call that was taken and not answered waits, behind those that were taken before it. -/
theorem Matches.waitsAt (hm : h.Matches f x) {call : PendingCall} (hcall : x.taken[n]? = some call)
    (hid : call.responder = .channel id) (hn : x.answers.length ≤ n) :
    h.WaitsAt (.frame f) (n - x.answers.length) id := by
  refine ⟨call, ?_, hid⟩
  rw [hm.waiting, List.getElem?_drop, Nat.add_sub_cancel' hn]
  exact hcall

/-- Nothing happens to the calls of a frame when those of another bus are taken or dropped. -/
theorem Matches.kept (hm : h.Matches f x) (hs : h.CallStep h' e)
    (hreplies : ∀ {n : ℕ} {id : ChannelId} {call : PendingCall}, x.taken[n]? = some call →
      call.responder = .channel id → h'.replies.get? id = h.replies.get? id)
    (hwaiting : h'.waiting (.frame f) = h.waiting (.frame f)) : h'.Matches f x where
  waiting := hwaiting.trans hm.waiting
  answers := hm.answers
  opened hcall hid := Nat.le_trans (hm.opened hcall hid) hs.lastChannel
  replies hcall hid := (hreplies hcall hid).trans (hm.replies hcall hid)

/-- The calls of a frame that wait on channels on which no reply has come are not answered. -/
theorem Matches.le_of_unanswered (hm : h.Matches f x) {call : PendingCall}
    (hcall : x.taken[n]? = some call) (hid : call.responder = .channel id)
    (hnone : h.replies.get? id = none) : x.answers.length ≤ n := by
  rw [hm.replies hcall hid] at hnone
  exact List.getElem?_eq_none_iff.mp hnone

/-- A call that is taken waits behind the others. -/
theorem Matches.taken (hsep : h.Separate) (hm : h.Matches f x) {call : PendingCall}
    (hs : h.CallStep h' (some (.frame f, .taken call))) :
    h'.Matches f { x with taken := x.taken ++ [call] } := by
  have hreplies := hs.replies_eq fun _ _ => by simp
  have hwaiting := hs.waiting (.frame f)
  -- The new call has neither been answered nor made before.
  have htaken : ∀ {n : ℕ} {id : ChannelId} {call' : PendingCall},
      (x.taken ++ [call])[n]? = some call' → call'.responder = .channel id →
      id ≤ h'.lastChannel ∧ h.replies.get? id = x.answers[n]? := by
    intro n id call' hcall' hid
    by_cases hn : n < x.taken.length
    · rw [List.getElem?_append_left hn] at hcall'
      exact ⟨Nat.le_trans (hm.opened hcall' hid) hs.lastChannel, hm.replies hcall' hid⟩
    · have hle : x.taken.length ≤ n := Nat.le_of_not_lt hn
      rw [List.getElem?_append_right hle, List.getElem?_singleton] at hcall'
      split at hcall'
      · cases hcall'
        have hnew : h.lastChannel < id ∧ id ≤ h'.lastChannel := hs.event id hid
        refine ⟨hnew.2, ?_⟩
        rw [List.getElem?_eq_none_iff.mpr (Nat.le_trans hm.answers hle)]
        refine Option.eq_none_iff_forall_ne_some.mpr fun v hv => ?_
        exact absurd (hsep.delivered hv) (Nat.not_le_of_lt hnew.1)
      · cases hcall'
  refine ⟨?_, ?_, fun hcall' hid => (htaken hcall' hid).1, fun hcall' hid => ?_⟩
  · calc h'.waiting (.frame f) = h.waiting (.frame f) ++ [call] := hwaiting.trans (if_pos rfl)
      _ = x.taken.drop x.answers.length ++ [call] := by rw [hm.waiting]
      _ = (x.taken ++ [call]).drop x.answers.length :=
        (List.drop_append_of_le_length hm.answers).symm
  · show x.answers.length ≤ (x.taken ++ [call]).length
    have hle := hm.answers
    rw [List.length_append]
    omega
  · rw [hreplies]
    exact (htaken hcall' hid).2

/-- A reply answers the first call that waits. -/
theorem Matches.answered (hsep : h.Separate) (hm : h.Matches f x) {v : Value}
    (hs : h.CallStep h' (some (.frame f, .answered v))) :
    h'.Matches f { x with answers := x.answers ++ [v] } := by
  have hwaiting := hs.waiting (.frame f)
  have hwaits : h.waiting (.frame f) ≠ [] := hs.event
  -- There is a call that waits, so more were taken than answered.
  have hlt : x.answers.length < x.taken.length := by
    refine Nat.lt_of_not_le fun hle => hwaits ?_
    rw [hm.waiting]
    exact List.drop_eq_nil_of_le hle
  have hlength : (x.answers ++ [v]).length = x.answers.length + 1 := List.length_append
  refine ⟨?_, ?_, fun hcall hid => Nat.le_trans (hm.opened hcall hid) hs.lastChannel,
    fun {n id call} hcall hid => ?_⟩
  · calc h'.waiting (.frame f) = (h.waiting (.frame f)).tail := hwaiting.trans (if_pos rfl)
      _ = x.taken.drop (x.answers.length + 1) := by rw [hm.waiting, List.tail_drop]
      _ = x.taken.drop (x.answers ++ [v]).length := by rw [hlength]
  · show (x.answers ++ [v]).length ≤ x.taken.length
    omega
  · have hreply := hm.replies hcall hid
    show h'.replies.get? id = (x.answers ++ [v])[n]?
    rcases hs.get?_replies id with ⟨hw₀, hv⟩ | ⟨hw₀, hsame⟩
    · -- The oldest call that waits is the next one that was taken.
      have hle := hm.le_of_unanswered hcall hid (hsep.unanswered hw₀)
      obtain ⟨-, hzero⟩ := hsep.once (hm.waitsAt hcall hid hle) hw₀
      have hn : n = x.answers.length := by omega
      rw [hv, hn, List.getElem?_concat_length]
    · -- This call is not the oldest that waits.
      have hne : n ≠ x.answers.length := by
        rintro rfl
        have hw := hm.waitsAt hcall hid (Nat.le_refl _)
        rw [Nat.sub_self] at hw
        exact hw₀ hw
      rw [hsame, hreply]
      by_cases hn : n < x.answers.length
      · rw [List.getElem?_append_left hn]
      · have hnone : (x.answers ++ [v])[n]? = none := List.getElem?_eq_none_iff.mpr (by omega)
        rw [hnone, List.getElem?_eq_none_iff.mpr (Nat.le_of_not_lt hn)]

/-- An exchange goes on with every step. -/
theorem Matches.step (hsep : h.Separate) (hm : h.Matches f x) (hs : h.CallStep h' e) :
    h'.Matches f (x.follow f e) := by
  have hwaiting := hs.waiting (.frame f)
  rcases e with _ | ⟨r, e⟩
  · have hreplies := hs.replies_eq fun _ _ => by simp
    exact hm.kept hs (fun _ _ => by rw [hreplies]) hwaiting
  · by_cases hr : r = .frame f
    · subst hr
      have hfollow : x.follow f (some (.frame f, e)) = x.record e := if_pos rfl
      rw [hfollow]
      cases e with
      | taken call => exact hm.taken hsep hs
      | answered v => exact hm.answered hsep hs
      | dropped =>
        exact
          { waiting := hwaiting.trans (if_pos rfl)
            answers := Nat.le_refl _
            opened := fun hcall => by cases hcall
            replies := fun hcall => by cases hcall }
    · have hfollow : x.follow f (some (r, e)) = x := if_neg hr
      have hkept : h'.waiting (.frame f) = h.waiting (.frame f) :=
        hwaiting.trans (if_neg fun heq => hr heq.symm)
      rw [hfollow]
      refine hm.kept hs (fun {n id call} hcall hid => ?_) hkept
      cases e with
      | taken | dropped => rw [hs.replies_eq fun _ _ => by simp]
      | answered v =>
        -- A call of another bus waits on another channel.
        rcases hs.get?_replies id with ⟨hw₀, -⟩ | ⟨-, hsame⟩
        · have hle := hm.le_of_unanswered hcall hid (hsep.unanswered hw₀)
          obtain ⟨hframe, -⟩ := hsep.once (hm.waitsAt hcall hid hle) hw₀
          exact absurd hframe.symm hr
        · exact hsame

/-- When the calls of a frame are dropped, nobody waits on their channels any more. -/
theorem Matches.closed (hsep : h.Separate) (hm : h.Matches f x)
    (hs : h.CallStep h' (some (.frame f, .dropped))) {call : PendingCall}
    (hcall : x.taken[n]? = some call) (hid : call.responder = .channel id) :
    h'.Closed id x.answers[n]? := by
  have hreplies := hs.replies_eq fun _ _ => by simp
  have hreply := hm.replies hcall hid
  refine ⟨Nat.le_trans (hm.opened hcall hid) hs.lastChannel, fun r n' hw => ?_, hreplies ▸ hreply⟩
  obtain ⟨hr, hw⟩ := hs.waitsAt_dropped hw
  have hle := hm.le_of_unanswered hcall hid (hsep.unanswered hw)
  exact hr (hsep.once hw (hm.waitsAt hcall hid hle)).1

end Host

/-! ## Runs -/

namespace Session

variable {s : Session} {f : FrameRef} {id : ChannelId}

/-- A step of a run does to the calls what the next job is for them. -/
theorem after_calls (s : Session) (as : List Action) (k : ℕ) :
    (s.after as k).host.CallStep (s.after as (k + 1)).host (s.after as k).callEvent? := by
  rcases after_succ s as k with ⟨-, h⟩ | ⟨a, -, hagenda, h⟩ | ⟨hagenda, h⟩
  · rw [h]
    exact step_calls _
  · have hnone : (s.after as k).callEvent? = none := by
      unfold callEvent? op?
      rw [hagenda]
    rw [h, hnone]
    exact Host.callStep_of_frames rfl rfl rfl (Nat.le_refl _)
  · have hnone : (s.after as k).callEvent? = none := by
      unfold callEvent? op?
      rw [hagenda]
    rw [h, hnone]
    exact Host.CallStep.refl _

/-- Channels are separate in every state of a run. -/
theorem separate_after (hsep : s.host.Separate) (as : List Action) (k : ℕ) :
    (s.after as k).host.Separate := by
  induction k with
  | zero => exact hsep
  | succ k ih => exact ih.step (after_calls s as k)

/-- The calls and the replies of a frame match in every state of a run. -/
theorem matches_after (hsep : s.host.Separate) (hm : s.host.Matches f {}) (as : List Action) (k : ℕ) :
    (s.after as k).host.Matches f (s.exchange as f k) := by
  induction k with
  | zero => exact hm
  | succ k ih => exact ih.step (separate_after hsep as k) (after_calls s as k)

/-- A channel that is closed stays so, with what was delivered on it. -/
theorem closed_after {as : List Action} {j k : ℕ} {v : Option Value} (hjk : j ≤ k)
    (hc : (s.after as j).host.Closed id v) : (s.after as k).host.Closed id v := by
  induction k, hjk using Nat.le_induction with
  | base => exact hc
  | succ k _ ih => exact ih.step (after_calls s as k)

/-- Until the calls are dropped, what was taken stays in its place. -/
theorem taken_stays {as : List Action} {j k n : ℕ} {call : PendingCall} (hjk : j ≤ k)
    (hcall : (s.exchange as f j).taken[n]? = some call)
    (hdrops : ∀ i, j ≤ i → i < k → ¬ (s.after as i).Drops f) :
    (s.exchange as f k).taken[n]? = some call := by
  induction k, hjk using Nat.le_induction with
  | base => exact hcall
  | succ k hjk ih =>
    have hkept := ih fun i hji hik => hdrops i hji (Nat.lt_succ_of_lt hik)
    have hnot := hdrops k hjk (Nat.lt_succ_self k)
    show ((s.exchange as f k).follow f (s.after as k).callEvent?).taken[n]? = some call
    unfold Drops at hnot
    cases he : (s.after as k).callEvent? with
    | none => exact hkept
    | some re =>
      obtain ⟨r, e⟩ := re
      show (if r = .frame f then _ else _ : Exchange).taken[n]? = some call
      split
      · next hr =>
        cases e with
        | taken call' =>
          -- Calls are added behind it.
          obtain ⟨hlt, -⟩ := List.getElem?_eq_some_iff.mp hkept
          exact (List.getElem?_append_left hlt).trans hkept
        | answered v => exact hkept
        | dropped => exact absurd (hr ▸ he) hnot
      · exact hkept

/-! ## Answers -/

/-- A bus awaits a channel when one of its calls waits on it. -/
theorem awaits_iff {b : Bus} : b.awaits id = true ↔
    ∃ (n : ℕ) (call : PendingCall), b.pending[n]? = some call ∧ call.responder = .channel id := by
  unfold Bus.awaits
  rw [List.any_eq_true]
  constructor
  · rintro ⟨call, hmem, hid⟩
    obtain ⟨n, hn⟩ := List.mem_iff_getElem?.mp hmem
    exact ⟨n, call, hn, of_decide_eq_true hid⟩
  · rintro ⟨n, call, hn, hid⟩
    exact ⟨call, List.mem_of_getElem? hn, decide_eq_true hid⟩

/-- A call that waits on the bus of a frame in use can still be answered. -/
theorem isAwaited_of_waitsAt {n : ℕ} (hw : s.host.WaitsAt (.frame f) n id)
    (hlive : s.isLive f = true) : s.isAwaited id = true := by
  obtain ⟨call, hcall, hid⟩ := hw
  unfold Host.waiting at hcall
  cases hf : s.host.frame? f with
  | none =>
    rw [Host.bus?_of_none hf] at hcall
    cases hcall
  | some frame =>
    obtain ⟨hlt, -⟩ := List.getElem?_eq_some_iff.mp hf
    rw [Host.bus?_of_frame? hf] at hcall
    have hawaits : frame.bus.awaits id = true := awaits_iff.mpr ⟨n, call, hcall, hid⟩
    unfold isAwaited
    refine Bool.or_eq_true_iff.mpr (.inl (List.any_eq_true.mpr ⟨f, List.mem_range.mpr hlt, ?_⟩))
    rw [hlive, Host.bus?_of_frame? hf]
    exact hawaits

/-- A call whose channel nobody waits on has what was delivered there, or nothing to come. -/
theorem waitingAnswer?_closed {v : Option Value} (hc : s.host.Closed id v) :
    s.waitingAnswer? id = some (v.elim (.error .channelClosed) .ok) := by
  have hawaited : s.isAwaited id = false := by
    refine Bool.eq_false_iff.mpr fun htrue => ?_
    -- No bus at all has a call that waits on it, whatever frames are live.
    have hnot : ∀ r, ((s.host.bus? r).map fun b => b.awaits id).getD false ≠ true := by
      intro r hr
      cases hb : s.host.bus? r with
      | none =>
        rw [hb] at hr
        cases hr
      | some b =>
        rw [hb] at hr
        obtain ⟨n, call, hn, hid⟩ := awaits_iff.mp hr
        refine hc.nobody r n ⟨call, ?_, hid⟩
        rw [Host.waiting_of_bus? hb]
        exact hn
    unfold isAwaited at htrue
    rcases Bool.or_eq_true_iff.mp htrue with h | h <;>
      obtain ⟨m, -, hm⟩ := List.any_eq_true.mp h
    · exact hnot (.frame m) (Bool.and_eq_true_iff.mp hm).2
    · exact hnot (.bare m) (Bool.and_eq_true_iff.mp hm).2
  unfold waitingAnswer?
  rw [hc.reply, hawaited]
  cases v <;> rfl

/-! ## Calls that are made -/

end Session

/-- A call of a frame whose maker wants to hold it. -/
structure MadeCall where
  frame : FrameRef
  /-- The bus of the frame. -/
  bus : Bus
  method : Method
  /-- The channel on which the reply would be waited for. -/
  channel : ChannelId
  /-- The name under which the call is to be held. -/
  name : String

/-- What the bus does with a call: it takes it, or refuses it. -/
def MadeCall.attempt (c : MadeCall) : Except Error (Bus × Option Posted) :=
  c.bus.execute (Task.ofMethod c.method) (.channel c.channel)

/-- The call as it is held. -/
def MadeCall.call (c : MadeCall) : Call :=
  match c.attempt with
  | .ok _ => .waiting c.channel
  | .error e => .settled (some (.error e))

namespace Session

variable {s : Session} {f : FrameRef}

/-- The call that the next job makes, if it makes one that is to be held: a call that is asked for, or
the one that tells the application of a new configuration. -/
def madeCall? (s : Session) : Option MadeCall :=
  match s.agenda with
  | .act _ (.frame (.call frame m name)) :: _ =>
    (s.frames.get? frame).bind fun f =>
      (s.host.frame? f).map fun x => ⟨f, x.bus, m, s.host.lastChannel + 1, name⟩
  | .act _ (.frame (.configure frame (.ok patch) name)) :: _ =>
    (s.frames.get? frame).bind fun f =>
      (s.host.frame? f).bind fun x =>
        if x.phase.isMounted && x.config.requiresReload patch then none
        else
          some ⟨f, x.bus, .setConfig (x.config.merged patch).toValue, s.host.lastChannel + 1, name⟩
  | _ => none

/-- A call is held as its bus took it. -/
theorem call_made {h : Host} {frame : Frame} (hf : h.frame? f = some frame) (m : Method)
    (name : String) :
    (h.call f m).2.1 = MadeCall.call ⟨f, frame.bus, m, h.lastChannel + 1, name⟩ := by
  have hbus : h.newChannel.1.bus? (.frame f) = some frame.bus := Host.bus?_of_frame? hf
  rw [Host.call_eq]
  unfold MadeCall.call MadeCall.attempt
  dsimp only
  cases hx : frame.bus.execute (Task.ofMethod m) (.channel (h.lastChannel + 1)) with
  | error e => simp only [Host.execute, hbus, hx]
  | ok r => simp only [Host.execute, hbus, hx]

/-- A call that was made is to be kept under its name. -/
theorem keep_mem_made (name : String) (result : Host × Call × List Followup) :
    Job.keep name result.2.1 ∈ (s.made f name result).agenda := by
  unfold made follow push
  simp

/-- A call that is made is held, and its bus takes it or refuses it. -/
theorem madeCall?_spec {c : MadeCall} (hmade : s.madeCall? = some c) :
    s.agenda ≠ [] ∧ Job.keep c.name c.call ∈ s.step.agenda ∧
      c.channel = s.host.lastChannel + 1 ∧
      s.callEvent? = (c.bus.callEvent? (.execute (Task.ofMethod c.method) (.channel c.channel))).map
        (.frame c.frame, ·) := by
  unfold madeCall? at hmade
  split at hmade
  · next nested name m kept jobs hagenda =>
    obtain ⟨f, hname, hmade⟩ := Option.bind_eq_some_iff.mp hmade
    obtain ⟨frame, hf, rfl⟩ := Option.map_eq_some_iff.mp hmade
    have hstep : s.step =
        ({ s with agenda := jobs } : Session).made f kept (s.host.call f m) := by
      rw [step_cons hagenda]
      show Session.onFrame _ name _ = _
      unfold onFrame
      rw [show ({ s with agenda := jobs } : Session).frames.get? name = some f from hname]
    -- The operation is the call itself.
    have hop : s.op? = some (f, .call m) := by
      unfold op? opOf?
      rw [hagenda]
      dsimp only
      rw [hname]
      rfl
    refine ⟨by simp [hagenda], ?_, rfl, ?_⟩
    · rw [hstep, ← call_made hf m kept]
      exact keep_mem_made kept _
    · rw [callEvent?_of_op? hop]
      show (s.host.executeEvent? f _ _).map _ = _
      unfold Host.executeEvent?
      rw [hf]
      rfl
  · -- Configuring makes a call of its own, unless it mounts the frame again.
    next nested name patch kept jobs hagenda =>
    obtain ⟨f, hname, hmade⟩ := Option.bind_eq_some_iff.mp hmade
    obtain ⟨frame, hf, hmade⟩ := Option.bind_eq_some_iff.mp hmade
    split at hmade
    · cases hmade
    · next hreload =>
      cases hmade
      have hs := Host.sets_modifyFrame hf fun frame' =>
        { frame' with config := frame.config.merged patch }
      have hconfigure : s.host.configure f patch =
          (s.host.modifyFrame f fun frame' =>
            { frame' with config := frame.config.merged patch }).call f
              (.setConfig (frame.config.merged patch).toValue) := by
        unfold Host.configure
        rw [hf]
        exact if_neg hreload
      have hstep : s.step =
          ({ s with agenda := jobs } : Session).made f kept (s.host.configure f patch) := by
        rw [step_cons hagenda]
        show Session.onFrame _ name _ = _
        unfold onFrame
        rw [show ({ s with agenda := jobs } : Session).frames.get? name = some f from hname]
        rfl
      have hop : s.op? = some (f, .configure patch) := by
        unfold op? opOf?
        rw [hagenda]
        dsimp only
        rw [hname]
        rfl
      refine ⟨by simp [hagenda], ?_, rfl, ?_⟩
      · have hcall := call_made hs.frame? (.setConfig (frame.config.merged patch).toValue) kept
        rw [hstep, hconfigure]
        refine Eq.subst (motive := fun x => Job.keep kept x ∈ _) hcall ?_
        exact keep_mem_made kept _
      · rw [callEvent?_of_op? hop]
        show (s.host.configureEvent? f patch).map _ = _
        unfold Host.configureEvent? Host.executeEvent?
        rw [hf]
        dsimp only
        rw [if_neg hreload]
        rfl
  · cases hmade

/-- A session starts without channels. -/
theorem separate_start (origin : String) (allowList : Option AllowList) (defaults : Config)
    (runtime : Bool) (scripts : List (List Action)) :
    (start origin allowList defaults runtime scripts).host.Separate := by
  have hnobody : ∀ r n id,
      ¬ (start origin allowList defaults runtime scripts).host.WaitsAt r n id := by
    rintro (f | n) m id ⟨call, hcall, -⟩ <;> cases hcall
  exact
    { once := fun hw => absurd hw (hnobody _ _ _)
      opened := fun hw => absurd hw (hnobody _ _ _)
      unanswered := fun _ => rfl
      delivered := fun hv => by cases hv }

/-- A session starts without calls. -/
theorem matches_start (origin : String) (allowList : Option AllowList) (defaults : Config)
    (runtime : Bool) (scripts : List (List Action)) (f : FrameRef) :
    (start origin allowList defaults runtime scripts).host.Matches f {} where
  waiting := rfl
  answers := Nat.le_refl _
  opened hcall := by cases hcall
  replies hcall := by cases hcall

/-- A call that a bus takes is the next of those of its frame. -/
theorem taken_of_madeCall? {as : List Action} {i : ℕ} {c : MadeCall}
    (hmade : (s.after as i).madeCall? = some c) (htaken : ∃ r, c.attempt = .ok r) :
    (s.exchange as c.frame (i + 1)).taken[(s.exchange as c.frame i).taken.length]? =
      some ⟨(Task.ofMethod c.method).method, .channel c.channel⟩ := by
  obtain ⟨-, -, -, hevent⟩ := madeCall?_spec hmade
  have haccepts : c.bus.accepts (Task.ofMethod c.method) = true := Bus.accepts_iff.mpr htaken
  have hcalls : c.bus.callEvent? (.execute (Task.ofMethod c.method) (.channel c.channel)) =
      some (.taken ⟨(Task.ofMethod c.method).method, .channel c.channel⟩) := if_pos haccepts
  rw [hcalls] at hevent
  show ((s.exchange as c.frame i).follow c.frame (s.after as i).callEvent?).taken[_]? = _
  rw [hevent]
  show (if BusRef.frame c.frame = .frame c.frame then _ else _ : Exchange).taken[_]? = _
  rw [if_pos rfl]
  exact List.getElem?_concat_length

/-- Every call of a frame is settled once, by its own reply. A call that the bus refuses is settled
with the error when it is made. Any other is the next one, after those that its frame has made since
it was mounted last: as long as the frame is neither mounted again nor torn down, it is answered by the
reply at its place among those that found a call waiting, and if that has not come before, its channel
is closed for good. -/
theorem call_settles_once (origin : String) (allowList : Option AllowList) (defaults : Config)
    (runtime : Bool) (scripts : List (List Action)) (as : List Action) {i : ℕ} {c : MadeCall}
    (hmade : ((start origin allowList defaults runtime scripts).after as i).madeCall? = some c) :
    let s := start origin allowList defaults runtime scripts
    let n := (s.exchange as c.frame i).taken.length
    ∃ call, Job.keep c.name call ∈ (s.after as (i + 1)).agenda ∧
      (∀ e, call = .settled (some (.error e)) ↔ c.attempt = .error e) ∧
      ((∃ r, c.attempt = .ok r) →
        (∀ k, i < k → (s.after as k).isLive c.frame = true →
          (∀ j, i < j → j < k → ¬ (s.after as j).Drops c.frame) →
          (s.after as k).callAnswer? call = ((s.exchange as c.frame k).answers[n]?).map .ok) ∧
        ∀ j, i < j → (s.after as j).Drops c.frame →
          (∀ j', i < j' → j' < j → ¬ (s.after as j').Drops c.frame) →
          ∀ k, j < k → (s.after as k).callAnswer? call =
            some (((s.exchange as c.frame j).answers[n]?).elim (.error .channelClosed) .ok)) := by
  intro s n
  obtain ⟨hagenda, hkeep, -, -⟩ := madeCall?_spec hmade
  have hnext : s.after as (i + 1) = (s.after as i).step := after_succ_of_ne_nil hagenda
  have hsep : ∀ k, (s.after as k).host.Separate := separate_after (separate_start ..) as
  have hmatches : ∀ k, (s.after as k).host.Matches c.frame (s.exchange as c.frame k) :=
    matches_after (separate_start ..) (matches_start ..) as
  refine ⟨c.call, hnext ▸ hkeep, fun e => ?_, fun htaken => ?_⟩
  · unfold MadeCall.call
    cases c.attempt with
    | error e' => simp
    | ok r => simp
  · have hcall : c.call = .waiting c.channel := by
      obtain ⟨r, hr⟩ := htaken
      unfold MadeCall.call
      rw [hr]
    have hat := taken_of_madeCall? hmade htaken
    rw [hcall]
    refine ⟨fun k hik hlive hdrops => ?_, fun j hij hdrop hdrops k hjk => ?_⟩
    · have hstays := taken_stays hik hat hdrops
      have hreply := (hmatches k).replies hstays rfl
      show (s.after as k).waitingAnswer? c.channel = _
      unfold waitingAnswer?
      rw [hreply]
      cases hanswer : (s.exchange as c.frame k).answers[n]? with
      | some v => rfl
      | none =>
        -- The call waits still.
        have hle := List.getElem?_eq_none_iff.mp hanswer
        rw [isAwaited_of_waitsAt ((hmatches k).waitsAt hstays rfl hle) hlive]
        rfl
    · have hstays := taken_stays hij hat hdrops
      have hstep := after_calls s as j
      unfold Drops at hdrop
      rw [hdrop] at hstep
      have hclosed := (hmatches j).closed (hsep j) hstep hstays rfl
      exact waitingAnswer?_closed (closed_after hjk hclosed)

/-- A frame is mounted and its iframe loads; a call is made, answered, and asked for its answer. -/
def askedOnce : List Action :=
  [.page (.insert "f" "slot"),
    .frame (.openFrame "A" none (.ok (Config.ofFields
      [("frameId", .string "f"), ("src", .string "https://app.example.com"),
        ("checkCSP", .bool false), ("noLoader", .bool true)]))),
    .page (.fireLoad (.iframeOf "A")), .frame (.call "A" .getUserInfo "a"),
    .page (.dispatchJson (.object [("frameId", .string "f"), ("type", .string "onMethodReturn"),
      ("methodReturnData", .int 1)]))]

/-- The call waits until the reply is handled, and is settled with it then. -/
theorem call_settled_by_its_reply :
    let s := start "https://host.example.com" none Config.empty false []
    ∃ c call, (s.after askedOnce 10).madeCall? = some c ∧
      Job.keep "a" call ∈ (s.after askedOnce 11).agenda ∧
      (s.after askedOnce 16).callAnswer? call = none ∧
      ((s.after askedOnce 17).callAnswer? call).map (fun answer => answer.toOption.map Value.text) =
        some (some "1") := by
  intro s
  have hmade : (s.after askedOnce 10).madeCall?.map (fun c =>
      (c.frame, c.name, c.attempt.toOption.isSome, (s.exchange askedOnce c.frame 10).taken.length)) =
        some (0, "a", true, 0) := by decide +kernel
  have hlive : (s.after askedOnce 16).isLive 0 = true ∧ (s.after askedOnce 17).isLive 0 = true := by
    decide +kernel
  have hanswers : (s.exchange askedOnce 0 16).answers.map Value.text = [] ∧
      (s.exchange askedOnce 0 17).answers.map Value.text = ["1"] := by decide +kernel
  have hdrops : ∀ j < 17, 10 < j → ¬ (s.after askedOnce j).Drops 0 := by decide +kernel
  obtain ⟨c, hc, hfields⟩ := Option.map_eq_some_iff.mp hmade
  simp only [Prod.mk.injEq] at hfields
  obtain ⟨hframe, hname, htaken, hfirst⟩ := hfields
  have hok : ∃ r, c.attempt = .ok r := by
    cases hattempt : c.attempt with
    | ok r => exact ⟨r, rfl⟩
    | error e =>
      rw [hattempt] at htaken
      cases htaken
  obtain ⟨call, hkeep, -, hanswered⟩ := call_settles_once "https://host.example.com" none Config.empty
    false [] askedOnce hc
  obtain ⟨hwaits, -⟩ := hanswered hok
  change ∀ k, 10 < k → (s.after askedOnce k).isLive c.frame = true →
    (∀ j, 10 < j → j < k → ¬ (s.after askedOnce j).Drops c.frame) →
    (s.after askedOnce k).callAnswer? call =
      ((s.exchange askedOnce c.frame k).answers[(s.exchange askedOnce c.frame 10).taken.length]?).map
        .ok at hwaits
  -- The first call that the frame takes, so the first reply is its own.
  rw [hfirst, hframe] at hwaits
  have hbefore := hwaits 16 (by decide) hlive.1 fun j hj hlt => hdrops j (by omega) hj
  have hafter := hwaits 17 (by decide) hlive.2 fun j hj hlt => hdrops j hlt hj
  refine ⟨c, call, hc, hname ▸ hkeep, ?_, ?_⟩
  · rw [hbefore, List.map_eq_nil_iff.mp hanswers.1]
    rfl
  · rw [hafter]
    obtain ⟨v, hv, htext⟩ := List.map_eq_singleton_iff.mp hanswers.2
    rw [hv]
    exact congrArg (fun text => some (some text)) htext

end Session

end FrameHost
