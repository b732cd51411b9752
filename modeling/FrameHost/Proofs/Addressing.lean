import FrameHost.Proofs.InboundFormat
import FrameHost.Proofs.Receivers

/-!
# Messages that reach a frame

A message is addressed by the member `frameId` of its text (`Inbound.Addresses`). A frame passes over
what is addressed to another frame ID and over what is not addressed at all, as no frame ID is empty.
A text that is no message is decoded to an error message for the frame ID `error`, and a frame with
this very ID takes it for its own (`Host.handle_undecodable`): its handler for errors is called with
the complaint of the decoder. That is the only way for anything else to reach a frame
(`heeds_addressed_iff`).
-/

namespace FrameHost

open Json (Value)

/-- No frame ID is empty. -/
theorem Config.frameId_ne_empty (c : Config) : c.frameId ≠ "" := by
  unfold Config.frameId
  cases htext : c.text? "frameId" with
  | none => decide
  | some s =>
    obtain ⟨-, hs⟩ := Option.filter_eq_some_iff.mp htext
    exact of_decide_eq_true hs

namespace Inbound

variable {text frameId : String}

/-- The data is the text of an object whose member `frameId`, the last one of this name, is the text
`frameId`. -/
def Addresses (data : Value) (frameId : String) : Prop :=
  ∃ text ms, data = .string text ∧ Value.parse text = .ok (.object ms) ∧
    Value.member? "frameId" ms = some (.string frameId)

/-- A message that is read tells where it is addressed. -/
theorem addresses_of_read {m : Inbound} (hread : read text = .ok m) (hid : m.frameId ≠ "") :
    Addresses (.string text) m.frameId := by
  obtain ⟨ms, hparse, hm⟩ := read_eq_ok.mp hread
  obtain ⟨s, hs, hframeId⟩ := hm.frameId
  refine ⟨text, ms, rfl, hparse, ?_⟩
  cases s with
  | none => exact absurd hframeId hid
  | some s =>
    -- A member that is present is not null, and then it is the text.
    have hmember : Value.present? "frameId" ms = some (.string s) := by
      cases hpresent : Value.present? "frameId" ms with
      | none =>
        rw [hpresent] at hs
        cases hs
      | some v =>
        rw [hpresent] at hs
        cases hs with
        | some hv => rw [show v = .string s from hv]
    obtain ⟨v, hv, hnonNull⟩ := Option.bind_eq_some_iff.mp hmember
    have hsame : v = .string s := by
      cases v <;> cases hnonNull
      rfl
    rw [hv, hsame, hframeId]
    rfl

end Inbound

namespace Host

variable {h : Host} {f : FrameRef} {frame : Frame} {text : String}

/-- A connected frame dispatches a text whose frame ID is its own, and lets every other text pass.
-/
theorem handle_string (hf : h.frame? f = some frame) :
    h.handle f (.string text) =
      if (Inbound.decode text).frameId = frame.frameId then h.dispatch f (Inbound.decode text)
      else (h, []) := by
  unfold handle
  rw [hf]
  rfl

/-- An event of a frame calls the handler its configuration names for it, if there is one. -/
theorem emit_of_frame? (hf : h.frame? f = some frame) (event : String) (v : Value) :
    h.emit f event v = ((frame.handler? event).map fun cb => .invoke cb v).toList := by
  unfold emit
  rw [hf]
  rfl

/-- What a text that is no message does to a frame: nothing, unless its frame ID is `error`; then the
handler for errors is called, if there is one, and nothing else happens. -/
theorem handle_undecodable (hf : h.frame? f = some frame) {refusal : Inbound.Refusal}
    (hread : Inbound.read text = .error refusal) :
    h.handle f (.string text) = (h,
      if frame.frameId = Inbound.parseErrorFrame then
        h.emit f Event.appError (.string (refusal.detail text))
      else []) := by
  have hdecode : Inbound.decode text = Inbound.parseError (refusal.detail text) := by
    unfold Inbound.decode
    rw [hread]
  have hparse : (Inbound.parseError (refusal.detail text)).frameId = Inbound.parseErrorFrame := rfl
  -- A text that cannot be read has the frame ID of parse errors.
  rw [handle_string hf, hdecode, hparse]
  by_cases hid : frame.frameId = Inbound.parseErrorFrame
  · rw [if_pos hid, if_pos hid.symm]
    rfl
  · rw [if_neg hid, if_neg (Ne.symm hid)]

/-- Whatever is heeded by a frame of the host is addressed to the frame ID of this frame. -/
def HeedsAddressed (h : Host) : Prop :=
  ∀ f frame, h.frame? f = some frame → ∀ data, h.handle f data ≠ (h, []) →
    Inbound.Addresses data frame.frameId

/-- What is heeded and not addressed is no message, and the frame ID is that of such messages. -/
theorem addresses_of_handle (hf : h.frame? f = some frame) {data : Value}
    (hheeds : h.handle f data ≠ (h, [])) :
    Inbound.Addresses data frame.frameId ∨ ∃ text refusal, data = .string text ∧
      Inbound.read text = .error refusal ∧ frame.frameId = Inbound.parseErrorFrame := by
  obtain ⟨text, htext, hid⟩ := frameId_of_handle hf hheeds
  have hdata : data = .string text := by
    cases data <;> cases htext
    rfl
  subst hdata
  cases hread : Inbound.read text with
  -- No frame has an empty ID, so one that is read was written in the text.
  | ok m =>
    have hdecode : Inbound.decode text = m := by
      unfold Inbound.decode
      rw [hread]
    rw [hdecode] at hid
    have hne : m.frameId ≠ "" := hid ▸ frame.config.frameId_ne_empty
    exact .inl (hid ▸ Inbound.addresses_of_read hread hne)
  | error refusal =>
    rw [handle_undecodable hf hread] at hheeds
    refine .inr ⟨text, refusal, rfl, hread, ?_⟩
    by_contra hother
    rw [if_neg hother] at hheeds
    exact hheeds rfl

/-- Only addressed messages are heeded, exactly if no frame with the ID `error` handles errors. -/
theorem heedsAddressed_iff : h.HeedsAddressed ↔
    ∀ f frame, h.frame? f = some frame → frame.frameId = Inbound.parseErrorFrame →
      frame.handler? Event.appError = none := by
  constructor
  · intro haddressed f frame hf hid
    by_contra hhandler
    -- The empty text is no message, and the handler is called for it.
    have hread : Inbound.read "" = .error (.notJson ⟨.endOfValue, 1, 0⟩) := by rfl
    have hheeds : h.handle f (.string "") ≠ (h, []) := by
      obtain ⟨cb, hcb⟩ := Option.ne_none_iff_exists'.mp hhandler
      rw [handle_undecodable hf hread, if_pos hid, emit_of_frame? hf, hcb]
      intro heq
      cases (Prod.mk.inj heq).2
    obtain ⟨text, ms, htext, hparse, -⟩ := haddressed f frame hf _ hheeds
    cases htext
    cases hparse
  · intro hnone f frame hf data hheeds
    rcases addresses_of_handle hf hheeds with haddressed | ⟨text, refusal, rfl, hread, hid⟩
    · exact haddressed
    · rw [handle_undecodable hf hread, if_pos hid, emit_of_frame? hf, hnone f frame hf hid] at hheeds
      exact absurd rfl hheeds

end Host

namespace Session

/-- Up to the end of a run only messages that are addressed to a frame reach it, exactly if at no
time a frame with the ID `error` has a handler for errors. Whatever else reaches a frame is a text
that is no message, and the frame has this ID: the text calls the handler and does nothing else, and
to a frame with another ID it does nothing at all. -/
theorem heeds_addressed_iff (origin : String) (allowList : Option AllowList) (defaults : Config)
    (runtime : Bool) (scripts : List (List Action)) (as : List Action) (i : ℕ) :
    let s := start origin allowList defaults runtime scripts
    ((∀ j ≤ i, (s.after as j).host.HeedsAddressed) ↔
      ∀ j ≤ i, ∀ f frame, (s.after as j).host.frame? f = some frame →
        frame.frameId = Inbound.parseErrorFrame → frame.handler? Event.appError = none) ∧
    (∀ j f frame data, (s.after as j).host.frame? f = some frame →
      (s.after as j).host.handle f data ≠ ((s.after as j).host, []) →
      Inbound.Addresses data frame.frameId ∨ ∃ text refusal, data = .string text ∧
        Inbound.read text = .error refusal ∧ frame.frameId = Inbound.parseErrorFrame) ∧
    ∀ j f frame text refusal, (s.after as j).host.frame? f = some frame →
      Inbound.read text = .error refusal →
      (s.after as j).host.handle f (.string text) = ((s.after as j).host,
        if frame.frameId = Inbound.parseErrorFrame then
          (s.after as j).host.emit f Event.appError (.string (refusal.detail text))
        else []) := by
  intro s
  refine ⟨forall₂_congr fun j _ => Host.heedsAddressed_iff, ?_, ?_⟩
  · intro j f frame data hf hheeds
    exact Host.addresses_of_handle hf hheeds
  · intro j f frame text refusal hf hread
    exact Host.handle_undecodable hf hread

/-- A text that is not JSON. -/
def brokenText : String := "\x7bnot json"

/-- A frame with the ID `error` is mounted and connected, and the broken text is dispatched. -/
def mountedAsError : List Action :=
  [.page (.insert "error" "slot"),
    .frame (.openFrame "A" none (.ok ((Config.ofFields
      [("frameId", .string "error"), ("src", .string "https://app.example.com"),
        ("checkCSP", .bool false), ("noLoader", .bool true)]).on Event.appError ⟨"err", false, 0⟩))),
    .page (.fireLoad (.iframeOf "A")),
    .page (.dispatch "https://app.example.com" (.string brokenText))]

/-- The broken text is addressed to nobody, and the handler of the frame is called for it. -/
theorem broken_text_reaches_error :
    let s := start "https://host.example.com" none Config.empty false []
    let t := s.after mountedAsError 11
    let u := s.after mountedAsError 17
    (∀ frameId, ¬ Inbound.Addresses (.string brokenText) frameId) ∧
      t.host.handle 0 (.string brokenText) ≠ (t.host, []) ∧ ¬ t.host.HeedsAddressed ∧
      t.records.length = 0 ∧ u.agenda.length = 0 ∧ u.records.map Record.tag = ["err"] := by
  intro s t u
  have hbefore : t.records.length = 0 := by decide +kernel
  have hafter : (u.agenda.length, u.records.map Record.tag) = (0, ["err"]) := by decide +kernel
  have hframe : (t.host.frame? 0).map (fun frame =>
      (frame.frameId, frame.handler? Event.appError)) =
        some (Inbound.parseErrorFrame, some ⟨"err", false, 0⟩) := by decide +kernel
  have hread : Inbound.read brokenText = .error (.notJson ⟨.keyNotString, 1, 2⟩) := by rfl
  clear_value t u
  obtain ⟨frame, hf, hfields⟩ := Option.map_eq_some_iff.mp hframe
  obtain ⟨hid, hhandler⟩ := Prod.mk.inj hfields
  -- The text is no JSON, so it is for nobody.
  have hnobody : ∀ frameId, ¬ Inbound.Addresses (.string brokenText) frameId := by
    rintro frameId ⟨text, ms, htext, hparse, -⟩
    cases htext
    cases hparse
  have hheeds : t.host.handle 0 (.string brokenText) ≠ (t.host, []) := by
    intro hnothing
    -- The frame would have nothing to call, yet it has a handler.
    have hcalls : t.host.emit 0 Event.appError (.string (Inbound.Refusal.detail brokenText
        (.notJson ⟨.keyNotString, 1, 2⟩))) = [] := by
      have hhandle := Host.handle_undecodable hf hread
      rw [if_pos hid, hnothing] at hhandle
      exact (Prod.mk.inj hhandle).2.symm
    rw [Host.emit_of_frame? hf, hhandler] at hcalls
    cases hcalls
  have hnot : ¬ t.host.HeedsAddressed := fun haddressed =>
    hnobody frame.frameId (haddressed 0 frame hf _ hheeds)
  obtain ⟨hover, hrecords⟩ := Prod.mk.inj hafter
  exact ⟨hnobody, hheeds, hnot, hbefore, hover, hrecords⟩

end Session

end FrameHost
