import FrameHost.Proofs.InboundFormat

/-!
# How undecodable texts are recognised

A text that is no message is decoded to a message that says so, and this message is recognised by its
frame ID and its command name. Both are members that any message may have. So every undecodable text
is recognised, and besides these the texts of messages that have both members as well
(`Inbound.Poses`): such a message is taken for an undecodable text, whatever its kind and its error
(`recognised_iff`).
-/

namespace FrameHost.Inbound

open Json (Value)

variable {text : String} {m : Inbound} {r : Refusal} {ms : List (String × Value)}

/-- The text writes an inbound message. -/
def IsMessage (text : String) : Prop :=
  ∃ ms m, Value.parse text = .ok (.object ms) ∧ Describes ms m

/-- The text writes an object with the frame ID and the command name by which undecodable texts are
recognised. -/
def Poses (text : String) : Prop :=
  ∃ ms, Value.parse text = .ok (.object ms) ∧
    Value.member? "frameId" ms = some (.string parseErrorFrame) ∧
    Value.member? "commandName" ms = some (.string parseErrorCommand)

/-- The message is the decoder's own: it is an error, and its text says why the text is refused. -/
structure TellsRefusal (text : String) (m : Inbound) : Prop where
  kind : m.kind = .error
  detail : ∃ r, read text = .error r ∧ m.errorMessage = some (r.detail text)

/-- The text is recognised exactly if it is no message, and what is recognised is the decoder's own. -/
structure RecognisedRightly (text : String) : Prop where
  iff : (decode text).isParseError = true ↔ ¬ IsMessage text
  tells : (decode text).isParseError = true → TellsRefusal text (decode text)

/-! ## The two members -/

/-- What is read from a member that may be missing or null is told by the member. -/
theorem eq_some_iff_of_isText {k s : String} {t : Option String}
    (ht : Option.Rel IsText (Value.present? k ms) t) :
    t = some s ↔ Value.member? k ms = some (.string s) := by
  unfold Value.present? at ht
  rcases hk : Value.member? k ms with _ | v
  · rw [hk] at ht
    cases ht
    simp
  · rw [hk] at ht
    cases v with
    | null =>
      cases ht
      simp
    -- A member that is there is a text, by what the format allows.
    | bool | number | string | array | object =>
      rcases ht with ⟨hv⟩
      simp_all [IsText]

/-- A message has a frame ID that is not empty exactly when its member is that text. -/
theorem Describes.frameId_eq_iff (hm : Describes ms m) {s : String} (hs : s ≠ "") :
    m.frameId = s ↔ Value.member? "frameId" ms = some (.string s) := by
  obtain ⟨t, ht, hframeId⟩ := hm.frameId
  rw [← eq_some_iff_of_isText ht, hframeId]
  cases t with
  | none => simp [Ne.symm hs]
  | some t => simp

/-- A message has a command's name exactly when its member is that text. -/
theorem Describes.commandName_eq_iff (hm : Describes ms m) {s : String} :
    m.commandName = some s ↔ Value.member? "commandName" ms = some (.string s) :=
  eq_some_iff_of_isText hm.commandName

/-- A message counts as a parse error by two of its members alone. -/
theorem Describes.isParseError_iff (hm : Describes ms m) : m.isParseError = true ↔
    Value.member? "frameId" ms = some (.string parseErrorFrame) ∧
      Value.member? "commandName" ms = some (.string parseErrorCommand) := by
  have hne : parseErrorFrame ≠ "" := by decide
  unfold isParseError
  rw [Bool.and_eq_true, beq_iff_eq, beq_iff_eq, hm.frameId_eq_iff hne, hm.commandName_eq_iff]

/-! ## Texts -/

/-- What is no message is refused when it is read. -/
theorem not_isMessage_iff : ¬ IsMessage text ↔ ∃ r, read text = .error r := by
  constructor
  · intro hnone
    cases hread : read text with
    | ok m =>
      obtain ⟨ms, hparse, hm⟩ := read_eq_ok.mp hread
      exact absurd ⟨ms, m, hparse, hm⟩ hnone
    | error r => exact ⟨r, rfl⟩
  · rintro ⟨r, hr⟩ ⟨ms, m, hparse, hm⟩
    cases hr.symm.trans (read_eq_ok.mpr ⟨ms, hparse, hm⟩)

/-- A refused text is decoded to the parse error that tells the refusal. -/
theorem decode_of_refused (hr : read text = .error r) : decode text = parseError (r.detail text) := by
  unfold decode
  rw [hr]

/-- A text that is refused is recognised, and the message says why it is refused. -/
theorem recognised_of_refused (hr : read text = .error r) :
    (decode text).isParseError = true ∧ TellsRefusal text (decode text) := by
  rw [decode_of_refused hr]
  exact ⟨rfl, rfl, r, hr, rfl⟩

/-- A message is taken for a refused text exactly if it has the two members, and even then it is not
the decoder's own. -/
theorem recognised_of_isMessage (h : IsMessage text) :
    ((decode text).isParseError = true ↔ Poses text) ∧ ¬ TellsRefusal text (decode text) := by
  obtain ⟨ms, m, hparse, hm⟩ := h
  have hread : read text = .ok m := read_eq_ok.mpr ⟨ms, hparse, hm⟩
  have hdecode : decode text = m := (decode_exact text).1 ms m hparse hm
  refine ⟨?_, fun htells => ?_⟩
  · -- The two members decide, and the text names one object.
    rw [hdecode, hm.isParseError_iff]
    refine ⟨fun hmembers => ⟨ms, hparse, hmembers⟩, ?_⟩
    rintro ⟨ms', hparse', hmembers⟩
    cases hparse.symm.trans hparse'
    exact hmembers
  · obtain ⟨r, hr, -⟩ := htells.detail
    cases hread.symm.trans hr

/-- A text is recognised rightly exactly if it is not a message that poses. A text that is no message
always is, and why it is refused is found in what it is decoded to; a message is taken for a refused
text exactly if it poses, and then nothing in it comes from the decoder. -/
theorem recognised_iff (text : String) :
    (RecognisedRightly text ↔ ¬ (IsMessage text ∧ Poses text)) ∧
    (¬ IsMessage text → (decode text).isParseError = true ∧ TellsRefusal text (decode text)) ∧
    (IsMessage text →
      ((decode text).isParseError = true ↔ Poses text) ∧ ¬ TellsRefusal text (decode text)) := by
  have hrefused : ¬ IsMessage text →
      (decode text).isParseError = true ∧ TellsRefusal text (decode text) := fun hnone => by
    obtain ⟨r, hr⟩ := not_isMessage_iff.mp hnone
    exact recognised_of_refused hr
  refine ⟨⟨?_, fun hhonest => ?_⟩, hrefused, recognised_of_isMessage⟩
  · -- A message that poses is recognised, though it is none.
    rintro hright ⟨hmessage, hposes⟩
    have hrecognised := (recognised_of_isMessage hmessage).1.mpr hposes
    exact hright.iff.mp hrecognised hmessage
  · -- And no other text is recognised wrongly.
    by_cases hmessage : IsMessage text
    · have hnot : ¬ (decode text).isParseError = true := fun hrecognised =>
        hhonest ⟨hmessage, (recognised_of_isMessage hmessage).1.mp hrecognised⟩
      exact ⟨⟨fun h => absurd h hnot, fun h => absurd hmessage h⟩, fun h => absurd h hnot⟩
    · obtain ⟨hrecognised, htells⟩ := hrefused hmessage
      exact ⟨⟨fun _ => hmessage, fun _ => hrecognised⟩, fun _ => htells⟩

/-- A message without a kind whose frame ID and command name are those of an undecodable text. -/
def posingText : String := "\x7b\"frameId\":\"error\",\"commandName\":\"parseMessageData\"\x7d"

/-- A message that is recognised as an undecodable text, though it is neither an error nor has a text. -/
theorem message_taken_for_refusal :
    IsMessage posingText ∧ (decode posingText).isParseError = true ∧
      (decode posingText).kind = .other "" ∧ (decode posingText).errorMessage = none ∧
      ¬ RecognisedRightly posingText := by
  have hread : read posingText = .ok { blank with
      frameId := parseErrorFrame, commandName := some parseErrorCommand } := by rfl
  -- It is a message: it decodes.
  have hmessage : IsMessage posingText := by
    obtain ⟨ms, hms⟩ := read_eq_ok.mp hread
    exact ⟨ms, _, hms⟩
  have hdecode : decode posingText = { blank with
      frameId := parseErrorFrame, commandName := some parseErrorCommand } := by rfl
  have hrecognised : (decode posingText).isParseError = true := by
    rw [hdecode]
    rfl
  exact ⟨hmessage, hrecognised, by rw [hdecode]; rfl, by rw [hdecode]; rfl,
    fun hright => hright.iff.mp hrecognised hmessage⟩

end FrameHost.Inbound
