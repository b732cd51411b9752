import FrameHost.Proofs.ReplyData

/-!
# The format of inbound messages

`Inbound.Describes` says which objects write a message and which message that is, field by field: a
member may be missing, null or of one shape, an event and a reported error may also come as arrays of
their fields, and what else an object has does not matter. `decode_exact` says that decoding follows
this format and nothing else: an object that describes a message is decoded to it, and every other
text is decoded to an error message.
-/

namespace FrameHost

open Json (Value Holds Reads)

namespace Inbound

variable {v : Value} {v? : Option Value} {ms : List (String × Value)} {m : Inbound}

/-! ## The format -/

/-- The value writes a text. -/
def IsText (v : Value) (s : String) : Prop := v = .string s

/-- The value writes a code: a signed integer of 64 bits. -/
def IsCode (v : Value) (n : Int) : Prop :=
  v = .int n ∧ -Nat.pow 2 63 ≤ n ∧ n < Nat.pow 2 63

/-- A member that is missing, for the empty text, or that is a text; it may not be null. -/
inductive TextOrMissing : Option Value → String → Prop
  | missing : TextOrMissing none ""
  | text (s : String) : TextOrMissing (some (.string s)) s

/-- The value writes an event: an object whose member `event` is a text, or an array of that text
and at most the data. -/
inductive WritesEvent : Value → EventReturn → Prop
  | object {ms : List (String × Value)} {s : String}
      (hevent : Value.member? "event" ms = some (.string s)) :
      WritesEvent (.object ms) ⟨s, Value.present? "data" ms⟩
  | name (s : String) : WritesEvent (.array [.string s]) ⟨s, none⟩
  | pair (s : String) (v : Value) : WritesEvent (.array [.string s, v]) ⟨s, v.nonNull?⟩

/-- The value writes an error: an object with at most a text and a code, or an array of at most
these. -/
inductive WritesError : Value → ReportedError → Prop
  | object {ms : List (String × Value)} {s : String} {c : Option Int}
      (hmessage : TextOrMissing (Value.member? "message" ms) s)
      (hcode : Option.Rel IsCode (Value.present? "code" ms) c) : WritesError (.object ms) ⟨s, c⟩
  | nothing : WritesError (.array []) ⟨"", none⟩
  | message (s : String) : WritesError (.array [.string s]) ⟨s, none⟩
  | pair (s : String) {v : Value} {c : Option Int} (hcode : Option.Rel IsCode v.nonNull? c) :
      WritesError (.array [.string s, v]) ⟨s, c⟩

/-- The members of an object write a message. -/
structure Describes (ms : List (String × Value)) (m : Inbound) : Prop where
  frameId : ∃ s, Option.Rel IsText (Value.present? "frameId" ms) s ∧ m.frameId = s.getD ""
  kind : ∃ s, TextOrMissing (Value.member? "type" ms) s ∧ m.kind = .ofName s
  commandName : Option.Rel IsText (Value.present? "commandName" ms) m.commandName
  commandData : m.commandData = Value.present? "commandData" ms
  returnData : m.returnData = Value.present? replyKey ms
  event : Option.Rel WritesEvent (Value.present? "eventReturnData" ms) m.event
  error : Option.Rel WritesError (Value.present? "error" ms) m.error

/-! ## Texts and codes -/

/-- Exactly the texts are read as a string. -/
theorem asString_eq_ok {s : String} : Json.asString v = .ok s ↔ IsText v s := by
  unfold IsText
  cases v <;> simp [Json.asString]

/-- Exactly the whole numbers of the range are read as a code. -/
theorem asSigned64_eq_ok {n : Int} : Json.asSigned64 v = .ok n ↔ IsCode v n := by
  unfold IsCode Value.int Json.asSigned64 Json.asInt
  rcases v with _ | _ | (k | _) | _ | _ | _ <;> try simp
  constructor
  · intro h
    split at h
    · next hk =>
      cases h
      refine ⟨rfl, ?_, ?_⟩ <;> omega
    · cases h
  · rintro ⟨rfl, hlow, hhigh⟩
    rw [if_pos]
    constructor <;> omega

/-- A text field holds the text, or the empty one where it is missing. -/
theorem holds_text {s : String} :
    Holds Json.asString "" v? s ↔ TextOrMissing v? s := by
  constructor
  · intro h
    cases v? with
    | none =>
      have hs : s = "" := h
      exact hs ▸ .missing
    | some v =>
      have hv : v = .string s := asString_eq_ok.mp h
      exact hv ▸ .text s
  · rintro (_ | s) <;> rfl

/-- An optional text holds the text, or nothing where it is missing or null. -/
theorem holds_optionalText {s : Option String} :
    Holds (Json.asOption Json.asString) none v? s ↔
      Option.Rel IsText (v?.bind Value.nonNull?) s :=
  Json.holds_asOption fun _ _ _ => asString_eq_ok

/-- An optional code holds the number, or nothing where it is missing or null. -/
theorem holds_optionalCode {c : Option Int} :
    Holds (Json.asOption Json.asSigned64) none v? c ↔
      Option.Rel IsCode (v?.bind Value.nonNull?) c :=
  Json.holds_asOption fun _ _ _ => asSigned64_eq_ok

/-- An optional code is read as nothing from null, and as the number otherwise. -/
theorem optionalCode_eq_ok {c : Option Int} :
    Json.asOption Json.asSigned64 v = .ok c ↔ Option.Rel IsCode v.nonNull? c :=
  @holds_optionalCode (some v) c

/-! ## Events -/

/-- The fields of an event. -/
def eventFields : List (Json.Field EventReturn) :=
  [⟨"event", fun v r => (Json.asString v).map fun s => { r with event := s }⟩,
    ⟨"data", fun v r => (Json.asOption .ok v).map fun d => { r with data := d }⟩]

/-- The event's name is read as a string. -/
theorem reads_event_event : Reads eventFields "event" EventReturn.event Json.asString := by
  constructor <;>
    simp +contextual [eventFields, Json.Shaped.map_eq_ok, Json.Shaped.map_map,
      Json.Shaped.map_self]

/-- The event's data are read as they are. -/
theorem reads_event_data : Reads eventFields "data" EventReturn.data (Json.asOption .ok) := by
  constructor <;>
    simp +contextual [eventFields, Json.Shaped.map_eq_ok, Json.Shaped.map_map,
      Json.Shaped.map_self]

/-- An event is read as a record of its two fields, or from its name alone. -/
theorem eventShape_eq :
    eventShape = Json.asRecord "EventReturn" eventFields (some "event") ⟨"", none⟩ := rfl

/-- What the members of an object make of an event. -/
theorem setMembers_event (hms : Value.Ordered ms) {e : EventReturn} :
    Json.setMembers eventFields ms ⟨"", none⟩ = .ok e ↔
      Holds Json.asString "" (Value.member? "event" ms) e.event ∧
        Holds (Json.asOption .ok) none (Value.member? "data" ms) e.data := by
  refine Json.setMembers_eq_ok
    (P := fun e : EventReturn => Holds Json.asString "" (Value.member? "event" ms) e.event ∧
      Holds (Json.asOption .ok) none (Value.member? "data" ms) e.data) hms ?_ ?_ ?_
  · exact fun e he => ⟨reads_event_event.setMembers hms he, reads_event_data.setMembers hms he⟩
  · intro e he f hf
    rcases List.mem_pair.mp hf with rfl | rfl
    · exact reads_event_event.accepts he.1 hf rfl
    · exact reads_event_data.accepts he.2 hf rfl
  · rintro ⟨s, d⟩ ⟨s', d'⟩ he he'
    rw [EventReturn.mk.injEq]
    exact ⟨he.1.unique he'.1, he.2.unique he'.2⟩

/-- An event is read exactly from what writes it. -/
theorem eventShape_eq_ok (hv : v.Canonical) {e : EventReturn} :
    eventShape v = .ok e ↔ WritesEvent v e := by
  rw [eventShape_eq]
  constructor
  · intro h
    obtain ⟨s, d⟩ := e
    cases v with
    | object ms =>
      obtain ⟨hset, hrequired⟩ := Json.asRecord_object_eq_ok.mp h
      obtain ⟨hevent, hdata⟩ := (setMembers_event hv.ordered).mp hset
      obtain ⟨w, hw⟩ := Option.isSome_iff_exists.mp (hrequired "event" rfl)
      rw [hw] at hevent
      have htext : w = .string s := asString_eq_ok.mp hevent
      have hd : d = Value.present? "data" ms := Json.holds_asOption_ok.mp hdata
      subst htext hd
      exact .object hw
    | array vs =>
      -- An event has two fields, so a longer array is refused whatever is in it.
      obtain ⟨hset, hlength, hempty⟩ := Json.asRecord_array_eq_ok.mp h
      match vs with
      | [] => cases hempty rfl
      | [a] =>
        cases a <;> cases hset
        exact .name _
      | [a, w] =>
        cases a <;> try cases hset
        simp only [eventFields, Json.setItems, Json.asString, Json.asOption_ok, Except.map] at hset
        cases hset
        exact .pair _ w
      | _ :: _ :: _ :: _ =>
        simp [eventFields] at hlength
    | _ => cases h
  · -- The other way: each form is read into the fields it names.
    rintro (⟨hevent⟩ | s | ⟨s, w⟩)
    · refine Json.asRecord_object_eq_ok.mpr ⟨(setMembers_event hv.ordered).mpr ⟨?_, ?_⟩, ?_⟩
      · rw [hevent]
        rfl
      · exact Json.holds_asOption_ok.mpr rfl
      · rintro _ ⟨⟩
        rw [hevent]
        rfl
    · rfl
    · cases w <;> rfl

/-! ## Errors -/

/-- The fields of a reported error. -/
def errorFields : List (Json.Field ReportedError) :=
  [⟨"message", fun v r => (Json.asString v).map fun s => { r with message := s }⟩,
    ⟨"code", fun v r => (Json.asOption Json.asSigned64 v).map fun n => { r with code := n }⟩]

/-- The error's message is read as a string. -/
theorem reads_error_message :
    Reads errorFields "message" ReportedError.message Json.asString := by
  constructor <;>
    simp +contextual [errorFields, Json.Shaped.map_eq_ok, Json.Shaped.map_map,
      Json.Shaped.map_self]

/-- The error's code is read as an optional whole number. -/
theorem reads_error_code :
    Reads errorFields "code" ReportedError.code (Json.asOption Json.asSigned64) := by
  constructor <;>
    simp +contextual [errorFields, Json.Shaped.map_eq_ok, Json.Shaped.map_map,
      Json.Shaped.map_self]

/-- An error is read as a record of its two fields. -/
theorem errorShape_eq : errorShape = Json.asRecord "BusError" errorFields none ⟨"", none⟩ := rfl

/-- What the members of an object make of a reported error. -/
theorem setMembers_error (hms : Value.Ordered ms) {e : ReportedError} :
    Json.setMembers errorFields ms ⟨"", none⟩ = .ok e ↔
      TextOrMissing (Value.member? "message" ms) e.message ∧
        Option.Rel IsCode (Value.present? "code" ms) e.code := by
  rw [← holds_text, Value.present?, ← holds_optionalCode]
  refine Json.setMembers_eq_ok
    (P := fun e : ReportedError => Holds Json.asString "" (Value.member? "message" ms) e.message ∧
      Holds (Json.asOption Json.asSigned64) none (Value.member? "code" ms) e.code) hms ?_ ?_ ?_
  · exact fun e he => ⟨reads_error_message.setMembers hms he, reads_error_code.setMembers hms he⟩
  · intro e he f hf
    rcases List.mem_pair.mp hf with rfl | rfl
    · exact reads_error_message.accepts he.1 hf rfl
    · exact reads_error_code.accepts he.2 hf rfl
  · rintro ⟨s, c⟩ ⟨s', c'⟩ he he'
    rw [ReportedError.mk.injEq]
    exact ⟨he.1.unique he'.1, he.2.unique he'.2⟩

/-- A reported error is read exactly from what writes it. -/
theorem errorShape_eq_ok (hv : v.Canonical) {e : ReportedError} :
    errorShape v = .ok e ↔ WritesError v e := by
  rw [errorShape_eq]
  constructor
  · intro h
    obtain ⟨s, c⟩ := e
    cases v with
    | object ms =>
      obtain ⟨hset, -⟩ := Json.asRecord_object_eq_ok.mp h
      obtain ⟨hmessage, hcode⟩ := (setMembers_error hv.ordered).mp hset
      exact .object hmessage hcode
    | array vs =>
      -- Both fields of an error have defaults, so an array may end early.
      obtain ⟨hset, hlength, -⟩ := Json.asRecord_array_eq_ok.mp h
      match vs with
      | [] =>
        cases hset
        exact .nothing
      | [a] =>
        cases a <;> cases hset
        exact .message _
      | [a, w] =>
        cases a <;> try cases hset
        -- The code is the one field of an array that can be refused by its number.
        cases hw : Json.asOption Json.asSigned64 w with
        | error =>
          simp only [errorFields, Json.setItems, Json.asString, hw, Except.map] at hset
          cases hset
        | ok c' =>
          simp only [errorFields, Json.setItems, Json.asString, hw, Except.map] at hset
          cases hset
          exact .pair _ (optionalCode_eq_ok.mp hw)
      | _ :: _ :: _ :: _ =>
        simp [errorFields] at hlength
    | _ => cases h
  · rintro (⟨hmessage, hcode⟩ | _ | s | ⟨s, hcode⟩)
    · next s c =>
      have hset : Json.setMembers errorFields _ ⟨"", none⟩ = .ok ⟨s, c⟩ :=
        (setMembers_error hv.ordered).mpr ⟨hmessage, hcode⟩
      exact Json.asRecord_object_eq_ok.mpr ⟨hset, fun k hk => nomatch hk⟩
    · rfl
    · rfl
    · next w c =>
      have hw : Json.asOption Json.asSigned64 w = .ok c := optionalCode_eq_ok.mpr hcode
      refine Json.asRecord_array_eq_ok.mpr ⟨?_, Nat.le_refl 2, fun h => nomatch h⟩
      simp only [errorFields, Json.setItems, Json.asString, hw, Except.map]

/-! ## Messages -/

/-- The frame ID is an optional string, empty when it is not there. -/
theorem reads_frameId : Reads fields "frameId" Inbound.frameId
    (fun v => (Json.asOption Json.asString v).map fun s => s.getD "") := by
  constructor <;>
    simp +contextual [fields, Json.Shaped.map_eq_ok, Json.Shaped.map_map]

/-- The kind is read by its name. -/
theorem reads_kind :
    Reads fields "type" Inbound.kind (fun v => (Json.asString v).map .ofName) := by
  constructor <;>
    simp +contextual [fields, Json.Shaped.map_eq_ok, Json.Shaped.map_map]

/-- The command's name is an optional string. -/
theorem reads_commandName :
    Reads fields "commandName" Inbound.commandName (Json.asOption Json.asString) := by
  constructor <;>
    simp +contextual [fields, Json.Shaped.map_eq_ok, Json.Shaped.map_map, Json.Shaped.map_self]

/-- The command's data are read as they are. -/
theorem reads_commandData :
    Reads fields "commandData" Inbound.commandData (Json.asOption .ok) := by
  constructor <;>
    simp +contextual [fields, Json.Shaped.map_eq_ok, Json.Shaped.map_map, Json.Shaped.map_self]

/-- The event is an optional record. -/
theorem reads_event :
    Reads fields "eventReturnData" Inbound.event (Json.asOption eventShape) := by
  constructor <;>
    simp +contextual [fields, Json.Shaped.map_eq_ok, Json.Shaped.map_map, Json.Shaped.map_self]

/-- The error is an optional record. -/
theorem reads_error : Reads fields "error" Inbound.error (Json.asOption errorShape) := by
  constructor <;>
    simp +contextual [fields, Json.Shaped.map_eq_ok, Json.Shaped.map_map, Json.Shaped.map_self]

/-- What each field of a message holds, after the members of an object. -/
structure Held (ms : List (String × Value)) (m : Inbound) : Prop where
  frameId : Holds (fun v => (Json.asOption Json.asString v).map fun s => s.getD "") ""
    (Value.member? "frameId" ms) m.frameId
  kind : Holds (fun v => (Json.asString v).map .ofName) (.other "") (Value.member? "type" ms) m.kind
  commandName : Holds (Json.asOption Json.asString) none (Value.member? "commandName" ms)
    m.commandName
  commandData : Holds (Json.asOption .ok) none (Value.member? "commandData" ms) m.commandData
  returnData : Holds (Json.asOption .ok) none (Value.member? replyKey ms) m.returnData
  event : Holds (Json.asOption eventShape) none (Value.member? "eventReturnData" ms) m.event
  error : Holds (Json.asOption errorShape) none (Value.member? "error" ms) m.error

/-- Members hold at most one message. -/
theorem Held.unique {m m' : Inbound} (h : Held ms m) (h' : Held ms m') : m = m' := by
  rcases m with ⟨_, _, _, _, _, _, _⟩
  rcases m' with ⟨_, _, _, _, _, _, _⟩
  rw [Inbound.mk.injEq]
  exact ⟨h.frameId.unique h'.frameId, h.kind.unique h'.kind, h.commandName.unique h'.commandName,
    h.commandData.unique h'.commandData, h.returnData.unique h'.returnData,
    h.event.unique h'.event, h.error.unique h'.error⟩

/-- What the members of an object make of a message. -/
theorem setMembers_eq_ok (hms : Value.Ordered ms) :
    Json.setMembers fields ms blank = .ok m ↔ Held ms m := by
  refine Json.setMembers_eq_ok hms ?_ ?_ fun m m' h h' => h.unique h'
  · -- Every field that is read holds what its member says.
    exact fun m hm =>
      { frameId := reads_frameId.setMembers hms hm
        kind := reads_kind.setMembers hms hm
        commandName := reads_commandName.setMembers hms hm
        commandData := reads_commandData.setMembers hms hm
        returnData := reads_returnData.setMembers hms hm
        event := reads_event.setMembers hms hm
        error := reads_error.setMembers hms hm }
  · -- And a message that the members describe is accepted by each of the seven fields.
    intro m h f hf
    have hfield := hf
    simp only [fields, List.mem_cons, List.not_mem_nil, or_false] at hfield
    rcases hfield with rfl | rfl | rfl | rfl | rfl | rfl | rfl
    · exact reads_frameId.accepts h.frameId hf rfl
    · exact reads_kind.accepts h.kind hf rfl
    · exact reads_commandName.accepts h.commandName hf rfl
    · exact reads_commandData.accepts h.commandData hf rfl
    · exact reads_returnData.accepts h.returnData hf rfl
    · exact reads_event.accepts h.event hf rfl
    · exact reads_error.accepts h.error hf rfl

/-- The frame ID holds the text, or the empty one where it is missing or null. -/
theorem holds_frameId {s : String} :
    Holds (fun v => (Json.asOption Json.asString v).map fun s => s.getD "") "" v? s ↔
      ∃ t, Option.Rel IsText (v?.bind Value.nonNull?) t ∧ s = t.getD "" := by
  have hmap := @Json.holds_map _ _ (Json.asOption Json.asString) none v? (fun s => s.getD "") s
  simp only [holds_optionalText] at hmap
  exact hmap

/-- The kind holds the one of that name, or the unnamed other where it is missing. -/
theorem holds_kind {kind : MessageKind} :
    Holds (fun v => (Json.asString v).map .ofName) (.other "") v? kind ↔
      ∃ s, TextOrMissing v? s ∧ kind = .ofName s := by
  have hmap := @Json.holds_map _ _ Json.asString "" v? MessageKind.ofName kind
  simp only [holds_text] at hmap
  exact hmap

/-- The fields hold what the format says. -/
theorem held_iff_describes (hms : (Value.object ms).Canonical) : Held ms m ↔ Describes ms m := by
  -- Events and errors are read inside a member, which is canonical as the whole is.
  have hevent : ∀ {e}, Holds (Json.asOption eventShape) none (Value.member? "eventReturnData" ms) e ↔
      Option.Rel WritesEvent (Value.present? "eventReturnData" ms) e :=
    Json.holds_asOption fun v hv _ => eventShape_eq_ok (hms.member? hv)
  have herror : ∀ {e}, Holds (Json.asOption errorShape) none (Value.member? "error" ms) e ↔
      Option.Rel WritesError (Value.present? "error" ms) e :=
    Json.holds_asOption fun v hv _ => errorShape_eq_ok (hms.member? hv)
  constructor
  · exact fun h =>
      { frameId := holds_frameId.mp h.frameId
        kind := holds_kind.mp h.kind
        commandName := holds_optionalText.mp h.commandName
        commandData := Json.holds_asOption_ok.mp h.commandData
        returnData := Json.holds_asOption_ok.mp h.returnData
        event := hevent.mp h.event
        error := herror.mp h.error }
  · exact fun h =>
      { frameId := holds_frameId.mpr h.frameId
        kind := holds_kind.mpr h.kind
        commandName := holds_optionalText.mpr h.commandName
        commandData := Json.holds_asOption_ok.mpr h.commandData
        returnData := Json.holds_asOption_ok.mpr h.returnData
        event := hevent.mpr h.event
        error := herror.mpr h.error }

/-! ## Decoding -/

/-- A text is read as a message exactly if it writes an object that describes the message. -/
theorem read_eq_ok {text : String} :
    read text = .ok m ↔ ∃ ms, Value.parse text = .ok (.object ms) ∧ Describes ms m := by
  unfold read
  cases hparse : Value.parse text with
  | error e => simp
  | ok v =>
    cases v with
    | object ms =>
      have hms : (Value.object ms).Canonical := Json.canonical_parse hparse
      have hread : (Json.setMembers fields ms blank).mapError Refusal.malformed = .ok m ↔
          Describes ms m := by
        rw [← held_iff_describes hms, ← setMembers_eq_ok hms.ordered]
        cases Json.setMembers fields ms blank <;> simp [Except.mapError]
      simp [hread]
    | _ => simp

/-- Decoding follows the format: an object that describes a message is decoded to that message, and
every other text to a message that says why it is none. -/
theorem decode_exact (text : String) :
    (∀ ms m, Value.parse text = .ok (.object ms) → Describes ms m → decode text = m) ∧
      ((¬ ∃ ms m, Value.parse text = .ok (.object ms) ∧ Describes ms m) →
        ∃ detail, decode text = parseError detail) := by
  constructor
  · intro ms m hparse hm
    unfold decode
    rw [read_eq_ok.mpr ⟨ms, hparse, hm⟩]
  · intro hnone
    unfold decode
    cases hread : read text with
    | ok m =>
      obtain ⟨ms, hparse, hm⟩ := read_eq_ok.mp hread
      exact absurd ⟨ms, m, hparse, hm⟩ hnone
    | error refusal => exact ⟨_, rfl⟩

/-- An event as an array, beside a repeated key and a member that does not matter. -/
def eventText : String :=
  "\x7b\"frameId\":\"g\",\"type\":\"onEventReturn\",\"eventReturnData\":[\"onDownload\",17]," ++
    "\"frameId\":\"f\",\"other\":\x7b\x7d\x7d"

/-- The members that `eventText` writes. -/
def eventMembers : List (String × Value) :=
  [("eventReturnData", .array [.string "onDownload", .int 17]), ("frameId", .string "f"),
    ("other", .object []), ("type", .string "onEventReturn")]

/-- The message that `eventText` writes. -/
def eventMessage : Inbound :=
  { blank with
    frameId := "f"
    kind := .eventReturn
    event := some ⟨"onDownload", some (.int 17)⟩ }

/-- A message with a kind that is null: of all members that may be null elsewhere, this one may
not. -/
def nullKindText : String := "\x7b\"frameId\":null,\"type\":null\x7d"

/-- `eventText` is decoded as the format says, and `nullKindText` is refused. -/
theorem decode_exact_event :
    Value.parse eventText = .ok (.object eventMembers) ∧ Describes eventMembers eventMessage ∧
      decode eventText = eventMessage ∧ ∃ detail, decode nullKindText = parseError detail := by
  have hparse : Value.parse eventText = .ok (.object eventMembers) := by rfl
  have hdescribes : Describes eventMembers eventMessage :=
    { frameId := ⟨some "f", .some rfl, rfl⟩
      kind := ⟨"onEventReturn", .text _, by decide⟩
      commandName := .none
      commandData := rfl
      returnData := rfl
      event := .some (.pair _ _)
      error := .none }
  have hrefused : ¬ ∃ ms m, Value.parse nullKindText = .ok (.object ms) ∧ Describes ms m := by
    rintro ⟨ms, m, hnull, hm⟩
    have hms : Value.parse nullKindText = .ok (.object [("frameId", .null), ("type", .null)]) := by
      rfl
    cases hms.symm.trans hnull
    obtain ⟨s, hs, -⟩ := hm.kind
    cases hs
  exact ⟨hparse, hdescribes, (decode_exact eventText).1 _ _ hparse hdescribes,
    (decode_exact nullKindText).2 hrefused⟩

end Inbound

end FrameHost
