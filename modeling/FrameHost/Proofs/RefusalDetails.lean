import FrameHost.Proofs.JsonValues
import FrameHost.Proofs.ParseErrors
import FrameHost.Proofs.ReadLengths

/-!
# How long the detail of a refusal is

A refused text is decoded to a message whose text is the detail of the refusal: a diagnostic and an
excerpt of at most 257 characters. A diagnostic tells where a fault is (`Stop.locate_le`), or what was
found in a message in place of what was expected. Whatever was found is told in a few words, but a
string is quoted from its first character to its last (`Mismatch.Brief`). That happens where an event,
an error or the code of one is a string (`Inbound.Misplaced`), and nowhere else: all other details are
shorter than twice the excerpt (`detail_length_lt_iff`).
-/

namespace FrameHost

open Json (Value)

/-! ## Positions -/

namespace Json

/-- A number below a power of ten has at most as many digits as that power has zeros. -/
theorem length_toString_le {n k : ℕ} (hk : 0 < k) (hn : n < 10 ^ k) : (toString n).length ≤ k :=
  (Nat.length_repr_le_iff hk).mpr hn

/-- A text has no more characters than bytes. -/
theorem length_le_byteSize (cs : List Char) : cs.length ≤ byteSize cs := by
  have hfold : ∀ n, n + cs.length ≤ cs.foldl (fun n c => n + c.utf8Size) n := by
    induction cs with
    | nil => exact fun n => Nat.le_refl n
    | cons c cs ih =>
      intro n
      have hpos := c.utf8Size_pos
      have hrest := ih (n + c.utf8Size)
      rw [List.length_cons, List.foldl_cons]
      omega
  have hzero := hfold 0
  rwa [Nat.zero_add] at hzero

/-- Lines and columns are counted by bytes: neither gets further than there are bytes. -/
theorem locate_le (line column bytes : ℕ) (cs : List Char) :
    (locate line column bytes cs).1 ≤ line + bytes ∧
      (locate line column bytes cs).2 ≤ column + bytes := by
  induction cs generalizing line column bytes with
  | nil => exact ⟨Nat.le_add_right _ _, Nat.le_refl _⟩
  | cons c cs ih =>
    have hpos := c.utf8Size_pos
    unfold locate
    split
    · exact ⟨Nat.le_add_right _ _, Nat.le_refl _⟩
    · split
      · have hnext := ih (line + 1) 0 (bytes - 1)
        omega
      · have hnext := ih line (column + c.utf8Size) (bytes - c.utf8Size)
        omega

/-- A place in a text is within its bytes. -/
theorem Stop.locate_le (s : Stop) (text : List Char) :
    (s.locate text).line ≤ 1 + byteSize text ∧ (s.locate text).column ≤ byteSize text := by
  have hle := Json.locate_le 1 0 (min (byteSize text - byteSize s.rest + s.bytes) (byteSize text)) text
  have hmin := Nat.min_le_right (byteSize text - byteSize s.rest + s.bytes) (byteSize text)
  unfold Stop.locate
  dsimp only
  omega

/-- A syntax error is located in the text where reading stopped. -/
theorem exists_stop_of_parse {text : String} {e : SyntaxError} (h : Value.parse text = .error e) :
    ∃ s : Stop, e = s.locate text.toList := by
  unfold Value.parse whole at h
  split at h
  · cases h
    exact ⟨_, rfl⟩
  · split at h
    · cases h
    · cases h
      exact ⟨_, rfl⟩

/-- The names of the faults are short. -/
theorem Fault.length_message_le (f : Fault) : f.message.length ≤ 62 := by
  cases f <;> decide

/-- The message of a syntax error is short where its line and column are. -/
theorem SyntaxError.length_message_le {e : SyntaxError} (hline : e.line < 10 ^ 20)
    (hcolumn : e.column < 10 ^ 20) : e.message.length ≤ 119 := by
  have hfault := e.fault.length_message_le
  have hl := length_toString_le (by decide) hline
  have hc := length_toString_le (by decide) hcolumn
  unfold SyntaxError.message
  simp only [String.length_append]
  show e.fault.message.length + 9 + (toString e.line).length + 8 + (toString e.column).length ≤ 119
  omega

/-! ## Mismatches -/

variable {ρ : Type} {size : ℕ} {v w : Value} {e : Mismatch} {fields : List (Field ρ)} {r : ρ}

/-- The diagnostic quotes no string and has at most 110 characters. -/
structure Mismatch.Brief (e : Mismatch) : Prop where
  quotes : ∀ s expected, e ≠ .kind (.string s) expected
  length_le : e.message.length ≤ 110

/-- Whatever is no string is told in a few words. -/
theorem Value.Bounded.length_describe_le (hv : v.Bounded size) (hstring : ∀ s, v ≠ .string s) :
    v.describe.length ≤ 57 := by
  cases hv with
  | null => decide
  | bool b => cases b <;> decide
  | @number n hn =>
    -- The longest are the numbers: their text, between the words and the quotes.
    have htext : n.text.length ≤ 40 := by
      unfold Number.text
      rwa [String.length_ofList]
    cases n with
    | int k =>
      show ("integer `" ++ (Number.int k).text ++ "`").length ≤ 57
      rw [String.length_append, String.length_append]
      show 9 + (Number.int k).text.length + 1 ≤ 57
      omega
    | double x =>
      show ("floating point `" ++ (Number.double x).text ++ "`").length ≤ 57
      rw [String.length_append, String.length_append]
      show 16 + (Number.double x).text.length + 1 ≤ 57
      omega
  | string s => exact absurd rfl (hstring s)
  | array => exact (by decide : "sequence".length ≤ 57)
  | object => exact (by decide : "map".length ≤ 57)

/-- A value in place of what was expected, if it is no string. -/
theorem length_instead_le (hv : v.Bounded size) (hstring : ∀ s, v ≠ .string s) {opening : String}
    (hopening : opening.length ≤ 15) {expected : Expected} (hexpected : expected.phrase.length ≤ 18) :
    (opening ++ v.describe ++ ", expected " ++ expected.phrase).length ≤ 110 := by
  have hdescribe := hv.length_describe_le hstring
  simp only [String.length_append]
  show opening.length + v.describe.length + 11 + expected.phrase.length ≤ 110
  omega

/-- A value of the wrong kind that is no string has a brief diagnostic. -/
theorem brief_kind {expected : Expected} (hv : v.Bounded size) (hstring : ∀ s, v ≠ .string s)
    (hexpected : expected.phrase.length ≤ 18) : (Mismatch.kind v expected).Brief where
  quotes s _ h := hstring s (Mismatch.kind.inj h).1
  length_le := length_instead_le hv hstring (by decide) hexpected

/-- A value out of range that is no string has a brief diagnostic. -/
theorem brief_range {expected : Expected} (hv : v.Bounded size) (hstring : ∀ s, v ≠ .string s)
    (hexpected : expected.phrase.length ≤ 18) : (Mismatch.range v expected).Brief where
  quotes _ _ h := nomatch h
  length_le := length_instead_le hv hstring (by decide) hexpected

/-- An array that is too long has a brief diagnostic. -/
theorem brief_long {n : ℕ} (hn : n < 10 ^ 20) : (Mismatch.long n).Brief := by
  have hdigits := length_toString_le (by decide) hn
  refine ⟨(fun _ _ h => nomatch h), ?_⟩
  unfold Mismatch.message
  simp only [String.length_append]
  show 15 + (toString n).length + 34 ≤ 110
  omega

/-- What is refused as a string is no string, so its diagnostic is brief. -/
theorem brief_of_asString (hv : v.Bounded size) (h : asString v = .error e) : e.Brief := by
  cases v with
  | string s => cases h
  | null | bool | number | array | object =>
    cases h
    exact brief_kind hv (fun _ hs => nomatch hs) (by decide)

/-- What is no code is told in a few words, or is a string. -/
theorem brief_of_asSigned64 (hv : v.Bounded size) (h : asSigned64 v = .error e) :
    e.Brief ∨ ∃ s, v = .string s ∧ e = .kind (.string s) .signed64 := by
  cases v with
  | string s =>
    cases h
    exact .inr ⟨s, rfl, rfl⟩
  | number n =>
    cases n with
    | int k =>
      unfold asSigned64 asInt at h
      dsimp only at h
      split at h
      · cases h
      · cases h
        -- A whole number is refused for its range.
        exact .inl (brief_range hv (fun _ hs => nomatch hs) (by decide))
    | double x =>
      cases h
      exact .inl (brief_kind hv (fun _ hs => nomatch hs) (by decide))
  | null | bool | array | object =>
    cases h
    exact .inl (brief_kind hv (fun _ hs => nomatch hs) (by decide))

/-- An optional shape is refused as the shape itself is. -/
theorem error_of_asOption {α : Type} {shape : Value → Shaped α} (h : asOption shape v = .error e) :
    shape v = .error e := by
  cases v with
  | null => cases h
  | bool | number | string | array | object =>
    unfold asOption at h
    dsimp only at h
    generalize hshape : shape _ = x at h
    cases x with
    | error => cases h; rfl
    | ok a => cases h

/-- A mapped shape is refused as the shape itself is. -/
theorem error_of_map {α β : Type} {x : Shaped α} {f : α → β} (h : x.map f = .error e) :
    x = .error e := by
  cases x with
  | error => cases h; rfl
  | ok a => cases h

/-! ## Records -/

/-- The value has `w` for the field `f` of a record: as the member of that name, or as the item in the
place of the field. -/
inductive FieldValue (fields : List (Field ρ)) (f : Field ρ) (w : Value) : Value → Prop
  | member {ms : List (String × Value)} (hf : f ∈ fields) (hw : (f.name, w) ∈ ms) :
      FieldValue fields f w (.object ms)
  | item {vs : List Value} (hw : (f, w) ∈ fields.zip vs) : FieldValue fields f w (.array vs)

/-- The value of a field is bounded as its record is. -/
theorem FieldValue.bounded {f : Field ρ} (hw : FieldValue fields f w v) (hv : v.Bounded size) :
    w.Bounded size := by
  cases hw with
  | member _ hw =>
    cases hv with
    | object hms => exact hms _ hw
  | item hw =>
    cases hv with
    | array _ hxs => exact hxs w (List.of_mem_zip hw).2

/-- The second field of a record of two: its member, or the second item. -/
theorem FieldValue.cases_pair {f₁ f₂ f : Field ρ} (hw : FieldValue [f₁, f₂] f w v) :
    f = f₁ ∨ f = f₂ ∧
      ((∃ ms, v = .object ms ∧ (f₂.name, w) ∈ ms) ∨ ∃ a vs, v = .array (a :: w :: vs)) := by
  cases hw with
  -- In an object the field is found by its name, in an array by its place.
  | @member ms hf hw =>
    rcases List.mem_pair.mp hf with rfl | rfl
    · exact .inl rfl
    · exact .inr ⟨rfl, .inl ⟨ms, rfl, hw⟩⟩
  | @item vs hw =>
    cases vs with
    | nil => cases hw
    | cons a vs =>
      rcases List.mem_cons.mp hw with heq | hw
      · cases heq
        exact .inl rfl
      · cases vs with
        | nil => cases hw
        | cons b vs =>
          cases List.mem_singleton.mp hw
          exact .inr ⟨rfl, .inr ⟨a, vs, rfl⟩⟩

/-- Members are refused for the field of one of them. -/
theorem exists_field_of_setMembers {ms : List (String × Value)}
    (h : setMembers fields ms r = .error e) :
    ∃ f ∈ fields, ∃ v r, (f.name, v) ∈ ms ∧ f.set v r = .error e := by
  induction ms generalizing r with
  | nil => cases h
  | cons m ms ih =>
    obtain ⟨k, v⟩ := m
    -- The member is passed over, or was set, and a later one is refused.
    have hrest : ∀ r, setMembers fields ms r = .error e →
        ∃ f ∈ fields, ∃ w r, (f.name, w) ∈ (k, v) :: ms ∧ f.set w r = .error e := fun r h => by
      obtain ⟨f, hf, w, r', hw, hset⟩ := ih h
      exact ⟨f, hf, w, r', List.mem_cons_of_mem _ hw, hset⟩
    unfold setMembers at h
    split at h
    · exact hrest r h
    · next f hfound =>
      have hf : f ∈ fields := List.mem_of_find?_eq_some hfound
      have hname : f.name = k := name_of_find? hfound
      split at h
      · next e' hset =>
        cases h
        exact ⟨f, hf, v, r, hname ▸ List.mem_cons_self, hset⟩
      · exact hrest _ h

/-- Items are refused for the field of one of them. -/
theorem exists_field_of_setItems {vs : List Value} (h : setItems fields vs r = .error e) :
    ∃ f w r, (f, w) ∈ fields.zip vs ∧ f.set w r = .error e := by
  induction fields generalizing vs r with
  | nil => cases vs <;> cases h
  | cons f fields ih =>
    cases vs with
    | nil => cases h
    | cons v vs =>
      unfold setItems at h
      split at h
      · next e' hset =>
        cases h
        exact ⟨f, v, r, List.mem_cons_self, hset⟩
      · obtain ⟨f', w, r', hw, hset⟩ := ih h
        exact ⟨f', w, r', List.mem_cons_of_mem _ hw, hset⟩

/-- Why a value is no record is told in a few words, or the value is a string, or what it has for a field
does not fit. -/
theorem brief_of_asRecord {name : String} {required : Option String} {start : ρ}
    (hsize : size < 10 ^ 20) (hv : v.Bounded size)
    (hname : (Expected.record name).phrase.length ≤ 18)
    (hmissing : ∀ k ∈ required, (Mismatch.missing k).Brief)
    (hshort : (Mismatch.short 0 name fields.length).Brief)
    (h : asRecord name fields required start v = .error e) :
    e.Brief ∨ (∃ s, v = .string s ∧ e = .kind (.string s) (.record name)) ∨
      ∃ f w r, FieldValue fields f w v ∧ f.set w r = .error e := by
  cases v with
  | object ms =>
    unfold asRecord at h
    dsimp only at h
    split at h
    · next hset =>
      cases h
      obtain ⟨f, hf, w, r, hw, hset⟩ := exists_field_of_setMembers hset
      exact .inr (.inr ⟨f, w, r, .member hf hw, hset⟩)
    · split at h
      · cases h
      · split at h
        · cases h
        · cases h
          -- Every member could be set, but the required one is missing.
          exact .inl (hmissing _ rfl)
  | array vs =>
    unfold asRecord at h
    dsimp only at h
    split at h
    · cases h
      exact .inl hshort
    · split at h
      · next hset =>
        cases h
        obtain ⟨f, w, r, hw, hset⟩ := exists_field_of_setItems hset
        exact .inr (.inr ⟨f, w, r, .item hw, hset⟩)
      · split at h
        · cases h
          cases hv with
          -- The array has more items than the record has fields.
          | array hlength _ => exact .inl (brief_long (hlength.trans_lt hsize))
        · cases h
  | string s =>
    cases h
    exact .inr (.inl ⟨s, rfl, rfl⟩)
  | null | bool | number =>
    cases h
    exact .inl (brief_kind hv (fun _ hs => nomatch hs) hname)

end Json

namespace Inbound

open Json (Mismatch)

variable {text : String} {ms : List (String × Value)} {size : ℕ} {v : Value} {e : Mismatch}
  {r : Refusal} {s : String} {expected : Json.Expected}

/-! ## Misplaced strings -/

/-- The value is an error with `w` for its code, as an object or as an array. -/
inductive HasCode (w : Value) : Value → Prop
  | member {ms : List (String × Value)} (hcode : ("code", w) ∈ ms) : HasCode w (.object ms)
  | item (v : Value) (vs : List Value) : HasCode w (.array (v :: w :: vs))

/-- A message has the string in place of an event, an error or the code of an error. -/
inductive Misplaced (ms : List (String × Value)) (s : String) : Json.Expected → Prop
  | event (hmember : Value.member? "eventReturnData" ms = some (.string s)) :
      Misplaced ms s (.record "EventReturn")
  | error (hmember : Value.member? "error" ms = some (.string s)) :
      Misplaced ms s (.record "BusError")
  | code {v : Value} (hmember : Value.member? "error" ms = some v) (hs : HasCode (.string s) v) :
      Misplaced ms s .signed64

/-- What is no event is told in a few words, or is a string. -/
theorem brief_of_eventShape (hsize : size < 10 ^ 20) (hv : v.Bounded size)
    (h : eventShape v = .error e) :
    e.Brief ∨ ∃ s, v = .string s ∧ e = .kind (.string s) (.record "EventReturn") := by
  have hmissing : ∀ k ∈ some "event", (Mismatch.missing k).Brief := by
    rintro k ⟨⟩
    exact ⟨(fun _ _ h => nomatch h), by decide⟩
  have hshort : (Mismatch.short 0 "EventReturn" 2).Brief :=
    ⟨(fun _ _ h => nomatch h), by decide⟩
  rcases Json.brief_of_asRecord hsize hv (by decide) hmissing hshort h with
    hbrief | hstring | ⟨f, w, r, hw, hset⟩
  · exact .inl hbrief
  · exact .inr hstring
  · rcases hw.cases_pair with rfl | ⟨rfl, -⟩
    · exact .inl (Json.brief_of_asString (hw.bounded hv) (Json.error_of_map hset))
    · cases Json.error_of_asOption (Json.error_of_map hset)

/-- What is no reported error is told in a few words, or it is a string or has one for a code. -/
theorem brief_of_errorShape (hsize : size < 10 ^ 20) (hv : v.Bounded size)
    (h : errorShape v = .error e) :
    e.Brief ∨ (∃ s, v = .string s ∧ e = .kind (.string s) (.record "BusError")) ∨
      ∃ s, HasCode (.string s) v ∧ e = .kind (.string s) .signed64 := by
  have hshort : (Mismatch.short 0 "BusError" 2).Brief := ⟨(fun _ _ h => nomatch h), by decide⟩
  rcases Json.brief_of_asRecord hsize hv (by decide) (by rintro _ ⟨⟩) hshort h with
    hbrief | hstring | ⟨f, w, r, hw, hset⟩
  · exact .inl hbrief
  · exact .inr (.inl hstring)
  · -- The message must be a string, so what is refused is none; the code may be one.
    rcases hw.cases_pair with rfl | ⟨rfl, hcode⟩
    · exact .inl (Json.brief_of_asString (hw.bounded hv) (Json.error_of_map hset))
    · have hsigned := Json.error_of_asOption (Json.error_of_map hset)
      rcases Json.brief_of_asSigned64 (hw.bounded hv) hsigned with hbrief | ⟨s, rfl, he⟩
      · exact .inl hbrief
      · refine .inr (.inr ⟨s, ?_, he⟩)
        rcases hcode with ⟨ms, rfl, hms⟩ | ⟨a, vs, rfl⟩
        · exact .member hms
        · exact .item a vs

/-- Only three members of a message can be refused: a text, the event and the error. -/
theorem error_of_set {f : Json.Field Inbound} (hf : f ∈ fields) {m : Inbound}
    (h : f.set v m = .error e) :
    Json.asString v = .error e ∨ (f.name = "eventReturnData" ∧ eventShape v = .error e) ∨
      (f.name = "error" ∧ errorShape v = .error e) := by
  simp only [fields, List.mem_cons, List.not_mem_nil, or_false] at hf
  rcases hf with rfl | rfl | rfl | rfl | rfl | rfl | rfl
  · exact .inl (Json.error_of_asOption (Json.error_of_map h))
  · exact .inl (Json.error_of_map h)
  · exact .inl (Json.error_of_asOption (Json.error_of_map h))
  · cases Json.error_of_asOption (Json.error_of_map h)
  · cases Json.error_of_asOption (Json.error_of_map h)
  · exact .inr (.inl ⟨rfl, Json.error_of_asOption (Json.error_of_map h)⟩)
  · exact .inr (.inr ⟨rfl, Json.error_of_asOption (Json.error_of_map h)⟩)

/-- Why an object is no message is told in a few words, or by a misplaced string. -/
theorem brief_or_misplaced (hsize : size < 10 ^ 20) (hms : Value.Ordered ms)
    (hbounded : (Value.object ms).Bounded size) {m : Inbound}
    (h : Json.setMembers fields ms m = .error e) :
    e.Brief ∨ ∃ s expected, Misplaced ms s expected ∧ e = .kind (.string s) expected := by
  obtain ⟨f, hf, v, m', hmem, hset⟩ := Json.exists_field_of_setMembers h
  have hmember : Value.member? f.name ms = some v := Value.member?_of_mem hms hmem
  have hv := (Json.FieldValue.member hf hmem).bounded hbounded
  -- The field is a text, the event or the error.
  rcases error_of_set hf hset with htext | ⟨hname, hevent⟩ | ⟨hname, herror⟩
  · exact .inl (Json.brief_of_asString hv htext)
  · rw [hname] at hmember
    rcases brief_of_eventShape hsize hv hevent with hbrief | ⟨s, rfl, he⟩
    · exact .inl hbrief
    · exact .inr ⟨s, _, .event hmember, he⟩
  · rw [hname] at hmember
    rcases brief_of_errorShape hsize hv herror with hbrief | ⟨s, rfl, he⟩ | ⟨s, hs, he⟩
    · exact .inl hbrief
    · exact .inr ⟨s, _, .error hmember, he⟩
    · exact .inr ⟨s, _, .code hmember hs, he⟩

/-! ## Details -/

/-- An excerpt has at most 256 characters and the sign of its cut. -/
theorem length_excerpt_le (text : String) : (excerpt text).length ≤ 257 := by
  unfold excerpt
  split
  · next hle => exact Nat.le_succ_of_le hle
  · rw [String.length_append, String.length_ofList, List.length_take]
    show min 256 text.toList.length + 1 ≤ 257
    omega

/-- The detail of a message that has a string in place of something else. -/
theorem length_detail_kind (text s : String) (expected : Json.Expected) :
    (Refusal.detail text (.malformed (.kind (.string s) expected))).length =
      54 + (Text.quoted s).length + expected.phrase.length + (excerpt text).length := by
  show ("malformed message (" ++ ("invalid type: " ++ ("string " ++ Text.quoted s) ++ ", expected " ++
    expected.phrase) ++ "): " ++ excerpt text).length = _
  simp only [String.length_append]
  show 19 + (14 + (7 + (Text.quoted s).length) + 11 + expected.phrase.length) + 3 +
    (excerpt text).length = _
  omega

/-- A refusal quotes a misplaced string, or it quotes no string and its detail is short. -/
theorem misplaced_or_length_detail_lt (hsize : Json.byteSize text.toList < 2 ^ 63)
    (hr : read text = .error r) :
    (∃ ms s expected, Value.parse text = .ok (.object ms) ∧ Misplaced ms s expected ∧
      r = .malformed (.kind (.string s) expected)) ∨
    (∀ s expected, r ≠ .malformed (.kind (.string s) expected)) ∧
      (r.detail text).length < 2 * excerptLimit := by
  have hexcerpt := length_excerpt_le text
  have hlimit : 2 * excerptLimit = 512 := rfl
  unfold read at hr
  split at hr
  · next e hparse =>
    cases hr
    -- No JSON: a line and a column are told.
    obtain ⟨stop, rfl⟩ := Json.exists_stop_of_parse hparse
    obtain ⟨hline, hcolumn⟩ := stop.locate_le text.toList
    have hmessage := Json.SyntaxError.length_message_le (e := stop.locate text.toList) (by omega)
      (by omega)
    refine .inr ⟨(fun _ _ h => nomatch h), ?_⟩
    unfold Refusal.detail
    simp only [String.length_append]
    show 14 + (stop.locate text.toList).message.length + 3 + (excerpt text).length < _
    omega
  · next ms hparse =>
    -- An object whose members do not fit.
    have hlength := Json.length_le_byteSize text.toList
    cases hset : Json.setMembers fields ms blank with
    | ok m =>
      rw [hset] at hr
      cases hr
    | error e =>
      rw [hset] at hr
      cases hr
      rcases brief_or_misplaced (by omega) (Json.canonical_parse hparse).ordered
        (Json.bounded_parse hparse) hset with hbrief | ⟨s, expected, hs, rfl⟩
      · refine .inr ⟨fun s expected h => hbrief.quotes s expected (Refusal.malformed.inj h), ?_⟩
        have hmessage := hbrief.length_le
        unfold Refusal.detail
        simp only [String.length_append]
        show 19 + e.message.length + 3 + (excerpt text).length < _
        omega
      · exact .inl ⟨ms, s, expected, hparse, hs, rfl⟩
  · cases hr
    refine .inr ⟨(fun _ _ h => nomatch h), ?_⟩
    unfold Refusal.detail
    rw [String.length_append]
    show 20 + (excerpt text).length < _
    omega

/-- A refused text is decoded to a message that tells the refusal. -/
theorem errorMessage_of_refused (hr : read text = .error r) :
    (decode text).errorMessage = some (r.detail text) := by
  rw [decode_of_refused hr]
  rfl

/-- The detail of a refused text, which is the text of the error that it is decoded to, is shorter than
twice the longest excerpt exactly if it does not quote a string that is too long for that. A string is
quoted only where a message has it in place of an event, an error or the code of an error. The text has
fewer than `2 ^ 63` bytes, as every text in memory has: a position in it takes twenty digits at most. -/
theorem detail_length_lt_iff (hsize : Json.byteSize text.toList < 2 ^ 63)
    (hr : read text = .error r) :
    (decode text).errorMessage = some (r.detail text) ∧
    ((r.detail text).length < 2 * excerptLimit ↔
      ∀ s expected, r = .malformed (.kind (.string s) expected) →
        54 + (Text.quoted s).length + expected.phrase.length + (excerpt text).length <
          2 * excerptLimit) ∧
    ∀ s expected, r = .malformed (.kind (.string s) expected) →
      ∃ ms, Value.parse text = .ok (.object ms) ∧ Misplaced ms s expected := by
  refine ⟨errorMessage_of_refused hr, ?_⟩
  rcases misplaced_or_length_detail_lt hsize hr with
    ⟨ms, s, expected, hparse, hs, rfl⟩ | ⟨hnone, hlt⟩
  · -- A misplaced string is quoted in full, and the length says by how much.
    rw [length_detail_kind]
    refine ⟨⟨?_, fun h => h s expected rfl⟩, ?_⟩
    · rintro hlt _ _ ⟨⟩
      exact hlt
    · rintro _ _ ⟨⟩
      exact ⟨ms, hparse, hs⟩
  · exact ⟨⟨fun _ s expected h => absurd h (hnone s expected), fun _ => hlt⟩,
      fun s expected h => absurd h (hnone s expected)⟩

/-! ## Strings in place of errors -/

/-- A message with a string for its error, in writing. -/
def stringError (s : String) : String := (Value.object [("error", .string s)]).text

/-- A string in the place of an error is refused by the kind it has. -/
theorem read_stringError (s : String) :
    read (stringError s) = .error (.malformed (.kind (.string s) (.record "BusError"))) := by
  have hvalue : (Value.object [("error", .string s)]).Canonical := by
    refine .object (List.pairwise_singleton _ _) fun m hm => ?_
    rw [List.mem_singleton.mp hm]
    exact .string s
  have hdepth : (Value.object [("error", .string s)]).depth ≤ Json.depthLimit :=
    Nat.succ_le_succ (Nat.zero_le 126)
  -- The text is read back as the value it was written from.
  have hread : Json.value Json.depthLimit ((Value.object [("error", .string s)]).render ++ []) = _ :=
    Json.value_render hvalue hdepth (fun _ hx => nomatch hx) (fun _ hc => nomatch hc)
  have hparse : Value.parse (stringError s) = .ok (.object [("error", .string s)]) := by
    refine Json.parse_eq_ok.mpr ⟨[], ?_, rfl⟩
    rw [List.append_nil] at hread
    unfold stringError Value.text
    rw [String.toList_ofList]
    exact hread
  unfold read
  rw [hparse]
  rfl

/-- A short string in place of an error: the detail quotes it and is short. -/
theorem detail_length_lt_iff_no :
    Json.byteSize (stringError "no").toList < 2 ^ 63 ∧
    ∃ r, read (stringError "no") = .error r ∧
      (decode (stringError "no")).errorMessage = some (r.detail (stringError "no")) ∧
      (r.detail (stringError "no")).length < 2 * excerptLimit := by
  have hsize : Json.byteSize (stringError "no").toList < 2 ^ 63 := by decide
  obtain ⟨htext, hiff, -⟩ := detail_length_lt_iff hsize (read_stringError "no")
  refine ⟨hsize, _, read_stringError "no", htext, hiff.mpr ?_⟩
  rintro _ _ ⟨⟩
  decide

/-- The string of 500 times the same letter. -/
def longString : String := String.ofList (List.replicate 500 'x')

/-- The long string has 502 characters in quotes. -/
theorem length_quoted_longString : (Text.quoted longString).length = 502 := by
  have hshown : ∀ n, ((List.replicate n 'x').flatMap Text.showChar).length = n := by
    intro n
    induction n with
    | zero => rfl
    | succ n ih =>
      rw [List.replicate_succ, List.flatMap_cons, List.length_append, ih]
      exact Nat.add_comm 1 n
  unfold Text.quoted longString
  rw [String.length_ofList, String.toList_ofList, List.length_append, List.length_cons, hshown]
  rfl

/-- A long string in place of an error: the text is refused, and the detail that quotes the string is
longer than twice the longest excerpt. -/
theorem long_detail : (∃ r, read (stringError longString) = .error r) ∧
    ∃ detail, (decode (stringError longString)).errorMessage = some detail ∧
      ¬ detail.length < 2 * excerptLimit := by
  have hread := read_stringError longString
  refine ⟨⟨_, hread⟩, _, errorMessage_of_refused hread, ?_⟩
  rw [length_detail_kind, length_quoted_longString]
  have hlimit : 2 * excerptLimit = 512 := rfl
  generalize (excerpt (stringError longString)).length = n
  omega

end Inbound

end FrameHost
