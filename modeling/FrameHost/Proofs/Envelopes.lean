import FrameHost.Proofs.JsonValues
import FrameHost.Proofs.Records

/-!
# Envelopes in writing

An envelope that is written is read back (`parse_encode`): the frame ID, its kind, the kind and the
name of the task and the task's data, but null is read as no data. The data may nest two arrays or
objects less deep than a value that is read on its own, because the envelope and the task are
objects themselves; what nests deeper is not read (`parse_encode_eq_none`). The text that is posted
tells the frame and the task, however deep the data is (`encode_round_trip`).
-/

namespace FrameHost

open Json (Value Read EndsNumber)

/-! ## Tasks to write -/

/-- The task has only data that a text can write: it is canonical, and its doubles survive. -/
structure Task.Writable (t : Task) : Prop where
  canonical : ∀ v ∈ t.data, v.Canonical
  doubles : ∀ v ∈ t.data, ∀ x ∈ v.doubles, x.Survives

/-- A writable task's data are canonical, also where there are none. -/
theorem Task.Writable.canonical_orNull {t : Task} (h : t.Writable) : (orNull t.data).Canonical := by
  cases hdata : t.data with
  | none => exact .null
  | some v => exact h.canonical v hdata

/-- A writable task's doubles survive, also where it has no data. -/
theorem Task.Writable.doubles_orNull {t : Task} (h : t.Writable) :
    ∀ x ∈ (orNull t.data).doubles, x.Survives := by
  cases hdata : t.data with
  | none => exact fun x hx => nomatch hx
  | some v => exact h.doubles v hdata

/-- A task as it is read back: null is no data. -/
def Task.normal (t : Task) : Task := { t with data := t.data.bind Value.nonNull? }

namespace Envelope

open Json (memberKey stringBody skipBlanks skipBlanks_cons separated separated_cons)

variable {ρ α : Type} {fields : List (String × FieldReader ρ)} {r r' : ρ} {cs rest : List Char}

/-! ## Members -/

/-- A closing brace ends the record. -/
theorem readMembers_close (fields : List (String × FieldReader ρ)) (r : ρ) (first : Bool) (fuel : ℕ)
    (cs : List Char) : readMembers fields r first (fuel + 1) ('\x7d' :: cs) = .ok (r, cs) := by
  unfold readMembers
  rfl

/-- The first member needs no comma. -/
theorem readMembers_first (r : ρ) (fuel : ℕ) (key : String) (cs : List Char) :
    readMembers fields r true (fuel + 1) (renderField key cs) =
      (named fields key r cs).andThen fun r cs => readMembers fields r false fuel cs := by
  have hkey := Json.memberKey_renderString key cs
  conv_lhs => unfold readMembers
  show ((memberKey stringBody (Json.renderString key ++ ':' :: cs)).andThen _).andThen _ = _
  rw [hkey]
  rfl

/-- Every later member stands after a comma. -/
theorem readMembers_next (r : ρ) (fuel : ℕ) (key : String) (cs : List Char) :
    readMembers fields r false (fuel + 1) (',' :: renderField key cs) =
      (named fields key r cs).andThen fun r cs => readMembers fields r false fuel cs := by
  have hkey := Json.memberKey_renderString key cs
  conv_lhs => unfold readMembers
  show ((memberKey stringBody (Json.renderString key ++ ':' :: cs)).andThen _).andThen _ = _
  rw [hkey]
  rfl

/-- A field in writing. -/
def writtenField (f : String × List Char) : List Char := renderField f.1 f.2

/-- Fields in writing, each with its key, make `r'` of `r`. -/
inductive Fills (fields : List (String × FieldReader ρ)) :
    ρ → List (String × List Char) → ρ → Prop
  | nil (r : ρ) : Fills fields r [] r
  | cons {r r' r'' : ρ} {key : String} {text : List Char} {written : List (String × List Char)}
      (hfield : ∀ rest, EndsNumber rest → named fields key r (text ++ rest) = .ok (r', rest))
      (hmore : Fills fields r' written r'') : Fills fields r ((key, text) :: written) r''

variable {written : List (String × List Char)}

/-- A written field goes on with what follows it. -/
theorem renderField_append (key : String) (text rest : List Char) :
    renderField key text ++ rest = renderField key (text ++ rest) := by
  unfold renderField
  rw [List.append_assoc]
  rfl

/-- After a value come a comma or a closing brace, and both end a number. -/
theorem endsNumber_fields (written : List (String × List Char)) (rest : List Char) :
    EndsNumber ((written.flatMap fun f => ',' :: writtenField f) ++ '\x7d' :: rest) :=
  Json.endsNumber_series (by decide) writtenField written rest

/-- A field after the first one is read, and then the others. -/
theorem readMembers_fields (r : ρ) (key : String) (text : List Char)
    (written : List (String × List Char)) (fuel : ℕ) (rest : List Char) :
    readMembers fields r false (fuel + 1)
        ((((key, text) :: written).flatMap fun f => ',' :: writtenField f) ++ '\x7d' :: rest) =
      (named fields key r
        (text ++ ((written.flatMap fun f => ',' :: writtenField f) ++ '\x7d' :: rest))).andThen
          fun r cs => readMembers fields r false fuel cs := by
  rw [List.flatMap_cons, List.append_assoc, List.cons_append]
  show readMembers fields r false (fuel + 1) (',' :: (renderField key text ++ _)) = _
  rw [renderField_append, readMembers_next]

/-- The fields after the first one are read in order. -/
theorem Fills.more (h : Fills fields r written r') {fuel : ℕ} (hfuel : written.length < fuel)
    (rest : List Char) :
    readMembers fields r false fuel
      ((written.flatMap fun f => ',' :: writtenField f) ++ '\x7d' :: rest) = .ok (r', rest) := by
  induction h generalizing fuel with
  | nil r =>
    obtain ⟨fuel, rfl⟩ := Nat.exists_eq_add_one_of_ne_zero (Nat.ne_of_gt hfuel)
    exact readMembers_close fields r false fuel rest
  | @cons r r' r'' key text written hfield _ ih =>
    obtain ⟨fuel, rfl⟩ := Nat.exists_eq_add_one_of_ne_zero (Nat.ne_of_gt (Nat.zero_lt_of_lt hfuel))
    have hfuel' : written.length < fuel := Nat.lt_of_succ_lt_succ hfuel
    rw [readMembers_fields, hfield _ (endsNumber_fields written rest)]
    exact ih hfuel'

/-- A record opens with a brace and is read with fuel for every character. -/
theorem readRecord_brace (r : ρ) (cs : List Char) :
    readRecord fields r ('\x7b' :: cs) = readMembers fields r true (cs.length + 1) cs := by
  unfold readRecord
  rw [skipBlanks_cons rfl]
  rfl

/-- A record is read field by field, and there is fuel enough for all of them. -/
theorem readRecord_fields (r : ρ) (key : String) (text : List Char)
    (written : List (String × List Char)) (rest : List Char) : ∃ fuel, written.length < fuel ∧
    readRecord fields r
        ('\x7b' :: separated writtenField ((key, text) :: written) ++ '\x7d' :: rest) =
      (named fields key r
        (text ++ ((written.flatMap fun f => ',' :: writtenField f) ++ '\x7d' :: rest))).andThen
          fun r cs => readMembers fields r false fuel cs := by
  -- The fuel is the length of the text, and every field takes a character of it.
  have hfuel : ∀ more : List Char, written.length ≤ more.length →
      written.length < (renderField key (text ++ (more ++ '\x7d' :: rest))).length := by
    intro more hle
    simp only [renderField, List.length_append, List.length_cons]
    omega
  refine ⟨_, hfuel _ (Json.length_le_flatMap_comma writtenField written), ?_⟩
  rw [List.cons_append, readRecord_brace, separated_cons, List.append_assoc]
  show readMembers fields r true ((renderField key text ++ _).length + 1)
    (renderField key text ++ _) = _
  rw [renderField_append, readMembers_first]

/-- A record is read from its fields in writing. -/
theorem Fills.record (h : Fills fields r written r') (rest : List Char) :
    readRecord fields r ('\x7b' :: separated writtenField written ++ '\x7d' :: rest) =
      .ok (r', rest) := by
  cases h with
  | nil =>
    rw [List.cons_append, readRecord_brace]
    exact readMembers_close fields r true _ rest
  | @cons _ r₁ _ key text written hfield hmore =>
    obtain ⟨fuel, hfuel, hrecord⟩ := readRecord_fields r key text written rest
    rw [hrecord, hfield _ (endsNumber_fields written rest)]
    exact hmore.more hfuel rest

/-- Fields in writing of which one is not read; those before it are read, one after the other. -/
inductive Stops (fields : List (String × FieldReader ρ)) : ρ → List (String × List Char) → Prop
  | here {r : ρ} {key : String} {text : List Char} (written : List (String × List Char))
      (hfield : ∀ rest, ∃ stop, named fields key r (text ++ rest) = .error stop) :
      Stops fields r ((key, text) :: written)
  | later {r r' : ρ} {key : String} {text : List Char} {written : List (String × List Char)}
      (hfield : ∀ rest, EndsNumber rest → named fields key r (text ++ rest) = .ok (r', rest))
      (hmore : Stops fields r' written) : Stops fields r ((key, text) :: written)

/-- Fields at which reading stops also stop it when more follows them. -/
theorem Stops.more (h : Stops fields r written) {fuel : ℕ} (hfuel : written.length < fuel)
    (rest : List Char) :
    ∃ stop, readMembers fields r false fuel
      ((written.flatMap fun f => ',' :: writtenField f) ++ '\x7d' :: rest) = .error stop := by
  induction h generalizing fuel with
  | @here r key text written hfield =>
    obtain ⟨fuel, rfl⟩ := Nat.exists_eq_add_one_of_ne_zero (Nat.ne_of_gt (Nat.zero_lt_of_lt hfuel))
    obtain ⟨stop, hstop⟩ :=
      hfield ((written.flatMap fun f => ',' :: writtenField f) ++ '\x7d' :: rest)
    refine ⟨stop, ?_⟩
    rw [readMembers_fields, hstop]
    rfl
  -- The field is read, and one after it stops the reading.
  | @later r r' key text written hfield _ ih =>
    obtain ⟨fuel, rfl⟩ := Nat.exists_eq_add_one_of_ne_zero (Nat.ne_of_gt (Nat.zero_lt_of_lt hfuel))
    have hfuel' : written.length < fuel := Nat.lt_of_succ_lt_succ hfuel
    rw [readMembers_fields, hfield _ (endsNumber_fields written rest)]
    exact ih hfuel'

/-- A record of which a field is not read is refused. -/
theorem Stops.record (h : Stops fields r written) (rest : List Char) : ∃ stop,
    readRecord fields r ('\x7b' :: separated writtenField written ++ '\x7d' :: rest) =
      .error stop := by
  cases h with
  | @here _ key text written hfield =>
    obtain ⟨fuel, -, hrecord⟩ := readRecord_fields r key text written rest
    obtain ⟨stop, hstop⟩ :=
      hfield ((written.flatMap fun f => ',' :: writtenField f) ++ '\x7d' :: rest)
    refine ⟨stop, ?_⟩
    rw [hrecord, hstop]
    rfl
  -- The first field is read, and one after it stops the reading.
  | @later _ r₁ key text written hfield hmore =>
    obtain ⟨fuel, hfuel, hrecord⟩ := readRecord_fields r key text written rest
    obtain ⟨stop, hstop⟩ := hmore.more hfuel rest
    refine ⟨stop, ?_⟩
    rw [hrecord, hfield _ (endsNumber_fields written rest)]
    exact hstop

/-- Fields written one list after the other are filled one list after the other. -/
theorem Fills.append {r'' : ρ} {written' : List (String × List Char)}
    (h : Fills fields r written r') (h' : Fills fields r' written' r'') :
    Fills fields r (written ++ written') r'' := by
  induction h with
  | nil => exact h'
  | cons hfield _ ih => exact .cons hfield (ih h')

/-- Fields that fill, followed by fields that stop, stop. -/
theorem Fills.stops {written' : List (String × List Char)} (h : Fills fields r written r')
    (h' : Stops fields r' written') : Stops fields r (written ++ written') := by
  induction h with
  | nil => exact h'
  | cons hfield _ ih => exact .later hfield (ih h')

/-! ## Fields -/

/-- A written string is read back. -/
theorem readString_renderString (s : String) (rest : List Char) :
    readString (Json.renderString s ++ rest) = .ok (s, rest) := by
  rw [Json.renderString_append]
  exact Json.stringBody_escape s rest

/-- A field that has not come yet is set. -/
theorem once_of_none {get : ρ → Option α} {set : α → ρ → ρ} {read : List Char → Read α}
    (hget : get r = none) : once get set read r cs = (read cs).as fun a => set a r := by
  unfold once
  rw [hget]

/-! ## Tasks -/

variable {t : Task} {depth : ℕ}

/-- The data of a task is read back, but null as no data. -/
theorem readData_render (ht : t.Writable) (hdepth : (orNull t.data).depth ≤ depth)
    (hrest : EndsNumber rest) :
    readData depth ((orNull t.data).render ++ rest) = .ok (t.data.bind Value.nonNull?, rest) := by
  unfold readData
  rw [Json.value_render ht.canonical_orNull hdepth ht.doubles_orNull hrest]
  cases t.data with
  | none => rfl
  | some v => cases v <;> rfl

/-- The fields of a task before its data. -/
theorem fills_names (depth : ℕ) (kind method : String) :
    Fills (taskFields depth) {}
      [("type", Json.renderString kind), ("methodName", Json.renderString method)]
      ⟨some kind, some method, none⟩ := by
  have hkind : named (taskFields depth) "type" =
      once PartialTask.kind (fun s t => { t with kind := some s }) readString := rfl
  have hmethod : named (taskFields depth) "methodName" =
      once PartialTask.method (fun s t => { t with method := some s }) readString := rfl
  have hlast : Fills (taskFields depth) ⟨some kind, none, none⟩
      [("methodName", Json.renderString method)] ⟨some kind, some method, none⟩ := by
    refine .cons (fun rest _ => ?_) (.nil _)
    rw [hmethod, once_of_none rfl, readString_renderString]
    rfl
  refine .cons (fun rest _ => ?_) hlast
  rw [hkind, once_of_none rfl, readString_renderString]
  rfl

/-- The field `data` of a task reads the task's data. -/
theorem named_data (depth : ℕ) (kind method : String) (cs : List Char) :
    named (taskFields depth) "data" ⟨some kind, some method, none⟩ cs =
      (readData depth cs).as fun data => ⟨some kind, some method, some data⟩ := by
  have hdata : named (taskFields depth) "data" =
      once PartialTask.data (fun v t => { t with data := some v }) (readData depth) := rfl
  rw [hdata]
  exact once_of_none rfl

/-- A task is written as its three fields. -/
theorem render_task (t : Task) : t.render = '\x7b' :: separated writtenField
    ([("type", Json.renderString t.kind), ("methodName", Json.renderString t.method)] ++
      [("data", (orNull t.data).render)]) ++ ['\x7d'] := by
  unfold Task.render
  simp [separated, writtenField]

/-- A task is read back. -/
theorem readTask_render (ht : t.Writable) (hdepth : (orNull t.data).depth ≤ depth)
    (rest : List Char) : readTask depth (t.render ++ rest) = .ok (t.normal, rest) := by
  have hdata : Fills (taskFields depth) ⟨some t.kind, some t.method, none⟩
      [("data", (orNull t.data).render)]
      ⟨some t.kind, some t.method, some (t.data.bind Value.nonNull?)⟩ := by
    refine .cons (fun rest hrest => ?_) (.nil _)
    rw [named_data, readData_render ht hdepth hrest]
    rfl
  have hread := ((fills_names depth t.kind t.method).append hdata).record rest
  unfold readTask
  rw [render_task, List.append_assoc, List.singleton_append, hread]
  rfl

/-- A task is refused if its data nests too deep. -/
theorem readTask_refuses (ht : t.Writable) (hdepth : depth < (orNull t.data).depth)
    (rest : List Char) : ∃ stop, readTask depth (t.render ++ rest) = .error stop := by
  have hdata : Stops (taskFields depth) ⟨some t.kind, some t.method, none⟩
      [("data", (orNull t.data).render)] := by
    refine .here [] fun rest => ?_
    obtain ⟨stop, hstop⟩ := Json.value_refuses ht.canonical_orNull hdepth ht.doubles_orNull rest
    refine ⟨stop, ?_⟩
    rw [named_data]
    unfold readData
    rw [hstop]
    rfl
  obtain ⟨stop, hstop⟩ := ((fills_names depth t.kind t.method).stops hdata).record rest
  refine ⟨stop, ?_⟩
  unfold readTask
  rw [render_task, List.append_assoc, List.singleton_append, hstop]
  rfl

/-! ## Envelopes -/

/-- The fields of an envelope before its task. -/
theorem fills_labels (depth : ℕ) (frameId kind : String) :
    Fills (Envelope.fields depth) {}
      [("frameId", Json.renderString frameId), ("type", Json.renderString kind)]
      ⟨some frameId, some kind, none⟩ := by
  have hframeId : named (Envelope.fields depth) "frameId" =
      once PartialEnvelope.frameId (fun s e => { e with frameId := some s }) readString := rfl
  have hkind : named (Envelope.fields depth) "type" =
      once PartialEnvelope.kind (fun s e => { e with kind := some s }) readString := rfl
  have hlast : Fills (Envelope.fields depth) ⟨some frameId, none, none⟩
      [("type", Json.renderString kind)] ⟨some frameId, some kind, none⟩ := by
    refine .cons (fun rest _ => ?_) (.nil _)
    rw [hkind, once_of_none rfl, readString_renderString]
    rfl
  refine .cons (fun rest _ => ?_) hlast
  rw [hframeId, once_of_none rfl, readString_renderString]
  rfl

/-- The field `data` of an envelope reads the task. -/
theorem named_task (depth : ℕ) (frameId kind : String) (cs : List Char) :
    named (Envelope.fields depth) "data" ⟨some frameId, some kind, none⟩ cs =
      (readTask depth cs).as fun t => ⟨some frameId, some kind, some t⟩ := by
  have htask : named (Envelope.fields depth) "data" =
      once PartialEnvelope.task (fun t e => { e with task := some t }) (readTask depth) := rfl
  rw [htask]
  exact once_of_none rfl

/-- An envelope is written as its three fields. -/
theorem render_envelope (frameId kind : String) (t : Task) :
    Envelope.render ⟨frameId, kind, t⟩ = '\x7b' :: separated writtenField
      ([("frameId", Json.renderString frameId), ("type", Json.renderString kind)] ++
        [("data", t.render)]) ++ ['\x7d'] := by
  unfold Envelope.render
  simp [separated, writtenField]

/-- An envelope is read back, at any depth that its data has. -/
theorem readRecord_render (ht : t.Writable) (hdepth : (orNull t.data).depth ≤ depth)
    (frameId kind : String) :
    readRecord (Envelope.fields depth) {} (Envelope.render ⟨frameId, kind, t⟩) =
      .ok (⟨some frameId, some kind, some t.normal⟩, []) := by
  have htask : Fills (Envelope.fields depth) ⟨some frameId, some kind, none⟩
      [("data", t.render)] ⟨some frameId, some kind, some t.normal⟩ := by
    refine .cons (fun rest _ => ?_) (.nil _)
    rw [named_task, readTask_render ht hdepth]
    rfl
  rw [render_envelope]
  exact ((fills_labels depth frameId kind).append htask).record []

/-- An envelope is refused if its data nests too deep. -/
theorem readRecord_refuses (ht : t.Writable) (hdepth : depth < (orNull t.data).depth)
    (frameId kind : String) : ∃ stop,
    readRecord (Envelope.fields depth) {} (Envelope.render ⟨frameId, kind, t⟩) = .error stop := by
  have htask : Stops (Envelope.fields depth) ⟨some frameId, some kind, none⟩
      [("data", t.render)] := by
    refine .here [] fun rest => ?_
    obtain ⟨stop, hstop⟩ := readTask_refuses ht hdepth rest
    refine ⟨stop, ?_⟩
    rw [named_task, hstop]
    rfl
  rw [render_envelope]
  exact ((fills_labels depth frameId kind).stops htask).record []

/-- The envelope of a task is read back from the text that is posted. -/
theorem parse_encode (ht : t.Writable) (hdepth : (orNull t.data).depth ≤ 125) (frameId : String) :
    parse (encode frameId t) = some ⟨frameId, "", t.normal⟩ := by
  have hread : read (Envelope.render ⟨frameId, "", t⟩) = .ok (⟨frameId, "", t.normal⟩, []) := by
    unfold read
    show (readRecord (Envelope.fields 125) {} _).andThen _ = _
    rw [readRecord_render ht hdepth]
    rfl
  unfold parse encode Json.whole
  rw [String.toList_ofList, hread]
  rfl

/-- An envelope is not read if the data of its task nests more than 125 arrays and objects. -/
theorem parse_encode_eq_none (ht : t.Writable) (hdepth : 125 < (orNull t.data).depth)
    (frameId : String) : parse (encode frameId t) = none := by
  obtain ⟨stop, hstop⟩ := readRecord_refuses ht hdepth frameId ""
  have hread : read (Envelope.render ⟨frameId, "", t⟩) = .error stop := by
    unfold read
    show (readRecord (Envelope.fields 125) {} _).andThen _ = _
    rw [hstop]
    rfl
  unfold parse encode Json.whole
  rw [String.toList_ofList, hread]
  rfl

end Envelope

/-- What is read as no data is written as null too. -/
theorem encode_normal (frameId : String) (t : Task) :
    encode frameId t.normal = encode frameId t := by
  obtain ⟨kind, method, data⟩ := t
  cases data with
  | none => rfl
  | some v => cases v <;> rfl

/-- Two tasks that are written the same are read as the same task, for the same frame. -/
theorem normal_of_encode {a b : String} {t u : Task} (ht : t.Writable) (hu : u.Writable)
    (h : encode a t = encode b u) : a = b ∧ t.normal = u.normal := by
  have hrender : Envelope.render ⟨a, "", t⟩ = Envelope.render ⟨b, "", u⟩ := String.ofList_injective h
  -- A reader for the data of both.
  have hleft := Envelope.readRecord_render ht
    (Nat.le_max_left (orNull t.data).depth (orNull u.data).depth) a ""
  have hright := Envelope.readRecord_render hu
    (Nat.le_max_right (orNull t.data).depth (orNull u.data).depth) b ""
  rw [hrender, hright] at hleft
  have hparts := congrArg Prod.fst (Except.ok.inj hleft)
  rw [Envelope.PartialEnvelope.mk.injEq] at hparts
  exact ⟨(Option.some.inj hparts.1).symm, (Option.some.inj hparts.2.2).symm⟩

/-- A text that is posted is read as the frame and the task that it was made of, and these make the
same text again; null is read as no data. Two texts are the same exactly if their frames and tasks
are, up to this. -/
theorem encode_round_trip :
    (∀ (frameId : String) (t : Task), t.Writable → (∀ v ∈ t.data, v.depth ≤ 125) →
      ∃ e, Envelope.parse (encode frameId t) = some e ∧ e.frameId = frameId ∧ e.kind = "" ∧
        e.task.kind = t.kind ∧ e.task.method = t.method ∧
        e.task.data = t.data.bind Value.nonNull? ∧
        encode e.frameId e.task = encode frameId t) ∧
    ∀ (a b : String) (t u : Task), t.Writable → u.Writable →
      (encode a t = encode b u ↔
        a = b ∧ t.kind = u.kind ∧ t.method = u.method ∧
          t.data.bind Value.nonNull? = u.data.bind Value.nonNull?) := by
  constructor
  · intro frameId t ht hdata
    -- The envelope and the task are two levels around the data.
    have hdepth : (orNull t.data).depth ≤ 125 := by
      cases hv : t.data with
      | none => exact Nat.zero_le 125
      | some v => exact hdata v hv
    exact ⟨_, Envelope.parse_encode ht hdepth frameId, rfl, rfl, rfl, rfl, rfl,
      encode_normal frameId t⟩
  · intro a b t u ht hu
    constructor
    · intro h
      obtain ⟨hframe, hnormal⟩ := normal_of_encode ht hu h
      unfold Task.normal at hnormal
      rw [Task.mk.injEq] at hnormal
      exact ⟨hframe, hnormal⟩
    · -- No data and null are written the same way.
      rintro ⟨rfl, hkind, hmethod, hdata⟩
      have hnormal : t.normal = u.normal := by
        unfold Task.normal
        rw [hkind, hmethod, hdata]
      rw [← encode_normal a t, hnormal, encode_normal]

/-- A call with text that is escaped, numbers at their bounds and a double, nested in lists and
objects. -/
def mixedTask : Task :=
  .call "runs \"a\"\n" (some (.object
    [("", .array [.null, .bool true, .array [], .number (.double ⟨true, 3 * Nat.pow 2 51, -52⟩)]),
      ("bounds", .array [.int (-9223372036854775808), .int 18446744073709551615]),
      ("ключ\x01", .object [("\\", .string "é\u2028\x7f/\t")])]))

/-- The double in `mixedTask` is written `-1.5` and read back from there. -/
theorem survives_mixedTask : (⟨true, 3 * Nat.pow 2 51, -52⟩ : Double).Survives := by
  have htext : (Json.Number.double ⟨true, 3 * Nat.pow 2 51, -52⟩).text = "-1.5" := by decide +kernel
  have hnumber : Json.unsigned true ['1', '.', '5'] = Json.double true 15 (-1) [] := by rfl
  have hdecimal : Double.ofDecimal true 15 (-1) = some ⟨true, 3 * Nat.pow 2 51, -52⟩ := by rfl
  have hdouble : Json.double true 15 (-1) [] = .ok (.double ⟨true, 3 * Nat.pow 2 51, -52⟩, []) := by
    unfold Json.double
    rw [hdecimal]
  refine Json.parse_eq_ok.mpr ⟨[], ?_, rfl⟩
  rw [htext]
  show (Json.unsigned true ['1', '.', '5']).as Value.number = _
  rw [hnumber, hdouble]
  rfl

/-- The mixed task can be written. -/
theorem writable_mixedTask : mixedTask.Writable where
  canonical := by
    rintro v ⟨⟩
    -- The three members one by one.
    have hfirst : (Value.array [.null, .bool true, .array [],
        .number (.double ⟨true, 3 * Nat.pow 2 51, -52⟩)]).Canonical := by
      refine .array fun x hx => ?_
      simp only [List.mem_cons, List.not_mem_nil, or_false] at hx
      rcases hx with rfl | rfl | rfl | rfl
      · exact .null
      · exact .bool true
      · exact .array (List.forall_mem_nil _)
      · exact .number (by decide)
    have hbounds : (Value.array [.int (-9223372036854775808),
        .int 18446744073709551615]).Canonical := by
      refine .array fun x hx => ?_
      simp only [List.mem_cons, List.not_mem_nil, or_false] at hx
      rcases hx with rfl | rfl <;> exact .number (by decide)
    have hlast : (Value.object [("\\", .string "é\u2028\x7f/\t")]).Canonical :=
      .object (by decide) (List.forall_mem_singleton.mpr (.string _))
    refine .object (by decide) fun m hm => ?_
    simp only [List.mem_cons, List.not_mem_nil, or_false] at hm
    rcases hm with rfl | rfl | rfl
    · exact hfirst
    · exact hbounds
    · exact hlast
  doubles := by
    rintro v ⟨⟩ x hx
    obtain rfl := List.mem_singleton.mp hx
    exact survives_mixedTask

/-- A call with null for its data. -/
def nullTask : Task := .call "getFiles" (some .null)

/-- `mixedTask` is read back from its text; `nullTask` has the text of the call without data. -/
theorem encode_round_trip_mixed :
    mixedTask.Writable ∧ (∀ v ∈ mixedTask.data, v.depth ≤ 125) ∧
      (∃ e, Envelope.parse (encode "f\x00" mixedTask) = some e ∧ e.frameId = "f\x00" ∧
        e.task = mixedTask) ∧
      encode "f" nullTask = encode "f" (.call "getFiles" none) := by
  have hdepth : ∀ v ∈ mixedTask.data, v.depth ≤ 125 := by
    rintro v ⟨⟩
    decide
  have hnull : nullTask.Writable :=
    ⟨by rintro v ⟨⟩; exact .null, by rintro v ⟨⟩ x hx; cases hx⟩
  have hnone : (Task.call "getFiles" none).Writable := ⟨nofun, nofun⟩
  obtain ⟨e, hparse, hframe, -, hkind, hmethod, hdata, -⟩ :=
    encode_round_trip.1 "f\x00" mixedTask writable_mixedTask hdepth
  refine ⟨writable_mixedTask, hdepth, ⟨e, hparse, hframe, ?_⟩,
    (encode_round_trip.2 "f" "f" nullTask (.call "getFiles" none) hnull hnone).mpr
      ⟨rfl, rfl, rfl, rfl⟩⟩
  obtain ⟨frameId, kind, ⟨taskKind, method, data⟩⟩ := e
  dsimp only at hkind hmethod hdata
  rw [hkind, hmethod, hdata]
  rfl

end FrameHost
