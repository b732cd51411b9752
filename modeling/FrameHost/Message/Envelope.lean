import FrameHost.Json.Printer
import FrameHost.Json.Skip
import FrameHost.Message.Method

/-!
# Envelopes

A call travels inside an envelope that names the frame it is for. `encode` writes the text that is
posted and `Envelope.parse` reads it back. Reading accepts the fields of an envelope and of its task
in any order, each once, with other fields between them, or as an array of all fields in order.
-/

namespace FrameHost

open Json (Value)

/-- A call on its way to a frame. -/
structure Envelope where
  /-- The frame that the call is for. -/
  frameId : String
  /-- The kind of envelope; a call has none. -/
  kind : String
  /-- The call. -/
  task : Task
deriving Repr, Inhabited

/-! ## Writing -/

/-- A member of an object in writing. -/
def renderField (key : String) (value : List Char) : List Char :=
  Json.renderString key ++ ':' :: value

/-- A task in writing. -/
def Task.render (t : Task) : List Char :=
  '\x7b' :: renderField "type" (Json.renderString t.kind) ++
    ',' :: renderField "methodName" (Json.renderString t.method) ++
    ',' :: renderField "data" (orNull t.data).render ++ ['\x7d']

/-- An envelope in writing. -/
def Envelope.render (e : Envelope) : List Char :=
  '\x7b' :: renderField "frameId" (Json.renderString e.frameId) ++
    ',' :: renderField "type" (Json.renderString e.kind) ++
    ',' :: renderField "data" e.task.render ++ ['\x7d']

/-- The text that is posted for a call to a frame. -/
def encode (frameId : String) (task : Task) : String :=
  String.ofList (Envelope.render ⟨frameId, "", task⟩)

/-! ## Reading -/

namespace Envelope

open Json (Read Stop memberKey stringBody skipBlanks)

/-- A record under construction, field by field: what each key, or each place, adds to it. -/
abbrev FieldReader (ρ : Type) := ρ → List Char → Read ρ

/-- Reads a string value. -/
def readString (cs : List Char) : Read String :=
  match skipBlanks cs with
  | '"' :: cs => stringBody cs
  | cs => .error (.next .expectedValue cs)

/-- Stores a field that must not be there yet. -/
def once {α ρ : Type} (get : ρ → Option α) (set : α → ρ → ρ) (read : List Char → Read α) :
    FieldReader ρ :=
  fun r cs =>
    match get r with
    | some _ => .error (.here .expectedValue cs)
    | none => (read cs).as fun a => set a r

/-- The reader of the field with a key; other fields are passed over. -/
def named {ρ : Type} (fields : List (String × FieldReader ρ)) (key : String) : FieldReader ρ :=
  match fields.lookup key with
  | some f => f
  | none => fun r cs => (Json.skipValue (cs.length + 1) cs).as fun _ => r

/-- Reads the members of an object up to its brace, from `r` on. -/
def readMembers {ρ : Type} (fields : List (String × FieldReader ρ)) (r : ρ) (first : Bool) :
    (fuel : Nat) → List Char → Read ρ
  | 0, cs => .error (.here .endOfObject cs)
  | fuel + 1, cs =>
    match skipBlanks cs with
    | '\x7d' :: cs => .ok (r, cs)
    | c :: cs =>
      let start := if first then c :: cs else skipBlanks cs
      if first || c = ',' then
        ((memberKey stringBody start).andThen fun k cs => named fields k r cs).andThen fun r cs =>
          readMembers fields r false fuel cs
      else .error (.next .expectedObjectEnd (c :: cs))
    | [] => .error (.next .endOfObject [])

/-- Reads the items of an array, all fields in order, up to its bracket. -/
def readItems {ρ : Type} : List (String × FieldReader ρ) → (r : ρ) → (first : Bool) →
    List Char → Read ρ
  | [], r, _, cs =>
    match skipBlanks cs with
    | ']' :: cs => .ok (r, cs)
    | cs => .error (.next .expectedListEnd cs)
  | (_, f) :: fields, r, first, cs =>
    match skipBlanks cs with
    | c :: cs =>
      if first then (f r (c :: cs)).andThen fun r cs => readItems fields r false cs
      else if c = ',' then (f r cs).andThen fun r cs => readItems fields r false cs
      else .error (.next .expectedListEnd (c :: cs))
    | [] => .error (.next .endOfList [])

/-- Reads a record from an object or from an array of all fields. -/
def readRecord {ρ : Type} (fields : List (String × FieldReader ρ)) (start : ρ) (cs : List Char) :
    Read ρ :=
  match skipBlanks cs with
  | '\x7b' :: cs => readMembers fields start true (cs.length + 1) cs
  | '[' :: cs => readItems fields start true cs
  | cs => .error (.next .expectedValue cs)

/-- A task that is being read: a field is there once it has been read. -/
structure PartialTask where
  kind : Option String := none
  method : Option String := none
  data : Option (Option Value) := none

/-- A value that may be null. -/
def readData (depth : Nat) (cs : List Char) : Read (Option Value) :=
  (Json.value depth cs).as fun v =>
    match v with
    | .null => none
    | v => some v

/-- The fields of a task; its values nest at most `depth` deep. -/
def taskFields (depth : Nat) : List (String × FieldReader PartialTask) :=
  [("type", once (·.kind) (fun s t => { t with kind := some s }) readString),
    ("methodName", once (·.method) (fun s t => { t with method := some s }) readString),
    ("data", once (·.data) (fun v t => { t with data := some v }) (readData depth))]

/-- Reads a task; only its data may be missing. -/
def readTask (depth : Nat) (cs : List Char) : Read Task :=
  (readRecord (taskFields depth) {} cs).andThen fun t rest =>
    match t.kind, t.method with
    | some kind, some method => .ok (⟨kind, method, t.data.join⟩, rest)
    | _, _ => .error (.here .endOfObject cs)

/-- An envelope that is being read. -/
structure PartialEnvelope where
  frameId : Option String := none
  kind : Option String := none
  task : Option Task := none

/-- The fields of an envelope. -/
def fields (depth : Nat) : List (String × FieldReader PartialEnvelope) :=
  [("frameId", once (·.frameId) (fun s e => { e with frameId := some s }) readString),
    ("type", once (·.kind) (fun s e => { e with kind := some s }) readString),
    ("data", once (·.task) (fun t e => { e with task := some t }) (readTask depth))]

/-- Reads an envelope; no field may be missing. -/
def read (cs : List Char) : Read Envelope :=
  (readRecord (fields (Json.depthLimit - 2)) {} cs).andThen fun e rest =>
    match e.frameId, e.kind, e.task with
    | some frameId, some kind, some task => .ok (⟨frameId, kind, task⟩, rest)
    | _, _, _ => .error (.here .endOfObject cs)

/-- The envelope that a text writes, if it writes one. -/
def parse (text : String) : Option Envelope := (Json.whole read text.toList).toOption

end Envelope

end FrameHost
