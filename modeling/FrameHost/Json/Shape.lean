import FrameHost.Json.Printer
import FrameHost.Text.Quoted

/-!
# The shape of a value

Reading a value as something of a given shape: a string, a number of a given width, a record. The
first part that does not fit is the answer otherwise. A record is an object with named members, or
an array of its fields in order.
-/

namespace FrameHost.Json

/-- What a part of a value was expected to be. -/
inductive Expected where
  | string
  | signed64
  | unsigned8
  | boolean
  | sequence
  | record (name : String)
deriving DecidableEq, Repr

/-- The wording of an expectation. -/
def Expected.phrase : Expected → String
  | .string => "a string"
  | .signed64 => "i64"
  | .unsigned8 => "u8"
  | .boolean => "a boolean"
  | .sequence => "a sequence"
  | .record name => "struct " ++ name

/-- Why a value does not have a shape. -/
inductive Mismatch where
  /-- A value of the wrong kind. -/
  | kind (found : Value) (expected : Expected)
  /-- A number out of the range of its kind. -/
  | range (found : Value) (expected : Expected)
  /-- A record without one of its members. -/
  | missing (field : String)
  /-- An array too short for a record. -/
  | short (length : Nat) (record : String) (fields : Nat)
  /-- An array too long for a record. -/
  | long (length : Nat)
deriving Repr

/-- The wording for a value that was found. -/
def Value.describe : Value → String
  | .null => "null"
  | .bool b => "boolean `" ++ (if b then "true" else "false") ++ "`"
  | .number (.int n) => "integer `" ++ (Number.int n).text ++ "`"
  | .number (.double x) => "floating point `" ++ (Number.double x).text ++ "`"
  | .string s => "string " ++ Text.quoted s
  | .array _ => "sequence"
  | .object _ => "map"

/-- The wording of a mismatch. -/
def Mismatch.message : Mismatch → String
  | .kind found expected => "invalid type: " ++ found.describe ++ ", expected " ++ expected.phrase
  | .range found expected => "invalid value: " ++ found.describe ++ ", expected " ++ expected.phrase
  | .missing field => "missing field `" ++ field ++ "`"
  | .short length record fields =>
    "invalid length " ++ toString length ++ ", expected struct " ++ record ++ " with " ++
      toString fields ++ " elements"
  | .long length =>
    "invalid length " ++ toString length ++ ", expected fewer elements in array"

/-- A value read as something, or the part that does not fit. -/
abbrev Shaped (α : Type) := Except Mismatch α

/-! ## Shapes -/

/-- A string. -/
def asString : Value → Shaped String
  | .string s => .ok s
  | v => .error (.kind v .string)

/-- A truth value. -/
def asBool : Value → Shaped Bool
  | .bool b => .ok b
  | v => .error (.kind v .boolean)

/-- An integer between two bounds. -/
def asInt (expected : Expected) (lo hi : Int) : Value → Shaped Int
  | .number (.int n) =>
    if lo ≤ n ∧ n ≤ hi then .ok n else .error (.range (.number (.int n)) expected)
  | v => .error (.kind v expected)

/-- A signed integer of 64 bits. -/
def asSigned64 : Value → Shaped Int := asInt .signed64 (-9223372036854775808) 9223372036854775807

/-- An unsigned integer of 8 bits. -/
def asUnsigned8 : Value → Shaped Int := asInt .unsigned8 0 255

/-- Nothing for null. -/
def asOption {α : Type} (shape : Value → Shaped α) : Value → Shaped (Option α)
  | .null => .ok none
  | v => (shape v).map some

/-- Every item of a list, in order. -/
def asEach {α : Type} (shape : Value → Shaped α) : List Value → Shaped (List α)
  | [] => .ok []
  | v :: vs =>
    match shape v with
    | .error e => .error e
    | .ok a => (asEach shape vs).map (a :: ·)

/-- A list. -/
def asList {α : Type} (shape : Value → Shaped α) : Value → Shaped (List α)
  | .array vs => asEach shape vs
  | v => .error (.kind v .sequence)

/-! ## Records -/

/-- A field of a record: its name, and how its value changes the record. -/
structure Field (ρ : Type) where
  name : String
  set : Value → ρ → Shaped ρ

/-- The fields named by the members of an object, each in the order of the members; other members
do not count. -/
def setMembers {ρ : Type} (fields : List (Field ρ)) : List (String × Value) → ρ → Shaped ρ
  | [], r => .ok r
  | (k, v) :: ms, r =>
    match fields.find? fun f => f.name = k with
    | none => setMembers fields ms r
    | some f =>
      match f.set v r with
      | .error e => .error e
      | .ok r => setMembers fields ms r

/-- The fields of a record from the items of an array. -/
def setItems {ρ : Type} : List (Field ρ) → List Value → ρ → Shaped ρ
  | f :: fs, v :: vs, r =>
    match f.set v r with
    | .error e => .error e
    | .ok r => setItems fs vs r
  | _, _, r => .ok r

/-- A record: `fields` in order, of which the first is required if `required` says so. -/
def asRecord {ρ : Type} (name : String) (fields : List (Field ρ)) (required : Option String)
    (start : ρ) : Value → Shaped ρ
  | .object ms =>
    -- The members are read first, so one that does not fit is met before one that is missing.
    match setMembers fields ms start with
    | .error e => .error e
    | .ok r =>
      match required with
      | none => .ok r
      | some k => if (Value.member? k ms).isSome then .ok r else .error (.missing k)
  | .array vs =>
    if vs = [] ∧ required.isSome then .error (.short 0 name fields.length)
    else
      -- Likewise the items are read before their number counts.
      match setItems fields vs start with
      | .error e => .error e
      | .ok r => if fields.length < vs.length then .error (.long vs.length) else .ok r
  | v => .error (.kind v (.record name))

end FrameHost.Json
