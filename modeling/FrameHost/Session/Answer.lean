import FrameHost.Session.Action

/-!
# Answers and records

What the operations of a session answer, and what is written down about the calls of host code.
-/

namespace FrameHost

open Json (Value)

/-- Why an operation is not carried out. -/
inductive BadRequest where
  | noFrame
  | noBus
  | noCall
  /-- Host code asked for checks to run. -/
  | nestedSettle
  | unknown (name : String)
deriving DecidableEq, Repr

/-- The wording of a bad request. -/
def BadRequest.message : BadRequest → String
  | noFrame => "no such frame"
  | noBus => "no such bus"
  | noCall => "no such call"
  | nestedSettle => "nested settle"
  | unknown name => "unknown do " ++ name

/-- The answer to an operation. -/
inductive Answer where
  | done
  | bool (b : Bool)
  | count (n : Nat)
  | text (s : String)
  | value (v : Value)
  | node (n : Option NodeId)
  | element (node : Option Node)
  | elements (nodes : List (NodeId × Node))
  | texts (ss : List String)
  | names (ss : Option (List String))
  | result (r : Except Error Value)
  /-- A call was made; whether it was answered at once. -/
  | made (isSettled : Bool)
  | pending
  /-- A call without an answer was dropped. -/
  | dropped
  /-- A path from a cache, and whether it was new there. -/
  | path (path : String) (built : Bool)
  | style (style : Style)
  | loader (look : Look.Loader)
  | refused (e : BadRequest)
  /-- Host code panicked. -/
  | panic

/-- Success without a value, as an answer. -/
def Answer.ok : Answer := .result (.ok .null)

/-- An error as an answer. -/
def Answer.error (e : Error) : Answer := .result (.error e)

/-- The answer to an operation that has succeeded or failed. -/
def Answer.outcome {α : Type} (r : Except Error α) : Answer := .result (r.map fun _ => .null)

/-- Something written down while an operation is carried out. -/
inductive Record where
  /-- Host code was called. -/
  | called (tag : String) (v : Value)
  /-- Host code carried out an operation. -/
  | answered (tag : String) (a : Answer)
  /-- The allow-list of the application at `src` was asked for. -/
  | fetched (src : String)

/-- What a record is filed under. -/
def Record.tag : Record → String
  | called tag _ => tag
  | answered tag _ => tag
  | fetched _ => "csp"

/-! ## Reading replies -/

/-- A user, as a reply describes one. -/
structure User where
  email : String
  age : Option Int

/-- A user: the address is required. -/
def User.shape : Value → Json.Shaped User :=
  Json.asRecord "User"
    [⟨"email", fun v u => (Json.asString v).map fun s => { u with email := s }⟩,
      ⟨"age", fun v u => (Json.asOption Json.asUnsigned8 v).map fun n => { u with age := n }⟩]
    (some "email") ⟨"", none⟩

/-- A user as a value. -/
def User.toValue (u : User) : Value :=
  Value.ofMembers [("email", .string u.email), ("age", orNull (u.age.map Value.int))]

/-- A reply read as something, and written as a value again. -/
def ReplyShape.read (v : Value) : ReplyShape → Json.Shaped Value
  | .strings => (Json.asList Json.asString v).map textsValue
  | .signed64 => (Json.asSigned64 v).map Value.int
  | .boolean => (Json.asBool v).map .bool
  | .user => (User.shape v).map User.toValue
  | .any => .ok v

end FrameHost
