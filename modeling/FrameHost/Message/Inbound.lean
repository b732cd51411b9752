import FrameHost.Error
import FrameHost.Json.Reader

/-!
# Inbound messages

What the application posts to its host: replies, events, commands and errors, as JSON text. Decoding
never fails; a text that is no message becomes an error message addressed to no frame of the host's.
-/

namespace FrameHost

open Json (Value)

/-- The kind of an inbound message. -/
inductive MessageKind where
  /-- The answer to the call in flight. -/
  | methodReturn
  /-- An event for one of the host's handlers. -/
  | eventReturn
  /-- A command for the frame. -/
  | callCommand
  /-- An error of the application. -/
  | error
  /-- A kind that has no name. -/
  | other (name : String)
deriving DecidableEq, Repr, Inhabited

namespace MessageKind

/-- The name of a kind in a message. -/
def name : MessageKind → String
  | methodReturn => "onMethodReturn"
  | eventReturn => "onEventReturn"
  | callCommand => "onCallCommand"
  | error => "error"
  | other s => s

/-- The kind with a name. -/
def ofName (s : String) : MessageKind :=
  if s = methodReturn.name then methodReturn
  else if s = eventReturn.name then eventReturn
  else if s = callCommand.name then callCommand
  else if s = error.name then error
  else other s

end MessageKind

/-- An event of the application. -/
structure EventReturn where
  event : String
  data : Option Value
deriving Repr, Inhabited

/-- An error that the application reports. -/
structure ReportedError where
  message : String
  code : Option Int
deriving Repr, Inhabited

/-- A message of the application. -/
structure Inbound where
  /-- The frame it is addressed to; empty if it names none. -/
  frameId : String
  kind : MessageKind
  commandName : Option String
  commandData : Option Value
  returnData : Option Value
  event : Option EventReturn
  error : Option ReportedError
deriving Repr, Inhabited

namespace Inbound

/-- The message without members. -/
def blank : Inbound := ⟨"", .other "", none, none, none, none, none⟩

/-! ## Messages for what is no message -/

/-- The frame ID of an undecodable message. -/
def parseErrorFrame : String := "error"

/-- The command name of an undecodable message. -/
def parseErrorCommand : String := "parseMessageData"

/-- The message that stands for an undecodable text. -/
def parseError (detail : String) : Inbound :=
  { blank with
    frameId := parseErrorFrame
    kind := .error
    commandName := some parseErrorCommand
    error := some ⟨detail, none⟩ }

/-- Whether the message stands for an undecodable text. -/
def isParseError (m : Inbound) : Bool :=
  m.frameId == parseErrorFrame && m.commandName == some parseErrorCommand

/-- The text of the error that the message carries. -/
def errorMessage (m : Inbound) : Option String := m.error.map ReportedError.message

/-! ## Shapes -/

/-- An event: `event` is required. -/
def eventShape : Value → Json.Shaped EventReturn :=
  Json.asRecord "EventReturn"
    [⟨"event", fun v r => (Json.asString v).map fun s => { r with event := s }⟩,
      ⟨"data", fun v r => (Json.asOption .ok v).map fun d => { r with data := d }⟩]
    (some "event") ⟨"", none⟩

/-- A reported error: nothing is required. -/
def errorShape : Value → Json.Shaped ReportedError :=
  Json.asRecord "BusError"
    [⟨"message", fun v r => (Json.asString v).map fun s => { r with message := s }⟩,
      ⟨"code", fun v r => (Json.asOption Json.asSigned64 v).map fun n => { r with code := n }⟩]
    none ⟨"", none⟩

/-- The members of a message. -/
def fields : List (Json.Field Inbound) :=
  [⟨"frameId", fun v m =>
      (Json.asOption Json.asString v).map fun s => { m with frameId := s.getD "" }⟩,
    ⟨"type", fun v m => (Json.asString v).map fun s => { m with kind := .ofName s }⟩,
    ⟨"commandName", fun v m =>
      (Json.asOption Json.asString v).map fun s => { m with commandName := s }⟩,
    ⟨"commandData", fun v m => (Json.asOption .ok v).map fun d => { m with commandData := d }⟩,
    ⟨"methodReturnData", fun v m =>
      (Json.asOption .ok v).map fun d => { m with returnData := d }⟩,
    ⟨"eventReturnData", fun v m =>
      (Json.asOption eventShape v).map fun e => { m with event := e }⟩,
    ⟨"error", fun v m => (Json.asOption errorShape v).map fun e => { m with error := e }⟩]

/-! ## Decoding -/

/-- The longest excerpt of a refused text, in characters. -/
def excerptLimit : Nat := 256

/-- The beginning of a refused text. -/
def excerpt (text : String) : String :=
  if text.length ≤ excerptLimit then text
  else String.ofList (text.toList.take excerptLimit) ++ "…"

/-- Why a text is no message. -/
inductive Refusal where
  | notJson (e : Json.SyntaxError)
  | notObject
  | malformed (e : Json.Mismatch)
deriving Repr

/-- The detail of a refusal, with an excerpt of the text. -/
def Refusal.detail (text : String) : Refusal → String
  | .notJson e => "invalid JSON (" ++ e.message ++ "): " ++ excerpt text
  | .notObject => "expected an object: " ++ excerpt text
  | .malformed e => "malformed message (" ++ e.message ++ "): " ++ excerpt text

/-- The message that a text writes. -/
def read (text : String) : Except Refusal Inbound :=
  match Value.parse text with
  | .error e => .error (.notJson e)
  | .ok (.object ms) => (Json.setMembers fields ms blank).mapError .malformed
  | .ok _ => .error .notObject

/-- The message that a text writes, or the one that says why it writes none. -/
def decode (text : String) : Inbound :=
  match read text with
  | .ok m => m
  | .error r => parseError (r.detail text)

end Inbound

end FrameHost
