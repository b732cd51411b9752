import FrameHost.Json.Shape
import FrameHost.Json.Fault

/-!
# Errors

The errors that operations of the host return, their wording, and the wording that the host's own
error handler gets.
-/

namespace FrameHost

/-- Why a JSON text or value was refused. -/
inductive JsonError where
  | text (e : Json.SyntaxError)
  | shape (e : Json.Mismatch)
deriving Repr

/-- The wording of a refused JSON text or value. -/
def JsonError.message : JsonError → String
  | .text e => e.message
  | .shape e => e.message

/-- An error of the host. -/
inductive Error where
  /-- The configuration of the host or of a frame is unusable. -/
  | config (message : String)
  /-- An argument was refused. -/
  | invalidArgument (message : String)
  /-- A call was made while the bus of the frame was not connected. -/
  | notConnected (frameId : String)
  /-- A call was made while the frame had no iframe. -/
  | frameNotMounted (frameId : String)
  /-- The frame was torn down before it answered. -/
  | channelClosed
  /-- A rule of use was broken. -/
  | protocol (message : String)
  /-- A JSON text or value was refused. -/
  | json (e : JsonError)
  /-- The application does not allow itself to be embedded in pages of `origin`. -/
  | csp (origin message : String)
deriving Repr

namespace Error

/-- The wording of an error. -/
def message : Error → String
  | .config m => "Configuration error: " ++ m
  | .invalidArgument m => "Invalid argument: " ++ m
  | .notConnected frameId => "Message bus is not connected with frame: " ++ frameId
  | .frameNotMounted frameId => "Frame not mounted: " ++ frameId
  | .channelClosed => "Call dropped before a response arrived"
  | .protocol m => "Protocol error: " ++ m
  | .json e => "JSON error: " ++ e.message
  | .csp origin m => "CSP validation failed for " ++ origin ++ ": " ++ m

/-- The wording that the error handler of a frame gets. -/
def appMessage : Error → String
  | .notConnected _ => "Message bus is not connected with frame"
  | .csp _ m => m
  | e => e.message

/-- Whether the call never reached the frame or was dropped. -/
def isConnection : Error → Bool
  | .notConnected _ | .frameNotMounted _ | .channelClosed => true
  | _ => false

/-- A configuration that is not an object. -/
def configNotObject (v : Json.Value) : Error :=
  .invalidArgument ("configuration must be an object, got " ++ v.text)

/-- A command whose name is blank. -/
def blankCommand : Error := .invalidArgument "command name is empty"

/-- A command whose name is taken. -/
def commandTaken (name : String) : Error :=
  .invalidArgument ("command " ++ name ++ " is already registered")

/-- A call that was asked for its answer again. -/
def polledAgain : Error := .protocol "MethodCall polled after completion"

/-- A host without a page. -/
def noSurface : Error :=
  .config ("A surface is required. Use .surface() to set it.\n" ++
    "Example: Sdk::builder().surface(Arc::new(HeadlessSurface::new(origin)))")

/-- A page whose origin is not on the allow-list. -/
def originNotAllowed (origin : String) : Error :=
  .csp origin "The current domain is not set in the Content Security Policy (CSP) settings."

end Error

end FrameHost
