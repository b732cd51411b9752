import FrameHost.Host.Calls
import FrameHost.Host.Loading
import FrameHost.Message.Inbound

/-!
# Dispatch

What a frame does with a message: a reply goes to the oldest pending call, an event to its handler,
a command is carried out, an error is reported. A message for another frame does nothing.
-/

namespace FrameHost.Host

open Json (Value)

/-- Carries out a command of a frame; an unknown one does nothing. -/
def runCommand (h : Host) (f : FrameRef) (name : String) (data : Value) : Host × List Followup :=
  match (h.frame? f).bind fun frame => frame.commands.get? name with
  | none => (h, [])
  -- The commands that every frame has.
  | some .showContent => h.showContent f
  | some .destroy => (h.destroy f, [])
  | some (.host cb) => (h, [.invoke cb data])
  | some .configure =>
    match Config.ofValue data with
    | .error e => (h, h.report f e)
    | .ok patch =>
      let (h, _, followups) := h.configure f patch
      (h, followups)

/-- What an error without a text is reported as. -/
def unknownError : String := "Unknown error"

/-- Does what a message asks of the frame that it is addressed to. -/
def dispatch (h : Host) (f : FrameRef) (m : Inbound) : Host × List Followup :=
  match m.kind with
  -- A reply names no call, so the oldest one gets it.
  | .methodReturn => h.reply (.frame f) m.returnData
  | .eventReturn =>
    match m.event with
    | none => (h, [])
    | some event => (h, h.emit f event.event (event.data.getD Value.emptyObject))
  | .callCommand => h.runCommand f (m.commandName.getD "") (orNull m.commandData)
  | .error => (h, h.emit f Event.appError (.string (m.errorMessage.getD unknownError)))
  | .other _ => (h, [])

/-- Handles the data of a message event: only the text of a message for this frame counts. -/
def handle (h : Host) (f : FrameRef) (data : Value) : Host × List Followup :=
  match h.frame? f, data.string? with
  | some frame, some text =>
    let m := Inbound.decode text
    if m.frameId = frame.frameId then h.dispatch f m else (h, [])
  | _, _ => (h, [])

/-- Registers a command of the host for a frame. -/
def registerCommand (h : Host) (f : FrameRef) (name : String) (cb : Callback) : Except Error Host :=
  match h.frame? f with
  | none => .ok h
  | some frame =>
    (frame.commands.register name cb).map fun commands =>
      h.modifyFrame f fun frame => { frame with commands }

end FrameHost.Host
