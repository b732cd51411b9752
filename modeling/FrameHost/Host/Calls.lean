import FrameHost.Host.Mount

/-!
# Calls

Calls go out over the bus of a frame, or over a bus of the host's own. Who makes a call holds it
until it is answered; a call that the bus refuses is answered at once, and the refusal is reported.
-/

namespace FrameHost

open Json (Value)

/-- A call, as it is held by whoever made it. -/
inductive Call where
  /-- The reply comes through a channel. -/
  | waiting (channel : ChannelId)
  /-- The answer is there; it is gone once it has been asked for. -/
  | settled (answer : Option (Except Error Value))

/-- Whether a call was answered when it was made. -/
def Call.isSettled : Call → Bool
  | .waiting _ => false
  | .settled _ => true

namespace Host

/-! ## Sending -/

/-- The host after a task was given to a bus. -/
def execute (h : Host) (r : BusRef) (task : Task) (responder : Responder) : Except Error Host :=
  match h.bus? r with
  | none => .ok h
  | some bus =>
    match bus.execute task responder with
    -- A refused call changes nothing.
    | .error e => .error e
    | .ok (bus, posted) => .ok { h.setBus r bus with page := h.page.post? posted }

/-- The host with one more channel, and its number. -/
def newChannel (h : Host) : Host × ChannelId :=
  ({ h with lastChannel := h.lastChannel + 1 }, h.lastChannel + 1)

/-- Makes a call of a frame. -/
def call (h : Host) (f : FrameRef) (m : Method) : Host × Call × List Followup :=
  -- The channel is taken before the bus is asked.
  let (h, channel) := h.newChannel
  match h.execute (.frame f) (Task.ofMethod m) (.channel channel) with
  | .ok h => (h, .waiting channel, [])
  | .error e => (h, .settled (some (.error e)), h.report f e)

/-- Makes a call of a frame by its name on the wire; the reply goes to `cb`. -/
def callByName (h : Host) (f : FrameRef) (name : String) (params : Option Value) (cb : Callback) :
    Host × Except Error Unit × List Followup :=
  match h.execute (.frame f) (Task.call name params) (.callback cb) with
  | .ok h => (h, .ok (), [])
  | .error e => (h, .error e, h.report f e)

/-! ## Replies -/

/-- The host with the next deferred task of a bus posted. -/
def postNext (h : Host) (r : BusRef) : Host :=
  match h.bus? r with
  | none => h
  | some bus =>
    let (bus, posted) := bus.postNext
    { h.setBus r bus with page := h.page.post? posted }

/-- The host with a reply delivered, and what its receiver does. -/
def deliver (h : Host) (responder : Responder) (v : Value) : Host × List Followup :=
  match responder with
  | .channel id => ({ h with replies := h.replies.insert id v }, [])
  | .callback cb => (h, [.invoke cb v])
  | .ignore => (h, [])

/-- A reply arrives on a bus: the oldest pending call gets it, then the next task is posted. -/
def reply (h : Host) (r : BusRef) (data : Option Value) : Host × List Followup :=
  match h.bus? r with
  | none => (h, [])
  | some bus =>
    let (call, bus) := bus.answer
    let h := h.setBus r bus
    let (h, received) :=
      match call with
      | none => (h, [])
      | some call => h.deliver call.responder (data.getD Value.emptyObject)
    -- The receiver is done before the next task is posted.
    (h, received ++ [.postNext r])

/-! ## Configurations -/

/-- Lays `patch` over the configuration of a frame. A change that needs it mounts the frame again;
any other is sent to the application. -/
def configure (h : Host) (f : FrameRef) (patch : Config) : Host × Call × List Followup :=
  match h.frame? f with
  | none => (h, .settled none, [])
  | some frame =>
    if frame.phase.isMounted && frame.config.requiresReload patch then
      -- The mount itself merges the patch.
      let h := (h.mount f patch).1
      (h, .settled ((h.frame? f).map fun frame => .ok frame.config.toValue), [])
    else
      -- The application is told the whole configuration, not only the patch.
      let config := frame.config.merged patch
      let h := h.modifyFrame f fun frame => { frame with config }
      h.call f (.setConfig config.toValue)

end Host

end FrameHost
