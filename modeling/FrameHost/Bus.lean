import FrameHost.Error
import FrameHost.Message.Envelope
import FrameHost.Page.Node

/-!
# Message buses

Replies name no call, so a bus has at most one call on the way. The others wait: `pending` lists
every call without a reply, the oldest first, and `deferred` the tasks among them that have not been
posted yet. A reply belongs to the oldest pending call; answering it and posting the next deferred
task are separate steps, because the receiver of the reply runs in between and may use the bus.
-/

namespace FrameHost

open Json (Value)

/-- A place for the reply to one call, by its number. -/
abbrev ChannelId := Nat

/-- What gets the reply to a call. -/
inductive Responder where
  /-- Somebody who waits. -/
  | channel (id : ChannelId)
  | callback (cb : Callback)
  /-- Nobody. -/
  | ignore
deriving DecidableEq, Repr, Inhabited

/-- A call without a reply. -/
structure PendingCall where
  /-- The name of the call on the wire. -/
  method : String
  responder : Responder
deriving DecidableEq, Repr, Inhabited

/-- Where calls are posted. -/
structure Target where
  iframe : NodeId
  /-- The origin that the iframe must have to get them. -/
  origin : String
deriving DecidableEq, Repr, Inhabited

/-- The calls between a host and one iframe. -/
structure Bus where
  /-- The frame that envelopes are addressed to; it outlives the iframe. -/
  frameId : String := ""
  /-- Whether the iframe has loaded. -/
  connected : Bool := false
  /-- The iframe, if there is one. -/
  target : Option Target := none
  /-- The calls without a reply, the oldest first. -/
  pending : List PendingCall := []
  /-- The tasks not posted yet, the oldest first. -/
  deferred : List Task := []
deriving Inhabited

namespace Bus

/-- The bus with a new iframe, on behalf of a frame. -/
def attach (b : Bus) (frameId : String) (target : Target) : Bus := { b with frameId, target }

/-- The bus after its iframe has loaded. -/
def connect (b : Bus) : Bus := { b with connected := b.target.isSome }

/-- The bus without iframe and calls. -/
def reset (b : Bus) : Bus := { frameId := b.frameId }

/-- The message that carries a task to a target. -/
def message (b : Bus) (target : Target) (task : Task) : Posted where
  target := target.iframe
  payload := encode b.frameId task
  origin := target.origin

/-- Whether a task may be sent now: before the iframe has loaded only a configuration may. -/
def admits (b : Bus) (task : Task) : Bool := b.connected || task.isConfigUpdate

/-- The bus with a call added, and the message to post if nothing else is on the way. -/
def execute (b : Bus) (task : Task) (responder : Responder) : Except Error (Bus × Option Posted) :=
  if !b.admits task then .error (.notConnected b.frameId)
  else
    match b.target with
    | none => .error (.frameNotMounted b.frameId)
    | some target =>
      let called := { b with pending := b.pending ++ [⟨task.method, responder⟩] }
      -- Whether to post is told by the pending calls, not by the deferred tasks.
      if b.pending.isEmpty then .ok (called, some (b.message target task))
      else .ok ({ called with deferred := b.deferred ++ [task] }, none)

/-- The oldest pending call, and the bus without it. -/
def answer (b : Bus) : Option PendingCall × Bus :=
  (b.pending.head?, { b with pending := b.pending.tail })

/-- The bus without the oldest deferred task, and the message that carries it; a bus without iframe
keeps its tasks. -/
def postNext (b : Bus) : Bus × Option Posted :=
  match b.target, b.deferred with
  | some target, task :: tasks => ({ b with deferred := tasks }, some (b.message target task))
  | _, _ => (b, none)

/-- Whether a call that waits on a channel is pending. -/
def awaits (b : Bus) (id : ChannelId) : Bool :=
  b.pending.any fun call => call.responder = .channel id

end Bus

end FrameHost
