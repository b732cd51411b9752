import FrameHost.Config.Setting
import FrameHost.Session.Basic

/-!
# Operations on frames

Frames by their names. A frame that is found by its name is in use until everything that follows
from the operation is done.
-/

namespace FrameHost.Session

open Json (Value)

/-- The iframe of a frame, as an answer. -/
def iframeAnswer (s : Session) (f : FrameRef) : Answer :=
  .node ((s.host.frame? f).bind Frame.iframe?)

/-- The session with a name for a frame. -/
def name (s : Session) (name : String) (f : FrameRef) : Session :=
  { s with frames := s.frames.insert name f }

/-- Mounts the registered frame that a configuration names. -/
def openFrame (s : Session) (name : String) (mode : Option Mode) (c : Config) : Session :=
  let c :=
    match mode with
    | none => c
    | some mode => c.apply (.mode mode)
  let (h, f) := s.host.openFrame c
  let s := (s.withHost h).name name f
  s.reply (s.iframeAnswer f)

/-- The names of a frame, in order. -/
def namesOf (s : Session) (f : FrameRef) : List String :=
  ((s.frames.entries.filter fun row => row.2 = f).map Prod.fst).mergeSort fun a b => decide (a ≤ b)

/-- The known events that a frame has a handler for. -/
def handledEvents (s : Session) (f : FrameRef) : List String :=
  match s.host.frame? f with
  | none => []
  | some frame => Event.known.filter fun event => (frame.handler? event).isSome

/-- The session with a call made by a frame: it gets its name once host code has run. -/
def made (s : Session) (f : FrameRef) (name : String) (result : Host × Call × List Followup) :
    Session :=
  let (h, c, followups) := result
  (s.withHost h).follow f followups [.keep name c, .reply (.made c.isSettled)]

/-- Carries out an operation on a frame. -/
def actFrame (s : Session) (a : FrameAction) : Session :=
  match a with
  | .openFrame name mode config => s.onConfig config fun c => s.openFrame name mode c
  | .newFrame name checks =>
    let (h, f) := s.host.newFrame checks
    ((s.withHost h).name name f).reply .done
  | .mount name config =>
    s.onFrame name fun f =>
      s.onConfig config fun c =>
        let (h, iframe) := s.host.mount f c
        (s.withHost h).reply (.node iframe)
  | .destroy name => s.onFrame name fun f => (s.withHost (s.host.destroy f)).reply .done
  | .showContent name =>
    s.onFrame name fun f =>
      let (h, followups) := s.host.showContent f
      (s.withHost h).follow f followups [.reply .done]
  | .configure name config call =>
    s.onFrame name fun f => s.onConfig config fun c => s.made f call (s.host.configure f c)
  | .getConfig name =>
    s.onFrame name fun f =>
      s.reply (.value (((s.host.frame? f).map fun frame => frame.config.toValue).getD .null))
  | .handlers name => s.onFrame name fun f => s.reply (.texts (s.handledEvents f))
  | .handle name data =>
    s.onFrame name fun f =>
      let (h, followups) := s.host.handle f data
      (s.withHost h).follow f followups [.reply .done]
  | .call name method call => s.onFrame name fun f => s.made f call (s.host.call f method)
  | .callByName name method params cb =>
    s.onFrame name fun f =>
      let (h, result, followups) := s.host.callByName f method params cb
      (s.withHost h).follow f followups [.reply (.outcome result)]
  | .registerCommand name command cb =>
    s.onFrame name fun f =>
      match s.host.registerCommand f command cb with
      | .error e => s.reply (.error e)
      | .ok h => (s.withHost h).reply .ok
  | .hasCommand name command =>
    s.onFrame name fun f =>
      let offers := (s.host.frame? f).map fun frame => frame.commands.contains command
      s.reply (.bool (offers.getD false))
  | .same name other =>
    s.onFrame name fun f => s.onFrame other fun g => s.reply (.bool (f = g))
  | .forget name =>
    ({ s with frames := s.frames.erase name }).reply (.bool (s.frames.contains name))
  | .namesOf frameId => s.reply (.names ((s.host.registry.get? frameId).map s.namesOf))

end FrameHost.Session
