import FrameHost.Session.Basic

/-!
# Operations on caches and buses

The session looks into the caches, and has buses of its own besides those of the frames.
-/

namespace FrameHost.Session

open Json (Value)

/-! ## Caches -/

/-- Carries out an operation on a cache. -/
def actCache (s : Session) (name : CacheName) (a : CacheAction) : Session :=
  s.onCache name fun r =>
    let cache := s.host.cache r
    let kept (c : Cache) : Session := s.withHost (s.host.setCache r c)
    match a with
    | .path config build =>
      s.onConfig config fun c =>
        let (path, after) := cache.path c.pathKey build
        (kept after).reply (.path path !(cache.hasPath c.pathKey))
    | .iframe config look =>
      s.onConfig config fun c =>
        let (look, after) := cache.iframe c.lookKey look
        (kept after).reply (.style look)
    | .loader config look =>
      s.onConfig config fun c =>
        let (look, after) := cache.loader c.lookKey look
        (kept after).reply (.loader look)
    | .forget frameId =>
      let after := cache.forgetPaths frameId
      (kept after).reply (.count (cache.pathCount - after.pathCount))
    | .has config => s.onConfig config fun c => s.reply (.bool (cache.hasPath c.pathKey))
    | .count => s.reply (.count cache.pathCount)

/-! ## Buses -/

/-- The session with a bus of its own replaced. -/
def setBus (s : Session) (n : Nat) (b : Bus) : Session := s.withHost (s.host.setBus (.bare n) b)

/-- Gives a task to a bus; a call to be kept is kept even if the bus refuses the task. -/
def executeBus (s : Session) (n : Nat) (task : Task) (receiver : Receiver) : Session :=
  let (s, responder) :=
    match receiver with
    | .callback cb => (s, Responder.callback cb)
    | .ignore => (s, .ignore)
    -- The call has its name before the bus is asked.
    | .call name =>
      let (h, channel) := s.host.newChannel
      ((s.withHost h).keep name (.call (.waiting channel)), .channel channel)
  match s.host.execute (.bare n) task responder with
  | .error e => s.reply (.error e)
  | .ok h => (s.withHost h).reply .ok

/-- Carries out an operation on a bus of the session's own. -/
def actBus (s : Session) (name : String) (a : BusAction) : Session :=
  match a with
  | .make =>
    let (h, n) := s.host.newBus
    ({ s.withHost h with buses := s.buses.insert name n }).reply .done
  | .attach frameId node origin =>
    s.onBus name fun n b => (s.setBus n (b.attach frameId ⟨s.nodeId node, origin⟩)).reply .done
  | .connect => s.onBus name fun n b => (s.setBus n b.connect).reply (.bool b.connect.connected)
  | .reset => s.onBus name fun n b => (s.setBus n b.reset).reply .done
  | .execute method data receiver =>
    s.onBus name fun n _ => s.executeBus n (Task.call method data) receiver
  | .reply data =>
    s.onBus name fun n _ =>
      let (h, followups) := s.host.reply (.bare n) data
      (s.withHost h).push (followups.map .follow ++ [.reply .done])

end FrameHost.Session
