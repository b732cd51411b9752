import FrameHost.Host.Check
import FrameHost.Host.Dispatch
import FrameHost.Session.Answer

/-!
# Sessions

A session is a host with names for its frames, buses and calls, the host code that may run, and an
agenda: the jobs still to be done, the next one first. Host code never runs inside a job; a job that
calls it puts its operations at the front of the agenda.
-/

namespace FrameHost

open Json (Value)

/-- Something that a name stands for and that will be asked for its answer. -/
inductive Held where
  | call (c : Call)
  /-- A check of the allow-list that runs only while it is asked. -/
  | check (frame : FrameRef) (state : CheckState)

/-- A job on the agenda. -/
inductive Job where
  /-- An operation; `nested` if host code carries it out. -/
  | act (nested : Bool) (a : Action)
  /-- Writes the last answer down under a tag. -/
  | note (tag : String)
  /-- A panic: jobs are dropped up to where it ends. -/
  | raise
  /-- A panic ends here. -/
  | fence
  /-- Host code is called; its panics go on. -/
  | invoke (cb : Callback) (v : Value)
  /-- What an operation on the host has left to be done. -/
  | follow (f : Followup)
  /-- Nothing; up to here the frame is in use. -/
  | hold (frame : FrameRef)
  /-- A hook on the loading of an iframe. -/
  | loaded (hook : LoadHook)
  /-- The next hook on a paint, after so many. -/
  | paint (ran : Nat)
  /-- A hook on a paint. -/
  | painted (hook : PaintHook)
  /-- A message reaches a listener. -/
  | deliver (l : Listener) (origin : String) (data : Value)
  /-- The next check that can run by itself, from a place in their list on. -/
  | sweep (start : Nat)
  /-- A call gets its name. -/
  | keep (name : String) (c : Call)
  /-- The answer of the operation in progress. -/
  | reply (a : Answer)

/-- A session. -/
structure Session where
  host : Host
  /-- The names of frames. -/
  frames : Table String FrameRef := Table.empty
  /-- The names of buses. -/
  buses : Table String Nat := Table.empty
  /-- The names of calls. -/
  calls : Table String Held := Table.empty
  /-- What each piece of host code does when it is called next. -/
  scripts : List (List Action) := []
  /-- What was written down, the oldest first. -/
  records : List Record := []
  /-- The last answer. -/
  answer : Answer := .done
  agenda : List Job := []

namespace Job

/-- The frame that a job keeps in use. -/
def frame? : Job → Option FrameRef
  | .hold f => some f
  | .follow x => x.frame?
  | _ => none

/-- Whether a job works on a bus of the session's own. -/
def usesBus (n : Nat) : Job → Bool
  | .follow (.postNext r) => r = .bare n
  | _ => false

end Job

/-- The frame that something held keeps in use. -/
def Held.frame? : Held → Option FrameRef
  | .check f _ => some f
  | .call _ => none

/-- The frame that a check keeps in use: one that has begun and waits does. -/
def Spawned.frame? (c : Spawned) : Option FrameRef :=
  match c.state with
  | .waiting _ => some c.frame
  | .fresh | .ended => none

namespace Session

/-! ## What is in use -/

/-- Whether a frame is in use; hooks and listeners do nothing for a frame that is not. -/
def isLive (s : Session) (f : FrameRef) : Bool :=
  s.frames.values.contains f || s.host.registry.values.contains f ||
    s.calls.values.any (fun held => held.frame? = some f) ||
    s.host.checks.any (fun c => c.frame? = some f) ||
    s.agenda.any (fun job => job.frame? = some f)

/-- Whether a bus of the session's own is in use. -/
def isLiveBus (s : Session) (n : Nat) : Bool :=
  s.buses.values.contains n || s.agenda.any (Job.usesBus n)

/-- Whether the reply to a call can still come. -/
def isAwaited (s : Session) (id : ChannelId) : Bool :=
  ((List.range s.host.frames.length).any fun f =>
    s.isLive f && ((s.host.bus? (.frame f)).map fun b => b.awaits id).getD false) ||
  ((List.range s.host.buses.length).any fun n =>
    s.isLiveBus n && ((s.host.bus? (.bare n)).map fun b => b.awaits id).getD false)

/-! ## Small changes -/

/-- The session with jobs at the front of its agenda. -/
def push (s : Session) (jobs : List Job) : Session := { s with agenda := jobs ++ s.agenda }

/-- The session with an answer. -/
def reply (s : Session) (a : Answer) : Session := { s with answer := a }

/-- The session that refuses an operation. -/
def refuse (s : Session) (e : BadRequest) : Session := s.reply (.refused e)

/-- The session with another host. -/
def withHost (s : Session) (h : Host) : Session := { s with host := h }

/-- The session with another page. -/
def withPage (s : Session) (p : Page) : Session := s.withHost { s.host with page := p }

/-- The session with one more record. -/
def record (s : Session) (r : Record) : Session := { s with records := s.records ++ [r] }

/-- The session with a name for something held. -/
def keep (s : Session) (name : String) (held : Held) : Session :=
  { s with calls := s.calls.insert name held }

/-- The session without something held. -/
def drop (s : Session) (name : String) : Session := { s with calls := s.calls.erase name }

/-- The session with a frame in use for what follows from an operation on it, which is then done. -/
def follow (s : Session) (f : FrameRef) (followups : List Followup) (rest : List Job) : Session :=
  s.push (followups.map .follow ++ .hold f :: rest)

/-! ## Names -/

/-- The node that a name stands for. -/
def nodeId (s : Session) : NodeName → NodeId
  | .node n => n
  | .iframeOf name => ((s.frames.get? name).bind s.host.frame?).bind Frame.iframe? |>.getD 0
  | .loaderOf name => ((s.frames.get? name).bind s.host.frame?).bind Frame.loader? |>.getD 0

/-- The cache that a name stands for. -/
def cacheRef? (s : Session) : CacheName → Option CacheRef
  | .spare => some .spare
  | .shared => some .shared
  | .frame name => ((s.frames.get? name).bind s.host.frame?).map Frame.cache

/-- Goes on with the frame that a name stands for. -/
def onFrame (s : Session) (name : String) (go : FrameRef → Session) : Session :=
  match s.frames.get? name with
  | none => s.refuse .noFrame
  | some f => go f

/-- Goes on with the bus that a name stands for. -/
def onBus (s : Session) (name : String) (go : Nat → Bus → Session) : Session :=
  match (s.buses.get? name).bind fun n => (s.host.buses[n]?).map fun b => (n, b) with
  | none => s.refuse .noBus
  | some (n, b) => go n b

/-- Goes on with a cache, and with the configuration that a place in it is found by. -/
def onCache (s : Session) (name : CacheName) (go : CacheRef → Session) : Session :=
  match s.cacheRef? name with
  | none => s.refuse .noFrame
  | some r => go r

/-- Goes on with a configuration. -/
def onConfig (s : Session) (config : Configuration) (go : Config → Session) : Session :=
  match config with
  | .error e => s.reply (.error e)
  | .ok c => go c

end Session

end FrameHost
