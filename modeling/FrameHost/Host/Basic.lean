import FrameHost.Frame.Basic
import FrameHost.Origin.AllowList
import FrameHost.Page.Basic

/-!
# Hosts

A host is a page, the frames on it and what the frames share. An operation on a host takes effect at
once; host code that it leads to, and what is to happen after that code, it only lists. So whatever
host code does falls between two operations.
-/

namespace FrameHost

open Json (Value)

/-! ## Types -/

/-- What a check of the allow-list knows once it has begun. -/
structure Check where
  frame : FrameRef
  /-- The origin of the application. -/
  src : String
  /-- The generation of the frame. -/
  generation : Nat
deriving DecidableEq, Repr

/-- How far a check has come. -/
inductive CheckState where
  | fresh
  /-- The allow-list was asked for. -/
  | waiting (check : Check)
  | ended
deriving DecidableEq, Repr

/-- A check that runs by itself. -/
structure Spawned where
  frame : FrameRef
  state : CheckState := .fresh
  /-- Whether the mount it belongs to is over. -/
  aborted : Bool := false
deriving DecidableEq, Repr

/-- The allow-list of an application, and whether fetching it waits for a gate. -/
structure AllowList where
  policy : Origin.Policy
  gated : Bool
  /-- What compiles the entries. -/
  engine : Origin.Engine := .standard

/-- A bus, by its owner. -/
inductive BusRef where
  | frame (frame : FrameRef)
  /-- A bus of the host's own. -/
  | bare (n : Nat)
deriving DecidableEq, Repr

/-- A host. -/
structure Host where
  page : Page
  /-- Every frame ever made. -/
  frames : List Frame := []
  /-- The buses that the host made for itself. -/
  buses : List Bus := []
  /-- The registered frames, by frame ID. -/
  registry : Table String FrameRef := Table.empty
  caches : Table CacheRef Cache := Table.empty
  /-- What lies under the configuration of every registered frame. -/
  defaults : Config := Config.empty
  /-- The allow-list, if it is checked at all. -/
  allowList : Option AllowList := none
  gateOpen : Bool := true
  /-- Whether checks can run by themselves. -/
  runtime : Bool := false
  /-- The checks that run by themselves, in the order in which they were started. -/
  checks : List Spawned := []
  /-- The replies that were delivered. -/
  replies : Table ChannelId Value := Table.empty
  /-- The channel opened last. -/
  lastChannel : ChannelId := 0

/-- What an operation leaves to be done. -/
inductive Followup where
  /-- Host code is called; its panics are swallowed. -/
  | invoke (cb : Callback) (v : Value)
  /-- The content of a frame is shown. -/
  | showContent (frame : FrameRef)
  /-- The next deferred task of a bus is posted. -/
  | postNext (bus : BusRef)
deriving Repr

/-- The frame that something left to be done works on. -/
def Followup.frame? : Followup → Option FrameRef
  | .invoke _ _ => none
  | .showContent frame => some frame
  | .postNext (.frame frame) => some frame
  | .postNext (.bare _) => none

namespace Host

/-- A host with a page, if there is a page. -/
def ofPage? (page : Option Page) : Except Error Host :=
  match page with
  | none => .error .noSurface
  | some page => .ok { page }

/-! ## Frames -/

/-- A frame. -/
def frame? (h : Host) (f : FrameRef) : Option Frame := h.frames[f]?

/-- The host with a frame passed through `g`. -/
def modifyFrame (h : Host) (f : FrameRef) (g : Frame → Frame) : Host :=
  { h with frames := h.frames.modify f g }

/-- The host with one more frame, and its number. -/
def addFrame (h : Host) (frame : Frame) : Host × FrameRef :=
  ({ h with frames := h.frames ++ [frame] }, h.frames.length)

/-- The host with a frame that stands alone, and its number. -/
def newFrame (h : Host) (checks : Bool) : Host × FrameRef :=
  h.addFrame
    { cache := .own h.frames.length, registers := false, checks := checks && h.allowList.isSome }

/-! ## The registry -/

/-- The host with a frame registered, unless its ID is taken or it keeps out of the registry. -/
def register (h : Host) (f : FrameRef) : Host :=
  match h.frame? f with
  | none => h
  | some frame =>
    if frame.registers && !h.registry.contains frame.frameId then
      { h with registry := h.registry.insert frame.frameId f }
    else h

/-- The host with the registration of a frame under `frameId` removed, if that is what it is. -/
def deregister (h : Host) (f : FrameRef) (frameId : String) : Host :=
  if h.registry.get? frameId = some f then { h with registry := h.registry.erase frameId } else h

/-! ## Caches -/

/-- A cache. -/
def cache (h : Host) (r : CacheRef) : Cache := (h.caches.get? r).getD {}

/-- The host with a cache replaced. -/
def setCache (h : Host) (r : CacheRef) (c : Cache) : Host :=
  { h with caches := h.caches.insert r c }

/-! ## Buses -/

/-- A bus. -/
def bus? (h : Host) : BusRef → Option Bus
  | .frame f => (h.frame? f).map Frame.bus
  | .bare n => h.buses[n]?

/-- The host with a bus replaced. -/
def setBus (h : Host) (r : BusRef) (b : Bus) : Host :=
  match r with
  | .frame f => h.modifyFrame f fun frame => { frame with bus := b }
  | .bare n => { h with buses := h.buses.set n b }

/-- The host with one more bus of its own, and its number. -/
def newBus (h : Host) : Host × Nat := ({ h with buses := h.buses ++ [{}] }, h.buses.length)

/-! ## Host code -/

/-- The call of the handler that a frame has for an event, if it has one. -/
def emit (h : Host) (f : FrameRef) (event : String) (v : Value) : List Followup :=
  (((h.frame? f).bind fun frame => frame.handler? event).map fun cb => .invoke cb v).toList

/-- The report of an error to the handler for errors. -/
def report (h : Host) (f : FrameRef) (e : Error) : List Followup :=
  h.emit f Event.appError (.string e.appMessage)

/-- The announcement that the content of a frame can be seen. -/
def announceContent (h : Host) (f : FrameRef) : List Followup :=
  h.emit f Event.contentReady Value.emptyObject

end Host

end FrameHost
