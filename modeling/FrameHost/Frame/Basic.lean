import FrameHost.Bus
import FrameHost.Frame.Cache
import FrameHost.Frame.Commands
import FrameHost.Frame.Phase

/-!
# Frames

The state of one frame. Everything that waits for a frame carries the generation in which it began
to wait; mounting the frame and tearing it down begin a new generation.
-/

namespace FrameHost

/-- The nodes of a mounted frame. -/
structure Mounted where
  iframe : NodeId
  /-- The loader, until it is gone. -/
  loader : Option NodeId
  /-- What took the place of the host's element. -/
  container : NodeId
deriving DecidableEq, Repr, Inhabited

/-- A cache, by what it is for. -/
inductive CacheRef where
  /-- The cache of the registered frames. -/
  | shared
  /-- A cache of the host's, used by no frame. -/
  | spare
  /-- The cache of a frame that stands alone. -/
  | own (frame : FrameRef)
deriving DecidableEq, Repr, Inhabited

/-- The state of a frame. -/
structure Frame where
  config : Config := Config.empty
  phase : Phase := .uninitialized
  nodes : Option Mounted := none
  /-- The listener for the application's messages. -/
  listener : Option ListenerId := none
  /-- The class of the element whose place the frame takes. -/
  className : String := ""
  generation : Nat := 0
  /-- The check of the allow-list that was started for this mount, by its number. -/
  check : Option Nat := none
  bus : Bus := {}
  commands : Commands := Commands.builtin
  /-- Where its paths and looks are kept. -/
  cache : CacheRef
  /-- Whether the frame takes part in the registry. -/
  registers : Bool
  /-- Whether the allow-list of its application is checked. -/
  checks : Bool

namespace Frame

/-- The frame ID. -/
def frameId (f : Frame) : String := f.config.frameId

/-- The iframe, while the frame is mounted. -/
def iframe? (f : Frame) : Option NodeId := f.nodes.map Mounted.iframe

/-- The loader, while it is there. -/
def loader? (f : Frame) : Option NodeId := f.nodes.bind Mounted.loader

/-- The handler of an event. -/
def handler? (f : Frame) (event : String) : Option Callback := f.config.handler? event

/-- The frame at the beginning of its next generation: without nodes, listener, check and calls. -/
def released (f : Frame) : Frame :=
  { f with
    nodes := none
    listener := none
    check := none
    generation := f.generation + 1
    bus := f.bus.reset }

end Frame

end FrameHost
